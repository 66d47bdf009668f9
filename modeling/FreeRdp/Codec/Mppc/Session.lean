import FreeRdp.Codec.Mppc.RoundTrip

/-!
# MPPC sessions

Both contexts agree on the history after every packet, whether it was compressed or flushed, and
the decompressor has produced the packet. A session keeps this up for any number of packets.
-/

namespace FreeRdp

/-- The contexts of a compressor and of its decompressor between two packets. -/
structure MppcSync (c d : MppcContext) : Prop where
  compressionLevel : d.compressionLevel = c.compressionLevel
  history : d.historyBuffer = c.historyBuffer
  historyPtr : d.historyPtr = c.historyPtr
  entries : ∀ i, c.matchBuffer i < c.historyBufferSize
  outside : ∀ i, c.historyBufferSize ≤ i → c.historyBuffer i = 0
  /-- After a flush the history is empty and the next packet starts over. -/
  offset : c.historyOffset = c.historyPtr ∧ c.historyPtr < c.historyBufferSize ∨
    c.historyOffset = c.historyBufferSize + 1 ∧ ∀ i, c.historyBuffer i = 0

lemma MppcLevel.historyBufferSize_pos (level : MppcLevel) : 0 < level.historyBufferSize := by
  cases level <;> decide

lemma mppcSync_new (level : Nat) : MppcSync (mppcContextNew level) (mppcContextNew level) where
  compressionLevel := rfl
  history := rfl
  historyPtr := rfl
  entries _ := MppcLevel.historyBufferSize_pos _
  outside _ _ := rfl
  offset := .inl ⟨rfl, MppcLevel.historyBufferSize_pos _⟩

/-- The flags of a compressed packet. -/
lemma mppc_flags_compressed (level : MppcLevel) (atFront flushed : Bool) :
    let flags := PACKET_COMPRESSED ||| level.code ||| (if atFront then PACKET_AT_FRONT else 0) |||
      (if flushed then PACKET_FLUSHED else 0)
    flags &&& PACKET_COMPRESSED ≠ 0 ∧ (flags &&& PACKET_AT_FRONT ≠ 0 ↔ atFront = true) ∧
      (flags &&& PACKET_FLUSHED ≠ 0 ↔ flushed = true) := by
  cases level <;> cases atFront <;> cases flushed <;> decide

/-- The flags of a flushed packet. -/
lemma mppc_flags_flushed (level : MppcLevel) :
    (PACKET_FLUSHED ||| level.code) &&& PACKET_COMPRESSED = 0 ∧
      (PACKET_FLUSHED ||| level.code) &&& PACKET_AT_FRONT = 0 ∧
      (PACKET_FLUSHED ||| level.code) &&& PACKET_FLUSHED ≠ 0 := by
  cases level <;> decide

/-- The decompressor follows the symbols of a whole packet. -/
lemma mppcDecompressLoop_emitted {level : MppcLevel} {e e' : MppcEncoder} {f : Nat → Bool}
    {src : List UInt8} (hemits : MppcEmits level e e' (fun _ => false) f src)
    (hstart : e.bs.position = 0) (hfit : (e'.bs.position + 7) / 8 ≤ e'.bs.buffer.length)
    (hsmall : e'.bs.buffer.length < 2 ^ 29)
    (hroom : e.historyPtr + src.length < level.historyBufferSize) :
    mppcDecompressLoop level (level.historyBufferSize + 1)
        (WBitStream.attach (e'.bs.flush.buffer.take ((e'.bs.position + 7) / 8))).fetch
        e.mppc.historyBuffer e.historyPtr =
      (.ok (e.historyPtr + src.length), e'.mppc.historyBuffer) := by
  obtain ⟨out, hout⟩ : ∃ out, e'.bs.flush.buffer.take ((e'.bs.position + 7) / 8) = out := ⟨_, rfl⟩
  have hbits := hemits.wrote.bitsOf_flush hfit
  have hlength : out.length = (e'.bs.position + 7) / 8 := by
    rw [← hout, List.length_take, WBitStream.flush_length]
    omega
  rw [hout] at hbits ⊢
  obtain ⟨k, hk, hdecodes⟩ := hemits.decodes
  have hfetch := WBitStream.fetch_eq (WBitStream.attach out)
  have hbuffer : (WBitStream.attach out).fetch.buffer = out := by
    rw [hfetch]
    rfl
  obtain ⟨bs, -, hbuf, hpos, hrun⟩ := hdecodes (level.historyBufferSize - k + 1)
    (WBitStream.attach out).fetch (WBitStream.reads_attach out)
    (by rw [hfetch, hstart]; rfl) (fun i _ => by rw [hbuffer, hbits]) (by rw [hbuffer]; omega)
    (by rw [hbuffer]; omega) hroom.le
  have hend : ¬bs.remainingLength ≥ 8 := by
    rw [WBitStream.remainingLength, WBitStream.length, hbuf, hbuffer, hpos, hlength]
    omega
  rw [show level.historyBufferSize + 1 = level.historyBufferSize - k + 1 + k by omega, hrun,
    mppcDecompressLoop, if_neg hend, hemits.historyPtr]

/-- What the compressor sees of a packet that it compresses: the place in the history, and the
state after the last symbol. -/
lemma mppcCompress_cases {c c' : MppcContext} {src dst out : List UInt8} {flags : Nat}
    (h : mppcCompress c src dst = (out, flags, c')) :
    (out = src ∧ flags = PACKET_FLUSHED ||| c.compressionLevel.code ∧
        c' = mppcContextReset c true) ∨
      ∃ (atFront flushed : Bool) (e : MppcEncoder),
        (atFront = true ↔
          ¬(c.historyOffset + src.length < c.historyBufferSize - 3 ∧ c.historyOffset ≠ 0)) ∧
        (flushed = true ↔ atFront = true ∧ c.historyOffset = c.historyBufferSize + 1) ∧
        mppcEncode (min dst.length src.length) ⟨WBitStream.attach
          (dst.take (min dst.length src.length)), c, if atFront then 0 else c.historyOffset⟩ src =
            some e ∧
        out = e.bs.flush.buffer.take ((e.bs.position + 7) / 8) ∧
        flags = PACKET_COMPRESSED ||| c.compressionLevel.code |||
          (if atFront then PACKET_AT_FRONT else 0) ||| (if flushed then PACKET_FLUSHED else 0) ∧
        c' = { e.mppc with historyPtr := e.historyPtr, historyOffset := e.historyPtr } := by
  have hmin : (if dst.length > src.length then src.length else dst.length) =
      min dst.length src.length := by
    split <;> omega
  simp only [mppcCompress, hmin] at h
  split at h
  · simp only [Prod.mk.injEq] at h
    exact .inl ⟨h.1.symm, h.2.1.symm, h.2.2.symm⟩
  · rename_i e hencode
    simp only [Prod.mk.injEq] at h
    refine .inr ⟨_, _, e, ?_, ?_, hencode, h.1.symm, h.2.1.symm, h.2.2.symm⟩
    · exact decide_eq_true_iff
    · simp

section Flags

variable (mppc : MppcContext) (flags : Nat)

@[simp] lemma mppcApplyFlags_compressionLevel :
    (mppcApplyFlags mppc flags).compressionLevel = mppc.compressionLevel := by
  simp only [mppcApplyFlags]
  split <;> split <;> rfl

lemma mppcApplyFlags_historyPtr : (mppcApplyFlags mppc flags).historyPtr =
    if flags &&& PACKET_AT_FRONT ≠ 0 ∨ flags &&& PACKET_FLUSHED ≠ 0 then 0
    else mppc.historyPtr := by
  simp only [mppcApplyFlags]
  split <;> split <;> simp_all

lemma mppcApplyFlags_historyBuffer : (mppcApplyFlags mppc flags).historyBuffer =
    if flags &&& PACKET_FLUSHED ≠ 0 then
      fun i => if i < mppc.historyBufferSize then 0 else mppc.historyBuffer i
    else mppc.historyBuffer := by
  simp only [mppcApplyFlags]
  split <;> split <;> rfl

end Flags

/-- Flushing the decompressor clears a history that holds nothing outside of its size. -/
lemma mppcApplyFlags_flushed {c d : MppcContext} (hsync : MppcSync c d) {flags : Nat}
    (hflushed : flags &&& PACKET_FLUSHED ≠ 0) :
    (mppcApplyFlags d flags).historyBuffer = fun _ => 0 := by
  rw [mppcApplyFlags_historyBuffer, if_pos hflushed]
  funext i
  split
  · rfl
  · rw [hsync.history]
    refine hsync.outside i ?_
    rw [MppcContext.historyBufferSize, ← hsync.compressionLevel]
    exact not_lt.mp ‹_›

/-- A packet goes through. -/
lemma mppcCompress_decompress {c d : MppcContext} (hsync : MppcSync c d) {src dst : List UInt8}
    (hsrc : 0 < src.length) (hsize : src.length ≤ c.historyBufferSize - 20) (hdst : dst ≠ [])
    {out : List UInt8} {flags : Nat} {c' : MppcContext}
    (h : mppcCompress c src dst = (out, flags, c')) :
    c'.compressionLevel = c.compressionLevel ∧
      ∃ d', mppcDecompress d out flags = (.ok src, d') ∧ MppcSync c' d' ∧
        (flags &&& PACKET_COMPRESSED ≠ 0 → c'.historyOffset = d'.historyPtr) := by
  have hbytes : c.historyBufferSize ≤ 2 ^ 16 ∧ 0 < c.historyBufferSize := by
    rw [MppcContext.historyBufferSize]
    cases c.compressionLevel <;> decide
  rcases mppcCompress_cases h with ⟨rfl, rfl, rfl⟩ |
    ⟨atFront, flushed, e, hfront, hflushed, hencode, rfl, hflags, rfl⟩
  · -- flushed: both histories are cleared
    obtain ⟨hc, -, hfl⟩ := mppc_flags_flushed c.compressionLevel
    refine ⟨rfl, _, by rw [mppcDecompress, if_pos hc], ?_, fun hcompr => absurd hc hcompr⟩
    exact ⟨by rw [mppcApplyFlags_compressionLevel, hsync.compressionLevel]; rfl,
      mppcApplyFlags_flushed hsync hfl,
      by rw [mppcApplyFlags_historyPtr, if_pos (.inr hfl)]; rfl, fun _ => hbytes.2, fun _ _ => rfl,
      .inr ⟨rfl, fun _ => rfl⟩⟩
  · -- compressed: the decompressor starts where the compressor did
    obtain ⟨hcompr, hfrontFlag, hflushedFlag⟩ :=
      mppc_flags_compressed c.compressionLevel atFront flushed
    rw [← hflags] at hcompr hfrontFlag hflushedFlag
    have hdst' : 0 < dst.length := List.length_pos_iff.mpr hdst
    obtain ⟨start, hstart⟩ : ∃ start, (if atFront = true then 0 else c.historyOffset) = start :=
      ⟨_, rfl⟩
    rw [hstart] at hencode
    have hroom : start + src.length < c.historyBufferSize := by
      rw [← hstart]
      split
      · omega
      · have := mt hfront.mpr ‹_›
        omega
    have hptr : (mppcApplyFlags d flags).historyPtr = start := by
      rw [mppcApplyFlags_historyPtr, ← hstart]
      by_cases hat : atFront = true
      · rw [if_pos (.inl (hfrontFlag.mpr hat)), if_pos hat]
      · have hplace := not_not.mp (mt hfront.mpr hat)
        rw [if_neg (by tauto), if_neg hat, hsync.historyPtr]
        rcases hsync.offset with ⟨hoff, -⟩ | ⟨hoff, -⟩ <;> omega
    have hbuffer : (mppcApplyFlags d flags).historyBuffer = c.historyBuffer := by
      by_cases hfl : flushed = true
      · rw [mppcApplyFlags_flushed hsync (hflushedFlag.mpr hfl)]
        have hover := (hflushed.mp hfl).2
        rcases hsync.offset with ⟨hoff, hlt⟩ | ⟨-, hzero⟩
        · omega
        · exact funext fun i => (hzero i).symm
      · rw [mppcApplyFlags_historyBuffer, if_neg (mt hflushedFlag.mp hfl), hsync.history]
    obtain ⟨f, hemits, hready⟩ := mppcEncode_emits (by omega) (by omega)
      ⟨rfl, WBitStream.wrote_attach _, by simp [WBitStream.attach], by simp [WBitStream.attach],
        hsync.entries⟩ hroom hencode
    have hfits := hready.fits
    have hcapacity := hready.capacity
    have hloop := mppcDecompressLoop_emitted hemits rfl (by omega) (by omega) hroom
    have hhistory := hemits.history
    have hend := hemits.historyPtr
    dsimp only at hloop hhistory hend
    refine ⟨hready.compressionLevel, { mppcApplyFlags d flags with
      historyBuffer := e.mppc.historyBuffer, historyPtr := start + src.length }, ?_,
      ⟨?_, rfl, hend.symm, ?_, ?_, .inl ⟨rfl, ?_⟩⟩, fun _ => hend⟩
    · have hlevel : (mppcApplyFlags d flags).historyBufferSize =
          c.compressionLevel.historyBufferSize := by
        rw [MppcContext.historyBufferSize, mppcApplyFlags_compressionLevel, hsync.compressionLevel]
      simp only [mppcDecompress, if_neg hcompr, hlevel, mppcApplyFlags_compressionLevel,
        hsync.compressionLevel, hbuffer, hptr, hloop]
      rw [Nat.add_sub_cancel_left, hhistory, readList_writeList]
    · rw [mppcApplyFlags_compressionLevel, hsync.compressionLevel, hready.compressionLevel]
    · rw [MppcContext.historyBufferSize, hready.compressionLevel]
      exact hready.entries
    · intro i hi
      rw [MppcContext.historyBufferSize, hready.compressionLevel] at hi
      rw [hhistory, writeList_of_ge (hroom.le.trans hi), hsync.outside i hi]
    · rw [hend, MppcContext.historyBufferSize, hready.compressionLevel]
      exact hroom

/-- A packet and its way through both ends: the flags, what the decompressor returned, and both
contexts after it. -/
structure MppcExchange where
  flags : Nat
  result : Except Int (List UInt8)
  compressor : MppcContext
  decompressor : MppcContext

/-- A packet, compressed into the output buffer `dst`, is given to the decompressor. -/
def mppcExchange (c d : MppcContext) (src dst : List UInt8) : MppcExchange :=
  let (out, flags, c) := mppcCompress c src dst
  let (result, d) := mppcDecompress d out flags
  ⟨flags, result, c, d⟩

/-- A session: the exchanges of packets, each with the output buffer it is compressed into. -/
def mppcSession : MppcContext → MppcContext → List (List UInt8 × List UInt8) → List MppcExchange
  | _, _, [] => []
  | c, d, (src, dst) :: packets =>
    mppcExchange c d src dst :: mppcSession (mppcExchange c d src dst).compressor
      (mppcExchange c d src dst).decompressor packets

/-- The contexts agree after an exchange, also on the place in the history unless the packet was
flushed. -/
def MppcExchange.Agree (x : MppcExchange) : Prop :=
  x.compressor.historyBuffer = x.decompressor.historyBuffer ∧
    x.compressor.historyPtr = x.decompressor.historyPtr ∧
    (x.flags &&& PACKET_COMPRESSED ≠ 0 → x.compressor.historyOffset = x.decompressor.historyPtr)

lemma mppcSession_of_sync {c d : MppcContext} (hsync : MppcSync c d)
    {packets : List (List UInt8 × List UInt8)}
    (hpackets : ∀ p ∈ packets,
      0 < p.1.length ∧ p.1.length ≤ c.historyBufferSize - 20 ∧ p.2 ≠ []) :
    (mppcSession c d packets).map MppcExchange.result = packets.map (fun p => .ok p.1) ∧
      ∀ x ∈ mppcSession c d packets, x.Agree := by
  induction packets generalizing c d with
  | nil => exact ⟨rfl, fun x hx => absurd hx List.not_mem_nil⟩
  | cons p packets ih =>
    obtain ⟨src, dst⟩ := p
    obtain ⟨⟨hpos, hsize, hdst⟩, hrest⟩ := List.forall_mem_cons.mp hpackets
    rcases hcompress : mppcCompress c src dst with ⟨out, flags, c'⟩
    obtain ⟨hlevel, d', hdecompress, hsync', hoffset⟩ :=
      mppcCompress_decompress hsync hpos hsize hdst hcompress
    obtain ⟨hresults, hagree⟩ := ih hsync' (by rwa [MppcContext.historyBufferSize, hlevel])
    have hexchange : mppcExchange c d src dst = ⟨flags, .ok src, c', d'⟩ := by
      rw [mppcExchange, hcompress]
      dsimp only
      rw [hdecompress]
    rw [mppcSession, hexchange, List.map_cons, List.map_cons, hresults]
    exact ⟨rfl, List.forall_mem_cons.mpr
      ⟨⟨hsync'.history.symm, hsync'.historyPtr.symm, hoffset⟩, hagree⟩⟩

/-- An MPPC session round-trips: every packet comes out of the decompressor as it went into the
compressor, and after each one the two contexts agree. -/
theorem mppcSession_roundTrips (compressionLevel : Nat) {packets : List (List UInt8 × List UInt8)}
    (hpackets : ∀ p ∈ packets, 0 < p.1.length ∧
      p.1.length ≤ (mppcContextNew compressionLevel).historyBufferSize - 20 ∧ p.2 ≠ []) :
    (mppcSession (mppcContextNew compressionLevel) (mppcContextNew compressionLevel) packets).map
        MppcExchange.result = packets.map (fun p => .ok p.1) ∧
      ∀ x ∈ mppcSession (mppcContextNew compressionLevel) (mppcContextNew compressionLevel) packets,
        x.Agree :=
  mppcSession_of_sync (mppcSync_new compressionLevel) hpackets

/-- A long packet twice, and a short one. -/
def repeatedPackets : List (List UInt8 × List UInt8) :=
  [(List.replicate 4100 7, List.replicate 4100 0), (List.replicate 4100 7, List.replicate 4100 0),
    ([1, 2, 3], [0])]

/-- The long packet is compressed; again it does not fit behind the first one and is put at the front
of the history. The short one is not compressed. -/
theorem mppcSession_roundTrips_repeated :
    (mppcSession (mppcContextNew 0) (mppcContextNew 0) repeatedPackets).map MppcExchange.result =
      [.ok (List.replicate 4100 7), .ok (List.replicate 4100 7), .ok [1, 2, 3]] := by
  refine (mppcSession_roundTrips 0 fun p hp => ?_).1
  have hsize : (mppcContextNew 0).historyBufferSize = 8192 := rfl
  have hlong : (List.replicate 4100 (0 : UInt8)) ≠ [] :=
    List.ne_nil_of_length_eq_add_one List.length_replicate
  rw [hsize]
  rcases List.mem_cons.mp hp with rfl | hp
  · rw [List.length_replicate]
    exact ⟨by decide, by decide, hlong⟩
  rcases List.mem_cons.mp hp with rfl | hp
  · rw [List.length_replicate]
    exact ⟨by decide, by decide, hlong⟩
  · obtain rfl := List.mem_singleton.mp hp
    exact ⟨by decide, by decide, List.cons_ne_nil _ _⟩

example : (mppcCompress (mppcContextNew 0) (List.replicate 12 7) (List.replicate 12 0)).2.1 =
    PACKET_COMPRESSED ||| PACKET_AT_FRONT := by decide +kernel

end FreeRdp
