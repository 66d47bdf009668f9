import FreeRdp.Library.Bits
import FreeRdp.Core.FastPath.Basic

/-!
# Fast-path headers and the security wrapper

Reading back what the sender wrote: the three byte PDU header, the update header, and the
signed and encrypted body between them.
-/

namespace FreeRdp

/-! ### The PDU header -/

/-- `per_read_length` of a two byte length. -/
lemma perReadLength_long {s : WStream} {length : Nat} {rest : List UInt8} (hlen : length < 2 ^ 15)
    (h : s.unread = bytesUInt8 (0x80 ||| length >>> 8) ++ bytesUInt8 (length &&& 0xFF) ++ rest) :
    perReadLength s = some (length, s.seek 2) := by
  have hhigh : length >>> 8 < 128 := by
    rw [Nat.shiftRight_eq_div_pow]
    omega
  have hor : 0x80 ||| length >>> 8 = 128 + length >>> 8 := two_pow_or_eq_add (i := 7) hhigh
  have hlow : length &&& 0xFF = length % 256 := and_mask_eq_mod length 8
  have hb : (UInt8.ofNat (128 + length >>> 8)).toNat = 128 + length >>> 8 :=
    toNat_ofNat_of_lt (by omega)
  have hb' : (UInt8.ofNat (length % 256)).toNat = length % 256 := toNat_ofNat_of_lt (by omega)
  rw [hor, hlow] at h
  simp only [bytesUInt8, List.cons_append, List.nil_append] at h
  have hset := toNat_and_128_ne_zero (UInt8.ofNat (128 + length >>> 8))
  have hlow7 := toNat_and_127 (UInt8.ofNat (128 + length >>> 8))
  rw [hb] at hset hlow7
  simp only [perReadLength, WStream.readUInt8_of_unread h, hb]
  rw [if_neg (by simp [WStream.remainingLength_eq, h]), if_pos (hset.mpr (by omega)),
    if_neg (by simp [WStream.remainingLength_eq, h])]
  have h' : (s.seek 1).unread = UInt8.ofNat (length % 256) :: rest := by simp [h]
  simp only [WStream.readUInt8_of_unread h', hb', hlow7, Option.some.injEq, Prod.mk.injEq]
  refine ⟨?_, rfl⟩
  rw [Nat.shiftRight_eq_div_pow, Nat.shiftLeft_eq]
  omega

/-- The PDU header is read back with its flags, and the length of what follows it. -/
lemma fastpathReadHeaderRdp_write {secFlags length : Nat} (rest : List UInt8) (hsec : secFlags < 4)
    (h3 : 3 ≤ length) (hlen : length < 2 ^ 15) :
    ∃ s, fastpathReadHeaderRdp (WStream.ofBytes
        (fastpathWriteUpdatePduHeader secFlags length ++ rest)) = some (secFlags, length - 3, s) ∧
      s.unread = rest := by
  have hsec3 : (secFlags &&& 3) <<< 6 = secFlags * 64 := by
    rw [show secFlags &&& 3 = secFlags % 4 from and_mask_eq_mod secFlags 2, Nat.shiftLeft_eq]
    omega
  have hflags : (secFlags * 64 &&& 0xC0) >>> 6 = secFlags := by
    rw [Nat.shiftRight_and_distrib]
    have h6 : (secFlags * 64) >>> 6 = secFlags := by
      rw [Nat.shiftRight_eq_div_pow]
      omega
    rw [h6]
    exact (and_mask_eq_mod secFlags 2).trans (Nat.mod_eq_of_lt hsec)
  have h : (WStream.ofBytes (fastpathWriteUpdatePduHeader secFlags length ++ rest)).unread =
      UInt8.ofNat (secFlags * 64) ::
        (bytesUInt8 (0x80 ||| length >>> 8) ++ bytesUInt8 (length &&& 0xFF) ++ rest) := by
    simp [fastpathWriteUpdatePduHeader, bytesUInt8, hsec3]
  set s := WStream.ofBytes (fastpathWriteUpdatePduHeader secFlags length ++ rest) with hs
  have h1 := WStream.unread_seek_one h
  refine ⟨(s.seek 1).seek 2, ?_, ?_⟩
  · simp only [fastpathReadHeaderRdp, WStream.readUInt8_of_unread h, perReadLength_long hlen h1,
      toNat_ofNat_of_lt (show secFlags * 64 < 256 by omega), hflags]
    rw [if_neg (by simp [WStream.remainingLength_eq, h])]
    simp only [WStream.pos_seek, hs, WStream.pos_ofBytes, Option.some.injEq, Prod.mk.injEq,
      true_and, and_true]
    omega
  · rw [WStream.unread_seek, h1]
    simp [bytesUInt8]

/-! ### The update header -/

/-- The first byte of an update header and its three fields. -/
lemma updateHeader_fields {code frag compression : Nat} (hcode : code < 16) (hfrag : frag < 4)
    (hcompr : compression < 4) :
    ∃ b, (code &&& 0x0F) ||| (frag &&& 0x03) <<< 4 ||| (compression &&& 0x03) <<< 6 = b ∧
      b < 256 ∧ b &&& 0x0F = code ∧ b >>> 4 &&& 0x03 = frag ∧ b >>> 6 &&& 0x03 = compression := by
  have h0 : code &&& 0x0F = code := (and_mask_eq_mod code 4).trans (Nat.mod_eq_of_lt hcode)
  have h1 : frag &&& 0x03 = frag := (and_mask_eq_mod frag 2).trans (Nat.mod_eq_of_lt hfrag)
  have h2 : compression &&& 0x03 = compression :=
    (and_mask_eq_mod compression 2).trans (Nat.mod_eq_of_lt hcompr)
  have hsum : code ||| frag <<< 4 ||| compression <<< 6 = compression * 64 + (frag * 16 + code) := by
    rw [or_shiftLeft_eq_add (i := 4) hcode, or_shiftLeft_eq_add (i := 6) (by omega)]
    omega
  refine ⟨_, by rw [h0, h1, h2, hsum], by omega, ?_, ?_, ?_⟩
  · refine (and_mask_eq_mod _ 4).trans ?_
    omega
  · refine (and_mask_eq_mod _ 2).trans ?_
    rw [Nat.shiftRight_eq_div_pow]
    omega
  · refine (and_mask_eq_mod _ 2).trans ?_
    rw [Nat.shiftRight_eq_div_pow]
    omega

@[simp] lemma FastPathFragment.ofCode_code (f : FastPathFragment) : ofCode f.code = f := by
  cases f <;> rfl

lemma FastPathFragment.code_lt (f : FastPathFragment) : f.code < 4 := by
  cases f <;> decide

lemma FastPathUpdateType.code_lt (u : FastPathUpdateType) : u.code < 16 := by
  cases u <;> decide

/-- The fields of a compressed and of an uncompressed update. -/
def FastPathUpdateHeader.Valid (h : FastPathUpdateHeader) : Prop :=
  h.updateCode < 16 ∧ h.size < 2 ^ 16 ∧
    (h.compression = 0 ∧ h.compressionFlags = 0 ∨
      h.compression = FASTPATH_OUTPUT_COMPRESSION_USED ∧ h.compressionFlags < 256)

lemma fastpathReadUpdateSize_write {s : WStream} {size : Nat} {payload : List UInt8}
    (hsize : size < 2 ^ 16) (hlen : size ≤ payload.length)
    (hs : s.unread = bytesUInt16 size ++ payload) (updateHeader compressionFlags : Nat) :
    fastpathReadUpdateSize updateHeader compressionFlags s =
      some (⟨updateHeader &&& 0x0F, FastPathFragment.ofCode (updateHeader >>> 4 &&& 0x03),
        updateHeader >>> 6 &&& 0x03, compressionFlags, size⟩, s.seek 2) := by
  simp only [bytesUInt16, List.cons_append, List.nil_append] at hs
  have hvalue : (UInt8.ofNat (size >>> 8)).toNat * 256 + (UInt8.ofNat size).toNat = size := by
    rw [UInt8.toNat_ofNat', UInt8.toNat_ofNat', Nat.shiftRight_eq_div_pow]
    omega
  simp only [fastpathReadUpdateSize, WStream.readUInt16_of_unread hs, hvalue]
  rw [if_neg (by simp [WStream.remainingLength_eq, hs]),
    if_neg (by simpa [WStream.remainingLength_eq, hs] using hlen)]

/-- A valid update header is read back. -/
lemma fastpathReadUpdateHeader_write {s : WStream} {h : FastPathUpdateHeader}
    {payload : List UInt8} (hvalid : h.Valid) (hlen : h.size ≤ payload.length)
    (hs : s.unread = fastpathWriteUpdateHeader h ++ payload) :
    ∃ s', fastpathReadUpdateHeader s = some (h, s') ∧ s'.unread = payload := by
  obtain ⟨hcode, hsize, hcompr⟩ := hvalid
  have hcompr4 : h.compression < 4 := by
    rcases hcompr with ⟨h0, -⟩ | ⟨h2, -⟩
    · omega
    · rw [h2]
      decide
  obtain ⟨b, hb, hb256, hb0, hb4, hb6⟩ :=
    updateHeader_fields hcode h.fragmentation.code_lt hcompr4
  have hb' := toNat_ofNat_of_lt hb256
  simp only [fastpathWriteUpdateHeader, hb, List.append_assoc] at hs
  have hcons : s.unread = UInt8.ofNat b ::
      ((if h.compression ≠ 0 then bytesUInt8 h.compressionFlags else []) ++
        (bytesUInt16 h.size ++ payload)) := hs
  have hrem : ¬s.remainingLength < 1 := by simp [WStream.remainingLength_eq, hcons]
  have h1 := WStream.unread_seek_one hcons
  simp only [fastpathReadUpdateHeader, if_neg hrem, WStream.readUInt8_of_unread hcons, hb', hb6]
  obtain ⟨code, frag, compression, flags, size⟩ := h
  rcases hcompr with ⟨rfl, rfl⟩ | ⟨rfl, hflags⟩
  · -- no compression: the size follows at once
    refine ⟨(s.seek 1).seek 2, ?_, ?_⟩
    · rw [if_neg (by simp [FASTPATH_OUTPUT_COMPRESSION_USED]),
        fastpathReadUpdateSize_write hsize hlen (by simpa using h1)]
      simp only [hb0, hb4, hb6, FastPathFragment.ofCode_code]
    · rw [WStream.unread_seek, h1]
      simp [bytesUInt16]
  · -- the flags byte stands before the size
    have hcons' : (s.seek 1).unread = UInt8.ofNat flags :: (bytesUInt16 size ++ payload) := by
      rw [h1]
      rfl
    have h2 := WStream.unread_seek_one hcons'
    have hrem' : ¬(s.seek 1).remainingLength < 1 := by simp [WStream.remainingLength_eq, hcons']
    refine ⟨((s.seek 1).seek 1).seek 2, ?_, ?_⟩
    · rw [if_pos rfl, if_neg hrem', WStream.readUInt8_of_unread hcons']
      simp only [toNat_ofNat_of_lt hflags]
      rw [fastpathReadUpdateSize_write hsize hlen h2]
      simp only [hb0, hb4, hb6, FastPathFragment.ofCode_code]
    · rw [WStream.unread_seek, h2]
      simp [bytesUInt16]

section Receive

variable {σ ρ κ τ : Type*} (codec : BulkCodec σ ρ) (settings : FastPathSettings)
  (handler : Nat → List UInt8 → Bool)

/-- The receiver's view of a PDU with one update: what the payload decompresses to goes to the
fragment state machine. -/
lemma fastpathRecvUpdates_write {fp : FastPathReceiver ρ τ} {s : WStream}
    {h : FastPathUpdateHeader} {payload dst : List UInt8} {bulk : ρ} (hvalid : h.Valid)
    (hsize : h.size = payload.length)
    (hs : s.unread = fastpathWriteUpdateHeader h ++ payload)
    (hbulk : bulkDecompress codec fp.bulk payload h.compressionFlags = (some dst, bulk)) :
    fastpathRecvUpdates codec settings handler fp s =
      fastpathRecvFragment settings handler h.updateCode h.fragmentation
        { fp with bulk := bulk, updateData := fp.updateData ++ dst } := by
  obtain ⟨s', hread, hs'⟩ := fastpathReadUpdateHeader_write hvalid hsize.le hs
  have hrem : s.remainingLength ≥ 3 := by
    rw [WStream.remainingLength_eq, hs]
    simp only [fastpathWriteUpdateHeader, bytesUInt8, bytesUInt16, List.length_append,
      List.length_cons, List.length_nil]
    omega
  have hend : (s'.seek h.size).remainingLength = 0 := by
    rw [WStream.remainingLength_eq, WStream.unread_seek, hs', hsize]
    simp
  have hsrc : (s'.buffer.drop s'.pos).take h.size = payload := by
    rw [show s'.buffer.drop s'.pos = payload from hs', hsize, List.take_length]
  simp only [fastpathRecvUpdates]
  obtain ⟨k, hk⟩ : ∃ k, s.remainingLength = k + 1 := ⟨s.remainingLength - 1, by omega⟩
  rw [hk, fastpathRecvUpdatesLoop, if_pos hrem]
  simp only [fastpathRecvUpdateData, hread, WStream.read, hsrc, hbulk]
  rcases hfrag : fastpathRecvFragment settings handler h.updateCode h.fragmentation
      { fp with bulk := bulk, updateData := fp.updateData ++ dst } with ⟨_ | _, fp'⟩
  · rfl
  · simp only [fastpathRecvUpdatesLoop, hend]
    rfl

end Receive

end FreeRdp
