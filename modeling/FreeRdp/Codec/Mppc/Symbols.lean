import FreeRdp.Codec.Mppc.Codes

/-!
# Symbols in lockstep

A round of the compressor writes one symbol and enters the bytes it stands for into the history. A
round of the decompressor, over any stream that goes on after this symbol, reads it back and makes
the same entries. `MppcEmits` puts the two together and composes.
-/

namespace FreeRdp

variable {level : MppcLevel} {e e' e'' : MppcEncoder} {f f' f'' : Nat → Bool}

/-- From `e` to `e'` the compressor has written symbols for `chunk`, and the bits written so far
grew from `f` to `f'`. A decompressor that stands where `e` did, in a stream that has all these
bits, comes to where `e'` is. -/
structure MppcEmits (level : MppcLevel) (e e' : MppcEncoder) (f f' : Nat → Bool)
    (chunk : List UInt8) : Prop where
  wrote : e'.bs.Wrote f'
  capacity : e'.bs.buffer.length = e.bs.buffer.length
  position : e.bs.position ≤ e'.bs.position
  extends_ : ∀ i < e.bs.position, f' i = f i
  historyPtr : e'.historyPtr = e.historyPtr + chunk.length
  history : e'.mppc.historyBuffer = writeList e.mppc.historyBuffer e.historyPtr chunk
  decodes : ∃ k ≤ chunk.length, ∀ (fuel : Nat) (bs : WBitStream), bs.Reads →
    bs.position = e.bs.position → (∀ i < e'.bs.position, bitsOf bs.buffer i = f' i) →
    e'.bs.position ≤ 8 * bs.buffer.length → 8 * bs.buffer.length < 2 ^ 32 →
    e.historyPtr + chunk.length ≤ level.historyBufferSize →
    ∃ bs' : WBitStream, bs'.Reads ∧ bs'.buffer = bs.buffer ∧ bs'.position = e'.bs.position ∧
      mppcDecompressLoop level (fuel + k) bs e.mppc.historyBuffer e.historyPtr =
        mppcDecompressLoop level fuel bs' e'.mppc.historyBuffer e'.historyPtr

lemma MppcEmits.refl (h : e.bs.Wrote f) : MppcEmits level e e f f [] where
  wrote := h
  capacity := rfl
  position := le_rfl
  extends_ _ _ := rfl
  historyPtr := rfl
  history := rfl
  decodes := ⟨0, le_rfl, fun _ bs hbs hpos _ _ _ _ => ⟨bs, hbs, rfl, hpos, rfl⟩⟩

lemma MppcEmits.trans {chunk chunk' : List UInt8} (h : MppcEmits level e e' f f' chunk)
    (h' : MppcEmits level e' e'' f' f'' chunk') :
    MppcEmits level e e'' f f'' (chunk ++ chunk') where
  wrote := h'.wrote
  capacity := h'.capacity.trans h.capacity
  position := h.position.trans h'.position
  extends_ i hi := (h'.extends_ i (hi.trans_le h.position)).trans (h.extends_ i hi)
  historyPtr := by
    rw [h'.historyPtr, h.historyPtr, List.length_append]
    omega
  history := by rw [h'.history, h.history, writeList_append, h.historyPtr]
  decodes := by
    obtain ⟨k, hk, hdec⟩ := h.decodes
    obtain ⟨k', hk', hdec'⟩ := h'.decodes
    refine ⟨k + k', by rw [List.length_append]; omega, ?_⟩
    intro fuel bs hbs hpos hbits hlen hlt hroom
    rw [List.length_append] at hroom
    have hle := h'.position
    obtain ⟨bs₁, hbs₁, hbuf₁, hpos₁, hrun⟩ := hdec (fuel + k') bs hbs hpos
      (fun i hi => (hbits i (by omega)).trans (h'.extends_ i hi)) (by omega) hlt (by omega)
    obtain ⟨bs₂, hbs₂, hbuf₂, hpos₂, hrun'⟩ := hdec' fuel bs₁ hbs₁ hpos₁ (by rwa [hbuf₁])
      (by rwa [hbuf₁]) (by rwa [hbuf₁]) (by rw [h.historyPtr]; omega)
    refine ⟨bs₂, hbs₂, hbuf₂.trans hbuf₁, hpos₂, ?_⟩
    rw [show fuel + (k + k') = fuel + k' + k by omega, hrun, hrun']

/-- The front of the accumulator of a reader whose stream has the bits `F`. -/
lemma WBitStream.Reads.top_eq {bs : WBitStream} (h : bs.Reads) {F : Nat → Bool} {n v : Nat}
    (hn : n ≤ 32) (hF : ∀ i < bs.position + n, bitsOf bs.buffer i = F i)
    (hv : window F bs.position n = v) :
    bs.accumulator < 2 ^ 32 ∧ bs.accumulator / 2 ^ (32 - n) = v := by
  constructor
  · rw [h.accumulator]
    exact window_lt _ _ _
  · rw [h.accumulator_div hn, window_congr fun i _ hi => hF i hi, hv]

/-- The loop of the decompressor goes on while there is room for a symbol. -/
lemma mppcDecompressLoop_step {bs bs' : WBitStream} {history history' : Nat → UInt8}
    {historyPtr historyPtr' fuel : Nat} (hlen : bs.position + 8 ≤ 8 * bs.buffer.length)
    (hlt : 8 * bs.buffer.length < 2 ^ 32)
    (hsym : mppcDecompressSymbol level bs history historyPtr = .ok (bs', history', historyPtr')) :
    mppcDecompressLoop level (fuel + 1) bs history historyPtr =
      mppcDecompressLoop level fuel bs' history' historyPtr' := by
  have hrem : bs.remainingLength ≥ 8 := by
    rw [WBitStream.remainingLength, WBitStream.length]
    omega
  rw [mppcDecompressLoop, if_pos hrem, hsym]

/-- A literal. -/
lemma mppcEmits_literal (level : MppcLevel) (hw : e.bs.Wrote f) (sym : UInt8) (mppc : MppcContext)
    (hmppc : mppc.historyBuffer = Function.update e.mppc.historyBuffer e.historyPtr sym) :
    ∃ f', MppcEmits level e ⟨mppcWriteCode e.bs (mppcLiteralCode sym), mppc, e.historyPtr + 1⟩ f f'
        [sym] ∧
      (mppcWriteCode e.bs (mppcLiteralCode sym)).position ≤ e.bs.position + 9 := by
  obtain ⟨code, n, hcode⟩ : ∃ code n, mppcLiteralCode sym = (code, n) := ⟨_, _, rfl⟩
  obtain ⟨hn8, hn9, hlt⟩ := mppcLiteralCode_lt hcode
  obtain ⟨hwrote, hpos, hlen⟩ := hw.writeBits (v := code) (n := n) (by omega) (by omega) hlt
  have hwrite : mppcWriteCode e.bs (mppcLiteralCode sym) = e.bs.writeBits code n := by
    rw [hcode]
    rfl
  rw [hwrite]
  refine ⟨setBits f e.bs.position n code, ⟨hwrote, hlen, by rw [hpos]; omega,
    fun i hi => setBits_of_lt hi, rfl, hmppc, 1, le_rfl, ?_⟩, by rw [hpos]; omega⟩
  intro fuel bs hbs hbspos hbits hroom hsmall hptr
  dsimp only at hbits hroom hptr ⊢
  rw [hpos] at hbits hroom
  obtain ⟨hacc, htop⟩ := hbs.top_eq (n := n) (v := code) (by omega) (by rwa [hbspos])
    (by rw [hbspos, window_setBits hlt])
  obtain ⟨hbs', hbuf', hpos'⟩ := hbs.shift (n := n) (by omega) (by omega)
  refine ⟨bs.shift n, hbs', hbuf', by rw [hpos', hbspos, hpos], ?_⟩
  refine mppcDecompressLoop_step (by omega) hsmall ?_
  rw [List.length_singleton] at hptr
  rw [mppcDecompressSymbol, if_neg (by omega), mppcReadLiteral_code hcode hacc htop, hmppc]

/-! ### Matches -/

/-- The decompressor finds the place the compressor has matched. -/
lemma mppcMaskOffset_matchPtr {matchPtr : Nat} (hm0 : matchPtr ≠ 0)
    (hm : matchPtr < level.historyBufferSize) (historyPtr : Nat) :
    mppcMaskOffset level (historyPtr + 1) matchPtr < level.historyBufferSize ∧
      mppcMaskOffset level historyPtr (mppcMaskOffset level (historyPtr + 1) matchPtr) =
        matchPtr - 1 := by
  cases level <;> simp only [mppcMaskOffset, MppcLevel.historyBufferSize] at hm ⊢ <;> omega

/-- The bytes of a match are the ones a copy produces. -/
lemma mppcExtendMatch_spec {limit : Nat} {src rest : List UInt8} {history history' : Nat → UInt8}
    {historyPtr historyPtr' matchPtr len len' : Nat}
    (h : mppcExtendMatch limit src history historyPtr matchPtr len =
      (rest, history', historyPtr', len')) :
    ∃ chunk, src = chunk ++ rest ∧ CopiesFrom history matchPtr historyPtr chunk ∧
      history' = writeList history historyPtr chunk ∧
      historyPtr' = historyPtr + chunk.length ∧ len' = len + chunk.length := by
  induction src generalizing history historyPtr matchPtr len with
  | nil =>
    simp only [mppcExtendMatch, Prod.mk.injEq] at h
    obtain ⟨rfl, rfl, rfl, rfl⟩ := h
    exact ⟨[], rfl, trivial, rfl, rfl, rfl⟩
  | cons sym src ih =>
    rw [mppcExtendMatch] at h
    split at h
    · rename_i hcond
      obtain ⟨chunk, rfl, hcopy, rfl, rfl, rfl⟩ := ih h
      refine ⟨sym :: chunk, rfl, ⟨hcond.1.symm, hcopy⟩, rfl, ?_, ?_⟩
      · rw [List.length_cons]
        omega
      · rw [List.length_cons]
        omega
    · simp only [Prod.mk.injEq] at h
      obtain ⟨rfl, rfl, rfl, rfl⟩ := h
      exact ⟨[], rfl, trivial, rfl, rfl, rfl⟩

/-- A match: the copy the compressor has found is made by the decompressor. -/
lemma mppcEmits_match (hw : e.bs.Wrote f) {matchPtr : Nat} (hm0 : matchPtr ≠ 0)
    (hm : matchPtr < level.historyBufferSize) {chunk : List UInt8} (hchunk : 3 ≤ chunk.length)
    (hsize : chunk.length < level.historyBufferSize)
    (hcopy : CopiesFrom e.mppc.historyBuffer (matchPtr - 1) e.historyPtr chunk)
    (mppc : MppcContext)
    (hmppc : mppc.historyBuffer = writeList e.mppc.historyBuffer e.historyPtr chunk) :
    ∃ f' bs', mppcWriteCode (mppcWriteCode e.bs (mppcCopyOffsetCode level
        (mppcMaskOffset level (e.historyPtr + 1) matchPtr))) (mppcLengthCode level chunk.length) =
        bs' ∧
      MppcEmits level e ⟨bs', mppc, e.historyPtr + chunk.length⟩ f f' chunk ∧
      bs'.position ≤ e.bs.position + 49 := by
  obtain ⟨hoff, hsource⟩ := mppcMaskOffset_matchPtr hm0 hm e.historyPtr
  obtain ⟨c₁, n₁, hc₁, hn₁, hn₁', hlt₁, hread₁⟩ := mppcReadCopyOffset_code hoff
  obtain ⟨c₂, n₂, hc₂, hn₂, hn₂', hlt₂, hread₂⟩ := mppcReadLength_code hchunk hsize
  obtain ⟨hw₁, hpos₁, hlen₁⟩ := hw.writeBits (by omega) (by omega) hlt₁
  obtain ⟨hw₂, hpos₂, hlen₂⟩ := hw₁.writeBits (by omega) (by omega) hlt₂
  obtain ⟨f₂, hf₂⟩ : ∃ f₂, setBits (setBits f e.bs.position n₁ c₁)
      (e.bs.writeBits c₁ n₁).position n₂ c₂ = f₂ := ⟨_, rfl⟩
  have hfront : ∀ i < e.bs.position + n₁, f₂ i = setBits f e.bs.position n₁ c₁ i := fun i hi => by
    rw [← hf₂, setBits_of_lt (by omega)]
  have hwin₁ : window f₂ e.bs.position n₁ = c₁ := by
    rw [window_congr fun i _ hi => hfront i hi, window_setBits hlt₁]
  have hwin₂ : window f₂ (e.bs.position + n₁) n₂ = c₂ := by
    rw [← hf₂, hpos₁, window_setBits hlt₂]
  rw [hf₂] at hw₂
  rw [hpos₁] at hpos₂
  refine ⟨f₂, (e.bs.writeBits c₁ n₁).writeBits c₂ n₂, by rw [hc₁, hc₂]; rfl,
    ⟨hw₂, hlen₂.trans hlen₁, by rw [hpos₂]; omega, fun i hi => ?_, rfl, hmppc, 1, by omega, ?_⟩,
    by rw [hpos₂]; omega⟩
  · rw [hfront i (by omega), setBits_of_lt hi]
  · intro fuel bs hbs hbspos hbits hroom hsmall hptr
    dsimp only at hbits hroom hptr ⊢
    rw [hpos₂] at hbits hroom
    obtain ⟨hacc, htop⟩ := hbs.top_eq (n := n₁) (v := c₁) (by omega)
      (fun i hi => hbits i (by omega)) (by rw [hbspos, hwin₁])
    obtain ⟨hmatch, hoffset⟩ := hread₁ _ hacc htop
    obtain ⟨hbs₁, hbuf₁, hbspos₁⟩ := hbs.shift (n := n₁) (by omega) (by omega)
    obtain ⟨hacc₁, htop₁⟩ := hbs₁.top_eq (F := f₂) (n := n₂) (v := c₂) (by omega)
      (fun i hi => by rw [hbuf₁]; exact hbits i (by omega))
      (by rw [hbspos₁, hbspos, hwin₂])
    have hlength := hread₂ _ hacc₁ htop₁
    obtain ⟨hbs₂, hbuf₂, hbspos₂⟩ := hbs₁.shift (n := n₂) (by omega) (by omega)
    refine ⟨(bs.shift n₁).shift n₂, hbs₂, hbuf₂.trans hbuf₁, by omega, ?_⟩
    refine mppcDecompressLoop_step (by omega) hsmall ?_
    rw [mppcDecompressSymbol, if_neg (by omega), mppcReadLiteral_eq_none hacc hmatch]
    simp only [hoffset, bind, Except.bind, hlength]
    rw [if_neg (by omega), hsource, copyCells_eq_writeList hcopy, hmppc]

end FreeRdp
