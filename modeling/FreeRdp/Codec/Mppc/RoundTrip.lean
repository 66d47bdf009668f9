import FreeRdp.Codec.Mppc.Symbols

/-!
# MPPC sessions

The loops of the compressor emit symbols for the whole packet, or the packet is flushed. Either
way both contexts agree on the history again after the packet, and the decompressor has produced the
packet. A session keeps this up for any number of packets.
-/

namespace FreeRdp

variable {level : MppcLevel} {e e' : MppcEncoder} {f f' : Nat → Bool} {dstSize : Nat}

/-- What the loops of the compressor keep: the table holds places in the history, and the bits
written so far fit into the output. -/
structure MppcEncoder.Ready (e : MppcEncoder) (level : MppcLevel) (dstSize : Nat)
    (f : Nat → Bool) : Prop where
  compressionLevel : e.mppc.compressionLevel = level
  wrote : e.bs.Wrote f
  capacity : e.bs.buffer.length = dstSize
  fits : e.bs.position ≤ 8 * dstSize
  entries : ∀ i, e.mppc.matchBuffer i < level.historyBufferSize

lemma mppcDstLimit_eq (hd0 : 0 < dstSize) (hd : dstSize < 2 ^ 32) :
    mppcDstLimit dstSize = dstSize - 1 := by
  rw [mppcDstLimit]
  omega

/-- The three symbols of a match are what a copy from before it produces: the place is neither the
one written to nor the one before it. -/
lemma copiesFrom_of_matches {history : Nat → UInt8} {historyPtr matchPtr : Nat}
    {sym1 sym2 sym3 : UInt8} {chunk : List UInt8} (h0 : matchPtr ≠ 0) (h1 : matchPtr ≠ historyPtr)
    (h2 : matchPtr ≠ historyPtr + 1)
    (hsym1 : sym1 = Function.update history historyPtr sym1 (matchPtr - 1))
    (hsym2 : sym2 = Function.update history historyPtr sym1 matchPtr)
    (hsym3 : sym3 = Function.update history historyPtr sym1 (matchPtr + 1))
    (hchunk : CopiesFrom (Function.update (Function.update (Function.update history historyPtr sym1)
      (historyPtr + 1) sym2) (historyPtr + 1 + 1) sym3) (matchPtr + 2) (historyPtr + 1 + 2) chunk) :
    CopiesFrom history (matchPtr - 1) historyPtr (sym1 :: sym2 :: sym3 :: chunk) := by
  have hback : matchPtr - 1 + 1 = matchPtr := Nat.sub_add_cancel (Nat.pos_of_ne_zero h0)
  refine ⟨?_, ?_, ?_, ?_⟩
  · rw [hsym1, Function.update_of_ne (by omega)]
  · rw [hback, ← hsym2]
  · rw [hback, Function.update_of_ne (by omega), ← hsym3]
  · rw [hback]
    exact hchunk

/-- One round of the main loop. -/
lemma mppcEncodeSymbol_emits (he : e.Ready level dstSize f) (hd0 : 0 < dstSize)
    (hd : dstSize < 2 ^ 32) {sym1 sym2 sym3 : UInt8} {tail rest : List UInt8}
    (hroom : e.historyPtr + (3 + tail.length) < level.historyBufferSize)
    (h : mppcEncodeSymbol dstSize e sym1 sym2 sym3 tail = some (e', rest)) :
    ∃ f' chunk, MppcEmits level e e' f f' chunk ∧ sym1 :: sym2 :: sym3 :: tail = chunk ++ rest ∧
      0 < chunk.length ∧ e'.Ready level dstSize f' := by
  obtain ⟨rfl, hw, hcap, hfits, hentries⟩ := he
  have hsize : e.mppc.compressionLevel.historyBufferSize ≤ 2 ^ 16 := by
    cases e.mppc.compressionLevel <;> decide
  obtain ⟨m, hm⟩ : ∃ m, e.mppc.matchBuffer (mppcMatchIndex sym1 sym2 sym3) = m := ⟨_, rfl⟩
  have hmlt : m < e.mppc.compressionLevel.historyBufferSize := hm ▸ hentries _
  obtain ⟨limit, hlimit⟩ : ∃ limit, (if e.mppc.historyPtr < e.historyPtr + 1 then e.historyPtr + 1
    else e.mppc.historyPtr) = limit := ⟨_, rfl⟩
  obtain ⟨table, htable⟩ : ∃ table, (if m ≠ e.historyPtr + 1 - 1 then
    Function.update e.mppc.matchBuffer (mppcMatchIndex sym1 sym2 sym3)
      ((e.historyPtr + 1) % 2 ^ 16) else e.mppc.matchBuffer) = table := ⟨_, rfl⟩
  -- the table stays valid, whether or not the place is entered
  have hentries' : ∀ i, table i < e.mppc.compressionLevel.historyBufferSize := by
    intro i
    rw [← htable]
    split
    · by_cases hi : i = mppcMatchIndex sym1 sym2 sym3
      · rw [hi, Function.update_self, Nat.mod_eq_of_lt (by omega)]
        omega
      · rw [Function.update_of_ne hi]
        exact hentries i
    · exact hentries i
  simp only [mppcEncodeSymbol, hm, hlimit, htable, mppcDstLimit_eq hd0 hd] at h
  split at h
  · -- a literal
    split at h
    · cases h
    · rename_i hfit
      simp only [Option.some.injEq, Prod.mk.injEq] at h
      obtain ⟨rfl, rfl⟩ := h
      obtain ⟨f', hemits, hpos⟩ := mppcEmits_literal _ hw sym1
        ⟨limit, e.mppc.historyOffset, Function.update e.mppc.historyBuffer e.historyPtr sym1, table,
          e.mppc.compressionLevel⟩ rfl
      refine ⟨f', [sym1], hemits, rfl, Nat.one_pos, rfl, hemits.wrote, ?_, ?_, hentries'⟩
      · exact hemits.capacity.trans hcap
      · dsimp only
        omega
  · -- a match
    rename_i hmatch
    simp only [not_or, not_not] at hmatch
    obtain ⟨hsym1, hsym2, hsym3, -, hm0, hm1, hm2⟩ := hmatch
    obtain ⟨rest', history', historyPtr', len', hext⟩ : ∃ rest' history' historyPtr' len',
        mppcExtendMatch limit tail
          (Function.update (Function.update (Function.update e.mppc.historyBuffer e.historyPtr sym1)
            (e.historyPtr + 1) sym2) (e.historyPtr + 1 + 1) sym3) (e.historyPtr + 1 + 2) (m + 2) 3 =
          (rest', history', historyPtr', len') := ⟨_, _, _, _, rfl⟩
    simp only [hext] at h
    obtain ⟨chunk, rfl, hchunk, rfl, rfl, rfl⟩ := mppcExtendMatch_spec hext
    split at h
    · cases h
    · rename_i hfit
      simp only [Option.some.injEq, Prod.mk.injEq] at h
      obtain ⟨rfl, rfl⟩ := h
      rw [List.length_append] at hroom
      have hcopy := copiesFrom_of_matches hm0 (by simpa using hm1) hm2 hsym1 hsym2 hsym3 hchunk
      have hlen : (sym1 :: sym2 :: sym3 :: chunk).length = 3 + chunk.length := by
        simp only [List.length_cons]
        omega
      obtain ⟨f', bs', hbs', hemits, hpos⟩ := mppcEmits_match hw hm0 hmlt
        (show 3 ≤ (sym1 :: sym2 :: sym3 :: chunk).length by omega) (by omega) hcopy
        ⟨limit, e.mppc.historyOffset, writeList e.mppc.historyBuffer e.historyPtr
          (sym1 :: sym2 :: sym3 :: chunk), table, e.mppc.compressionLevel⟩ rfl
      rw [hlen] at hbs' hemits
      rw [hbs', show e.historyPtr + 1 + 2 + chunk.length = e.historyPtr + (3 + chunk.length) by omega]
      refine ⟨f', _, hemits, rfl, by omega, rfl, hemits.wrote, ?_, ?_, hentries'⟩
      · exact hemits.capacity.trans hcap
      · dsimp only
        omega

/-- The main loop emits symbols for the bytes it takes. -/
lemma mppcEncodeLoop_emits (hd0 : 0 < dstSize) (hd : dstSize < 2 ^ 32) {fuel : Nat}
    {src rest : List UInt8} (he : e.Ready level dstSize f)
    (hroom : e.historyPtr + src.length < level.historyBufferSize)
    (h : mppcEncodeLoop dstSize fuel e src = some (e', rest)) :
    ∃ f' chunk, MppcEmits level e e' f f' chunk ∧ src = chunk ++ rest ∧
      e'.Ready level dstSize f' := by
  induction fuel, e, src using mppcEncodeLoop.induct dstSize generalizing f with
  | case1 fuel e sym1 sym2 sym3 sym4 tail hnone =>
    simp [mppcEncodeLoop, hnone] at h
  | case2 fuel e sym1 sym2 sym3 sym4 tail e₁ rest₁ hsome ih =>
    rw [mppcEncodeLoop, hsome] at h
    obtain ⟨f₁, chunk, hemits, hsrc, -, he₁⟩ := mppcEncodeSymbol_emits he hd0 hd
      (by simp only [List.length_cons] at hroom ⊢; omega) hsome
    have hroom₁ : e₁.historyPtr + rest₁.length < level.historyBufferSize := by
      rw [hsrc, List.length_append] at hroom
      rw [hemits.historyPtr]
      omega
    obtain ⟨f₂, chunk', hemits', rfl, he'⟩ := ih he₁ hroom₁ h
    exact ⟨f₂, chunk ++ chunk', hemits.trans hemits', by rw [hsrc, List.append_assoc], he'⟩
  | case3 fuel e rest hrest =>
    rw [mppcEncodeLoop] at h
    · obtain ⟨rfl, rfl⟩ := Prod.mk.inj (Option.some.inj h)
      exact ⟨f, [], .refl he.wrote, rfl, he⟩
    · exact hrest

/-- The trailing bytes are emitted as literals. -/
lemma mppcEncodeTrailing_emits (hd0 : 0 < dstSize) (hd : dstSize < 2 ^ 32) {rest : List UInt8}
    (he : e.Ready level dstSize f) (h : mppcEncodeTrailing dstSize e rest = some e') :
    ∃ f', MppcEmits level e e' f f' rest ∧ e'.Ready level dstSize f' := by
  induction rest generalizing e f with
  | nil =>
    obtain rfl := Option.some.inj h
    exact ⟨f, .refl he.wrote, he⟩
  | cons sym rest ih =>
    rw [mppcEncodeTrailing, mppcDstLimit_eq hd0 hd] at h
    split at h
    · cases h
    · rename_i hfit
      obtain ⟨f₁, hemits, hpos⟩ := mppcEmits_literal level he.wrote sym
        { e.mppc with historyBuffer := Function.update e.mppc.historyBuffer e.historyPtr sym } rfl
      obtain ⟨f', hemits', he'⟩ := ih (e := ⟨_, { e.mppc with
          historyBuffer := Function.update e.mppc.historyBuffer e.historyPtr sym },
        e.historyPtr + 1⟩) ⟨he.compressionLevel, hemits.wrote, hemits.capacity.trans he.capacity,
          by dsimp only; omega, he.entries⟩ h
      exact ⟨f', hemits.trans hemits', he'⟩

/-- A packet that is not flushed is emitted as a whole. -/
lemma mppcEncode_emits (hd0 : 0 < dstSize) (hd : dstSize < 2 ^ 32) {src : List UInt8}
    (he : e.Ready level dstSize f) (hroom : e.historyPtr + src.length < level.historyBufferSize)
    (h : mppcEncode dstSize e src = some e') :
    ∃ f', MppcEmits level e e' f f' src ∧ e'.Ready level dstSize f' := by
  rw [mppcEncode] at h
  split at h
  · cases h
  · rename_i e₁ rest hloop
    obtain ⟨f₁, chunk, hemits, rfl, he₁⟩ := mppcEncodeLoop_emits hd0 hd he hroom hloop
    obtain ⟨f', hemits', he'⟩ := mppcEncodeTrailing_emits hd0 hd he₁ h
    exact ⟨f', hemits.trans hemits', he'⟩

end FreeRdp
