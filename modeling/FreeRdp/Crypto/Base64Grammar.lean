import FreeRdp.Crypto.Base64RoundTrip

/-!
# The strings that base64 decodes

The grammar of padded base64, and the strings that the decoder accepts. The decoder has one code
for the padding character and for every character outside the alphabet, so it accepts any of them
as padding; and it treats a last block also in a string that has no block.
-/

namespace FreeRdp

variable {s m : Nat → UInt8} {d : Decoder} {c : UInt8} {a blocks length : Nat} {malloc : Malloc}

/-- The characters of the alphabet. -/
def InAlphabet (c : UInt8) : Prop := ∃ n < 64, base64 n = c

/-- Groups of four characters of the alphabet, the last of which may end in one or two padding
characters. -/
inductive PaddedBase64 : List UInt8 → Prop
  | empty : PaddedBase64 []
  | two {c0 c1 : UInt8} : InAlphabet c0 → InAlphabet c1 →
      PaddedBase64 [c0, c1, '='.toUInt8, '='.toUInt8]
  | one {c0 c1 c2 : UInt8} : InAlphabet c0 → InAlphabet c1 → InAlphabet c2 →
      PaddedBase64 [c0, c1, c2, '='.toUInt8]
  | group {c0 c1 c2 c3 : UInt8} {rest : List UInt8} : InAlphabet c0 → InAlphabet c1 →
      InAlphabet c2 → InAlphabet c3 → PaddedBase64 rest →
      PaddedBase64 (c0 :: c1 :: c2 :: c3 :: rest)

/-! ### The alphabet -/

instance : DecidablePred InAlphabet := fun c =>
  inferInstanceAs (Decidable (∃ n < 64, base64 n = c))

/-- Only the character of a number is decoded to it. -/
lemma base64_of_mem_base64DecodeChar {n : Nat} (h : n ∈ base64DecodeChar c) :
    n < 64 ∧ base64 n = c := by
  have hall : ∀ k < 256, ∀ n ∈ base64DecodeChar (UInt8.ofNat k),
      n < 64 ∧ base64 n = UInt8.ofNat k := by
    decide +kernel
  have hc := hall c.toNat c.toNat_lt
  rw [UInt8.ofNat_toNat] at hc
  exact hc n h

lemma base64DecodeChar_eq_none : base64DecodeChar c = none ↔ ¬InAlphabet c := by
  constructor
  · rintro hnone ⟨n, hn, rfl⟩
    rw [base64DecodeChar_base64 hn] at hnone
    cases hnone
  · intro hout
    refine Option.eq_none_iff_forall_not_mem.mpr fun n hn => hout ⟨n, ?_⟩
    exact base64_of_mem_base64DecodeChar hn

lemma base64DecodeChar_cases (c : UInt8) :
    ¬InAlphabet c ∧ base64DecodeChar c = none ∨
      InAlphabet c ∧ ∃ n, base64DecodeChar c = some n := by
  cases hc : base64DecodeChar c with
  | none => exact Or.inl ⟨base64DecodeChar_eq_none.mp hc, rfl⟩
  | some n =>
    right
    refine ⟨?_, n, rfl⟩
    by_contra hout
    rw [base64DecodeChar_eq_none.mpr hout] at hc
    cases hc

lemma not_inAlphabet_pad : ¬InAlphabet '='.toUInt8 :=
  base64DecodeChar_eq_none.mp base64DecodeChar_pad

/-! ### What the decoder accepts -/

/-- The last block from `a` on is accepted. -/
def AcceptsLast (s : Nat → UInt8) (a : Nat) : Prop :=
  InAlphabet (s a) ∧ InAlphabet (s (a + 1)) ∧ (InAlphabet (s (a + 2)) ∨ ¬InAlphabet (s (a + 3)))

lemma decodeBlock_accepts : (decodeBlock s d).2 = true ↔ InAlphabet (s d.s) ∧
    InAlphabet (s (d.s + 1)) ∧ InAlphabet (s (d.s + 2)) ∧ InAlphabet (s (d.s + 3)) := by
  rcases base64DecodeChar_cases (s d.s) with ⟨h0, e0⟩ | ⟨h0, n0, e0⟩ <;>
  rcases base64DecodeChar_cases (s (d.s + 1)) with ⟨h1, e1⟩ | ⟨h1, n1, e1⟩ <;>
  rcases base64DecodeChar_cases (s (d.s + 2)) with ⟨h2, e2⟩ | ⟨h2, n2, e2⟩ <;>
  rcases base64DecodeChar_cases (s (d.s + 3)) with ⟨h3, e3⟩ | ⟨h3, n3, e3⟩ <;>
  simp [decodeBlock, h0, h1, h2, h3, e0, e1, e2, e3]

lemma decodeBlock_s : (decodeBlock s d).1.s = d.s + 4 := by
  unfold decodeBlock
  dsimp only
  split <;> rfl

lemma decodeLast_accepts : (decodeLast s d).2 = true ↔ AcceptsLast s d.s := by
  rcases base64DecodeChar_cases (s d.s) with ⟨h0, e0⟩ | ⟨h0, n0, e0⟩ <;>
  rcases base64DecodeChar_cases (s (d.s + 1)) with ⟨h1, e1⟩ | ⟨h1, n1, e1⟩ <;>
  rcases base64DecodeChar_cases (s (d.s + 2)) with ⟨h2, e2⟩ | ⟨h2, n2, e2⟩ <;>
  rcases base64DecodeChar_cases (s (d.s + 3)) with ⟨h3, e3⟩ | ⟨h3, n3, e3⟩ <;>
  simp [decodeLast, AcceptsLast, h0, h1, h2, h3, e0, e1, e2, e3]

/-- Of the last block two characters at least are read. -/
lemma decodeLast_s : d.s + 2 ≤ (decodeLast s d).1.s ∧ (decodeLast s d).1.s ≤ d.s + 4 := by
  unfold decodeLast
  dsimp only
  split
  · split <;> exact ⟨Nat.add_le_add_left (by decide) _, Nat.le_refl _⟩
  · exact ⟨Nat.le_refl _, Nat.add_le_add_left (by decide) _⟩

lemma forall_lt_four_mul_succ {P : Nat → Prop} {n : Nat} : (∀ i < 4 * (n + 1), P i) ↔
    (P 0 ∧ P 1 ∧ P 2 ∧ P 3) ∧ ∀ i < 4 * n, P (4 + i) := by
  constructor
  · intro h
    exact ⟨⟨h 0 (by omega), h 1 (by omega), h 2 (by omega), h 3 (by omega)⟩,
      fun i hi => h (4 + i) (by omega)⟩
  · rintro ⟨⟨h0, h1, h2, h3⟩, h⟩ i hi
    match i with
    | 0 => exact h0
    | 1 => exact h1
    | 2 => exact h2
    | 3 => exact h3
    | i + 4 => exact Nat.add_comm i 4 ▸ h i (by omega)

/-- All blocks but the last are characters of the alphabet. -/
lemma decodeAll_accepts : (decodeAll s blocks d).2 = true ↔
    (∀ i < 4 * blocks, InAlphabet (s (d.s + i))) ∧ AcceptsLast s (d.s + 4 * blocks) := by
  induction blocks generalizing d with
  | zero => simpa [decodeAll_zero] using decodeLast_accepts
  | succ blocks ih =>
    have hblock := decodeBlock_accepts (s := s) (d := d)
    have hs := decodeBlock_s (s := s) (d := d)
    rw [decodeAll_succ, forall_lt_four_mul_succ, Nat.add_zero, ← hblock]
    rcases hd : decodeBlock s d with ⟨d', _ | _⟩
    · simp
    · have hs' : d'.s = d.s + 4 := by rwa [hd] at hs
      have hlast : d.s + 4 * (blocks + 1) = d.s + 4 + 4 * blocks := by omega
      simp only [ih, hs', hlast, true_and, ← Nat.add_assoc]

lemma decodeAll_s : (decodeAll s blocks d).1.s ≤ d.s + 4 * (blocks + 1) := by
  induction blocks generalizing d with
  | zero => exact decodeLast_s.2
  | succ blocks ih =>
    have hs := decodeBlock_s (s := s) (d := d)
    rw [decodeAll_succ]
    rcases hd : decodeBlock s d with ⟨d', _ | _⟩
    · rw [hd] at hs
      dsimp only at hs ⊢
      omega
    · rw [hd] at hs
      have htail := ih (d := d')
      dsimp only at hs ⊢
      omega

/-! ### What the grammar has -/

/-- The last group from `a` on, with its padding. -/
def PaddedLast (s : Nat → UInt8) (a : Nat) : Prop :=
  InAlphabet (s a) ∧ InAlphabet (s (a + 1)) ∧
    (InAlphabet (s (a + 2)) ∧ (InAlphabet (s (a + 3)) ∨ s (a + 3) = '='.toUInt8) ∨
      s (a + 2) = '='.toUInt8 ∧ s (a + 3) = '='.toUInt8)

lemma PaddedBase64.length_mod {x : List UInt8} (h : PaddedBase64 x) : x.length % 4 = 0 := by
  induction h with
  | empty => rfl
  | two | one => simp
  | group _ _ _ _ _ ih =>
    simp only [List.length_cons]
    omega

lemma paddedBase64_cons {c0 c1 c2 c3 : UInt8} {rest : List UInt8} :
    PaddedBase64 (c0 :: c1 :: c2 :: c3 :: rest) ↔ InAlphabet c0 ∧ InAlphabet c1 ∧
      (InAlphabet c2 ∧ InAlphabet c3 ∧ PaddedBase64 rest ∨
        (InAlphabet c2 ∨ c2 = '='.toUInt8) ∧ c3 = '='.toUInt8 ∧ rest = []) := by
  constructor
  · intro h
    cases h with
    | two h0 h1 => exact ⟨h0, h1, Or.inr ⟨Or.inr rfl, rfl, rfl⟩⟩
    | one h0 h1 h2 => exact ⟨h0, h1, Or.inr ⟨Or.inl h2, rfl, rfl⟩⟩
    | group h0 h1 h2 h3 hrest => exact ⟨h0, h1, Or.inl ⟨h2, h3, hrest⟩⟩
  · rintro ⟨h0, h1, ⟨h2, h3, hrest⟩ | ⟨h2 | rfl, rfl, rfl⟩⟩
    · exact .group h0 h1 h2 h3 hrest
    · exact .one h0 h1 h2
    · exact .two h0 h1

/-- All groups but the last are characters of the alphabet. -/
lemma paddedBase64_iff : PaddedBase64 (readList s a (4 * (blocks + 1))) ↔
    (∀ i < 4 * blocks, InAlphabet (s (a + i))) ∧ PaddedLast s (a + 4 * blocks) := by
  induction blocks generalizing a with
  | zero =>
    have hfour : readList s a (4 * (0 + 1)) = [s a, s (a + 1), s (a + 2), s (a + 3)] := rfl
    rw [hfour, paddedBase64_cons, PaddedLast, Nat.mul_zero, Nat.add_zero]
    simp only [PaddedBase64.empty, and_true, Nat.not_lt_zero, false_implies, implies_true, true_and]
    tauto
  | succ blocks ih =>
    have hfour : readList s a (4 * (blocks + 1 + 1)) = s a :: s (a + 1) :: s (a + 2) ::
      s (a + 3) :: readList s (a + 4) (4 * (blocks + 1)) := rfl
    have hrest : readList s (a + 4) (4 * (blocks + 1)) ≠ [] := by simp [readList]
    have hlast : a + 4 * (blocks + 1) = a + 4 + 4 * blocks := by omega
    rw [hfour, paddedBase64_cons, ih, forall_lt_four_mul_succ, hlast]
    simp only [hrest, and_false, or_false, Nat.add_zero, ← Nat.add_assoc]
    tauto

/-! ### The decoder and the grammar -/

/-- What the decoder should do with the string of the first characters of `s`: it accepts the
grammar, it decodes the empty string to the empty byte string, and it stays in the string. -/
def Base64Exact (malloc : Malloc) (m s : Nat → UInt8) (length : Nat) : Prop :=
  ((cryptoBase64Decode malloc m s length).result.isSome = true ↔
      PaddedBase64 (readList s 0 length)) ∧
    (length = 0 → ∃ data, (cryptoBase64Decode malloc m s length).result = some (data, 0)) ∧
    (cryptoBase64Decode malloc m s length).reads ≤ length

/-- With the first characters all in the alphabet, the last two are in the alphabet or the padding
character, which no other follows. -/
def ProperPadding (s : Nat → UInt8) (length : Nat) : Prop :=
  length % 4 = 0 → (∀ i < length - 2, InAlphabet (s i)) →
    InAlphabet (s (length - 1)) ∨
      s (length - 1) = '='.toUInt8 ∧
        (InAlphabet (s (length - 2)) ∨ s (length - 2) = '='.toUInt8)

lemma acceptsLast_iff_paddedLast (h0 : InAlphabet (s a)) (h1 : InAlphabet (s (a + 1))) :
    (AcceptsLast s a ↔ PaddedLast s a) ↔ InAlphabet (s (a + 3)) ∨
      s (a + 3) = '='.toUInt8 ∧ (InAlphabet (s (a + 2)) ∨ s (a + 2) = '='.toUInt8) := by
  have hpad2 : s (a + 2) = '='.toUInt8 → ¬InAlphabet (s (a + 2)) :=
    fun h => h ▸ not_inAlphabet_pad
  have hpad3 : s (a + 3) = '='.toUInt8 → ¬InAlphabet (s (a + 3)) :=
    fun h => h ▸ not_inAlphabet_pad
  unfold AcceptsLast PaddedLast
  tauto

/-- Two conditions on a last part, after the same first part. -/
lemma and_iff_and_iff {P Q A B X : Prop} (hlast : Q → ((A ↔ B) ↔ X)) (hA : A → Q) (hB : B → Q) :
    ((P ∧ A ↔ P ∧ B) ↔ (P ∧ Q → X)) := by
  tauto

/-- The decoder on a string of whole blocks. -/
lemma cryptoBase64Decode_blocks (hmax : 4 * (blocks + 1) ≤ INT_MAX)
    (hmalloc : malloc.succeeds ((blocks + 1) * 3 + 1) = true) :
    ((cryptoBase64Decode malloc m s (4 * (blocks + 1) : Nat)).result.isSome = true ↔
      (decodeAll s blocks ⟨0, 0, 0, m⟩).2 = true) ∧
    (cryptoBase64Decode malloc m s (4 * (blocks + 1) : Nat)).reads =
      (decodeAll s blocks ⟨0, 0, 0, m⟩).1.s := by
  have hbound : INT_MAX < 2 ^ 32 := by decide
  have hdiv : Int.tdiv (4 * (blocks + 1) : Nat) 4 = (blocks + 1 : Nat) := by
    rw [show (4 : Int) = (4 : Nat) from rfl, ← Int.ofNat_tdiv,
      Nat.mul_div_cancel_left _ (by decide)]
  have hmod : Int.tmod (4 * (blocks + 1) : Nat) 4 = 0 := by
    rw [show (4 : Int) = (4 : Nat) from rfl, ← Int.ofNat_tmod, Nat.mul_mod_right]
    rfl
  have hsize : ((blocks + 1 : Nat) * 3 + 1 : Int) = ((blocks + 1) * 3 + 1 : Nat) := by omega
  have hrounds : ((blocks + 1 : Nat) - 1 : Int).toNat = blocks := by omega
  rw [cryptoBase64Decode, base64Decode, hmod, if_neg (by decide), hdiv, hsize,
    reallocSize_one (by omega), if_pos hmalloc, hrounds]
  rcases decodeAll s blocks ⟨0, 0, 0, m⟩ with ⟨d, _ | _⟩ <;> simp

/-- The decoder does what it should exactly on the strings that are not empty and have nothing but
padding characters in the places for them. -/
theorem base64Exact_iff (hmax : length ≤ INT_MAX)
    (hmalloc : malloc.succeeds (length / 4 * 3 + 1) = true) :
    Base64Exact malloc m s length ↔ 0 < length ∧ ProperPadding s length := by
  rcases Nat.eq_zero_or_pos length with rfl | hpos
  · -- The last block is read also when there is none.
    refine iff_of_false ?_ (by simp)
    rintro ⟨-, -, hreads⟩
    have htwo := (decodeLast_s (s := s) (d := ⟨0, 0, 0, m⟩)).1
    have hsize : reallocSize 1 (Int.tdiv (0 : Nat) 4 * 3 + 1) = 0 / 4 * 3 + 1 := by decide
    rw [cryptoBase64Decode, base64Decode, if_neg (by decide), hsize, if_pos hmalloc] at hreads
    have hall : decodeAll s (Int.tdiv (0 : Nat) 4 - 1).toNat ⟨0, 0, 0, m⟩ =
        decodeLast s ⟨0, 0, 0, m⟩ := rfl
    rw [hall] at hreads
    rcases hd : decodeLast s ⟨0, 0, 0, m⟩ with ⟨d, _ | _⟩ <;>
    · rw [hd] at htwo hreads
      dsimp only at htwo hreads
      omega
  by_cases hmod : length % 4 = 0
  · obtain ⟨blocks, rfl⟩ : ∃ blocks, length = 4 * (blocks + 1) := ⟨length / 4 - 1, by omega⟩
    rw [show 4 * (blocks + 1) / 4 = blocks + 1 by omega] at hmalloc
    obtain ⟨hresult, hreads⟩ := cryptoBase64Decode_blocks (m := m) (s := s) hmax hmalloc
    have hs : (decodeAll s blocks ⟨0, 0, 0, m⟩).1.s ≤ 0 + 4 * (blocks + 1) := decodeAll_s
    rw [Base64Exact, hresult, hreads, decodeAll_accepts, paddedBase64_iff, ProperPadding]
    simp only [hpos, hmod, hpos.ne', false_implies, true_and, true_implies, Nat.zero_add] at hs ⊢
    simp only [hs, and_true]
    rw [show 4 * (blocks + 1) - 2 = 4 * blocks + 2 by omega,
      show 4 * (blocks + 1) - 1 = 4 * blocks + 3 by omega]
    have hsplit : (∀ i < 4 * blocks + 2, InAlphabet (s i)) ↔ (∀ i < 4 * blocks, InAlphabet (s i)) ∧
        InAlphabet (s (4 * blocks)) ∧ InAlphabet (s (4 * blocks + 1)) := by
      simp only [Nat.forall_lt_succ_right, and_assoc]
    rw [hsplit]
    exact and_iff_and_iff (fun h => acceptsLast_iff_paddedLast h.1 h.2) (fun h => ⟨h.1, h.2.1⟩)
      (fun h => ⟨h.1, h.2.1⟩)
  · -- A string that is not of whole groups is neither accepted nor in the grammar.
    have htmod : Int.tmod (length : Nat) 4 ≠ 0 := by
      rw [show (4 : Int) = (4 : Nat) from rfl, ← Int.ofNat_tmod]
      exact_mod_cast hmod
    have hpadded : ¬PaddedBase64 (readList s 0 length) := by
      intro h
      have hlength := h.length_mod
      rw [length_readList] at hlength
      exact hmod hlength
    refine iff_of_true ?_ ⟨hpos, fun h => absurd h hmod⟩
    rw [Base64Exact, cryptoBase64Decode, base64Decode, if_pos htmod]
    exact ⟨iff_of_false (by decide) hpadded, fun h => absurd h hpos.ne', Nat.zero_le _⟩

/-- Exclamation marks in the place of the padding. -/
theorem not_base64Exact : ¬Base64Exact mallocAll (fun _ => 0)
    (fun i => if i < 2 then 'A'.toUInt8 else '!'.toUInt8) 4 := by
  rintro ⟨haccepts, -⟩
  have hpadded := haccepts.mp (by decide +kernel)
  have hfour : readList (fun i => if i < 2 then 'A'.toUInt8 else '!'.toUInt8) 0 4 =
    ['A'.toUInt8, 'A'.toUInt8, '!'.toUInt8, '!'.toUInt8] := rfl
  rw [hfour, paddedBase64_cons] at hpadded
  revert hpadded
  have hout : ¬InAlphabet '!'.toUInt8 := base64DecodeChar_eq_none.mp (by decide +kernel)
  have hpad : '!'.toUInt8 ≠ '='.toUInt8 := by decide +kernel
  simp [hout, hpad]

/-- The encoding of a zero byte has its padding. -/
theorem base64Exact_iff_test : Base64Exact mallocAll (fun _ => 0)
      (fun i => if i < 2 then 'A'.toUInt8 else '='.toUInt8) 4 ↔
    0 < 4 ∧ ProperPadding (fun i => if i < 2 then 'A'.toUInt8 else '='.toUInt8) 4 :=
  base64Exact_iff (by decide) (by decide)

end FreeRdp
