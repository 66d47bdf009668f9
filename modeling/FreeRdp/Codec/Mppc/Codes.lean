import FreeRdp.Codec.Mppc.Basic

/-!
# The MPPC codes

Every code of the compressor is read back by the decompressor from an accumulator that starts with
it. The bits after the code do not matter.
-/

namespace FreeRdp

/-- The top `k` bits of a 32 bit word, in place. -/
lemma and_top_bits {x : Nat} (hx : x < 2 ^ 32) {k : Nat} (hk : k ≤ 32) :
    x &&& (2 ^ k - 1) * 2 ^ (32 - k) = x / 2 ^ (32 - k) * 2 ^ (32 - k) := by
  have hlt : x / 2 ^ (32 - k) < 2 ^ k := by
    rw [Nat.div_lt_iff_lt_mul (Nat.two_pow_pos _), ← pow_add, Nat.add_sub_cancel' hk]
    exact hx
  rw [and_mask_shiftLeft, Nat.mod_eq_of_lt hlt]

/-- A mask test on the top `k` bits looks at these bits as a number. -/
lemma and_top_bits_eq_iff {x : Nat} (hx : x < 2 ^ 32) {k : Nat} (hk : k ≤ 32) (v : Nat) :
    x &&& (2 ^ k - 1) * 2 ^ (32 - k) = v * 2 ^ (32 - k) ↔ x / 2 ^ (32 - k) = v := by
  rw [and_top_bits hx hk]
  exact Nat.mul_left_inj (Nat.two_pow_pos _).ne'

/-- A field of `k` bits behind a marker `a`. -/
lemma or_field (a k x : Nat) : a * 2 ^ k ||| (x &&& (2 ^ k - 1)) = a * 2 ^ k + x % 2 ^ k := by
  rw [and_mask_eq_mod, ← Nat.shiftLeft_eq, shiftLeft_or_eq_add (Nat.mod_lt _ (Nat.two_pow_pos k)),
    Nat.shiftLeft_eq]

lemma shiftRight_and_field (x j k : Nat) : x >>> j &&& (2 ^ k - 1) = x / 2 ^ j % 2 ^ k := by
  rw [and_mask_eq_mod, Nat.shiftRight_eq_div_pow]

lemma mppcReadLiteral_code {sym : UInt8} {code n x : Nat} (hcode : mppcLiteralCode sym = (code, n))
    (hx : x < 2 ^ 32) (htop : x / 2 ^ (32 - n) = code) :
    mppcReadLiteral x = some (sym, n) := by
  have hsym := sym.toNat_lt
  have h1 : x &&& 0x80000000 = 0x00000000 ↔ x / 2 ^ 31 = 0 :=
    and_top_bits_eq_iff hx (k := 1) (by decide) 0
  have h2 : x &&& 0xC0000000 = 0x80000000 ↔ x / 2 ^ 30 = 2 :=
    and_top_bits_eq_iff hx (k := 2) (by decide) 2
  rw [mppcLiteralCode] at hcode
  split at hcode
  · -- the bit 0 and seven bits
    obtain ⟨rfl, rfl⟩ := Prod.mk.inj hcode
    have hfield : x &&& 0x7F000000 = x / 2 ^ 24 % 2 ^ 7 * 2 ^ 24 := and_mask_shiftLeft x 7 24
    have hvalue : (x &&& 0x7F000000) >>> 24 = sym.toNat := by
      rw [hfield, Nat.shiftRight_eq_div_pow]
      omega
    rw [mppcReadLiteral, if_pos (h1.mpr (by omega)), hvalue, UInt8.ofNat_toNat]
  · -- the bits 10 and seven bits
    obtain ⟨rfl, rfl⟩ := Prod.mk.inj hcode
    have hor : 0x100 ||| (sym.toNat &&& 0x7F) = 2 * 2 ^ 7 + sym.toNat % 2 ^ 7 := or_field 2 7 _
    have hfield : x &&& 0x3F800000 = x / 2 ^ 23 % 2 ^ 7 * 2 ^ 23 := and_mask_shiftLeft x 7 23
    have hvalue : (x &&& 0x3F800000) >>> 23 + 0x80 = sym.toNat := by
      rw [hfield, Nat.shiftRight_eq_div_pow]
      omega
    rw [hor] at htop
    rw [mppcReadLiteral, if_neg (mt h1.mp (by omega)), if_pos (h2.mpr (by omega)), hvalue,
      UInt8.ofNat_toNat]

lemma mppcLiteralCode_lt {sym : UInt8} {code n : Nat} (hcode : mppcLiteralCode sym = (code, n)) :
    8 ≤ n ∧ n ≤ 9 ∧ code < 2 ^ n := by
  rw [mppcLiteralCode] at hcode
  split at hcode
  · obtain ⟨rfl, rfl⟩ := Prod.mk.inj hcode
    omega
  · obtain ⟨rfl, rfl⟩ := Prod.mk.inj hcode
    have hor : 0x100 ||| (sym.toNat &&& 0x7F) = 2 * 2 ^ 7 + sym.toNat % 2 ^ 7 := or_field 2 7 _
    omega

/-- A match never looks like a literal. -/
lemma mppcReadLiteral_eq_none {x : Nat} (hx : x < 2 ^ 32) (htop : 3 ≤ x / 2 ^ 30) :
    mppcReadLiteral x = none := by
  have h1 : x &&& 0x80000000 = 0x00000000 ↔ x / 2 ^ 31 = 0 :=
    and_top_bits_eq_iff hx (k := 1) (by decide) 0
  have h2 : x &&& 0xC0000000 = 0x80000000 ↔ x / 2 ^ 30 = 2 :=
    and_top_bits_eq_iff hx (k := 2) (by decide) 2
  rw [mppcReadLiteral, if_neg (mt h1.mp (by omega)), if_neg (mt h2.mp (by omega))]

/-- An accumulator that starts with a marker `a` of `w` bits and a field of `k` bits. -/
lemma marker_field {x a w k y code : Nat} (h : w + k ≤ 32) (hcode : code = a * 2 ^ k + y % 2 ^ k)
    (htop : x / 2 ^ (32 - (w + k)) = code) :
    x / 2 ^ (32 - w) = a ∧ x >>> (32 - (w + k)) &&& (2 ^ k - 1) = y % 2 ^ k := by
  have hy : y % 2 ^ k < 2 ^ k := Nat.mod_lt _ (Nat.two_pow_pos k)
  constructor
  · rw [show 32 - w = 32 - (w + k) + k by omega, pow_add, ← Nat.div_div_eq_div_mul, htop,
      hcode, Nat.add_comm, Nat.add_mul_div_right _ _ (Nat.two_pow_pos k), Nat.div_eq_of_lt hy,
      Nat.zero_add]
  · rw [shiftRight_and_field, htop, hcode, Nat.mul_add_mod_self_right, Nat.mod_eq_of_lt hy]

/-- The code of an offset is read back, and starts with two ones. -/
lemma mppcReadCopyOffset_code {level : MppcLevel} {copyOffset : Nat}
    (hoffset : copyOffset < level.historyBufferSize) :
    ∃ code n, mppcCopyOffsetCode level copyOffset = some (code, n) ∧ 10 ≤ n ∧ n ≤ 19 ∧
      code < 2 ^ n ∧ ∀ x < 2 ^ 32, x / 2 ^ (32 - n) = code →
        3 ≤ x / 2 ^ 30 ∧ mppcReadCopyOffset level x = .ok (copyOffset, n) := by
  have t3 : ∀ {x}, x < 2 ^ 32 → (x &&& 0xE0000000 = 0xC0000000 ↔ x / 2 ^ 29 = 6) := fun hx =>
    and_top_bits_eq_iff hx (k := 3) (by decide) 6
  have t4 : ∀ {x}, x < 2 ^ 32 → (x &&& 0xF0000000 = 0xE0000000 ↔ x / 2 ^ 28 = 14) := fun hx =>
    and_top_bits_eq_iff hx (k := 4) (by decide) 14
  cases level with
  | rdp5 =>
    have t5 : ∀ {x}, x < 2 ^ 32 → (x &&& 0xF8000000 = 0xF0000000 ↔ x / 2 ^ 27 = 30) := fun hx =>
      and_top_bits_eq_iff hx (k := 5) (by decide) 30
    have t5' : ∀ {x}, x < 2 ^ 32 → (x &&& 0xF8000000 = 0xF8000000 ↔ x / 2 ^ 27 = 31) := fun hx =>
      and_top_bits_eq_iff hx (k := 5) (by decide) 31
    rw [MppcLevel.historyBufferSize] at hoffset
    simp only [mppcCopyOffsetCode, mppcReadCopyOffset]
    split_ifs with h64 h320 h2368
    · have hor : 0x07C0 ||| (copyOffset &&& 0x3F) = 31 * 2 ^ 6 + copyOffset % 2 ^ 6 := or_field 31 6 _
      refine ⟨_, _, rfl, by decide, by decide, by omega, fun x hx htop => ?_⟩
      obtain ⟨hmark, hfield⟩ := marker_field (w := 5) (k := 6) (by decide) hor htop
      simp only [t5' hx]
      rw [if_pos hmark, show x >>> 21 &&& 0x3F = _ from hfield, Nat.mod_eq_of_lt (by omega)]
      exact ⟨by omega, rfl⟩
    · have hor : 0x1E00 ||| (copyOffset - 64 &&& 0xFF) = 30 * 2 ^ 8 + (copyOffset - 64) % 2 ^ 8 :=
        or_field 30 8 _
      refine ⟨_, _, rfl, by decide, by decide, by omega, fun x hx htop => ?_⟩
      obtain ⟨hmark, hfield⟩ := marker_field (w := 5) (k := 8) (by decide) hor htop
      simp only [t5 hx, t5' hx]
      rw [if_neg (by omega), if_pos hmark, show x >>> 19 &&& 0xFF = _ from hfield,
        Nat.mod_eq_of_lt (by omega), Nat.sub_add_cancel h320.1]
      exact ⟨by omega, rfl⟩
    · have hor : 0x7000 ||| (copyOffset - 320 &&& 0x7FF) =
          14 * 2 ^ 11 + (copyOffset - 320) % 2 ^ 11 := or_field 14 11 _
      refine ⟨_, _, rfl, by decide, by decide, by omega, fun x hx htop => ?_⟩
      obtain ⟨hmark, hfield⟩ := marker_field (w := 4) (k := 11) (by decide) hor htop
      simp only [t4 hx, t5 hx, t5' hx]
      rw [if_neg (by omega), if_neg (by omega), if_pos hmark,
        show x >>> 17 &&& 0x7FF = _ from hfield, Nat.mod_eq_of_lt (by omega),
        Nat.sub_add_cancel h2368.1]
      exact ⟨by omega, rfl⟩
    · have hor : 0x060000 ||| (copyOffset - 2368 &&& 0xFFFF) =
          6 * 2 ^ 16 + (copyOffset - 2368) % 2 ^ 16 := or_field 6 16 _
      refine ⟨_, _, rfl, by decide, by decide, by omega, fun x hx htop => ?_⟩
      obtain ⟨hmark, hfield⟩ := marker_field (w := 3) (k := 16) (by decide) hor htop
      simp only [t3 hx, t4 hx, t5 hx, t5' hx]
      rw [if_neg (by omega), if_neg (by omega), if_neg (by omega), if_pos hmark,
        show x >>> 13 &&& 0xFFFF = _ from hfield, Nat.mod_eq_of_lt (by omega),
        Nat.sub_add_cancel (by omega)]
      exact ⟨by omega, rfl⟩
  | rdp4 =>
    have t4' : ∀ {x}, x < 2 ^ 32 → (x &&& 0xF0000000 = 0xF0000000 ↔ x / 2 ^ 28 = 15) := fun hx =>
      and_top_bits_eq_iff hx (k := 4) (by decide) 15
    rw [MppcLevel.historyBufferSize] at hoffset
    simp only [mppcCopyOffsetCode, mppcReadCopyOffset]
    split_ifs with h64 h320 h8192
    · have hor : 0x03C0 ||| (copyOffset &&& 0x3F) = 15 * 2 ^ 6 + copyOffset % 2 ^ 6 := or_field 15 6 _
      refine ⟨_, _, rfl, by decide, by decide, by omega, fun x hx htop => ?_⟩
      obtain ⟨hmark, hfield⟩ := marker_field (w := 4) (k := 6) (by decide) hor htop
      simp only [t4' hx]
      rw [if_pos hmark, show x >>> 22 &&& 0x3F = _ from hfield, Nat.mod_eq_of_lt (by omega)]
      exact ⟨by omega, rfl⟩
    · have hor : 0x0E00 ||| (copyOffset - 64 &&& 0xFF) = 14 * 2 ^ 8 + (copyOffset - 64) % 2 ^ 8 :=
        or_field 14 8 _
      refine ⟨_, _, rfl, by decide, by decide, by omega, fun x hx htop => ?_⟩
      obtain ⟨hmark, hfield⟩ := marker_field (w := 4) (k := 8) (by decide) hor htop
      simp only [t4 hx, t4' hx]
      rw [if_neg (by omega), if_pos hmark, show x >>> 20 &&& 0xFF = _ from hfield,
        Nat.mod_eq_of_lt (by omega), Nat.sub_add_cancel h320.1]
      exact ⟨by omega, rfl⟩
    · have hor : 0xC000 ||| (copyOffset - 320 &&& 0x1FFF) =
          6 * 2 ^ 13 + (copyOffset - 320) % 2 ^ 13 := or_field 6 13 _
      refine ⟨_, _, rfl, by decide, by decide, by omega, fun x hx htop => ?_⟩
      obtain ⟨hmark, hfield⟩ := marker_field (w := 3) (k := 13) (by decide) hor htop
      simp only [t3 hx, t4 hx, t4' hx]
      rw [if_neg (by omega), if_neg (by omega), if_pos hmark,
        show x >>> 16 &&& 0x1FFF = _ from hfield, Nat.mod_eq_of_lt (by omega),
        Nat.sub_add_cancel h8192.1]
      exact ⟨by omega, rfl⟩
    · omega

/-- A length of class `j` has a marker of `j` ones and a zero, and `j + 1` bits of the length. -/
lemma mppcLengthCode_class {level : MppcLevel} {j len : Nat} (hj : 1 ≤ j) (hj' : j ≤ 14)
    (hlevel : 12 ≤ j → level = .rdp5) (hlen : 2 ^ (j + 1) ≤ len) (hlt : len < 2 ^ (j + 2)) :
    mppcLengthCode level len =
      some ((2 ^ (j + 1) - 2) * 2 ^ (j + 1) + len % 2 ^ (j + 1), j + 1 + (j + 1)) := by
  rw [← or_field]
  simp only [mppcLengthCode]
  interval_cases j
  all_goals
    simp only [Nat.reduceAdd, Nat.reducePow, Nat.reduceSub, Nat.reduceMul] at hlen hlt ⊢
    repeat rw [if_neg (by omega)]
    rw [if_pos (by first | exact ⟨hlen, hlt⟩ | exact ⟨⟨hlen, hlt⟩, hlevel (by decide)⟩)]

/-- The marker of class `j` selects the branch of class `j`. -/
lemma mppcReadLength_class {level : MppcLevel} {j x : Nat} (hj : 1 ≤ j) (hj' : j ≤ 14)
    (hlevel : 12 ≤ j → level = .rdp5) (hx : x < 2 ^ 32)
    (hmark : x / 2 ^ (32 - (j + 1)) = 2 ^ (j + 1) - 2) :
    mppcReadLength level x = .ok ((x >>> (32 - (j + 1 + (j + 1))) &&& (2 ^ (j + 1) - 1)) +
      2 ^ (j + 1), j + 1 + (j + 1)) := by
  have t1 : x &&& 0x80000000 = 0x00000000 ↔ x / 2 ^ 31 = 0 :=
    and_top_bits_eq_iff hx (k := 1) (by decide) 0
  have t2 : x &&& 0xC0000000 = 0x80000000 ↔ x / 2 ^ 30 = 2 :=
    and_top_bits_eq_iff hx (k := 2) (by decide) 2
  have t3 : x &&& 0xE0000000 = 0xC0000000 ↔ x / 2 ^ 29 = 6 :=
    and_top_bits_eq_iff hx (k := 3) (by decide) 6
  have t4 : x &&& 0xF0000000 = 0xE0000000 ↔ x / 2 ^ 28 = 14 :=
    and_top_bits_eq_iff hx (k := 4) (by decide) 14
  have t5 : x &&& 0xF8000000 = 0xF0000000 ↔ x / 2 ^ 27 = 30 :=
    and_top_bits_eq_iff hx (k := 5) (by decide) 30
  have t6 : x &&& 0xFC000000 = 0xF8000000 ↔ x / 2 ^ 26 = 62 :=
    and_top_bits_eq_iff hx (k := 6) (by decide) 62
  have t7 : x &&& 0xFE000000 = 0xFC000000 ↔ x / 2 ^ 25 = 126 :=
    and_top_bits_eq_iff hx (k := 7) (by decide) 126
  have t8 : x &&& 0xFF000000 = 0xFE000000 ↔ x / 2 ^ 24 = 254 :=
    and_top_bits_eq_iff hx (k := 8) (by decide) 254
  have t9 : x &&& 0xFF800000 = 0xFF000000 ↔ x / 2 ^ 23 = 510 :=
    and_top_bits_eq_iff hx (k := 9) (by decide) 510
  have t10 : x &&& 0xFFC00000 = 0xFF800000 ↔ x / 2 ^ 22 = 1022 :=
    and_top_bits_eq_iff hx (k := 10) (by decide) 1022
  have t11 : x &&& 0xFFE00000 = 0xFFC00000 ↔ x / 2 ^ 21 = 2046 :=
    and_top_bits_eq_iff hx (k := 11) (by decide) 2046
  have t12 : x &&& 0xFFF00000 = 0xFFE00000 ↔ x / 2 ^ 20 = 4094 :=
    and_top_bits_eq_iff hx (k := 12) (by decide) 4094
  have t13 : x &&& 0xFFF80000 = 0xFFF00000 ↔ x / 2 ^ 19 = 8190 :=
    and_top_bits_eq_iff hx (k := 13) (by decide) 8190
  have t14 : x &&& 0xFFFC0000 = 0xFFF80000 ↔ x / 2 ^ 18 = 16382 :=
    and_top_bits_eq_iff hx (k := 14) (by decide) 16382
  have t15 : x &&& 0xFFFE0000 = 0xFFFC0000 ↔ x / 2 ^ 17 = 32766 :=
    and_top_bits_eq_iff hx (k := 15) (by decide) 32766
  simp only [mppcReadLength, t1, t2, t3, t4, t5, t6, t7, t8, t9, t10, t11, t12, t13, t14, t15]
  clear t1 t2 t3 t4 t5 t6 t7 t8 t9 t10 t11 t12 t13 t14 t15
  interval_cases j
  all_goals
    simp only [Nat.reduceAdd, Nat.reducePow, Nat.reduceSub] at hmark ⊢
    repeat rw [if_neg (by omega)]
    rw [if_pos (by first | exact hmark | exact ⟨hmark, hlevel (by decide)⟩)]

/-- The code of a length is read back. -/
lemma mppcReadLength_code {level : MppcLevel} {len : Nat} (hlen : 3 ≤ len)
    (hlt : len < level.historyBufferSize) :
    ∃ code n, mppcLengthCode level len = some (code, n) ∧ 1 ≤ n ∧ n ≤ 30 ∧ code < 2 ^ n ∧
      ∀ x < 2 ^ 32, x / 2 ^ (32 - n) = code → mppcReadLength level x = .ok (len, n) := by
  rcases hlen.eq_or_lt with rfl | h4
  · refine ⟨0, 1, rfl, by decide, by decide, by decide, fun x hx htop => ?_⟩
    have t1 : x &&& 0x80000000 = 0x00000000 ↔ x / 2 ^ 31 = 0 :=
      and_top_bits_eq_iff hx (k := 1) (by decide) 0
    rw [mppcReadLength, if_pos (t1.mpr htop)]
  · -- the class of `len`
    obtain ⟨j, hj⟩ : ∃ j, Nat.log 2 len = j + 1 :=
      ⟨Nat.log 2 len - 1, by
        have := Nat.log_pos (b := 2) (by decide) (by omega : 2 ≤ len)
        omega⟩
    have hlow : 2 ^ (j + 1) ≤ len := hj ▸ Nat.pow_log_le_self 2 (by omega)
    have hhigh : len < 2 ^ (j + 2) := by
      have := Nat.lt_pow_succ_log_self (b := 2) (by decide) len
      rwa [hj] at this
    have hj1 : 1 ≤ j := by
      by_contra h0
      rw [show j = 0 by omega] at hhigh
      omega
    have hsize : 2 ^ (j + 1) < level.historyBufferSize := hlow.trans_lt hlt
    have hj14 : j ≤ 14 := by
      by_contra h15
      have : 2 ^ 16 ≤ 2 ^ (j + 1) := Nat.pow_le_pow_right (by decide) (by omega)
      cases level <;> simp only [MppcLevel.historyBufferSize] at hsize <;> omega
    have hlevel : 12 ≤ j → level = .rdp5 := fun h12 => by
      have : 2 ^ 13 ≤ 2 ^ (j + 1) := Nat.pow_le_pow_right (by decide) (by omega)
      cases level with
      | rdp5 => rfl
      | rdp4 =>
        simp only [MppcLevel.historyBufferSize] at hsize
        omega
    have hmod : len % 2 ^ (j + 1) + 2 ^ (j + 1) = len := by
      have hdouble : 2 ^ (j + 2) = 2 * 2 ^ (j + 1) := pow_succ' 2 (j + 1)
      rw [Nat.mod_eq_sub_mod hlow, Nat.mod_eq_of_lt (by omega), Nat.sub_add_cancel hlow]
    refine ⟨_, _, mppcLengthCode_class hj1 hj14 hlevel hlow hhigh, by omega, by omega, ?_,
      fun x hx htop => ?_⟩
    · have hrem : len % 2 ^ (j + 1) < 2 ^ (j + 1) := Nat.mod_lt _ (Nat.two_pow_pos _)
      have hmark : 2 ^ (j + 1) - 2 + 1 ≤ 2 ^ (j + 1) := by omega
      calc (2 ^ (j + 1) - 2) * 2 ^ (j + 1) + len % 2 ^ (j + 1)
          < (2 ^ (j + 1) - 2 + 1) * 2 ^ (j + 1) := by rw [Nat.add_mul]; omega
        _ ≤ 2 ^ (j + 1) * 2 ^ (j + 1) := Nat.mul_le_mul_right _ hmark
        _ = 2 ^ (j + 1 + (j + 1)) := (pow_add 2 (j + 1) (j + 1)).symm
    · obtain ⟨hmark, hfield⟩ := marker_field (w := j + 1) (k := j + 1) (by omega) rfl htop
      rw [mppcReadLength_class hj1 hj14 hlevel hx hmark, hfield, hmod]

end FreeRdp
