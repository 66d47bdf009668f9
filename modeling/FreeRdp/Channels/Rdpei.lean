import FreeRdp.Core.Orders.Numbers

/-!
# Numbers of variable length in input events

The five encodings of `rdpei_common.c`. A number is written with the bytes it needs: the first one
has its high bits, its sign and how many bytes follow. `none` stands for a writer that returns
`FALSE`. The forms with more than one byte differ in the number of bytes alone, so the bytes behind
the first are written and read by a recursion on it.
-/

namespace FreeRdp

open WStream

/-! ### Bytes behind the first -/

/-- The low `n` bytes of a number, the highest first. From the fourth byte on only five bits are
written. -/
def rdpeiWriteRest (value : Nat) : Nat → List UInt8
  | 0 => []
  | n + 1 => bytesUInt8 ((value >>> (8 * n)) &&& (if n < 3 then 0xFF else 0x1F)) ++
      rdpeiWriteRest value n

/-- `byte << shift`. The shift by 24 is of an `int`, which is negative from 0x80 on. -/
def rdpeiShift (byte shift : Nat) : Nat :=
  if shift = 24 ∧ 0x80 ≤ byte then byte <<< 24 + (2 ^ 64 - 2 ^ 32) else byte <<< shift

/-- The bytes are put below the high bits. -/
def rdpeiReadRest (value : Nat) : Nat → Attempt WStream Nat
  | 0 => pure value
  | n + 1 => do
    let byte ← .takeUInt8
    rdpeiReadRest (value ||| rdpeiShift byte (8 * n)) n

/-! ### Two bytes -/

/-- `INT16` arithmetic. -/
def toInt16 (i : Int) : Int := Int.bmod i (2 ^ 16)

/-- `rdpei_read_2byte_unsigned`. -/
def rdpeiRead2byteUnsigned : Attempt WStream Nat := do
  .need 1
  let byte ← .takeUInt8
  if byte &&& 0x80 ≠ 0 then do
    .need 1
    let low ← .takeUInt8
    pure ((byte &&& 0x7F) <<< 8 ||| low)
  else pure (byte &&& 0x7F)

/-- `rdpei_write_2byte_unsigned`, the same as `update_write_2byte_unsigned`. -/
def rdpeiWrite2byteUnsigned (value : Nat) : Option (List UInt8) := updateWrite2byteUnsigned value

/-- `rdpei_read_2byte_signed`. -/
def rdpeiRead2byteSigned : Attempt WStream Int := do
  .need 1
  let byte ← .takeUInt8
  let value ← if byte &&& 0x80 ≠ 0 then do
      .need 1
      let low ← .takeUInt8
      pure ((byte &&& 0x3F) <<< 8 ||| low)
    else pure (byte &&& 0x3F)
  pure (if byte &&& 0x40 ≠ 0 then -(value : Int) else value)

/-- `rdpei_write_2byte_signed`. The smallest number has no opposite; all its low bits are zero. -/
def rdpeiWrite2byteSigned (value : Int) : Option (List UInt8) :=
  let sign := if value < 0 then 0x40 else 0
  let value := if value < 0 then toInt16 (-value) else value
  if value > 0x3FFF then none
  else if value ≥ 0x3F then
    some (bytesUInt8 (((value.toNat &&& 0x3F00) >>> 8 ||| sign) ||| 0x80) ++
      bytesUInt8 (value.toNat &&& 0xFF))
  else some (bytesUInt8 (value.toNat &&& 0x3F ||| sign))

/-! ### Four bytes -/

/-- `rdpei_read_4byte_unsigned`. -/
def rdpeiRead4byteUnsigned : Attempt WStream Nat := do
  .need 1
  let byte ← .takeUInt8
  let count := (byte &&& 0xC0) >>> 6
  .need count
  rdpeiReadRest ((byte &&& 0x3F) <<< (8 * count)) count

/-- `rdpei_write_4byte_unsigned`. -/
def rdpeiWrite4byteUnsigned (value : Nat) : Option (List UInt8) :=
  let form := fun count => some (bytesUInt8 ((value >>> (8 * count)) &&& 0x3F ||| count <<< 6) ++
    rdpeiWriteRest value count)
  if value ≤ 0x3F then some (bytesUInt8 value)
  else if value ≤ 0x3FFF then form 1
  else if value ≤ 0x3FFFFF then form 2
  else if value ≤ 0x3FFFFFFF then form 3
  else none

/-- `rdpei_read_4byte_signed`. -/
def rdpeiRead4byteSigned : Attempt WStream Int := do
  .need 1
  let byte ← .takeUInt8
  let count := (byte &&& 0xC0) >>> 6
  .need count
  let value ← rdpeiReadRest ((byte &&& 0x1F) <<< (8 * count)) count
  pure (if byte &&& 0x20 ≠ 0 then -(value : Int) else value)

/-- `rdpei_write_4byte_signed`. The smallest number has no opposite; all its low bits are zero. -/
def rdpeiWrite4byteSigned (value : Int) : Option (List UInt8) :=
  let sign := if value < 0 then 0x20 else 0
  let value := if value < 0 then toInt32 (-value) else value
  let form := fun count => some (bytesUInt8 (((value.toNat >>> (8 * count)) &&& 0x1F ||| sign) |||
    count <<< 6) ++ rdpeiWriteRest value.toNat count)
  if value ≤ 0x1F then form 0
  else if value ≤ 0x1FFF then form 1
  else if value ≤ 0x1FFFFF then form 2
  else if value ≤ 0x1FFFFFFF then form 3
  else none

/-! ### Eight bytes -/

/-- `rdpei_read_8byte_unsigned`. -/
def rdpeiRead8byteUnsigned : Attempt WStream Nat := do
  .need 1
  let byte ← .takeUInt8
  let count := (byte &&& 0xE0) >>> 5
  .need count
  rdpeiReadRest ((byte &&& 0x1F) <<< (8 * count)) count

/-- `rdpei_write_8byte_unsigned`. -/
def rdpeiWrite8byteUnsigned (value : Nat) : Option (List UInt8) :=
  let form := fun count => some (bytesUInt8 ((value >>> (8 * count)) &&& 0x1F ||| count <<< 5) ++
    rdpeiWriteRest value count)
  if value ≤ 0x1F then form 0
  else if value ≤ 0x1FFF then form 1
  else if value ≤ 0x1FFFFF then form 2
  else if value ≤ 0x1FFFFFFF then form 3
  else if value ≤ 0x1FFFFFFFFF then form 4
  else if value ≤ 0x1FFFFFFFFFFF then form 5
  else if value ≤ 0x1FFFFFFFFFFFFF then form 6
  else if value ≤ 0x1FFFFFFFFFFFFFFF then form 7
  else none

/-! ### What the bytes carry -/

/-- The number that the bytes behind the first carry. -/
def rdpeiCarried (value : Nat) : Nat → Nat
  | 0 => 0
  | n + 1 => ((value >>> (8 * n)) &&& (if n < 3 then 0xFF else 0x1F)) * 2 ^ (8 * n) +
      rdpeiCarried value n

lemma length_rdpeiWriteRest (value n : Nat) : (rdpeiWriteRest value n).length = n := by
  induction n with
  | zero => rfl
  | succ n ih =>
    rw [rdpeiWriteRest, List.length_append, ih]
    exact Nat.add_comm 1 n

lemma and_1F (v : Nat) : v &&& 0x1F = v % 32 := and_mask_eq_mod v 5

/-- What is written of a byte. -/
lemma rdpeiByte (value n : Nat) : (value >>> (8 * n)) &&& (if n < 3 then 0xFF else 0x1F) =
    if n < 3 then value / 2 ^ (8 * n) % 256 else value / 2 ^ (8 * n) % 32 := by
  rw [Nat.shiftRight_eq_div_pow]
  split
  · exact and_FF _
  · exact and_1F _

lemma rdpeiCarried_lt (value n : Nat) : rdpeiCarried value n < 2 ^ (8 * n) := by
  induction n with
  | zero => exact Nat.one_pos
  | succ n ih =>
    have hbyte : (value >>> (8 * n)) &&& (if n < 3 then 0xFF else 0x1F) ≤ 255 := by
      rw [rdpeiByte]
      split <;> omega
    have hmul := Nat.mul_le_mul_right (2 ^ (8 * n)) hbyte
    have hpow : 2 ^ (8 * (n + 1)) = 256 * 2 ^ (8 * n) := by ring
    rw [rdpeiCarried]
    omega

lemma mul_add_eq_iff {a b c d m : Nat} (hc : c < m) (hd : d < m) :
    a * m + c = b * m + d ↔ a = b ∧ c = d := by
  constructor
  · intro h
    have hmod := congrArg (· % m) h
    simp only [Nat.mul_add_mod', Nat.mod_eq_of_lt hc, Nat.mod_eq_of_lt hd] at hmod
    have hmul : a * m = b * m := by omega
    exact ⟨Nat.eq_of_mul_eq_mul_right (Nat.zero_lt_of_lt hc) hmul, hmod⟩
  · rintro ⟨rfl, rfl⟩
    rfl

/-- The bytes carry the low part of the number if those with five bits are small enough. -/
lemma rdpeiCarried_eq_iff (value n : Nat) : rdpeiCarried value n = value % 2 ^ (8 * n) ↔
    ∀ j < n, 3 ≤ j → value / 2 ^ (8 * j) % 256 < 32 := by
  induction n with
  | zero => simp [rdpeiCarried, Nat.mod_one]
  | succ n ih =>
    have hlt := rdpeiCarried_lt value n
    have hmod : value % 2 ^ (8 * (n + 1)) =
        value / 2 ^ (8 * n) % 256 * 2 ^ (8 * n) + value % 2 ^ (8 * n) := by
      rw [show 2 ^ (8 * (n + 1)) = 2 ^ (8 * n) * 256 by ring, Nat.mod_mul, Nat.add_comm,
        Nat.mul_comm]
    have hlow : value % 2 ^ (8 * n) < 2 ^ (8 * n) := Nat.mod_lt _ (Nat.two_pow_pos _)
    have hbyte : (if n < 3 then value / 2 ^ (8 * n) % 256 else value / 2 ^ (8 * n) % 32) =
        value / 2 ^ (8 * n) % 256 ↔ (3 ≤ n → value / 2 ^ (8 * n) % 256 < 32) := by
      split <;> omega
    rw [rdpeiCarried, hmod, rdpeiByte, mul_add_eq_iff hlt hlow, hbyte, ih, and_comm,
      Nat.forall_lt_succ_right]

/-- The bytes are read back as what they carry. -/
lemma reads_rdpeiReadRest {high : Nat} (value n : Nat) (hhigh : 2 ^ (8 * n) ∣ high) :
    (rdpeiReadRest high n).Reads (rdpeiWriteRest value n) (high + rdpeiCarried value n) := by
  induction n generalizing high with
  | zero => exact Attempt.reads_pure high
  | succ n ih =>
    have hpow : 2 ^ (8 * (n + 1)) = 256 * 2 ^ (8 * n) := by ring
    obtain ⟨byte, hbyte⟩ : ∃ byte, (value >>> (8 * n)) &&& (if n < 3 then 0xFF else 0x1F) = byte :=
      ⟨_, rfl⟩
    have hlt : byte < 2 ^ 8 ∧ (n = 3 → byte < 0x80) := by
      rw [← hbyte, rdpeiByte]
      split <;> omega
    have hshift : rdpeiShift byte (8 * n) = byte <<< (8 * n) := by
      rw [rdpeiShift, if_neg (by omega)]
    -- the byte comes below the bits that are there
    have hor : high ||| byte <<< (8 * n) = high + byte * 2 ^ (8 * n) := by
      obtain ⟨k, rfl⟩ := hhigh
      have hsmall : byte <<< (8 * n) < 2 ^ (8 * (n + 1)) := by
        rw [Nat.shiftLeft_eq, hpow]
        exact Nat.mul_lt_mul_of_pos_right hlt.1 (Nat.two_pow_pos _)
      have hshiftk := shiftLeft_or_eq_add hsmall k
      rw [Nat.shiftLeft_eq, Nat.mul_comm k] at hshiftk
      rw [hshiftk, Nat.shiftLeft_eq]
    rw [rdpeiWriteRest, rdpeiCarried, hbyte, ← Nat.add_assoc]
    refine (Attempt.reads_takeUInt8 hlt.1).bind ?_
    rw [hshift, hor]
    exact ih ((Dvd.dvd.trans ⟨256, by rw [hpow]; ring⟩ hhigh).add (Dvd.intro_left _ rfl))

/-- A number whose high bits come with the first byte. -/
lemma rdpeiCarried_eq_of_lt {value count width : Nat} (hvalue : value < 2 ^ (8 * count + width)) :
    value / 2 ^ (8 * count) < 2 ^ width ∧
      value / 2 ^ (8 * count) * 2 ^ (8 * count) + value % 2 ^ (8 * count) = value := by
  refine ⟨?_, Nat.div_add_mod' _ _⟩
  rw [Nat.div_lt_iff_lt_mul (Nat.two_pow_pos _), ← Nat.pow_add, Nat.add_comm]
  exact hvalue

/-- What the bits of a first byte say. -/
lemma rdpeiByte_bits {n : Nat} (hn : n < 2 ^ 8) :
    (n &&& 0xC0) >>> 6 = n / 64 ∧ (n &&& 0x20 ≠ 0 ↔ 32 ≤ n % 64) ∧ (n &&& 0xE0) >>> 5 = n / 32 := by
  have h : ∀ n < 256, (n &&& 0xC0) >>> 6 = n / 64 ∧ (n &&& 0x20 ≠ 0 ↔ 32 ≤ n % 64) ∧
      (n &&& 0xE0) >>> 5 = n / 32 := by
    decide +kernel
  exact h n hn

section Forms

variable {value : Nat}

/-- A number of at most four bytes is carried as a whole. -/
lemma rdpeiCarried_eq_mod {count : Nat} (hcount : count ≤ 3) :
    rdpeiCarried value count = value % 2 ^ (8 * count) := by
  rw [rdpeiCarried_eq_iff]
  intro j hj hj'
  omega

lemma reads_rdpeiRead4byteUnsigned (count : Nat) (hcount : count ≤ 3)
    (hvalue : value < 2 ^ (8 * count + 6)) :
    rdpeiRead4byteUnsigned.Reads (bytesUInt8 ((value >>> (8 * count)) &&& 0x3F ||| count <<< 6) ++
      rdpeiWriteRest value count) value := by
  obtain ⟨hhigh, hsplit⟩ := rdpeiCarried_eq_of_lt hvalue
  rw [Nat.shiftRight_eq_div_pow, and_3F, Nat.mod_eq_of_lt (b := 64) hhigh, Nat.or_comm,
    shiftLeft_or_eq_add (i := 6) hhigh]
  generalize value / 2 ^ (8 * count) = high at hhigh hsplit ⊢
  have hbyte : count * 2 ^ 6 + high < 2 ^ 8 := by omega
  refine Attempt.reads_need_bind (by simp [bytesUInt8]) ?_
  refine (Attempt.reads_takeUInt8 hbyte).bind ?_
  dsimp only
  have hcountBits : (count * 2 ^ 6 + high) / 64 = count := by omega
  have hhighBits : (count * 2 ^ 6 + high) % 64 = high := by omega
  rw [(rdpeiByte_bits hbyte).1, hcountBits, and_3F, hhighBits, Nat.shiftLeft_eq]
  refine Attempt.reads_need_bind (length_rdpeiWriteRest value count).ge ?_
  have hrest := reads_rdpeiReadRest value count (Dvd.intro_left high rfl)
  rwa [rdpeiCarried_eq_mod hcount, hsplit] at hrest

lemma reads_rdpeiRead4byteSigned {sign : Nat} (hsign : sign = 0 ∨ sign = 0x20) (count : Nat)
    (hcount : count ≤ 3)
    (hvalue : value < 2 ^ (8 * count + 5)) :
    rdpeiRead4byteSigned.Reads (bytesUInt8 (((value >>> (8 * count)) &&& 0x1F ||| sign) |||
      count <<< 6) ++ rdpeiWriteRest value count)
      (if 32 ≤ sign then -(value : Int) else value) := by
  obtain ⟨hhigh, hsplit⟩ := rdpeiCarried_eq_of_lt hvalue
  have hor : value / 2 ^ (8 * count) ||| sign = value / 2 ^ (8 * count) + sign := by
    obtain rfl | rfl := hsign
    · exact Nat.or_zero _
    · rw [Nat.or_comm, Nat.add_comm]
      exact two_pow_or_eq_add (i := 5) hhigh
  rw [Nat.shiftRight_eq_div_pow, and_1F, Nat.mod_eq_of_lt (b := 32) hhigh, hor, Nat.or_comm,
    shiftLeft_or_eq_add (i := 6) (by omega)]
  generalize value / 2 ^ (8 * count) = high at hhigh hsplit ⊢
  have hbyte : count * 2 ^ 6 + (high + sign) < 2 ^ 8 := by omega
  refine Attempt.reads_need_bind (by simp [bytesUInt8]) ?_
  refine (Attempt.reads_takeUInt8 hbyte).bind ?_
  dsimp only
  have hcountBits : (count * 2 ^ 6 + (high + sign)) / 64 = count := by omega
  have hhighBits : (count * 2 ^ 6 + (high + sign)) % 32 = high := by omega
  have hsignBit : (count * 2 ^ 6 + (high + sign)) &&& 0x20 ≠ 0 ↔ 32 ≤ sign := by
    rw [(rdpeiByte_bits hbyte).2.1]
    omega
  rw [(rdpeiByte_bits hbyte).1, hcountBits, and_1F, hhighBits, Nat.shiftLeft_eq]
  refine Attempt.reads_need_bind (length_rdpeiWriteRest value count).ge ?_
  have hrest := reads_rdpeiReadRest value count (Dvd.intro_left high rfl)
  rw [rdpeiCarried_eq_mod hcount, hsplit] at hrest
  simp only [hsignBit]
  exact hrest.map fun value => if 32 ≤ sign then -(value : Int) else value

lemma reads_rdpeiRead8byteUnsigned (count : Nat) (hcount : count ≤ 7)
    (hvalue : value < 2 ^ (8 * count + 5)) :
    rdpeiRead8byteUnsigned.Reads (bytesUInt8 ((value >>> (8 * count)) &&& 0x1F ||| count <<< 5) ++
      rdpeiWriteRest value count)
      (value / 2 ^ (8 * count) * 2 ^ (8 * count) + rdpeiCarried value count) := by
  obtain ⟨hhigh, -⟩ := rdpeiCarried_eq_of_lt hvalue
  rw [Nat.shiftRight_eq_div_pow, and_1F, Nat.mod_eq_of_lt (b := 32) hhigh, Nat.or_comm,
    shiftLeft_or_eq_add (i := 5) hhigh]
  generalize value / 2 ^ (8 * count) = high at hhigh ⊢
  have hbyte : count * 2 ^ 5 + high < 2 ^ 8 := by omega
  refine Attempt.reads_need_bind (by simp [bytesUInt8]) ?_
  refine (Attempt.reads_takeUInt8 hbyte).bind ?_
  dsimp only
  have hcountBits : (count * 2 ^ 5 + high) / 32 = count := by omega
  have hhighBits : (count * 2 ^ 5 + high) % 32 = high := by omega
  rw [(rdpeiByte_bits hbyte).2.2, hcountBits, and_1F, hhighBits, Nat.shiftLeft_eq]
  refine Attempt.reads_need_bind (length_rdpeiWriteRest value count).ge ?_
  exact reads_rdpeiReadRest value count (Dvd.intro_left high rfl)

end Forms

/-! ### Two bytes are read back -/

lemma reads_rdpeiRead2byteUnsigned {value : Nat} {bytes : List UInt8}
    (h : rdpeiWrite2byteUnsigned value = some bytes) :
    rdpeiRead2byteUnsigned.Reads bytes value := by
  unfold rdpeiWrite2byteUnsigned updateWrite2byteUnsigned at h
  split at h
  · exact absurd h nofun
  split at h <;> cases h
  · rw [and_7F00_shiftRight, or_128 (by omega), and_FF]
    have hbyte : value / 256 % 128 + 0x80 < 2 ^ 8 := by omega
    refine Attempt.reads_need_bind (by simp [bytesUInt8]) ?_
    refine (Attempt.reads_takeUInt8 hbyte).bind ?_
    rw [if_pos ((byte_bits hbyte).1.mpr (by omega))]
    refine Attempt.reads_need_bind (by simp [bytesUInt8]) ?_
    rw [← List.append_nil (bytesUInt8 (value % 256))]
    refine (Attempt.reads_takeUInt8 (by omega)).bind ?_
    have hvalue : ((value / 256 % 128 + 0x80) &&& 0x7F) <<< 8 ||| value % 256 = value := by
      rw [and_7F, shiftLeft_or_eq_add (i := 8) (by omega)]
      omega
    rw [hvalue]
    exact Attempt.reads_pure value
  · rw [and_7F, ← List.append_nil (bytesUInt8 _)]
    have hbyte : value % 128 < 2 ^ 8 := by omega
    refine Attempt.reads_need_bind (by simp [bytesUInt8]) ?_
    refine (Attempt.reads_takeUInt8 hbyte).bind ?_
    rw [if_neg (fun h => by have := (byte_bits hbyte).1.mp h; omega), and_7F]
    have hvalue : value % 128 % 128 = value := by omega
    rw [hvalue]
    exact Attempt.reads_pure value

/-- The sign and the number without it. -/
lemma rdpeiSign {value opposite : Int} (bit : Nat) (hbit : 0 < bit)
    (hopposite : value < 0 → opposite = -value) : ∃ sign : Nat,
      (if value < 0 then bit else 0) = sign ∧
      (if value < 0 then opposite else value) = value.natAbs ∧ (sign = 0 ∨ sign = bit) ∧
      (if bit ≤ sign then -(value.natAbs : Int) else value.natAbs) = value := by
  by_cases hneg : value < 0
  · refine ⟨bit, if_pos hneg, ?_, .inr rfl, ?_⟩
    · rw [if_pos hneg, hopposite hneg]
      omega
    · rw [if_pos le_rfl]
      omega
  · refine ⟨0, if_neg hneg, ?_, .inl rfl, ?_⟩
    · rw [if_neg hneg]
      omega
    · rw [if_neg (by omega)]
      omega

lemma toInt16_neg {value : Int} (hmin : -2 ^ 15 < value) (h : value < 0) :
    toInt16 (-value) = -value := by
  unfold toInt16
  rw [Int.bmod_eq_of_le] <;> omega

lemma reads_rdpeiRead2byteSigned {value : Int} {bytes : List UInt8} (hmin : -2 ^ 15 < value)
    (h : rdpeiWrite2byteSigned value = some bytes) : rdpeiRead2byteSigned.Reads bytes value := by
  obtain ⟨sign, hsign, habs, hor, hvalue⟩ := rdpeiSign 0x40 (by decide) (toInt16_neg hmin)
  unfold rdpeiWrite2byteSigned at h
  simp only [hsign, habs, Int.toNat_natCast] at h
  generalize value.natAbs = n at h hvalue
  clear habs hsign
  have hbit : ∀ x < 64, x ||| sign = x + sign := by
    rintro x hx
    obtain rfl | rfl := hor
    · exact Nat.or_zero x
    · exact or_64 hx
  split at h
  · exact absurd h nofun
  split at h <;> cases h
  · rw [and_3F00_shiftRight, hbit _ (by omega), or_128 (by omega), and_FF]
    have hbyte : n / 256 % 64 + sign + 0x80 < 2 ^ 8 := by omega
    have hsignBit : (n / 256 % 64 + sign + 0x80) &&& 0x40 ≠ 0 ↔ 64 ≤ sign := by
      rw [(byte_bits hbyte).2.1]
      omega
    refine Attempt.reads_need_bind (by simp [bytesUInt8]) ?_
    refine (Attempt.reads_takeUInt8 hbyte).bind ?_
    rw [if_pos ((byte_bits hbyte).1.mpr (by omega)), ← List.append_nil (bytesUInt8 (n % 256))]
    have hn : ((n / 256 % 64 + sign + 0x80) &&& 0x3F) <<< 8 ||| n % 256 = n := by
      rw [and_3F, shiftLeft_or_eq_add (i := 8) (by omega)]
      omega
    refine Attempt.reads_need_bind (by simp [bytesUInt8]) ?_
    refine (Attempt.reads_takeUInt8 (by omega)).bind ?_
    rw [hn, ← List.append_nil []]
    refine (Attempt.reads_pure n).bind ?_
    simp only [hsignBit, hvalue]
    exact Attempt.reads_pure value
  · rw [and_3F, hbit _ (by omega), ← List.append_nil (bytesUInt8 _)]
    have hbyte : n % 64 + sign < 2 ^ 8 := by omega
    have hsignBit : (n % 64 + sign) &&& 0x40 ≠ 0 ↔ 64 ≤ sign := by
      rw [(byte_bits hbyte).2.1]
      omega
    refine Attempt.reads_need_bind (by simp [bytesUInt8]) ?_
    refine (Attempt.reads_takeUInt8 hbyte).bind ?_
    rw [if_neg (fun h => by have := (byte_bits hbyte).1.mp h; omega), and_3F, ← List.append_nil []]
    have hn : (n % 64 + sign) % 64 = n := by omega
    rw [hn]
    refine (Attempt.reads_pure n).bind ?_
    simp only [hsignBit, hvalue]
    exact Attempt.reads_pure value

/-! ### Which numbers come back -/

/-- A number of the type that one of the writers takes. -/
inductive RdpeiNumber where
  | unsigned2 (value : UInt16)
  | signed2 (value : Int16)
  | unsigned4 (value : UInt32)
  | signed4 (value : Int32)
  | unsigned8 (value : UInt64)

/-- A number is written if and only if it is representable, and is read back then. -/
def RdpeiRoundTrips {α : Type} (write : α → Option (List UInt8)) (read : Attempt WStream α)
    (representable : α → Prop) (value : α) : Prop :=
  ((write value).isSome = true ↔ representable value) ∧
    ∀ bytes, write value = some bytes → read.Reads bytes value

/-- The number comes back. -/
def RdpeiNumber.RoundTrips : RdpeiNumber → Prop
  | .unsigned2 value => RdpeiRoundTrips rdpeiWrite2byteUnsigned rdpeiRead2byteUnsigned
    (fun v => v < 2 ^ 15) value.toNat
  | .signed2 value => RdpeiRoundTrips rdpeiWrite2byteSigned rdpeiRead2byteSigned
    (fun v => v.natAbs < 2 ^ 14) value.toInt
  | .unsigned4 value => RdpeiRoundTrips rdpeiWrite4byteUnsigned rdpeiRead4byteUnsigned
    (fun v => v < 2 ^ 30) value.toNat
  | .signed4 value => RdpeiRoundTrips rdpeiWrite4byteSigned rdpeiRead4byteSigned
    (fun v => v.natAbs < 2 ^ 29) value.toInt
  | .unsigned8 value => RdpeiRoundTrips rdpeiWrite8byteUnsigned rdpeiRead8byteUnsigned
    (fun v => v < 2 ^ 61) value.toNat

/-- The smallest numbers do not come back, nor do eight-byte numbers that can be written and of
which one of the bytes 3 to 6 has one of its high three bits set. -/
def RdpeiNumber.Fits : RdpeiNumber → Prop
  | .unsigned2 _ => True
  | .signed2 value => value.toInt ≠ -2 ^ 15
  | .unsigned4 _ => True
  | .signed4 value => value.toInt ≠ -2 ^ 31
  | .unsigned8 value => 2 ^ 61 ≤ value.toNat ∨
    ∀ j ∈ [3, 4, 5, 6], value.toNat / 2 ^ (8 * j) % 256 < 32

lemma rdpeiRoundTrips_unsigned2 (value : Nat) : RdpeiRoundTrips rdpeiWrite2byteUnsigned
    rdpeiRead2byteUnsigned (fun v => v < 2 ^ 15) value := by
  refine ⟨?_, fun bytes h => reads_rdpeiRead2byteUnsigned h⟩
  unfold rdpeiWrite2byteUnsigned updateWrite2byteUnsigned
  split
  · exact iff_of_false (by simp) (by omega)
  · refine iff_of_true ?_ (by omega)
    split <;> rfl

lemma rdpeiRoundTrips_unsigned4 (value : Nat) : RdpeiRoundTrips rdpeiWrite4byteUnsigned
    rdpeiRead4byteUnsigned (fun v => v < 2 ^ 30) value := by
  have hform : ∀ count ≤ 3, value < 2 ^ (8 * count + 6) → ∀ bytes,
      some (bytesUInt8 ((value >>> (8 * count)) &&& 0x3F ||| count <<< 6) ++
        rdpeiWriteRest value count) = some bytes → rdpeiRead4byteUnsigned.Reads bytes value := by
    rintro count hcount hvalue bytes ⟨⟩
    exact reads_rdpeiRead4byteUnsigned count hcount hvalue
  unfold RdpeiRoundTrips rdpeiWrite4byteUnsigned
  dsimp only
  split
  · rename_i hle
    have hfirst : bytesUInt8 value = bytesUInt8 ((value >>> (8 * 0)) &&& 0x3F ||| 0 <<< 6) ++
        rdpeiWriteRest value 0 := by
      have hvalue : (value >>> (8 * 0)) &&& 0x3F ||| 0 <<< 6 = value := by
        simp only [Nat.mul_zero, Nat.shiftRight_zero, Nat.zero_shiftLeft, Nat.or_zero, and_3F]
        omega
      rw [hvalue]
      rfl
    rw [hfirst]
    exact ⟨iff_of_true rfl (by omega), hform 0 (by decide) (by omega)⟩
  split
  · exact ⟨iff_of_true rfl (by omega), hform 1 (by decide) (by omega)⟩
  split
  · exact ⟨iff_of_true rfl (by omega), hform 2 (by decide) (by omega)⟩
  split
  · exact ⟨iff_of_true rfl (by omega), hform 3 (by decide) (by omega)⟩
  · exact ⟨iff_of_false (by simp) (by omega), nofun⟩

lemma rdpeiRoundTrips_signed4 {value : Int} (hmin : -2 ^ 31 < value) : RdpeiRoundTrips
    rdpeiWrite4byteSigned rdpeiRead4byteSigned (fun v => v.natAbs < 2 ^ 29) value := by
  obtain ⟨sign, hsign, habs, hor, hvalue⟩ :=
    rdpeiSign 0x20 (by decide) fun hneg => toInt32_neg hneg hmin
  have hform : ∀ count ≤ 3, value.natAbs < 2 ^ (8 * count + 5) → ∀ bytes,
      some (bytesUInt8 (((value.natAbs >>> (8 * count)) &&& 0x1F ||| sign) ||| count <<< 6) ++
        rdpeiWriteRest value.natAbs count) = some bytes →
          rdpeiRead4byteSigned.Reads bytes value := by
    rintro count hcount hlt bytes ⟨⟩
    have hread := reads_rdpeiRead4byteSigned hor count hcount hlt
    rwa [hvalue] at hread
  unfold RdpeiRoundTrips rdpeiWrite4byteSigned
  simp only [hsign, habs, Int.toNat_natCast]
  clear hsign habs hvalue
  generalize value.natAbs = n at hform ⊢
  split
  · exact ⟨iff_of_true rfl (by omega), hform 0 (by decide) (by omega)⟩
  split
  · exact ⟨iff_of_true rfl (by omega), hform 1 (by decide) (by omega)⟩
  split
  · exact ⟨iff_of_true rfl (by omega), hform 2 (by decide) (by omega)⟩
  split
  · exact ⟨iff_of_true rfl (by omega), hform 3 (by decide) (by omega)⟩
  · exact ⟨iff_of_false (by simp) (by omega), nofun⟩

lemma rdpeiRoundTrips_signed2 {value : Int} (hmin : -2 ^ 15 < value) : RdpeiRoundTrips
    rdpeiWrite2byteSigned rdpeiRead2byteSigned (fun v => v.natAbs < 2 ^ 14) value := by
  refine ⟨?_, fun bytes h => reads_rdpeiRead2byteSigned hmin h⟩
  obtain ⟨sign, hsign, habs, -, -⟩ := rdpeiSign 0x40 (by decide) (toInt16_neg hmin)
  unfold rdpeiWrite2byteSigned
  simp only [hsign, habs]
  clear hsign habs
  split
  · exact iff_of_false (by simp) (by omega)
  · refine iff_of_true ?_ (by omega)
    split <;> rfl

lemma rdpeiRoundTrips_unsigned8_iff (value : Nat) : RdpeiRoundTrips rdpeiWrite8byteUnsigned
    rdpeiRead8byteUnsigned (fun v => v < 2 ^ 61) value ↔
      2 ^ 61 ≤ value ∨ ∀ j ∈ [3, 4, 5, 6], value / 2 ^ (8 * j) % 256 < 32 := by
  have hform : ∀ count ≤ 7, value < 2 ^ (8 * count + 5) → ((∀ bytes,
      some (bytesUInt8 ((value >>> (8 * count)) &&& 0x1F ||| count <<< 5) ++
        rdpeiWriteRest value count) = some bytes → rdpeiRead8byteUnsigned.Reads bytes value) ↔
          ∀ j ∈ [3, 4, 5, 6], value / 2 ^ (8 * j) % 256 < 32) := by
    intro count hcount hvalue
    have hread := reads_rdpeiRead8byteUnsigned count hcount hvalue
    obtain ⟨hhigh, hsplit⟩ := rdpeiCarried_eq_of_lt hvalue
    have hcarried : (∀ j ∈ [3, 4, 5, 6], value / 2 ^ (8 * j) % 256 < 32) ↔
        rdpeiCarried value count = value % 2 ^ (8 * count) := by
      rw [rdpeiCarried_eq_iff]
      constructor
      · intro h j hj hj'
        exact h j (by simp only [List.mem_cons, List.not_mem_nil]; omega)
      · intro h j hj
        by_cases hlt : j < count
        · simp only [List.mem_cons, List.not_mem_nil, or_false] at hj
          exact h j hlt (by omega)
        · -- there are no bits above the first byte
          have hpow : 2 ^ (8 * count + 5) ≤ 2 ^ (8 * j) * 32 := by
            rw [show 2 ^ (8 * j) * 32 = 2 ^ (8 * j + 5) by ring]
            exact Nat.pow_le_pow_right (by decide) (by omega)
          exact lt_of_le_of_lt (Nat.mod_le _ _) (Nat.div_lt_of_lt_mul (by omega))
    rw [hcarried]
    constructor
    · intro h
      have heq := hread.unique (h _ rfl)
      omega
    · rintro heq bytes ⟨⟩
      rwa [heq, hsplit] at hread
  -- a number that can be written
  have hwritten : ∀ count ≤ 7, value < 2 ^ (8 * count + 5) → value < 2 ^ 61 →
      (((some (bytesUInt8 ((value >>> (8 * count)) &&& 0x1F ||| count <<< 5) ++
        rdpeiWriteRest value count)).isSome = true ↔ value < 2 ^ 61) ∧ (∀ bytes,
      some (bytesUInt8 ((value >>> (8 * count)) &&& 0x1F ||| count <<< 5) ++
        rdpeiWriteRest value count) = some bytes → rdpeiRead8byteUnsigned.Reads bytes value) ↔
          2 ^ 61 ≤ value ∨ ∀ j ∈ [3, 4, 5, 6], value / 2 ^ (8 * j) % 256 < 32) := by
    intro count hcount hvalue hlt
    rw [hform count hcount hvalue, or_iff_right (by omega)]
    exact and_iff_right (iff_of_true rfl hlt)
  unfold RdpeiRoundTrips rdpeiWrite8byteUnsigned
  dsimp only
  split
  · exact hwritten 0 (by decide) (by omega) (by omega)
  split
  · exact hwritten 1 (by decide) (by omega) (by omega)
  split
  · exact hwritten 2 (by decide) (by omega) (by omega)
  split
  · exact hwritten 3 (by decide) (by omega) (by omega)
  split
  · exact hwritten 4 (by decide) (by omega) (by omega)
  split
  · exact hwritten 5 (by decide) (by omega) (by omega)
  split
  · exact hwritten 6 (by decide) (by omega) (by omega)
  split
  · exact hwritten 7 (by decide) (by omega) (by omega)
  · exact iff_of_true ⟨iff_of_false (by simp) (by omega), nofun⟩ (.inl (by omega))

/-- The smallest numbers are written although they are not representable. -/
lemma rdpeiRoundTrips_min :
    ¬RdpeiRoundTrips rdpeiWrite2byteSigned rdpeiRead2byteSigned (fun v => v.natAbs < 2 ^ 14)
      (-2 ^ 15) ∧
    ¬RdpeiRoundTrips rdpeiWrite4byteSigned rdpeiRead4byteSigned (fun v => v.natAbs < 2 ^ 29)
      (-2 ^ 31) :=
  ⟨fun h => absurd (h.1.mp (by decide)) (by decide), fun h => absurd (h.1.mp (by decide)) (by decide)⟩

/-- For every number of every type: it is written if and only if it is representable, and comes
back then, if and only if it fits. -/
theorem rdpeiNumber_roundTrips_iff (n : RdpeiNumber) : n.RoundTrips ↔ n.Fits := by
  cases n with
  | unsigned2 value => exact iff_of_true (rdpeiRoundTrips_unsigned2 value.toNat) trivial
  | signed2 value =>
    constructor
    · intro h heq
      rw [RdpeiNumber.RoundTrips, heq] at h
      exact rdpeiRoundTrips_min.1 h
    · intro hne
      have hmin := Int16.le_toInt value
      exact rdpeiRoundTrips_signed2 (lt_of_le_of_ne hmin (Ne.symm hne))
  | unsigned4 value => exact iff_of_true (rdpeiRoundTrips_unsigned4 value.toNat) trivial
  | signed4 value =>
    constructor
    · intro h heq
      rw [RdpeiNumber.RoundTrips, heq] at h
      exact rdpeiRoundTrips_min.2 h
    · intro hne
      have hmin := Int32.le_toInt value
      exact rdpeiRoundTrips_signed4 (lt_of_le_of_ne hmin (Ne.symm hne))
  | unsigned8 value => exact rdpeiRoundTrips_unsigned8_iff value.toNat

/-- An eight-byte number that is written as zero, and the smallest two-byte number. -/
theorem rdpeiNumber_loses_bits : rdpeiWrite8byteUnsigned 0xA0000000 = some [0x80, 0, 0, 0, 0] ∧
    ¬(RdpeiNumber.unsigned8 0xA0000000).RoundTrips ∧
    ¬(RdpeiNumber.signed2 (-2 ^ 15)).RoundTrips := by
  refine ⟨by decide, fun h => ?_, fun h => rdpeiRoundTrips_min.1 h⟩
  have hfits := (rdpeiRoundTrips_unsigned8_iff _).mp h
  revert hfits
  decide

end FreeRdp
