import FreeRdp.Core.Orders.Read
import FreeRdp.Winpr.Reading

/-!
# Numbers of variable length

Numbers of one to four bytes in `orders.c`: what is written is read back. `none` stands for a writer
that returns `FALSE`.
-/

namespace FreeRdp

open WStream

/-- A reader of a value as an attempt. The readers that are used so have come to the end of the
stream where they fail. -/
def Attempt.ofReader {α : Type} (r : Reader WStream α) (old : α) : Attempt WStream α := fun s =>
  match r old s with
  | (v, some s') => (some v, s')
  | (_, none) => (none, s.seek s.remainingLength)

lemma Reader.Reads.toAttempt {α : Type} {r : Reader WStream α} {bs : List UInt8} {old v : α}
    (h : r.Reads bs old v) : (Attempt.ofReader r old).Reads bs v := by
  intro s rest hs
  rw [Attempt.ofReader, h s rest hs]

/-! ### Writers -/

/-- `update_write_2byte_unsigned`. -/
def updateWrite2byteUnsigned (value : Nat) : Option (List UInt8) :=
  if value > 0x7FFF then none
  else if value ≥ 0x7F then
    some (bytesUInt8 ((value &&& 0x7F00) >>> 8 ||| 0x80) ++ bytesUInt8 (value &&& 0xFF))
  else some (bytesUInt8 (value &&& 0x7F))

/-- `update_write_2byte_signed`. -/
def updateWrite2byteSigned (value : Int) : Option (List UInt8) :=
  let sign := if value < 0 then 0x40 else 0
  let value := if value < 0 then toInt32 (-value) else value
  if value > 0x3FFF then none
  else if value ≥ 0x3F then
    some (bytesUInt8 (((value.toNat &&& 0x3F00) >>> 8 ||| sign) ||| 0x80) ++
      bytesUInt8 (value.toNat &&& 0xFF))
  -- the smallest number has no opposite; all its low bits are zero
  else some (bytesUInt8 (value.toNat &&& 0x3F ||| sign))

/-- `update_write_4byte_unsigned`. -/
def updateWrite4byteUnsigned (value : Nat) : Option (List UInt8) :=
  if value ≤ 0x3F then some (bytesUInt8 value)
  else if value ≤ 0x3FFF then
    some (bytesUInt8 ((value >>> 8) &&& 0x3F ||| 0x40) ++ bytesUInt8 (value &&& 0xFF))
  else if value ≤ 0x3FFFFF then
    some (bytesUInt8 ((value >>> 16) &&& 0x3F ||| 0x80) ++ bytesUInt8 ((value >>> 8) &&& 0xFF) ++
      bytesUInt8 (value &&& 0xFF))
  else if value ≤ 0x3FFFFFFF then
    some (bytesUInt8 ((value >>> 24) &&& 0x3F ||| 0xC0) ++ bytesUInt8 ((value >>> 16) &&& 0xFF) ++
      bytesUInt8 ((value >>> 8) &&& 0xFF) ++ bytesUInt8 (value &&& 0xFF))
  else none

/-! ### Readers -/

/-- The bytes of `update_read_4byte_unsigned` behind the first. -/
def updateRead4byteRest (byte : Nat) : Nat → Attempt WStream Nat
  | 0 => pure (byte &&& 0x3F)
  | 1 => do
    let b ← .takeUInt8
    pure ((byte &&& 0x3F) <<< 8 ||| b)
  | 2 => do
    let b ← .takeUInt8
    let b' ← .takeUInt8
    pure ((byte &&& 0x3F) <<< 16 ||| b <<< 8 ||| b')
  | _ => do
    let b ← .takeUInt8
    let b' ← .takeUInt8
    let b'' ← .takeUInt8
    pure ((byte &&& 0x3F) <<< 24 ||| b <<< 16 ||| b' <<< 8 ||| b'')

/-- `update_read_4byte_unsigned`. -/
def updateRead4byteUnsigned : Attempt WStream Nat := do
  .need 1
  let byte ← .takeUInt8
  let count := (byte &&& 0xC0) >>> 6
  .need count
  updateRead4byteRest byte count

/-! ### Round trips -/

lemma and_7F00_shiftRight (v : Nat) : (v &&& 0x7F00) >>> 8 = v / 256 % 128 := by
  rw [Nat.shiftRight_and_distrib, Nat.shiftRight_eq_div_pow]
  exact and_mask_eq_mod (v / 256) 7

lemma and_3F00_shiftRight (v : Nat) : (v &&& 0x3F00) >>> 8 = v / 256 % 64 := by
  rw [Nat.shiftRight_and_distrib, Nat.shiftRight_eq_div_pow]
  exact and_mask_eq_mod (v / 256) 6

lemma and_3F (v : Nat) : v &&& 0x3F = v % 64 := and_mask_eq_mod v 6

lemma and_7F (v : Nat) : v &&& 0x7F = v % 128 := and_mask_eq_mod v 7

lemma and_FF (v : Nat) : v &&& 0xFF = v % 256 := and_mask_eq_mod v 8

/-- What the bits of a first byte say. -/
lemma byte_bits {n : Nat} (hn : n < 2 ^ 8) :
    (n &&& 0x80 ≠ 0 ↔ 128 ≤ n) ∧ (n &&& 0x40 ≠ 0 ↔ 64 ≤ n % 128) ∧
      (n &&& 0xC0) >>> 6 = n / 64 := by
  have h : ∀ n < 256, (n &&& 0x80 ≠ 0 ↔ 128 ≤ n) ∧ (n &&& 0x40 ≠ 0 ↔ 64 ≤ n % 128) ∧
      (n &&& 0xC0) >>> 6 = n / 64 := by
    decide +kernel
  exact h n hn

lemma or_128 {n : Nat} (h : n < 128) : n ||| 0x80 = n + 0x80 := by
  rw [Nat.or_comm, Nat.add_comm]
  exact two_pow_or_eq_add (i := 7) h

lemma or_64 {n : Nat} (h : n < 64) : n ||| 0x40 = n + 0x40 := by
  rw [Nat.or_comm, Nat.add_comm]
  exact two_pow_or_eq_add (i := 6) h

lemma or_192 {n : Nat} (h : n < 64) : n ||| 0xC0 = n + 0xC0 := by
  rw [Nat.or_comm, Nat.add_comm]
  exact shiftLeft_or_eq_add (i := 6) h 3

section RoundTrip

variable {s : WStream} {v w : Nat} {rest : List UInt8}

lemma byteAt_bytes (h : s.unread = bytesUInt8 v ++ rest) (hv : v < 2 ^ 8) : s.byteAt 0 = v :=
  congrArg Prod.fst (readUInt8_bytes h hv)

lemma one_le_remainingLength (h : s.unread = bytesUInt8 v ++ rest) : ¬s.remainingLength < 1 := by
  rw [remainingLength_of_unread h]
  simp [bytesUInt8]

/-- `update_read_2byte_unsigned` reads back what has been written. -/
lemma reads_updateRead2byteUnsigned {value : Nat} {bytes : List UInt8} (old : Nat)
    (h : updateWrite2byteUnsigned value = some bytes) :
    updateRead2byteUnsigned.Reads bytes old value := by
  unfold updateWrite2byteUnsigned at h
  split at h
  · exact absurd h nofun
  intro s rest hs
  unfold updateRead2byteUnsigned
  split at h <;> cases h
  · rw [List.append_assoc, and_7F00_shiftRight, or_128 (by omega), and_FF] at hs
    have hbyte : value / 256 % 128 + 0x80 < 2 ^ 8 := by omega
    have hsecond := unread_seek_append hs (n := 1) rfl
    rw [if_neg (one_le_remainingLength hs), readUInt8_bytes hs hbyte]
    dsimp only
    rw [if_pos ((byte_bits hbyte).1.mpr (by omega)), readValue,
      if_neg (one_le_remainingLength hsecond), byteAt_bytes hsecond (by omega), and_7F,
      shiftLeft_or_eq_add (i := 8) (by omega)]
    have hvalue : (value / 256 % 128 + 0x80) % 128 * 2 ^ 8 + value % 256 = value := by omega
    rw [hvalue]
    rfl
  · rw [and_7F] at hs
    have hbyte : value % 128 < 2 ^ 8 := by omega
    rw [if_neg (one_le_remainingLength hs), readUInt8_bytes hs hbyte]
    dsimp only
    rw [if_neg (fun h => by have := (byte_bits hbyte).1.mp h; omega), and_7F]
    have hvalue : value % 128 % 128 = value := by omega
    rw [hvalue]
    rfl

lemma toInt32_neg {value : Int} (h : value < 0) (hmin : -2 ^ 31 < value) :
    toInt32 (-value) = -value := by
  unfold toInt32
  rw [Int.bmod_eq_of_le] <;> omega

/-- `update_read_2byte_signed` reads back what has been written, the smallest number aside. -/
lemma reads_updateRead2byteSigned {value : Int} {bytes : List UInt8} (old : Int)
    (hmin : -2 ^ 31 < value) (h : updateWrite2byteSigned value = some bytes) :
    updateRead2byteSigned.Reads bytes old value := by
  -- the sign bit and the number without its sign
  obtain ⟨sign, n, hsign, hn, hor, hvalue⟩ : ∃ sign n : Nat,
      (if value < 0 then 0x40 else 0) = sign ∧
      (if value < 0 then toInt32 (-value) else value) = n ∧ (sign = 0 ∨ sign = 0x40) ∧
      (if 64 ≤ sign then -1 else 1) * (n : Int) = value := by
    by_cases hneg : value < 0
    · refine ⟨0x40, (-value).toNat, by simp [hneg], ?_, .inr rfl, ?_⟩
      · rw [if_pos hneg, toInt32_neg hneg hmin]
        omega
      · rw [if_pos le_rfl]
        omega
    · exact ⟨0, value.toNat, by simp [hneg], by rw [if_neg hneg]; omega, .inl rfl, by simp; omega⟩
  have hbit : ∀ x < 64, x ||| sign = x + sign := by
    rintro x hx
    obtain rfl | rfl := hor
    · exact Nat.or_zero x
    · exact or_64 hx
  unfold updateWrite2byteSigned at h
  simp only [hsign, hn, Int.toNat_natCast] at h
  split at h
  · exact absurd h nofun
  rename_i hle
  intro s rest hs
  unfold updateRead2byteSigned
  split at h <;> cases h
  · rw [List.append_assoc, and_3F00_shiftRight, hbit _ (by omega), or_128 (by omega), and_FF] at hs
    have hbyte : n / 256 % 64 + sign + 0x80 < 2 ^ 8 := by omega
    have hsecond := unread_seek_append hs (n := 1) rfl
    have hsignbit : (n / 256 % 64 + sign + 0x80) &&& 0x40 ≠ 0 ↔ 64 ≤ sign := by
      rw [(byte_bits hbyte).2.1]
      omega
    rw [if_neg (one_le_remainingLength hs), readUInt8_bytes hs hbyte]
    dsimp only
    rw [if_pos ((byte_bits hbyte).1.mpr (by omega)), if_neg (one_le_remainingLength hsecond),
      byteAt_bytes hsecond (by omega), and_3F, shiftLeft_or_eq_add (i := 8) (by omega)]
    have hn : (n / 256 % 64 + sign + 0x80) % 64 * 2 ^ 8 + n % 256 = n := by omega
    simp only [hn, hsignbit, hvalue]
    rfl
  · rw [and_3F, hbit _ (by omega)] at hs
    have hbyte : n % 64 + sign < 2 ^ 8 := by omega
    have hsignbit : (n % 64 + sign) &&& 0x40 ≠ 0 ↔ 64 ≤ sign := by
      rw [(byte_bits hbyte).2.1]
      omega
    rw [if_neg (one_le_remainingLength hs), readUInt8_bytes hs hbyte]
    dsimp only
    rw [if_neg (fun h => by have := (byte_bits hbyte).1.mp h; omega), and_3F]
    have hn : (n % 64 + sign) % 64 = n := by omega
    simp only [hn, hsignbit, hvalue]
    rfl

/-- `update_read_4byte_unsigned` reads back a first byte and the bytes behind it. -/
lemma reads_updateRead4byteUnsigned_of_rest (count : Nat) {byte value : Nat} {bytes : List UInt8}
    (hbyte : byte < 2 ^ 8) (hcount : byte / 64 = count) (hbytes : bytes.length = count)
    (hrest : (updateRead4byteRest byte count).Reads bytes value) :
    updateRead4byteUnsigned.Reads (bytesUInt8 byte ++ bytes) value := by
  refine Attempt.reads_need_bind (by simp [bytesUInt8]) ?_
  refine (Attempt.reads_takeUInt8 hbyte).bind ?_
  dsimp only
  rw [(byte_bits hbyte).2.2, hcount]
  exact Attempt.reads_need_bind (by omega) hrest

/-- `update_read_4byte_unsigned` reads back what has been written. -/
lemma reads_updateRead4byteUnsigned {value : Nat} {bytes : List UInt8}
    (h : updateWrite4byteUnsigned value = some bytes) :
    updateRead4byteUnsigned.Reads bytes value := by
  unfold updateWrite4byteUnsigned at h
  simp only [and_3F, and_FF, Nat.shiftRight_eq_div_pow, List.append_assoc] at h
  split at h
  · cases h
    rw [← List.append_nil (bytesUInt8 value)]
    refine reads_updateRead4byteUnsigned_of_rest 0 (by omega) (by omega) rfl ?_
    rw [updateRead4byteRest, and_3F, Nat.mod_eq_of_lt (by omega)]
    exact Attempt.reads_pure value
  split at h
  · cases h
    rw [or_64 (by omega), ← List.append_nil (bytesUInt8 (value % 256))]
    refine reads_updateRead4byteUnsigned_of_rest 1 (by omega) (by omega) rfl ?_
    refine (Attempt.reads_takeUInt8 (by omega)).bind ?_
    have hvalue : (value / 2 ^ 8 % 64 + 0x40 &&& 0x3F) <<< 8 ||| value % 256 = value := by
      rw [and_3F, shiftLeft_or_eq_add (i := 8) (by omega)]
      omega
    rw [hvalue]
    exact Attempt.reads_pure value
  split at h
  · cases h
    rw [or_128 (by omega), ← List.append_nil (bytesUInt8 (value % 256))]
    refine reads_updateRead4byteUnsigned_of_rest 2 (by omega) (by omega) rfl ?_
    refine (Attempt.reads_takeUInt8 (by omega)).bind ((Attempt.reads_takeUInt8 (by omega)).bind ?_)
    have hvalue : (value / 2 ^ 16 % 64 + 0x80 &&& 0x3F) <<< 16 ||| (value / 2 ^ 8 % 256) <<< 8 |||
        value % 256 = value := by
      rw [and_3F, Nat.or_assoc, shiftLeft_or_eq_add (i := 8) (by omega),
        shiftLeft_or_eq_add (i := 16) (by omega)]
      omega
    rw [hvalue]
    exact Attempt.reads_pure value
  split at h
  · cases h
    rw [or_192 (by omega), ← List.append_nil (bytesUInt8 (value % 256))]
    refine reads_updateRead4byteUnsigned_of_rest 3 (by omega) (by omega) rfl ?_
    refine (Attempt.reads_takeUInt8 (by omega)).bind ((Attempt.reads_takeUInt8 (by omega)).bind
      ((Attempt.reads_takeUInt8 (by omega)).bind ?_))
    have hvalue : (value / 2 ^ 24 % 64 + 0xC0 &&& 0x3F) <<< 24 ||| (value / 2 ^ 16 % 256) <<< 16 |||
        (value / 2 ^ 8 % 256) <<< 8 ||| value % 256 = value := by
      rw [and_3F, Nat.or_assoc, Nat.or_assoc, shiftLeft_or_eq_add (i := 8) (by omega),
        shiftLeft_or_eq_add (i := 16) (by omega), shiftLeft_or_eq_add (i := 24) (by omega)]
      omega
    rw [hvalue]
    exact Attempt.reads_pure value
  · exact absurd h nofun

end RoundTrip

end FreeRdp
