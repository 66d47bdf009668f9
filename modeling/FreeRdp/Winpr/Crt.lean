import Mathlib.Tactic

/-!
# Sizes and allocation

Limits of the C types, and `malloc` with its outcome as a parameter.
-/

namespace FreeRdp

/-- `SSIZE_MAX`. -/
def SSIZE_MAX : Nat := 2 ^ 63 - 1

/-- `INT_MAX`. -/
def INT_MAX : Nat := 2 ^ 31 - 1

/-- `UINT16_MAX`. -/
def UINT16_MAX : Nat := 2 ^ 16 - 1

/-- `INT32_MAX`. -/
def INT32_MAX : Nat := 2 ^ 31 - 1

/-- Subtraction of `size_t` values. -/
@[irreducible] def sizeSub (a b : Nat) : Nat := (a + 2 ^ 64 - b) % 2 ^ 64

lemma sizeSub_of_le {a b : Nat} (hba : b ≤ a) (ha : a < 2 ^ 64) : sizeSub a b = a - b := by
  unfold sizeSub
  omega

/-- Addition of `size_t` values. -/
@[irreducible] def sizeAdd (a b : Nat) : Nat := (a + b) % 2 ^ 64

lemma sizeAdd_of_lt {a b : Nat} (h : a + b < 2 ^ 64) : sizeAdd a b = a + b := by
  unfold sizeAdd
  omega

/-- A `size_t` as an `int`. -/
@[irreducible] def intOfSize (n : Nat) : Int := Int.bmod n (2 ^ 32)

lemma intOfSize_of_le {n : Nat} (h : n ≤ INT_MAX) : intOfSize n = n := by
  unfold intOfSize
  rw [INT_MAX] at h
  exact Int.bmod_eq_of_le (by omega) (by omega)

/-- `INT32` arithmetic. -/
def toInt32 (i : Int) : Int := Int.bmod i (2 ^ 32)

lemma toInt32_of_range {i : Int} (hge : -2 ^ 31 ≤ i) (hlt : i < 2 ^ 31) : toInt32 i = i :=
  Int.bmod_eq_of_le (by omega) (by omega)

/-- A number beyond `INT32_MAX` wraps around once. -/
lemma toInt32_of_ge {i : Int} (hge : 2 ^ 31 ≤ i) (hlt : i < 2 ^ 32 + 2 ^ 31) :
    toInt32 i = i - 2 ^ 32 := by
  rw [toInt32, Int.bmod_def]
  omega

/-- `malloc`: for which sizes it succeeds. No object is larger than `SSIZE_MAX`. -/
structure Malloc where
  succeeds : Nat → Bool
  le_max : ∀ n, succeeds n = true → n ≤ SSIZE_MAX

/-- An allocator that has memory for every object. -/
def mallocAll : Malloc := ⟨fun n => n ≤ SSIZE_MAX, fun _ h => of_decide_eq_true h⟩

/-- Twice a capacity, an `int`. -/
def doubledCapacity (capacity : Nat) : Int := Int.bmod (capacity * 2) (2 ^ 32)

/-- The argument of `realloc` for `n` objects of the given size, a `size_t`. -/
def reallocSize (size : Nat) (n : Int) : Nat := (size * n % 2 ^ 64).toNat

/-- A negative number of objects is too large. -/
lemma SSIZE_MAX_lt_reallocSize {size : Nat} {n : Int} (hpos : 1 ≤ size) (hle : size ≤ 2 ^ 31)
    (hge : -2147483648 ≤ n) (hneg : n < 0) : SSIZE_MAX < reallocSize size n := by
  have hlower : -4611686018427387904 ≤ (size : Int) * n := by nlinarith
  have hupper : (size : Int) * n ≤ -1 := by nlinarith
  have hdiv : (size : Int) * n / 2 ^ 64 = -1 := by omega
  rw [SSIZE_MAX, reallocSize]
  omega

lemma doubledCapacity_of_lt {capacity : Nat} (h : capacity * 2 < 2 ^ 31) :
    doubledCapacity capacity = (capacity * 2 : Nat) := by
  unfold doubledCapacity
  rw [Int.bmod_eq_of_le (by omega) (by omega)]
  rfl

lemma doubledCapacity_of_ge {capacity : Nat} (h : 2 ^ 31 ≤ capacity * 2)
    (hlt : capacity < 2 ^ 31) :
    -2147483648 ≤ doubledCapacity capacity ∧ doubledCapacity capacity < 0 := by
  unfold doubledCapacity
  rw [Int.bmod_def, if_neg (by omega)]
  omega

/-- There is memory for twice the objects only if their number is an `int`. -/
lemma doubledCapacity_of_realloc {realloc : Malloc} {capacity size : Nat} (hpos : 1 ≤ size)
    (hle : size ≤ 2 ^ 31) (hlt : capacity < 2 ^ 31)
    (h : realloc.succeeds (reallocSize size (doubledCapacity capacity)) = true) :
    (doubledCapacity capacity).toNat = capacity * 2 ∧ capacity * 2 < 2 ^ 31 := by
  have hmax := realloc.le_max _ h
  by_cases hdouble : capacity * 2 < 2 ^ 31
  · rw [doubledCapacity_of_lt hdouble]
    exact ⟨Int.toNat_natCast _, hdouble⟩
  · obtain ⟨hge, hneg⟩ := doubledCapacity_of_ge (Nat.not_lt.mp hdouble) hlt
    exact absurd (SSIZE_MAX_lt_reallocSize hpos hle hge hneg) (Nat.not_lt.mpr hmax)

end FreeRdp
