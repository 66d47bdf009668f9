import FreeRdp.Library.BitWindow

/-!
# Lists of bits

A list of bits stands at a position of a bit string. What stands there is read as a window or as a
run of equal bits.
-/

namespace FreeRdp

variable {f g : Nat → Bool} {p n v : Nat} {xs ys : List Bool}

/-- The low `n` bits of a number, the highest first. -/
def msbBits (n v : Nat) : List Bool := (List.range n).map fun i => v.testBit (n - 1 - i)

@[simp] lemma length_msbBits (n v : Nat) : (msbBits n v).length = n := by simp [msbBits]

@[simp] lemma msbBits_zero (v : Nat) : msbBits 0 v = [] := rfl

lemma msbBits_mod (n v : Nat) {m : Nat} (h : n ≤ m) : msbBits n (v % 2 ^ m) = msbBits n v := by
  refine List.map_congr_left fun i hi => ?_
  rw [List.mem_range] at hi
  rw [Nat.testBit_mod_two_pow, decide_eq_true (by omega), Bool.true_and]

/-- The bits of the list stand at position `p`. -/
def Stands (f : Nat → Bool) (p : Nat) (xs : List Bool) : Prop :=
  ∀ i (h : i < xs.length), f (p + i) = xs[i]

@[simp] lemma stands_nil (f : Nat → Bool) (p : Nat) : Stands f p [] :=
  fun i h => absurd h (Nat.not_lt_zero i)

lemma stands_append : Stands f p (xs ++ ys) ↔ Stands f p xs ∧ Stands f (p + xs.length) ys := by
  constructor
  · intro h
    refine ⟨fun i hi => ?_, fun i hi => ?_⟩
    · rw [h i (by rw [List.length_append]; omega), List.getElem_append_left hi]
    · have hright := h (xs.length + i) (by rw [List.length_append]; omega)
      rw [Nat.add_assoc, hright, List.getElem_append_right (by omega)]
      simp
  · rintro ⟨hleft, hright⟩ i hi
    rcases Nat.lt_or_ge i xs.length with hlt | hge
    · rw [hleft i hlt, List.getElem_append_left hlt]
    · obtain ⟨j, rfl⟩ := Nat.exists_eq_add_of_le hge
      rw [List.length_append] at hi
      rw [← Nat.add_assoc, hright j (by omega), List.getElem_append_right (by omega)]
      simp

lemma stands_singleton {b : Bool} : Stands f p [b] ↔ f p = b := by
  constructor
  · exact fun h => h 0 Nat.one_pos
  · intro h i hi
    obtain rfl : i = 0 := by simpa using hi
    exact h

lemma Stands.congr (h : Stands f p xs) (hfg : ∀ i, p ≤ i → i < p + xs.length → g i = f i) :
    Stands g p xs := fun i hi => by rw [hfg _ (by omega) (by omega), h i hi]

lemma stands_replicate {b : Bool} : Stands f p (List.replicate n b) ↔ ∀ i < n, f (p + i) = b := by
  constructor
  · intro h i hi
    rw [h i (by simpa using hi), List.getElem_replicate]
  · intro h i hi
    rw [List.getElem_replicate]
    exact h i (by simpa using hi)

/-- The bits of a number are read as a window. -/
lemma window_of_stands (h : Stands f p (msbBits n v)) : window f p n = v % 2 ^ n := by
  have hset : window f p n = window (setBits f p n (v % 2 ^ n)) p n := by
    refine window_congr fun i hp hi => ?_
    obtain ⟨j, rfl⟩ := Nat.exists_eq_add_of_le hp
    have hj : j < n := by omega
    rw [h j (by simpa using hj), setBits, if_neg (by omega), decide_eq_true hi, Bool.true_and,
      Nat.testBit_mod_two_pow, decide_eq_true (by omega), Bool.true_and]
    simp only [msbBits, List.getElem_map, List.getElem_range]
    congr 1
    omega
  rw [hset, window_setBits (Nat.mod_lt _ (Nat.two_pow_pos n))]

lemma stands_setBits (f : Nat → Bool) (p n v : Nat) : Stands (setBits f p n v) p (msbBits n v) := by
  intro i hi
  rw [length_msbBits] at hi
  rw [setBits, if_neg (by omega), decide_eq_true (by omega), Bool.true_and]
  simp only [msbBits, List.getElem_map, List.getElem_range]
  congr 1
  omega

/-- A run of `n` bits `b` at `p`, which ends there or at `limit`. -/
structure RunAt (f : Nat → Bool) (b : Bool) (p limit n : Nat) : Prop where
  equal : ∀ i < n, f (p + i) = b
  within : p + n ≤ limit
  ends : p + n < limit → f (p + n) ≠ b

/-- There is one run. -/
lemma RunAt.unique {b : Bool} {limit m : Nat} (h : RunAt f b p limit n)
    (hbits : Stands f p (List.replicate m b ++ [!b])) (hm : p + m < limit) : n = m := by
  obtain ⟨hrun, hend⟩ := stands_append.mp hbits
  rw [stands_replicate] at hrun
  rw [List.length_replicate, stands_singleton] at hend
  rcases Nat.lt_trichotomy n m with hlt | rfl | hgt
  · exact absurd (hrun n hlt) (h.ends (by omega))
  · rfl
  · have := h.equal m hgt
    rw [hend] at this
    cases b <;> simp at this

end FreeRdp
