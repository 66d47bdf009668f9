import Mathlib.Tactic
import Mathlib.Order.Bounds.Basic

/-!
# Searching up and down

A search over consecutive places, in either direction, to the first one that meets a condition,
with the places it has looked at. A search up finds the least place of its range that meets the
condition, a search down the greatest.
-/

namespace FreeRdp

variable {p : Nat → Bool} {n i size : Nat} {r : Int} {S T : Set Nat}

/-- The `n` places from `i` on, to the first that meets `p`. -/
def searchUp (p : Nat → Bool) : Nat → Nat → Option Nat × List Nat
  | 0, _ => (none, [])
  | n + 1, i =>
    if p i then (some i, [i])
    else
      let (found, places) := searchUp p n (i + 1)
      (found, i :: places)

/-- The `n` places from `i` on, from the last one down to the first that meets `p`. -/
def searchDown (p : Nat → Bool) (i : Nat) : Nat → Option Nat × List Nat
  | 0 => (none, [])
  | n + 1 =>
    if p (i + n) then (some (i + n), [i + n])
    else
      let (found, places) := searchDown p i n
      (found, (i + n) :: places)

/-- A place as an index, with -1 for none. -/
def indexOrNone (found : Option Nat) : Int := found.elim (-1) (↑)

/-- The index is the least of the set, or it is -1 and the set is empty. -/
def IsFirst (S : Set Nat) (r : Int) : Prop := (∃ k, IsLeast S k ∧ r = k) ∨ S = ∅ ∧ r = -1

/-- The index is the greatest of the set, or it is -1 and the set is empty. -/
def IsLast (S : Set Nat) (r : Int) : Prop := (∃ k, IsGreatest S k ∧ r = k) ∨ S = ∅ ∧ r = -1

/-- The places of a range that meet `p`. -/
def placesOf (p : Nat → Bool) (i n : Nat) : Set Nat := {k | i ≤ k ∧ k < i + n ∧ p k = true}

@[simp] lemma placesOf_zero (p : Nat → Bool) (i : Nat) : placesOf p i 0 = ∅ := by
  ext k
  simp only [placesOf, Set.mem_ofPred_eq, Set.mem_empty_iff_false, iff_false]
  omega

lemma searchUp_isFirst : IsFirst (placesOf p i n) (indexOrNone (searchUp p n i).1) := by
  induction n generalizing i with
  | zero => exact Or.inr ⟨placesOf_zero p i, rfl⟩
  | succ n ih =>
    rw [searchUp]
    split
    · rename_i hi
      refine Or.inl ⟨i, ⟨⟨le_rfl, by omega, hi⟩, fun k hk => hk.1⟩, rfl⟩
    · rename_i hi
      have hrest : placesOf p i (n + 1) = placesOf p (i + 1) n := by
        ext k
        constructor
        · rintro ⟨hle, hlt, hk⟩
          have hne : k ≠ i := by
            rintro rfl
            exact hi hk
          exact ⟨by omega, by omega, hk⟩
        · rintro ⟨hle, hlt, hk⟩
          exact ⟨by omega, by omega, hk⟩
      rw [hrest]
      exact ih

lemma searchDown_isLast : IsLast (placesOf p i n) (indexOrNone (searchDown p i n).1) := by
  induction n with
  | zero => exact Or.inr ⟨placesOf_zero p i, rfl⟩
  | succ n ih =>
    rw [searchDown]
    split
    · rename_i hi
      refine Or.inl ⟨i + n, ⟨⟨by omega, by omega, hi⟩, fun k hk => ?_⟩, rfl⟩
      exact Nat.lt_succ_iff.mp hk.2.1
    · rename_i hi
      have hrest : placesOf p i (n + 1) = placesOf p i n := by
        ext k
        constructor
        · rintro ⟨hle, hlt, hk⟩
          have hne : k ≠ i + n := by
            rintro rfl
            exact hi hk
          exact ⟨hle, by omega, hk⟩
        · rintro ⟨hle, hlt, hk⟩
          exact ⟨hle, by omega, hk⟩
      rw [hrest]
      exact ih

/-- A search up stays below `size` if its range does, or if it finds something there. -/
lemma searchUp_below_iff : (∀ k ∈ (searchUp p n i).2, k < size) ↔
    n = 0 ∨ i + n ≤ size ∨ ∃ k, i ≤ k ∧ k < size ∧ p k = true := by
  induction n generalizing i with
  | zero => simp [searchUp]
  | succ n ih =>
    rw [searchUp]
    split
    · rename_i hi
      simp only [List.mem_singleton, forall_eq]
      constructor
      · intro hlt
        exact Or.inr (Or.inr ⟨i, le_rfl, hlt, hi⟩)
      · rintro (h | h | ⟨k, hle, hlt, -⟩) <;> omega
    · rename_i hi
      simp only [List.forall_mem_cons, ih]
      constructor
      · rintro ⟨hlt, h | h | ⟨k, hle, hk⟩⟩
        · exact Or.inr (Or.inl (by omega))
        · exact Or.inr (Or.inl (by omega))
        · exact Or.inr (Or.inr ⟨k, by omega, hk⟩)
      · rintro (h | h | ⟨k, hle, hlt, hk⟩)
        · cases h
        · exact ⟨by omega, Or.inr (Or.inl (by omega))⟩
        · have hne : k ≠ i := by
            rintro rfl
            exact hi hk
          exact ⟨by omega, Or.inr (Or.inr ⟨k, by omega, hlt, hk⟩)⟩

/-- A search down begins with the last place of its range. -/
lemma searchDown_below_iff : (∀ k ∈ (searchDown p i n).2, k < size) ↔ n = 0 ∨ i + n ≤ size := by
  induction n with
  | zero => simp [searchDown]
  | succ n ih =>
    rw [searchDown]
    split
    · simp only [List.mem_singleton, forall_eq]
      omega
    · simp only [List.forall_mem_cons, ih]
      omega

/-! ### Searching in part of a range -/

/-- The least of a set is the least of a lower part of it, if that has an element when the whole
has one. -/
lemma IsFirst.iff_of_lower (h : IsFirst T r) (hsub : S ⊆ T)
    (hlower : ∀ i ∈ S, ∀ j ∈ T, j < i → j ∈ S) : IsFirst S r ↔ (T.Nonempty → S.Nonempty) := by
  rcases h with ⟨k, hk, rfl⟩ | ⟨rfl, rfl⟩
  · constructor
    · rintro (⟨k', hk', -⟩ | ⟨-, hr⟩) -
      · exact ⟨k', hk'.1⟩
      · omega
    · intro hne
      obtain ⟨i, hi⟩ := hne ⟨k, hk.1⟩
      have hkS : k ∈ S := by
        rcases (hk.2 (hsub hi)).lt_or_eq with hlt | rfl
        · exact hlower i hi k hk.1 hlt
        · exact hi
      exact Or.inl ⟨k, ⟨hkS, fun j hj => hk.2 (hsub hj)⟩, rfl⟩
  · have hempty : S = ∅ := Set.subset_empty_iff.mp hsub
    exact iff_of_true (Or.inr ⟨hempty, rfl⟩) (fun hne => absurd hne Set.not_nonempty_empty)

/-- The greatest of a set is the greatest of a lower part of it, if that is the whole. -/
lemma IsLast.iff_of_lower (h : IsLast T r) (hsub : S ⊆ T)
    (hlower : ∀ i ∈ S, ∀ j ∈ T, j < i → j ∈ S) : IsLast S r ↔ T ⊆ S := by
  constructor
  · rintro (⟨k', hk', rfl⟩ | ⟨rfl, rfl⟩)
    · rcases h with ⟨k, hk, hr⟩ | ⟨-, hr⟩
      · obtain rfl : k' = k := by omega
        intro j hj
        rcases (hk.2 hj).lt_or_eq with hlt | rfl
        · exact hlower k' hk'.1 j hj hlt
        · exact hk'.1
      · omega
    · rcases h with ⟨k, -, hr⟩ | ⟨rfl, -⟩
      · omega
      · exact le_rfl
  · intro hle
    rwa [Set.Subset.antisymm hsub hle]

end FreeRdp
