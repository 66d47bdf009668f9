import Mathlib.Tactic

/-!
# Pieces of a list

A list is cut into pieces of the same length from the front; the last one may be shorter.
-/

namespace FreeRdp

variable {α : Type*}

/-- The next pieces of length `n`, as many as the fuel allows. -/
def nextPieces (n : Nat) : Nat → List α → List (List α)
  | 0, _ => []
  | _, [] => []
  | fuel + 1, x :: xs => (x :: xs).take n :: nextPieces n fuel ((x :: xs).drop n)

/-- The pieces of length `n`, for `n` above 0. -/
def pieces (n : Nat) (xs : List α) : List (List α) := nextPieces n xs.length xs

@[simp] lemma nextPieces_nil (n fuel : Nat) : nextPieces n fuel ([] : List α) = [] := by
  cases fuel <;> rfl

lemma nextPieces_of_ne_nil {n fuel : Nat} {xs : List α} (h : xs ≠ []) :
    nextPieces n (fuel + 1) xs = xs.take n :: nextPieces n fuel (xs.drop n) := by
  cases xs with
  | nil => exact absurd rfl h
  | cons x xs => rfl

lemma flatten_nextPieces {n fuel : Nat} (hn : 0 < n) {xs : List α} (h : xs.length ≤ fuel) :
    (nextPieces n fuel xs).flatten = xs := by
  induction fuel generalizing xs with
  | zero => rw [List.length_eq_zero_iff.mp (Nat.le_zero.mp h)]; rfl
  | succ fuel ih =>
    rcases eq_or_ne xs [] with rfl | hne
    · simp
    · have hlength := List.length_pos_iff.mpr hne
      rw [nextPieces_of_ne_nil hne, List.flatten_cons, ih, List.take_append_drop]
      rw [List.length_drop]
      omega

/-- Put together, the pieces are the list. -/
lemma flatten_pieces {n : Nat} (hn : 0 < n) (xs : List α) : (pieces n xs).flatten = xs :=
  flatten_nextPieces hn le_rfl

lemma mem_nextPieces {n fuel : Nat} (hn : 0 < n) {xs piece : List α}
    (h : piece ∈ nextPieces n fuel xs) : piece ≠ [] ∧ piece.length ≤ n := by
  induction fuel generalizing xs with
  | zero => simp [nextPieces] at h
  | succ fuel ih =>
    rcases eq_or_ne xs [] with rfl | hne
    · simp at h
    · rw [nextPieces_of_ne_nil hne, List.mem_cons] at h
      rcases h with rfl | h
      · simp [hne, hn.ne']
      · exact ih h

lemma mem_pieces {n : Nat} (hn : 0 < n) {xs piece : List α} (h : piece ∈ pieces n xs) :
    piece ≠ [] ∧ piece.length ≤ n := mem_nextPieces hn h

/-- There are no pieces only of the empty list. -/
lemma pieces_ne_nil {n : Nat} {xs : List α} (h : xs ≠ []) : pieces n xs ≠ [] := by
  obtain ⟨fuel, hfuel⟩ := Nat.exists_eq_succ_of_ne_zero (List.length_pos_iff.mpr h).ne'
  rw [pieces, hfuel, nextPieces_of_ne_nil h]
  exact List.cons_ne_nil _ _

/-- More fuel than elements changes nothing. -/
lemma nextPieces_fuel {n fuel : Nat} (hn : 0 < n) {xs : List α}
    (h : xs.length ≤ fuel) : nextPieces n fuel xs = pieces n xs := by
  rw [pieces]
  induction fuel using Nat.strong_induction_on generalizing xs with
  | _ fuel ih =>
    rcases eq_or_ne xs [] with rfl | hne
    · simp
    · have hpos := List.length_pos_iff.mpr hne
      obtain ⟨k, hk⟩ := Nat.exists_eq_succ_of_ne_zero hpos.ne'
      obtain ⟨l, rfl⟩ := Nat.exists_eq_succ_of_ne_zero (hpos.trans_le h).ne'
      have hdrop : (xs.drop n).length ≤ k := by
        rw [List.length_drop]
        omega
      rw [hk, nextPieces_of_ne_nil hne, nextPieces_of_ne_nil hne,
        ih l (Nat.lt_succ_self l) (by omega)]
      rcases Nat.lt_or_ge k (l + 1) with hlt | hge
      · rw [ih k hlt hdrop]
      · omega

end FreeRdp
