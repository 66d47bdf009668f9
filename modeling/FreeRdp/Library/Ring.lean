import FreeRdp.Library.Copy

/-!
# Rings

A list in a memory with `cap` cells, from the cell `head` on and, after the last cell, from the
first one.
-/

namespace FreeRdp

variable {α : Type*} {m : Nat → α} {cap head n : Nat} {a : α}

/-- The list of `n` elements from `head` on. -/
def ringList (m : Nat → α) (cap head n : Nat) : List α :=
  (List.range n).map fun i => m ((head + i) % cap)

@[simp] lemma length_ringList (m : Nat → α) (cap head n : Nat) :
    (ringList m cap head n).length = n := by
  rw [ringList, List.length_map, List.length_range]

@[simp] lemma getElem_ringList {i : Nat} (hi : i < (ringList m cap head n).length) :
    (ringList m cap head n)[i] = m ((head + i) % cap) := by
  simp [ringList]

/-- The cell `i` places on, in a ring that has more places than that. -/
lemma ring_index {i : Nat} (hhead : head < cap) (hi : i ≤ cap) :
    (head + i) % cap = if head + i < cap then head + i else head + i - cap := by
  split
  · exact Nat.mod_eq_of_lt ‹_›
  · rw [Nat.mod_eq_sub_mod (by omega), Nat.mod_eq_of_lt (by omega)]

/-- Different places have different cells. -/
lemma ring_index_ne {i j : Nat} (hhead : head < cap) (hij : i < j) (hj : j < cap) :
    (head + i) % cap ≠ (head + j) % cap := by
  rw [ring_index hhead (by omega), ring_index hhead (by omega)]
  split
  · split
    · omega
    · omega
  · split
    · omega
    · omega

lemma ringList_congr {m' : Nat → α} (h : ∀ i < n, m' ((head + i) % cap) = m ((head + i) % cap)) :
    ringList m' cap head n = ringList m cap head n := by
  refine List.ext_getElem (by simp) fun i hi hi' => ?_
  rw [length_ringList] at hi
  rw [getElem_ringList, getElem_ringList, h i hi]

/-- The first element, and the others from the next cell on. -/
lemma ringList_succ (hhead : head < cap) (n : Nat) :
    ringList m cap head (n + 1) = m head :: ringList m cap ((head + 1) % cap) n := by
  refine List.ext_getElem (by simp) fun i hi hi' => ?_
  cases i with
  | zero => rw [getElem_ringList, Nat.add_zero, Nat.mod_eq_of_lt hhead]; rfl
  | succ i =>
    rw [getElem_ringList, List.getElem_cons_succ, getElem_ringList, Nat.mod_add_mod,
      Nat.add_assoc, Nat.add_comm 1 i]

/-- An element stored after the last one. -/
lemma ringList_update (hhead : head < cap) (hn : n < cap) :
    ringList (Function.update m ((head + n) % cap) a) cap head (n + 1) =
      ringList m cap head n ++ [a] := by
  rw [ringList, List.range_succ, List.map_append, List.map_singleton, Function.update_self]
  congr 1
  refine ringList_congr fun i hi => ?_
  rw [Function.update_of_ne (ring_index_ne hhead hi hn)]

/-- The first cell is not one of the others. -/
lemma ringList_update_head (hhead : head < cap) (hn : n < cap) :
    ringList (Function.update m head a) cap ((head + 1) % cap) n =
      ringList m cap ((head + 1) % cap) n := by
  refine ringList_congr fun i hi => ?_
  rw [Nat.mod_add_mod, Nat.add_assoc, Function.update_of_ne]
  have hne := ring_index_ne (i := 0) (j := 1 + i) hhead (by omega) (by omega)
  rw [Nat.add_zero, Nat.mod_eq_of_lt hhead] at hne
  exact hne.symm

/-- A full ring in at least twice as many cells, with the elements before `head` copied behind the
others. -/
lemma ringList_grow {m' : Nat → α} {cap' : Nat} (hcap : cap * 2 ≤ cap') (hhead : head < cap)
    (hfront : ∀ i, head ≤ i → i < cap → m' i = m i)
    (hback : ∀ i < head, m' (cap + i) = m i) :
    ringList m' cap' head cap = ringList m cap head cap := by
  refine List.ext_getElem (by simp) fun i hi hi' => ?_
  rw [length_ringList] at hi
  rw [getElem_ringList, getElem_ringList, Nat.mod_eq_of_lt (by omega), ring_index hhead hi.le]
  split
  · exact hfront _ (by omega) ‹_›
  · have hcell := hback (head + i - cap) (by omega)
    rw [show cap + (head + i - cap) = head + i by omega] at hcell
    exact hcell

end FreeRdp
