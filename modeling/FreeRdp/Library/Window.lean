import FreeRdp.Library.Ring

/-!
# Sliding windows

The last `cap` elements of everything that was written, in a ring: `ringPut` writes over the oldest
elements. `periodic` repeats a list, as a copy does that overlaps with what it writes.
-/

namespace FreeRdp

variable {α : Type*} {m : Nat → α} {cap head n : Nat} {xs : List α}

/-! ### Writing into a full ring -/

/-- The ring with `xs` in the cells from `head` on, in up to two pieces. -/
def ringPut (m : Nat → α) (cap head : Nat) (xs : List α) : Nat → α :=
  if head + xs.length ≤ cap then writeList m head xs
  else writeList (writeList m head (xs.take (cap - head))) 0 (xs.drop (cap - head))

/-- The cells from `head` on have the new elements, and the others what they had. -/
lemma ringPut_cell (hhead : head < cap) (hlen : xs.length ≤ cap) {d : Nat} (hd : d < cap) :
    ringPut m cap head xs ((head + d) % cap) =
      if h : d < xs.length then xs[d] else m ((head + d) % cap) := by
  have htake : (xs.take (cap - head)).length = min (cap - head) xs.length := List.length_take
  have hdrop : (xs.drop (cap - head)).length = xs.length - (cap - head) := List.length_drop
  rw [ring_index hhead hd.le, ringPut]
  by_cases hpiece : head + xs.length ≤ cap
  · rw [if_pos hpiece]
    by_cases hnew : d < xs.length
    · rw [dif_pos hnew, if_pos (by omega), writeList_add hnew]
    · rw [dif_neg hnew]
      split
      · exact writeList_of_ge (by omega)
      · exact writeList_of_lt (by omega)
  · rw [if_neg hpiece]
    by_cases hnew : d < xs.length
    · rw [dif_pos hnew]
      split
      · rw [writeList_of_ge (by omega), writeList_add (by omega), List.getElem_take]
      · have hcell : head + d - cap = 0 + (d - (cap - head)) := by omega
        rw [hcell, writeList_add (by omega), List.getElem_drop]
        congr 1
        omega
    · rw [dif_neg hnew, if_neg (by omega), writeList_of_ge (by omega), writeList_of_lt (by omega)]

/-- The ring from its new head on: the elements that were written over are gone. -/
lemma ringList_ringPut (hhead : head < cap) (hlen : xs.length ≤ cap) :
    ringList (ringPut m cap head xs) cap ((head + xs.length) % cap) cap =
      (ringList m cap head cap ++ xs).drop xs.length := by
  refine List.ext_getElem (by simp) fun j hj hj' => ?_
  rw [length_ringList] at hj
  rw [getElem_ringList, List.getElem_drop, Nat.mod_add_mod, Nat.add_assoc]
  by_cases hold : xs.length + j < cap
  · rw [ringPut_cell hhead hlen hold, dif_neg (by omega), List.getElem_append_left (by simpa),
      getElem_ringList]
  · have hwrap : (head + (xs.length + j)) % cap = (head + (xs.length + j - cap)) % cap := by
      rw [show head + (xs.length + j) = head + (xs.length + j - cap) + cap by omega,
        Nat.add_mod_right]
    rw [hwrap, ringPut_cell hhead hlen (by omega), dif_pos (by omega),
      List.getElem_append_right (by rw [length_ringList]; omega)]
    congr 1
    rw [length_ringList]

/-! ### Reading from a full ring -/

/-- The last `n` elements of a full ring. -/
lemma drop_ringList (hn : n ≤ cap) :
    (ringList m cap head cap).drop (cap - n) = ringList m cap ((head + cap - n) % cap) n := by
  refine List.ext_getElem (by rw [List.length_drop]; simp; omega) fun i hi hi' => ?_
  rw [length_ringList] at hi'
  rw [List.getElem_drop, getElem_ringList, getElem_ringList, Nat.mod_add_mod]
  congr 2
  omega

/-- A part of a ring is read in up to two pieces. -/
lemma ringList_eq_readList (hhead : head < cap) (hn : n ≤ cap) :
    ringList m cap head n =
      if head + n ≤ cap then readList m head n
      else readList m head (cap - head) ++ readList m 0 (n - (cap - head)) := by
  refine List.ext_getElem ?_ fun i hi hi' => ?_
  · split
    · simp
    · simp
      omega
  · rw [length_ringList] at hi
    rw [getElem_ringList, ring_index hhead (by omega)]
    split
    · by_cases hpiece : head + n ≤ cap
      · simp only [if_pos hpiece, getElem_readList]
      · simp only [if_neg hpiece]
        rw [List.getElem_append_left (by rw [length_readList]; omega), getElem_readList]
    · have hpiece : ¬ head + n ≤ cap := by omega
      simp only [if_neg hpiece]
      rw [List.getElem_append_right (by rw [length_readList]; omega), getElem_readList,
        length_readList]
      congr 1
      omega

/-! ### Copies that overlap -/

variable [Inhabited α] {w : List α}

/-- The first `n` elements of `w` repeated. -/
def periodic (w : List α) (n : Nat) : List α :=
  (List.range n).map fun i => w.getD (i % w.length) default

@[simp] lemma length_periodic (w : List α) (n : Nat) : (periodic w n).length = n := by
  rw [periodic, List.length_map, List.length_range]

lemma take_periodic (w : List α) {n k : Nat} (h : k ≤ n) :
    (periodic w n).take k = periodic w k := by
  rw [periodic, ← List.map_take, List.take_range, Nat.min_eq_left h, periodic]

/-- As long as nothing is repeated. -/
lemma periodic_of_le (h : n ≤ w.length) : periodic w n = w.take n := by
  refine List.ext_getElem (by simp; omega) fun i hi hi' => ?_
  rw [length_periodic] at hi
  rw [List.getElem_take]
  simp only [periodic, List.getElem_map, List.getElem_range]
  rw [Nat.mod_eq_of_lt (by omega), List.getD_eq_getElem?_getD,
    List.getElem?_eq_getElem (by omega), Option.getD_some]

/-- The front of a whole number of repetitions, copied behind them. -/
lemma periodic_add {k n : Nat} (hk : w.length ∣ k) :
    periodic w (k + n) = periodic w k ++ periodic w n := by
  obtain ⟨c, rfl⟩ := hk
  rw [periodic, List.range_add, List.map_append, List.map_map]
  congr 1
  refine List.map_congr_left fun i _ => ?_
  rw [Function.comp_apply, Nat.mul_add_mod]

end FreeRdp
