import Mathlib.Tactic

/-!
# Copying inside a memory

A memory is a function from addresses to cells. `writeList` puts a list at an address; `copyCells`
copies cell by cell from a lower or higher address of the same memory, so that a copy may run into
the cells it has just written. `CopiesFrom` says which list such a copy produces. `copyBlock` copies
all cells at once.
-/

namespace FreeRdp

variable {α : Type*} {m : Nat → α} {a s d : Nat} {xs ys : List α}

/-- The memory with the list `xs` from address `a` on. -/
def writeList (m : Nat → α) (a : Nat) : List α → Nat → α
  | [] => m
  | x :: xs => writeList (Function.update m a x) (a + 1) xs

/-- The `n` cells from `s` on, copied one after the other to `d`. -/
def copyCells (m : Nat → α) (s d : Nat) : Nat → Nat → α
  | 0 => m
  | n + 1 => copyCells (Function.update m d (m s)) (s + 1) (d + 1) n

/-- The `n` cells from `s` on, copied to `d` at once. -/
def copyBlock (m : Nat → α) (s d n : Nat) : Nat → α := fun i =>
  if d ≤ i ∧ i < d + n then m (s + (i - d)) else m i

/-- The `n` cells from `a` on. -/
def readList (m : Nat → α) (a n : Nat) : List α := (List.range' a n).map m

/-- Copying from `s` to `d` produces `xs`: each cell holds its element at the time it is read. -/
def CopiesFrom (m : Nat → α) (s d : Nat) : List α → Prop
  | [] => True
  | x :: xs => m s = x ∧ CopiesFrom (Function.update m d x) (s + 1) (d + 1) xs

@[simp] lemma writeList_nil : writeList m a [] = m := rfl

lemma writeList_append (m : Nat → α) (a : Nat) (xs ys : List α) :
    writeList m a (xs ++ ys) = writeList (writeList m a xs) (a + xs.length) ys := by
  induction xs generalizing m a with
  | nil => rfl
  | cons x xs ih =>
    rw [List.cons_append, writeList, ih, writeList, List.length_cons, Nat.add_assoc,
      Nat.add_comm 1]

/-- Cells outside of the written range keep their contents. -/
lemma writeList_of_lt {i : Nat} (h : i < a) : writeList m a xs i = m i := by
  induction xs generalizing m a with
  | nil => rfl
  | cons x xs ih => rw [writeList, ih (by omega), Function.update_of_ne (by omega)]

lemma writeList_of_ge {i : Nat} (h : a + xs.length ≤ i) : writeList m a xs i = m i := by
  induction xs generalizing m a with
  | nil => rfl
  | cons x xs ih =>
    rw [List.length_cons] at h
    rw [writeList, ih (by omega), Function.update_of_ne (by omega)]

lemma writeList_add {j : Nat} (hj : j < xs.length) : writeList m a xs (a + j) = xs[j] := by
  induction xs generalizing m a j with
  | nil => exact absurd hj (Nat.not_lt_zero j)
  | cons x xs ih =>
    cases j with
    | zero =>
      rw [writeList, writeList_of_lt (by omega)]
      exact Function.update_self a x m
    | succ j =>
      rw [List.length_cons] at hj
      rw [writeList, show a + (j + 1) = a + 1 + j by omega, ih (by omega)]
      rfl

@[simp] lemma length_readList (m : Nat → α) (a n : Nat) : (readList m a n).length = n := by
  simp [readList]

@[simp] lemma getElem_readList {n i : Nat} (hi : i < (readList m a n).length) :
    (readList m a n)[i] = m (a + i) := by
  simp [readList]

lemma readList_succ (m : Nat → α) (a n : Nat) :
    readList m a (n + 1) = m a :: readList m (a + 1) n := rfl

lemma readList_shift (m : Nat → α) (a n : Nat) :
    readList (fun i => m (a + i)) 0 n = readList m a n := by
  refine List.ext_getElem (by simp) fun i hi hi' => ?_
  rw [getElem_readList, getElem_readList, Nat.zero_add]

/-- What was written is read back. -/
lemma readList_writeList : readList (writeList m a xs) a xs.length = xs := by
  induction xs generalizing m a with
  | nil => rfl
  | cons x xs ih =>
    have htail := ih (m := Function.update m a x) (a := a + 1)
    have hhead : writeList (Function.update m a x) (a + 1) xs a = x := by
      rw [writeList_of_lt (by omega), Function.update_self]
    rw [readList] at htail ⊢
    rw [writeList, List.length_cons, List.range'_succ, List.map_cons, hhead, htail]

lemma readList_add (m : Nat → α) (a n k : Nat) :
    readList m a (n + k) = readList m a n ++ readList m (a + n) k := by
  rw [readList, readList, readList, ← List.map_append, List.range'_append_1]

lemma take_readList (m : Nat → α) (a n k : Nat) :
    (readList m a n).take k = readList m a (min k n) := by
  refine List.ext_getElem (by simp) fun i hi hi' => ?_
  rw [List.getElem_take, getElem_readList, getElem_readList]

lemma drop_readList (m : Nat → α) (a n k : Nat) :
    (readList m a n).drop k = readList m (a + k) (n - k) := by
  refine List.ext_getElem (by simp) fun i hi hi' => ?_
  rw [List.getElem_drop, getElem_readList, getElem_readList, Nat.add_assoc]

/-- Cells inside of cells that are equal. -/
lemma readList_congr_inside {m' : Nat → α} {n i k : Nat} (h : readList m' d n = readList m s n)
    (hik : i + k ≤ n) : readList m' (d + i) k = readList m (s + i) k := by
  have hpart := congrArg (fun xs => (xs.drop i).take k) h
  simpa only [drop_readList, take_readList, Nat.min_eq_left (show k ≤ n - i by omega)] using hpart

/-- Cells apart from the written ones are read as before. -/
lemma readList_writeList_of_disjoint {w n : Nat} (h : n = 0 ∨ a + n ≤ w ∨ w + xs.length ≤ a) :
    readList (writeList m w xs) a n = readList m a n := by
  refine List.ext_getElem (by simp) fun i hi hi' => ?_
  rw [length_readList] at hi
  rw [getElem_readList, getElem_readList]
  rcases h with h | h | h
  · omega
  · exact writeList_of_lt (by omega)
  · exact writeList_of_ge (by omega)

lemma copyCells_eq_writeList (h : CopiesFrom m s d xs) :
    copyCells m s d xs.length = writeList m d xs := by
  induction xs generalizing m s d with
  | nil => rfl
  | cons x xs ih => rw [List.length_cons, copyCells, h.1, writeList, ih h.2]

lemma copyCells_add (m : Nat → α) (s d n k : Nat) :
    copyCells m s d (n + k) = copyCells (copyCells m s d n) (s + n) (d + n) k := by
  induction n generalizing m s d with
  | zero => simp [copyCells]
  | succ n ih =>
    rw [Nat.succ_add, copyCells, ih, copyCells, Nat.add_assoc, Nat.add_assoc, Nat.add_comm 1]

/-- A copy that does not run into its own cells can be made at once. -/
lemma copyCells_eq_copyBlock {n : Nat} (h : s + n ≤ d ∨ d ≤ s) :
    copyCells m s d n = copyBlock m s d n := by
  induction n generalizing m s d with
  | zero =>
    funext i
    rw [copyCells, copyBlock, if_neg (by omega)]
  | succ n ih =>
    rw [copyCells, ih (by omega)]
    funext i
    simp only [copyBlock]
    by_cases hi : i = d
    · subst hi
      rw [if_neg (by omega), if_pos (by omega), Function.update_self, Nat.sub_self, Nat.add_zero]
    · rw [Function.update_of_ne hi]
      by_cases hin : d + 1 ≤ i ∧ i < d + 1 + n
      · rw [if_pos hin, if_pos (by omega), Function.update_of_ne (by omega)]
        congr 1
        omega
      · rw [if_neg hin, if_neg (by omega)]

end FreeRdp
