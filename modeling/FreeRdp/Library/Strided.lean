import Mathlib.Tactic

/-!
# Strided writes

A list is put into every `step`-th cell of a memory. Rows of an image are such lists, each from an
address of its own; rows that do not share cells can be read back, and other cells are untouched.
-/

namespace FreeRdp

variable {α : Type*} {m : Nat → α} {a b step : Nat} {xs ys : List α}

/-- The memory with the list `xs` in every `step`-th cell from `a` on. -/
def writeStrided (m : Nat → α) (a step : Nat) : List α → Nat → α
  | [] => m
  | x :: xs => writeStrided (Function.update m a x) (a + step) step xs

/-- The cell `i` is one of the first `n` cells of a stride. -/
def InStride (a step n i : Nat) : Prop := ∃ k < n, i = a + step * k

@[simp] lemma writeStrided_nil : writeStrided m a step [] = m := rfl

lemma writeStrided_append (m : Nat → α) (a step : Nat) (xs ys : List α) :
    writeStrided m a step (xs ++ ys) =
      writeStrided (writeStrided m a step xs) (a + step * xs.length) step ys := by
  induction xs generalizing m a with
  | nil => rfl
  | cons x xs ih =>
    rw [List.cons_append, writeStrided, ih, writeStrided, List.length_cons, Nat.mul_succ,
      Nat.add_assoc, Nat.add_comm step]

/-- Other cells keep their contents. -/
lemma writeStrided_of_not_inStride {i : Nat} (h : ¬InStride a step xs.length i) :
    writeStrided m a step xs i = m i := by
  induction xs generalizing m a with
  | nil => rfl
  | cons x xs ih =>
    have hfirst : i ≠ a := by
      rintro rfl
      exact h ⟨0, by simp, by simp⟩
    rw [writeStrided, ih, Function.update_of_ne hfirst]
    rintro ⟨k, hk, rfl⟩
    exact h ⟨k + 1, by simpa using hk, by rw [Nat.mul_succ]; omega⟩

/-- What was written is read back. -/
lemma writeStrided_add (hstep : 0 < step) {k : Nat} (hk : k < xs.length) :
    writeStrided m a step xs (a + step * k) = xs[k] := by
  induction xs generalizing m a k with
  | nil => exact absurd hk (Nat.not_lt_zero k)
  | cons x xs ih =>
    cases k with
    | zero =>
      have hnot : ¬InStride (a + step) step xs.length a := by
        rintro ⟨k, -, hk⟩
        omega
      rw [writeStrided, Nat.mul_zero, Nat.add_zero, writeStrided_of_not_inStride hnot]
      exact Function.update_self a x m
    | succ k =>
      have hk' : k < xs.length := by simpa using hk
      rw [writeStrided, show a + step * (k + 1) = a + step + step * k by rw [Nat.mul_succ]; omega,
        ih hk']
      rfl

/-! ### Rows -/

/-- Rows with their addresses, written one after the other. -/
def writeRows (m : Nat → α) (step : Nat) : List (Nat × List α) → Nat → α
  | [] => m
  | (a, xs) :: rows => writeRows (writeStrided m a step xs) step rows

/-- Two rows of `n` cells each share no cell. -/
def StridesApart (step n a b : Nat) : Prop := ∀ i, InStride a step n i → ¬InStride b step n i

lemma StridesApart.symm {n : Nat} (h : StridesApart step n a b) : StridesApart step n b a :=
  fun i hb ha => h i ha hb

/-- Cells outside of all rows keep their contents. -/
lemma writeRows_of_forall_not_inStride {rows : List (Nat × List α)} {i : Nat}
    (h : ∀ row ∈ rows, ¬InStride row.1 step row.2.length i) : writeRows m step rows i = m i := by
  induction rows generalizing m with
  | nil => rfl
  | cons row rows ih =>
    obtain ⟨hrow, hrest⟩ := List.forall_mem_cons.mp h
    rw [writeRows, ih hrest, writeStrided_of_not_inStride hrow]

/-- Rows that lie apart are read back. -/
lemma writeRows_of_mem (hstep : 0 < step) {n : Nat} {rows : List (Nat × List α)}
    (hlength : ∀ row ∈ rows, row.2.length = n)
    (hapart : rows.Pairwise fun r r' => StridesApart step n r.1 r'.1) {row : Nat × List α}
    (hrow : row ∈ rows) {k : Nat} (hk : k < row.2.length) :
    writeRows m step rows (row.1 + step * k) = row.2[k] := by
  induction rows generalizing m with
  | nil => exact absurd hrow List.not_mem_nil
  | cons first rows ih =>
    obtain ⟨hfirst, hlength'⟩ := List.forall_mem_cons.mp hlength
    obtain ⟨hapart', hrest⟩ := List.pairwise_cons.mp hapart
    rw [writeRows]
    rcases List.mem_cons.mp hrow with rfl | hmem
    · -- the later rows do not touch this one
      rw [writeRows_of_forall_not_inStride, writeStrided_add hstep hk]
      intro r hr
      rw [hlength' r hr]
      exact hapart' r hr _ ⟨k, hfirst ▸ hk, rfl⟩
    · exact ih hlength' hrest hmem

end FreeRdp
