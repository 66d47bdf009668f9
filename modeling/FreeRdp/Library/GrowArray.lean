import Mathlib.Tactic

/-!
# Growing arrays

An array whose capacity is doubled before it is full, so that there is always room behind its items.
-/

namespace FreeRdp

/-- Some items in an array that is not full. -/
structure GrowArray (α : Type*) where
  items : List α
  capacity : Nat
  length_lt : items.length < capacity
  deriving DecidableEq, Repr

namespace GrowArray

variable {α : Type*}

/-- No items. -/
def empty (capacity : Nat) (h : 0 < capacity) : GrowArray α := ⟨[], capacity, h⟩

/-- The item goes behind the others, in an array of twice the size if this one would be full. -/
def push (a : GrowArray α) (x : α) : GrowArray α where
  items := a.items ++ [x]
  capacity := if a.items.length + 1 ≥ a.capacity then a.capacity * 2 else a.capacity
  length_lt := by
    have hlt := a.length_lt
    rw [List.length_append, List.length_singleton]
    split <;> omega

/-- The item at some index is changed. -/
def modify (a : GrowArray α) (i : Nat) (f : α → α) : GrowArray α where
  items := a.items.modify i f
  capacity := a.capacity
  length_lt := by
    rw [List.length_modify]
    exact a.length_lt

@[simp] lemma items_empty {capacity : Nat} (h : 0 < capacity) :
    (empty capacity h : GrowArray α).items = [] := rfl

@[simp] lemma items_push (a : GrowArray α) (x : α) : (a.push x).items = a.items ++ [x] := rfl

@[simp] lemma items_modify (a : GrowArray α) (i : Nat) (f : α → α) :
    (a.modify i f).items = a.items.modify i f := rfl

end GrowArray

/-! ### Lists with an element changed -/

variable {α : Type*}

lemma mem_modify {xs : List α} {i : Nat} {f : α → α} {y : α} (h : y ∈ xs.modify i f) :
    ∃ x ∈ xs, y = x ∨ y = f x := by
  obtain ⟨j, hj, rfl⟩ := List.mem_iff_getElem.mp h
  rw [List.length_modify] at hj
  refine ⟨xs[j], List.getElem_mem hj, ?_⟩
  rw [List.getElem_modify]
  split
  · exact Or.inr rfl
  · exact Or.inl rfl

lemma map_modify_of_eq {β : Type*} {xs : List α} {i : Nat} {f : α → α} {g : α → β}
    (h : ∀ x, g (f x) = g x) : (xs.modify i f).map g = xs.map g := by
  refine List.ext_getElem (by simp) fun j hj hj' => ?_
  rw [List.getElem_map, List.getElem_map, List.getElem_modify]
  split
  · exact h _
  · rfl

lemma modify_length_append (xs : List α) (x : α) (f : α → α) :
    (xs ++ [x]).modify xs.length f = xs ++ [f x] := by
  induction xs with
  | nil => rfl
  | cons y xs ih => rw [List.cons_append, List.length_cons, List.modify_succ_cons, ih]; rfl

end FreeRdp
