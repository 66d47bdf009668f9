import FreeRdp.Library.Copy

/-!
# Lists in arrays

A list in the first slots of an array that has room for more. The array remembers whether all its
accesses were to its own slots; an access outside reads or writes cells that do not belong to it.
-/

namespace FreeRdp

/-- An array of `capacity` slots, the first `size` of them in use. -/
structure Slots (α : Type*) where
  size : Nat
  capacity : Nat
  cell : Nat → α
  inBounds : Bool

namespace Slots

variable {α : Type*} {l l' : Slots α} {i n : Nat} {a : α}

/-- The elements of the list. -/
def items (l : Slots α) : List α := readList l.cell 0 l.size

/-- An access of `n` slots from `i` on. -/
def access (l : Slots α) (i n : Nat) : Slots α :=
  { l with inBounds := l.inBounds && decide (n = 0 ∨ i + n ≤ l.capacity) }

/-- `n` slots are moved at once. -/
def move (l : Slots α) (dst src n : Nat) : Slots α :=
  { (l.access src n).access dst n with cell := copyBlock l.cell src dst n }

/-- An element is stored behind the others. -/
def push (l : Slots α) (a : α) : Slots α :=
  { l.access l.size 1 with size := l.size + 1, cell := Function.update l.cell l.size a }

/-- A loop over `n` slots from `index` on, to the first one whose element meets `p`. -/
def search (p : α → Bool) : Nat → Nat → Slots α → Option Nat × Slots α
  | 0, _, l => (none, l)
  | n + 1, index, l =>
    let l := l.access index 1
    if p (l.cell index) then (some index, l) else search p n (index + 1) l

@[simp] lemma length_items (l : Slots α) : l.items.length = l.size := length_readList _ _ _

@[simp] lemma getElem_items (h : i < l.items.length) : l.items[i] = l.cell i := by
  simp only [items, getElem_readList, Nat.zero_add]

lemma mem_items : a ∈ l.items ↔ ∃ i < l.size, l.cell i = a := by
  simp [items, readList]

lemma access_eq (h : n = 0 ∨ i + n ≤ l.capacity) : l.access i n = l := by
  rw [access, decide_eq_true h, Bool.and_true]

@[simp] lemma items_access (l : Slots α) (i n : Nat) : (l.access i n).items = l.items := rfl

@[simp] lemma items_push (l : Slots α) (a : α) : (l.push a).items = l.items ++ [a] := by
  have hitems : (l.push a).items = readList (l.push a).cell 0 l.size ++ [(l.push a).cell l.size] := by
    rw [items, push, readList_add, Nat.zero_add]
    rfl
  have hlast : (l.push a).cell l.size = a := Function.update_self _ _ _
  rw [hitems, hlast, items, readList, readList]
  congr 1
  refine List.map_congr_left fun i hi => ?_
  rw [List.mem_range'_1] at hi
  exact Function.update_of_ne (by omega) _ _

/-- A slot is free behind the list. -/
lemma inBounds_push (h : l.size < l.capacity) : (l.push a).inBounds = l.inBounds := by
  rw [push, access_eq (.inr h)]

lemma inBounds_access :
    (l.access i n).inBounds = true ↔ l.inBounds = true ∧ (n = 0 ∨ i + n ≤ l.capacity) := by
  rw [access, Bool.and_eq_true, decide_eq_true_iff]

/-- Both places of a move are inside of the array. -/
lemma inBounds_move {dst src : Nat} : (l.move dst src n).inBounds = true ↔
    (l.inBounds = true ∧ (n = 0 ∨ src + n ≤ l.capacity)) ∧ (n = 0 ∨ dst + n ≤ l.capacity) :=
  inBounds_access.trans (and_congr_left' inBounds_access)

/-- The elements behind the one at `i` move down by one. -/
lemma items_eraseIdx (hsize : l'.size = l.size - 1) (hi : i < l.size)
    (hbefore : ∀ j < i, l'.cell j = l.cell j)
    (hafter : ∀ j, i ≤ j → j + 1 < l.size → l'.cell j = l.cell (j + 1)) :
    l'.items = l.items.eraseIdx i := by
  refine List.ext_getElem ?_ fun j hj hj' => ?_
  · rw [List.length_eraseIdx_of_lt (by rwa [length_items]), length_items, length_items, hsize]
  · rw [length_items, hsize] at hj
    rw [List.getElem_eraseIdx, getElem_items]
    split
    · rw [getElem_items]
      exact hbefore j ‹_›
    · rw [getElem_items]
      exact hafter j (by omega) (by omega)

/-- The elements from the one at `i` on move up by one, to make room for `a`. -/
lemma items_insertIdx (hsize : l'.size = l.size + 1) (hi : i ≤ l.size)
    (hbefore : ∀ j < i, l'.cell j = l.cell j) (hat : l'.cell i = a)
    (hafter : ∀ j, i ≤ j → j < l.size → l'.cell (j + 1) = l.cell j) :
    l'.items = l.items.insertIdx i a := by
  refine List.ext_getElem ?_ fun j hj hj' => ?_
  · rw [List.length_insertIdx_of_le_length (by rwa [length_items]), length_items, length_items,
      hsize]
  · rw [length_items, hsize] at hj
    rw [List.getElem_insertIdx, getElem_items]
    split
    · rw [getElem_items]
      exact hbefore j ‹_›
    · split
      · rename_i hji
        rw [hji, hat]
      · rw [getElem_items, ← hafter (j - 1) (by omega) (by omega), Nat.sub_add_cancel (by omega)]

private lemma search_from {p : α → Bool} {found : Option Nat} (h : l.size ≤ l.capacity) :
    ∀ {n index : Nat}, index + n = l.size → (∀ i < index, p (l.cell i) = false) →
      search p n index l = (found, l') →
      l' = l ∧ ((∃ i < l.size, found = some i ∧ p (l.cell i) = true ∧
          ∀ j < i, p (l.cell j) = false) ∨
        found = none ∧ ∀ i < l.size, p (l.cell i) = false) := by
  intro n
  induction n with
  | zero =>
    intro index hindex hne hsearch
    obtain ⟨rfl, rfl⟩ := Prod.mk.inj hsearch
    exact ⟨rfl, .inr ⟨rfl, fun i hi => hne i (by omega)⟩⟩
  | succ n ih =>
    intro index hindex hne hsearch
    rw [search, access_eq (.inr (by omega))] at hsearch
    split at hsearch
    · rename_i hfound
      obtain ⟨rfl, rfl⟩ := Prod.mk.inj hsearch
      exact ⟨rfl, .inl ⟨index, by omega, rfl, hfound, hne⟩⟩
    · rename_i hfound
      refine ih (by omega) (fun i hi => ?_) hsearch
      rcases Nat.lt_succ_iff_lt_or_eq.mp hi with hlt | rfl
      · exact hne i hlt
      · exact Bool.eq_false_iff.mpr hfound

/-- The loop over all slots finds an element that meets `p` if there is one. -/
lemma search_spec {p : α → Bool} {found : Option Nat} (h : l.size ≤ l.capacity)
    (hsearch : search p l.size 0 l = (found, l')) :
    l' = l ∧ ((∃ i < l.size, found = some i ∧ p (l.cell i) = true) ∨
      found = none ∧ ∀ i < l.size, p (l.cell i) = false) := by
  obtain ⟨rfl, ⟨i, hi, hfound, hp, -⟩ | hnone⟩ :=
    search_from h (Nat.zero_add _) (fun i hi => absurd hi (Nat.not_lt_zero i)) hsearch
  · exact ⟨rfl, .inl ⟨i, hi, hfound, hp⟩⟩
  · exact ⟨rfl, .inr hnone⟩

/-- The loop over all slots stops at the first element that meets `p`. -/
lemma search_eq_findIdx? {p : α → Bool} {found : Option Nat} (h : l.size ≤ l.capacity)
    (hsearch : search p l.size 0 l = (found, l')) : l' = l ∧ found = l.items.findIdx? p := by
  obtain ⟨rfl, ⟨i, hi, rfl, hp, hfirst⟩ | ⟨rfl, hnone⟩⟩ :=
    search_from h (Nat.zero_add _) (fun i hi => absurd hi (Nat.not_lt_zero i)) hsearch
  · refine ⟨rfl, (List.findIdx?_eq_some_iff_getElem.mpr ⟨by rwa [length_items], ?_, ?_⟩).symm⟩
    · rwa [getElem_items]
    · intro j hj
      rw [getElem_items, hfirst j hj]
      exact Bool.false_ne_true
  · refine ⟨rfl, (List.findIdx?_eq_none_iff.mpr fun a ha => ?_).symm⟩
    obtain ⟨i, hi, rfl⟩ := mem_items.mp ha
    exact hnone i hi

end Slots

end FreeRdp
