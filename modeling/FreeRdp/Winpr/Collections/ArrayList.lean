import FreeRdp.Winpr.Collections.Slots

/-!
# Array lists

`ArrayList.c`. Pointers are addresses, and the objects are compared by a callback. A removal leaves
the last element in its slot behind the list. Every run of calls keeps the list it stands for in the
first slots of the array.
-/

namespace FreeRdp

/-- `ArrayList_New`: what is in the memory behind the array is not known. -/
def arrayListNew (m : Nat → Nat) : Slots Nat where
  size := 0
  capacity := 32
  cell := fun i => if i < 32 then 0 else m i
  inBounds := true

/-- `ArrayList_Shift`. -/
def arrayListShift (realloc : Malloc) (l : Slots Nat) (index : Nat) (count : Int) :
    Bool × Slots Nat :=
  if 0 < count then
    match if (l.capacity : Int) < l.size + count then l.grow realloc 8 else some l with
    | none => (false, l)
    | some l =>
      (true, { l.move (index + count).toNat index (l.size - index) with
        size := (l.size + count).toNat })
  else if count < 0 then
    let chunk : Int := l.size - index + count
    let l := if 0 < chunk then l.move index (index - count).toNat chunk.toNat else l
    (true, { l with size := (l.size + count).toNat })
  else (true, l)

/-- `ArrayList_Clear`. -/
def arrayListClear (l : Slots Nat) : Slots Nat :=
  { l.access 0 l.size with cell := writeList l.cell 0 (List.replicate l.size 0), size := 0 }

/-- `ArrayList_Add`. -/
def arrayListAdd (realloc : Malloc) (l : Slots Nat) (obj : Nat) : Int × Slots Nat :=
  match if l.capacity < l.size + 1 then l.grow realloc 8 else some l with
  | none => (-1, l)
  | some l => (l.size + 1, l.push obj)

/-- `ArrayList_Insert`. -/
def arrayListInsert (realloc : Malloc) (l : Slots Nat) (index : Int) (obj : Nat) :
    Bool × Slots Nat :=
  if 0 ≤ index ∧ index < l.size then
    match arrayListShift realloc l index.toNat 1 with
    | (false, l) => (false, l)
    | (true, l) =>
      (true, { l.access index.toNat 1 with cell := Function.update l.cell index.toNat obj })
  else (true, l)

/-- `ArrayList_Remove`. -/
def arrayListRemove (realloc : Malloc) (fnObjectEquals : Nat → Nat → Bool) (l : Slots Nat)
    (obj : Nat) : Bool × Slots Nat :=
  match l.search (fun a => fnObjectEquals a obj) l.size 0 with
  | (some index, l) => arrayListShift realloc l index (-1)
  | (none, l) => (true, l)

/-- `ArrayList_RemoveAt`. -/
def arrayListRemoveAt (realloc : Malloc) (l : Slots Nat) (index : Int) : Bool × Slots Nat :=
  if 0 ≤ index ∧ index < l.size then arrayListShift realloc l index.toNat (-1) else (true, l)

/-! ### Runs -/

/-- The calls that change a list. -/
inductive ArrayListCall
  | add (obj : Nat)
  | insert (index : Int) (obj : Nat)
  | remove (obj : Nat)
  | removeAt (index : Int)
  | clear
  deriving DecidableEq, Repr

/-- A call, and whether it succeeds. -/
def ArrayListCall.run (realloc : Malloc) (fnObjectEquals : Nat → Nat → Bool) (l : Slots Nat) :
    ArrayListCall → Bool × Slots Nat
  | .add obj =>
    let (index, l) := arrayListAdd realloc l obj
    (index ≠ -1, l)
  | .insert index obj => arrayListInsert realloc l index obj
  | .remove obj => arrayListRemove realloc fnObjectEquals l obj
  | .removeAt index => arrayListRemoveAt realloc l index
  | .clear => (true, arrayListClear l)

/-- What a call that succeeds does to a list. -/
def ArrayListCall.apply (fnObjectEquals : Nat → Nat → Bool) (xs : List Nat) :
    ArrayListCall → List Nat
  | .add obj => xs ++ [obj]
  | .insert index obj =>
    if 0 ≤ index ∧ index < xs.length then xs.insertIdx index.toNat obj else xs
  | .remove obj => xs.eraseP (fun a => fnObjectEquals a obj)
  | .removeAt index => if 0 ≤ index ∧ index < xs.length then xs.eraseIdx index.toNat else xs
  | .clear => []

/-- A call on an array list and on the list it stands for. -/
def arrayListStep (realloc : Malloc) (fnObjectEquals : Nat → Nat → Bool)
    (state : Slots Nat × List Nat) (call : ArrayListCall) : Slots Nat × List Nat :=
  let (succeeds, l) := call.run realloc fnObjectEquals state.1
  (l, if succeeds then call.apply fnObjectEquals state.2 else state.2)

/-- The calls from `ArrayList_New` on. -/
def arrayListRun (realloc : Malloc) (fnObjectEquals : Nat → Nat → Bool) (m : Nat → Nat)
    (calls : List ArrayListCall) : Slots Nat × List Nat :=
  calls.foldl (arrayListStep realloc fnObjectEquals) (arrayListNew m, [])

/-! ### What the calls do -/

variable {realloc : Malloc} {fnObjectEquals : Nat → Nat → Bool} {l l' : Slots Nat} {xs : List Nat}
  {obj : Nat}

/-- Room for one more element. -/
lemma room_for_one (h : l.Fits)
    (hroom : (if l.capacity < l.size + 1 then l.grow realloc 8 else some l) = some l') :
    l'.Fits ∧ l'.items = l.items ∧ l'.size = l.size ∧ l'.inBounds = l.inBounds ∧
      l'.size < l'.capacity := by
  split at hroom
  · obtain ⟨hfits, hitems, hsize, hin, hcapacity⟩ := h.grow (by decide) (by decide) hroom
    have hle := h.size_le
    have hpos := h.capacity_pos
    exact ⟨hfits, hitems, hsize, hin, by omega⟩
  · obtain rfl := Option.some.inj hroom
    exact ⟨h, rfl, rfl, rfl, by omega⟩

lemma arrayListAdd_spec (h : l.Fits) (hin : l.inBounds = true) {r : Int}
    (hadd : arrayListAdd realloc l obj = (r, l')) :
    l'.Fits ∧ l'.inBounds = true ∧ l'.items = if r ≠ -1 then l.items ++ [obj] else l.items := by
  unfold arrayListAdd at hadd
  split at hadd
  · obtain ⟨rfl, rfl⟩ := Prod.mk.inj hadd
    exact ⟨h, hin, by simp⟩
  · rename_i l₁ hroom
    obtain ⟨hfits, hitems, hsize, hin₁, hlt⟩ := room_for_one h hroom
    obtain ⟨rfl, rfl⟩ := Prod.mk.inj hadd
    refine ⟨⟨hlt, hfits.capacity_pos, hfits.capacity_lt⟩, ?_, ?_⟩
    · rw [Slots.inBounds_push hlt, hin₁, hin]
    · rw [Slots.items_push, hitems, if_pos (by omega)]

/-- A section of a list that has room moves up by one. -/
lemma arrayListShift_one (l : Slots Nat) (index : Nat) :
    arrayListShift realloc l index 1 =
      match if l.capacity < l.size + 1 then l.grow realloc 8 else some l with
      | none => (false, l)
      | some l =>
        (true, { l.move (index + 1) index (l.size - index) with size := l.size + 1 }) := by
  have hroom : (l.capacity : Int) < l.size + 1 ↔ l.capacity < l.size + 1 := by omega
  simp only [arrayListShift, hroom, Int.zero_lt_one, if_true]
  rfl

lemma arrayListInsert_spec {index : Int} (h : l.Fits) (hin : l.inBounds = true) {succeeds : Bool}
    (hinsert : arrayListInsert realloc l index obj = (succeeds, l')) :
    l'.Fits ∧ l'.inBounds = true ∧ l'.items = if succeeds then
      (ArrayListCall.insert index obj).apply fnObjectEquals l.items else l.items := by
  unfold arrayListInsert at hinsert
  rw [ArrayListCall.apply, Slots.length_items]
  split at hinsert
  · rename_i hindex
    rw [arrayListShift_one] at hinsert
    rw [if_pos hindex]
    split at hinsert
    · rename_i l₁ hshift
      obtain ⟨rfl, rfl⟩ := Prod.mk.inj hinsert
      split at hshift
      · obtain ⟨-, rfl⟩ := Prod.mk.inj hshift
        exact ⟨h, hin, rfl⟩
      · cases hshift
    · rename_i l₂ hshift
      obtain ⟨rfl, rfl⟩ := Prod.mk.inj hinsert
      split at hshift
      · cases hshift
      rename_i l₁ hroom
      obtain ⟨hfits, hitems, hsize, hin₁, hlt⟩ := room_for_one h hroom
      obtain ⟨-, rfl⟩ := Prod.mk.inj hshift
      have hle : index.toNat < l₁.size := by omega
      refine ⟨⟨hlt, hfits.capacity_pos, hfits.capacity_lt⟩, ?_, ?_⟩
      · rw [Slots.inBounds_access]
        refine ⟨Slots.inBounds_move.mpr ⟨⟨hin₁.trans hin, ?_⟩, ?_⟩, ?_⟩
        · omega
        · omega
        · exact Or.inr (Nat.lt_of_lt_of_le hle hfits.size_le)
      · rw [← hitems, if_pos rfl]
        refine Slots.items_insertIdx rfl hle.le (fun j hj => ?_) ?_ (fun j hj hj' => ?_)
        · refine (Function.update_of_ne hj.ne _ _).trans (if_neg ?_)
          omega
        · exact Function.update_self _ _ _
        · refine (Function.update_of_ne (by omega) _ _).trans ((if_pos (by omega)).trans ?_)
          congr 1
          omega
  · rename_i hindex
    obtain ⟨rfl, rfl⟩ := Prod.mk.inj hinsert
    exact ⟨h, hin, by rw [if_neg hindex, if_pos rfl]⟩

/-- The elements behind an index move down by one; the slot of the last one stays as it is. -/
lemma arrayListShift_neg_one (realloc : Malloc) {index : Nat} (h : l.Fits)
    (hin : l.inBounds = true) (hindex : index < l.size) :
    ∃ l', arrayListShift realloc l index (-1) = (true, l') ∧ l'.Fits ∧ l'.inBounds = true ∧
      l'.items = l.items.eraseIdx index := by
  have hle := h.size_le
  have hsize : ((l.size : Int) + -1).toNat = l.size - 1 := by omega
  have hnext : ((index : Int) - -1).toNat = index + 1 := by omega
  have hchunk : ((l.size : Int) - index + -1).toNat = l.size - index - 1 := by omega
  have hshift : arrayListShift realloc l index (-1) =
      (true, { (if (0 : Int) < l.size - index + -1 then
        l.move index (index + 1) (l.size - index - 1) else l) with size := l.size - 1 }) := by
    rw [arrayListShift, if_neg (by decide), if_pos (by decide)]
    dsimp only
    rw [hnext, hchunk]
    split
    · rw [← hsize]
      rfl
    · rw [← hsize]
  refine ⟨_, hshift, ?_⟩
  split
  · refine ⟨⟨(Nat.sub_le _ _).trans hle, h.capacity_pos, h.capacity_lt⟩, ?_, ?_⟩
    · refine Slots.inBounds_move.mpr ⟨⟨hin, ?_⟩, ?_⟩ <;> omega
    · refine Slots.items_eraseIdx rfl hindex (fun j hj => if_neg ?_) (fun j hj hj' => ?_)
      · omega
      · refine (if_pos (by omega)).trans ?_
        congr 1
        omega
  · refine ⟨⟨(Nat.sub_le _ _).trans hle, h.capacity_pos, h.capacity_lt⟩, hin, ?_⟩
    exact Slots.items_eraseIdx rfl hindex (fun j hj => rfl) (fun j hj hj' => by omega)

lemma arrayListRemoveAt_spec {index : Int} (h : l.Fits) (hin : l.inBounds = true)
    {succeeds : Bool} (hremove : arrayListRemoveAt realloc l index = (succeeds, l')) :
    l'.Fits ∧ l'.inBounds = true ∧ l'.items = if succeeds then
      (ArrayListCall.removeAt index).apply fnObjectEquals l.items else l.items := by
  unfold arrayListRemoveAt at hremove
  rw [ArrayListCall.apply, Slots.length_items]
  split at hremove
  · rename_i hindex
    have hlt : index.toNat < l.size := by omega
    obtain ⟨l₁, hshift, hfits, hin₁, hitems⟩ := arrayListShift_neg_one realloc h hin hlt
    rw [hshift] at hremove
    obtain ⟨rfl, rfl⟩ := Prod.mk.inj hremove
    exact ⟨hfits, hin₁, by rw [if_pos rfl, if_pos hindex, hitems]⟩
  · rename_i hindex
    obtain ⟨rfl, rfl⟩ := Prod.mk.inj hremove
    exact ⟨h, hin, by rw [if_neg hindex, if_pos rfl]⟩

lemma arrayListRemove_spec (h : l.Fits) (hin : l.inBounds = true)
    {succeeds : Bool} (hremove : arrayListRemove realloc fnObjectEquals l obj = (succeeds, l')) :
    l'.Fits ∧ l'.inBounds = true ∧ l'.items = if succeeds then
      (ArrayListCall.remove obj).apply fnObjectEquals l.items else l.items := by
  unfold arrayListRemove at hremove
  rw [ArrayListCall.apply, List.eraseP_eq_eraseIdx]
  split at hremove
  · rename_i index l₁ hsearch
    obtain ⟨rfl, hfound⟩ := Slots.search_eq_findIdx? h.size_le hsearch
    obtain ⟨hindex, -⟩ := List.findIdx?_eq_some_iff_getElem.mp hfound.symm
    rw [Slots.length_items] at hindex
    obtain ⟨l₂, hshift, hfits, hin₂, hitems⟩ := arrayListShift_neg_one realloc h hin hindex
    rw [hshift] at hremove
    obtain ⟨rfl, rfl⟩ := Prod.mk.inj hremove
    exact ⟨hfits, hin₂, by rw [if_pos rfl, ← hfound, hitems]⟩
  · rename_i l₁ hsearch
    obtain ⟨rfl, hfound⟩ := Slots.search_eq_findIdx? h.size_le hsearch
    obtain ⟨rfl, rfl⟩ := Prod.mk.inj hremove
    exact ⟨h, hin, by rw [if_pos rfl, ← hfound]⟩

lemma arrayListClear_spec (h : l.Fits) (hin : l.inBounds = true) :
    (arrayListClear l).Fits ∧ (arrayListClear l).inBounds = true ∧
      (arrayListClear l).items = [] :=
  ⟨⟨Nat.zero_le _, h.capacity_pos, h.capacity_lt⟩,
    Slots.inBounds_access.mpr ⟨hin, Or.inr ((Nat.zero_add _).trans_le h.size_le)⟩, rfl⟩

/-- What a call does to the elements, and that it accesses slots of the array only. -/
lemma ArrayListCall.run_spec (call : ArrayListCall) (h : l.Fits) (hin : l.inBounds = true)
    {succeeds : Bool} (hrun : call.run realloc fnObjectEquals l = (succeeds, l')) :
    l'.Fits ∧ l'.inBounds = true ∧
      l'.items = if succeeds then call.apply fnObjectEquals l.items else l.items := by
  cases call with
  | add obj =>
    rcases hadd : arrayListAdd realloc l obj with ⟨r, l₁⟩
    have hspec := arrayListAdd_spec h hin hadd
    rw [ArrayListCall.run, hadd] at hrun
    obtain ⟨rfl, rfl⟩ := Prod.mk.inj hrun
    rw [ArrayListCall.apply]
    simpa only [decide_eq_true_eq] using hspec
  | insert index obj => exact arrayListInsert_spec h hin hrun
  | remove obj => exact arrayListRemove_spec h hin hrun
  | removeAt index => exact arrayListRemoveAt_spec h hin hrun
  | clear =>
    obtain ⟨rfl, rfl⟩ := Prod.mk.inj hrun
    exact arrayListClear_spec h hin

/-- The invariant of runs: the elements in the array are the list it stands for. -/
structure ArrayListState (state : Slots Nat × List Nat) : Prop where
  fits : state.1.Fits
  inBounds : state.1.inBounds = true
  items_eq : state.1.items = state.2

lemma ArrayListState.new (m : Nat → Nat) : ArrayListState (arrayListNew m, []) where
  fits := ⟨Nat.zero_le _, Nat.succ_pos _, show 32 < 2 ^ 31 by decide⟩
  inBounds := rfl
  items_eq := rfl

/-- One call keeps the invariant. -/
lemma ArrayListState.step {state : Slots Nat × List Nat} (h : ArrayListState state)
    (call : ArrayListCall) : ArrayListState (arrayListStep realloc fnObjectEquals state call) := by
  rcases hrun : call.run realloc fnObjectEquals state.1 with ⟨succeeds, l'⟩
  obtain ⟨hfits, hin, hitems⟩ := call.run_spec h.fits h.inBounds hrun
  have hstep : arrayListStep realloc fnObjectEquals state call =
      (l', if succeeds then call.apply fnObjectEquals state.2 else state.2) := by
    rw [arrayListStep, hrun]
  rw [hstep]
  exact ⟨hfits, hin, by rw [hitems, h.items_eq]⟩

/-- Every run keeps the invariant. -/
lemma arrayListRun_state (calls : List ArrayListCall) (m : Nat → Nat) :
    ArrayListState (arrayListRun realloc fnObjectEquals m calls) := by
  rw [arrayListRun]
  generalize hs : (arrayListNew m, ([] : List Nat)) = state
  have hstate : ArrayListState state := hs ▸ ArrayListState.new m
  clear hs
  induction calls generalizing state with
  | nil => exact hstate
  | cons call calls ih => exact ih _ (hstate.step call)

end FreeRdp
