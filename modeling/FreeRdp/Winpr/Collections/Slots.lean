import FreeRdp.Library.Slots
import FreeRdp.Winpr.Crt

/-!
# Lists that grow

The lists of the pools are in arrays that are reallocated.
-/

namespace FreeRdp

/-- A list gets twice the capacity. -/
def Slots.grow {α : Type*} (realloc : Malloc) (itemSize : Nat) (l : Slots α) :
    Option (Slots α) :=
  let newCapacity := doubledCapacity l.capacity
  if !realloc.succeeds (reallocSize itemSize newCapacity) then none
  else some { l with capacity := newCapacity.toNat }

/-- A list of a pool that is not too long for its array. -/
structure Slots.Fits {α : Type*} (l : Slots α) : Prop where
  size_le : l.size ≤ l.capacity
  capacity_pos : 0 < l.capacity
  capacity_lt : l.capacity < 2 ^ 31

namespace Slots

variable {α : Type*} {l l' : Slots α} {realloc : Malloc} {itemSize : Nat}

/-- A list that grows has room for as many elements again. -/
lemma Fits.grow (h : l.Fits) (hpos : 1 ≤ itemSize) (hle : itemSize ≤ 2 ^ 31)
    (hgrow : l.grow realloc itemSize = some l') :
    l'.Fits ∧ l'.items = l.items ∧ l'.size = l.size ∧ l'.inBounds = l.inBounds ∧
      l'.capacity = l.capacity * 2 := by
  unfold Slots.grow at hgrow
  dsimp only at hgrow
  split at hgrow
  · cases hgrow
  rename_i hrealloc
  obtain ⟨hdouble, hlt⟩ :=
    doubledCapacity_of_realloc hpos hle h.capacity_lt (by simpa using hrealloc)
  obtain rfl := Option.some.inj hgrow
  rw [hdouble]
  refine ⟨⟨?_, ?_, hlt⟩, rfl, rfl, rfl, rfl⟩
  · exact h.size_le.trans (Nat.le_mul_of_pos_right _ Nat.two_pos)
  · exact Nat.mul_pos h.capacity_pos Nat.two_pos

/-- The condition under which a list gets twice the capacity. -/
lemma grow_isSome (h : realloc.succeeds (reallocSize itemSize (doubledCapacity l.capacity)) = true) :
    ∃ l', l.grow realloc itemSize = some l' := by
  unfold Slots.grow
  dsimp only
  rw [h]
  exact ⟨_, rfl⟩

end Slots

end FreeRdp
