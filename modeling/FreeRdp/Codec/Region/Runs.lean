import FreeRdp.Library.Runs
import FreeRdp.Codec.Region.Operations

/-!
# Regions under any sequence of operations

A program has several regions, and an operation may read and write the same one. The invariant
holds in all of them as long as no allocation fails that a function cannot do without.
-/

namespace FreeRdp

/-- A call of one of the functions; the regions are numbered. -/
inductive RegionOp where
  | unionRect (memory : RegionMemory) (dst src : Nat) (rect : Rectangle16)
  | intersectRect (memory : RegionMemory) (dst src : Nat) (rect : Rectangle16)
  | copy (memory : RegionMemory) (dst src : Nat)
  | clear (dst : Nat)
  deriving DecidableEq, Repr

/-- The regions after a call. -/
def regionStep (store : Nat → Region16) : RegionOp → Nat → Region16
  | .unionRect memory dst src rect =>
    Function.update store dst (region16UnionRect memory (store dst) (store src) rect).2
  | .intersectRect memory dst src rect =>
    Function.update store dst (region16IntersectRect memory (store dst) (store src) rect).2
  | .copy memory dst src =>
    if dst = src then store
    else Function.update store dst (region16Copy memory (store dst) (store src)).2
  | .clear dst => Function.update store dst region16Clear

/-- The rectangle of the call is not empty. -/
def RegionOp.Proper : RegionOp → Prop
  | .unionRect _ _ _ rect => rect.Proper
  | .intersectRect _ _ _ rect => rect.Proper
  | .copy _ _ _ => True
  | .clear _ => True

/-- The allocations for a new array of `items`: if the first one fails the region stays as it was,
but after that none may fail. Memory is given back a second time only where bands were joined. -/
def RegionMemory.Rebuilds (memory : RegionMemory) (items : List Rectangle16) : Prop :=
  memory.malloc = true → memory.realloc = true ∧ (JoinsBands items → memory.simplify = true)

/-- The allocations that a union of `src` makes succeed, or it fails before it has changed
anything. -/
def UnionAllocates (memory : RegionMemory) (src : Region16) (rect : Rectangle16) : Prop :=
  if src.rects = [] then memory.malloc = true
  else memory.Rebuilds (region16UnionItems src.extents src.rects rect)

/-- The same of an intersection, which is made by a union where `src` has a single rectangle. -/
def IntersectAllocates (memory : RegionMemory) (src : Region16) (rect : Rectangle16) : Prop :=
  if src.rects.length < 2 then
    src.rects = [] ∨ rectanglesIntersects src.extents rect = false ∨ memory.malloc = true
  else memory.Rebuilds (region16IntersectLoop rect src.rects ([], ⟨0, 0, 0, 0⟩)).1

/-- The same of a copy, which needs no memory for the data of size 0. -/
def CopyAllocates (memory : RegionMemory) (src : Region16) : Prop :=
  src.data = some emptyRegion ∨ memory.malloc = true

/-- The allocations that the call makes succeed, or it fails before it has changed anything. -/
def RegionOp.Allocates (store : Nat → Region16) : RegionOp → Prop
  | .unionRect memory _ src rect => UnionAllocates memory (store src) rect
  | .intersectRect memory _ src rect => IntersectAllocates memory (store src) rect
  | .copy memory dst src => dst = src ∨ CopyAllocates memory (store src)
  | .clear _ => True

variable {memory : RegionMemory} {src : Region16}

/-- A union succeeds or leaves `dst` as it was. -/
lemma region16UnionRect_ok (dst : Region16) {rect : Rectangle16} (hsrc : src.WellFormed)
    (hmemory : UnionAllocates memory src rect) :
    (region16UnionRect memory dst src rect).1 = true ∨
      (region16UnionRect memory dst src rect).2 = dst := by
  obtain ⟨size, hdata⟩ := hsrc.exists_data
  rw [region16UnionRect, hdata]
  rw [UnionAllocates] at hmemory
  generalize src.rects = rects at hmemory
  cases rects with
  | nil =>
    rw [if_pos rfl] at hmemory
    simp [hmemory]
  | cons r rects =>
    rw [if_neg (List.cons_ne_nil _ _)] at hmemory
    simp only
    split
    · rename_i hmalloc
      obtain ⟨hrealloc, hsimplify⟩ := hmemory hmalloc
      rw [if_pos hrealloc]
      exact Or.inl (region16SimplifyBands_ok hsimplify _ _)
    · exact Or.inr rfl

/-- So does an intersection. -/
lemma region16IntersectRect_ok (dst : Region16) {rect : Rectangle16} (hsrc : src.WellFormed)
    (hmemory : IntersectAllocates memory src rect) :
    (region16IntersectRect memory dst src rect).1 = true ∨
      (region16IntersectRect memory dst src rect).2 = dst := by
  obtain ⟨size, hdata⟩ := hsrc.exists_data
  rw [region16IntersectRect, hdata]
  rw [IntersectAllocates] at hmemory
  generalize src.rects = rects at hmemory
  rcases rects with _ | ⟨r, _ | ⟨s, rects⟩⟩
  · exact Or.inl rfl
  · rw [if_pos (by simp)] at hmemory
    simp only
    split
    · -- the union with the cleared region needs one allocation
      rename_i common hcommon
      have hmalloc : memory.malloc = true := by
        simpa [rectanglesIntersects, hcommon] using hmemory
      simp [region16UnionRect, region16Clear, emptyRegion, hmalloc]
    · exact Or.inl rfl
  · rw [if_neg (by simp)] at hmemory
    simp only
    split
    · rename_i hmalloc
      obtain ⟨hrealloc, hsimplify⟩ := hmemory hmalloc
      rw [if_pos hrealloc]
      exact Or.inl (region16SimplifyBands_ok hsimplify _ _)
    · exact Or.inr rfl

lemma region16Copy_ok (dst : Region16) (hsrc : src.WellFormed)
    (hmemory : CopyAllocates memory src) : (region16Copy memory dst src).1 = true := by
  obtain ⟨size, hdata⟩ := hsrc.exists_data
  rw [CopyAllocates] at hmemory
  rw [region16Copy]
  rcases hmemory with hempty | hmalloc
  · rw [hempty]
    rfl
  · rw [hdata]
    simp only [hmalloc, if_true]
    split <;> rfl

/-- All regions have the invariant. -/
def StoreInvariant (store : Nat → Region16) : Prop := ∀ i, (store i).Invariant

/-- One call keeps the invariant of all regions. -/
lemma regionStep_invariant {store : Nat → Region16} {op : RegionOp} (h : StoreInvariant store)
    (hproper : op.Proper) (hop : op.Allocates store) : StoreInvariant (regionStep store op) := by
  have hupdate : ∀ dst {region : Region16}, region.Invariant →
      StoreInvariant (Function.update store dst region) := by
    intro dst region hregion i
    by_cases hi : i = dst
    · rw [hi, Function.update_self]
      exact hregion
    · rw [Function.update_of_ne hi]
      exact h i
  cases op with
  | unionRect memory dst src rect =>
    refine hupdate dst ?_
    rcases region16UnionRect_ok (store dst) (h src).wellFormed hop with hok | hsame
    · exact Region16.Invariant.unionRect (h src).wellFormed hproper rfl hok
    · rw [hsame]
      exact h dst
  | intersectRect memory dst src rect =>
    refine hupdate dst ?_
    rcases region16IntersectRect_ok (store dst) (h src).wellFormed hop with hok | hsame
    · exact Region16.Invariant.intersectRect (h src).wellFormed rfl hok
    · rw [hsame]
      exact h dst
  | copy memory dst src =>
    rw [regionStep]
    split
    · exact h
    · rename_i hne
      exact hupdate dst ((h src).copy rfl
        (region16Copy_ok (store dst) (h src).wellFormed (hop.resolve_left hne)))
  | clear dst => exact hupdate dst invariant_clear

end FreeRdp
