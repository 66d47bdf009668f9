import FreeRdp.Codec.Region.Runs

/-!
# Regions as sets of pixels

What regions are for: a region stands for the pixels inside its rectangles, and the functions of
`region.c` are the operations of sets. Any sequence of calls on any number of regions computes
what the same operations make of sets of pixels, however the bands are split and joined on the way;
the test for an intersection is the one of sets, too.
-/

namespace FreeRdp

variable {rect : Rectangle16} {src : Region16} {x y : Nat}

/-- The pixels of a rectangle. -/
def Rectangle16.pixels (rect : Rectangle16) : Set (Nat × Nat) := {p | rect.Contains p.1 p.2}

/-- The pixels of a region. -/
def Region16.pixels (region : Region16) : Set (Nat × Nat) := {p | Covered region.rects p.1 p.2}

/-- Sets of pixels after a call. -/
def pixelStep (pixels : Nat → Set (Nat × Nat)) : RegionOp → Nat → Set (Nat × Nat)
  | .unionRect _ dst src rect => Function.update pixels dst (pixels src ∪ rect.pixels)
  | .intersectRect _ dst src rect => Function.update pixels dst (pixels src ∩ rect.pixels)
  | .copy _ dst src => Function.update pixels dst (pixels src)
  | .clear dst => Function.update pixels dst ∅

/-- The call returns `TRUE`. -/
def RegionOp.succeeds (store : Nat → Region16) : RegionOp → Bool
  | .unionRect memory dst src rect => (region16UnionRect memory (store dst) (store src) rect).1
  | .intersectRect memory dst src rect =>
    (region16IntersectRect memory (store dst) (store src) rect).1
  | .copy memory dst src => dst = src || (region16Copy memory (store dst) (store src)).1
  | .clear _ => true

/-- The call as far as it counts: one that returns `FALSE` does not. -/
def RegionOp.effect (store : Nat → Region16) (op : RegionOp) : List RegionOp :=
  if op.succeeds store then [op] else []

/-! ### Cutting -/

lemma rectanglesIntersection_contains {r s common : Rectangle16}
    (h : rectanglesIntersection r s = some common) :
    common.Contains x y ↔ r.Contains x y ∧ s.Contains x y := by
  obtain ⟨rfl, -⟩ := rectanglesIntersection_eq_some h
  simp only [Rectangle16.Contains]
  omega

lemma rectanglesIntersection_eq_none {r s : Rectangle16} (h : rectanglesIntersection r s = none) :
    ¬(r.Contains x y ∧ s.Contains x y) := by
  rw [rectanglesIntersection] at h
  simp only [ite_eq_right_iff, reduceCtorEq, imp_false] at h
  intro hboth
  simp only [Rectangle16.Contains] at hboth
  omega

lemma isSome_rectanglesIntersection_iff {r s : Rectangle16} :
    (rectanglesIntersection r s).isSome ↔ ∃ x y, r.Contains x y ∧ s.Contains x y := by
  cases h : rectanglesIntersection r s with
  | none =>
    simp only [Option.isSome_none, Bool.false_eq_true, false_iff, not_exists]
    intro x y
    exact rectanglesIntersection_eq_none h
  | some common =>
    obtain ⟨-, hproper⟩ := rectanglesIntersection_eq_some h
    simp only [Option.isSome_some, true_iff]
    refine ⟨common.left, common.top, (rectanglesIntersection_contains h).mp ?_⟩
    exact ⟨⟨le_rfl, hproper.1⟩, le_rfl, hproper.2⟩

lemma covered_intersectRects {rects : List Rectangle16} :
    Covered (intersectRects rect rects) x y ↔ Covered rects x y ∧ rect.Contains x y := by
  simp only [Covered, intersectRects, List.mem_filterMap]
  constructor
  · rintro ⟨common, ⟨r, hr, hcommon⟩, hcontains⟩
    obtain ⟨hin, hrect⟩ := (rectanglesIntersection_contains hcommon).mp hcontains
    exact ⟨⟨r, hr, hin⟩, hrect⟩
  · rintro ⟨⟨r, hr, hin⟩, hrect⟩
    cases hcut : rectanglesIntersection r rect with
    | none => exact absurd ⟨hin, hrect⟩ (rectanglesIntersection_eq_none hcut)
    | some common =>
      exact ⟨common, ⟨r, hr, hcut⟩, (rectanglesIntersection_contains hcut).mpr ⟨hin, hrect⟩⟩

/-! ### What a successful call leaves -/

variable {memory : RegionMemory} {dst : Region16} {result : Bool × Region16}

lemma Region16.WellFormed.pixels_unionRect (hsrc : src.WellFormed) (hrect : rect.Proper)
    (hresult : region16UnionRect memory dst src rect = result) (hok : result.1 = true) :
    result.2.pixels = src.pixels ∪ rect.pixels := by
  obtain ⟨bs, hbs, hrects⟩ := hsrc.banded.exists_bands
  obtain ⟨size, extents, -, heq, -⟩ :=
    region16UnionRect_rects hsrc hbs hrects.symm hrect hresult hok
  ext ⟨x, y⟩
  rw [heq]
  simp only [Region16.pixels, Rectangle16.pixels, Region16.rects, Set.mem_ofPred_eq, Set.mem_union,
    covered_unionResult hrect hbs]
  rw [hrects]
  rfl

/-- Joining bands does not change the pixels. -/
lemma RectsBanded.covered_simplify {rects : List Rectangle16} (h : RectsBanded rects) {size : Nat}
    (hsize : size ≠ 0) {realloc : Bool} {extents : Rectangle16}
    (hresult : region16SimplifyBands realloc extents size rects = result)
    (hok : result.1 = true) : Covered result.2.rects x y ↔ Covered rects x y := by
  obtain ⟨bs, hbs, rfl⟩ := h.exists_bands
  obtain ⟨size', -, heq⟩ := region16SimplifyBands_rects hbs hsize hresult hok
  rw [heq]
  exact covered_coalesce hbs

/-- A region of one rectangle has it as its extents. -/
lemma Region16.WellFormed.extents_of_single {r : Rectangle16} (hsrc : src.WellFormed)
    (hr : src.rects = [r]) : src.extents = r := by
  have hextents := hsrc.extents
  rw [hr, TightExtents, if_neg (List.cons_ne_nil _ _)] at hextents
  have hsingle := tightExtents_singleton r
  rw [TightExtents, if_neg (List.cons_ne_nil _ _)] at hsingle
  obtain ⟨hleft, htop, hright, hbottom⟩ := hextents
  obtain ⟨hleft', htop', hright', hbottom'⟩ := hsingle
  rcases hcases : src.extents with ⟨left, top, right, bottom⟩
  rw [hcases] at hleft htop hright hbottom
  cases r
  rw [Rectangle16.mk.injEq]
  exact ⟨hleft.unique hleft', htop.unique htop', hright.unique hright', hbottom.unique hbottom'⟩

lemma Region16.WellFormed.pixels_intersectRect (hsrc : src.WellFormed)
    (hresult : region16IntersectRect memory dst src rect = result) (hok : result.1 = true) :
    result.2.pixels = src.pixels ∩ rect.pixels := by
  obtain ⟨size, hdata⟩ := hsrc.exists_data
  have hbanded := hsrc.banded
  have hsingle : ∀ r, src.rects = [r] → src.extents = r := fun r => hsrc.extents_of_single
  ext ⟨x, y⟩
  simp only [Region16.pixels, Rectangle16.pixels, Set.mem_inter_iff, Set.mem_ofPred_eq]
  rw [region16IntersectRect, hdata] at hresult
  generalize src.rects = rects at hresult hbanded hsingle ⊢
  rcases rects with _ | ⟨r, _ | ⟨s, rects⟩⟩
  · subst hresult
    simp [region16Clear, Region16.rects, emptyRegion, Covered]
  · simp only [hsingle r rfl] at hresult
    rw [covered_singleton]
    split at hresult
    · rename_i common hcommon
      obtain ⟨-, hproper⟩ := rectanglesIntersection_eq_some hcommon
      have hpixels := invariant_clear.wellFormed.pixels_unionRect hproper hresult hok
      have hmem : (x, y) ∈ result.2.pixels ↔ (x, y) ∈ region16Clear.pixels ∪ common.pixels := by
        rw [hpixels]
      rw [← rectanglesIntersection_contains hcommon]
      simpa [Region16.pixels, Rectangle16.pixels, region16Clear, Region16.rects, emptyRegion,
        Covered] using hmem
    · rename_i hnone
      subst hresult
      simpa [region16Clear, Region16.rects, emptyRegion, Covered] using
        rectanglesIntersection_eq_none (x := x) (y := y) hnone
  · obtain ⟨extents, hloop, -⟩ := region16IntersectLoop_spec rect hbanded (Or.inl ⟨rfl, rfl⟩)
    rw [List.nil_append] at hloop
    simp only [hloop] at hresult
    split at hresult
    · split at hresult
      · rw [(hbanded.intersectRects rect).covered_simplify (regionSize_ne_zero _) hresult hok,
          covered_intersectRects]
      · subst hresult
        contradiction
    · subst hresult
      contradiction

lemma Region16.Invariant.pixels_copy (hsrc : src.Invariant)
    (hresult : region16Copy memory dst src = result) (hok : result.1 = true) :
    result.2.pixels = src.pixels := by
  obtain ⟨extents, data⟩ := src
  cases data with
  | none => exact absurd rfl hsrc.wellFormed.hasData
  | some data =>
    simp only [region16Copy] at hresult
    split at hresult
    · rename_i hzero
      subst hresult
      simp only [Region16.pixels, Region16.rects, emptyRegion, hsrc.size data rfl hzero]
    · split at hresult
      · subst hresult
        rfl
      · subst hresult
        contradiction

lemma pixels_clear : region16Clear.pixels = ∅ := by
  ext p
  simp [Region16.pixels, region16Clear, Region16.rects, emptyRegion, Covered]

/-! ### Runs -/

/-- The store has the invariant in every region, and its pixels are those of the sets. -/
structure StandsFor (store : Nat → Region16) (pixels : Nat → Set (Nat × Nat)) : Prop where
  invariant : StoreInvariant store
  pixels : ∀ i, (store i).pixels = pixels i

lemma StandsFor.update {store : Nat → Region16} {pixels : Nat → Set (Nat × Nat)}
    {dst : Nat} {region : Region16} {set : Set (Nat × Nat)} (h : StandsFor store pixels)
    (hregion : region.pixels = set) (i : Nat) :
    (Function.update store dst region i).pixels = Function.update pixels dst set i := by
  rcases eq_or_ne i dst with rfl | hi
  · simpa using hregion
  · simpa [hi] using h.pixels i

/-- A call that fails has left its region as it was. -/
lemma StandsFor.unchanged {store : Nat → Region16} {pixels : Nat → Set (Nat × Nat)} {dst : Nat}
    {region : Region16} (h : StandsFor store pixels) (hsame : region = store dst) (i : Nat) :
    (Function.update store dst region i).pixels = pixels i := by
  rw [hsame, Function.update_eq_self]
  exact h.pixels i

lemma StandsFor.step {store : Nat → Region16} {pixels : Nat → Set (Nat × Nat)} {op : RegionOp}
    (h : StandsFor store pixels) (hproper : op.Proper) (hop : op.Allocates store) :
    StandsFor (regionStep store op) ((op.effect store).foldl pixelStep pixels) := by
  refine ⟨regionStep_invariant h.invariant hproper hop, ?_⟩
  intro i
  rw [RegionOp.effect]
  cases op with
  | unionRect memory dst src rect =>
    have hsrc := (h.invariant src).wellFormed
    rcases hok : (region16UnionRect memory (store dst) (store src) rect).1 with _ | _
    · have hsame := (region16UnionRect_ok (store dst) hsrc hop).resolve_left (by simp [hok])
      simpa [RegionOp.succeeds, hok, regionStep] using h.unchanged hsame i
    · have hpixels := hsrc.pixels_unionRect hproper rfl hok
      rw [h.pixels src] at hpixels
      simpa [RegionOp.succeeds, hok, regionStep, pixelStep] using h.update hpixels i
  | intersectRect memory dst src rect =>
    have hsrc := (h.invariant src).wellFormed
    rcases hok : (region16IntersectRect memory (store dst) (store src) rect).1 with _ | _
    · have hsame := (region16IntersectRect_ok (store dst) hsrc hop).resolve_left
        (by simp [hok])
      simpa [RegionOp.succeeds, hok, regionStep] using h.unchanged hsame i
    · have hpixels := hsrc.pixels_intersectRect rfl hok
      rw [h.pixels src] at hpixels
      simpa [RegionOp.succeeds, hok, regionStep, pixelStep] using h.update hpixels i
  | copy memory dst src =>
    rcases eq_or_ne dst src with rfl | hne
    · simpa [RegionOp.succeeds, regionStep, pixelStep] using h.pixels i
    · have hok := region16Copy_ok (store dst) (h.invariant src).wellFormed (hop.resolve_left hne)
      have hpixels := (h.invariant src).pixels_copy rfl hok
      rw [h.pixels src] at hpixels
      simpa [RegionOp.succeeds, hok, hne, regionStep, pixelStep] using h.update hpixels i
  | clear dst => simpa [RegionOp.succeeds, regionStep, pixelStep] using h.update pixels_clear i

lemma region16IntersectsLoop_iff {rects : List Rectangle16} (h : RectsBanded rects) :
    region16IntersectsLoop rect rects = true ↔ ∃ x y, Covered rects x y ∧ rect.Contains x y := by
  induction rects with
  | nil => simp [region16IntersectsLoop, Covered]
  | cons r rects ih =>
    obtain ⟨hr, hproper⟩ := List.forall_mem_cons.mp h.proper
    obtain ⟨hprecedes, hsorted⟩ := List.pairwise_cons.mp h.sorted
    have hcons : (∃ x y, Covered (r :: rects) x y ∧ rect.Contains x y) ↔
        (∃ x y, r.Contains x y ∧ rect.Contains x y) ∨
          ∃ x y, Covered rects x y ∧ rect.Contains x y := by
      simp only [Covered, List.exists_mem_cons_iff, or_and_right, exists_or]
    rw [hcons, region16IntersectsLoop, ← isSome_rectanglesIntersection_iff, ← ih ⟨hproper, hsorted⟩]
    split
    · rw [rectanglesIntersects]
      split
      · rename_i hmeets
        simp [hmeets]
      · rename_i hmeets
        simp [hmeets]
    · -- this rectangle and all that follow are below `rect`
      rename_i hbelow
      simp only [Bool.false_eq_true, false_iff, not_or]
      constructor
      · intro hmeets
        obtain ⟨x, y, hin, hrect⟩ := isSome_rectanglesIntersection_iff.mp hmeets
        simp only [Rectangle16.Contains] at hin hrect
        omega
      · intro hmeets
        obtain ⟨x, y, ⟨s, hs, hin⟩, hrect⟩ := (ih ⟨hproper, hsorted⟩).mp hmeets
        have htop : r.top ≤ s.top := by
          have hrProper := hr.2
          rcases hprecedes s hs with ⟨htop, -, -⟩ | habove
          · exact htop.le
          · omega
        simp only [Rectangle16.Contains] at hin hrect
        omega

/-- The extents of a region are around all its pixels. -/
lemma Region16.WellFormed.extents_contains (hsrc : src.WellFormed) (h : Covered src.rects x y) :
    src.extents.Contains x y := by
  have hne : src.rects ≠ [] := by
    intro hnil
    rw [hnil] at h
    exact not_covered_nil h
  have hextents := hsrc.extents
  rw [TightExtents, if_neg hne] at hextents
  obtain ⟨⟨-, hleft⟩, ⟨-, htop⟩, ⟨-, hright⟩, -, hbottom⟩ := hextents
  obtain ⟨r, hr, ⟨hx, hx'⟩, hy, hy'⟩ := h
  exact ⟨⟨(hleft ⟨r, hr, rfl⟩).trans hx, hx'.trans_le (hright ⟨r, hr, rfl⟩)⟩,
    (htop ⟨r, hr, rfl⟩).trans hy, hy'.trans_le (hbottom ⟨r, hr, rfl⟩)⟩

lemma region16IntersectsRect_iff (hsrc : src.WellFormed) :
    region16IntersectsRect src rect = true ↔ (src.pixels ∩ rect.pixels).Nonempty := by
  have hpixels : (src.pixels ∩ rect.pixels).Nonempty ↔
      ∃ x y, Covered src.rects x y ∧ rect.Contains x y := by
    simp only [Set.Nonempty, Prod.exists]
    rfl
  obtain ⟨size, hdata⟩ := hsrc.exists_data
  have hbanded := hsrc.banded
  have hsingle : ∀ r, src.rects = [r] → src.extents = r := fun r => hsrc.extents_of_single
  have hcontains : ∀ x y, Covered src.rects x y → src.extents.Contains x y :=
    fun x y => hsrc.extents_contains
  rw [hpixels, region16IntersectsRect, hdata]
  generalize src.rects = rects at hbanded hsingle hcontains ⊢
  rcases rects with _ | ⟨r, _ | ⟨s, rects⟩⟩
  · simp [Covered]
  · simp only [hsingle r rfl, rectanglesIntersects, covered_singleton]
    exact isSome_rectanglesIntersection_iff
  · simp only
    split
    · rename_i hmeets
      simp only [Bool.false_eq_true, false_iff, not_exists]
      rintro x y ⟨hin, hrect⟩
      have hboth : rectanglesIntersects src.extents rect = true :=
        isSome_rectanglesIntersection_iff.mpr ⟨x, y, hcontains x y hin, hrect⟩
      simp [hboth] at hmeets
    · exact region16IntersectsLoop_iff hbanded

end FreeRdp
