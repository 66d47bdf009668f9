import FreeRdp.Codec.Region.WellFormed

/-!
# The operations on regions

What each function of `region.c` makes of a well-formed region: the union is exact and fits into
the slots allocated for it, and every successful operation leaves a region in the order of the
bands, with no bands to join and with tight extents.
-/

namespace FreeRdp

variable {b : Band} {bs : List Band} {u rect : Rectangle16} {x y : Nat} {memory : RegionMemory}
  {dst src : Region16}

/-! ### Bands after an operation -/

/-- The bands are in order and none can be joined. -/
structure JoinedBands (bs : List Band) : Prop where
  wellBanded : WellBanded bs
  reduced : Reduced bs

lemma covered_bandRects :
    Covered (bandRects bs) x y ↔ ∃ items, HasValue bs y items ∧ HasValue items x () := by
  induction bs with
  | nil => simp
  | cons b bs ih =>
    rw [bandRects_cons, covered_append, covered_rects, ih]
    simp only [hasValue_cons, or_and_right, exists_or]
    refine or_congr_left ?_
    constructor
    · rintro ⟨hy, hx⟩
      exact ⟨b.val, ⟨hy, rfl⟩, hx⟩
    · rintro ⟨items, ⟨hy, rfl⟩, hx⟩
      exact ⟨hy, hx⟩

lemma covered_coalesce (h : WellBanded bs) :
    Covered (bandRects (coalesce bs)) x y ↔ Covered (bandRects bs) x y := by
  simp only [covered_bandRects, h.ordered.hasValue_coalesce]

lemma joinedBands_coalesce (h : WellBanded bs) : JoinedBands (coalesce bs) where
  wellBanded := by
    refine ⟨h.ordered.coalesce, ?_⟩
    intro c hc
    obtain ⟨d, hd, hval⟩ := exists_val_of_mem_coalesce hc
    rw [← hval]
    exact h.items d hd
  reduced := reduced_coalesce bs

lemma regionSize_ne_zero (n : Nat) : regionSize n ≠ 0 := by
  rw [regionSize]
  omega

/-- `region16_simplify_bands`, if it succeeds. -/
lemma region16SimplifyBands_rects (h : WellBanded bs) {realloc : Bool} {extents : Rectangle16}
    {size : Nat} {result : Bool × Region16}
    (hsize : size ≠ 0)
    (hresult : region16SimplifyBands realloc extents size (bandRects bs) = result)
    (hok : result.1 = true) :
    ∃ size', size' ≠ 0 ∧ result.2 = ⟨extents, some ⟨size', bandRects (coalesce bs)⟩⟩ := by
  subst hresult
  rw [region16SimplifyBands] at hok ⊢
  have hlength := h.length_le
  cases bs with
  | nil => exact ⟨size, hsize, rfl⟩
  | cons b bs =>
    split
    · -- a single rectangle is a single band
      rename_i hshort
      have hbs : bs = [] := by
        rw [← List.length_eq_zero_iff]
        simp only [List.length_cons] at hlength
        omega
      subst hbs
      exact ⟨size, hsize, rfl⟩
    · rename_i hshort
      rw [region16SimplifyLoop_eq h hlength] at hok ⊢
      rw [if_neg hshort] at hok
      simp only at hok ⊢
      split
      · rename_i hchanged
        rw [if_pos hchanged] at hok
        split
        · exact ⟨_, regionSize_ne_zero _, rfl⟩
        · rename_i hrealloc
          rw [if_neg hrealloc] at hok
          contradiction
      · exact ⟨size, hsize, rfl⟩

/-- `region16_simplify_bands` joins bands of the array, and then gives back what it has saved. -/
def JoinsBands (rects : List Rectangle16) : Prop :=
  2 ≤ rects.length ∧ (region16SimplifyLoop rects.length rects).length ≠ rects.length

instance (rects : List Rectangle16) : Decidable (JoinsBands rects) :=
  inferInstanceAs (Decidable (_ ∧ _))

lemma region16SimplifyBands_ok {realloc : Bool} {rects : List Rectangle16}
    (hrealloc : JoinsBands rects → realloc = true) (extents : Rectangle16) (size : Nat) :
    (region16SimplifyBands realloc extents size rects).1 = true := by
  rw [region16SimplifyBands]
  split
  · rfl
  · rename_i hlength
    simp only
    split
    · rename_i hjoin
      rw [if_pos (hrealloc ⟨Nat.le_of_not_lt hlength, hjoin⟩)]
    · rfl

/-! ### Union -/

/-- The bands of the union of a region with a rectangle. -/
def unionResult (u : Rectangle16) : List Band → List Band
  | [] => [rectBand u u.top u.bottom]
  | b :: bs => coalesce (unionAllBands u b bs)

lemma joinedBands_unionResult (hu : u.Proper) (h : WellBanded bs) :
    JoinedBands (unionResult u bs) := by
  cases bs with
  | nil => exact ⟨wellBanded_rectBand hu hu.2, List.isChain_singleton _⟩
  | cons b bs => exact joinedBands_coalesce (wellBanded_unionAllBands hu h)

lemma covered_unionResult (hu : u.Proper) (h : WellBanded bs) :
    Covered (bandRects (unionResult u bs)) x y ↔ Covered (bandRects bs) x y ∨ u.Contains x y := by
  cases bs with
  | nil =>
    simp only [unionResult, bandRects_cons, bandRects_nil, List.append_nil, covered_rectBand,
      not_covered_nil, false_or, Rectangle16.Contains]
  | cons b bs =>
    rw [unionResult, covered_coalesce (wellBanded_unionAllBands hu h), covered_unionAllBands hu h]

lemma exists_hi_eq_lastBottom (b : Band) (bs : List Band) :
    ∃ c ∈ b :: bs, c.hi = lastBottom b.hi bs := by
  induction bs generalizing b with
  | nil => exact ⟨b, List.mem_cons_self, rfl⟩
  | cons c bs ih =>
    obtain ⟨d, hd, heq⟩ := ih c
    exact ⟨d, List.mem_cons_of_mem _ hd, heq⟩

lemma WellBanded.rects_ne_nil (h : WellBanded (b :: bs)) : bandRects (b :: bs) ≠ [] := by
  obtain ⟨left, right, rest, hhead⟩ := h.exists_head
  rw [bandRects_cons, hhead]
  exact List.cons_ne_nil _ _

/-- The top and the bottom of the extents are those of the first and the last band. -/
lemma TightExtents.lines (h : WellBanded (b :: bs)) {extents : Rectangle16}
    (hextents : TightExtents extents (bandRects (b :: bs))) :
    extents.top = b.lo ∧ extents.bottom = lastBottom b.hi bs := by
  rw [TightExtents, if_neg h.rects_ne_nil] at hextents
  obtain ⟨-, htop, -, hbottom⟩ := hextents
  have hitem : ∀ c ∈ b :: bs, ∃ r ∈ bandRects (b :: bs), r.top = c.lo ∧ r.bottom = c.hi := by
    intro c hc
    obtain ⟨i, items, hval⟩ := List.exists_cons_of_ne_nil (h.items c hc).1
    exact ⟨itemRect c.lo c.hi i, mem_bandRects.mpr ⟨c, hc, i, by simp [hval], rfl⟩, rfl, rfl⟩
  constructor
  · refine htop.unique ⟨?_, ?_⟩
    · obtain ⟨r, hr, hrtop, -⟩ := hitem b List.mem_cons_self
      exact ⟨r, hr, hrtop⟩
    · rintro a ⟨r, hr, rfl⟩
      obtain ⟨c, hc, i, -, rfl⟩ := mem_bandRects.mp hr
      obtain ⟨hb, hlater, -⟩ := wellBanded_cons.mp h
      rw [List.mem_cons] at hc
      cases hc with
      | inl hc => rw [hc, itemRect_top]
      | inr hc => exact hb.le.trans (hlater c hc)
  · refine hbottom.unique ⟨?_, ?_⟩
    · obtain ⟨c, hc, hlast⟩ := exists_hi_eq_lastBottom b bs
      obtain ⟨r, hr, -, hrbottom⟩ := hitem c hc
      exact ⟨r, hr, hrbottom.trans hlast⟩
    · rintro a ⟨r, hr, rfl⟩
      obtain ⟨c, hc, i, -, rfl⟩ := mem_bandRects.mp hr
      exact h.le_lastBottom c hc

lemma Region16.WellFormed.exists_data (h : src.WellFormed) :
    ∃ size, src.data = some ⟨size, src.rects⟩ := by
  obtain ⟨extents, data⟩ := src
  cases data with
  | none => exact absurd rfl h.hasData
  | some data => exact ⟨data.size, rfl⟩

/-- `region16_union_rect` of a well-formed region, if it succeeds. -/
lemma region16UnionRect_rects (hsrc : src.WellFormed) (hbs : WellBanded bs)
    (hrects : src.rects = bandRects bs) (hrect : rect.Proper) {result : Bool × Region16}
    (hresult : region16UnionRect memory dst src rect = result) (hok : result.1 = true) :
    ∃ size extents, size ≠ 0 ∧
      result.2 = ⟨extents, some ⟨size, bandRects (unionResult rect bs)⟩⟩ ∧
      BoxOf (Covered (bandRects (unionResult rect bs))) extents := by
  obtain ⟨size, hdata⟩ := hsrc.exists_data
  rw [hrects] at hdata
  subst hresult
  rw [region16UnionRect, hdata] at hok ⊢
  cases bs with
  | nil =>
    simp only [bandRects_nil] at hok ⊢
    split at hok
    · rename_i hmalloc
      rw [if_pos hmalloc]
      refine ⟨regionSize 1, rect, regionSize_ne_zero 1, rfl, ?_⟩
      exact (boxOf_contains hrect).congr fun x y => covered_singleton.symm
    · contradiction
  | cons b bs =>
    obtain ⟨htop, hbottom⟩ := TightExtents.lines hbs (hrects ▸ hsrc.extents)
    obtain ⟨r, rects, hcons⟩ := List.exists_cons_of_ne_nil hbs.rects_ne_nil
    have hitems := region16UnionItems_eq (u := rect) hbs htop hbottom
    have hbox : BoxOf (Covered (bandRects (b :: bs))) src.extents := by
      rw [← hrects]
      refine (tightExtents_iff_boxOf ?_ hsrc.banded.proper).mp hsrc.extents
      rw [hrects]
      exact hbs.rects_ne_nil
    rw [hcons] at hok hitems ⊢
    simp only [hitems] at hok ⊢
    split at hok
    · rename_i hmalloc
      rw [if_pos hmalloc]
      split at hok
      · rename_i hrealloc
        rw [if_pos hrealloc]
        obtain ⟨size', hsize, hsimplify⟩ := region16SimplifyBands_rects
          (wellBanded_unionAllBands hrect hbs) (regionSize_ne_zero _) rfl hok
        refine ⟨size', _, hsize, hsimplify, ?_⟩
        exact (hbox.union (boxOf_contains hrect)).congr fun x y =>
          (covered_unionResult hrect hbs).symm
      · contradiction
    · contradiction

/-- The left and right sides of the rectangles of a band. -/
def xStructure (rects : List Rectangle16) (top : Nat) : List (Nat × Nat) :=
  (rects.filter (fun r => r.top == top)).map (fun r => (r.left, r.right))

/-- What the functions keep: a well-formed region in which no band touches one with the same
rectangles. Data of size 0 is that of `empty_region`. -/
structure Region16.Invariant (region : Region16) : Prop where
  wellFormed : region.WellFormed
  joined : ∀ r ∈ region.rects, ∀ s ∈ region.rects, r.bottom = s.top →
    xStructure region.rects r.top ≠ xStructure region.rects s.top
  size : ∀ data, region.data = some data → data.size = 0 → data.rects = []

lemma xStructure_band (top bottom : Nat) (items : Items) :
    xStructure (items.map (itemRect top bottom)) top = items.map (fun i => (i.lo, i.hi)) := by
  rw [xStructure, List.filter_eq_self.mpr (by simp), List.map_map]
  rfl

lemma xStructure_eq_nil {rects : List Rectangle16} {top : Nat} (h : ∀ r ∈ rects, r.top ≠ top) :
    xStructure rects top = [] := by
  rw [xStructure, List.filter_eq_nil_iff.mpr (by simpa using h), List.map_nil]

lemma xStructure_append (rs ss : List Rectangle16) (top : Nat) :
    xStructure (rs ++ ss) top = xStructure rs top ++ xStructure ss top := by
  rw [xStructure, List.filter_append, List.map_append]
  rfl

/-- The x-structure of a line of the array is given by the items of the band. -/
lemma WellBanded.xStructure_eq (h : WellBanded bs) (hb : b ∈ bs) :
    xStructure (bandRects bs) b.lo = b.val.map (fun i => (i.lo, i.hi)) := by
  induction bs with
  | nil => contradiction
  | cons c bs ih =>
    obtain ⟨hc, hlater, -, -, hbs⟩ := wellBanded_cons.mp h
    rw [bandRects_cons, xStructure_append]
    rw [List.mem_cons] at hb
    cases hb with
    | inl hb =>
      rw [hb, xStructure_eq_nil h.top_ne, List.append_nil]
      exact xStructure_band c.lo c.hi c.val
    | inr hb =>
      have hne : c.lo ≠ b.lo := (hc.trans_le (hlater b hb)).ne
      have hnil : xStructure c.rects b.lo = [] := by
        refine xStructure_eq_nil ?_
        intro r hr
        obtain ⟨i, -, rfl⟩ := List.mem_map.mp hr
        exact hne
      rw [hnil, List.nil_append]
      exact ih hbs hb

lemma items_sides_injective :
    Function.Injective (fun items : Items => items.map (fun i => (i.lo, i.hi))) := by
  refine List.map_injective_iff.mpr ?_
  rintro ⟨lo, hi, _⟩ ⟨lo', hi', _⟩ heq
  simpa using heq

/-- Bands that cannot be joined make a region with the invariant. -/
lemma JoinedBands.invariant (h : JoinedBands bs) {extents : Rectangle16} {size : Nat}
    (hextents : TightExtents extents (bandRects bs)) (hsize : size = 0 → bandRects bs = []) :
    Region16.Invariant ⟨extents, some ⟨size, bandRects bs⟩⟩ := by
  refine ⟨⟨by simp, h.wellBanded.rectsBanded, hextents⟩, ?_, ?_⟩
  · intro r hr s hs htouch
    obtain ⟨b, hb, i, -, rfl⟩ := mem_bandRects.mp hr
    obtain ⟨c, hc, j, -, rfl⟩ := mem_bandRects.mp hs
    simp only [Region16.rects, itemRect_top, h.wellBanded.xStructure_eq hb,
      h.wellBanded.xStructure_eq hc]
    intro heq
    exact h.wellBanded.ordered.val_ne_of_touch h.reduced hb hc htouch (items_sides_injective heq)
  · rintro data ⟨rfl⟩
    exact hsize

lemma joinedBands_nil : JoinedBands [] := ⟨wellBanded_nil, List.isChain_nil⟩

lemma invariant_clear : region16Clear.Invariant := joinedBands_nil.invariant rfl fun _ => rfl

lemma Region16.Invariant.unionRect (hsrc : src.WellFormed) (hrect : rect.Proper)
    {result : Bool × Region16} (hresult : region16UnionRect memory dst src rect = result)
    (hok : result.1 = true) : result.2.Invariant := by
  obtain ⟨bs, hbs, hrects⟩ := hsrc.banded.exists_bands
  obtain ⟨size, extents, hsize, heq, hbox⟩ :=
    region16UnionRect_rects hsrc hbs hrects.symm hrect hresult hok
  have hjoined := joinedBands_unionResult hrect hbs
  rw [heq]
  refine hjoined.invariant ((tightExtents_iff_boxOf ?_ hjoined.wellBanded.rectsBanded.proper).mpr
    hbox) (fun hzero => absurd hzero hsize)
  -- the union is not empty: it has the first pixel of the rectangle
  intro hnil
  have hcovered := (covered_unionResult (x := rect.left) (y := rect.top) hrect hbs).mpr
    (Or.inr ⟨⟨le_rfl, hrect.1⟩, le_rfl, hrect.2⟩)
  rw [hnil] at hcovered
  exact not_covered_nil hcovered

/-! ### Intersection -/

lemma rectanglesIntersection_eq_some {r s common : Rectangle16}
    (h : rectanglesIntersection r s = some common) :
    common = ⟨max r.left s.left, max r.top s.top, min r.right s.right, min r.bottom s.bottom⟩ ∧
      common.Proper := by
  rw [rectanglesIntersection] at h
  simp only at h
  split at h
  · rename_i hproper
    rw [Option.some.injEq] at h
    subst h
    exact ⟨rfl, hproper⟩
  · contradiction

/-- The rectangles of an array cut to `rect`. -/
def intersectRects (rect : Rectangle16) (rects : List Rectangle16) : List Rectangle16 :=
  rects.filterMap (fun r => rectanglesIntersection r rect)

/-- Cutting keeps the order of the bands. -/
lemma RectsBanded.intersectRects {rects : List Rectangle16} (h : RectsBanded rects)
    (rect : Rectangle16) : RectsBanded (intersectRects rect rects) := by
  constructor
  · intro c hc
    obtain ⟨r, -, hr⟩ := List.mem_filterMap.mp hc
    exact (rectanglesIntersection_eq_some hr).2
  · refine List.pairwise_filterMap.mpr (h.sorted.imp ?_)
    intro r s hrs c hc d hd
    obtain ⟨rfl, hcProper⟩ := rectanglesIntersection_eq_some hc
    obtain ⟨rfl, hdProper⟩ := rectanglesIntersection_eq_some hd
    rcases hrs with ⟨htop, hbottom, hlr⟩ | habove
    · left
      simp only [htop, hbottom, true_and]
      omega
    · right
      simp only
      omega

/-- The extents that the loop has collected for the rectangles so far. -/
def CollectedExtents (items : List Rectangle16) (extents : Rectangle16) : Prop :=
  items = [] ∧ extents = ⟨0, 0, 0, 0⟩ ∨ items ≠ [] ∧ BoxOf (Covered items) extents

lemma BoxOf.proper {P : Nat → Nat → Prop} {e : Rectangle16} (h : BoxOf P e) : e.Proper :=
  ⟨h.horizontal.bound.1 _ h.horizontal.least.1, h.vertical.bound.1 _ h.vertical.least.1⟩

lemma CollectedExtents.grow {items : List Rectangle16} {extents common : Rectangle16}
    (h : CollectedExtents items extents) (hcommon : common.Proper) :
    CollectedExtents (items ++ [common]) (region16GrowExtents extents common) := by
  refine Or.inr ⟨by simp, ?_⟩
  have hcov : ∀ x y, Covered (items ++ [common]) x y ↔ Covered items x y ∨ common.Contains x y := by
    intro x y
    rw [covered_append, covered_singleton]
  rw [region16GrowExtents]
  rcases h with ⟨rfl, rfl⟩ | ⟨-, hbox⟩
  · have hempty : rectangleIsEmpty ⟨0, 0, 0, 0⟩ = true := rfl
    rw [if_pos hempty]
    exact (boxOf_contains hcommon).congr fun x y => by rw [hcov]; simp
  · have hproper := hbox.proper
    have hnonempty : ¬rectangleIsEmpty extents = true := by
      simp only [rectangleIsEmpty, Bool.or_eq_true, beq_iff_eq, not_or]
      exact ⟨hproper.1.ne, hproper.2.ne⟩
    rw [if_neg hnonempty]
    exact (hbox.union (boxOf_contains hcommon)).congr fun x y => (hcov x y).symm

/-- The loop cuts every rectangle: those it leaves out at the end are below `rect`. -/
lemma region16IntersectLoop_spec (rect : Rectangle16) {rects items : List Rectangle16}
    {extents : Rectangle16} (h : RectsBanded rects) (hitems : CollectedExtents items extents) :
    ∃ extents', region16IntersectLoop rect rects (items, extents) =
        (items ++ intersectRects rect rects, extents') ∧
      CollectedExtents (items ++ intersectRects rect rects) extents' := by
  induction rects generalizing items extents with
  | nil =>
    refine ⟨extents, ?_, ?_⟩
    · simp [region16IntersectLoop, intersectRects]
    · simpa [intersectRects] using hitems
  | cons r rects ih =>
    obtain ⟨hr, hproper⟩ := List.forall_mem_cons.mp h.proper
    obtain ⟨hprecedes, hsorted⟩ := List.pairwise_cons.mp h.sorted
    rw [region16IntersectLoop]
    split
    · split
      · rename_i common hcommon
        have hgrown := hitems.grow (rectanglesIntersection_eq_some hcommon).2
        obtain ⟨extents', hloop, hcollected⟩ := ih ⟨hproper, hsorted⟩ hgrown
        have hcons : intersectRects rect (r :: rects) = common :: intersectRects rect rects :=
          List.filterMap_cons_some hcommon
        rw [List.append_assoc, List.singleton_append, ← hcons] at hloop hcollected
        exact ⟨extents', hloop, hcollected⟩
      · rename_i hnone
        have hcons : intersectRects rect (r :: rects) = intersectRects rect rects :=
          List.filterMap_cons_none hnone
        rw [hcons]
        exact ih ⟨hproper, hsorted⟩ hitems
    · rename_i hbelow
      have hnil : intersectRects rect (r :: rects) = [] := by
        refine List.filterMap_eq_nil_iff.mpr ?_
        intro s hs
        have hstop : rect.bottom ≤ s.top := by
          rw [List.mem_cons] at hs
          cases hs with
          | inl hs =>
            rw [hs]
            exact not_lt.mp hbelow
          | inr hs =>
            have htb := hr.2
            rcases hprecedes s hs with ⟨htop, -, -⟩ | habove
            · omega
            · omega
        rw [rectanglesIntersection]
        refine if_neg ?_
        simp only
        omega
      rw [hnil, List.append_nil]
      exact ⟨extents, rfl, hitems⟩

lemma CollectedExtents.tight {items : List Rectangle16} {extents : Rectangle16}
    (h : CollectedExtents items extents) (hproper : ∀ r ∈ items, r.Proper) :
    TightExtents extents items := by
  rcases h with ⟨rfl, rfl⟩ | ⟨hne, hbox⟩
  · rfl
  · exact (tightExtents_iff_boxOf hne hproper).mpr hbox

/-- `region16_simplify_bands` of an array in order, if it succeeds. -/
lemma RectsBanded.simplify {rects : List Rectangle16} {extents : Rectangle16} {size : Nat}
    {realloc : Bool} (h : RectsBanded rects) (hextents : TightExtents extents rects)
    (hsize : size ≠ 0) {result : Bool × Region16}
    (hresult : region16SimplifyBands realloc extents size rects = result)
    (hok : result.1 = true) : result.2.Invariant := by
  obtain ⟨bs, hbs, rfl⟩ := h.exists_bands
  obtain ⟨size', hsize', heq⟩ := region16SimplifyBands_rects hbs hsize hresult hok
  rw [heq]
  have hjoined := joinedBands_coalesce hbs
  refine hjoined.invariant ?_ (fun hzero => absurd hzero hsize')
  cases bs with
  | nil => exact hextents
  | cons b bs =>
    have hne : bandRects (coalesce (b :: bs)) ≠ [] := by
      obtain ⟨hi, cs, hcs⟩ := coalesceFrom_eq_cons b bs
      have hwb := hjoined.wellBanded
      rw [coalesce, hcs] at hwb ⊢
      exact hwb.rects_ne_nil
    refine (tightExtents_iff_boxOf hne hjoined.wellBanded.rectsBanded.proper).mpr ?_
    have hbox := (tightExtents_iff_boxOf hbs.rects_ne_nil hbs.rectsBanded.proper).mp hextents
    exact hbox.congr fun x y => (covered_coalesce hbs).symm

lemma Region16.Invariant.intersectRect (hsrc : src.WellFormed) {result : Bool × Region16}
    (hresult : region16IntersectRect memory dst src rect = result) (hok : result.1 = true) :
    result.2.Invariant := by
  obtain ⟨size, hdata⟩ := hsrc.exists_data
  have hbanded := hsrc.banded
  rw [region16IntersectRect, hdata] at hresult
  generalize src.rects = rects at hresult hbanded
  match rects with
  | [] =>
    subst hresult
    exact invariant_clear
  | [r] =>
    simp only at hresult
    split at hresult
    · rename_i common hcommon
      exact Region16.Invariant.unionRect invariant_clear.wellFormed
        (rectanglesIntersection_eq_some hcommon).2 hresult hok
    · subst hresult
      exact invariant_clear
  | r :: s :: rects =>
    have hcut := hbanded.intersectRects rect
    obtain ⟨extents, hloop, hcollected⟩ := region16IntersectLoop_spec rect hbanded
      (Or.inl ⟨rfl, rfl⟩)
    rw [List.nil_append] at hloop hcollected
    simp only [hloop] at hresult
    split at hresult
    · split at hresult
      · exact hcut.simplify (hcollected.tight hcut.proper) (regionSize_ne_zero _) hresult hok
      · subst hresult
        contradiction
    · subst hresult
      contradiction

lemma Region16.Invariant.copy (hsrc : src.Invariant) {result : Bool × Region16}
    (hresult : region16Copy memory dst src = result) (hok : result.1 = true) :
    result.2.Invariant := by
  obtain ⟨extents, data⟩ := src
  cases data with
  | none => exact absurd rfl hsrc.wellFormed.hasData
  | some data =>
    simp only [region16Copy] at hresult
    split at hresult
    · -- the data is that of the empty region, and so is the copy
      rename_i hzero
      subst hresult
      have hnil := hsrc.size data rfl hzero
      have hempty := hsrc.wellFormed.extents
      simp only [Region16.rects, hnil] at hempty
      refine ⟨⟨by simp, ⟨by simp [Region16.rects, emptyRegion], List.Pairwise.nil⟩, hempty⟩,
        by simp [Region16.rects, emptyRegion], ?_⟩
      rintro d ⟨rfl⟩ -
      rfl
    · split at hresult
      · subst hresult
        exact hsrc
      · subst hresult
        contradiction

end FreeRdp
