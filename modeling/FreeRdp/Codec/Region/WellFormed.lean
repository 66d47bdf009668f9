import FreeRdp.Codec.Region.Union

/-!
# Well-formed regions

The banding rules of `region.c` as properties of the array: the rectangles are not empty and in the
order of the bands, and the extents are the smallest rectangle around them. An array is in this
order exactly if it is the array of a list of bands.
-/

namespace FreeRdp

/-- The order of the array: `r` stands left of `s` in the same band, or in a band above. -/
def Rectangle16.Precedes (r s : Rectangle16) : Prop :=
  (r.top = s.top ∧ r.bottom = s.bottom ∧ r.right ≤ s.left) ∨ r.bottom ≤ s.top

instance (r s : Rectangle16) : Decidable (r.Precedes s) :=
  inferInstanceAs (Decidable (_ ∨ _))

/-- The rectangles are not empty and in the order of the bands. -/
structure RectsBanded (rects : List Rectangle16) : Prop where
  proper : ∀ r ∈ rects, r.Proper
  sorted : rects.Pairwise Rectangle16.Precedes

/-- The extents touch a rectangle at each side and none is outside; without rectangles they are
empty. -/
def TightExtents (extents : Rectangle16) (rects : List Rectangle16) : Prop :=
  if rects = [] then extents = ⟨0, 0, 0, 0⟩
  else
    IsLeast {a | ∃ r ∈ rects, r.left = a} extents.left ∧
      IsLeast {a | ∃ r ∈ rects, r.top = a} extents.top ∧
      IsGreatest {a | ∃ r ∈ rects, r.right = a} extents.right ∧
      IsGreatest {a | ∃ r ∈ rects, r.bottom = a} extents.bottom

/-- The region has data, in the order of the bands, with tight extents. -/
structure Region16.WellFormed (region : Region16) : Prop where
  hasData : region.data ≠ none
  banded : RectsBanded region.rects
  extents : TightExtents region.extents region.rects

/-! ### Arrays and lists of bands -/

lemma itemRect_precedes {top bottom : Nat} {i j : Segment Nat Unit} (h : i.hi ≤ j.lo) :
    (itemRect top bottom i).Precedes (itemRect top bottom j) := Or.inl ⟨rfl, rfl, h⟩

/-- The array of a list of bands is in order. -/
lemma WellBanded.rectsBanded {bs : List Band} (h : WellBanded bs) : RectsBanded (bandRects bs) := by
  induction bs with
  | nil => exact ⟨by simp, List.Pairwise.nil⟩
  | cons b bs ih =>
    obtain ⟨hb, hlater, -, hval, hbs⟩ := wellBanded_cons.mp h
    have hrest := ih hbs
    rw [bandRects_cons]
    constructor
    · intro r hr
      rw [List.mem_append] at hr
      cases hr with
      | inl hr =>
        obtain ⟨i, hi, rfl⟩ := List.mem_map.mp hr
        exact ⟨hval.nonempty i hi, hb⟩
      | inr hr => exact hrest.proper r hr
    · refine List.pairwise_append.mpr ⟨?_, hrest.sorted, ?_⟩
      · exact List.pairwise_map.mpr (hval.sorted.imp itemRect_precedes)
      · intro r hr s hs
        obtain ⟨i, -, rfl⟩ := List.mem_map.mp hr
        obtain ⟨c, hc, j, -, rfl⟩ := mem_bandRects.mp hs
        exact Or.inr (hlater c hc)

/-- An array in order is that of a list of bands. -/
lemma RectsBanded.exists_bands {rects : List Rectangle16} (h : RectsBanded rects) :
    ∃ bs, WellBanded bs ∧ bandRects bs = rects := by
  induction rects with
  | nil => exact ⟨[], wellBanded_nil, rfl⟩
  | cons r rects ih =>
    obtain ⟨hr, hproper⟩ := List.forall_mem_cons.mp h.proper
    obtain ⟨hprecedes, hsorted⟩ := List.pairwise_cons.mp h.sorted
    obtain ⟨bs, hbs, rfl⟩ := ih ⟨hproper, hsorted⟩
    have hitem : Ordered ([⟨r.left, r.right, ()⟩] : Items) :=
      ordered_cons.mpr ⟨hr.1, by simp, ordered_nil⟩
    -- `r` starts a new band unless the next rectangle is in its band
    by_cases hnew : ∀ c ∈ bs, r.bottom ≤ c.lo
    · exact ⟨⟨r.top, r.bottom, [⟨r.left, r.right, ()⟩]⟩ :: bs,
        wellBanded_cons.mpr ⟨hr.2, hnew, by simp, hitem, hbs⟩, rfl⟩
    · cases bs with
      | nil => simp at hnew
      | cons b bs =>
        obtain ⟨hb, hlater, hne, hval, hrest⟩ := wellBanded_cons.mp hbs
        have hhead : ∀ i ∈ b.val, r.top = b.lo ∧ r.bottom = b.hi ∧ r.right ≤ i.lo := by
          intro i hi
          have hmem : itemRect b.lo b.hi i ∈ bandRects (b :: bs) :=
            mem_bandRects.mpr ⟨b, List.mem_cons_self, i, hi, rfl⟩
          rcases hprecedes _ hmem with hsame | habove
          · exact hsame
          · exfalso
            refine hnew (List.forall_mem_cons.mpr ⟨habove, ?_⟩)
            intro c hc
            exact le_trans habove (hb.le.trans (hlater c hc))
        obtain ⟨i, items, hitems⟩ := List.exists_cons_of_ne_nil hne
        obtain ⟨htop, hbottom, -⟩ := hhead i (by rw [hitems]; exact List.mem_cons_self)
        refine ⟨⟨b.lo, b.hi, ⟨r.left, r.right, ()⟩ :: b.val⟩ :: bs,
          wellBanded_cons.mpr ⟨hb, hlater, by simp, ?_, hrest⟩, ?_⟩
        · exact ordered_cons.mpr ⟨hr.1, fun j hj => (hhead j hj).2.2, hval⟩
        · rw [bandRects_cons, bandRects_cons]
          simp [Band.rects, itemRect, ← htop, ← hbottom]

/-! ### Extents and pixels -/

/-- The places of `S` are those from `lo` to before `hi`, and no narrower bounds will do. -/
structure SpanOf (S : Set Nat) (lo hi : Nat) : Prop where
  least : IsLeast S lo
  bound : IsLeast {a | ∀ x ∈ S, x < a} hi

lemma SpanOf.union {S T : Set Nat} {a b c d : Nat} (hS : SpanOf S a b) (hT : SpanOf T c d) :
    SpanOf (S ∪ T) (min a c) (max b d) := by
  refine ⟨hS.least.union hT.least, ?_, ?_⟩
  · rintro x (hx | hx)
    · exact (hS.bound.1 x hx).trans_le (le_max_left b d)
    · exact (hT.bound.1 x hx).trans_le (le_max_right b d)
  · intro e he
    exact max_le (hS.bound.2 fun x hx => he x (Or.inl hx)) (hT.bound.2 fun x hx => he x (Or.inr hx))

/-- The bounds of a union of segments are its least left side and its greatest right side. -/
lemma spanOf_iff {rects : List Rectangle16} (f g : Rectangle16 → Nat) (hne : rects ≠ [])
    (hlt : ∀ r ∈ rects, f r < g r) (lo hi : Nat) :
    SpanOf {x | ∃ r ∈ rects, f r ≤ x ∧ x < g r} lo hi ↔
      IsLeast {a | ∃ r ∈ rects, f r = a} lo ∧ IsGreatest {a | ∃ r ∈ rects, g r = a} hi := by
  constructor
  · intro h
    have hlower : ∀ r ∈ rects, lo ≤ f r := by
      intro r hr
      exact h.least.2 ⟨r, hr, le_rfl, hlt r hr⟩
    have hupper : ∀ r ∈ rects, g r ≤ hi := by
      intro r hr
      have hlast := h.bound.1 (g r - 1) ⟨r, hr, Nat.le_sub_one_of_lt (hlt r hr),
        Nat.sub_one_lt_of_lt (hlt r hr)⟩
      omega
    refine ⟨⟨?_, ?_⟩, ?_, ?_⟩
    · obtain ⟨r, hr, hle, -⟩ := h.least.1
      exact ⟨r, hr, le_antisymm hle (hlower r hr)⟩
    · rintro a ⟨r, hr, rfl⟩
      exact hlower r hr
    · -- otherwise one less would bound the places too
      by_contra hnone
      obtain ⟨r, rest, hrects⟩ := List.exists_cons_of_ne_nil hne
      have hr : r ∈ rects := by
        rw [hrects]
        exact List.mem_cons_self
      have hless : hi ≤ hi - 1 := by
        refine h.bound.2 ?_
        rintro x ⟨s, hs, -, hx⟩
        have hsne : g s ≠ hi := fun heq => hnone ⟨s, hs, heq⟩
        have hsle := hupper s hs
        omega
      have := hlt r hr
      have := hupper r hr
      omega
    · rintro a ⟨r, hr, rfl⟩
      exact hupper r hr
  · rintro ⟨⟨⟨r, hr, hlo⟩, hlower⟩, ⟨s, hs, hhi⟩, hupper⟩
    refine ⟨⟨⟨r, hr, hlo.le, ?_⟩, ?_⟩, ?_, ?_⟩
    · rw [← hlo]
      exact hlt r hr
    · rintro x ⟨t, ht, hx, -⟩
      exact (hlower ⟨t, ht, rfl⟩).trans hx
    · rintro x ⟨t, ht, -, hx⟩
      exact hx.trans_le (hupper ⟨t, ht, rfl⟩)
    · intro a ha
      have hlast := ha (g s - 1) ⟨s, hs, Nat.le_sub_one_of_lt (hlt s hs),
        Nat.sub_one_lt_of_lt (hlt s hs)⟩
      omega

/-- The smallest rectangle around a set of pixels. -/
structure BoxOf (P : Nat → Nat → Prop) (e : Rectangle16) : Prop where
  horizontal : SpanOf {x | ∃ y, P x y} e.left e.right
  vertical : SpanOf {y | ∃ x, P x y} e.top e.bottom

lemma BoxOf.unique {P : Nat → Nat → Prop} {e f : Rectangle16} (he : BoxOf P e) (hf : BoxOf P f) :
    e = f := by
  cases e
  cases f
  rw [Rectangle16.mk.injEq]
  exact ⟨he.horizontal.least.unique hf.horizontal.least, he.vertical.least.unique hf.vertical.least,
    he.horizontal.bound.unique hf.horizontal.bound, he.vertical.bound.unique hf.vertical.bound⟩

lemma BoxOf.congr {P Q : Nat → Nat → Prop} {e : Rectangle16} (h : BoxOf P e)
    (hPQ : ∀ x y, P x y ↔ Q x y) : BoxOf Q e := by
  obtain rfl : P = Q := by
    ext x y
    exact hPQ x y
  exact h

/-- The box around two sets. -/
lemma BoxOf.union {P Q : Nat → Nat → Prop} {e f : Rectangle16} (he : BoxOf P e) (hf : BoxOf Q f) :
    BoxOf (fun x y => P x y ∨ Q x y) ⟨min f.left e.left, min f.top e.top, max f.right e.right,
      max f.bottom e.bottom⟩ := by
  have hx : {x | ∃ y, P x y ∨ Q x y} = {x | ∃ y, Q x y} ∪ {x | ∃ y, P x y} := by
    ext x
    simp only [Set.mem_ofPred_eq, Set.mem_union, exists_or, or_comm]
  have hy : {y | ∃ x, P x y ∨ Q x y} = {y | ∃ x, Q x y} ∪ {y | ∃ x, P x y} := by
    ext y
    simp only [Set.mem_ofPred_eq, Set.mem_union, exists_or, or_comm]
  constructor
  · rw [hx]
    exact hf.horizontal.union he.horizontal
  · rw [hy]
    exact hf.vertical.union he.vertical

lemma tightExtents_iff_boxOf {rects : List Rectangle16} {e : Rectangle16} (hne : rects ≠ [])
    (hproper : ∀ r ∈ rects, r.Proper) : TightExtents e rects ↔ BoxOf (Covered rects) e := by
  have hx : {x | ∃ y, Covered rects x y} = {x | ∃ r ∈ rects, r.left ≤ x ∧ x < r.right} := by
    ext x
    constructor
    · rintro ⟨y, r, hr, hcov, -⟩
      exact ⟨r, hr, hcov⟩
    · rintro ⟨r, hr, hcov⟩
      exact ⟨r.top, r, hr, hcov, le_rfl, (hproper r hr).2⟩
  have hy : {y | ∃ x, Covered rects x y} = {y | ∃ r ∈ rects, r.top ≤ y ∧ y < r.bottom} := by
    ext y
    constructor
    · rintro ⟨x, r, hr, -, hcov⟩
      exact ⟨r, hr, hcov⟩
    · rintro ⟨r, hr, hcov⟩
      exact ⟨r.left, r, hr, ⟨le_rfl, (hproper r hr).1⟩, hcov⟩
  have hhorizontal := spanOf_iff Rectangle16.left Rectangle16.right hne
    (fun r hr => (hproper r hr).1) e.left e.right
  have hvertical := spanOf_iff Rectangle16.top Rectangle16.bottom hne
    (fun r hr => (hproper r hr).2) e.top e.bottom
  rw [TightExtents, if_neg hne]
  constructor
  · rintro ⟨hleft, htop, hright, hbottom⟩
    constructor
    · rw [hx]
      exact hhorizontal.mpr ⟨hleft, hright⟩
    · rw [hy]
      exact hvertical.mpr ⟨htop, hbottom⟩
  · intro h
    have hh := h.horizontal
    have hv := h.vertical
    rw [hx] at hh
    rw [hy] at hv
    obtain ⟨hleft, hright⟩ := hhorizontal.mp hh
    obtain ⟨htop, hbottom⟩ := hvertical.mp hv
    exact ⟨hleft, htop, hright, hbottom⟩

lemma tightExtents_singleton (u : Rectangle16) : TightExtents u [u] := by
  rw [TightExtents, if_neg (by simp)]
  simp [IsLeast, IsGreatest, lowerBounds, upperBounds]

lemma boxOf_contains {u : Rectangle16} (hu : u.Proper) : BoxOf u.Contains u := by
  have hbox : BoxOf (Covered [u]) u :=
    (tightExtents_iff_boxOf (by simp) (by simpa using hu)).mp (tightExtents_singleton u)
  exact hbox.congr fun x y => covered_singleton

end FreeRdp
