import FreeRdp.Library.Runs
import FreeRdp.Codec.Region.Operations

/-!
# Canonical regions

If no two items of a band touch, the array is determined by the pixels: the order in which the
rectangles were added does not show. A union keeps the items apart unless the rectangle ends where
an item beside it starts: `region16_copy_band_with_union` joins it with an item that it touches on
the left, but not with one that it touches on the right.
-/

namespace FreeRdp

variable {b : Band} {bs cs : List Band} {u rect : Rectangle16}

/-- The bands cannot be joined and their items do not touch. -/
structure CanonicalBands (bs : List Band) : Prop where
  joined : JoinedBands bs
  separated : ∀ b ∈ bs, Separated b.val

/-- On each line two canonical lists with the same pixels have the same items. -/
lemma CanonicalBands.hasValue_imp (hbs : CanonicalBands bs) (hcs : CanonicalBands cs)
    (h : ∀ x y, Covered (bandRects bs) x y ↔ Covered (bandRects cs) x y) {y : Nat} {items : Items}
    (hvalue : HasValue bs y items) : HasValue cs y items := by
  obtain ⟨b, hb, hy, hval⟩ := hvalue
  obtain ⟨hne, hordered⟩ := hbs.joined.wellBanded.items b hb
  rw [hval] at hne hordered
  -- the first pixel of the line is also in `cs`, so `cs` has items there
  obtain ⟨i, rest, hitems⟩ := List.exists_cons_of_ne_nil hne
  have hpixel : HasValue items i.lo () := by
    rw [hitems] at hordered ⊢
    exact hordered.hasValue_lo
  obtain ⟨items', hvalue', -⟩ := covered_bandRects.mp
    ((h i.lo y).mp (covered_bandRects.mpr ⟨items, ⟨b, hb, hy, hval⟩, hpixel⟩))
  obtain ⟨c, hc, hy', hval'⟩ := hvalue'
  have hline : ∀ x, HasValue items x () ↔ HasValue items' x () := by
    intro x
    have hleft : HasValue items x () ↔ Covered (bandRects bs) x y := by
      rw [covered_bandRects]
      constructor
      · intro hx
        exact ⟨items, ⟨b, hb, hy, hval⟩, hx⟩
      · rintro ⟨items'', hvalue'', hx⟩
        rw [hbs.joined.wellBanded.ordered.value_unique ⟨b, hb, hy, hval⟩ hvalue'']
        exact hx
    have hright : HasValue items' x () ↔ Covered (bandRects cs) x y := by
      rw [covered_bandRects]
      constructor
      · intro hx
        exact ⟨items', ⟨c, hc, hy', hval'⟩, hx⟩
      · rintro ⟨items'', hvalue'', hx⟩
        rw [hcs.joined.wellBanded.ordered.value_unique ⟨c, hc, hy', hval'⟩ hvalue'']
        exact hx
    rw [hleft, hright, h x y]
  have hsep := hbs.separated b hb
  have hsep' := hcs.separated c hc
  have hordered' := (hcs.joined.wellBanded.items c hc).2
  rw [hval] at hsep
  rw [hval'] at hsep' hordered'
  have heq : items = items' :=
    reduced_unique hordered hsep.reduced hordered' hsep'.reduced fun x _ => hline x
  rw [heq]
  exact ⟨c, hc, hy', hval'⟩

/-- A canonical list of bands is determined by its pixels. -/
lemma CanonicalBands.unique (hbs : CanonicalBands bs) (hcs : CanonicalBands cs)
    (h : ∀ x y, Covered (bandRects bs) x y ↔ Covered (bandRects cs) x y) : bs = cs := by
  refine reduced_unique hbs.joined.wellBanded.ordered hbs.joined.reduced
    hcs.joined.wellBanded.ordered hcs.joined.reduced ?_
  intro y items
  constructor
  · intro hvalue
    exact hbs.hasValue_imp hcs h hvalue
  · intro hvalue
    exact hcs.hasValue_imp hbs (fun x y => (h x y).symm) hvalue

/-! ### Unions that keep the items apart -/

/-- No rectangle on the lines of `rect` starts where `rect` ends. -/
def AvoidsTouch (rects : List Rectangle16) (rect : Rectangle16) : Prop :=
  ∀ r ∈ rects, r.top < rect.bottom → rect.top < r.bottom → r.left ≠ rect.right

instance (rects : List Rectangle16) (rect : Rectangle16) : Decidable (AvoidsTouch rects rect) :=
  inferInstanceAs (Decidable (∀ _ ∈ _, _))

lemma separated_singleton (i : Segment Nat Unit) : Separated [i] := List.pairwise_singleton _ i

lemma separated_bandPieces (hu : u.Proper) (hval : Ordered b.val) (hsep : Separated b.val)
    (htouch : b.lo < u.bottom → u.top < b.hi → ∀ i ∈ b.val, i.lo ≠ u.right) :
    ∀ c ∈ bandPieces u b, Separated c.val := by
  intro c hc
  rw [bandPieces] at hc
  split at hc
  · rw [List.mem_singleton] at hc
    rw [hc]
    exact hsep
  · rename_i hover
    have hmerge : Separated (mergeItems u.left u.right b.val) :=
      separated_mergeItems hval hsep hu.1 (htouch (by omega) (by omega))
    simp only [List.mem_append, List.mem_singleton] at hc
    rcases hc with (hc | hc) | hc
    · split at hc
      · rw [List.mem_singleton.mp hc]
        exact hsep
      · contradiction
    · rw [hc]
      exact hmerge
    · split at hc
      · rw [List.mem_singleton.mp hc]
        exact hsep
      · contradiction

lemma separated_interPieces : ∀ c ∈ interPieces u b bs, Separated c.val := by
  intro c hc
  cases bs with
  | nil => contradiction
  | cons d bs =>
    rw [interPieces] at hc
    split at hc
    · rw [List.mem_singleton.mp hc]
      exact separated_singleton _
    · contradiction

lemma separated_unionBands (hu : u.Proper) (h : WellBanded bs)
    (hsep : ∀ b ∈ bs, Separated b.val) (htouch : AvoidsTouch (bandRects bs) u) :
    ∀ c ∈ unionBands u bs, Separated c.val := by
  induction bs with
  | nil => simp [unionBands]
  | cons b bs ih =>
    obtain ⟨hb, -, -, hval, hbs⟩ := wellBanded_cons.mp h
    obtain ⟨hsepb, hsepbs⟩ := List.forall_mem_cons.mp hsep
    have hband : b.lo < u.bottom → u.top < b.hi → ∀ i ∈ b.val, i.lo ≠ u.right := by
      intro hbottom htop i hi
      exact htouch (itemRect b.lo b.hi i)
        (mem_bandRects.mpr ⟨b, List.mem_cons_self, i, hi, rfl⟩) hbottom htop
    have hrest : AvoidsTouch (bandRects bs) u := by
      intro r hr
      exact htouch r (by rw [bandRects_cons]; exact List.mem_append_right _ hr)
    intro c hc
    simp only [unionBands, List.mem_append] at hc
    rcases hc with (hc | hc) | hc
    · exact separated_bandPieces hu hval hsepb hband c hc
    · exact separated_interPieces c hc
    · exact ih hbs hsepbs hrest c hc

/-- A union keeps a canonical region canonical. -/
lemma CanonicalBands.unionResult (h : CanonicalBands bs) (hu : u.Proper)
    (htouch : AvoidsTouch (bandRects bs) u) : CanonicalBands (unionResult u bs) := by
  refine ⟨joinedBands_unionResult hu h.joined.wellBanded, ?_⟩
  intro c hc
  cases bs with
  | nil =>
    rw [List.mem_singleton.mp hc]
    exact separated_singleton _
  | cons b bs =>
    obtain ⟨d, hd, hval⟩ := exists_val_of_mem_coalesce hc
    rw [← hval]
    simp only [unionAllBands, List.mem_append, topPieces, bottomPieces] at hd
    rcases hd with (hd | hd) | hd
    · split at hd
      · rw [List.mem_singleton.mp hd]
        exact separated_singleton _
      · contradiction
    · exact separated_unionBands hu h.joined.wellBanded h.separated htouch d hd
    · split at hd
      · rw [List.mem_singleton.mp hd]
        exact separated_singleton _
      · contradiction

/-! ### Building a region -/

/-- `region16_union_rect` with the region as source and target, and no failing allocation. -/
def regionAdd (region : Region16) (rect : Rectangle16) : Region16 :=
  (region16UnionRect ⟨true, true, true⟩ region region rect).2

/-- The region of a list of rectangles, built by successive unions. -/
def regionBuild (rects : List Rectangle16) : Region16 := rects.foldl regionAdd region16Init

/-- No two rectangles of a band touch. -/
def NoneTouch (rects : List Rectangle16) : Prop :=
  ∀ r ∈ rects, ∀ s ∈ rects, r.top = s.top → r.right ≠ s.left

/-- The region is well formed and its bands are canonical. -/
def Region16.Canonical (region : Region16) : Prop :=
  region.WellFormed ∧ ∃ bs, CanonicalBands bs ∧ region.rects = bandRects bs

lemma canonical_init : region16Init.Canonical :=
  ⟨invariant_clear.wellFormed, [], ⟨joinedBands_nil, by simp⟩, rfl⟩

lemma regionAdd_ok (rect : Rectangle16) {region : Region16} (h : region.WellFormed) :
    (region16UnionRect ⟨true, true, true⟩ region region rect).1 = true := by
  obtain ⟨size, hdata⟩ := h.exists_data
  rw [region16UnionRect, hdata]
  generalize region.rects = rects
  cases rects with
  | nil => rfl
  | cons r rects => exact region16SimplifyBands_ok (fun _ => rfl) _ _

/-- One union. -/
lemma Region16.Canonical.add {region : Region16} (h : region.Canonical) (hrect : rect.Proper)
    (htouch : AvoidsTouch region.rects rect) :
    (regionAdd region rect).Canonical ∧ ∀ x y,
      Covered (regionAdd region rect).rects x y ↔ Covered region.rects x y ∨ rect.Contains x y := by
  obtain ⟨hwf, bs, hbs, hrects⟩ := h
  have hok := regionAdd_ok rect hwf
  obtain ⟨size, extents, -, heq, -⟩ :=
    region16UnionRect_rects hwf hbs.joined.wellBanded hrects hrect rfl hok
  rw [hrects] at htouch
  refine ⟨⟨(Region16.Invariant.unionRect hwf hrect rfl hok).wellFormed, _,
    hbs.unionResult hrect htouch, ?_⟩, ?_⟩
  · rw [regionAdd, heq]
    rfl
  · intro x y
    rw [regionAdd, heq, hrects]
    exact covered_unionResult hrect hbs.joined.wellBanded

/-- A whole run: the region stays canonical and has the pixels of all rectangles. -/
lemma Region16.Canonical.foldl {region : Region16} {rects : List Rectangle16}
    (h : region.Canonical)
    (hrects : AlongRun regionAdd (fun region rect => rect.Proper ∧ AvoidsTouch region.rects rect)
      region rects) :
    (rects.foldl regionAdd region).Canonical ∧ ∀ x y,
      Covered (rects.foldl regionAdd region).rects x y ↔
        Covered region.rects x y ∨ ∃ r ∈ rects, r.Contains x y := by
  induction rects generalizing region with
  | nil => exact ⟨h, by simp⟩
  | cons rect rects ih =>
    obtain ⟨⟨hrect, htouch⟩, hrest⟩ := hrects
    obtain ⟨hadd, hcov⟩ := h.add hrect htouch
    obtain ⟨hcanonical, hcovered⟩ := ih hadd hrest
    refine ⟨hcanonical, ?_⟩
    intro x y
    rw [List.foldl_cons, hcovered, hcov, or_assoc]
    simp

lemma CanonicalBands.noneTouch (h : CanonicalBands bs) : NoneTouch (bandRects bs) := by
  intro r hr s hs htop
  obtain ⟨b, hb, i, hi, rfl⟩ := mem_bandRects.mp hr
  obtain ⟨c, hc, j, hj, rfl⟩ := mem_bandRects.mp hs
  obtain rfl : b = c := h.joined.wellBanded.ordered.eq_of_lo_eq hb hc htop
  intro htouch
  exact (h.joined.wellBanded.items b hb).2.val_ne_of_touch (h.separated b hb).reduced hi hj htouch
    rfl

/-- Regions with the same pixels that are both canonical are the same. -/
lemma Region16.Canonical.unique {r s : Region16} (hr : r.Canonical) (hs : s.Canonical)
    (h : ∀ x y, Covered r.rects x y ↔ Covered s.rects x y) :
    r.rects = s.rects ∧ r.extents = s.extents := by
  obtain ⟨hrwf, bs, hbs, hrRects⟩ := hr
  obtain ⟨hswf, cs, hcs, hsRects⟩ := hs
  have hsame : r.rects = s.rects := by
    rw [hrRects, hsRects] at h ⊢
    rw [hbs.unique hcs h]
  refine ⟨hsame, ?_⟩
  have hrext := hrwf.extents
  have hsext := hswf.extents
  rw [← hsame] at hsext
  by_cases hnil : r.rects = []
  · rw [TightExtents, if_pos hnil] at hrext hsext
    rw [hrext, hsext]
  · exact ((tightExtents_iff_boxOf hnil hrwf.banded.proper).mp hrext).unique
      ((tightExtents_iff_boxOf hnil hrwf.banded.proper).mp hsext)

end FreeRdp
