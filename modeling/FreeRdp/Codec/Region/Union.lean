import FreeRdp.Codec.Region.Bands

/-!
# Union with a rectangle

The loop of `region16_union_rect` goes over the bands of the source and cuts those that the
rectangle overlaps. Here it is followed band by band: which points the pieces of a band cover, that
they are in order, and how many items they have.
-/

namespace FreeRdp

/-- The rectangle is not empty. -/
def Rectangle16.Proper (r : Rectangle16) : Prop := r.left < r.right ∧ r.top < r.bottom

instance (r : Rectangle16) : Decidable r.Proper := inferInstanceAs (Decidable (_ ∧ _))

/-- The pixel is in the rectangle. -/
def Rectangle16.Contains (r : Rectangle16) (x y : Nat) : Prop :=
  (r.left ≤ x ∧ x < r.right) ∧ r.top ≤ y ∧ y < r.bottom

/-- The pixel is in one of the rectangles. -/
def Covered (rects : List Rectangle16) (x y : Nat) : Prop := ∃ r ∈ rects, r.Contains x y

lemma covered_append {rs ss : List Rectangle16} {x y : Nat} :
    Covered (rs ++ ss) x y ↔ Covered rs x y ∨ Covered ss x y := by
  simp only [Covered, List.mem_append, or_and_right, exists_or]

@[simp] lemma not_covered_nil {x y : Nat} : ¬Covered [] x y := by simp [Covered]

@[simp] lemma covered_singleton {r : Rectangle16} {x y : Nat} :
    Covered [r] x y ↔ r.Contains x y := by simp [Covered]

variable {b c : Band} {bs : List Band} {u : Rectangle16} {x y : Nat}

lemma covered_rects : Covered b.rects x y ↔ b.Covers y ∧ HasValue b.val x () := by
  simp only [Covered, Band.rects, List.mem_map, HasValue, Rectangle16.Contains, Segment.Covers,
    and_true]
  constructor
  · rintro ⟨r, ⟨i, hi, rfl⟩, hx, hy⟩
    exact ⟨hy, i, hi, hx⟩
  · rintro ⟨hy, i, hi, hx⟩
    exact ⟨itemRect b.lo b.hi i, ⟨i, hi, rfl⟩, hx, hy⟩

/-! ### The pieces of a band -/

/-- `rectangle_contained_in_band` for a band. -/
def bandContains (u : Rectangle16) (b : Band) : Bool :=
  if b.lo > u.top ∨ u.bottom > b.hi then false else rectangleContainedLoop b.lo u b.rects

/-- What becomes of a band in the union with `u`. -/
def bandPieces (u : Rectangle16) (b : Band) : List Band :=
  if b.hi ≤ u.top ∨ u.bottom ≤ b.lo ∨ bandContains u b = true then [b]
  else
    (if u.top > b.lo then [⟨b.lo, u.top, b.val⟩] else []) ++
    [⟨max u.top b.lo, min u.bottom b.hi, mergeItems u.left u.right b.val⟩] ++
    (if u.bottom < b.hi then [⟨u.bottom, b.hi, b.val⟩] else [])

/-- The piece of `u` between a band and the next one. -/
def interPieces (u : Rectangle16) (b : Band) : List Band → List Band
  | [] => []
  | c :: _ =>
    if c.lo ≠ b.hi ∧ u.bottom > b.hi ∧ u.top < c.lo then
      [⟨max u.top b.hi, min c.lo u.bottom, [⟨u.left, u.right, ()⟩]⟩]
    else []

/-- The loop of `region16_union_rect` on bands. -/
def unionBands (u : Rectangle16) : List Band → List Band
  | [] => []
  | b :: bs => bandPieces u b ++ interPieces u b bs ++ unionBands u bs

lemma rectangleContainedLoop_append {top bottom : Nat} {items : Items} {rest : List Rectangle16}
    (hrest : ∀ r ∈ rest, r.top ≠ top) :
    rectangleContainedLoop top u (items.map (itemRect top bottom) ++ rest) =
      rectangleContainedLoop top u (items.map (itemRect top bottom)) := by
  induction items with
  | nil =>
    cases rest with
    | nil => rfl
    | cons r rest =>
      have hr : r.top ≠ top := hrest r List.mem_cons_self
      simp [rectangleContainedLoop, hr]
  | cons i items ih => simp only [List.map_cons, List.cons_append, rectangleContainedLoop, ih]

/-- A rectangle that is found in a band is part of one of its items. -/
lemma exists_item_of_contained {top bottom : Nat} {items : Items}
    (h : rectangleContainedLoop top u (items.map (itemRect top bottom)) = true) :
    ∃ i ∈ items, i.lo ≤ u.left ∧ u.right ≤ i.hi := by
  induction items with
  | nil => contradiction
  | cons i items ih =>
    simp only [List.map_cons, rectangleContainedLoop, itemRect, true_and] at h
    split at h
    · rename_i hlo
      split at h
      · rename_i hhi
        exact ⟨i, List.mem_cons_self, hlo, hhi⟩
      · obtain ⟨j, hj, hcontains⟩ := ih h
        exact ⟨j, List.mem_cons_of_mem _ hj, hcontains⟩
    · contradiction

lemma bandContains_spec (h : bandContains u b = true) :
    b.lo ≤ u.top ∧ u.bottom ≤ b.hi ∧ ∃ i ∈ b.val, i.lo ≤ u.left ∧ u.right ≤ i.hi := by
  rw [bandContains] at h
  split at h
  · contradiction
  · rename_i hin
    exact ⟨by omega, by omega, exists_item_of_contained h⟩

/-- One turn of the loop. -/
lemma region16UnionBand_eq (h : WellBanded (b :: bs)) (left right : Nat) :
    region16UnionBand u ⟨left, b.lo, right, b.hi⟩ (bandRects (b :: bs)) =
      (bandRects (bandPieces u b), bandRects bs,
        if b.hi ≤ u.top ∨ u.bottom ≤ b.lo ∨ bandContains u b = true then u.top else b.hi) := by
  have hcontains : rectangleContainedInBand ⟨left, b.lo, right, b.hi⟩ (bandRects (b :: bs)) u =
      bandContains u b := by
    rw [rectangleContainedInBand, bandContains, bandRects_cons, Band.rects,
      rectangleContainedLoop_append h.top_ne]
  have hnone : ∀ newTop newBottom, region16CopyBandWithUnion b.lo (bandRects (b :: bs)) newTop
      newBottom none = (Band.rects ⟨newTop, newBottom, b.val⟩, bandRects bs) :=
    copyBand_none h.top_ne
  have hsome : ∀ newTop newBottom, region16CopyBandWithUnion b.lo (bandRects (b :: bs)) newTop
      newBottom (some u) =
        (Band.rects ⟨newTop, newBottom, mergeItems u.left u.right b.val⟩, bandRects bs) :=
    fun newTop newBottom => copyBand_some h.top_ne newTop newBottom u
  have hmax : (if u.top > b.lo then u.top else b.lo) = max u.top b.lo := by
    split <;> omega
  have hmin : (if u.bottom < b.hi then u.bottom else b.hi) = min u.bottom b.hi := by
    split <;> omega
  rw [region16UnionBand, bandPieces]
  simp only [hcontains, hnone, hsome, hmax, hmin]
  split
  · simp
  · by_cases hbottom : u.bottom < b.hi
    · rw [if_pos hbottom, if_pos hbottom, min_eq_left hbottom.le]
      by_cases htop : u.top > b.lo
      · simp [htop]
      · simp [htop]
    · rw [if_neg hbottom, if_neg hbottom]
      by_cases htop : u.top > b.lo
      · simp [htop]
      · simp [htop]

/-- Where `u` goes on below the band, a piece between this band and the next one starts below the
band and not above `u`. -/
lemma topInterBand_eq (hb : b.lo < b.hi) (hbelow : u.bottom > b.hi) :
    (if b.hi ≤ u.top ∨ u.bottom ≤ b.lo ∨ bandContains u b = true then u.top else b.hi) =
      max u.top b.hi := by
  split
  · rename_i hcopy
    rcases hcopy with hcopy | hcopy | hcopy
    · omega
    · omega
    · have hspec := (bandContains_spec hcopy).2.1
      omega
  · omega

/-- The loop of `region16_union_rect` goes band by band. -/
lemma region16UnionLoop_eq {fuel : Nat} (h : WellBanded bs) (hfuel : bs.length ≤ fuel) :
    region16UnionLoop u fuel (bandRects bs) = bandRects (unionBands u bs) := by
  induction bs generalizing fuel with
  | nil => cases fuel <;> rfl
  | cons b bs ih =>
    obtain ⟨fuel, rfl⟩ := Nat.exists_eq_succ_of_ne_zero (Nat.ne_zero_of_lt hfuel)
    obtain ⟨left, right, rest, hhead⟩ := h.exists_head
    obtain ⟨hb, hlater, -, -, hbs⟩ := wellBanded_cons.mp h
    have hband := region16UnionBand_eq (u := u) h left right
    have hinter : region16InterBand u ⟨left, b.lo, right, b.hi⟩
        (if b.hi ≤ u.top ∨ u.bottom ≤ b.lo ∨ bandContains u b = true then u.top else b.hi)
        (bandRects bs) = bandRects (interPieces u b bs) := by
      cases bs with
      | nil => rfl
      | cons c bs =>
        obtain ⟨left', right', rest', hhead'⟩ := hbs.exists_head
        rw [bandRects_cons, hhead', List.cons_append, region16InterBand, interPieces]
        split
        · rename_i hgap
          rw [topInterBand_eq hb hgap.2.1]
          rfl
        · rfl
    rw [bandRects_cons, hhead, List.cons_append, region16UnionLoop, ← List.cons_append, ← hhead,
      ← bandRects_cons, hband]
    simp only [hinter, unionBands, bandRects_append]
    rw [ih hbs (by simpa using hfuel)]

/-! ### What the pieces cover -/

/-- The pieces of a band cover the band and what `u` has on its lines. -/
lemma covered_bandPieces (hu : u.Proper) (hval : Ordered b.val) :
    Covered (bandRects (bandPieces u b)) x y ↔
      Covered b.rects x y ∨ b.Covers y ∧ u.Contains x y := by
  rw [bandPieces]
  split
  · rename_i hcopy
    rw [bandRects_cons, bandRects_nil, List.append_nil, covered_rects]
    refine (or_iff_left_of_imp ?_).symm
    rintro ⟨hy, hx, hyu⟩
    refine ⟨hy, ?_⟩
    rcases hcopy with habove | hbelow | hcontains
    · have := hy.2
      omega
    · have := hy.1
      omega
    · obtain ⟨-, -, i, hi, hlo, hhi⟩ := bandContains_spec hcontains
      exact ⟨i, hi, ⟨hlo.trans hx.1, hx.2.trans_le hhi⟩, rfl⟩
  · rename_i hcopy
    have htop : Covered (bandRects (if u.top > b.lo then [⟨b.lo, u.top, b.val⟩] else [])) x y ↔
        (b.lo ≤ y ∧ y < u.top) ∧ HasValue b.val x () := by
      split
      · simp [covered_rects, Segment.Covers]
      · have hempty : ¬(b.lo ≤ y ∧ y < u.top) := by omega
        simp [hempty]
    have hbottom : Covered (bandRects (if u.bottom < b.hi then [⟨u.bottom, b.hi, b.val⟩] else []))
        x y ↔ (u.bottom ≤ y ∧ y < b.hi) ∧ HasValue b.val x () := by
      split
      · simp [covered_rects, Segment.Covers]
      · have hempty : ¬(u.bottom ≤ y ∧ y < b.hi) := by omega
        simp [hempty]
    simp only [bandRects_append, covered_append, htop, hbottom, bandRects_cons, bandRects_nil,
      List.append_nil, covered_rects, Segment.Covers, hasValue_mergeItems hval hu.1,
      Rectangle16.Contains, max_le_iff, lt_min_iff]
    -- on each line it is the same question for the items
    have htb := hu.2
    by_cases hv : HasValue b.val x ()
    · simp only [hv, and_true, true_or]
      omega
    · simp only [hv, and_false, false_or, or_false]
      omega

lemma bandPieces_within (hu : u.Proper) :
    ∀ c ∈ bandPieces u b, b.lo ≤ c.lo ∧ c.hi ≤ b.hi := by
  intro c hc
  rw [bandPieces] at hc
  split at hc
  · rw [List.mem_singleton] at hc
    rw [hc]
    exact ⟨le_rfl, le_rfl⟩
  · have := hu.2
    simp only [List.mem_append, List.mem_singleton] at hc
    rcases hc with (hc | hc) | hc
    · split at hc
      · rw [List.mem_singleton] at hc
        rw [hc]
        exact ⟨le_rfl, by show u.top ≤ b.hi; omega⟩
      · contradiction
    · rw [hc]
      exact ⟨le_max_right _ _, min_le_right _ _⟩
    · split at hc
      · rw [List.mem_singleton] at hc
        rw [hc]
        exact ⟨by show b.lo ≤ u.bottom; omega, le_rfl⟩
      · contradiction

lemma wellBanded_bandPieces (hu : u.Proper) (hb : b.lo < b.hi) (hne : b.val ≠ [])
    (hval : Ordered b.val) : WellBanded (bandPieces u b) := by
  have hmerge : mergeItems u.left u.right b.val ≠ [] ∧
      Ordered (mergeItems u.left u.right b.val) :=
    ⟨mergeItems_ne_nil _ _ _, ordered_mergeItems hval hu.1⟩
  have := hu.2
  rw [bandPieces]
  split
  · exact wellBanded_cons.mpr ⟨hb, by simp, hne, hval, wellBanded_nil⟩
  · refine wellBanded_append.mpr ⟨wellBanded_append.mpr ⟨?_, ?_, ?_⟩, ?_, ?_⟩
    · split
      · exact wellBanded_cons.mpr ⟨‹_›, by simp, hne, hval, wellBanded_nil⟩
      · exact wellBanded_nil
    · exact wellBanded_cons.mpr ⟨by show max u.top b.lo < min u.bottom b.hi; omega, by simp,
        hmerge.1, hmerge.2, wellBanded_nil⟩
    · intro c hc d hd
      split at hc
      · rw [List.mem_singleton] at hc hd
        rw [hc, hd]
        exact le_max_left _ _
      · contradiction
    · split
      · exact wellBanded_cons.mpr ⟨‹_›, by simp, hne, hval, wellBanded_nil⟩
      · exact wellBanded_nil
    · intro c hc d hd
      split at hd
      · rw [List.mem_singleton] at hd
        rw [hd]
        simp only [List.mem_append, List.mem_singleton] at hc
        rcases hc with hc | hc
        · split at hc
          · rw [List.mem_singleton] at hc
            rw [hc]
            exact hu.2.le
          · contradiction
        · rw [hc]
          exact min_le_left _ _
      · contradiction

/-- The piece after a band covers what `u` has on the lines up to the next band. -/
lemma covered_interPieces :
    Covered (bandRects (interPieces u b (c :: bs))) x y ↔
      (b.hi ≤ y ∧ y < c.lo) ∧ u.Contains x y := by
  rw [interPieces]
  split
  · simp only [bandRects_cons, bandRects_nil, List.append_nil, covered_rects, Segment.Covers,
      hasValue_cons, not_hasValue_nil, or_false, and_true, Rectangle16.Contains, max_le_iff,
      lt_min_iff]
    omega
  · simp only [bandRects_nil, not_covered_nil, false_iff, Rectangle16.Contains]
    omega

lemma interPieces_within (hu : u.Proper) (hc : b.hi ≤ c.lo) (bs : List Band) :
    ∀ d ∈ interPieces u b (c :: bs), b.hi ≤ d.lo ∧ d.lo < d.hi ∧ d.hi ≤ c.lo := by
  intro d hd
  rw [interPieces] at hd
  split at hd
  · have := hu.2
    rw [List.mem_singleton] at hd
    rw [hd]
    refine ⟨le_max_right _ _, ?_, min_le_left _ _⟩
    show max u.top b.hi < min c.lo u.bottom
    omega
  · contradiction

lemma wellBanded_interPieces (hu : u.Proper) (hc : b.hi ≤ c.lo) :
    WellBanded (interPieces u b (c :: bs)) := by
  have hwithin := interPieces_within hu hc bs
  rw [interPieces] at hwithin ⊢
  split
  · rename_i hgap
    rw [if_pos hgap] at hwithin
    have hseg : Ordered ([⟨u.left, u.right, ()⟩] : Items) :=
      ordered_cons.mpr ⟨hu.1, by simp, ordered_nil⟩
    exact wellBanded_cons.mpr ⟨(hwithin _ List.mem_cons_self).2.1, by simp, by simp, hseg,
      wellBanded_nil⟩
  · exact wellBanded_nil

/-- The bottom of the last band. -/
def lastBottom : Nat → List Band → Nat
  | bottom, [] => bottom
  | _, b :: bs => lastBottom b.hi bs

lemma WellBanded.le_lastBottom (h : WellBanded (b :: bs)) :
    ∀ c ∈ b :: bs, c.hi ≤ lastBottom b.hi bs := by
  induction bs generalizing b with
  | nil => simp [lastBottom]
  | cons c bs ih =>
    obtain ⟨-, hlater, -, -, hbs⟩ := wellBanded_cons.mp h
    have hrest := ih hbs
    refine List.forall_mem_cons.mpr ⟨?_, hrest⟩
    obtain ⟨hc, -⟩ := wellBanded_cons.mp hbs
    exact (hlater c List.mem_cons_self).trans (hc.le.trans (hrest c List.mem_cons_self))

/-- The loop covers the source and what `u` has from the first band to the last. -/
lemma covered_unionBands (hu : u.Proper) (h : WellBanded (b :: bs)) :
    Covered (bandRects (unionBands u (b :: bs))) x y ↔
      Covered (bandRects (b :: bs)) x y ∨
        (b.lo ≤ y ∧ y < lastBottom b.hi bs) ∧ u.Contains x y := by
  induction bs generalizing b with
  | nil =>
    obtain ⟨-, -, -, hval, -⟩ := wellBanded_cons.mp h
    simp only [unionBands, interPieces, List.append_nil, covered_bandPieces hu hval,
      bandRects_cons, bandRects_nil, lastBottom, Segment.Covers]
  | cons c bs ih =>
    obtain ⟨hb, hlater, -, hval, hbs⟩ := wellBanded_cons.mp h
    have hbc := hlater c List.mem_cons_self
    have hlast := hbs.le_lastBottom c List.mem_cons_self
    have hc := (wellBanded_cons.mp hbs).1
    rw [unionBands, bandRects_append, bandRects_append, covered_append, covered_append,
      covered_bandPieces hu hval, covered_interPieces, ih hbs, bandRects_cons b,
      covered_append, lastBottom, Segment.Covers]
    have hlines : b.lo ≤ y ∧ y < lastBottom c.hi bs ↔ (b.lo ≤ y ∧ y < b.hi) ∨
        (b.hi ≤ y ∧ y < c.lo) ∨ c.lo ≤ y ∧ y < lastBottom c.hi bs := by
      omega
    rw [hlines, or_and_right, or_and_right]
    simp only [or_assoc, or_left_comm]

/-- The loop keeps the bands in order, between the first line of the source and the last. -/
lemma wellBanded_unionBands (hu : u.Proper) (h : WellBanded (b :: bs)) :
    WellBanded (unionBands u (b :: bs)) ∧
      ∀ d ∈ unionBands u (b :: bs), b.lo ≤ d.lo ∧ d.hi ≤ lastBottom b.hi bs := by
  induction bs generalizing b with
  | nil =>
    obtain ⟨hb, -, hne, hval, -⟩ := wellBanded_cons.mp h
    simp only [unionBands, interPieces, List.append_nil, lastBottom]
    exact ⟨wellBanded_bandPieces hu hb hne hval, bandPieces_within hu⟩
  | cons c bs ih =>
    obtain ⟨hb, hlater, hne, hval, hbs⟩ := wellBanded_cons.mp h
    have hbc := hlater c List.mem_cons_self
    have hlast := hbs.le_lastBottom c List.mem_cons_self
    have hc := (wellBanded_cons.mp hbs).1
    obtain ⟨hrest, hrestWithin⟩ := ih hbs
    have hpieces := bandPieces_within (b := b) hu
    have hinter := interPieces_within hu hbc bs
    rw [unionBands, lastBottom]
    refine ⟨wellBanded_append.mpr ⟨wellBanded_append.mpr ⟨wellBanded_bandPieces hu hb hne hval,
      wellBanded_interPieces hu hbc, ?_⟩, hrest, ?_⟩, ?_⟩
    · intro d hd e he
      exact (hpieces d hd).2.trans (hinter e he).1
    · intro d hd e he
      refine le_trans ?_ (hrestWithin e he).1
      rw [List.mem_append] at hd
      cases hd with
      | inl hd => exact (hpieces d hd).2.trans hbc
      | inr hd => exact (hinter d hd).2.2
    · intro d hd
      simp only [List.mem_append] at hd
      rcases hd with (hd | hd) | hd
      · have := hpieces d hd
        omega
      · have := hinter d hd
        omega
      · have := hrestWithin d hd
        omega

/-! ### The pieces above and below the source -/

/-- A band with the one item `u` has. -/
def rectBand (u : Rectangle16) (top bottom : Nat) : Band := ⟨top, bottom, [⟨u.left, u.right, ()⟩]⟩

lemma wellBanded_rectBand (hu : u.Proper) {top bottom : Nat} (h : top < bottom) :
    WellBanded [rectBand u top bottom] :=
  wellBanded_cons.mpr ⟨h, by simp, by simp [rectBand],
    ordered_cons.mpr ⟨hu.1, by simp, ordered_nil⟩, wellBanded_nil⟩

lemma covered_rectBand {top bottom : Nat} :
    Covered (rectBand u top bottom).rects x y ↔
      (u.left ≤ x ∧ x < u.right) ∧ top ≤ y ∧ y < bottom := by
  simp [covered_rects, rectBand, Segment.Covers, hasValue_cons, and_comm]

/-- The piece of `u` above the first line of the source. -/
def topPieces (u : Rectangle16) (top : Nat) : List Band :=
  if u.top < top then [rectBand u u.top (min top u.bottom)] else []

/-- The piece of `u` below the last line of the source. -/
def bottomPieces (u : Rectangle16) (bottom : Nat) : List Band :=
  if bottom < u.bottom then [rectBand u (max bottom u.top) u.bottom] else []

lemma covered_topPieces {top : Nat} :
    Covered (bandRects (topPieces u top)) x y ↔ y < top ∧ u.Contains x y := by
  rw [topPieces]
  split
  · simp only [bandRects_cons, bandRects_nil, List.append_nil, covered_rectBand,
      Rectangle16.Contains, lt_min_iff]
    omega
  · simp only [bandRects_nil, not_covered_nil, false_iff, Rectangle16.Contains]
    omega

lemma covered_bottomPieces {bottom : Nat} :
    Covered (bandRects (bottomPieces u bottom)) x y ↔ bottom ≤ y ∧ u.Contains x y := by
  rw [bottomPieces]
  split
  · simp only [bandRects_cons, bandRects_nil, List.append_nil, covered_rectBand,
      Rectangle16.Contains, max_le_iff]
    omega
  · simp only [bandRects_nil, not_covered_nil, false_iff, Rectangle16.Contains]
    omega

lemma wellBanded_topPieces (hu : u.Proper) (top : Nat) :
    WellBanded (topPieces u top) ∧ ∀ d ∈ topPieces u top, d.hi ≤ top := by
  rw [topPieces]
  split
  · have htb := hu.2
    exact ⟨wellBanded_rectBand hu (lt_min ‹_› htb),
      fun d hd => by rw [List.mem_singleton.mp hd]; exact min_le_left _ _⟩
  · exact ⟨wellBanded_nil, by simp⟩

lemma wellBanded_bottomPieces (hu : u.Proper) (bottom : Nat) :
    WellBanded (bottomPieces u bottom) ∧ ∀ d ∈ bottomPieces u bottom, bottom ≤ d.lo := by
  rw [bottomPieces]
  split
  · have htb := hu.2
    exact ⟨wellBanded_rectBand hu (max_lt ‹_› htb),
      fun d hd => by rw [List.mem_singleton.mp hd]; exact le_max_left _ _⟩
  · exact ⟨wellBanded_nil, by simp⟩

/-- All bands that `region16_union_rect` writes. -/
def unionAllBands (u : Rectangle16) (b : Band) (bs : List Band) : List Band :=
  topPieces u b.lo ++ unionBands u (b :: bs) ++ bottomPieces u (lastBottom b.hi bs)

lemma wellBanded_unionAllBands (hu : u.Proper) (h : WellBanded (b :: bs)) :
    WellBanded (unionAllBands u b bs) := by
  obtain ⟨htop, htopLe⟩ := wellBanded_topPieces hu b.lo
  obtain ⟨hmiddle, hwithin⟩ := wellBanded_unionBands hu h
  obtain ⟨hbottom, hbottomLe⟩ := wellBanded_bottomPieces hu (lastBottom b.hi bs)
  have hlast := h.le_lastBottom b List.mem_cons_self
  have hb := (wellBanded_cons.mp h).1
  refine wellBanded_append.mpr ⟨wellBanded_append.mpr ⟨htop, hmiddle, ?_⟩, hbottom, ?_⟩
  · intro d hd e he
    exact (htopLe d hd).trans (hwithin e he).1
  · intro d hd e he
    rw [List.mem_append] at hd
    cases hd with
    | inl hd => exact (htopLe d hd).trans ((hb.le.trans hlast).trans (hbottomLe e he))
    | inr hd => exact (hwithin d hd).2.trans (hbottomLe e he)

/-- Together the pieces cover the source and `u`. -/
lemma covered_unionAllBands (hu : u.Proper) (h : WellBanded (b :: bs)) :
    Covered (bandRects (unionAllBands u b bs)) x y ↔
      Covered (bandRects (b :: bs)) x y ∨ u.Contains x y := by
  have hlast := h.le_lastBottom b List.mem_cons_self
  have hb := (wellBanded_cons.mp h).1
  rw [unionAllBands, bandRects_append, bandRects_append, covered_append, covered_append,
    covered_topPieces, covered_unionBands hu h, covered_bottomPieces]
  by_cases hsrc : Covered (bandRects (b :: bs)) x y
  · simp only [hsrc, true_or, or_true]
  · by_cases hcov : u.Contains x y
    · simp only [hsrc, hcov, and_true, false_or, or_true, iff_true]
      omega
    · simp only [hsrc, hcov, and_false, or_false]

lemma length_rects (b : Band) : b.rects.length = b.val.length := List.length_map _

/-- Every band has an item, so the array is as long as the list of bands. -/
lemma WellBanded.length_le (h : WellBanded bs) : bs.length ≤ (bandRects bs).length := by
  induction bs with
  | nil => exact le_rfl
  | cons b bs ih =>
    obtain ⟨-, -, hne, -, hbs⟩ := wellBanded_cons.mp h
    have hpos : 0 < b.val.length := List.length_pos_of_ne_nil hne
    have hrest := ih hbs
    rw [bandRects_cons, List.length_append, length_rects, List.length_cons]
    omega

lemma region16UnionItems_eq (h : WellBanded (b :: bs)) {extents : Rectangle16}
    (htop : extents.top = b.lo) (hbottom : extents.bottom = lastBottom b.hi bs) :
    region16UnionItems extents (bandRects (b :: bs)) u = bandRects (unionAllBands u b bs) := by
  rw [region16UnionItems, htop, hbottom, region16UnionLoop_eq h h.length_le, unionAllBands,
    bandRects_append, bandRects_append, topPieces, bottomPieces]
  congr 1
  · congr 1
    split <;> rfl
  · split <;> rfl

/-! ### The number of items -/

/-- No band becomes more than four times as long: it is cut in three only if nothing follows it
before the next band. -/
lemma length_pieces_le (hu : u.Proper) (hne : b.val ≠ []) (hval : Ordered b.val)
    (bs : List Band) :
    (bandRects (bandPieces u b ++ interPieces u b bs)).length ≤ 4 * b.val.length := by
  have hpos : 0 < b.val.length := List.length_pos_of_ne_nil hne
  have hmerge := length_mergeItems_le hval hu.1
  have hinter : (bandRects (interPieces u b bs)).length ≤ 1 ∧
      (u.bottom ≤ b.hi → (bandRects (interPieces u b bs)).length = 0) := by
    cases bs with
    | nil => simp [interPieces]
    | cons c bs =>
      rw [interPieces]
      split
      · rename_i hgap
        refine ⟨by simp [length_rects], fun hle => ?_⟩
        exact absurd hgap.2.1 (not_lt.mpr hle)
      · simp
  rw [bandRects_append, List.length_append, bandPieces]
  split
  · simp only [bandRects_cons, bandRects_nil, List.append_nil, length_rects]
    omega
  · have htop : (bandRects (if u.top > b.lo then [⟨b.lo, u.top, b.val⟩] else [])).length ≤
        b.val.length := by
      split <;> simp [length_rects]
    simp only [bandRects_append, List.length_append, bandRects_cons, bandRects_nil, List.append_nil,
      length_rects]
    by_cases hbottom : u.bottom < b.hi
    · rw [if_pos hbottom, bandRects_cons, bandRects_nil, List.append_nil, length_rects]
      have hnone := hinter.2 hbottom.le
      simp only
      omega
    · rw [if_neg hbottom, bandRects_nil, List.length_nil]
      omega

lemma length_unionBands_le (hu : u.Proper) (h : WellBanded bs) :
    (bandRects (unionBands u bs)).length ≤ 4 * (bandRects bs).length := by
  induction bs with
  | nil => simp [unionBands]
  | cons b bs ih =>
    obtain ⟨hb, -, hne, hval, hbs⟩ := wellBanded_cons.mp h
    have hpieces := length_pieces_le hu hne hval bs
    have hrest := ih hbs
    rw [unionBands, bandRects_append, List.length_append, bandRects_cons, List.length_append,
      length_rects]
    omega

lemma length_unionAllBands_le (hu : u.Proper) (h : WellBanded (b :: bs)) :
    (bandRects (unionAllBands u b bs)).length ≤ 4 * (1 + (bandRects (b :: bs)).length) := by
  have hmiddle := length_unionBands_le hu h
  have htop : (bandRects (topPieces u b.lo)).length ≤ 1 := by
    rw [topPieces]
    split <;> simp [length_rects, rectBand]
  have hbottom : (bandRects (bottomPieces u (lastBottom b.hi bs))).length ≤ 1 := by
    rw [bottomPieces]
    split <;> simp [length_rects, rectBand]
  rw [unionAllBands, bandRects_append, bandRects_append, List.length_append, List.length_append]
  omega

end FreeRdp
