import FreeRdp.Codec.Region.Items

/-!
# Regions as lists of bands

A band is a segment on the y axis whose value is its list of items, so a region is a list of
segments again. The functions of `region.c` find the bands in the array by the tops of the
rectangles; on the rectangles of a list of bands they do what their counterparts here do band
by band.
-/

namespace FreeRdp

/-- A band and its items. -/
abbrev Band := Segment Nat Items

/-- The rectangle of an item of a band. -/
def itemRect (top bottom : Nat) (i : Segment Nat Unit) : Rectangle16 := ⟨i.lo, top, i.hi, bottom⟩

@[simp] lemma itemRect_top (top bottom : Nat) (i : Segment Nat Unit) :
    (itemRect top bottom i).top = top := rfl

/-- The rectangles of a band. -/
def Band.rects (b : Band) : List Rectangle16 := b.val.map (itemRect b.lo b.hi)

/-- The rectangles of a list of bands. -/
def bandRects (bs : List Band) : List Rectangle16 := bs.flatMap Band.rects

@[simp] lemma bandRects_nil : bandRects [] = [] := rfl

@[simp] lemma bandRects_cons (b : Band) (bs : List Band) :
    bandRects (b :: bs) = b.rects ++ bandRects bs := rfl

@[simp] lemma bandRects_append (bs cs : List Band) :
    bandRects (bs ++ cs) = bandRects bs ++ bandRects cs := List.flatMap_append

/-- The bands follow one another, each has items, and these follow one another. -/
structure WellBanded (bs : List Band) : Prop where
  ordered : Ordered bs
  items : ∀ b ∈ bs, b.val ≠ [] ∧ Ordered b.val

variable {b c : Band} {bs cs : List Band}

lemma wellBanded_nil : WellBanded [] := ⟨ordered_nil, by simp⟩

lemma wellBanded_cons : WellBanded (b :: bs) ↔
    b.lo < b.hi ∧ (∀ c ∈ bs, b.hi ≤ c.lo) ∧ b.val ≠ [] ∧ Ordered b.val ∧ WellBanded bs := by
  constructor
  · intro h
    obtain ⟨hb, hlater, hbs⟩ := ordered_cons.mp h.ordered
    obtain ⟨⟨hne, hitems⟩, hrest⟩ := List.forall_mem_cons.mp h.items
    exact ⟨hb, hlater, hne, hitems, hbs, hrest⟩
  · rintro ⟨hb, hlater, hne, hitems, hbs⟩
    exact ⟨ordered_cons.mpr ⟨hb, hlater, hbs.ordered⟩,
      List.forall_mem_cons.mpr ⟨⟨hne, hitems⟩, hbs.items⟩⟩

lemma wellBanded_append : WellBanded (bs ++ cs) ↔
    WellBanded bs ∧ WellBanded cs ∧ ∀ b ∈ bs, ∀ c ∈ cs, b.hi ≤ c.lo := by
  constructor
  · intro h
    obtain ⟨hbs, hcs, hcross⟩ := ordered_append.mp h.ordered
    exact ⟨⟨hbs, fun b hb => h.items b (List.mem_append_left _ hb)⟩,
      ⟨hcs, fun c hc => h.items c (List.mem_append_right _ hc)⟩, hcross⟩
  · rintro ⟨hbs, hcs, hcross⟩
    refine ⟨ordered_append.mpr ⟨hbs.ordered, hcs.ordered, hcross⟩, ?_⟩
    intro b hb
    rw [List.mem_append] at hb
    cases hb with
    | inl hb => exact hbs.items b hb
    | inr hb => exact hcs.items b hb

lemma mem_bandRects {r : Rectangle16} :
    r ∈ bandRects bs ↔ ∃ b ∈ bs, ∃ i ∈ b.val, itemRect b.lo b.hi i = r := by
  simp [bandRects, Band.rects]

/-- The rectangles of the later bands have other tops. -/
lemma WellBanded.top_ne (h : WellBanded (b :: bs)) : ∀ r ∈ bandRects bs, r.top ≠ b.lo := by
  intro r hr
  obtain ⟨c, hc, i, -, rfl⟩ := mem_bandRects.mp hr
  obtain ⟨hb, hlater, -⟩ := wellBanded_cons.mp h
  exact (hb.trans_le (hlater c hc)).ne'

/-- The first rectangle of a list of bands. -/
lemma WellBanded.exists_head (h : WellBanded (b :: bs)) :
    ∃ left right rest, b.rects = ⟨left, b.lo, right, b.hi⟩ :: rest := by
  obtain ⟨-, -, hne, -⟩ := wellBanded_cons.mp h
  obtain ⟨i, items, hval⟩ := List.exists_cons_of_ne_nil hne
  exact ⟨i.lo, i.hi, items.map (itemRect b.lo b.hi), by rw [Band.rects, hval]; rfl⟩

/-! ### The loops over one band -/

section Loops

variable {top bottom : Nat} {items : Items} {rest : List Rectangle16}

lemma takeWhile_eq_nil_of_top (q : Rectangle16 → Bool) (hrest : ∀ r ∈ rest, r.top ≠ top) :
    rest.takeWhile (fun r => r.top == top && q r) = [] := by
  cases rest with
  | nil => rfl
  | cons r rest =>
    have hr : r.top ≠ top := hrest r List.mem_cons_self
    simp [hr]

lemma dropWhile_eq_self_of_top (q : Rectangle16 → Bool) (hrest : ∀ r ∈ rest, r.top ≠ top) :
    rest.dropWhile (fun r => r.top == top && q r) = rest := by
  cases rest with
  | nil => rfl
  | cons r rest =>
    have hr : r.top ≠ top := hrest r List.mem_cons_self
    simp [hr]

lemma takeWhile_band (q : Rectangle16 → Bool) (hrest : ∀ r ∈ rest, r.top ≠ top) :
    (items.map (itemRect top bottom) ++ rest).takeWhile (fun r => r.top == top && q r) =
      (items.takeWhile (fun i => q (itemRect top bottom i))).map (itemRect top bottom) := by
  induction items with
  | nil => exact takeWhile_eq_nil_of_top q hrest
  | cons i items ih =>
    simp only [List.map_cons, List.cons_append, List.takeWhile_cons, itemRect_top,
      beq_self_eq_true, Bool.true_and, ih]
    split <;> simp

lemma dropWhile_band (q : Rectangle16 → Bool) (hrest : ∀ r ∈ rest, r.top ≠ top) :
    (items.map (itemRect top bottom) ++ rest).dropWhile (fun r => r.top == top && q r) =
      (items.dropWhile (fun i => q (itemRect top bottom i))).map (itemRect top bottom) ++ rest := by
  induction items with
  | nil => exact dropWhile_eq_self_of_top q hrest
  | cons i items ih =>
    simp only [List.map_cons, List.cons_append, List.dropWhile_cons, itemRect_top,
      beq_self_eq_true, Bool.true_and, ih]
    split <;> simp

lemma takeWhile_right (hrest : ∀ r ∈ rest, r.top ≠ top) (bottom a : Nat) (items : Items) :
    (items.map (itemRect top bottom) ++ rest).takeWhile
        (fun r => r.top == top && decide (r.right < a)) =
      (items.takeWhile (fun i => decide (i.hi < a))).map (itemRect top bottom) :=
  takeWhile_band _ hrest

lemma dropWhile_right (hrest : ∀ r ∈ rest, r.top ≠ top) (bottom a : Nat) (items : Items) :
    (items.map (itemRect top bottom) ++ rest).dropWhile
        (fun r => r.top == top && decide (r.right < a)) =
      (items.dropWhile (fun i => decide (i.hi < a))).map (itemRect top bottom) ++ rest :=
  dropWhile_band _ hrest

lemma takeWhile_top (hrest : ∀ r ∈ rest, r.top ≠ top) :
    (items.map (itemRect top bottom) ++ rest).takeWhile (fun r => r.top == top) =
      items.map (itemRect top bottom) := by
  have hnil := takeWhile_eq_nil_of_top (fun _ => true) hrest
  simp only [Bool.and_true] at hnil
  rw [List.takeWhile_append_of_pos (by simp), hnil, List.append_nil]

lemma dropWhile_top (hrest : ∀ r ∈ rest, r.top ≠ top) :
    (items.map (itemRect top bottom) ++ rest).dropWhile (fun r => r.top == top) = rest := by
  have hself := dropWhile_eq_self_of_top (fun _ => true) hrest
  simp only [Bool.and_true] at hself
  rw [List.dropWhile_append_of_pos (by simp), hself]

@[simp] lemma map_inBand (newTop newBottom : Nat) :
    (items.map (itemRect top bottom)).map (Rectangle16.inBand newTop newBottom) =
      items.map (itemRect newTop newBottom) := by
  rw [List.map_map]
  rfl

/-- A band is copied with a new top and bottom. -/
lemma copyBand_none (hrest : ∀ r ∈ rest, r.top ≠ top) (newTop newBottom : Nat) :
    region16CopyBandWithUnion top (items.map (itemRect top bottom) ++ rest) newTop newBottom none =
      (items.map (itemRect newTop newBottom), rest) := by
  rw [region16CopyBandWithUnion, takeWhile_top hrest, dropWhile_top hrest, map_inBand]

lemma regionStartOverlap_left (hrest : ∀ r ∈ rest, r.top ≠ top) (u : Rectangle16) :
    (regionStartOverlap top u (items.map (itemRect top bottom) ++ rest)).left =
      mergeStart u.left items := by
  cases items with
  | nil =>
    cases rest with
    | nil => rfl
    | cons r rest =>
      have hr : r.top ≠ top := hrest r List.mem_cons_self
      simp [regionStartOverlap, hr, mergeStart]
  | cons i items =>
    simp only [List.map_cons, List.cons_append, regionStartOverlap, itemRect, true_and, mergeStart]
    split <;> rfl

/-- The new segment and the items after it, read from the array. -/
lemma regionEndOverlap_eq (hrest : ∀ r ∈ rest, r.top ≠ top) (u : Rectangle16) (bottom start : Nat)
    (items : Items) :
    ∃ (stop : Rectangle16) (after : Items),
      regionEndOverlap top u (items.map (itemRect top bottom) ++ rest) =
        (stop, after.map (itemRect top bottom) ++ rest) ∧
      mergeEnd u.right start items = ⟨start, stop.right, ()⟩ :: after := by
  cases items with
  | nil =>
    refine ⟨u, [], ?_, rfl⟩
    cases rest with
    | nil => rfl
    | cons r rest =>
      have hr : r.top ≠ top := hrest r List.mem_cons_self
      simp [regionEndOverlap, hr]
  | cons i items =>
    by_cases hlo : i.lo < u.right
    · refine ⟨itemRect top bottom i, items, ?_, if_pos hlo⟩
      simp only [List.map_cons, List.cons_append, regionEndOverlap, itemRect]
      rw [if_pos ⟨trivial, hlo⟩]
    · refine ⟨u, i :: items, ?_, if_neg hlo⟩
      simp only [List.map_cons, List.cons_append, regionEndOverlap, itemRect]
      rw [if_neg (fun h => hlo h.2)]

/-- A band is copied and `u` is added to its items. -/
lemma copyBand_some (hrest : ∀ r ∈ rest, r.top ≠ top) (newTop newBottom : Nat) (u : Rectangle16) :
    region16CopyBandWithUnion top (items.map (itemRect top bottom) ++ rest) newTop newBottom
        (some u) =
      ((mergeItems u.left u.right items).map (itemRect newTop newBottom), rest) := by
  obtain ⟨stop, after, hregion, hitems⟩ := regionEndOverlap_eq hrest u bottom
    (mergeStart u.left (items.dropWhile (fun i => decide (i.hi < u.left))))
    ((items.dropWhile (fun i => decide (i.hi < u.left))).dropWhile
      (fun i => decide (i.hi < u.right)))
  have hdrop := dropWhile_right hrest bottom u.left items
  have hdrop' := dropWhile_right hrest bottom u.right
    (items.dropWhile (fun i => decide (i.hi < u.left)))
  simp only [region16CopyBandWithUnion, takeWhile_right hrest, hdrop, hdrop', hregion, map_inBand,
    regionStartOverlap_left hrest, takeWhile_top hrest, dropWhile_top hrest, mergeItems, hitems,
    List.map_append, List.map_cons]
  rfl

end Loops

/-! ### Simplifying -/

/-- `band_match` compares the items of two bands. -/
lemma bandMatch_eq {top bottom top' bottom' : Nat} {items items' : Items}
    {rest : List Rectangle16} (hrest : ∀ r ∈ rest, r.top ≠ top') :
    bandMatch top' (items.map (itemRect top bottom)) (items'.map (itemRect top' bottom') ++ rest) =
      decide (items = items') := by
  induction items generalizing items' with
  | nil =>
    cases items' with
    | nil =>
      cases rest with
      | nil => rfl
      | cons r rest =>
        have hr : r.top ≠ top' := hrest r List.mem_cons_self
        simp [bandMatch, hr]
    | cons i items' => simp [bandMatch]
  | cons i items ih =>
    cases items' with
    | nil =>
      cases rest with
      | nil => rfl
      | cons r rest =>
        have hr : r.top ≠ top' := hrest r List.mem_cons_self
        simp [bandMatch, hr]
    | cons j items' =>
      simp only [List.map_cons, List.cons_append, bandMatch, itemRect_top, if_true, ih]
      obtain ⟨lo, hi, -⟩ := i
      obtain ⟨lo', hi', -⟩ := j
      simp only [itemRect, List.cons.injEq, Segment.mk.injEq, and_true]
      by_cases hlo : lo = lo'
      · by_cases hhi : hi = hi'
        · simp [hlo, hhi]
        · simp [hhi]
      · simp [hlo]

lemma WellBanded.takeWhile_rects (h : WellBanded (b :: bs)) :
    (b.rects ++ bandRects bs).takeWhile (fun r => r.top == b.lo) = b.rects :=
  takeWhile_top h.top_ne

lemma WellBanded.dropWhile_rects (h : WellBanded (b :: bs)) :
    (b.rects ++ bandRects bs).dropWhile (fun r => r.top == b.lo) = bandRects bs :=
  dropWhile_top h.top_ne

lemma WellBanded.join (h : WellBanded (b :: c :: bs)) :
    WellBanded ({ b with hi := c.hi } :: bs) := by
  refine ⟨h.ordered.join, List.forall_mem_cons.mpr ⟨h.items b List.mem_cons_self, ?_⟩⟩
  intro d hd
  exact h.items d (List.mem_cons_of_mem _ (List.mem_cons_of_mem _ hd))

/-- The loop of `region16_simplify_bands` joins the bands that touch and have the same items. -/
lemma region16SimplifyLoop_eq {fuel : Nat} (h : WellBanded (b :: bs)) (hfuel : bs.length < fuel) :
    region16SimplifyLoop fuel (bandRects (b :: bs)) = bandRects (coalesceFrom b bs) := by
  induction bs generalizing b fuel with
  | nil =>
    obtain ⟨left, right, rest, hhead⟩ := h.exists_head
    obtain ⟨fuel, rfl⟩ := Nat.exists_eq_succ_of_ne_zero (Nat.ne_zero_of_lt hfuel)
    have hdrop := h.dropWhile_rects
    rw [bandRects_nil, List.append_nil, hhead] at hdrop
    rw [bandRects_cons, bandRects_nil, List.append_nil, hhead, region16SimplifyLoop]
    simp only [hdrop]
    simp [coalesceFrom, hhead]
  | cons c bs ih =>
    obtain ⟨left, right, rest, hhead⟩ := h.exists_head
    obtain ⟨-, hlater, hne, hval, hcs⟩ := wellBanded_cons.mp h
    obtain ⟨left', right', rest', hhead'⟩ := hcs.exists_head
    obtain ⟨fuel, rfl⟩ := Nat.exists_eq_succ_of_ne_zero (Nat.ne_zero_of_lt hfuel)
    have hdrop := h.dropWhile_rects
    have htake := h.takeWhile_rects
    have hmatch : bandMatch c.lo b.rects (bandRects (c :: bs)) = decide (b.val = c.val) :=
      bandMatch_eq hcs.top_ne
    rw [coalesceFrom, bandRects_cons, hhead, List.cons_append, region16SimplifyLoop,
      ← List.cons_append, ← hhead]
    simp only [hdrop, htake]
    rw [bandRects_cons, hhead', List.cons_append] at hmatch ⊢
    simp only [hmatch, decide_eq_true_eq]
    have hfuel' : bs.length < fuel := by simpa using hfuel
    split
    · rename_i hjoin
      -- the second band is as long as the first, and it is dropped
      have hdropped : (c.rects ++ bandRects bs).drop b.rects.length = bandRects bs := by
        have hlength : b.rects.length = c.rects.length := by
          rw [Band.rects, Band.rects, List.length_map, List.length_map, hjoin.2]
        rw [hlength, List.drop_left]
      have hband : b.rects.map (fun r => { r with bottom := c.hi }) =
          Band.rects { b with hi := c.hi } := by
        rw [Band.rects, Band.rects, List.map_map]
        rfl
      rw [← List.cons_append, ← hhead', hdropped, hband, ← bandRects_cons]
      exact ih h.join hfuel'
    · rw [← List.cons_append, ← hhead', ← bandRects_cons, ih hcs hfuel', bandRects_cons]

end FreeRdp
