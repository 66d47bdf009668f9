import FreeRdp.Winpr.Crt

/-!
# Clipping

`gdi_ClipCoords` with the conversions between regions, which have an origin and a size, and
rectangles, whose right and bottom edges belong to them. Coordinates are `INT32` values. The
conversions log what they reject, and their return values are not used here.
-/

namespace FreeRdp

/-- `GDI_RECT`. -/
structure GdiRect where
  left : Int
  top : Int
  right : Int
  bottom : Int
  deriving DecidableEq, Repr

/-- `GDI_RGN`. -/
structure GdiRgn where
  x : Int
  y : Int
  w : Int
  h : Int
  null : Bool
  deriving DecidableEq, Repr

/-- The size of a `GDI_BITMAP`. -/
structure GdiBitmap where
  width : Int
  height : Int
  deriving DecidableEq, Repr

/-- The clip region and the selected object of a device context. -/
structure GdiDC where
  clip : GdiRgn
  selectedObject : Option GdiBitmap
  deriving DecidableEq, Repr

/-- `gdi_CRgnToRect`, which computes the edges as `INT64` values. -/
def gdiCRgnToRect (x y w h : Int) : GdiRect :=
  let r := x + w - 1
  let b := y + h - 1
  let left := if 0 < x then toInt32 x else 0
  let top := if 0 < y then toInt32 y else 0
  { left := left
    top := top
    right := if 0 < r then toInt32 r else left
    bottom := if 0 < b then toInt32 b else top }

/-- `gdi_RgnToRect`. -/
def gdiRgnToRect (rgn : GdiRgn) : GdiRect :=
  let r := toInt32 (rgn.x + rgn.w) - 1
  let b := toInt32 (rgn.y + rgn.h) - 1
  let invalid := r < -2 ^ 31 ∨ 2 ^ 31 ≤ r ∨ b < -2 ^ 31 ∨ 2 ^ 31 ≤ b
  { left := rgn.x
    top := rgn.y
    right := if invalid then rgn.x else r
    bottom := if invalid then rgn.y else b }

/-- The width of `gdi_RectToCRgn` between two edges, or the height. -/
def gdiExtent (first last : Int) : Int :=
  let tmp := toInt32 (toInt32 (last - first) + 1)
  if tmp < 0 ∨ (INT32_MAX : Int) < tmp then 0 else tmp

/-- `gdi_RectToCRgn`. -/
def gdiRectToCRgn (rect : GdiRect) : Int × Int × Int × Int :=
  (rect.left, rect.top, gdiExtent rect.left rect.right, gdiExtent rect.top rect.bottom)

/-- The rectangle that `gdi_ClipCoords` clips to. -/
def gdiClipRect (hdc : GdiDC) : GdiRect :=
  match hdc.selectedObject with
  | some hBmp =>
    if hdc.clip.null then gdiCRgnToRect 0 0 hBmp.width hBmp.height
    else
      let clip := gdiRgnToRect hdc.clip
      let bmp := gdiCRgnToRect 0 0 hBmp.width hBmp.height
      { left := if clip.left < bmp.left then bmp.left else clip.left
        top := if clip.top < bmp.top then bmp.top else clip.top
        right := if bmp.right < clip.right then bmp.right else clip.right
        bottom := if bmp.bottom < clip.bottom then bmp.bottom else clip.bottom }
  | none => gdiRgnToRect hdc.clip

/-- What is in the arguments of `gdi_ClipCoords` behind their pointers; the last two may be
`NULL`. -/
structure ClipCoords where
  x : Int
  y : Int
  w : Int
  h : Int
  srcx : Option Int
  srcy : Option Int
  deriving DecidableEq, Repr

/-- `gdi_ClipCoords`: whether there is something to draw, and the arguments after the call. -/
def gdiClipCoords (hdc : Option GdiDC) (args : ClipCoords) : Bool × ClipCoords :=
  match hdc with
  | none => (false, args)
  | some hdc =>
    let clip := gdiClipRect hdc
    let coords := gdiCRgnToRect args.x args.y args.w args.h
    if clip.left ≤ coords.right ∧ coords.left ≤ clip.right ∧ clip.top ≤ coords.bottom ∧
        coords.top ≤ clip.bottom then
      let dx := if coords.left < clip.left then clip.left - coords.left else 0
      let dy := if coords.top < clip.top then clip.top - coords.top else 0
      let (x, y, w, h) := gdiRectToCRgn
        { left := if coords.left < clip.left then clip.left else coords.left
          top := if coords.top < clip.top then clip.top else coords.top
          right := if clip.right < coords.right then clip.right else coords.right
          bottom := if clip.bottom < coords.bottom then clip.bottom else coords.bottom }
      (true, { x, y, w, h
               srcx := args.srcx.map (fun srcx => toInt32 (srcx + toInt32 dx))
               srcy := args.srcy.map (fun srcy => toInt32 (srcy + toInt32 dy)) })
    else
      let (x, y, w, h) := gdiRectToCRgn ⟨0, 0, 0, 0⟩
      (false, { args with x, y, w, h })

/-! ### The pixels that are meant -/

/-- The pixels of a region. -/
def regionPixels (x y w h : Int) : Set (Int × Int) :=
  {p | (x ≤ p.1 ∧ p.1 < x + w) ∧ y ≤ p.2 ∧ p.2 < y + h}

/-- The pixels of the clip region; a null region does not clip. -/
def clipPixels (clip : GdiRgn) : Set (Int × Int) :=
  if clip.null then Set.univ else regionPixels clip.x clip.y clip.w clip.h

/-- The pixels of the drawing rectangle in the clip region and in the bitmap. -/
def shownPixels (hBmp : GdiBitmap) (clip : GdiRgn) (args : ClipCoords) : Set (Int × Int) :=
  regionPixels args.x args.y args.w args.h ∩
    (clipPixels clip ∩ regionPixels 0 0 hBmp.width hBmp.height)

/-- Clipping is intersection, and the source moves with the destination. -/
def ClipExact (hBmp : GdiBitmap) (clip : GdiRgn) (args : ClipCoords) : Prop :=
  let result := (gdiClipCoords (some ⟨clip, some hBmp⟩) args).2
  ((gdiClipCoords (some ⟨clip, some hBmp⟩) args).1 = true ↔
      (shownPixels hBmp clip args).Nonempty) ∧
    regionPixels result.x result.y result.w result.h = shownPixels hBmp clip args ∧
    (∀ old ∈ args.srcx, ∀ new ∈ result.srcx, new - old = result.x - args.x) ∧
    ∀ old ∈ args.srcy, ∀ new ∈ result.srcy, new - old = result.y - args.y

/-- The number is an `INT32`. -/
def IsInt32 (i : Int) : Prop := -2 ^ 31 ≤ i ∧ i < 2 ^ 31

/-- A bitmap that is not empty, a clip region that is null or not empty, and a drawing rectangle. -/
structure ClipInput (hBmp : GdiBitmap) (clip : GdiRgn) (args : ClipCoords) : Prop where
  width : 0 < hBmp.width ∧ hBmp.width < 2 ^ 31
  height : 0 < hBmp.height ∧ hBmp.height < 2 ^ 31
  clipX : clip.null = false → 0 < clip.w ∧ -2 ^ 31 ≤ clip.x ∧ clip.x + clip.w < 2 ^ 31
  clipY : clip.null = false → 0 < clip.h ∧ -2 ^ 31 ≤ clip.y ∧ clip.y + clip.h < 2 ^ 31
  x : IsInt32 args.x
  y : IsInt32 args.y
  w : 0 ≤ args.w ∧ args.w < 2 ^ 31
  h : 0 ≤ args.h ∧ args.h < 2 ^ 31
  srcx : ∀ srcx ∈ args.srcx, IsInt32 srcx
  srcy : ∀ srcy ∈ args.srcy, IsInt32 srcy

/-- The first column, or row, that a clip region leaves in a bitmap. -/
def firstClipped (clip : GdiRgn) (first : Int) : Int := if clip.null then 0 else max first 0

/-- On an axis: the last pixel is an `INT32`, and if there is a source, the rectangle does not begin
before the bitmap and the source stays an `INT32`. -/
def AxisExact (lo x w : Int) (src : Option Int) : Prop :=
  x + w ≤ 2 ^ 31 ∧ ∀ old ∈ src, 0 ≤ x ∧ old + max (lo - x) 0 < 2 ^ 31

/-! ### One axis -/

variable {hBmp : GdiBitmap} {clip : GdiRgn} {args : ClipCoords} {x w lo hi p : Int}

/-- The first edge of `gdi_CRgnToRect` on an axis. -/
def firstEdge (x : Int) : Int := if 0 < x then toInt32 x else 0

/-- The last edge of `gdi_CRgnToRect` on an axis. -/
def lastEdge (x w : Int) : Int := if 0 < x + w - 1 then toInt32 (x + w - 1) else firstEdge x

/-- The first edge after clipping. -/
def clippedFirst (lo x : Int) : Int := if firstEdge x < lo then lo else firstEdge x

/-- The last edge after clipping. -/
def clippedLast (hi x w : Int) : Int := if hi < lastEdge x w then hi else lastEdge x w

/-- How far the first edge moves. -/
def edgeMove (lo x : Int) : Int := if firstEdge x < lo then lo - firstEdge x else 0

lemma firstEdge_eq (hx : IsInt32 x) : firstEdge x = max x 0 := by
  unfold firstEdge
  obtain ⟨hge, hlt⟩ := hx
  split
  · rw [toInt32_of_range hge hlt]
    omega
  · omega

/-- The edges of a rectangle with a pixel in the clip range are those of the intersection. -/
lemma edges_of_shown (hlo : 0 ≤ lo) (hhi : hi < 2 ^ 31) (hx : IsInt32 x) (hw : x + w ≤ 2 ^ 31)
    (hp : x ≤ p ∧ p < x + w) (hclip : lo ≤ p ∧ p ≤ hi) :
    lo ≤ lastEdge x w ∧ firstEdge x ≤ hi ∧ clippedFirst lo x = max x lo ∧
      clippedLast hi x w = min (x + w - 1) hi := by
  have hfirst := firstEdge_eq hx
  have hlast : lastEdge x w = x + w - 1 := by
    unfold lastEdge
    rw [hfirst]
    obtain ⟨hge, hlt⟩ := hx
    split
    · exact toInt32_of_range (by omega) (by omega)
    · omega
  unfold clippedFirst clippedLast
  rw [hfirst, hlast]
  refine ⟨by omega, by omega, ?_, ?_⟩ <;> split <;> omega

/-- The extent of what is left. -/
lemma gdiExtent_eq {first last : Int} (hfirst : 0 ≤ first) (hle : first ≤ last)
    (hlast : last < 2 ^ 31 - 1) : gdiExtent first last = last - first + 1 := by
  unfold gdiExtent
  dsimp only
  have hdiff : toInt32 (last - first) = last - first := toInt32_of_range (by omega) (by omega)
  rw [hdiff, toInt32_of_range (by omega) (by omega), if_neg]
  rw [INT32_MAX]
  omega

/-- A last pixel that is not an `INT32` is taken for one before the bitmap. -/
lemma lastEdge_neg (hx : IsInt32 x) (hw : w < 2 ^ 31) (hwrap : 2 ^ 31 < x + w) :
    lastEdge x w < 0 := by
  unfold lastEdge
  obtain ⟨hge, hlt⟩ := hx
  rw [if_pos (by omega), toInt32_of_ge (by omega) (by omega)]
  omega

/-- The source follows the first edge, if that was not before the bitmap. -/
lemma src_moves_iff {src : Int} (hlo : 0 ≤ lo) (hlt : lo < 2 ^ 31) (hx : IsInt32 x)
    (hsrc : IsInt32 src) :
    toInt32 (src + toInt32 (edgeMove lo x)) - src = max x lo - x ↔
      0 ≤ x ∧ src + max (lo - x) 0 < 2 ^ 31 := by
  have hmove : edgeMove lo x = max (lo - max x 0) 0 := by
    unfold edgeMove
    rw [firstEdge_eq hx]
    split <;> omega
  obtain ⟨hge, hsrclt⟩ := hsrc
  have hinner : toInt32 (max (lo - max x 0) 0) = max (lo - max x 0) 0 :=
    toInt32_of_range (by omega) (by omega)
  rw [hmove, hinner]
  by_cases hfits : src + max (lo - max x 0) 0 < 2 ^ 31
  · rw [toInt32_of_range (by omega) hfits]
    omega
  · rw [toInt32_of_ge (by omega) (by omega)]
    omega

/-! ### Both axes -/

/-- The clip rectangle inside of the bitmap. -/
structure ClipRectIn (hBmp : GdiBitmap) (clip : GdiRgn) (rect : GdiRect) : Prop where
  left : rect.left = firstClipped clip clip.x
  top : rect.top = firstClipped clip clip.y
  left_nonneg : 0 ≤ rect.left
  top_nonneg : 0 ≤ rect.top
  right : rect.right < 2 ^ 31 - 1
  bottom : rect.bottom < 2 ^ 31 - 1
  pixels : ∀ p : Int × Int, p ∈ clipPixels clip ∩ regionPixels 0 0 hBmp.width hBmp.height ↔
    (rect.left ≤ p.1 ∧ p.1 ≤ rect.right) ∧ rect.top ≤ p.2 ∧ p.2 ≤ rect.bottom

lemma gdiClipRect_in (h : ClipInput hBmp clip args) :
    ClipRectIn hBmp clip (gdiClipRect ⟨clip, some hBmp⟩) := by
  obtain ⟨hwpos, hwlt⟩ := h.width
  obtain ⟨hhpos, hhlt⟩ := h.height
  have hright : (if 0 < (0 : Int) + hBmp.width - 1 then toInt32 (0 + hBmp.width - 1) else
      (if 0 < (0 : Int) then toInt32 0 else 0)) = hBmp.width - 1 := by
    split
    · exact (toInt32_of_range (by omega) (by omega)).trans (by omega)
    · rw [if_neg (by omega)]
      omega
  have hbottom : (if 0 < (0 : Int) + hBmp.height - 1 then toInt32 (0 + hBmp.height - 1) else
      (if 0 < (0 : Int) then toInt32 0 else 0)) = hBmp.height - 1 := by
    split
    · exact (toInt32_of_range (by omega) (by omega)).trans (by omega)
    · rw [if_neg (by omega)]
      omega
  have hbmp : gdiCRgnToRect 0 0 hBmp.width hBmp.height =
      ⟨0, 0, hBmp.width - 1, hBmp.height - 1⟩ := by
    simp only [gdiCRgnToRect, hright, hbottom]
    rfl
  unfold gdiClipRect
  dsimp only
  rw [hbmp]
  cases hnull : clip.null with
  | true =>
    refine ⟨?_, ?_, le_rfl, le_rfl, ?_, ?_, fun p => ?_⟩
    · rw [firstClipped, hnull]
      rfl
    · rw [firstClipped, hnull]
      rfl
    · show hBmp.width - 1 < 2 ^ 31 - 1
      omega
    · show hBmp.height - 1 < 2 ^ 31 - 1
      omega
    · show p ∈ clipPixels clip ∩ regionPixels 0 0 hBmp.width hBmp.height ↔
        (0 ≤ p.1 ∧ p.1 ≤ hBmp.width - 1) ∧ 0 ≤ p.2 ∧ p.2 ≤ hBmp.height - 1
      rw [clipPixels, hnull, if_pos rfl, Set.univ_inter]
      simp only [regionPixels, Set.mem_ofPred_eq]
      omega
  | false =>
    obtain ⟨hcw, hcx, hcr⟩ := h.clipX hnull
    obtain ⟨hch, hcy, hcb⟩ := h.clipY hnull
    have hrect : gdiRgnToRect clip =
        ⟨clip.x, clip.y, clip.x + clip.w - 1, clip.y + clip.h - 1⟩ := by
      unfold gdiRgnToRect
      rw [toInt32_of_range (by omega) hcr, toInt32_of_range (by omega) hcb]
      dsimp only
      rw [if_neg (by omega), if_neg (by omega)]
    rw [if_neg (by decide), hrect]
    refine ⟨?_, ?_, ?_, ?_, ?_, ?_, fun p => ?_⟩
    · rw [firstClipped, hnull]
      show (if clip.x < 0 then 0 else clip.x) = max clip.x 0
      split <;> omega
    · rw [firstClipped, hnull]
      show (if clip.y < 0 then 0 else clip.y) = max clip.y 0
      split <;> omega
    · show 0 ≤ if clip.x < 0 then 0 else clip.x
      split <;> omega
    · show 0 ≤ if clip.y < 0 then 0 else clip.y
      split <;> omega
    · show (if hBmp.width - 1 < clip.x + clip.w - 1 then hBmp.width - 1 else
        clip.x + clip.w - 1) < 2 ^ 31 - 1
      split <;> omega
    · show (if hBmp.height - 1 < clip.y + clip.h - 1 then hBmp.height - 1 else
        clip.y + clip.h - 1) < 2 ^ 31 - 1
      split <;> omega
    · rw [clipPixels, hnull, if_neg (by decide)]
      simp only [regionPixels, Set.mem_inter_iff, Set.mem_ofPred_eq]
      split_ifs <;> omega

/-- The call, by its edges on both axes. -/
lemma gdiClipCoords_eq {rect : GdiRect} (hrect : gdiClipRect ⟨clip, some hBmp⟩ = rect) :
    gdiClipCoords (some ⟨clip, some hBmp⟩) args =
      if rect.left ≤ lastEdge args.x args.w ∧ firstEdge args.x ≤ rect.right ∧
          rect.top ≤ lastEdge args.y args.h ∧ firstEdge args.y ≤ rect.bottom then
        (true, ⟨clippedFirst rect.left args.x, clippedFirst rect.top args.y,
          gdiExtent (clippedFirst rect.left args.x) (clippedLast rect.right args.x args.w),
          gdiExtent (clippedFirst rect.top args.y) (clippedLast rect.bottom args.y args.h),
          args.srcx.map (fun srcx => toInt32 (srcx + toInt32 (edgeMove rect.left args.x))),
          args.srcy.map (fun srcy => toInt32 (srcy + toInt32 (edgeMove rect.top args.y)))⟩)
      else (false, { args with x := 0, y := 0, w := 1, h := 1 }) := by
  rw [gdiClipCoords, hrect]
  rfl

/-- Where nothing is shown, the result is not empty. -/
lemma not_clipExact_of_empty (hempty : shownPixels hBmp clip args = ∅) :
    ¬ClipExact hBmp clip args := by
  unfold ClipExact
  rw [gdiClipCoords_eq rfl, hempty]
  split
  · rintro ⟨hdraw, -⟩
    exact Set.not_nonempty_empty (hdraw.mp rfl)
  · rintro ⟨-, hpixels, -⟩
    have hzero : ((0, 0) : Int × Int) ∈ regionPixels 0 0 1 1 :=
      ⟨⟨le_rfl, by decide⟩, le_rfl, by decide⟩
    rw [hpixels] at hzero
    exact hzero

/-- The source of an axis follows the first edge. -/
lemma src_map_iff {src : Option Int} (hlo : 0 ≤ lo) (hlt : lo < 2 ^ 31) (hx : IsInt32 x)
    (hsrc : ∀ old ∈ src, IsInt32 old) :
    (∀ old ∈ src, ∀ new ∈ src.map (fun old => toInt32 (old + toInt32 (edgeMove lo x))),
      new - old = max x lo - x) ↔ ∀ old ∈ src, 0 ≤ x ∧ old + max (lo - x) 0 < 2 ^ 31 := by
  cases src with
  | none => simp
  | some old => simpa using src_moves_iff hlo hlt hx (hsrc old rfl)

/-- **Clipping.** It is the intersection, and the source moves with the destination, exactly when
the intersection has a pixel, the last pixels of the rectangle are `INT32` values, and no source is
lost before the bitmap. -/
theorem clipExact_iff (h : ClipInput hBmp clip args) :
    ClipExact hBmp clip args ↔ (shownPixels hBmp clip args).Nonempty ∧
      AxisExact (firstClipped clip clip.x) args.x args.w args.srcx ∧
      AxisExact (firstClipped clip clip.y) args.y args.h args.srcy := by
  rcases Set.eq_empty_or_nonempty (shownPixels hBmp clip args) with hempty | hne
  · refine iff_of_false (not_clipExact_of_empty hempty) ?_
    rintro ⟨hne, -⟩
    exact hne.ne_empty hempty
  obtain ⟨rect, hrect⟩ : ∃ rect, gdiClipRect ⟨clip, some hBmp⟩ = rect := ⟨_, rfl⟩
  have hin := gdiClipRect_in h
  rw [hrect] at hin
  obtain ⟨p, hp, hpclip⟩ := id hne
  obtain ⟨⟨hpl, hpr⟩, hpt, hpb⟩ := (hin.pixels p).mp hpclip
  have hleft : rect.left < 2 ^ 31 := (hpl.trans hpr).trans_lt (by have := hin.right; omega)
  have htop : rect.top < 2 ^ 31 := (hpt.trans hpb).trans_lt (by have := hin.bottom; omega)
  simp only [hne, true_and, AxisExact, ← hin.left, ← hin.top]
  rw [← src_map_iff hin.left_nonneg hleft h.x h.srcx, ← src_map_iff hin.top_nonneg htop h.y h.srcy]
  rw [ClipExact, gdiClipCoords_eq hrect]
  by_cases hwrap : args.x + args.w ≤ 2 ^ 31 ∧ args.y + args.h ≤ 2 ^ 31
  · obtain ⟨hw, hh⟩ := hwrap
    obtain ⟨hl, hr, hfirst, hlast⟩ := edges_of_shown hin.left_nonneg
      (hin.right.trans (by decide)) h.x hw hp.1 ⟨hpl, hpr⟩
    obtain ⟨ht, hb, hfirst', hlast'⟩ := edges_of_shown hin.top_nonneg
      (hin.bottom.trans (by decide)) h.y hh hp.2 ⟨hpt, hpb⟩
    rw [if_pos ⟨hl, hr, ht, hb⟩, hfirst, hlast, hfirst', hlast']
    have hpixels : regionPixels (max args.x rect.left) (max args.y rect.top)
        (gdiExtent (max args.x rect.left) (min (args.x + args.w - 1) rect.right))
        (gdiExtent (max args.y rect.top) (min (args.y + args.h - 1) rect.bottom)) =
        shownPixels hBmp clip args := by
      obtain ⟨hpx, hpx'⟩ := hp.1
      obtain ⟨hpy, hpy'⟩ := hp.2
      have hright := hin.right
      have hbottom := hin.bottom
      have hleftNonneg := hin.left_nonneg
      have htopNonneg := hin.top_nonneg
      rw [gdiExtent_eq (by omega) (by omega) (by omega),
        gdiExtent_eq (by omega) (by omega) (by omega)]
      ext q
      rw [shownPixels, Set.mem_inter_iff, hin.pixels q]
      simp only [regionPixels, Set.mem_ofPred_eq]
      omega
    simp only [hpixels, hne, hw, hh, true_and, iff_self]
  · -- An edge that wraps around is before the clip rectangle.
    have hapart : ¬(rect.left ≤ lastEdge args.x args.w ∧ firstEdge args.x ≤ rect.right ∧
        rect.top ≤ lastEdge args.y args.h ∧ firstEdge args.y ≤ rect.bottom) := by
      rintro ⟨hl, -, ht, -⟩
      rw [not_and_or] at hwrap
      rcases hwrap with hwrap | hwrap
      · have hneg := lastEdge_neg h.x h.w.2 (not_le.mp hwrap)
        exact absurd (hin.left_nonneg.trans hl) (not_le.mpr hneg)
      · have hneg := lastEdge_neg h.y h.h.2 (not_le.mp hwrap)
        exact absurd (hin.top_nonneg.trans ht) (not_le.mpr hneg)
    rw [if_neg hapart]
    refine iff_of_false ?_ ?_
    · rintro ⟨hdraw, -⟩
      exact Bool.false_ne_true (hdraw.mpr hne)
    · rintro ⟨⟨hw, -⟩, hh, -⟩
      exact hwrap ⟨hw, hh⟩

/-- A bitmap of ten pixels by ten, not clipped. -/
def tenByTen : GdiBitmap := ⟨10, 10⟩

/-- A rectangle that begins before the bitmap draws its first source pixel at the first column. -/
theorem not_clipExact :
    ¬ClipExact tenByTen ⟨0, 0, 0, 0, true⟩ ⟨-2, 0, 5, 5, some 0, some 0⟩ := by
  rintro ⟨-, -, hsrc, -⟩
  exact absurd (hsrc 0 rfl 0 rfl) (by decide)

/-- A rectangle that ends behind the bitmap. -/
theorem clipExact_iff_test :
    ClipExact tenByTen ⟨0, 0, 0, 0, true⟩ ⟨8, 0, 5, 5, some 0, some 0⟩ ↔
      (shownPixels tenByTen ⟨0, 0, 0, 0, true⟩ ⟨8, 0, 5, 5, some 0, some 0⟩).Nonempty ∧
      AxisExact (firstClipped ⟨0, 0, 0, 0, true⟩ 0) 8 5 (some 0) ∧
      AxisExact (firstClipped ⟨0, 0, 0, 0, true⟩ 0) 0 5 (some 0) :=
  clipExact_iff
    { width := by decide
      height := by decide
      clipX := nofun
      clipY := nofun
      x := ⟨by decide, by decide⟩
      y := ⟨by decide, by decide⟩
      w := by decide
      h := by decide
      srcx := fun _ hsrc => Option.some.inj hsrc ▸ ⟨by decide, by decide⟩
      srcy := fun _ hsrc => Option.some.inj hsrc ▸ ⟨by decide, by decide⟩ }

end FreeRdp
