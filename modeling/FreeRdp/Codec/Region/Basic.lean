import Mathlib.Tactic

/-!
# Regions

`region.c`: a region is an array of rectangles in bands, with the smallest rectangle around them.
The functions work on the array from the front, so it is a list here, and a pointer into it is the
rest of the list. The loops over the bands take one band at each turn; they are given the number
of rectangles as fuel, which is always enough.

Whether the allocations of a call succeed is an argument. A call that fails may leave no data.
-/

namespace FreeRdp

/-- `RECTANGLE_16`. -/
structure Rectangle16 where
  left : Nat
  top : Nat
  right : Nat
  bottom : Nat
  deriving DecidableEq, Repr

/-- `REGION16_DATA` with the rectangles behind it, and their number. -/
structure Region16Data where
  size : Nat
  rects : List Rectangle16
  deriving DecidableEq, Repr

/-- `empty_region`. -/
def emptyRegion : Region16Data := ⟨0, []⟩

/-- `REGION16`; a `NULL` pointer is `none`. -/
structure Region16 where
  extents : Rectangle16
  data : Option Region16Data
  deriving DecidableEq, Repr

/-- Which allocations of a call succeed: the first one, that of the new size, and that of
`region16_simplify_bands`. -/
structure RegionMemory where
  malloc : Bool
  realloc : Bool
  simplify : Bool
  deriving DecidableEq, Repr

/-- `region16_init`. -/
def region16Init : Region16 := ⟨⟨0, 0, 0, 0⟩, some emptyRegion⟩

/-- `region16_clear`. -/
def region16Clear : Region16 := ⟨⟨0, 0, 0, 0⟩, some emptyRegion⟩

/-- The size of the data with `n` rectangles. -/
def regionSize (n : Nat) : Nat := 16 + n * 8

/-- `region16_rects`. -/
def Region16.rects (region : Region16) : List Rectangle16 :=
  match region.data with
  | none => []
  | some data => data.rects

/-- `rectangle_is_empty`. -/
def rectangleIsEmpty (rect : Rectangle16) : Bool :=
  rect.left == rect.right || rect.top == rect.bottom

/-- `rectangles_intersection`: `none` where it returns `FALSE`. -/
def rectanglesIntersection (r1 r2 : Rectangle16) : Option Rectangle16 :=
  let dst : Rectangle16 := ⟨max r1.left r2.left, max r1.top r2.top, min r1.right r2.right,
    min r1.bottom r2.bottom⟩
  if dst.left < dst.right ∧ dst.top < dst.bottom then some dst else none

/-- `rectangles_intersects`. -/
def rectanglesIntersects (r1 r2 : Rectangle16) : Bool := (rectanglesIntersection r1 r2).isSome

/-! ### Bands -/

/-- The rectangle as an item of a band from `newTop` to `newBottom`. -/
def Rectangle16.inBand (newTop newBottom : Nat) (r : Rectangle16) : Rectangle16 :=
  { r with top := newTop, bottom := newBottom }

/-- `startOverlap` of `region16_copy_band_with_union`, at the first item that is not before
`unionRect`. -/
def regionStartOverlap (refY : Nat) (unionRect : Rectangle16) : List Rectangle16 → Rectangle16
  | src :: _ => if src.top = refY ∧ src.left < unionRect.left then src else unionRect
  | [] => unionRect

/-- `endOverlap` and the rest of the array, at the first item that does not end inside
`unionRect`. -/
def regionEndOverlap (refY : Nat) (unionRect : Rectangle16) :
    List Rectangle16 → Rectangle16 × List Rectangle16
  | src :: rest =>
    if src.top = refY ∧ src.left < unionRect.right then (src, rest) else (unionRect, src :: rest)
  | [] => (unionRect, [])

/-- `region16_copy_band_with_union` for the band with top `refY` at the front of `src`: the new
items and the rest of the array. -/
def region16CopyBandWithUnion (refY : Nat) (src : List Rectangle16) (newTop newBottom : Nat)
    (unionRect : Option Rectangle16) : List Rectangle16 × List Rectangle16 :=
  match unionRect with
  | none =>
    ((src.takeWhile (fun r => r.top == refY)).map (Rectangle16.inBand newTop newBottom),
      src.dropWhile (fun r => r.top == refY))
  | some u =>
    -- items before unionRect
    let before := src.takeWhile (fun r => r.top == refY && decide (r.right < u.left))
    let src := src.dropWhile (fun r => r.top == refY && decide (r.right < u.left))
    -- items overlapping with unionRect
    let startOverlap := regionStartOverlap refY u src
    let (endOverlap, src) := regionEndOverlap refY u
      (src.dropWhile (fun r => r.top == refY && decide (r.right < u.right)))
    -- remaining items on the same band
    let after := src.takeWhile (fun r => r.top == refY)
    (before.map (Rectangle16.inBand newTop newBottom) ++
        ⟨startOverlap.left, newTop, endOverlap.right, newBottom⟩ ::
          after.map (Rectangle16.inBand newTop newBottom),
      src.dropWhile (fun r => r.top == refY))

/-- The loop of `rectangle_contained_in_band`. -/
def rectangleContainedLoop (refY : Nat) (rect : Rectangle16) : List Rectangle16 → Bool
  | [] => false
  | r :: rest =>
    if r.top = refY ∧ r.left ≤ rect.left then
      if rect.right ≤ r.right then true else rectangleContainedLoop refY rect rest
    else false

/-- `rectangle_contained_in_band` for the band that starts with `band`. -/
def rectangleContainedInBand (band : Rectangle16) (src : List Rectangle16) (rect : Rectangle16) :
    Bool :=
  if band.top > rect.top ∨ rect.bottom > band.bottom then false
  else rectangleContainedLoop band.top rect src

/-- `band_match` for the items of the first band and the array from the second band on. -/
def bandMatch (refBand2 : Nat) : List Rectangle16 → List Rectangle16 → Bool
  | [], [] => true
  | [], r2 :: _ => r2.top != refBand2
  | _ :: _, [] => false
  | r1 :: band1, r2 :: band2 =>
    if r2.top = refBand2 then
      if r1.left ≠ r2.left ∨ r1.right ≠ r2.right then false else bandMatch refBand2 band1 band2
    else false

/-- The loop of `region16_simplify_bands` from a band on. What it has passed stays as it is. -/
def region16SimplifyLoop : Nat → List Rectangle16 → List Rectangle16
  | 0, rects => rects
  | _, [] => []
  | fuel + 1, r1 :: rects =>
    let band1 := (r1 :: rects).takeWhile (fun r => r.top == r1.top)
    match (r1 :: rects).dropWhile (fun r => r.top == r1.top) with
    | [] => r1 :: rects
    | r2 :: rest =>
      if r1.bottom = r2.top ∧ bandMatch r2.top band1 (r2 :: rest) = true then
        region16SimplifyLoop fuel
          (band1.map (fun r => { r with bottom := r2.bottom }) ++ (r2 :: rest).drop band1.length)
      else band1 ++ region16SimplifyLoop fuel (r2 :: rest)

/-- `region16_simplify_bands` of the data `size`, `rects`. -/
def region16SimplifyBands (realloc : Bool) (extents : Rectangle16) (size : Nat)
    (rects : List Rectangle16) : Bool × Region16 :=
  if rects.length < 2 then (true, ⟨extents, some ⟨size, rects⟩⟩)
  else
    let final := region16SimplifyLoop rects.length rects
    if final.length ≠ rects.length then
      if realloc then (true, ⟨extents, some ⟨regionSize final.length, final⟩⟩)
      else (false, ⟨extents, some emptyRegion⟩)
    else (true, ⟨extents, some ⟨size, final⟩⟩)

/-! ### Union -/

/-- One turn of the loop of `region16_union_rect`, for the band that starts with `currentBand`: the
items written, the next band, and the top of a piece between this band and the next. -/
def region16UnionBand (rect currentBand : Rectangle16) (src : List Rectangle16) :
    List Rectangle16 × List Rectangle16 × Nat :=
  if currentBand.bottom ≤ rect.top ∨ rect.bottom ≤ currentBand.top ∨
      rectangleContainedInBand currentBand src rect = true then
    let (items, nextBand) := region16CopyBandWithUnion currentBand.top src currentBand.top
      currentBand.bottom none
    (items, nextBand, rect.top)
  else
    -- the top split
    let topItems := if rect.top > currentBand.top then
      (region16CopyBandWithUnion currentBand.top src currentBand.top rect.top none).1 else []
    let mergeTop := if rect.top > currentBand.top then rect.top else currentBand.top
    let mergeBottom := if rect.bottom < currentBand.bottom then rect.bottom
      else currentBand.bottom
    -- the merge zone
    let (mergeItems, nextBand) := region16CopyBandWithUnion currentBand.top src mergeTop mergeBottom
      (some rect)
    -- the bottom split
    let (bottomItems, nextBand) := if rect.bottom < currentBand.bottom then
      region16CopyBandWithUnion currentBand.top src mergeBottom currentBand.bottom none
      else ([], nextBand)
    (topItems ++ mergeItems ++ bottomItems, nextBand, currentBand.bottom)

/-- The piece of `rect` between a band and the next one. -/
def region16InterBand (rect currentBand : Rectangle16) (topInterBand : Nat) :
    List Rectangle16 → List Rectangle16
  | [] => []
  | nextBand :: _ =>
    if nextBand.top ≠ currentBand.bottom ∧ rect.bottom > currentBand.bottom ∧
        rect.top < nextBand.top then
      [⟨rect.left, topInterBand, rect.right, min nextBand.top rect.bottom⟩]
    else []

/-- The loop of `region16_union_rect` over the bands of the source. -/
def region16UnionLoop (rect : Rectangle16) : Nat → List Rectangle16 → List Rectangle16
  | 0, _ => []
  | _, [] => []
  | fuel + 1, currentBand :: rects =>
    let (items, nextBand, topInterBand) := region16UnionBand rect currentBand (currentBand :: rects)
    items ++ region16InterBand rect currentBand topInterBand nextBand ++
      region16UnionLoop rect fuel nextBand

/-- The items `region16_union_rect` writes, before the bands are simplified. -/
def region16UnionItems (srcExtents : Rectangle16) (rects : List Rectangle16) (rect : Rectangle16) :
    List Rectangle16 :=
  (if rect.top < srcExtents.top then
    [⟨rect.left, rect.top, rect.right, min srcExtents.top rect.bottom⟩] else []) ++
  region16UnionLoop rect rects.length rects ++
  (if srcExtents.bottom < rect.bottom then
    [⟨rect.left, max srcExtents.bottom rect.top, rect.right, rect.bottom⟩] else [])

/-- `region16_union_rect`: the result and the new `dst`. The source must have data. -/
def region16UnionRect (memory : RegionMemory) (dst src : Region16) (rect : Rectangle16) :
    Bool × Region16 :=
  match src.data with
  | none => (false, dst)
  | some ⟨_, []⟩ =>
    if memory.malloc then (true, ⟨rect, some ⟨regionSize 1, [rect]⟩⟩)
    else (false, ⟨rect, none⟩)
  | some ⟨_, rects⟩ =>
    if memory.malloc then
      let newItems := region16UnionItems src.extents rects rect
      let extents : Rectangle16 := ⟨min rect.left src.extents.left, min rect.top src.extents.top,
        max rect.right src.extents.right, max rect.bottom src.extents.bottom⟩
      if memory.realloc then
        region16SimplifyBands memory.simplify extents (regionSize newItems.length) newItems
      else (false, ⟨extents, none⟩)
    else (false, dst)

/-! ### Intersection and copy -/

/-- The new extents of `region16_intersect_rect` with one more rectangle. -/
def region16GrowExtents (newExtents common : Rectangle16) : Rectangle16 :=
  if rectangleIsEmpty newExtents then common
  else
    ⟨min common.left newExtents.left, min common.top newExtents.top,
      max common.right newExtents.right, max common.bottom newExtents.bottom⟩

/-- The loop of `region16_intersect_rect`. -/
def region16IntersectLoop (rect : Rectangle16) :
    List Rectangle16 → List Rectangle16 × Rectangle16 → List Rectangle16 × Rectangle16
  | [], acc => acc
  | r :: rects, (items, newExtents) =>
    if rect.bottom > r.top then
      match rectanglesIntersection r rect with
      | some common =>
        region16IntersectLoop rect rects (items ++ [common], region16GrowExtents newExtents common)
      | none => region16IntersectLoop rect rects (items, newExtents)
    else (items, newExtents)

/-- `region16_intersect_rect`. The source must have data. -/
def region16IntersectRect (memory : RegionMemory) (dst src : Region16) (rect : Rectangle16) :
    Bool × Region16 :=
  match src.data with
  | none => (false, dst)
  | some ⟨_, []⟩ => (true, region16Clear)
  | some ⟨_, [_]⟩ =>
    match rectanglesIntersection src.extents rect with
    | some common => region16UnionRect memory region16Clear region16Clear common
    | none => (true, region16Clear)
  | some ⟨_, rects⟩ =>
    if memory.malloc then
      let (newItems, newExtents) := region16IntersectLoop rect rects ([], ⟨0, 0, 0, 0⟩)
      if memory.realloc then
        region16SimplifyBands memory.simplify newExtents (regionSize newItems.length) newItems
      else (false, { dst with data := none })
    else (false, dst)

/-- The loop of `region16_intersects_rect`. -/
def region16IntersectsLoop (arg2 : Rectangle16) : List Rectangle16 → Bool
  | [] => false
  | rect :: rects =>
    if arg2.bottom > rect.top then
      if rectanglesIntersects rect arg2 then true else region16IntersectsLoop arg2 rects
    else false

/-- `region16_intersects_rect`. -/
def region16IntersectsRect (src : Region16) (arg2 : Rectangle16) : Bool :=
  match src.data with
  | none => false
  | some ⟨_, []⟩ => false
  | some ⟨_, [_]⟩ => rectanglesIntersects src.extents arg2
  | some ⟨_, rects⟩ =>
    if !rectanglesIntersects src.extents arg2 then false else region16IntersectsLoop arg2 rects

/-- `region16_copy` between two different regions. The source must have data. -/
def region16Copy (memory : RegionMemory) (dst src : Region16) : Bool × Region16 :=
  match src.data with
  | none => (false, dst)
  | some data =>
    if data.size = 0 then (true, ⟨src.extents, some emptyRegion⟩)
    else if memory.malloc then (true, ⟨src.extents, some data⟩)
    else (false, ⟨src.extents, none⟩)

end FreeRdp
