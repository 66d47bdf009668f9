import FreeRdp.Library.Runs
import FreeRdp.Codec.Clear.Steady

/-!
# Where ClearCodec draws

What a message asks to draw can be read off it without a context: the bands and the rectangles of
the subcodecs, and whether the whole area is drawn. Only the copies that go through `convert_color`
and the RLEX bitmaps are clipped, so the bands and the NSCodec bitmaps of a message stay inside of
the destination only if their headers say so.
-/

namespace FreeRdp

open ClearState Attempt

/-! ### What a message asks for -/

/-- Behind a run of the residual layer. -/
def residualNext (p : ResidualProgress) : Option ResidualProgress :=
  let (_, s) := readClearColor p.s
  let (factor, s) := s.readUInt8
  (readRunLengthFactor factor s).bind fun (factor, s) =>
    some { suboffset := p.suboffset + (s.pos - p.s.pos)
           pixelIndex := (p.pixelIndex + factor) % 2 ^ 32
           dstBuffer := p.dstBuffer + factor
           s := s }

/-- Behind a residual layer. -/
def residualEnd (residualByteCount : Nat) (s : WStream) : Option WStream :=
  (loopOption (fun p => p.suboffset < residualByteCount) residualNext (s.remainingLength + 1)
    ⟨0, 0, 0, s⟩).bind fun p => some p.s

/-- Behind some bars of a band. -/
def barsEnd (height : Nat) : Nat → WStream → Option WStream
  | 0, s => some s
  | n + 1, s => (readBar height s).bind fun (_, s) => barsEnd height n s

/-- Behind a band. -/
def bandNext (p : Nat × WStream) : Option (Nat × WStream) :=
  (readBand p.2).bind fun (band, s) =>
    (barsEnd band.height band.vBarCount s).bind fun s => some (p.1 + (s.pos - p.2.pos), s)

/-- The bands of a layer. -/
def bandsFrom (bandsByteCount : Nat) : Nat → Nat × WStream → List ClearBand
  | 0, _ => []
  | n + 1, p =>
    if p.1 < bandsByteCount then
      ((readBand p.2).map Prod.fst).toList ++
        ((bandNext p).map (bandsFrom bandsByteCount n)).getD []
    else []

/-- Behind the bands. -/
def bandsEnd (bandsByteCount : Nat) (s : WStream) : Option WStream :=
  (loopOption (fun p => p.1 < bandsByteCount) bandNext (s.remainingLength + 1) (0, s)).bind
    fun p => some p.2

/-- The column and row behind a pixel of a RLEX bitmap. -/
def rlexNext (width : Nat) (p : Nat × Nat) : Nat × Nat :=
  if p.1 + 1 ≥ width then (0, (p.2 + 1) % 2 ^ 32) else (p.1 + 1, p.2)

/-- Behind a segment of a RLEX bitmap. -/
def rlexSegmentNext (width numBits : Nat) (p : RlexProgress) : Option RlexProgress :=
  let (tmp, s) := p.s.readUInt8
  let (factor, s) := s.readUInt8
  let suiteDepth := tmp >>> numBits &&& (2 ^ (8 - numBits) - 1)
  (readRunLengthFactor factor s).bind fun (factor, s) =>
    let q := (rlexNext width)^[suiteDepth + 1] ((rlexNext width)^[factor] (p.x, p.y))
    some { bitmapDataOffset := p.bitmapDataOffset + (s.pos - p.s.pos)
           pixelIndex := p.pixelIndex + factor + (suiteDepth + 1)
           x := q.1
           y := q.2
           s := s }

/-- Behind a RLEX bitmap. -/
def rlexEnd (rect : ClearSubcodec) (s : WStream) : Option WStream :=
  let (paletteCount, s) := s.readUInt8
  let (_, s) := readClearColors paletteCount s
  (loopOption (fun p => p.bitmapDataOffset < rect.bitmapDataByteCount)
    (rlexSegmentNext rect.width (Nat.log2 (paletteCount - 1) + 1)) (s.remainingLength + 1)
    ⟨1 + paletteCount * 3, 0, 0, 0, s⟩).bind fun p => some p.s

/-- Behind the data of a rectangle. -/
def subcodecEnd (rect : ClearSubcodec) (s : WStream) : Option WStream :=
  match rect.subcodecId with
  | 0 | 1 => some (s.seek rect.bitmapDataByteCount)
  | 2 => rlexEnd rect s
  | _ => none

/-- Behind a rectangle. -/
def rectNext (p : Nat × WStream) : Option (Nat × WStream) :=
  (readSubcodec p.2).bind fun (rect, s) =>
    (subcodecEnd rect s).bind fun s => some (p.1 + 13 + rect.bitmapDataByteCount, s)

/-- The rectangles of the subcodecs. -/
def rectsFrom (subcodecByteCount : Nat) : Nat → Nat × WStream → List ClearSubcodec
  | 0, _ => []
  | n + 1, p =>
    if p.1 < subcodecByteCount then
      ((readSubcodec p.2).map Prod.fst).toList ++
        ((rectNext p).map (rectsFrom subcodecByteCount n)).getD []
    else []

/-- What a message asks to draw: its whole area, bands, and rectangles. -/
structure ClearPlan where
  area : Bool
  bands : List ClearBand
  rects : List ClearSubcodec

/-- A layer is passed over, if it has any bytes. -/
def layerEnd (decompress : Nat → WStream → Option WStream) (byteCount : Nat) (s : WStream) :
    Option WStream :=
  if byteCount > 0 then decompress byteCount s else some s

/-- What layers of the given sizes ask to draw. -/
def clearLayersDataPlan (hit : Bool)
    (residualByteCount bandsByteCount subcodecByteCount : Nat) (s : WStream) : ClearPlan :=
  let s := layerEnd residualEnd residualByteCount s
  let s' := s.bind (layerEnd bandsEnd bandsByteCount)
  { area := hit || residualByteCount > 0
    bands := (s.map fun s => bandsFrom bandsByteCount (s.remainingLength + 1) (0, s)).getD []
    rects := (s'.map fun s => rectsFrom subcodecByteCount (s.remainingLength + 1) (0, s)).getD [] }

/-- What the layers of a message ask to draw. -/
def clearLayersPlan (hit : Bool) (s : WStream) : ClearPlan :=
  let (residualByteCount, s) := s.readUInt32
  let (bandsByteCount, s) := s.readUInt32
  let (subcodecByteCount, s) := s.readUInt32
  clearLayersDataPlan hit residualByteCount bandsByteCount subcodecByteCount s

/-- Behind the glyph part of a message, and the glyph that is to be filled. -/
def glyphNext (glyphFlags : Nat) (s : WStream) : Option Nat × WStream :=
  if glyphFlags &&& CLEARCODEC_FLAG_GLYPH_INDEX = 0 then (none, s)
  else if glyphFlags &&& CLEARCODEC_FLAG_GLYPH_HIT ≠ 0 then (none, s.seek 2)
  else (some s.readUInt16.1, s.seek 2)

/-- What a message asks to draw, behind its first two bytes. -/
def clearBodyPlan (glyphFlags : Nat) (s : WStream) : ClearPlan :=
  let (_, s) := glyphNext glyphFlags s
  let hit : Bool := glyphFlags &&& CLEARCODEC_FLAG_GLYPH_HIT ≠ 0
  if s.remainingLength < 12 then ⟨hit, [], []⟩ else clearLayersPlan hit s

/-- What a message asks to draw. -/
def ClearCall.plan (call : ClearCall) : ClearPlan :=
  let (glyphFlags, s) := (WStream.ofBytes call.pSrcData).readUInt8
  let (_, s) := s.readUInt8
  clearBodyPlan glyphFlags s

/-! ### Inside of the destination -/

/-- What is drawn is a pixel of the destination, and the difference to clip with is one. -/
def ClearEvent.Inside (call : ClearCall) : ClearEvent → Prop
  | .pixel x y => x < call.nDstWidth.toNat ∧ y < call.nDstHeight.toNat
  | .clip size start => start ≤ size
  | .bar .. => True

/-- A rectangle has no pixel outside of the destination. -/
def ClearCall.Contains (call : ClearCall) (x y width height : Nat) : Prop :=
  width = 0 ∨ height = 0 ∨ x + width ≤ call.nDstWidth.toNat ∧ y + height ≤ call.nDstHeight.toNat

instance (call : ClearCall) (x y width height : Nat) :
    Decidable (call.Contains x y width height) :=
  inferInstanceAs (Decidable (_ ∨ _ ∨ _ ∧ _))

/-- A rectangle starts inside of the destination, and ends before the numbers do, so that it can be
clipped. -/
structure ClearCall.Clips (call : ClearCall) (x y width height : Nat) : Prop where
  left : x < call.nDstWidth.toNat
  top : y < call.nDstHeight.toNat
  right : x + width < 2 ^ 32
  bottom : y + height < 2 ^ 32

/-- The bars of a band, but for those that are cut off at the size of the message, are inside of the
destination. -/
def ClearCall.BandFits (call : ClearCall) (band : ClearBand) : Prop :=
  call.Contains ((call.nXDst.toNat + band.xStart) % 2 ^ 32)
    ((call.nYDst.toNat + band.yStart) % 2 ^ 32) (min band.vBarCount call.nWidth.toNat)
    (min band.height call.nHeight.toNat)

instance (call : ClearCall) (band : ClearBand) : Decidable (call.BandFits band) :=
  inferInstanceAs (Decidable (call.Contains ..))

/-- A rectangle that is not compressed can be clipped, and one of NSCodec is inside of the
destination. -/
def ClearCall.RectFits (call : ClearCall) (rect : ClearSubcodec) : Prop :=
  let x := (call.nXDst.toNat + rect.xStart) % 2 ^ 32
  let y := (call.nYDst.toNat + rect.yStart) % 2 ^ 32
  match rect.subcodecId with
  | 0 => call.Clips x y rect.width rect.height
  | 1 => call.Contains x y (max rect.width 1) rect.height
  | _ => True

/-- All that a message asks to draw fits the destination. -/
structure ClearCall.Fits (call : ClearCall) (plan : ClearPlan) : Prop where
  area : plan.area = true →
    call.Clips call.nXDst.toNat call.nYDst.toNat call.nWidth.toNat call.nHeight.toNat
  bands : ∀ band ∈ plan.bands, call.BandFits band
  rects : ∀ rect ∈ plan.rects, rect.width ≤ call.nWidth.toNat →
    rect.height ≤ call.nHeight.toNat → call.RectFits rect

variable {env : ClearEnv} {call : ClearCall} {s : ClearState}

/-- All that has been drawn is inside of the destination. -/
def ClearState.Inside (call : ClearCall) (s : ClearState) : Prop := ∀ e ∈ s.events, e.Inside call

lemma inside_steady : ClearSteady (ClearState.Inside call) where
  allocate _ _ h := h
  temp _ _ _ h := h
  glyph _ _ h := h

lemma inside_barSteady : BarSteady (ClearState.Inside call) where
  entry _ _ _ _ h := h
  cursors _ _ _ h := h
  bar _ _ _ _ h := List.forall_mem_cons.mpr ⟨trivial, h⟩

/-! ### Pixels -/

lemma keeps_drawPixel_inside {p : PixelWrite}
    (hp : p.x < call.nDstWidth.toNat ∧ p.y < call.nDstHeight.toNat) :
    (drawPixel p).Keeps (ClearState.Inside call) :=
  keeps_modify fun _ hs => List.forall_mem_cons.mpr ⟨hp, hs⟩

/-- A row of a copy is as wide as asked for, but has one pixel at least. -/
lemma freerdpImageCopyRow_mem {palette : Bool} {dstFormat srcFormat x y width dstLine : Nat}
    {src : Nat → UInt8} {srcLine xSrc limit : Nat} {p : PixelWrite}
    (hx : x + max width 1 ≤ limit) (hlimit : limit ≤ 2 ^ 32)
    (hp : p ∈ freerdpImageCopyRow env palette dstFormat srcFormat x y width dstLine src srcLine
      xSrc) : p.x < limit ∧ p.y = y := by
  unfold freerdpImageCopyRow at hp
  dsimp only at hp
  split at hp
  · obtain ⟨i, hi, rfl⟩ := List.mem_map.mp hp
    refine ⟨?_, rfl⟩
    have hcount : (width * getBytesPerPixel dstFormat % 2 ^ 32 + getBytesPerPixel dstFormat - 1) /
        getBytesPerPixel dstFormat ≤ width := by
      rcases Nat.eq_zero_or_pos (getBytesPerPixel dstFormat) with hzero | hpos
      · rw [hzero, Nat.div_zero]
        exact Nat.zero_le width
      · refine Nat.le_of_lt_succ ((Nat.div_lt_iff_lt_mul hpos).mpr ?_)
        have hmod := Nat.mod_le (width * getBytesPerPixel dstFormat) (2 ^ 32)
        rw [Nat.succ_mul]
        omega
    have hlt := (List.mem_range.mp hi).trans_le hcount
    show x + i < limit
    omega
  · obtain ⟨i, hi, hbytes⟩ := List.mem_filterMap.mp hp
    obtain ⟨bytes, _, rfl⟩ := Option.map_eq_some_iff.mp hbytes
    have hlt := List.mem_range.mp hi
    refine ⟨?_, rfl⟩
    show (x + i) % 2 ^ 32 < limit
    rw [Nat.mod_eq_of_lt (by omega)]
    omega

/-- A copy that stays inside of the destination. -/
lemma keeps_copy_inside {palette : Bool} {dstFormat dstStep x y width height : Nat}
    {src : Nat → UInt8} {srcFormat srcStep xSrc ySrc : Nat} {pixels : List PixelWrite}
    (hfits : call.Contains x y (max width 1) height)
    (hpixels : freerdpImageCopyPixels env palette dstFormat dstStep x y width height src srcFormat
      srcStep xSrc ySrc = some pixels) :
    (each drawPixel pixels).Keeps (ClearState.Inside call) := by
  unfold freerdpImageCopyPixels at hpixels
  split at hpixels
  · exact absurd hpixels nofun
  · cases hpixels
    refine keeps_each fun p hp => keeps_drawPixel_inside ?_
    obtain ⟨j, hj, hrow⟩ := List.mem_flatMap.mp hp
    have hheight := List.mem_range.mp hj
    obtain ⟨hx, hy⟩ : x + max width 1 ≤ call.nDstWidth.toNat ∧
        y + height ≤ call.nDstHeight.toNat := by
      rcases hfits with hzero | hzero | hinside
      · omega
      · omega
      · exact hinside
    obtain ⟨hpx, hpy⟩ := freerdpImageCopyRow_mem hx (UInt32.toNat_lt _).le hrow
    have hlimit := UInt32.toNat_lt call.nDstHeight
    rw [hpy, Nat.mod_eq_of_lt (by omega)]
    exact ⟨hpx, by omega⟩

/-- A side that starts before the end of the destination is cut off at its end. -/
lemma meets_clipSide {start size limit : Nat} (hs : s.Inside call) (hstart : start < limit)
    (hlimit : limit < 2 ^ 32) (hsize : start + size < 2 ^ 32) :
    (clipSide start size limit).Meets s (fun n s' => s'.Inside call ∧ start + max n 1 ≤ limit)
      (ClearState.Inside call) := by
  unfold clipSide
  rw [Nat.mod_eq_of_lt (by omega)]
  split
  · refine meets_modify_bind (meets_pure ⟨List.forall_mem_cons.mpr ⟨hstart.le, hs⟩, ?_⟩)
    omega
  · refine meets_pure ⟨hs, ?_⟩
    omega

lemma keeps_convertColor_inside {x y width height : Nat} (hclips : call.Clips x y width height)
    (src : Nat → UInt8) (step format : Nat) :
    (convertColor env call x y width height src step format).Keeps (ClearState.Inside call) := by
  refine keeps_of_meets fun s hs => ?_
  refine meets_bind (meets_clipSide hs hclips.left (UInt32.toNat_lt _) hclips.right)
    fun w s₁ hs₁ => ?_
  refine meets_bind (meets_clipSide hs₁.1 hclips.top (UInt32.toNat_lt _) hclips.bottom)
    fun h s₂ hs₂ => ?_
  refine meets_lift_bind (fun pixels hpixels => ?_) fun _ => hs₂.1
  exact (keeps_copy_inside (.inr (.inr ⟨hs₁.2, by omega⟩)) hpixels).meets hs₂.1

/-- The pixels of a RLEX bitmap are clipped one by one. -/
lemma keeps_rlexPixel_inside (width x y color : Nat) (p : Nat × Nat) :
    (rlexPixel call width x y color p).Keeps (ClearState.Inside call) := by
  refine Keeps.bind ?_ fun _ => keeps_pure _
  refine keeps_when fun hinside => ?_
  split
  · exact keeps_drawPixel_inside hinside
  · exact keeps_pure _

lemma keeps_drawBarPixel_inside {band : ClearBand} (hfits : call.BandFits band) {i : Nat}
    (hi : i < band.vBarCount) (hwidth : i < call.nWidth.toNat) {y : Nat}
    (hy : y < call.nHeight.toNat) (hheight : y < band.height) (entry : ClearVBarEntry)
    (format : Nat) :
    (drawBarPixel env call band i entry format y).Keeps (ClearState.Inside call) := by
  refine (keeps_lift _).bind fun bytes => keeps_drawPixel_inside ?_
  have hlimit := UInt32.toNat_lt call.nDstWidth
  have hlimit' := UInt32.toNat_lt call.nDstHeight
  rcases hfits with hzero | hzero | hinside
  · omega
  · omega
  · dsimp only
    omega

/-- A rectangle of the subcodecs that fits. -/
lemma keeps_clearSubcodec_inside {rect : ClearSubcodec} (hfits : call.RectFits rect)
    (stream : WStream) :
    (clearSubcodec env call rect ((call.nXDst.toNat + rect.xStart) % 2 ^ 32)
      ((call.nYDst.toNat + rect.yStart) % 2 ^ 32) stream).Keeps (ClearState.Inside call) := by
  unfold ClearCall.RectFits at hfits
  unfold clearSubcodec
  split <;> rename_i hid
  · rw [hid] at hfits
    refine (keeps_require _).bind fun _ => ?_
    exact (keeps_convertColor_inside hfits _ _ _).bind fun _ => keeps_pure _
  · rw [hid] at hfits
    refine (keeps_require _).bind fun _ => (keeps_lift _).bind fun bitmapData => ?_
    refine keeps_lift_bind fun pixels hpixels => ?_
    exact (keeps_copy_inside hfits hpixels).bind fun _ => keeps_pure _
  · exact keeps_clearDecompressSubcodeRlex
      (fun color p => keeps_rlexPixel_inside _ _ _ color p) stream
  · exact keeps_fail

/-! ### The stream behind each part -/

lemma yields_residualRun (pixelCount : Nat) (p : ResidualProgress) :
    (residualRun env pixelCount p).Yields (residualNext p) := by
  refine yields_require_bind fun _ => ?_
  refine Yields.bind (yields_lift _) fun ⟨factor, stream⟩ => ?_
  refine yields_bind_right fun format => yields_require_bind fun _ => ?_
  exact yields_bind_right fun _ => yields_pure _

lemma yields_clearDecompressResidualData (n : Nat) (stream : WStream) :
    (clearDecompressResidualData env call n stream).Yields (residualEnd n stream) := by
  refine yields_require_bind fun _ => yields_bind_right fun _ => ?_
  refine (yields_loop (yields_residualRun _) _ _).bind fun p => ?_
  refine yields_require_bind fun _ => yields_bind_right fun clear => ?_
  exact yields_bind_right fun _ => yields_pure _

lemma yields_drawBars (band : ClearBand) (n i : Nat) (stream : WStream) :
    (drawBars env call band n i stream).Yields (barsEnd band.height n stream) := by
  induction n generalizing i stream with
  | zero => exact yields_pure stream
  | succ n ih =>
    refine (yields_lift _).bind fun ⟨bar, stream⟩ => ?_
    exact yields_bind_right fun _ => ih (i + 1) stream

lemma yields_drawBand (p : Nat × WStream) : (drawBand env call p).Yields (bandNext p) := by
  refine (yields_lift _).bind fun ⟨band, stream⟩ => ?_
  exact (yields_drawBars band _ 0 stream).bind fun stream => yields_pure _

lemma yields_clearDecompressBandsData (n : Nat) (stream : WStream) :
    (clearDecompressBandsData env call n stream).Yields (bandsEnd n stream) := by
  refine yields_require_bind fun _ => ?_
  exact (yields_loop yields_drawBand _ _).bind fun p => yields_pure _

lemma yields_rlexPixel (width x y color : Nat) (p : Nat × Nat) :
    (rlexPixel call width x y color p).Yields (some (rlexNext width p)) :=
  yields_bind_right fun _ => yields_pure _

lemma yields_rlexRun (width x y color n : Nat) (p : Nat × Nat) :
    (rlexRun call width x y color n p).Yields (some ((rlexNext width)^[n] p)) := by
  induction n generalizing p with
  | zero => exact yields_pure p
  | succ n ih => exact (yields_rlexPixel width x y color p).bind_some (ih _)

lemma yields_rlexSuite (width x y : Nat) (palette : List Nat) (n suiteIndex : Nat) (p : Nat × Nat) :
    (rlexSuite call width x y palette n suiteIndex p).Yields
      (some ((rlexNext width)^[n] p)) := by
  induction n generalizing suiteIndex p with
  | zero => exact yields_pure p
  | succ n ih =>
    refine yields_require_bind fun _ => ?_
    exact (yields_rlexPixel width x y _ p).bind_some (ih _ _)

lemma yields_rlexSegment (width x y pixelCount numBits : Nat) (palette : List Nat)
    (p : RlexProgress) :
    (rlexSegment call width x y pixelCount numBits palette p).Yields
      (rlexSegmentNext width numBits p) := by
  refine yields_require_bind fun _ => (yields_lift _).bind fun ⟨factor, stream⟩ => ?_
  refine yields_require_bind fun _ => yields_require_bind fun _ => ?_
  refine yields_require_bind fun _ => yields_require_bind fun _ => ?_
  refine (yields_rlexRun width x y _ factor (p.x, p.y)).bind_some (yields_require_bind fun _ => ?_)
  exact (yields_rlexSuite width x y palette _ _ _).bind_some (yields_pure _)

lemma yields_clearDecompressSubcodeRlex (rect : ClearSubcodec) (x y : Nat) (stream : WStream) :
    (clearDecompressSubcodeRlex env call rect x y stream).Yields (rlexEnd rect stream) := by
  refine yields_require_bind fun _ => yields_require_bind fun _ => ?_
  refine yields_require_bind fun _ => yields_require_bind fun _ => ?_
  unfold rlexEnd WStream.readUInt8
  dsimp only
  generalize readClearColors (stream.byteAt 0) (stream.seek 1) = colors
  refine (yields_loop (yields_rlexSegment _ _ _ _ _ _) _ _).bind fun p => ?_
  exact yields_require_bind fun _ => yields_pure _

lemma yields_clearSubcodec (rect : ClearSubcodec) (x y : Nat) (stream : WStream) :
    (clearSubcodec env call rect x y stream).Yields (subcodecEnd rect stream) := by
  unfold clearSubcodec
  split <;> rename_i hid
  · simp only [subcodecEnd, hid]
    exact yields_require_bind fun _ => yields_bind_right fun _ => yields_pure _
  · simp only [subcodecEnd, hid]
    refine yields_require_bind fun _ => yields_bind_right fun _ => yields_bind_right fun _ => ?_
    exact yields_bind_right fun _ => yields_pure _
  · simp only [subcodecEnd, hid]
    exact yields_clearDecompressSubcodeRlex rect x y stream
  · exact yields_fail

lemma yields_drawSubcodec (p : Nat × WStream) : (drawSubcodec env call p).Yields (rectNext p) := by
  refine (yields_lift _).bind fun ⟨rect, stream⟩ => ?_
  refine yields_require_bind fun _ => yields_require_bind fun _ => yields_bind_right fun _ => ?_
  exact (yields_clearSubcodec rect _ _ stream).bind fun stream => yields_pure _

lemma yields_clearLayer {decompress : Nat → WStream → Attempt ClearState WStream}
    {next : Nat → WStream → Option WStream} (h : ∀ n s, (decompress n s).Yields (next n s))
    (n : Nat) (stream : WStream) :
    (clearLayer decompress n stream).Yields (layerEnd next n stream) := by
  unfold clearLayer layerEnd
  split
  · exact h n stream
  · exact yields_pure stream

/-! ### Layers -/

/-- Bands that fit are drawn inside of the destination. -/
lemma keeps_clearDecompressBandsData_inside {n : Nat} {stream : WStream}
    (hbands : ∀ band ∈ bandsFrom n (stream.remainingLength + 1) (0, stream), call.BandFits band) :
    (clearDecompressBandsData env call n stream).Keeps (ClearState.Inside call) := by
  refine (keeps_require _).bind fun _ => Keeps.bind ?_ fun _ => keeps_pure _
  refine keeps_loop_of_yields yields_drawBand
    (J := fun k p => ∀ band ∈ bandsFrom n k p, call.BandFits band) (fun k p hp hcond => ?_) hbands
  have hlt : p.1 < n := of_decide_eq_true hcond
  rw [bandsFrom, if_pos hlt] at hp
  constructor
  · refine keeps_lift_bind fun ⟨band, stream⟩ hband => Keeps.bind ?_ fun _ => keeps_pure _
    have hfits : call.BandFits band := hp band (by simp [hband])
    refine keeps_drawBars inside_steady inside_barSteady ?_ stream
    intro i hi hwidth entry format y hy hheight
    exact keeps_drawBarPixel_inside hfits (by omega) hwidth hy hheight entry format
  · intro p' hp' band hband
    exact hp band (List.mem_append_right _ (by simpa [hp'] using hband))

/-- Rectangles that fit are drawn inside of the destination. -/
lemma keeps_clearDecompressSubcodecsData_inside {n : Nat} {stream : WStream}
    (hrects : ∀ rect ∈ rectsFrom n (stream.remainingLength + 1) (0, stream),
      rect.width ≤ call.nWidth.toNat → rect.height ≤ call.nHeight.toNat → call.RectFits rect) :
    (clearDecompressSubcodecsData env call n stream).Keeps (ClearState.Inside call) := by
  refine (keeps_require _).bind fun _ => Keeps.bind ?_ fun _ => keeps_pure _
  refine keeps_loop_of_yields yields_drawSubcodec
    (J := fun k p => ∀ rect ∈ rectsFrom n k p, rect.width ≤ call.nWidth.toNat →
      rect.height ≤ call.nHeight.toNat → call.RectFits rect) (fun k p hp hcond => ?_) hrects
  have hlt : p.1 < n := of_decide_eq_true hcond
  rw [rectsFrom, if_pos hlt] at hp
  constructor
  · refine keeps_drawSubcodec inside_steady fun rect stream hrect hwidth hheight => ?_
    exact keeps_clearSubcodec_inside (hp rect (by simp [hrect]) hwidth hheight) stream
  · intro p' hp' rect hrect
    exact hp rect (List.mem_append_right _ (by simpa [hp'] using hrect))

/-! ### Messages -/

lemma keeps_clearLayersData_inside {hit : Bool} {m n k : Nat} {stream : WStream}
    (hfits : call.Fits (clearLayersDataPlan hit m n k stream)) (glyph : Option Nat) :
    (clearLayersData env call glyph m n k stream).Keeps (ClearState.Inside call) := by
  refine Keeps.bind_of_yields (keeps_clearLayer fun hcount => ?_)
    (yields_clearLayer yields_clearDecompressResidualData _ _) fun s₁ hs₁ => ?_
  · have harea := hfits.area (by simp [clearLayersDataPlan, hcount])
    exact keeps_clearDecompressResidualData inside_steady (keeps_convertColor_inside harea) _ _
  refine Keeps.bind_of_yields (keeps_clearLayer fun _ => ?_)
    (yields_clearLayer yields_clearDecompressBandsData _ _) fun s₂ hs₂ => ?_
  · refine keeps_clearDecompressBandsData_inside fun band hband => hfits.bands band ?_
    simpa only [clearLayersDataPlan, hs₁, Option.map_some, Option.getD_some] using hband
  refine Keeps.bind (keeps_clearLayer fun _ => ?_) fun _ => keeps_fill inside_steady glyph
  refine keeps_clearDecompressSubcodecsData_inside fun rect hrect => hfits.rects rect ?_
  simpa only [clearLayersDataPlan, hs₁, hs₂, Option.bind_some, Option.map_some, Option.getD_some]
    using hrect

lemma yields_clearDecompressGlyphData (flags : Nat) (stream : WStream) :
    (clearDecompressGlyphData env call flags stream).Yields (some (glyphNext flags stream)) := by
  refine yields_require_bind fun _ => ?_
  unfold glyphNext
  by_cases hindex : flags &&& CLEARCODEC_FLAG_GLYPH_INDEX = 0
  · simp only [hindex, ne_eq, not_true_eq_false, decide_false, Bool.not_false, if_true]
    exact yields_pure _
  · simp only [hindex, ne_eq, not_false_eq_true, decide_true, Bool.not_true, Bool.false_eq_true,
      if_false]
    refine yields_require_bind fun _ => yields_require_bind fun _ => yields_require_bind fun _ => ?_
    by_cases hhit : flags &&& CLEARCODEC_FLAG_GLYPH_HIT = 0
    · simp only [hhit, not_true_eq_false, decide_false, Bool.false_eq_true, if_false]
      exact yields_bind_right fun _ => yields_pure _
    · simp only [hhit, not_false_eq_true, decide_true, if_true]
      exact yields_bind_right fun _ => yields_pure _

lemma keeps_clearBody_inside {flags : Nat} {stream : WStream}
    (hfits : call.Fits (clearBodyPlan flags stream)) :
    (clearBody env call flags stream).Keeps (ClearState.Inside call) := by
  have harea : flags &&& CLEARCODEC_FLAG_GLYPH_HIT ≠ 0 →
      (clearBodyPlan flags stream).area = true := by
    intro hhit
    unfold clearBodyPlan
    dsimp only
    split
    · simp [hhit]
    · simp [clearLayersPlan, clearLayersDataPlan, hhit]
  refine Keeps.bind ?_ fun _ => ?_
  · exact keeps_when fun _ => keeps_modify fun _ hs => hs
  refine Keeps.bind_of_yields ?_ (yields_clearDecompressGlyphData flags stream) ?_
  · refine keeps_clearDecompressGlyphData inside_steady (fun hhit => ?_) stream
    exact keeps_convertColor_inside (hfits.area (harea hhit))
  · rintro ⟨glyph, stream'⟩ hnext
    refine keeps_ite (fun _ => keeps_require _) fun hlong => ?_
    rw [clearBodyPlan, Option.some.inj hnext] at hfits
    dsimp only at hfits
    rw [if_neg hlong] at hfits
    exact keeps_clearLayersData_inside hfits glyph

lemma yields_clearHeader :
    (clearHeader call).Yields (some ((WStream.ofBytes call.pSrcData).byteAt 0,
      ((WStream.ofBytes call.pSrcData).seek 1).seek 1)) := by
  refine yields_require_bind fun _ => yields_bind_right fun _ => yields_bind_right fun _ => ?_
  refine yields_bind_right fun clear => yields_require_bind fun _ => ?_
  exact yields_bind_right fun _ => yields_pure _

lemma keeps_clearHeader_inside : (clearHeader call).Keeps (ClearState.Inside call) := by
  refine (keeps_require _).bind fun _ => ?_
  refine Keeps.bind (keeps_modify fun _ hs => hs) fun _ => ?_
  refine Keeps.bind (keeps_modify fun _ hs => hs) fun _ => ?_
  refine (keeps_gets _).bind fun clear => (keeps_require _).bind fun _ => ?_
  exact Keeps.bind (keeps_modify fun _ hs => hs) fun _ => keeps_pure _

/-- A message that is refused for its number, or fits the destination, draws only inside of it. -/
lemma clearDecompress_inside {clear : ClearContext}
    (hfits : call.Received env → call.passesSequenceCheck clear = true → call.Fits call.plan) :
    (clearDecompress env call clear).2.Inside call := by
  refine clearDecompress_of_message (fun n => nofun) fun hreceived => ?_
  cases hpasses : call.passesSequenceCheck clear with
  | false =>
    have hkeeps : (clearHeader call).Keeps (ClearState.Inside call) := keeps_clearHeader_inside
    have hstart : (call.start clear 1).Inside call := nofun
    exact meets_bind ((hkeeps.meets hstart).of_none hpasses) fun _ _ h => h.elim
  | true =>
    refine Keeps.meets (Keeps.bind_of_yields keeps_clearHeader_inside yields_clearHeader ?_) nofun
    rintro ⟨flags, stream⟩ hnext
    cases hnext
    exact keeps_clearBody_inside (hfits hreceived hpasses)

/-- A message that gets behind the check of its number asks to draw what fits the destination. -/
def ClearAction.Fits (clear : ClearContext) : ClearAction → Prop
  | .decompress env call =>
    call.Received env → call.passesSequenceCheck clear = true → call.Fits call.plan
  | .reset => True

/-- An action draws only inside of its destination. -/
def ClearAction.DrawsInside (clear : ClearContext) : ClearAction → Prop
  | .decompress env call => ∀ e ∈ (clearDecompress env call clear).2.events, e.Inside call
  | .reset => True

/-- In a session whose messages all fit their destinations, every call draws only inside of its
destination. -/
theorem clearDecompress_inside_run (actions : List ClearAction)
    (hfits : AlongRun clearStep ClearAction.Fits clearContextNew actions) :
    AlongRun clearStep ClearAction.DrawsInside clearContextNew actions := by
  refine AlongRun.imp (fun clear action (_ : True) haction => ⟨?_, trivial⟩) trivial hfits
  cases action with
  | decompress env call => exact clearDecompress_inside haction
  | reset => trivial

/-- A message of one band with one bar of one pixel in the column `x`, for a destination of one
pixel. -/
def bandMessage (x : UInt8) : ClearEnv × ClearCall where
  fst := ⟨fun _ _ _ _ _ => 0, fun _ _ _ _ => 0, fun _ _ _ => none, fun _ _ => true⟩
  snd :=
    { pSrcData := [0, 1, 0, 0, 0, 0, 13, 0, 0, 0, 0, 0, 0, 0] ++
        [x, 0, x, 0, 0, 0, 0, 0, 1, 2, 3, 0, 0]
      nWidth := 1
      nHeight := 1
      pDstData := some fun _ => 0
      dstFormat := 0x20040888
      nDstStep := 4
      nXDst := 0
      nYDst := 0
      nDstWidth := 1
      nDstHeight := 1 }

theorem clearDecompress_inside_bandMessage :
    ClearAction.DrawsInside clearContextNew
      (.decompress (bandMessage 0).1 (bandMessage 0).2) := by
  refine (clearDecompress_inside_run [.decompress (bandMessage 0).1 (bandMessage 0).2, .reset]
    ⟨fun _ _ => ⟨fun h => absurd h (by decide +kernel), by decide +kernel, ?_⟩, trivial, trivial⟩).1
  intro rect hrect
  rw [show (bandMessage 0).2.plan.rects = [] from rfl] at hrect
  contradiction

/-- A band in the column 5 is drawn there, though the destination has one column. -/
theorem clearDecompress_outside :
    (clearDecompress (bandMessage 5).1 (bandMessage 5).2 clearContextNew).1 = 0 ∧
      .pixel 5 0 ∈ (clearDecompress (bandMessage 5).1 (bandMessage 5).2 clearContextNew).2.events ∧
      ¬(ClearEvent.pixel 5 0).Inside (bandMessage 5).2 :=
  ⟨by decide +kernel, by decide +kernel, fun h => absurd h.1 (by decide)⟩

end FreeRdp
