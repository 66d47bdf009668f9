import FreeRdp.Core.Orders.Types
import FreeRdp.Winpr.Crt
import FreeRdp.Library.Readers

/-!
# Reading primary orders

The readers of `orders.c`. Each one stores the fields whose flag is set and leaves the others as
they are; where the input ends too early, what has been stored up to there stays stored. `none`
stands for the return value `FALSE`.
-/

namespace FreeRdp

/-- The signed value of an unsigned number of `w` bits. -/
def toSigned (w n : Nat) : Int := Int.bmod n (2 ^ w)

/-! ### Values -/

/-- The next `n` bytes, if they are there, make the value. -/
def readValue {α : Type} (n : Nat) (value : WStream → α) : Reader WStream α := fun old s =>
  if s.remainingLength < n then (old, none) else (value s, some (s.seek n))

/-- `update_read_coord`. -/
def updateReadCoord (delta : Bool) : Reader WStream Int := fun coord s =>
  if delta then readValue 1 (fun s => toInt32 (coord + toSigned 8 s.readUInt8.1)) coord s
  else readValue 2 (fun s => toSigned 16 s.readUInt16.1) coord s

/-- `update_read_color`. -/
def updateReadColor : Reader WStream Nat :=
  readValue 3 (fun s => s.byteAt 0 ||| s.byteAt 1 <<< 8 ||| s.byteAt 2 <<< 16)

/-- `update_read_2byte_unsigned`. -/
def updateRead2byteUnsigned : Reader WStream Nat := fun value s =>
  if s.remainingLength < 1 then (value, none)
  else
    let (byte, s) := s.readUInt8
    if byte &&& 0x80 ≠ 0 then
      readValue 1 (fun s => (byte &&& 0x7F) <<< 8 ||| s.byteAt 0) value s
    else (byte &&& 0x7F, some s)

/-- `update_read_2byte_signed`. -/
def updateRead2byteSigned : Reader WStream Int := fun value s =>
  if s.remainingLength < 1 then (value, none)
  else
    let (byte, s) := s.readUInt8
    let sign : Int := if byte &&& 0x40 ≠ 0 then -1 else 1
    if byte &&& 0x80 ≠ 0 then
      if s.remainingLength < 1 then (((byte &&& 0x3F : Nat) : Int), none)
      else (sign * (((byte &&& 0x3F) <<< 8 ||| s.byteAt 0 : Nat) : Int), some (s.seek 1))
    else (sign * ((byte &&& 0x3F : Nat) : Int), some s)

/-- `update_read_delta`. -/
def updateReadDelta : Reader WStream Int := fun value s =>
  if s.remainingLength < 1 then (value, none)
  else
    let (byte, s) := s.readUInt8
    let high : Int := if byte &&& 0x40 ≠ 0 then ((byte &&& 0x3F : Nat) : Int) - 0x40
      else ((byte &&& 0x3F : Nat) : Int)
    if byte &&& 0x80 ≠ 0 then
      if s.remainingLength < 1 then (high, none)
      else (high * 256 + (s.byteAt 0 : Int), some (s.seek 1))
    else (high, some s)

/-! ### Fields -/

/-- `order_field_flag_is_set`. -/
def orderFieldFlagIsSet (fieldFlags number : Nat) : Bool := fieldFlags &&& 1 <<< (number - 1) ≠ 0

section Fields

variable {α β : Type}

/-- A field is read if its flag is set. -/
def readOrderField (orderInfo : OrderInfo) (number : Nat) (target : Member α β)
    (r : Reader WStream β) : Reader WStream α :=
  .when (orderFieldFlagIsSet orderInfo.fieldFlags number) (.into target r)

/-- `read_order_field_byte`. -/
@[reducible]
def readOrderFieldByte (orderInfo : OrderInfo) (number : Nat) (target : Member α Nat) :
    Reader WStream α :=
  readOrderField orderInfo number target (readValue 1 (fun s => s.readUInt8.1))

/-- `read_order_field_2bytes`. -/
@[reducible]
def readOrderField2bytes (orderInfo : OrderInfo) (number : Nat) (target : Member α (Nat × Nat)) :
    Reader WStream α :=
  readOrderField orderInfo number target (readValue 2 (fun s => (s.byteAt 0, s.byteAt 1)))

/-- `read_order_field_uint16`. -/
@[reducible]
def readOrderFieldUint16 (orderInfo : OrderInfo) (number : Nat) (target : Member α Nat) :
    Reader WStream α :=
  readOrderField orderInfo number target (readValue 2 (fun s => s.readUInt16.1))

/-- `read_order_field_int16`. -/
@[reducible]
def readOrderFieldInt16 (orderInfo : OrderInfo) (number : Nat) (target : Member α Int) :
    Reader WStream α :=
  readOrderField orderInfo number target (readValue 2 (fun s => toSigned 16 s.readUInt16.1))

/-- `read_order_field_uint32`. -/
@[reducible]
def readOrderFieldUint32 (orderInfo : OrderInfo) (number : Nat) (target : Member α Nat) :
    Reader WStream α :=
  readOrderField orderInfo number target (readValue 4 (fun s => s.readUInt32.1))

/-- `read_order_field_coord`. -/
@[reducible]
def readOrderFieldCoord (orderInfo : OrderInfo) (number : Nat) (target : Member α Int) :
    Reader WStream α :=
  readOrderField orderInfo number target (updateReadCoord orderInfo.deltaCoordinates)

/-- `read_order_field_color`. -/
@[reducible]
def readOrderFieldColor (orderInfo : OrderInfo) (number : Nat) (target : Member α Nat) :
    Reader WStream α :=
  readOrderField orderInfo number target updateReadColor

/-- A byte of the color of an opaque rectangle: bits `shift` to `shift + 7`, the others are kept as
`mask` has them. -/
def readColorByte (mask shift : Nat) : Reader WStream Nat := fun color s =>
  readValue 1 (fun s => color &&& mask ||| s.readUInt8.1 <<< shift) color s

end Fields

/-! ### Brushes -/

/-- `get_bmf_bpp`, `none` where it is not valid. -/
def getBmfBpp (bmf : Nat) : Option Nat :=
  -- mask out the highest bit
  match bmf &&& (0xFFFFFFFF - CACHED_BRUSH) with
  | 1 => some 1
  | 3 => some 8
  | 4 => some 16
  | 5 => some 24
  | 6 => some 32
  | _ => none

/-- The index and depth of a cached brush. -/
def updateReadCachedBrush : Reader WStream Brush := fun brush s =>
  if brush.style &&& CACHED_BRUSH ≠ 0 then
    match getBmfBpp brush.style with
    | none => ({ brush with index := brush.hatch, bpp := 0 }, none)
    | some bpp => ({ brush with index := brush.hatch, bpp := bpp }, some s)
  else (brush, some s)

/-- The pattern of a brush: the rows come last to first, and the last one is the hatch. -/
def updateReadPattern : Reader WStream Brush := fun brush s =>
  readValue 7 (fun s =>
    { brush with
      data := true
      p8x8 := Vector.ofFn (fun i => if i = 0 then UInt8.ofNat brush.hatch
        else UInt8.ofNat (s.byteAt (7 - i))) }) brush s

/-- `update_read_brush`. -/
def updateReadBrush (fieldFlags : Nat) : Reader WStream Brush :=
  .all [
    .when (orderFieldFlagIsSet fieldFlags 1)
      (.into (.mk (·.x) fun brush v => { brush with x := v }) (readValue 1 (·.readUInt8.1))),
    .when (orderFieldFlagIsSet fieldFlags 2)
      (.into (.mk (·.y) fun brush v => { brush with y := v }) (readValue 1 (·.readUInt8.1))),
    .when (orderFieldFlagIsSet fieldFlags 3)
      (.into (.mk (·.style) fun brush v => { brush with style := v })
        (readValue 1 (·.readUInt8.1))),
    .when (orderFieldFlagIsSet fieldFlags 4)
      (.into (.mk (·.hatch) fun brush v => { brush with hatch := v })
        (readValue 1 (·.readUInt8.1))),
    updateReadCachedBrush,
    .when (orderFieldFlagIsSet fieldFlags 5) updateReadPattern]

/-! ### Lists of rectangles and points -/

/-- A zero bit of a list is set where the value is left out. -/
def zeroBit (flags mask : Nat) : Bool := flags &&& mask ≠ 0

/-- One rectangle of `update_read_delta_rects`, after the rectangle `previous`. -/
def updateReadDeltaRect (flags : Nat) (previous : Option DeltaRect) : Reader WStream DeltaRect :=
  .all [
    .when (!zeroBit flags 0x80)
      (.into (.mk (·.left) fun r v => { r with left := v }) updateReadDelta),
    .when (!zeroBit flags 0x40)
      (.into (.mk (·.top) fun r v => { r with top := v }) updateReadDelta),
    .into (.mk (·.width) fun r v => { r with width := v })
      (if zeroBit flags 0x20 then .assign (fun _ => (previous.map (·.width)).getD 0)
        else updateReadDelta),
    .into (.mk (·.height) fun r v => { r with height := v })
      (if zeroBit flags 0x10 then .assign (fun _ => (previous.map (·.height)).getD 0)
        else updateReadDelta),
    .assign (fun r => match previous with
      | none => r
      | some p => { r with left := toInt32 (r.left + p.left), top := toInt32 (r.top + p.top) })]

/-- The loop of `update_read_delta_rects`: the rectangles it has written, the last one perhaps only
in part. The flags of rectangle `i` are a half of byte `i / 2` of the zero bits. -/
def updateReadDeltaRectsLoop (zeroBits : Nat → Nat) :
    Nat → Nat → Option DeltaRect → WStream → List DeltaRect × Option WStream
  | 0, _, _, s => ([], some s)
  | n + 1, i, previous, s =>
    let flags := (zeroBits (i / 2) <<< (4 * (i % 2))) % 256
    match updateReadDeltaRect flags previous default s with
    | (rect, none) => ([rect], none)
    | (rect, some s) =>
      let (rects, s) := updateReadDeltaRectsLoop zeroBits n (i + 1) (some rect) s
      (rect :: rects, s)

/-- The array with the rectangles that were written; the others of the `number` are zero. -/
def storeRects (number : Nat) (rects : List DeltaRect) (rectangles : Vector DeltaRect 45) :
    Vector DeltaRect 45 :=
  Vector.ofFn (fun i => if i < number then rects.getD i default else rectangles.get i)

/-- `update_read_delta_rects`. -/
def updateReadDeltaRects (number : Nat) : Reader WStream (Vector DeltaRect 45) :=
  fun rectangles s =>
    if number > 45 then (rectangles, none)
    else
      let zeroBitsSize := (number + 1) / 2
      if s.remainingLength < zeroBitsSize then (rectangles, none)
      else
        let (rects, s') := updateReadDeltaRectsLoop s.byteAt number 0 none (s.seek zeroBitsSize)
        (storeRects number rects rectangles, s')

/-- One point of `update_read_delta_points`. -/
def updateReadDeltaPoint (flags : Nat) : Reader WStream DeltaPoint :=
  .all [
    .when (!zeroBit flags 0x80) (.into (.mk (·.x) fun p v => { p with x := v }) updateReadDelta),
    .when (!zeroBit flags 0x40) (.into (.mk (·.y) fun p v => { p with y := v }) updateReadDelta)]

/-- The loop of `update_read_delta_points`. The flags of point `i` are a quarter of byte `i / 4`. -/
def updateReadDeltaPointsLoop (zeroBits : Nat → Nat) :
    Nat → Nat → WStream → List DeltaPoint × Option WStream
  | 0, _, s => ([], some s)
  | n + 1, i, s =>
    let flags := (zeroBits (i / 4) <<< (2 * (i % 4))) % 256
    match updateReadDeltaPoint flags default s with
    | (point, none) => (point :: List.replicate n default, none)
    | (point, some s) =>
      let (points, s) := updateReadDeltaPointsLoop zeroBits n (i + 1) s
      (point :: points, s)

/-- `realloc` of an array of points to `number` points. What it adds is not initialised; the model
has zeros there. -/
def reallocPoints (number : Nat) (points : List DeltaPoint) : List DeltaPoint :=
  points.take number ++ List.replicate (number - points.length) default

/-- `update_read_delta_points`, on an array of `number` points. -/
def updateReadDeltaPoints (number : Nat) : Reader WStream (List DeltaPoint) := fun points s =>
  let zeroBitsSize := (number + 3) / 4
  if s.remainingLength < zeroBitsSize then (points, none)
  else updateReadDeltaPointsLoop s.byteAt number 0 (s.seek zeroBitsSize)

/-! ### Orders -/

/-- The rectangles at the end of a multi order: the length of the data, which is not used, and as
many rectangles as the order has. -/
def readRects {α : Type} (info : OrderInfo) (number : Nat) (count cbData : Member α Nat)
    (rectangles : Member α (Vector DeltaRect 45)) : Reader WStream α :=
  .when (orderFieldFlagIsSet info.fieldFlags number)
    (.all [
      .into cbData (readValue 2 (fun s => s.readUInt16.1)),
      .choose (fun o => .into rectangles (updateReadDeltaRects (count.get o)))])

/-- The points of a polygon or line: the order takes the new count `num` only with new points. -/
def readPoints {α : Type} (info : OrderInfo) (number num : Nat) (count cbData : Member α Nat)
    (points : Member α (List DeltaPoint)) : Reader WStream α :=
  .when (orderFieldFlagIsSet info.fieldFlags number)
    (.all [
      .check (fun _ => num ≠ 0),
      .into cbData (readValue 1 (fun s => s.readUInt8.1)),
      .assign (fun o => count.set (points.set o (reallocPoints num (points.get o))) num),
      .into points (updateReadDeltaPoints num)])

/-- The data of a glyph order: its length and that many bytes. -/
def readGlyphData {α : Type} (info : OrderInfo) (number : Nat) (cbData : Member α Nat)
    (data : Member α (List UInt8)) : Reader WStream α :=
  .when (orderFieldFlagIsSet info.fieldFlags number)
    (.all [
      .into cbData (readValue 1 (fun s => s.readUInt8.1)),
      .choose (fun o =>
        .into data (readValue (cbData.get o) (fun s => (s.read (cbData.get o)).1)))])

/-- `update_read_dstblt_order`. -/
def updateReadDstbltOrder (info : OrderInfo) : Reader WStream DstbltOrder :=
  .all [
    readOrderFieldCoord info 1 (.mk (·.nLeftRect) fun o v => { o with nLeftRect := v }),
    readOrderFieldCoord info 2 (.mk (·.nTopRect) fun o v => { o with nTopRect := v }),
    readOrderFieldCoord info 3 (.mk (·.nWidth) fun o v => { o with nWidth := v }),
    readOrderFieldCoord info 4 (.mk (·.nHeight) fun o v => { o with nHeight := v }),
    readOrderFieldByte info 5 (.mk (·.bRop) fun o v => { o with bRop := v })]

/-- `update_read_patblt_order`. -/
def updateReadPatbltOrder (info : OrderInfo) : Reader WStream PatbltOrder :=
  .all [
    readOrderFieldCoord info 1 (.mk (·.nLeftRect) fun o v => { o with nLeftRect := v }),
    readOrderFieldCoord info 2 (.mk (·.nTopRect) fun o v => { o with nTopRect := v }),
    readOrderFieldCoord info 3 (.mk (·.nWidth) fun o v => { o with nWidth := v }),
    readOrderFieldCoord info 4 (.mk (·.nHeight) fun o v => { o with nHeight := v }),
    readOrderFieldByte info 5 (.mk (·.bRop) fun o v => { o with bRop := v }),
    readOrderFieldColor info 6 (.mk (·.backColor) fun o v => { o with backColor := v }),
    readOrderFieldColor info 7 (.mk (·.foreColor) fun o v => { o with foreColor := v }),
    .into (.mk (·.brush) fun o v => { o with brush := v })
      (updateReadBrush ((info.fieldFlags >>> 7) % 256))]

/-- `update_read_scrblt_order`. -/
def updateReadScrbltOrder (info : OrderInfo) : Reader WStream ScrbltOrder :=
  .all [
    readOrderFieldCoord info 1 (.mk (·.nLeftRect) fun o v => { o with nLeftRect := v }),
    readOrderFieldCoord info 2 (.mk (·.nTopRect) fun o v => { o with nTopRect := v }),
    readOrderFieldCoord info 3 (.mk (·.nWidth) fun o v => { o with nWidth := v }),
    readOrderFieldCoord info 4 (.mk (·.nHeight) fun o v => { o with nHeight := v }),
    readOrderFieldByte info 5 (.mk (·.bRop) fun o v => { o with bRop := v }),
    readOrderFieldCoord info 6 (.mk (·.nXSrc) fun o v => { o with nXSrc := v }),
    readOrderFieldCoord info 7 (.mk (·.nYSrc) fun o v => { o with nYSrc := v })]

/-- `update_read_opaque_rect_order`. -/
def updateReadOpaqueRectOrder (info : OrderInfo) : Reader WStream OpaqueRectOrder :=
  .all [
    readOrderFieldCoord info 1 (.mk (·.nLeftRect) fun o v => { o with nLeftRect := v }),
    readOrderFieldCoord info 2 (.mk (·.nTopRect) fun o v => { o with nTopRect := v }),
    readOrderFieldCoord info 3 (.mk (·.nWidth) fun o v => { o with nWidth := v }),
    readOrderFieldCoord info 4 (.mk (·.nHeight) fun o v => { o with nHeight := v }),
    readOrderField info 5 (.mk (·.color) fun o v => { o with color := v })
      (readColorByte 0x00FFFF00 0),
    readOrderField info 6 (.mk (·.color) fun o v => { o with color := v })
      (readColorByte 0x00FF00FF 8),
    readOrderField info 7 (.mk (·.color) fun o v => { o with color := v })
      (readColorByte 0x0000FFFF 16)]

/-- `update_read_draw_nine_grid_order`. -/
def updateReadDrawNineGridOrder (info : OrderInfo) : Reader WStream DrawNineGridOrder :=
  .all [
    readOrderFieldCoord info 1 (.mk (·.srcLeft) fun o v => { o with srcLeft := v }),
    readOrderFieldCoord info 2 (.mk (·.srcTop) fun o v => { o with srcTop := v }),
    readOrderFieldCoord info 3 (.mk (·.srcRight) fun o v => { o with srcRight := v }),
    readOrderFieldCoord info 4 (.mk (·.srcBottom) fun o v => { o with srcBottom := v }),
    readOrderFieldUint16 info 5 (.mk (·.bitmapId) fun o v => { o with bitmapId := v })]

/-- `update_read_multi_dstblt_order`. -/
def updateReadMultiDstbltOrder (info : OrderInfo) : Reader WStream MultiDstbltOrder :=
  .all [
    readOrderFieldCoord info 1 (.mk (·.nLeftRect) fun o v => { o with nLeftRect := v }),
    readOrderFieldCoord info 2 (.mk (·.nTopRect) fun o v => { o with nTopRect := v }),
    readOrderFieldCoord info 3 (.mk (·.nWidth) fun o v => { o with nWidth := v }),
    readOrderFieldCoord info 4 (.mk (·.nHeight) fun o v => { o with nHeight := v }),
    readOrderFieldByte info 5 (.mk (·.bRop) fun o v => { o with bRop := v }),
    readOrderFieldByte info 6 (.mk (·.numRectangles) fun o v => { o with numRectangles := v }),
    readRects info 7 (.mk (·.numRectangles) fun o v => { o with numRectangles := v })
      (.mk (·.cbData) fun o v => { o with cbData := v })
      (.mk (·.rectangles) fun o v => { o with rectangles := v })]

/-- `update_read_multi_patblt_order`. -/
def updateReadMultiPatbltOrder (info : OrderInfo) : Reader WStream MultiPatbltOrder :=
  .all [
    readOrderFieldCoord info 1 (.mk (·.nLeftRect) fun o v => { o with nLeftRect := v }),
    readOrderFieldCoord info 2 (.mk (·.nTopRect) fun o v => { o with nTopRect := v }),
    readOrderFieldCoord info 3 (.mk (·.nWidth) fun o v => { o with nWidth := v }),
    readOrderFieldCoord info 4 (.mk (·.nHeight) fun o v => { o with nHeight := v }),
    readOrderFieldByte info 5 (.mk (·.bRop) fun o v => { o with bRop := v }),
    readOrderFieldColor info 6 (.mk (·.backColor) fun o v => { o with backColor := v }),
    readOrderFieldColor info 7 (.mk (·.foreColor) fun o v => { o with foreColor := v }),
    .into (.mk (·.brush) fun o v => { o with brush := v })
      (updateReadBrush ((info.fieldFlags >>> 7) % 256)),
    readOrderFieldByte info 13 (.mk (·.numRectangles) fun o v => { o with numRectangles := v }),
    readRects info 14 (.mk (·.numRectangles) fun o v => { o with numRectangles := v })
      (.mk (·.cbData) fun o v => { o with cbData := v })
      (.mk (·.rectangles) fun o v => { o with rectangles := v })]

/-- `update_read_multi_scrblt_order`. -/
def updateReadMultiScrbltOrder (info : OrderInfo) : Reader WStream MultiScrbltOrder :=
  .all [
    readOrderFieldCoord info 1 (.mk (·.nLeftRect) fun o v => { o with nLeftRect := v }),
    readOrderFieldCoord info 2 (.mk (·.nTopRect) fun o v => { o with nTopRect := v }),
    readOrderFieldCoord info 3 (.mk (·.nWidth) fun o v => { o with nWidth := v }),
    readOrderFieldCoord info 4 (.mk (·.nHeight) fun o v => { o with nHeight := v }),
    readOrderFieldByte info 5 (.mk (·.bRop) fun o v => { o with bRop := v }),
    readOrderFieldCoord info 6 (.mk (·.nXSrc) fun o v => { o with nXSrc := v }),
    readOrderFieldCoord info 7 (.mk (·.nYSrc) fun o v => { o with nYSrc := v }),
    readOrderFieldByte info 8 (.mk (·.numRectangles) fun o v => { o with numRectangles := v }),
    readRects info 9 (.mk (·.numRectangles) fun o v => { o with numRectangles := v })
      (.mk (·.cbData) fun o v => { o with cbData := v })
      (.mk (·.rectangles) fun o v => { o with rectangles := v })]

/-- `update_read_multi_opaque_rect_order`. -/
def updateReadMultiOpaqueRectOrder (info : OrderInfo) : Reader WStream MultiOpaqueRectOrder :=
  .all [
    readOrderFieldCoord info 1 (.mk (·.nLeftRect) fun o v => { o with nLeftRect := v }),
    readOrderFieldCoord info 2 (.mk (·.nTopRect) fun o v => { o with nTopRect := v }),
    readOrderFieldCoord info 3 (.mk (·.nWidth) fun o v => { o with nWidth := v }),
    readOrderFieldCoord info 4 (.mk (·.nHeight) fun o v => { o with nHeight := v }),
    readOrderField info 5 (.mk (·.color) fun o v => { o with color := v })
      (readColorByte 0x00FFFF00 0),
    readOrderField info 6 (.mk (·.color) fun o v => { o with color := v })
      (readColorByte 0x00FF00FF 8),
    readOrderField info 7 (.mk (·.color) fun o v => { o with color := v })
      (readColorByte 0x0000FFFF 16),
    readOrderFieldByte info 8 (.mk (·.numRectangles) fun o v => { o with numRectangles := v }),
    readRects info 9 (.mk (·.numRectangles) fun o v => { o with numRectangles := v })
      (.mk (·.cbData) fun o v => { o with cbData := v })
      (.mk (·.rectangles) fun o v => { o with rectangles := v })]

/-- `update_read_multi_draw_nine_grid_order`. -/
def updateReadMultiDrawNineGridOrder (info : OrderInfo) : Reader WStream MultiDrawNineGridOrder :=
  .all [
    readOrderFieldCoord info 1 (.mk (·.srcLeft) fun o v => { o with srcLeft := v }),
    readOrderFieldCoord info 2 (.mk (·.srcTop) fun o v => { o with srcTop := v }),
    readOrderFieldCoord info 3 (.mk (·.srcRight) fun o v => { o with srcRight := v }),
    readOrderFieldCoord info 4 (.mk (·.srcBottom) fun o v => { o with srcBottom := v }),
    readOrderFieldUint16 info 5 (.mk (·.bitmapId) fun o v => { o with bitmapId := v }),
    readOrderFieldByte info 6 (.mk (·.nDeltaEntries) fun o v => { o with nDeltaEntries := v }),
    readRects info 7 (.mk (·.nDeltaEntries) fun o v => { o with nDeltaEntries := v })
      (.mk (·.cbData) fun o v => { o with cbData := v })
      (.mk (·.rectangles) fun o v => { o with rectangles := v })]

/-- `update_read_line_to_order`. -/
def updateReadLineToOrder (info : OrderInfo) : Reader WStream LineToOrder :=
  .all [
    readOrderFieldUint16 info 1 (.mk (·.backMode) fun o v => { o with backMode := v }),
    readOrderFieldCoord info 2 (.mk (·.nXStart) fun o v => { o with nXStart := v }),
    readOrderFieldCoord info 3 (.mk (·.nYStart) fun o v => { o with nYStart := v }),
    readOrderFieldCoord info 4 (.mk (·.nXEnd) fun o v => { o with nXEnd := v }),
    readOrderFieldCoord info 5 (.mk (·.nYEnd) fun o v => { o with nYEnd := v }),
    readOrderFieldColor info 6 (.mk (·.backColor) fun o v => { o with backColor := v }),
    readOrderFieldByte info 7 (.mk (·.bRop2) fun o v => { o with bRop2 := v }),
    readOrderFieldByte info 8 (.mk (·.penStyle) fun o v => { o with penStyle := v }),
    readOrderFieldByte info 9 (.mk (·.penWidth) fun o v => { o with penWidth := v }),
    readOrderFieldColor info 10 (.mk (·.penColor) fun o v => { o with penColor := v })]

/-- A record with the value of a local variable of the reader, which starts as the old count. -/
def withLocal {α : Type} (count : Member α Nat) (r : Reader WStream (α × Nat)) : Reader WStream α :=
  fun o s => ((r (o, count.get o) s).1.1, (r (o, count.get o) s).2)

/-- `update_read_polyline_order`. -/
def updateReadPolylineOrder (info : OrderInfo) : Reader WStream PolylineOrder :=
  withLocal (.mk (·.numDeltaEntries) fun o v => { o with numDeltaEntries := v }) (.all [
    readOrderFieldCoord info 1 (.mk (·.1.xStart) fun p v => ({ p.1 with xStart := v }, p.2)),
    readOrderFieldCoord info 2 (.mk (·.1.yStart) fun p v => ({ p.1 with yStart := v }, p.2)),
    readOrderFieldByte info 3 (.mk (·.1.bRop2) fun p v => ({ p.1 with bRop2 := v }, p.2)),
    .when (orderFieldFlagIsSet info.fieldFlags 4)
      -- a word that is not kept
      (fun p s => readValue 2 (fun _ => p) p s),
    readOrderFieldColor info 5 (.mk (·.1.penColor) fun p v => ({ p.1 with penColor := v }, p.2)),
    readOrderFieldByte info 6 (.mk (·.2) fun p v => (p.1, v)),
    .choose (fun p => .into (.mk (·.1) fun p v => (v, p.2))
      (readPoints info 7 p.2 (.mk (·.numDeltaEntries) fun o v => { o with numDeltaEntries := v })
        (.mk (·.cbData) fun o v => { o with cbData := v })
        (.mk (·.points) fun o v => { o with points := v })))])

/-- `update_read_memblt_order`. -/
def updateReadMembltOrder (info : OrderInfo) : Reader WStream MembltOrder :=
  .all [
    readOrderFieldUint16 info 1 (.mk (·.cacheId) fun o v => { o with cacheId := v }),
    readOrderFieldCoord info 2 (.mk (·.nLeftRect) fun o v => { o with nLeftRect := v }),
    readOrderFieldCoord info 3 (.mk (·.nTopRect) fun o v => { o with nTopRect := v }),
    readOrderFieldCoord info 4 (.mk (·.nWidth) fun o v => { o with nWidth := v }),
    readOrderFieldCoord info 5 (.mk (·.nHeight) fun o v => { o with nHeight := v }),
    readOrderFieldByte info 6 (.mk (·.bRop) fun o v => { o with bRop := v }),
    readOrderFieldCoord info 7 (.mk (·.nXSrc) fun o v => { o with nXSrc := v }),
    readOrderFieldCoord info 8 (.mk (·.nYSrc) fun o v => { o with nYSrc := v }),
    readOrderFieldUint16 info 9 (.mk (·.cacheIndex) fun o v => { o with cacheIndex := v }),
    .assign (fun o => { o with colorIndex := o.cacheId >>> 8, cacheId := o.cacheId &&& 0xFF })]

/-- `update_read_mem3blt_order`. -/
def updateReadMem3bltOrder (info : OrderInfo) : Reader WStream Mem3bltOrder :=
  .all [
    readOrderFieldUint16 info 1 (.mk (·.cacheId) fun o v => { o with cacheId := v }),
    readOrderFieldCoord info 2 (.mk (·.nLeftRect) fun o v => { o with nLeftRect := v }),
    readOrderFieldCoord info 3 (.mk (·.nTopRect) fun o v => { o with nTopRect := v }),
    readOrderFieldCoord info 4 (.mk (·.nWidth) fun o v => { o with nWidth := v }),
    readOrderFieldCoord info 5 (.mk (·.nHeight) fun o v => { o with nHeight := v }),
    readOrderFieldByte info 6 (.mk (·.bRop) fun o v => { o with bRop := v }),
    readOrderFieldCoord info 7 (.mk (·.nXSrc) fun o v => { o with nXSrc := v }),
    readOrderFieldCoord info 8 (.mk (·.nYSrc) fun o v => { o with nYSrc := v }),
    readOrderFieldColor info 9 (.mk (·.backColor) fun o v => { o with backColor := v }),
    readOrderFieldColor info 10 (.mk (·.foreColor) fun o v => { o with foreColor := v }),
    .into (.mk (·.brush) fun o v => { o with brush := v })
      (updateReadBrush ((info.fieldFlags >>> 10) % 256)),
    readOrderFieldUint16 info 16 (.mk (·.cacheIndex) fun o v => { o with cacheIndex := v }),
    .assign (fun o => { o with colorIndex := o.cacheId >>> 8, cacheId := o.cacheId &&& 0xFF })]

/-- `update_read_save_bitmap_order`. -/
def updateReadSaveBitmapOrder (info : OrderInfo) : Reader WStream SaveBitmapOrder :=
  .all [
    readOrderFieldUint32 info 1
      (.mk (·.savedBitmapPosition) fun o v => { o with savedBitmapPosition := v }),
    readOrderFieldCoord info 2 (.mk (·.nLeftRect) fun o v => { o with nLeftRect := v }),
    readOrderFieldCoord info 3 (.mk (·.nTopRect) fun o v => { o with nTopRect := v }),
    readOrderFieldCoord info 4 (.mk (·.nRightRect) fun o v => { o with nRightRect := v }),
    readOrderFieldCoord info 5 (.mk (·.nBottomRect) fun o v => { o with nBottomRect := v }),
    readOrderFieldByte info 6 (.mk (·.operation) fun o v => { o with operation := v })]

/-- `update_read_glyph_index_order`. -/
def updateReadGlyphIndexOrder (info : OrderInfo) : Reader WStream GlyphIndexOrder :=
  .all [
    readOrderFieldByte info 1 (.mk (·.cacheId) fun o v => { o with cacheId := v }),
    readOrderFieldByte info 2 (.mk (·.flAccel) fun o v => { o with flAccel := v }),
    readOrderFieldByte info 3 (.mk (·.ulCharInc) fun o v => { o with ulCharInc := v }),
    readOrderFieldByte info 4 (.mk (·.fOpRedundant) fun o v => { o with fOpRedundant := v }),
    readOrderFieldColor info 5 (.mk (·.backColor) fun o v => { o with backColor := v }),
    readOrderFieldColor info 6 (.mk (·.foreColor) fun o v => { o with foreColor := v }),
    readOrderFieldInt16 info 7 (.mk (·.bkLeft) fun o v => { o with bkLeft := v }),
    readOrderFieldInt16 info 8 (.mk (·.bkTop) fun o v => { o with bkTop := v }),
    readOrderFieldInt16 info 9 (.mk (·.bkRight) fun o v => { o with bkRight := v }),
    readOrderFieldInt16 info 10 (.mk (·.bkBottom) fun o v => { o with bkBottom := v }),
    readOrderFieldInt16 info 11 (.mk (·.opLeft) fun o v => { o with opLeft := v }),
    readOrderFieldInt16 info 12 (.mk (·.opTop) fun o v => { o with opTop := v }),
    readOrderFieldInt16 info 13 (.mk (·.opRight) fun o v => { o with opRight := v }),
    readOrderFieldInt16 info 14 (.mk (·.opBottom) fun o v => { o with opBottom := v }),
    .into (.mk (·.brush) fun o v => { o with brush := v })
      (updateReadBrush ((info.fieldFlags >>> 14) % 256)),
    readOrderFieldInt16 info 20 (.mk (·.x) fun o v => { o with x := v }),
    readOrderFieldInt16 info 21 (.mk (·.y) fun o v => { o with y := v }),
    readGlyphData info 22 (.mk (·.cbData) fun o v => { o with cbData := v })
      (.mk (·.data) fun o v => { o with data := v })]

/-- `update_read_fast_index_order`. -/
def updateReadFastIndexOrder (info : OrderInfo) : Reader WStream FastIndexOrder :=
  .all [
    readOrderFieldByte info 1 (.mk (·.cacheId) fun o v => { o with cacheId := v }),
    readOrderField2bytes info 2
      (.mk (fun o => (o.ulCharInc, o.flAccel))
        fun o v => { o with ulCharInc := v.1, flAccel := v.2 }),
    readOrderFieldColor info 3 (.mk (·.backColor) fun o v => { o with backColor := v }),
    readOrderFieldColor info 4 (.mk (·.foreColor) fun o v => { o with foreColor := v }),
    readOrderFieldCoord info 5 (.mk (·.bkLeft) fun o v => { o with bkLeft := v }),
    readOrderFieldCoord info 6 (.mk (·.bkTop) fun o v => { o with bkTop := v }),
    readOrderFieldCoord info 7 (.mk (·.bkRight) fun o v => { o with bkRight := v }),
    readOrderFieldCoord info 8 (.mk (·.bkBottom) fun o v => { o with bkBottom := v }),
    readOrderFieldCoord info 9 (.mk (·.opLeft) fun o v => { o with opLeft := v }),
    readOrderFieldCoord info 10 (.mk (·.opTop) fun o v => { o with opTop := v }),
    readOrderFieldCoord info 11 (.mk (·.opRight) fun o v => { o with opRight := v }),
    readOrderFieldCoord info 12 (.mk (·.opBottom) fun o v => { o with opBottom := v }),
    readOrderFieldCoord info 13 (.mk (·.x) fun o v => { o with x := v }),
    readOrderFieldCoord info 14 (.mk (·.y) fun o v => { o with y := v }),
    readGlyphData info 15 (.mk (·.cbData) fun o v => { o with cbData := v })
      (.mk (·.data) fun o v => { o with data := v })]

/-- The glyph in the data of a FastGlyph order. -/
def readFastGlyphData (cbData : Nat) (data : List UInt8) : GlyphDataV2 → GlyphDataV2 × Bool :=
  fun glyph =>
    let sub := WStream.ofBytes data
    let (cacheIndex, sub) := sub.readUInt8
    let r : Reader WStream GlyphDataV2 := .all [
      .into (.mk (·.x) fun g v => { g with x := v }) updateRead2byteSigned,
      .into (.mk (·.y) fun g v => { g with y := v }) updateRead2byteSigned,
      .into (.mk (·.cx) fun g v => { g with cx := v }) updateRead2byteUnsigned,
      .into (.mk (·.cy) fun g v => { g with cy := v }) updateRead2byteUnsigned,
      .check (fun g => g.cx ≠ 0 && g.cy ≠ 0),
      fun g sub => ({ g with cb := sub.remainingLength, aj := sub.unread }, some sub)]
    let (glyph, rest) := Reader.when (cbData > 1) r { glyph with cacheIndex := cacheIndex } sub
    (glyph, rest.isSome)

/-- The data of a FastGlyph order; it is not empty. -/
def readFastGlyph (info : OrderInfo) : Reader WStream FastGlyphOrder :=
  .when (orderFieldFlagIsSet info.fieldFlags 15)
    (.all [
      .into (.mk (·.cbData) fun o v => { o with cbData := v })
        (readValue 1 (fun s => s.readUInt8.1)),
      .check (fun o => o.cbData ≠ 0),
      .choose (fun o => .into (.mk (·.data) fun o v => { o with data := v })
        (readValue o.cbData (fun s => (s.read o.cbData).1))),
      fun o s =>
        let (glyph, ok) := readFastGlyphData o.cbData o.data o.glyphData
        ({ o with glyphData := glyph }, if ok then some s else none)])

/-- `update_read_fast_glyph_order`. -/
def updateReadFastGlyphOrder (info : OrderInfo) : Reader WStream FastGlyphOrder :=
  .all [
    readOrderFieldByte info 1 (.mk (·.cacheId) fun o v => { o with cacheId := v }),
    .check (fun o => o.cacheId ≤ 9),
    readOrderField2bytes info 2
      (.mk (fun o => (o.ulCharInc, o.flAccel))
        fun o v => { o with ulCharInc := v.1, flAccel := v.2 }),
    readOrderFieldColor info 3 (.mk (·.backColor) fun o v => { o with backColor := v }),
    readOrderFieldColor info 4 (.mk (·.foreColor) fun o v => { o with foreColor := v }),
    readOrderFieldCoord info 5 (.mk (·.bkLeft) fun o v => { o with bkLeft := v }),
    readOrderFieldCoord info 6 (.mk (·.bkTop) fun o v => { o with bkTop := v }),
    readOrderFieldCoord info 7 (.mk (·.bkRight) fun o v => { o with bkRight := v }),
    readOrderFieldCoord info 8 (.mk (·.bkBottom) fun o v => { o with bkBottom := v }),
    readOrderFieldCoord info 9 (.mk (·.opLeft) fun o v => { o with opLeft := v }),
    readOrderFieldCoord info 10 (.mk (·.opTop) fun o v => { o with opTop := v }),
    readOrderFieldCoord info 11 (.mk (·.opRight) fun o v => { o with opRight := v }),
    readOrderFieldCoord info 12 (.mk (·.opBottom) fun o v => { o with opBottom := v }),
    readOrderFieldCoord info 13 (.mk (·.x) fun o v => { o with x := v }),
    readOrderFieldCoord info 14 (.mk (·.y) fun o v => { o with y := v }),
    readFastGlyph info]

/-- `update_read_polygon_sc_order`. -/
def updateReadPolygonScOrder (info : OrderInfo) : Reader WStream PolygonScOrder :=
  withLocal (.mk (·.numPoints) fun o v => { o with numPoints := v }) (.all [
    readOrderFieldCoord info 1 (.mk (·.1.xStart) fun p v => ({ p.1 with xStart := v }, p.2)),
    readOrderFieldCoord info 2 (.mk (·.1.yStart) fun p v => ({ p.1 with yStart := v }, p.2)),
    readOrderFieldByte info 3 (.mk (·.1.bRop2) fun p v => ({ p.1 with bRop2 := v }, p.2)),
    readOrderFieldByte info 4 (.mk (·.1.fillMode) fun p v => ({ p.1 with fillMode := v }, p.2)),
    readOrderFieldColor info 5
      (.mk (·.1.brushColor) fun p v => ({ p.1 with brushColor := v }, p.2)),
    readOrderFieldByte info 6 (.mk (·.2) fun p v => (p.1, v)),
    .choose (fun p => .into (.mk (·.1) fun p v => (v, p.2))
      (readPoints info 7 p.2 (.mk (·.numPoints) fun o v => { o with numPoints := v })
        (.mk (·.cbData) fun o v => { o with cbData := v })
        (.mk (·.points) fun o v => { o with points := v })))])

/-- `update_read_polygon_cb_order`. -/
def updateReadPolygonCbOrder (info : OrderInfo) : Reader WStream PolygonCbOrder :=
  withLocal (.mk (·.numPoints) fun o v => { o with numPoints := v }) (.all [
    readOrderFieldCoord info 1 (.mk (·.1.xStart) fun p v => ({ p.1 with xStart := v }, p.2)),
    readOrderFieldCoord info 2 (.mk (·.1.yStart) fun p v => ({ p.1 with yStart := v }, p.2)),
    readOrderFieldByte info 3 (.mk (·.1.bRop2) fun p v => ({ p.1 with bRop2 := v }, p.2)),
    readOrderFieldByte info 4 (.mk (·.1.fillMode) fun p v => ({ p.1 with fillMode := v }, p.2)),
    readOrderFieldColor info 5 (.mk (·.1.backColor) fun p v => ({ p.1 with backColor := v }, p.2)),
    readOrderFieldColor info 6 (.mk (·.1.foreColor) fun p v => ({ p.1 with foreColor := v }, p.2)),
    .into (.mk (·.1.brush) fun p v => ({ p.1 with brush := v }, p.2))
      (updateReadBrush ((info.fieldFlags >>> 6) % 256)),
    readOrderFieldByte info 12 (.mk (·.2) fun p v => (p.1, v)),
    .choose (fun p => .into (.mk (·.1) fun p v => (v, p.2))
      (readPoints info 13 p.2 (.mk (·.numPoints) fun o v => { o with numPoints := v })
        (.mk (·.cbData) fun o v => { o with cbData := v })
        (.mk (·.points) fun o v => { o with points := v }))),
    .into (.mk (·.1) fun p v => (v, p.2)) (.assign (fun o =>
      { o with
        backMode := if o.bRop2 &&& 0x80 ≠ 0 then BACKMODE_TRANSPARENT else BACKMODE_OPAQUE
        bRop2 := o.bRop2 &&& 0x1F }))])

/-- `update_read_ellipse_sc_order`. -/
def updateReadEllipseScOrder (info : OrderInfo) : Reader WStream EllipseScOrder :=
  .all [
    readOrderFieldCoord info 1 (.mk (·.leftRect) fun o v => { o with leftRect := v }),
    readOrderFieldCoord info 2 (.mk (·.topRect) fun o v => { o with topRect := v }),
    readOrderFieldCoord info 3 (.mk (·.rightRect) fun o v => { o with rightRect := v }),
    readOrderFieldCoord info 4 (.mk (·.bottomRect) fun o v => { o with bottomRect := v }),
    readOrderFieldByte info 5 (.mk (·.bRop2) fun o v => { o with bRop2 := v }),
    readOrderFieldByte info 6 (.mk (·.fillMode) fun o v => { o with fillMode := v }),
    readOrderFieldColor info 7 (.mk (·.color) fun o v => { o with color := v })]

/-- `update_read_ellipse_cb_order`. -/
def updateReadEllipseCbOrder (info : OrderInfo) : Reader WStream EllipseCbOrder :=
  .all [
    readOrderFieldCoord info 1 (.mk (·.leftRect) fun o v => { o with leftRect := v }),
    readOrderFieldCoord info 2 (.mk (·.topRect) fun o v => { o with topRect := v }),
    readOrderFieldCoord info 3 (.mk (·.rightRect) fun o v => { o with rightRect := v }),
    readOrderFieldCoord info 4 (.mk (·.bottomRect) fun o v => { o with bottomRect := v }),
    readOrderFieldByte info 5 (.mk (·.bRop2) fun o v => { o with bRop2 := v }),
    readOrderFieldByte info 6 (.mk (·.fillMode) fun o v => { o with fillMode := v }),
    readOrderFieldColor info 7 (.mk (·.backColor) fun o v => { o with backColor := v }),
    readOrderFieldColor info 8 (.mk (·.foreColor) fun o v => { o with foreColor := v }),
    .into (.mk (·.brush) fun o v => { o with brush := v })
      (updateReadBrush ((info.fieldFlags >>> 8) % 256))]

/-! ### Parts of the readers -/

/-- The pattern of a brush. -/
def patternReader (hatch : Nat) : Reader WStream (Bool × Vector UInt8 8) :=
  readValue 7 (fun s => (true, Vector.ofFn (fun i => if i = 0 then UInt8.ofNat hatch
    else UInt8.ofNat (s.byteAt (7 - i)))))

abbrev DeltaPoint.xMember : Member DeltaPoint Int := .mk (·.x) fun p v => { p with x := v }

abbrev DeltaPoint.yMember : Member DeltaPoint Int := .mk (·.y) fun p v => { p with y := v }

-- the members of the records that are counted or that a count depends on

abbrev MultiDstbltOrder.countMember : Member MultiDstbltOrder Nat :=
  .mk (·.numRectangles) fun o v => { o with numRectangles := v }

abbrev MultiScrbltOrder.countMember : Member MultiScrbltOrder Nat :=
  .mk (·.numRectangles) fun o v => { o with numRectangles := v }

abbrev MultiOpaqueRectOrder.countMember : Member MultiOpaqueRectOrder Nat :=
  .mk (·.numRectangles) fun o v => { o with numRectangles := v }

abbrev MultiDrawNineGridOrder.countMember : Member MultiDrawNineGridOrder Nat :=
  .mk (·.nDeltaEntries) fun o v => { o with nDeltaEntries := v }

abbrev MultiPatbltOrder.countMember : Member MultiPatbltOrder Nat :=
  .mk (·.numRectangles) fun o v => { o with numRectangles := v }

abbrev MultiPatbltOrder.brushMember : Member MultiPatbltOrder Brush :=
  .mk (·.brush) fun o v => { o with brush := v }

abbrev PolylineOrder.countMember : Member PolylineOrder Nat :=
  .mk (·.numDeltaEntries) fun o v => { o with numDeltaEntries := v }

abbrev PolylineOrder.pointsMember : Member PolylineOrder (List DeltaPoint) :=
  .mk (·.points) fun o v => { o with points := v }

abbrev PolygonScOrder.countMember : Member PolygonScOrder Nat :=
  .mk (·.numPoints) fun o v => { o with numPoints := v }

abbrev PolygonScOrder.pointsMember : Member PolygonScOrder (List DeltaPoint) :=
  .mk (·.points) fun o v => { o with points := v }

abbrev PolygonCbOrder.countMember : Member PolygonCbOrder Nat :=
  .mk (·.numPoints) fun o v => { o with numPoints := v }

abbrev PolygonCbOrder.pointsMember : Member PolygonCbOrder (List DeltaPoint) :=
  .mk (·.points) fun o v => { o with points := v }

abbrev PolygonCbOrder.brushMember : Member (PolygonCbOrder × Nat) Brush :=
  .mk (·.1.brush) fun p v => ({ p.1 with brush := v }, p.2)

end FreeRdp
