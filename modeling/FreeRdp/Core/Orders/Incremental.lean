import FreeRdp.Core.Orders.Primary

/-!
# Orders as updates of their fields

What a primary order means: each field of the record has its old value, or, if the flag of the field
is set, the value on the wire, which may be given as a difference to the old one. The fields follow
each other on the wire in the order of their flags. A field the source keeps in several members is
one field here: the word with the cache id and the color index, the byte with the raster operation
and the background mode, the length and the contents of a list.
-/

namespace FreeRdp

section Values

variable {β : Type}

/-- The value of a field after an order. -/
def orderValue (info : OrderInfo) (number : Nat) (r : Reader WStream β) (old : β) :
    StateT WStream Option β :=
  if orderFieldFlagIsSet info.fieldFlags number then r.parse old else pure old

def coordValue (info : OrderInfo) (number : Nat) (old : Int) : StateT WStream Option Int :=
  orderValue info number (updateReadCoord info.deltaCoordinates) old

def byteValue (info : OrderInfo) (number : Nat) (old : Nat) : StateT WStream Option Nat :=
  orderValue info number (readValue 1 (fun s => s.readUInt8.1)) old

def uint16Value (info : OrderInfo) (number : Nat) (old : Nat) : StateT WStream Option Nat :=
  orderValue info number (readValue 2 (fun s => s.readUInt16.1)) old

def int16Value (info : OrderInfo) (number : Nat) (old : Int) : StateT WStream Option Int :=
  orderValue info number (readValue 2 (fun s => toSigned 16 s.readUInt16.1)) old

def uint32Value (info : OrderInfo) (number : Nat) (old : Nat) : StateT WStream Option Nat :=
  orderValue info number (readValue 4 (fun s => s.readUInt32.1)) old

def colorValue (info : OrderInfo) (number : Nat) (old : Nat) : StateT WStream Option Nat :=
  orderValue info number updateReadColor old

/-- The three bytes of the color of an opaque rectangle are fields of their own. -/
def opaqueColorUpdated (info : OrderInfo) (color : Nat) : StateT WStream Option Nat := do
  let red ← byteValue info 5 (color % 256)
  let green ← byteValue info 6 (color / 256 % 256)
  let blue ← byteValue info 7 (color / 65536)
  return red + 256 * green + 65536 * blue

/-- Two bytes. -/
def twoBytesReader : Reader WStream (Nat × Nat) := readValue 2 (fun s => (s.byteAt 0, s.byteAt 1))

/-- The word with the cache id and the color index. -/
def cacheIdReader : Reader WStream (Nat × Nat) :=
  readValue 2 (fun s => (s.readUInt16.1 &&& 0xFF, s.readUInt16.1 >>> 8))

/-- The byte with the raster operation and the background mode. -/
def bRop2Reader : Reader WStream (Nat × Nat) :=
  readValue 1 (fun s => (s.readUInt8.1 &&& 0x1F,
    if s.readUInt8.1 &&& 0x80 ≠ 0 then BACKMODE_TRANSPARENT else BACKMODE_OPAQUE))

/-- The length of the data and the rectangles. -/
def rectsReader (number : Nat) : Reader WStream (Nat × Vector DeltaRect 45) :=
  .all [
    .into (.mk (·.1) fun p v => (v, p.2)) (readValue 2 (fun s => s.readUInt16.1)),
    .into (.mk (·.2) fun p v => (p.1, v)) (updateReadDeltaRects number)]

/-- The length of the data and the points. -/
def pointsReader (number : Nat) : Reader WStream (Nat × List DeltaPoint) :=
  .all [
    .check (fun _ => number ≠ 0),
    .into (.mk (·.1) fun p v => (v, p.2)) (readValue 1 (fun s => s.readUInt8.1)),
    .into (.mk (·.2) fun p v => (p.1, v)) (updateReadDeltaPoints number)]

/-- The length of the data and the data. -/
def glyphDataReader : Reader WStream (Nat × List UInt8) :=
  .all [
    .into (.mk (·.1) fun p v => (v, p.2)) (readValue 1 (fun s => s.readUInt8.1)),
    .choose (fun p => .into (.mk (·.2) fun p v => (p.1, v))
      (readValue p.1 (fun s => (s.read p.1).1)))]

/-- The length of the data, the data, and the glyph that is in it. -/
def fastGlyphReader : Reader WStream (Nat × List UInt8 × GlyphDataV2) :=
  .all [
    .into (.mk (·.1) fun p v => (v, p.2)) (readValue 1 (fun s => s.readUInt8.1)),
    .check (fun p => p.1 ≠ 0),
    .choose (fun p => .into (.mk (·.2.1) fun p v => (p.1, v, p.2.2))
      (readValue p.1 (fun s => (s.read p.1).1))),
    fun p s =>
      let (glyph, ok) := readFastGlyphData p.1 p.2.1 p.2.2
      ((p.1, p.2.1, glyph), if ok then some s else none)]

end Values

/-- The index and the depth of a cached brush go with its style and hatch. -/
def cachedBrushValue (changed : Bool) (style hatch : Nat) (old : Nat × Nat) :
    StateT WStream Option (Nat × Nat) := fun s =>
  if changed && style &&& CACHED_BRUSH ≠ 0 then
    (getBmfBpp style).map (fun bpp => ((hatch, bpp), s))
  else some (old, s)

/-- The field flags of a brush as an order header. -/
def brushInfo (fieldFlags : Nat) : OrderInfo :=
  { (default : OrderInfo) with fieldFlags := fieldFlags }

/-- A brush. -/
def brushUpdated (fieldFlags : Nat) (b : Brush) : StateT WStream Option Brush := do
  let x ← byteValue (brushInfo fieldFlags) 1 b.x
  let y ← byteValue (brushInfo fieldFlags) 2 b.y
  let style ← byteValue (brushInfo fieldFlags) 3 b.style
  let hatch ← byteValue (brushInfo fieldFlags) 4 b.hatch
  let changed := orderFieldFlagIsSet fieldFlags 3 || orderFieldFlagIsSet fieldFlags 4
  let (index, bpp) ← cachedBrushValue changed style hatch (b.index, b.bpp)
  let (data, p8x8) ← orderValue (brushInfo fieldFlags) 5 (patternReader hatch) (b.data, b.p8x8)
  return { x, y, bpp, style, hatch, index, data, p8x8 }

/-- The background mode of a polygon. It is 0 only before the first order, where the raster
operation is 0 too and stands for an opaque background. -/
def polygonBackMode (o : PolygonCbOrder) : Nat :=
  if o.backMode = 0 then BACKMODE_OPAQUE else o.backMode

/-- A DstBlt order. -/
def dstbltUpdated (info : OrderInfo) (o : DstbltOrder) :
    StateT WStream Option DstbltOrder := do
  let nLeftRect ← coordValue info 1 o.nLeftRect
  let nTopRect ← coordValue info 2 o.nTopRect
  let nWidth ← coordValue info 3 o.nWidth
  let nHeight ← coordValue info 4 o.nHeight
  let bRop ← byteValue info 5 o.bRop
  return { nLeftRect, nTopRect, nWidth, nHeight, bRop }

/-- A PatBlt order. -/
def patbltUpdated (info : OrderInfo) (o : PatbltOrder) :
    StateT WStream Option PatbltOrder := do
  let nLeftRect ← coordValue info 1 o.nLeftRect
  let nTopRect ← coordValue info 2 o.nTopRect
  let nWidth ← coordValue info 3 o.nWidth
  let nHeight ← coordValue info 4 o.nHeight
  let bRop ← byteValue info 5 o.bRop
  let backColor ← colorValue info 6 o.backColor
  let foreColor ← colorValue info 7 o.foreColor
  let brush ← brushUpdated ((info.fieldFlags >>> 7) % 256) o.brush
  return { nLeftRect, nTopRect, nWidth, nHeight, bRop, backColor, foreColor, brush }

/-- A ScrBlt order. -/
def scrbltUpdated (info : OrderInfo) (o : ScrbltOrder) :
    StateT WStream Option ScrbltOrder := do
  let nLeftRect ← coordValue info 1 o.nLeftRect
  let nTopRect ← coordValue info 2 o.nTopRect
  let nWidth ← coordValue info 3 o.nWidth
  let nHeight ← coordValue info 4 o.nHeight
  let bRop ← byteValue info 5 o.bRop
  let nXSrc ← coordValue info 6 o.nXSrc
  let nYSrc ← coordValue info 7 o.nYSrc
  return { nLeftRect, nTopRect, nWidth, nHeight, bRop, nXSrc, nYSrc }

/-- An OpaqueRect order. -/
def opaqueRectUpdated (info : OrderInfo) (o : OpaqueRectOrder) :
    StateT WStream Option OpaqueRectOrder := do
  let nLeftRect ← coordValue info 1 o.nLeftRect
  let nTopRect ← coordValue info 2 o.nTopRect
  let nWidth ← coordValue info 3 o.nWidth
  let nHeight ← coordValue info 4 o.nHeight
  let color ← opaqueColorUpdated info o.color
  return { nLeftRect, nTopRect, nWidth, nHeight, color }

/-- A DrawNineGrid order. -/
def drawNineGridUpdated (info : OrderInfo) (o : DrawNineGridOrder) :
    StateT WStream Option DrawNineGridOrder := do
  let srcLeft ← coordValue info 1 o.srcLeft
  let srcTop ← coordValue info 2 o.srcTop
  let srcRight ← coordValue info 3 o.srcRight
  let srcBottom ← coordValue info 4 o.srcBottom
  let bitmapId ← uint16Value info 5 o.bitmapId
  return { srcLeft, srcTop, srcRight, srcBottom, bitmapId }

/-- A MultiDstBlt order. -/
def multiDstbltUpdated (info : OrderInfo) (o : MultiDstbltOrder) :
    StateT WStream Option MultiDstbltOrder := do
  let nLeftRect ← coordValue info 1 o.nLeftRect
  let nTopRect ← coordValue info 2 o.nTopRect
  let nWidth ← coordValue info 3 o.nWidth
  let nHeight ← coordValue info 4 o.nHeight
  let bRop ← byteValue info 5 o.bRop
  let numRectangles ← byteValue info 6 o.numRectangles
  let (cbData, rectangles) ← orderValue info 7 (rectsReader numRectangles) (o.cbData, o.rectangles)
  return { nLeftRect, nTopRect, nWidth, nHeight, bRop, numRectangles, cbData, rectangles }

/-- A MultiPatBlt order. -/
def multiPatbltUpdated (info : OrderInfo) (o : MultiPatbltOrder) :
    StateT WStream Option MultiPatbltOrder := do
  let nLeftRect ← coordValue info 1 o.nLeftRect
  let nTopRect ← coordValue info 2 o.nTopRect
  let nWidth ← coordValue info 3 o.nWidth
  let nHeight ← coordValue info 4 o.nHeight
  let bRop ← byteValue info 5 o.bRop
  let backColor ← colorValue info 6 o.backColor
  let foreColor ← colorValue info 7 o.foreColor
  let brush ← brushUpdated ((info.fieldFlags >>> 7) % 256) o.brush
  let numRectangles ← byteValue info 13 o.numRectangles
  let (cbData, rectangles) ← orderValue info 14 (rectsReader numRectangles) (o.cbData, o.rectangles)
  return { nLeftRect, nTopRect, nWidth, nHeight, bRop, backColor, foreColor, brush,
           numRectangles, cbData, rectangles }

/-- A MultiScrBlt order. -/
def multiScrbltUpdated (info : OrderInfo) (o : MultiScrbltOrder) :
    StateT WStream Option MultiScrbltOrder := do
  let nLeftRect ← coordValue info 1 o.nLeftRect
  let nTopRect ← coordValue info 2 o.nTopRect
  let nWidth ← coordValue info 3 o.nWidth
  let nHeight ← coordValue info 4 o.nHeight
  let bRop ← byteValue info 5 o.bRop
  let nXSrc ← coordValue info 6 o.nXSrc
  let nYSrc ← coordValue info 7 o.nYSrc
  let numRectangles ← byteValue info 8 o.numRectangles
  let (cbData, rectangles) ← orderValue info 9 (rectsReader numRectangles) (o.cbData, o.rectangles)
  return { nLeftRect, nTopRect, nWidth, nHeight, bRop, nXSrc, nYSrc, numRectangles, cbData,
           rectangles }

/-- A MultiOpaqueRect order. -/
def multiOpaqueRectUpdated (info : OrderInfo) (o : MultiOpaqueRectOrder) :
    StateT WStream Option MultiOpaqueRectOrder := do
  let nLeftRect ← coordValue info 1 o.nLeftRect
  let nTopRect ← coordValue info 2 o.nTopRect
  let nWidth ← coordValue info 3 o.nWidth
  let nHeight ← coordValue info 4 o.nHeight
  let color ← opaqueColorUpdated info o.color
  let numRectangles ← byteValue info 8 o.numRectangles
  let (cbData, rectangles) ← orderValue info 9 (rectsReader numRectangles) (o.cbData, o.rectangles)
  return { nLeftRect, nTopRect, nWidth, nHeight, color, numRectangles, cbData, rectangles }

/-- A MultiDrawNineGrid order. -/
def multiDrawNineGridUpdated (info : OrderInfo) (o : MultiDrawNineGridOrder) :
    StateT WStream Option MultiDrawNineGridOrder := do
  let srcLeft ← coordValue info 1 o.srcLeft
  let srcTop ← coordValue info 2 o.srcTop
  let srcRight ← coordValue info 3 o.srcRight
  let srcBottom ← coordValue info 4 o.srcBottom
  let bitmapId ← uint16Value info 5 o.bitmapId
  let nDeltaEntries ← byteValue info 6 o.nDeltaEntries
  let (cbData, rectangles) ← orderValue info 7 (rectsReader nDeltaEntries) (o.cbData, o.rectangles)
  return { srcLeft, srcTop, srcRight, srcBottom, bitmapId, nDeltaEntries, cbData, rectangles }

/-- A LineTo order. -/
def lineToUpdated (info : OrderInfo) (o : LineToOrder) :
    StateT WStream Option LineToOrder := do
  let backMode ← uint16Value info 1 o.backMode
  let nXStart ← coordValue info 2 o.nXStart
  let nYStart ← coordValue info 3 o.nYStart
  let nXEnd ← coordValue info 4 o.nXEnd
  let nYEnd ← coordValue info 5 o.nYEnd
  let backColor ← colorValue info 6 o.backColor
  let bRop2 ← byteValue info 7 o.bRop2
  let penStyle ← byteValue info 8 o.penStyle
  let penWidth ← byteValue info 9 o.penWidth
  let penColor ← colorValue info 10 o.penColor
  return { backMode, nXStart, nYStart, nXEnd, nYEnd, backColor, bRop2, penStyle, penWidth,
           penColor }

/-- A Polyline order. -/
def polylineUpdated (info : OrderInfo) (o : PolylineOrder) :
    StateT WStream Option PolylineOrder := do
  let xStart ← coordValue info 1 o.xStart
  let yStart ← coordValue info 2 o.yStart
  let bRop2 ← byteValue info 3 o.bRop2
  let _ ← uint16Value info 4 0
  let penColor ← colorValue info 5 o.penColor
  let numDeltaEntries ← byteValue info 6 o.numDeltaEntries
  let (cbData, points) ← orderValue info 7 (pointsReader numDeltaEntries) (o.cbData, o.points)
  return { xStart, yStart, bRop2, penColor, numDeltaEntries, cbData, points }

/-- A MemBlt order. -/
def membltUpdated (info : OrderInfo) (o : MembltOrder) :
    StateT WStream Option MembltOrder := do
  let (cacheId, colorIndex) ← orderValue info 1 cacheIdReader (o.cacheId, o.colorIndex)
  let nLeftRect ← coordValue info 2 o.nLeftRect
  let nTopRect ← coordValue info 3 o.nTopRect
  let nWidth ← coordValue info 4 o.nWidth
  let nHeight ← coordValue info 5 o.nHeight
  let bRop ← byteValue info 6 o.bRop
  let nXSrc ← coordValue info 7 o.nXSrc
  let nYSrc ← coordValue info 8 o.nYSrc
  let cacheIndex ← uint16Value info 9 o.cacheIndex
  return { cacheId, colorIndex, nLeftRect, nTopRect, nWidth, nHeight, bRop, nXSrc, nYSrc,
           cacheIndex }

/-- A Mem3Blt order. -/
def mem3bltUpdated (info : OrderInfo) (o : Mem3bltOrder) :
    StateT WStream Option Mem3bltOrder := do
  let (cacheId, colorIndex) ← orderValue info 1 cacheIdReader (o.cacheId, o.colorIndex)
  let nLeftRect ← coordValue info 2 o.nLeftRect
  let nTopRect ← coordValue info 3 o.nTopRect
  let nWidth ← coordValue info 4 o.nWidth
  let nHeight ← coordValue info 5 o.nHeight
  let bRop ← byteValue info 6 o.bRop
  let nXSrc ← coordValue info 7 o.nXSrc
  let nYSrc ← coordValue info 8 o.nYSrc
  let backColor ← colorValue info 9 o.backColor
  let foreColor ← colorValue info 10 o.foreColor
  let brush ← brushUpdated ((info.fieldFlags >>> 10) % 256) o.brush
  let cacheIndex ← uint16Value info 16 o.cacheIndex
  return { cacheId, colorIndex, nLeftRect, nTopRect, nWidth, nHeight, bRop, nXSrc, nYSrc,
           backColor, foreColor, brush, cacheIndex }

/-- A SaveBitmap order. -/
def saveBitmapUpdated (info : OrderInfo) (o : SaveBitmapOrder) :
    StateT WStream Option SaveBitmapOrder := do
  let savedBitmapPosition ← uint32Value info 1 o.savedBitmapPosition
  let nLeftRect ← coordValue info 2 o.nLeftRect
  let nTopRect ← coordValue info 3 o.nTopRect
  let nRightRect ← coordValue info 4 o.nRightRect
  let nBottomRect ← coordValue info 5 o.nBottomRect
  let operation ← byteValue info 6 o.operation
  return { savedBitmapPosition, nLeftRect, nTopRect, nRightRect, nBottomRect, operation }

/-- A GlyphIndex order. -/
def glyphIndexUpdated (info : OrderInfo) (o : GlyphIndexOrder) :
    StateT WStream Option GlyphIndexOrder := do
  let cacheId ← byteValue info 1 o.cacheId
  let flAccel ← byteValue info 2 o.flAccel
  let ulCharInc ← byteValue info 3 o.ulCharInc
  let fOpRedundant ← byteValue info 4 o.fOpRedundant
  let backColor ← colorValue info 5 o.backColor
  let foreColor ← colorValue info 6 o.foreColor
  let bkLeft ← int16Value info 7 o.bkLeft
  let bkTop ← int16Value info 8 o.bkTop
  let bkRight ← int16Value info 9 o.bkRight
  let bkBottom ← int16Value info 10 o.bkBottom
  let opLeft ← int16Value info 11 o.opLeft
  let opTop ← int16Value info 12 o.opTop
  let opRight ← int16Value info 13 o.opRight
  let opBottom ← int16Value info 14 o.opBottom
  let brush ← brushUpdated ((info.fieldFlags >>> 14) % 256) o.brush
  let x ← int16Value info 20 o.x
  let y ← int16Value info 21 o.y
  let (cbData, data) ← orderValue info 22 glyphDataReader (o.cbData, o.data)
  return { cacheId, flAccel, ulCharInc, fOpRedundant, backColor, foreColor, bkLeft, bkTop,
           bkRight, bkBottom, opLeft, opTop, opRight, opBottom, brush, x, y, cbData, data }

/-- A FastIndex order. -/
def fastIndexUpdated (info : OrderInfo) (o : FastIndexOrder) :
    StateT WStream Option FastIndexOrder := do
  let cacheId ← byteValue info 1 o.cacheId
  let (ulCharInc, flAccel) ← orderValue info 2 twoBytesReader (o.ulCharInc, o.flAccel)
  let backColor ← colorValue info 3 o.backColor
  let foreColor ← colorValue info 4 o.foreColor
  let bkLeft ← coordValue info 5 o.bkLeft
  let bkTop ← coordValue info 6 o.bkTop
  let bkRight ← coordValue info 7 o.bkRight
  let bkBottom ← coordValue info 8 o.bkBottom
  let opLeft ← coordValue info 9 o.opLeft
  let opTop ← coordValue info 10 o.opTop
  let opRight ← coordValue info 11 o.opRight
  let opBottom ← coordValue info 12 o.opBottom
  let x ← coordValue info 13 o.x
  let y ← coordValue info 14 o.y
  let (cbData, data) ← orderValue info 15 glyphDataReader (o.cbData, o.data)
  return { cacheId, flAccel, ulCharInc, backColor, foreColor, bkLeft, bkTop, bkRight, bkBottom,
           opLeft, opTop, opRight, opBottom, x, y, cbData, data }

/-- A FastGlyph order. -/
def fastGlyphUpdated (info : OrderInfo) (o : FastGlyphOrder) :
    StateT WStream Option FastGlyphOrder := do
  let cacheId ← byteValue info 1 o.cacheId
  Reader.require (cacheId ≤ 9)
  let (ulCharInc, flAccel) ← orderValue info 2 twoBytesReader (o.ulCharInc, o.flAccel)
  let backColor ← colorValue info 3 o.backColor
  let foreColor ← colorValue info 4 o.foreColor
  let bkLeft ← coordValue info 5 o.bkLeft
  let bkTop ← coordValue info 6 o.bkTop
  let bkRight ← coordValue info 7 o.bkRight
  let bkBottom ← coordValue info 8 o.bkBottom
  let opLeft ← coordValue info 9 o.opLeft
  let opTop ← coordValue info 10 o.opTop
  let opRight ← coordValue info 11 o.opRight
  let opBottom ← coordValue info 12 o.opBottom
  let x ← coordValue info 13 o.x
  let y ← coordValue info 14 o.y
  let (cbData, data, glyphData) ← orderValue info 15 fastGlyphReader (o.cbData, o.data, o.glyphData)
  return { cacheId, flAccel, ulCharInc, backColor, foreColor, bkLeft, bkTop, bkRight, bkBottom,
           opLeft, opTop, opRight, opBottom, x, y, cbData, data, glyphData }

/-- A PolygonSC order. -/
def polygonScUpdated (info : OrderInfo) (o : PolygonScOrder) :
    StateT WStream Option PolygonScOrder := do
  let xStart ← coordValue info 1 o.xStart
  let yStart ← coordValue info 2 o.yStart
  let bRop2 ← byteValue info 3 o.bRop2
  let fillMode ← byteValue info 4 o.fillMode
  let brushColor ← colorValue info 5 o.brushColor
  let numPoints ← byteValue info 6 o.numPoints
  let (cbData, points) ← orderValue info 7 (pointsReader numPoints) (o.cbData, o.points)
  return { xStart, yStart, bRop2, fillMode, brushColor, numPoints, cbData, points }

/-- A PolygonCB order. -/
def polygonCbUpdated (info : OrderInfo) (o : PolygonCbOrder) :
    StateT WStream Option PolygonCbOrder := do
  let xStart ← coordValue info 1 o.xStart
  let yStart ← coordValue info 2 o.yStart
  let (bRop2, backMode) ← orderValue info 3 bRop2Reader (o.bRop2, polygonBackMode o)
  let fillMode ← byteValue info 4 o.fillMode
  let backColor ← colorValue info 5 o.backColor
  let foreColor ← colorValue info 6 o.foreColor
  let brush ← brushUpdated ((info.fieldFlags >>> 6) % 256) o.brush
  let numPoints ← byteValue info 12 o.numPoints
  let (cbData, points) ← orderValue info 13 (pointsReader numPoints) (o.cbData, o.points)
  return { xStart, yStart, bRop2, backMode, fillMode, backColor, foreColor, brush, numPoints,
           cbData, points }

/-- An EllipseSC order. -/
def ellipseScUpdated (info : OrderInfo) (o : EllipseScOrder) :
    StateT WStream Option EllipseScOrder := do
  let leftRect ← coordValue info 1 o.leftRect
  let topRect ← coordValue info 2 o.topRect
  let rightRect ← coordValue info 3 o.rightRect
  let bottomRect ← coordValue info 4 o.bottomRect
  let bRop2 ← byteValue info 5 o.bRop2
  let fillMode ← byteValue info 6 o.fillMode
  let color ← colorValue info 7 o.color
  return { leftRect, topRect, rightRect, bottomRect, bRop2, fillMode, color }

/-- An EllipseCB order. -/
def ellipseCbUpdated (info : OrderInfo) (o : EllipseCbOrder) :
    StateT WStream Option EllipseCbOrder := do
  let leftRect ← coordValue info 1 o.leftRect
  let topRect ← coordValue info 2 o.topRect
  let rightRect ← coordValue info 3 o.rightRect
  let bottomRect ← coordValue info 4 o.bottomRect
  let bRop2 ← byteValue info 5 o.bRop2
  let fillMode ← byteValue info 6 o.fillMode
  let backColor ← colorValue info 7 o.backColor
  let foreColor ← colorValue info 8 o.foreColor
  let brush ← brushUpdated ((info.fieldFlags >>> 8) % 256) o.brush
  return { leftRect, topRect, rightRect, bottomRect, bRop2, fillMode, backColor, foreColor,
           brush }

/-- An order changes the record of its type. -/
def primaryUpdated (info : OrderInfo) (p : PrimaryUpdate) : StateT WStream Option PrimaryUpdate :=
  match OrderType.ofCode info.orderType with
  | some .dstblt => return { p with dstblt := ← dstbltUpdated info p.dstblt }
  | some .patblt => return { p with patblt := ← patbltUpdated info p.patblt }
  | some .scrblt => return { p with scrblt := ← scrbltUpdated info p.scrblt }
  | some .opaqueRect => return { p with opaqueRect := ← opaqueRectUpdated info p.opaqueRect }
  | some .drawNineGrid =>
    return { p with drawNineGrid := ← drawNineGridUpdated info p.drawNineGrid }
  | some .multiDstblt => return { p with multiDstblt := ← multiDstbltUpdated info p.multiDstblt }
  | some .multiPatblt => return { p with multiPatblt := ← multiPatbltUpdated info p.multiPatblt }
  | some .multiScrblt => return { p with multiScrblt := ← multiScrbltUpdated info p.multiScrblt }
  | some .multiOpaqueRect =>
    return { p with multiOpaqueRect := ← multiOpaqueRectUpdated info p.multiOpaqueRect }
  | some .multiDrawNineGrid =>
    return { p with multiDrawNineGrid := ← multiDrawNineGridUpdated info p.multiDrawNineGrid }
  | some .lineTo => return { p with lineTo := ← lineToUpdated info p.lineTo }
  | some .polyline => return { p with polyline := ← polylineUpdated info p.polyline }
  | some .memblt => return { p with memblt := ← membltUpdated info p.memblt }
  | some .mem3blt => return { p with mem3blt := ← mem3bltUpdated info p.mem3blt }
  | some .saveBitmap => return { p with saveBitmap := ← saveBitmapUpdated info p.saveBitmap }
  | some .glyphIndex => return { p with glyphIndex := ← glyphIndexUpdated info p.glyphIndex }
  | some .fastIndex => return { p with fastIndex := ← fastIndexUpdated info p.fastIndex }
  | some .fastGlyph => return { p with fastGlyph := ← fastGlyphUpdated info p.fastGlyph }
  | some .polygonSc => return { p with polygonSc := ← polygonScUpdated info p.polygonSc }
  | some .polygonCb => return { p with polygonCb := ← polygonCbUpdated info p.polygonCb }
  | some .ellipseSc => return { p with ellipseSc := ← ellipseScUpdated info p.ellipseSc }
  | some .ellipseCb => return { p with ellipseCb := ← ellipseCbUpdated info p.ellipseCb }
  | none => return p

end FreeRdp
