import FreeRdp.Winpr.Stream

/-!
# Primary drawing orders

The records of `primary.h`. A record is at the same time the order that is drawn and what the next
order of its type is decoded against. `INT32` members are integers and `UINT32` members natural
numbers.

Left out are the members no reader or writer uses: the bitmap of MemBlt and Mem3Blt, which is looked
up by the cache, and `opaqueRect` of FastIndex.
-/

namespace FreeRdp

def ORDER_STANDARD : Nat := 0x01
def ORDER_SECONDARY : Nat := 0x02
def ORDER_BOUNDS : Nat := 0x04
def ORDER_TYPE_CHANGE : Nat := 0x08
def ORDER_DELTA_COORDINATES : Nat := 0x10
def ORDER_ZERO_BOUNDS_DELTAS : Nat := 0x20
def ORDER_ZERO_FIELD_BYTE_BIT0 : Nat := 0x40
def ORDER_ZERO_FIELD_BYTE_BIT1 : Nat := 0x80

def BOUND_LEFT : Nat := 0x01
def BOUND_TOP : Nat := 0x02
def BOUND_RIGHT : Nat := 0x04
def BOUND_BOTTOM : Nat := 0x08
def BOUND_DELTA_LEFT : Nat := 0x10
def BOUND_DELTA_TOP : Nat := 0x20
def BOUND_DELTA_RIGHT : Nat := 0x40
def BOUND_DELTA_BOTTOM : Nat := 0x80

def CACHED_BRUSH : Nat := 0x80
def BACKMODE_TRANSPARENT : Nat := 1
def BACKMODE_OPAQUE : Nat := 2

/-- The primary order types. -/
inductive OrderType
  | dstblt | patblt | scrblt | drawNineGrid | multiDrawNineGrid | lineTo | opaqueRect | saveBitmap
  | memblt | mem3blt | multiDstblt | multiPatblt | multiScrblt | multiOpaqueRect | fastIndex
  | polygonSc | polygonCb | polyline | fastGlyph | ellipseSc | ellipseCb | glyphIndex
  deriving DecidableEq, Repr

/-- The `ORDER_TYPE_` constants. -/
def OrderType.code : OrderType → Nat
  | .dstblt => 0x00
  | .patblt => 0x01
  | .scrblt => 0x02
  | .drawNineGrid => 0x07
  | .multiDrawNineGrid => 0x08
  | .lineTo => 0x09
  | .opaqueRect => 0x0A
  | .saveBitmap => 0x0B
  | .memblt => 0x0D
  | .mem3blt => 0x0E
  | .multiDstblt => 0x0F
  | .multiPatblt => 0x10
  | .multiScrblt => 0x11
  | .multiOpaqueRect => 0x12
  | .fastIndex => 0x13
  | .polygonSc => 0x14
  | .polygonCb => 0x15
  | .polyline => 0x16
  | .fastGlyph => 0x18
  | .ellipseSc => 0x19
  | .ellipseCb => 0x1A
  | .glyphIndex => 0x1B

/-- The order type of a code, if it has one. -/
def OrderType.ofCode : Nat → Option OrderType
  | 0x00 => some .dstblt
  | 0x01 => some .patblt
  | 0x02 => some .scrblt
  | 0x07 => some .drawNineGrid
  | 0x08 => some .multiDrawNineGrid
  | 0x09 => some .lineTo
  | 0x0A => some .opaqueRect
  | 0x0B => some .saveBitmap
  | 0x0D => some .memblt
  | 0x0E => some .mem3blt
  | 0x0F => some .multiDstblt
  | 0x10 => some .multiPatblt
  | 0x11 => some .multiScrblt
  | 0x12 => some .multiOpaqueRect
  | 0x13 => some .fastIndex
  | 0x14 => some .polygonSc
  | 0x15 => some .polygonCb
  | 0x16 => some .polyline
  | 0x18 => some .fastGlyph
  | 0x19 => some .ellipseSc
  | 0x1A => some .ellipseCb
  | 0x1B => some .glyphIndex
  | _ => none

@[simp] lemma OrderType.ofCode_code (t : OrderType) : OrderType.ofCode t.code = some t := by
  cases t <;> rfl

/-- `rdpBounds`. -/
structure Bounds where
  left : Int
  top : Int
  right : Int
  bottom : Int
  deriving DecidableEq, Repr, Inhabited

/-- `ORDER_INFO`. -/
structure OrderInfo where
  controlFlags : Nat
  orderType : Nat
  fieldFlags : Nat
  boundsFlags : Nat
  bounds : Bounds
  deltaCoordinates : Bool
  deriving DecidableEq, Repr, Inhabited

/-- `rdpBrush`; `data` says whether the pointer of this name has been set to `p8x8`. -/
structure Brush where
  x : Nat
  y : Nat
  bpp : Nat
  style : Nat
  hatch : Nat
  index : Nat
  data : Bool
  p8x8 : Vector UInt8 8
  deriving DecidableEq, Repr, Inhabited

/-- `DELTA_RECT`. -/
structure DeltaRect where
  left : Int
  top : Int
  width : Int
  height : Int
  deriving DecidableEq, Repr, Inhabited

/-- `DELTA_POINT`. -/
structure DeltaPoint where
  x : Int
  y : Int
  deriving DecidableEq, Repr, Inhabited

/-- `GLYPH_DATA_V2`. -/
structure GlyphDataV2 where
  cacheIndex : Nat
  x : Int
  y : Int
  cx : Nat
  cy : Nat
  cb : Nat
  aj : List UInt8
  deriving DecidableEq, Repr, Inhabited

/-- `DSTBLT_ORDER`. -/
structure DstbltOrder where
  nLeftRect : Int
  nTopRect : Int
  nWidth : Int
  nHeight : Int
  bRop : Nat
  deriving DecidableEq, Repr, Inhabited

/-- `PATBLT_ORDER`. -/
structure PatbltOrder where
  nLeftRect : Int
  nTopRect : Int
  nWidth : Int
  nHeight : Int
  bRop : Nat
  backColor : Nat
  foreColor : Nat
  brush : Brush
  deriving DecidableEq, Repr, Inhabited

/-- `SCRBLT_ORDER`. -/
structure ScrbltOrder where
  nLeftRect : Int
  nTopRect : Int
  nWidth : Int
  nHeight : Int
  bRop : Nat
  nXSrc : Int
  nYSrc : Int
  deriving DecidableEq, Repr, Inhabited

/-- `OPAQUE_RECT_ORDER`. -/
structure OpaqueRectOrder where
  nLeftRect : Int
  nTopRect : Int
  nWidth : Int
  nHeight : Int
  color : Nat
  deriving DecidableEq, Repr, Inhabited

/-- `DRAW_NINE_GRID_ORDER`. -/
structure DrawNineGridOrder where
  srcLeft : Int
  srcTop : Int
  srcRight : Int
  srcBottom : Int
  bitmapId : Nat
  deriving DecidableEq, Repr, Inhabited

/-- `MULTI_DSTBLT_ORDER`. -/
structure MultiDstbltOrder where
  nLeftRect : Int
  nTopRect : Int
  nWidth : Int
  nHeight : Int
  bRop : Nat
  numRectangles : Nat
  cbData : Nat
  rectangles : Vector DeltaRect 45
  deriving DecidableEq, Repr, Inhabited

/-- `MULTI_PATBLT_ORDER`. -/
structure MultiPatbltOrder where
  nLeftRect : Int
  nTopRect : Int
  nWidth : Int
  nHeight : Int
  bRop : Nat
  backColor : Nat
  foreColor : Nat
  brush : Brush
  numRectangles : Nat
  cbData : Nat
  rectangles : Vector DeltaRect 45
  deriving DecidableEq, Repr, Inhabited

/-- `MULTI_SCRBLT_ORDER`. -/
structure MultiScrbltOrder where
  nLeftRect : Int
  nTopRect : Int
  nWidth : Int
  nHeight : Int
  bRop : Nat
  nXSrc : Int
  nYSrc : Int
  numRectangles : Nat
  cbData : Nat
  rectangles : Vector DeltaRect 45
  deriving DecidableEq, Repr, Inhabited

/-- `MULTI_OPAQUE_RECT_ORDER`. -/
structure MultiOpaqueRectOrder where
  nLeftRect : Int
  nTopRect : Int
  nWidth : Int
  nHeight : Int
  color : Nat
  numRectangles : Nat
  cbData : Nat
  rectangles : Vector DeltaRect 45
  deriving DecidableEq, Repr, Inhabited

/-- `MULTI_DRAW_NINE_GRID_ORDER`. -/
structure MultiDrawNineGridOrder where
  srcLeft : Int
  srcTop : Int
  srcRight : Int
  srcBottom : Int
  bitmapId : Nat
  nDeltaEntries : Nat
  cbData : Nat
  rectangles : Vector DeltaRect 45
  deriving DecidableEq, Repr, Inhabited

/-- `LINE_TO_ORDER`. -/
structure LineToOrder where
  backMode : Nat
  nXStart : Int
  nYStart : Int
  nXEnd : Int
  nYEnd : Int
  backColor : Nat
  bRop2 : Nat
  penStyle : Nat
  penWidth : Nat
  penColor : Nat
  deriving DecidableEq, Repr, Inhabited

/-- `POLYLINE_ORDER`; `points` is the allocated array. -/
structure PolylineOrder where
  xStart : Int
  yStart : Int
  bRop2 : Nat
  penColor : Nat
  numDeltaEntries : Nat
  cbData : Nat
  points : List DeltaPoint
  deriving DecidableEq, Repr, Inhabited

/-- `MEMBLT_ORDER`. -/
structure MembltOrder where
  cacheId : Nat
  colorIndex : Nat
  nLeftRect : Int
  nTopRect : Int
  nWidth : Int
  nHeight : Int
  bRop : Nat
  nXSrc : Int
  nYSrc : Int
  cacheIndex : Nat
  deriving DecidableEq, Repr, Inhabited

/-- `MEM3BLT_ORDER`. -/
structure Mem3bltOrder where
  cacheId : Nat
  colorIndex : Nat
  nLeftRect : Int
  nTopRect : Int
  nWidth : Int
  nHeight : Int
  bRop : Nat
  nXSrc : Int
  nYSrc : Int
  backColor : Nat
  foreColor : Nat
  brush : Brush
  cacheIndex : Nat
  deriving DecidableEq, Repr, Inhabited

/-- `SAVE_BITMAP_ORDER`. -/
structure SaveBitmapOrder where
  savedBitmapPosition : Nat
  nLeftRect : Int
  nTopRect : Int
  nRightRect : Int
  nBottomRect : Int
  operation : Nat
  deriving DecidableEq, Repr, Inhabited

/-- `GLYPH_INDEX_ORDER`; `data` has the bytes that were last copied to the buffer of this name. -/
structure GlyphIndexOrder where
  cacheId : Nat
  flAccel : Nat
  ulCharInc : Nat
  fOpRedundant : Nat
  backColor : Nat
  foreColor : Nat
  bkLeft : Int
  bkTop : Int
  bkRight : Int
  bkBottom : Int
  opLeft : Int
  opTop : Int
  opRight : Int
  opBottom : Int
  brush : Brush
  x : Int
  y : Int
  cbData : Nat
  data : List UInt8
  deriving DecidableEq, Repr, Inhabited

/-- `FAST_INDEX_ORDER`. -/
structure FastIndexOrder where
  cacheId : Nat
  flAccel : Nat
  ulCharInc : Nat
  backColor : Nat
  foreColor : Nat
  bkLeft : Int
  bkTop : Int
  bkRight : Int
  bkBottom : Int
  opLeft : Int
  opTop : Int
  opRight : Int
  opBottom : Int
  x : Int
  y : Int
  cbData : Nat
  data : List UInt8
  deriving DecidableEq, Repr, Inhabited

/-- `FAST_GLYPH_ORDER`. -/
structure FastGlyphOrder where
  cacheId : Nat
  flAccel : Nat
  ulCharInc : Nat
  backColor : Nat
  foreColor : Nat
  bkLeft : Int
  bkTop : Int
  bkRight : Int
  bkBottom : Int
  opLeft : Int
  opTop : Int
  opRight : Int
  opBottom : Int
  x : Int
  y : Int
  cbData : Nat
  data : List UInt8
  glyphData : GlyphDataV2
  deriving DecidableEq, Repr, Inhabited

/-- `POLYGON_SC_ORDER`. -/
structure PolygonScOrder where
  xStart : Int
  yStart : Int
  bRop2 : Nat
  fillMode : Nat
  brushColor : Nat
  numPoints : Nat
  cbData : Nat
  points : List DeltaPoint
  deriving DecidableEq, Repr, Inhabited

/-- `POLYGON_CB_ORDER`. -/
structure PolygonCbOrder where
  xStart : Int
  yStart : Int
  bRop2 : Nat
  backMode : Nat
  fillMode : Nat
  backColor : Nat
  foreColor : Nat
  brush : Brush
  numPoints : Nat
  cbData : Nat
  points : List DeltaPoint
  deriving DecidableEq, Repr, Inhabited

/-- `ELLIPSE_SC_ORDER`. -/
structure EllipseScOrder where
  leftRect : Int
  topRect : Int
  rightRect : Int
  bottomRect : Int
  bRop2 : Nat
  fillMode : Nat
  color : Nat
  deriving DecidableEq, Repr, Inhabited

/-- `ELLIPSE_CB_ORDER`. -/
structure EllipseCbOrder where
  leftRect : Int
  topRect : Int
  rightRect : Int
  bottomRect : Int
  bRop2 : Nat
  fillMode : Nat
  backColor : Nat
  foreColor : Nat
  brush : Brush
  deriving DecidableEq, Repr, Inhabited

/-- `rdpPrimaryUpdate`: the order header and one record for each order type. -/
structure PrimaryUpdate where
  orderInfo : OrderInfo
  dstblt : DstbltOrder
  patblt : PatbltOrder
  scrblt : ScrbltOrder
  opaqueRect : OpaqueRectOrder
  drawNineGrid : DrawNineGridOrder
  multiDstblt : MultiDstbltOrder
  multiPatblt : MultiPatbltOrder
  multiScrblt : MultiScrbltOrder
  multiOpaqueRect : MultiOpaqueRectOrder
  multiDrawNineGrid : MultiDrawNineGridOrder
  lineTo : LineToOrder
  polyline : PolylineOrder
  memblt : MembltOrder
  mem3blt : Mem3bltOrder
  saveBitmap : SaveBitmapOrder
  glyphIndex : GlyphIndexOrder
  fastIndex : FastIndexOrder
  fastGlyph : FastGlyphOrder
  polygonSc : PolygonScOrder
  polygonCb : PolygonCbOrder
  ellipseSc : EllipseScOrder
  ellipseCb : EllipseCbOrder
  deriving DecidableEq, Repr, Inhabited

/-- The records as `update_reset_state` leaves them: everything is zero, the order type PatBlt. -/
def updateResetState : PrimaryUpdate :=
  { (default : PrimaryUpdate) with
    orderInfo := { (default : OrderInfo) with orderType := OrderType.patblt.code } }

end FreeRdp
