import FreeRdp.Core.Orders.Read

/-!
# Receiving primary orders

`update_recv_primary_order`: the header with the field flags and the bounds, the fields of the
order, and the callbacks. What a callback does with the order is not modelled; it may fail.
-/

namespace FreeRdp

/-- What `rdpSettings` says about orders: `OrderSupport` and `AllowUnanouncedOrdersFromServer`. -/
structure OrderSettings where
  orderSupport : Nat → Bool
  allowUnanouncedOrdersFromServer : Bool

/-- The `OrderSupport` entries that allow an order type. PatBlt and OpaqueRect imply each other. -/
def orderSupportIndices : OrderType → List Nat
  | .dstblt => [0x00]
  | .scrblt => [0x02]
  | .drawNineGrid => [0x07]
  | .multiDrawNineGrid => [0x09]
  | .lineTo => [0x08]
  | .patblt => [0x0A, 0x01]
  | .opaqueRect => [0x0A, 0x01]
  | .saveBitmap => [0x0B]
  | .memblt => [0x03]
  | .mem3blt => [0x04]
  | .multiDstblt => [0x0F]
  | .multiPatblt => [0x10]
  -- the source asks for NEG_MULTIDSTBLT_INDEX here
  | .multiScrblt => [0x0F]
  | .multiOpaqueRect => [0x12]
  | .fastIndex => [0x13]
  | .polygonSc => [0x14]
  | .polygonCb => [0x15]
  | .polyline => [0x16]
  | .fastGlyph => [0x18]
  | .ellipseSc => [0x19]
  | .ellipseCb => [0x1A]
  | .glyphIndex => [0x1B]

/-- `check_primary_order_supported`. -/
def checkPrimaryOrderSupported (settings : OrderSettings) (orderType : Nat) : Bool :=
  let condition := match OrderType.ofCode orderType with
    | some t => (orderSupportIndices t).any settings.orderSupport
    | none => false
  condition || settings.allowUnanouncedOrdersFromServer

/-- `get_primary_drawing_order_field_bytes`, `none` where it is not valid. -/
def getPrimaryDrawingOrderFieldBytes (orderType : Nat) : Option Nat :=
  [1, 2, 1, 0, 0, 0, 0, 1, 1, 2, 1, 1, 0, 2, 3, 1, 2, 2, 2, 2, 1, 2, 1, 0, 2, 1, 2, 3][orderType]?

/-- `update_read_field_flags`: the flags and the stream after them. -/
def updateReadFieldFlags (s : WStream) (flags fieldBytes : Nat) : Option (Nat × WStream) :=
  let fieldBytes := if flags &&& ORDER_ZERO_FIELD_BYTE_BIT0 ≠ 0 then (fieldBytes + 255) % 256
    else fieldBytes
  let fieldBytes := if flags &&& ORDER_ZERO_FIELD_BYTE_BIT1 ≠ 0 then fieldBytes - 2 else fieldBytes
  if s.remainingLength < fieldBytes then none
  else
    some ((List.range fieldBytes).foldl
      (fun fieldFlags i => (fieldFlags ||| s.byteAt i <<< (i * 8)) % 2 ^ 32) 0, s.seek fieldBytes)

/-- A coordinate of the bounds: it is there as a number or as a difference. -/
def readBound (flags bound boundDelta : Nat) (target : Member Bounds Int) : Reader WStream Bounds :=
  if flags &&& bound ≠ 0 then .into target (updateReadCoord false)
  else .when (flags &&& boundDelta ≠ 0) (.into target (updateReadCoord true))

/-- `update_read_bounds`. -/
def updateReadBounds : Reader WStream Bounds := fun bounds s =>
  if s.remainingLength < 1 then (bounds, none)
  else
    let (flags, s) := s.readUInt8
    Reader.all [
      readBound flags BOUND_LEFT BOUND_DELTA_LEFT (.mk (·.left) fun b v => { b with left := v }),
      readBound flags BOUND_TOP BOUND_DELTA_TOP (.mk (·.top) fun b v => { b with top := v }),
      readBound flags BOUND_RIGHT BOUND_DELTA_RIGHT
        (.mk (·.right) fun b v => { b with right := v }),
      readBound flags BOUND_BOTTOM BOUND_DELTA_BOTTOM
        (.mk (·.bottom) fun b v => { b with bottom := v })] bounds s

/-- `read_primary_order`; orders it does not know are ignored. -/
def readPrimaryOrder (info : OrderInfo) : Reader WStream PrimaryUpdate :=
  match OrderType.ofCode info.orderType with
  | some .dstblt =>
    .into (.mk (·.dstblt) fun p v => { p with dstblt := v }) (updateReadDstbltOrder info)
  | some .patblt =>
    .into (.mk (·.patblt) fun p v => { p with patblt := v }) (updateReadPatbltOrder info)
  | some .scrblt =>
    .into (.mk (·.scrblt) fun p v => { p with scrblt := v }) (updateReadScrbltOrder info)
  | some .opaqueRect =>
    .into (.mk (·.opaqueRect) fun p v => { p with opaqueRect := v })
      (updateReadOpaqueRectOrder info)
  | some .drawNineGrid =>
    .into (.mk (·.drawNineGrid) fun p v => { p with drawNineGrid := v })
      (updateReadDrawNineGridOrder info)
  | some .multiDstblt =>
    .into (.mk (·.multiDstblt) fun p v => { p with multiDstblt := v })
      (updateReadMultiDstbltOrder info)
  | some .multiPatblt =>
    .into (.mk (·.multiPatblt) fun p v => { p with multiPatblt := v })
      (updateReadMultiPatbltOrder info)
  | some .multiScrblt =>
    .into (.mk (·.multiScrblt) fun p v => { p with multiScrblt := v })
      (updateReadMultiScrbltOrder info)
  | some .multiOpaqueRect =>
    .into (.mk (·.multiOpaqueRect) fun p v => { p with multiOpaqueRect := v })
      (updateReadMultiOpaqueRectOrder info)
  | some .multiDrawNineGrid =>
    .into (.mk (·.multiDrawNineGrid) fun p v => { p with multiDrawNineGrid := v })
      (updateReadMultiDrawNineGridOrder info)
  | some .lineTo =>
    .into (.mk (·.lineTo) fun p v => { p with lineTo := v }) (updateReadLineToOrder info)
  | some .polyline =>
    .into (.mk (·.polyline) fun p v => { p with polyline := v }) (updateReadPolylineOrder info)
  | some .memblt =>
    .into (.mk (·.memblt) fun p v => { p with memblt := v }) (updateReadMembltOrder info)
  | some .mem3blt =>
    .into (.mk (·.mem3blt) fun p v => { p with mem3blt := v }) (updateReadMem3bltOrder info)
  | some .saveBitmap =>
    .into (.mk (·.saveBitmap) fun p v => { p with saveBitmap := v })
      (updateReadSaveBitmapOrder info)
  | some .glyphIndex =>
    .into (.mk (·.glyphIndex) fun p v => { p with glyphIndex := v })
      (updateReadGlyphIndexOrder info)
  | some .fastIndex =>
    .into (.mk (·.fastIndex) fun p v => { p with fastIndex := v }) (updateReadFastIndexOrder info)
  | some .fastGlyph =>
    .into (.mk (·.fastGlyph) fun p v => { p with fastGlyph := v }) (updateReadFastGlyphOrder info)
  | some .polygonSc =>
    .into (.mk (·.polygonSc) fun p v => { p with polygonSc := v }) (updateReadPolygonScOrder info)
  | some .polygonCb =>
    .into (.mk (·.polygonCb) fun p v => { p with polygonCb := v }) (updateReadPolygonCbOrder info)
  | some .ellipseSc =>
    .into (.mk (·.ellipseSc) fun p v => { p with ellipseSc := v }) (updateReadEllipseScOrder info)
  | some .ellipseCb =>
    .into (.mk (·.ellipseCb) fun p v => { p with ellipseCb := v }) (updateReadEllipseCbOrder info)
  | none => .skip

/-- The callbacks of an order, in the order they are called. The drawing callback of a type is given
the record of this type. -/
inductive OrderEvent
  | setBounds (bounds : Option Bounds)
  | orderInfo (info : OrderInfo)
  | draw (t : OrderType) (primary : PrimaryUpdate)
  deriving DecidableEq

/-- Whether a callback succeeds. One that is not set fails, except for `OrderInfo`. -/
abbrev OrderCallbacks := OrderEvent → Bool

/-- The result of `update_recv_primary_order`: the records, the callbacks that were called, and the
stream after the order, `none` where the return value is `FALSE`. -/
structure PrimaryResult where
  primary : PrimaryUpdate
  events : List OrderEvent
  rest : Option WStream
  deriving DecidableEq

/-- The callbacks after the fields have been read. -/
def updateDrawPrimaryOrder (callbacks : OrderCallbacks) (flags : Nat) (primary : PrimaryUpdate)
    (events : List OrderEvent) (s : WStream) : PrimaryResult :=
  let events := events ++ [.orderInfo primary.orderInfo]
  if !callbacks (.orderInfo primary.orderInfo) then ⟨primary, events, none⟩
  else
    let (drawn, rc) : List OrderEvent × Bool :=
      match OrderType.ofCode primary.orderInfo.orderType with
      | some t => ([.draw t primary], callbacks (.draw t primary))
      | none => ([], true)
    if !rc then ⟨primary, events ++ drawn, none⟩
    else if flags &&& ORDER_BOUNDS ≠ 0 then
      ⟨primary, events ++ drawn ++ [.setBounds none],
        if callbacks (.setBounds none) then some s else none⟩
    else ⟨primary, events ++ drawn, some s⟩

/-- The order type, if it changes, and the field flags. -/
def updateReadOrderHeader (settings : OrderSettings) (flags : Nat) : Reader WStream OrderInfo :=
  fun info s =>
    if flags &&& ORDER_TYPE_CHANGE ≠ 0 ∧ s.remainingLength < 1 then (info, none)
    else
      let (orderType, s) := if flags &&& ORDER_TYPE_CHANGE ≠ 0 then s.readUInt8
        else (info.orderType, s)
      let info := { info with orderType := orderType }
      if !checkPrimaryOrderSupported settings orderType then (info, none)
      else
        match (getPrimaryDrawingOrderFieldBytes orderType).bind (updateReadFieldFlags s flags) with
        | none => (info, none)
        | some (fieldFlags, s) => ({ info with fieldFlags := fieldFlags }, some s)

/-- The bounds, unless the order has none or those of the order before. -/
def updateReadOrderBounds (flags : Nat) : Reader WStream OrderInfo :=
  .when (flags &&& ORDER_BOUNDS ≠ 0 && flags &&& ORDER_ZERO_BOUNDS_DELTAS = 0)
    (.into (.mk (·.bounds) fun info v => { info with bounds := v }) updateReadBounds)

/-- The fields of an order and its callbacks. -/
def updateReadOrderFields (callbacks : OrderCallbacks) (flags : Nat) (primary : PrimaryUpdate)
    (s : WStream) : PrimaryResult :=
  let bounds := primary.orderInfo.bounds
  let events := if flags &&& ORDER_BOUNDS ≠ 0 then [OrderEvent.setBounds (some bounds)] else []
  if flags &&& ORDER_BOUNDS ≠ 0 ∧ !callbacks (.setBounds (some bounds)) then ⟨primary, events, none⟩
  else
    let info := { primary.orderInfo with
      deltaCoordinates := decide (flags &&& ORDER_DELTA_COORDINATES ≠ 0) }
    match readPrimaryOrder info { primary with orderInfo := info } s with
    | (primary, none) => ⟨primary, events, none⟩
    | (primary, some s) => updateDrawPrimaryOrder callbacks flags primary events s

/-- `update_recv_primary_order`. -/
def updateRecvPrimaryOrder (settings : OrderSettings) (callbacks : OrderCallbacks)
    (primary : PrimaryUpdate) (s : WStream) (flags : Nat) : PrimaryResult :=
  match (Reader.all [updateReadOrderHeader settings flags, updateReadOrderBounds flags])
      primary.orderInfo s with
  | (info, none) => ⟨{ primary with orderInfo := info }, [], none⟩
  | (info, some s) => updateReadOrderFields callbacks flags { primary with orderInfo := info } s

/-- The part of `update_recv_order` for primary orders. -/
def updateRecvOrder (settings : OrderSettings) (callbacks : OrderCallbacks)
    (primary : PrimaryUpdate) (s : WStream) : Option PrimaryResult :=
  if s.remainingLength < 1 then none
  else
    let (controlFlags, s) := s.readUInt8
    if controlFlags &&& ORDER_STANDARD = 0 ∨ controlFlags &&& ORDER_SECONDARY ≠ 0 then none
    else some (updateRecvPrimaryOrder settings callbacks primary s controlFlags)

end FreeRdp
