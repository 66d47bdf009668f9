import FreeRdp.Core.FastPath.Basic
import FreeRdp.Core.Orders.Window

/-!
# The pending update

The orders that a server sends are collected in one stream, with their number in front, and handed
to the fast path when the painting ends or when the stream is nearly full. Each function
`update_send_*` of `update.c` makes room for the header of its order, writes the order, and fills
the header in.
-/

namespace FreeRdp

/-- What the order functions use of `rdpUpdate`; `sent` has the streams that have been handed to
`fastpath_send_update_pdu`. -/
structure RdpUpdate where
  us : Option WStream
  numberOrders : Nat
  offsetOrders : Nat
  currentBounds : Bounds
  previousBounds : Bounds
  sent : List (List UInt8)
  deriving DecidableEq

/-- Memory for new streams and for streams that grow, and `NoBitmapCompressionHeader`. -/
structure UpdateEnvironment where
  malloc : Malloc
  realloc : Malloc
  noBitmapCompressionHeader : Bool

/-! ### Painting -/

/-- `_update_end_paint`. What `fastpath_send_update_pdu` returns is ignored. -/
def updateEndPaint (u : RdpUpdate) : Bool × RdpUpdate :=
  match u.us with
  | none => (false, u)
  | some s =>
    let s' := ((s.setPosition u.offsetOrders).write (bytesUInt16 u.numberOrders)).setPosition s.pos
    (true, { u with
      us := none
      numberOrders := 0
      offsetOrders := 0
      sent := if 0 < u.numberOrders then u.sent ++ [s'.front] else u.sent })

/-- A stream of `fastpath_update_pdu_init_new`, with room for the number of orders. -/
def newUpdateStream : WStream :=
  WStream.seek ⟨List.replicate FASTPATH_MAX_PACKET_SIZE 0, 0⟩ 2

/-- `_update_begin_paint`. -/
def updateBeginPaint (env : UpdateEnvironment) (u : RdpUpdate) : Bool × RdpUpdate :=
  let u := (updateEndPaint u).2
  if env.malloc.succeeds FASTPATH_MAX_PACKET_SIZE then
    (true, { u with us := some newUpdateStream, numberOrders := 0, offsetOrders := 0 })
  else (false, u)

/-- `update_flush`. -/
def updateFlush (env : UpdateEnvironment) (u : RdpUpdate) : RdpUpdate :=
  if 0 < u.numberOrders then (updateBeginPaint env (updateEndPaint u).2).2 else u

/-- `update_check_flush`, whose return value is not used. -/
def updateCheckFlush (env : UpdateEnvironment) (u : RdpUpdate) (size : Int) : RdpUpdate :=
  match u.us with
  | none => (updateBeginPaint env u).2
  | some s =>
    if 0x3FFF ≤ (s.pos + sizeOfInt size + 64) % 2 ^ 64 then updateFlush env u else u

/-- `update_set_bounds`. -/
def updateSetBounds (u : RdpUpdate) (bounds : Option Bounds) : RdpUpdate :=
  { u with previousBounds := u.currentBounds, currentBounds := bounds.getD ⟨0, 0, 0, 0⟩ }

/-! ### Headers of primary orders -/

/-- `update_bounds_is_null`. -/
def updateBoundsIsNull (bounds : Bounds) : Bool := bounds = ⟨0, 0, 0, 0⟩

/-- `update_prepare_bounds`: the length of the bounds, and the header. -/
def updatePrepareBounds (u : RdpUpdate) (info : OrderInfo) : Nat × OrderInfo :=
  let info := { info with boundsFlags := 0 }
  let previous := u.previousBounds
  let current := u.currentBounds
  if updateBoundsIsNull current then (0, info)
  else
    let info := { info with controlFlags := info.controlFlags ||| ORDER_BOUNDS }
    if previous = current then
      (0, { info with controlFlags := info.controlFlags ||| ORDER_ZERO_BOUNDS_DELTAS })
    else
      let left := previous.left ≠ current.left
      let top := previous.top ≠ current.top
      let right := previous.right ≠ current.right
      let bottom := previous.bottom ≠ current.bottom
      (1 + (if left then 2 else 0) + (if top then 2 else 0) + (if right then 2 else 0) +
        (if bottom then 2 else 0),
        { info with
          boundsFlags := (if left then BOUND_LEFT else 0) ||| (if top then BOUND_TOP else 0) |||
            (if right then BOUND_RIGHT else 0) ||| (if bottom then BOUND_BOTTOM else 0)
          bounds := {
            left := if left then current.left else info.bounds.left
            top := if top then current.top else info.bounds.top
            right := if right then current.right else info.bounds.right
            bottom := if bottom then current.bottom else info.bounds.bottom } })

/-- The field bytes of an order type. -/
def fieldBytesOf (orderType : Nat) : Nat := (getPrimaryDrawingOrderFieldBytes orderType).getD 0

/-- `update_prepare_order_info`. -/
def updatePrepareOrderInfo (u : RdpUpdate) (orderType : Nat) : Nat × OrderInfo :=
  let (boundsLength, info) := updatePrepareBounds u { (default : OrderInfo) with
    fieldFlags := 0, orderType, controlFlags := ORDER_STANDARD ||| ORDER_TYPE_CHANGE }
  (1 + 1 + fieldBytesOf orderType + boundsLength, info)

/-- `update_write_field_flags`. -/
def updateWriteFieldFlags (fieldFlags : Nat) : Nat → List UInt8
  | 1 => bytesUInt8 (fieldFlags &&& 0xFF)
  | 2 => bytesUInt8 (fieldFlags &&& 0xFF) ++ bytesUInt8 ((fieldFlags >>> 8) &&& 0xFF)
  | 3 => bytesUInt8 (fieldFlags &&& 0xFF) ++ (bytesUInt8 ((fieldFlags >>> 8) &&& 0xFF) ++
      bytesUInt8 ((fieldFlags >>> 16) &&& 0xFF))
  | _ => []

/-- A coordinate of the bounds that has changed. -/
def writeBound (info : OrderInfo) (bound : Nat) (coord : Int) : List UInt8 :=
  if info.boundsFlags &&& bound ≠ 0 then updateWriteCoord coord else []

/-- `update_write_bounds`. -/
def updateWriteBounds (info : OrderInfo) : List UInt8 :=
  if info.controlFlags &&& ORDER_BOUNDS = 0 then []
  else if info.controlFlags &&& ORDER_ZERO_BOUNDS_DELTAS ≠ 0 then []
  else
    bytesUInt8 info.boundsFlags ++ (writeBound info BOUND_LEFT info.bounds.left ++
      (writeBound info BOUND_TOP info.bounds.top ++ (writeBound info BOUND_RIGHT info.bounds.right ++
        writeBound info BOUND_BOTTOM info.bounds.bottom)))

/-- `update_write_order_info`. -/
def updateWriteOrderInfo (info : OrderInfo) : List UInt8 :=
  bytesUInt8 info.controlFlags ++
    ((if info.controlFlags &&& ORDER_TYPE_CHANGE ≠ 0 then bytesUInt8 info.orderType else []) ++
      (updateWriteFieldFlags info.fieldFlags (fieldBytesOf info.orderType) ++
        updateWriteBounds info))

/-! ### Sending an order -/

/-- In what the functions `update_send_*` differ: the size for `update_check_flush`, the capacity
that is ensured first, if any, the room for the header, the steps of the writer, whether its
return value is checked, the return value without a stream, and the header. It depends on whether
the order has been written, and on the length of the whole. -/
structure OrderSend where
  size : Int
  ensured : Option Nat
  headerLength : Nat
  steps : List WriteStep
  checked : Bool
  withoutStream : Bool
  header : Bool → Nat → List UInt8

/-- The stream with the capacity that is ensured first. -/
def OrderSend.ensure (p : OrderSend) (env : UpdateEnvironment) (s : WStream) : Growth :=
  match p.ensured with
  | none => .ready s
  | some size => s.ensureRemainingCapacity env.realloc size

/-- The order is complete: the header is filled in and the order is counted. -/
def OrderSend.complete (p : OrderSend) (u : RdpUpdate) (bm : Nat) (written : Bool) (s : WStream) :
    RdpUpdate :=
  { u with
    us := some (((s.setPosition bm).write (p.header written (s.pos - bm))).setPosition s.pos)
    numberOrders := (u.numberOrders + 1) % 2 ^ 16 }

/-- A function `update_send_*`, `none` where it does not end. -/
def sendOrder (env : UpdateEnvironment) (p : OrderSend) (u : RdpUpdate) :
    Option (Bool × RdpUpdate) :=
  let u := updateCheckFlush env u p.size
  match u.us with
  | none => some (p.withoutStream, u)
  | some s =>
    match p.ensure env s with
    | .endless => none
    | .noMemory => some (false, u)
    | .ready s' =>
      match runSteps env.realloc p.steps (s'.seek p.headerLength) with
      | (.endless, _) => none
      | (.refused, s'') =>
        if p.checked then some (false, { u with us := some s'' })
        else some (true, p.complete u s.pos false s'')
      | (.done, s'') => some (true, p.complete u s.pos true s'')

/-- A primary order. -/
def primarySend (u : RdpUpdate) (t : OrderType) (fields : Nat) (estimate : Int)
    (steps : List WriteStep) (checked withoutStream : Bool) : OrderSend :=
  let (headerLength, info) := updatePrepareOrderInfo u t.code
  { size := toInt32 (headerLength + estimate)
    ensured := some headerLength
    headerLength, steps, checked, withoutStream
    header := fun written _ => updateWriteOrderInfo
      { info with fieldFlags := if written then orderFields fields else 0 } }

/-- `update_send_dstblt`. -/
def updateSendDstblt (u : RdpUpdate) (o : DstbltOrder) : OrderSend :=
  primarySend u .dstblt 5 (updateApproximateDstbltOrder o) (updateWriteDstbltOrder o) true false

/-- `update_send_patblt`. -/
def updateSendPatblt (u : RdpUpdate) (o : PatbltOrder) : OrderSend :=
  primarySend u .patblt 12 (updateApproximatePatbltOrder o) (updateWritePatbltOrder o) false false

/-- `update_send_scrblt`, which returns `TRUE` where there is no stream. -/
def updateSendScrblt (u : RdpUpdate) (o : ScrbltOrder) : OrderSend :=
  primarySend u .scrblt 7 (updateApproximateScrbltOrder o) (updateWriteScrbltOrder o) false true

/-- `update_send_opaque_rect`. -/
def updateSendOpaqueRect (u : RdpUpdate) (o : OpaqueRectOrder) : OrderSend :=
  primarySend u .opaqueRect 7 (updateApproximateOpaqueRectOrder o) (updateWriteOpaqueRectOrder o)
    false false

/-- `update_send_line_to`. -/
def updateSendLineTo (u : RdpUpdate) (o : LineToOrder) : OrderSend :=
  primarySend u .lineTo 10 (updateApproximateLineToOrder o) (updateWriteLineToOrder o) false false

/-- `update_send_memblt`. -/
def updateSendMemblt (u : RdpUpdate) (o : MembltOrder) : OrderSend :=
  primarySend u .memblt 9 (updateApproximateMembltOrder o) (updateWriteMembltOrder o) false false

/-- `update_send_glyph_index`. -/
def updateSendGlyphIndex (u : RdpUpdate) (o : GlyphIndexOrder) : OrderSend :=
  primarySend u .glyphIndex 22 (updateApproximateGlyphIndexOrder o) (updateWriteGlyphIndexOrder o)
    false false

/-- A secondary order. -/
def secondarySend (orderType extraFlags : Nat) (estimate : Int) (steps : List WriteStep) :
    OrderSend where
  size := toInt32 (6 + estimate)
  ensured := some 6
  headerLength := 6
  steps := steps
  checked := true
  withoutStream := false
  header := fun _ length => secondaryHeader orderType extraFlags length

/-- `update_send_cache_bitmap`. -/
def updateSendCacheBitmapOrder (o : CacheBitmapOrder) : OrderSend :=
  secondarySend (if o.compressed then ORDER_TYPE_CACHE_BITMAP_COMPRESSED
    else ORDER_TYPE_BITMAP_UNCOMPRESSED) (updateWriteCacheBitmapOrder o o.compressed).1
    (updateApproximateCacheBitmapOrder o) (cacheBitmapSteps o)

/-- `update_send_cache_bitmap_v2`, for an order with the flag of the settings. -/
def updateSendCacheBitmapV2Order (env : UpdateEnvironment) (o : CacheBitmapV2Order) : OrderSend :=
  let o := o.withSettings env.noBitmapCompressionHeader
  secondarySend (if o.compressed then ORDER_TYPE_BITMAP_COMPRESSED_V2
    else ORDER_TYPE_BITMAP_UNCOMPRESSED_V2)
    (((updateWriteCacheBitmapV2Order o o.compressed).map (·.2.1)).getD 0)
    (updateApproximateCacheBitmapV2Order o) (cacheBitmapV2Steps o)

/-- `update_send_cache_bitmap_v3`. -/
def updateSendCacheBitmapV3Order (o : CacheBitmapV3Order) : OrderSend :=
  secondarySend ORDER_TYPE_BITMAP_COMPRESSED_V3
    (((updateWriteCacheBitmapV3Order o).map Prod.fst).getD 0)
    (updateApproximateCacheBitmapV3Order o) (cacheBitmapV3Steps o)

/-- `update_send_cache_color_table`. -/
def updateSendCacheColorTableOrder (o : CacheColorTableOrder) : OrderSend :=
  secondarySend ORDER_TYPE_CACHE_COLOR_TABLE 0 (updateApproximateCacheColorTableOrder o)
    (cacheColorTableSteps o)

/-- `update_send_cache_glyph`. -/
def updateSendCacheGlyphOrder (o : CacheGlyphOrder) : OrderSend :=
  secondarySend ORDER_TYPE_CACHE_GLYPH 0 (updateApproximateCacheGlyphOrder o) (cacheGlyphSteps o 0)

/-- `update_send_cache_glyph_v2`. -/
def updateSendCacheGlyphV2Order (o : CacheGlyphV2Order) : OrderSend :=
  secondarySend ORDER_TYPE_CACHE_GLYPH o.extraFlags (updateApproximateCacheGlyphV2Order o)
    (cacheGlyphV2Steps o)

/-- `update_send_cache_brush`. -/
def updateSendCacheBrushOrder (o : CacheBrushOrder) : OrderSend :=
  secondarySend ORDER_TYPE_CACHE_BRUSH 0 (updateApproximateCacheBrushOrder o) (cacheBrushSteps o)

def ORDER_TYPE_SWITCH_SURFACE : Nat := 0x00
def ORDER_TYPE_CREATE_OFFSCREEN_BITMAP : Nat := 0x01

/-- An alternate secondary order. -/
def altsecSend (orderType : Nat) (estimate : Int) (steps : List WriteStep) : OrderSend where
  size := toInt32 (1 + estimate)
  ensured := some 1
  headerLength := 1
  steps := steps
  checked := true
  withoutStream := false
  header := fun _ _ => bytesUInt8 (ORDER_SECONDARY ||| orderType <<< 2)

/-- `update_send_create_offscreen_bitmap_order`. -/
def updateSendCreateOffscreenBitmapOrder (o : CreateOffscreenBitmapOrder) : OrderSend :=
  altsecSend ORDER_TYPE_CREATE_OFFSCREEN_BITMAP (updateApproximateCreateOffscreenBitmapOrder o)
    (updateWriteCreateOffscreenBitmapOrder o)

/-- `update_send_switch_surface_order`. -/
def updateSendSwitchSurfaceOrder (o : SwitchSurfaceOrder) : OrderSend :=
  altsecSend ORDER_TYPE_SWITCH_SURFACE (updateApproximateSwitchSurfaceOrder o)
    (updateWriteSwitchSurfaceOrder o)

/-- A window order. Its header is written with the rest of it. -/
def windowSend (orderSize : Nat) (ensures : Bool) (steps : List WriteStep) : OrderSend where
  size := orderSize
  ensured := if ensures then some orderSize else none
  headerLength := 0
  steps := steps
  checked := true
  withoutStream := false
  header := fun _ _ => []

/-- `update_send_new_or_existing_window`. -/
def updateSendNewOrExistingWindow (info : WindowOrderInfo) (state : WindowStateOrder) : OrderSend :=
  let orderSize := updateCalculateNewOrExistingWindow info state
  windowSend orderSize true [.put (writeWindowHeader info orderSize ++
    (bytesUInt32 info.windowId ++ writeWindowState info state))]

/-- `update_send_window_icon`. -/
def updateSendWindowIcon (info : WindowOrderInfo) (icon : IconInfo) : OrderSend :=
  let orderSize := updateCalculateWindowIconOrder icon
  windowSend orderSize true [.put (writeWindowHeader info orderSize ++
    (bytesUInt32 info.windowId ++ writeIconInfo icon))]

/-- `update_send_window_cached_icon`. -/
def updateSendWindowCachedIcon (info : WindowOrderInfo) (icon : CachedIconInfo) : OrderSend :=
  windowSend 14 true [.put (writeWindowHeader info 14 ++
    (bytesUInt32 info.windowId ++ writeCachedIconInfo icon))]

/-- `update_send_window_delete`. -/
def updateSendWindowDelete (info : WindowOrderInfo) : OrderSend :=
  windowSend 11 true [.put (writeWindowHeader info 11 ++ bytesUInt32 info.windowId)]

/-- `update_send_new_or_existing_notification_icons`. -/
def updateSendNewOrExistingNotificationIcons (info : WindowOrderInfo)
    (state : NotifyIconStateOrder) : OrderSend :=
  windowSend (updateCalculateNewOrExistingNotificationIconsOrder info state) true
    (notificationIconsSteps info state)

/-- `update_send_notify_icon_delete`, which does not ensure any capacity. -/
def updateSendNotifyIconDelete (info : WindowOrderInfo) : OrderSend :=
  windowSend 15 false [.put (writeWindowHeader info 15 ++
    (bytesUInt32 info.windowId ++ bytesUInt32 info.notifyIconId))]

/-- `update_send_monitored_desktop`, which does not ensure any capacity. -/
def updateSendMonitoredDesktop (info : WindowOrderInfo) (desktop : MonitoredDesktopOrder) :
    OrderSend :=
  windowSend (updateCalculateMonitoredDesktop info desktop) false
    [.put (writeMonitoredDesktop info desktop)]

/-- `update_send_non_monitored_desktop`, which does not ensure any capacity. -/
def updateSendNonMonitoredDesktop (info : WindowOrderInfo) : OrderSend :=
  windowSend 7 false [.put (writeWindowHeader info 7)]

/-- The orders that a server sends. -/
inductive ServerOrder
  | dstblt (o : DstbltOrder)
  | patblt (o : PatbltOrder)
  | scrblt (o : ScrbltOrder)
  | opaqueRect (o : OpaqueRectOrder)
  | lineTo (o : LineToOrder)
  | memblt (o : MembltOrder)
  | glyphIndex (o : GlyphIndexOrder)
  | cacheBitmap (o : CacheBitmapOrder)
  | cacheBitmapV2 (o : CacheBitmapV2Order)
  | cacheBitmapV3 (o : CacheBitmapV3Order)
  | cacheColorTable (o : CacheColorTableOrder)
  | cacheGlyph (o : CacheGlyphOrder)
  | cacheGlyphV2 (o : CacheGlyphV2Order)
  | cacheBrush (o : CacheBrushOrder)
  | createOffscreenBitmap (o : CreateOffscreenBitmapOrder)
  | switchSurface (o : SwitchSurfaceOrder)
  | newOrExistingWindow (info : WindowOrderInfo) (state : WindowStateOrder)
  | windowIcon (info : WindowOrderInfo) (icon : IconInfo)
  | windowCachedIcon (info : WindowOrderInfo) (icon : CachedIconInfo)
  | windowDelete (info : WindowOrderInfo)
  | newOrExistingNotificationIcons (info : WindowOrderInfo) (state : NotifyIconStateOrder)
  | notifyIconDelete (info : WindowOrderInfo)
  | monitoredDesktop (info : WindowOrderInfo) (desktop : MonitoredDesktopOrder)
  | nonMonitoredDesktop (info : WindowOrderInfo)

/-- The function that sends an order. -/
def ServerOrder.sender (env : UpdateEnvironment) (u : RdpUpdate) : ServerOrder → OrderSend
  | .dstblt o => updateSendDstblt u o
  | .patblt o => updateSendPatblt u o
  | .scrblt o => updateSendScrblt u o
  | .opaqueRect o => updateSendOpaqueRect u o
  | .lineTo o => updateSendLineTo u o
  | .memblt o => updateSendMemblt u o
  | .glyphIndex o => updateSendGlyphIndex u o
  | .cacheBitmap o => updateSendCacheBitmapOrder o
  | .cacheBitmapV2 o => updateSendCacheBitmapV2Order env o
  | .cacheBitmapV3 o => updateSendCacheBitmapV3Order o
  | .cacheColorTable o => updateSendCacheColorTableOrder o
  | .cacheGlyph o => updateSendCacheGlyphOrder o
  | .cacheGlyphV2 o => updateSendCacheGlyphV2Order o
  | .cacheBrush o => updateSendCacheBrushOrder o
  | .createOffscreenBitmap o => updateSendCreateOffscreenBitmapOrder o
  | .switchSurface o => updateSendSwitchSurfaceOrder o
  | .newOrExistingWindow info state => updateSendNewOrExistingWindow info state
  | .windowIcon info icon => updateSendWindowIcon info icon
  | .windowCachedIcon info icon => updateSendWindowCachedIcon info icon
  | .windowDelete info => updateSendWindowDelete info
  | .newOrExistingNotificationIcons info state => updateSendNewOrExistingNotificationIcons info state
  | .notifyIconDelete info => updateSendNotifyIconDelete info
  | .monitoredDesktop info desktop => updateSendMonitoredDesktop info desktop
  | .nonMonitoredDesktop info => updateSendNonMonitoredDesktop info

/-- An order is sent with a pending update. -/
def ServerOrder.send (env : UpdateEnvironment) (order : ServerOrder) (u : RdpUpdate) :
    Option (Bool × RdpUpdate) :=
  sendOrder env (order.sender env u) u

end FreeRdp
