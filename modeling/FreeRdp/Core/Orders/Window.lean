import FreeRdp.Core.Orders.Write

/-!
# Window orders

The window, icon and desktop orders that the server writes in `update.c`. Their size is computed
before, a `UINT16`, and the header is the first thing that is written.
-/

namespace FreeRdp

def WINDOW_ORDER_FIELD_OWNER : Nat := 0x00000002
def WINDOW_ORDER_FIELD_STYLE : Nat := 0x00000008
def WINDOW_ORDER_FIELD_SHOW : Nat := 0x00000010
def WINDOW_ORDER_FIELD_TITLE : Nat := 0x00000004
def WINDOW_ORDER_FIELD_CLIENT_AREA_OFFSET : Nat := 0x00004000
def WINDOW_ORDER_FIELD_CLIENT_AREA_SIZE : Nat := 0x00010000
def WINDOW_ORDER_FIELD_RESIZE_MARGIN_X : Nat := 0x00000080
def WINDOW_ORDER_FIELD_RESIZE_MARGIN_Y : Nat := 0x08000000
def WINDOW_ORDER_FIELD_RP_CONTENT : Nat := 0x00020000
def WINDOW_ORDER_FIELD_ROOT_PARENT : Nat := 0x00040000
def WINDOW_ORDER_FIELD_WND_OFFSET : Nat := 0x00000800
def WINDOW_ORDER_FIELD_WND_CLIENT_DELTA : Nat := 0x00008000
def WINDOW_ORDER_FIELD_WND_SIZE : Nat := 0x00000400
def WINDOW_ORDER_FIELD_WND_RECTS : Nat := 0x00000100
def WINDOW_ORDER_FIELD_VIS_OFFSET : Nat := 0x00001000
def WINDOW_ORDER_FIELD_VISIBILITY : Nat := 0x00000200
def WINDOW_ORDER_FIELD_OVERLAY_DESCRIPTION : Nat := 0x00400000
def WINDOW_ORDER_FIELD_TASKBAR_BUTTON : Nat := 0x00800000
def WINDOW_ORDER_FIELD_ENFORCE_SERVER_ZORDER : Nat := 0x00080000
def WINDOW_ORDER_FIELD_APPBAR_STATE : Nat := 0x00000040
def WINDOW_ORDER_FIELD_APPBAR_EDGE : Nat := 0x00000001
def WINDOW_ORDER_ICON : Nat := 0x40000000
def WINDOW_ORDER_CACHED_ICON : Nat := 0x80000000
def WINDOW_ORDER_FIELD_NOTIFY_VERSION : Nat := 0x00000008
def WINDOW_ORDER_FIELD_NOTIFY_TIP : Nat := 0x00000001
def WINDOW_ORDER_FIELD_NOTIFY_INFO_TIP : Nat := 0x00000002
def WINDOW_ORDER_FIELD_NOTIFY_STATE : Nat := 0x00000004
def WINDOW_ORDER_FIELD_DESKTOP_ZORDER : Nat := 0x00000010
def WINDOW_ORDER_FIELD_DESKTOP_ACTIVE_WND : Nat := 0x00000020

def ORDER_TYPE_WINDOW : Nat := 0x0B

/-! ### Orders -/

/-- `WINDOW_ORDER_INFO`. -/
structure WindowOrderInfo where
  windowId : Nat
  fieldFlags : Nat
  notifyIconId : Nat
  deriving DecidableEq, Repr

/-- `RAIL_UNICODE_STRING`. -/
structure RailUnicodeString where
  length : Nat
  string : List UInt8
  deriving DecidableEq, Repr

/-- `ICON_INFO`. -/
structure IconInfo where
  cacheEntry : Nat
  cacheId : Nat
  bpp : Nat
  width : Nat
  height : Nat
  cbColorTable : Nat
  cbBitsMask : Nat
  cbBitsColor : Nat
  bitsMask : List UInt8
  colorTable : List UInt8
  bitsColor : List UInt8
  deriving DecidableEq, Repr

/-- `CACHED_ICON_INFO`. -/
structure CachedIconInfo where
  cacheEntry : Nat
  cacheId : Nat
  deriving DecidableEq, Repr

/-- `NOTIFY_ICON_INFOTIP`. -/
structure NotifyIconInfotip where
  timeout : Nat
  flags : Nat
  text : RailUnicodeString
  title : RailUnicodeString
  deriving DecidableEq, Repr

/-- `WINDOW_STATE_ORDER`. The rectangles are the bytes that are copied of them, eight for each. -/
structure WindowStateOrder where
  ownerWindowId : Nat
  style : Nat
  extendedStyle : Nat
  showState : Nat
  titleInfo : RailUnicodeString
  clientOffsetX : Int
  clientOffsetY : Int
  clientAreaWidth : Nat
  clientAreaHeight : Nat
  rpContent : Nat
  rootParentHandle : Nat
  windowOffsetX : Int
  windowOffsetY : Int
  windowClientDeltaX : Int
  windowClientDeltaY : Int
  windowWidth : Nat
  windowHeight : Nat
  numWindowRects : Nat
  windowRects : List UInt8
  visibleOffsetX : Int
  visibleOffsetY : Int
  resizeMarginLeft : Nat
  resizeMarginTop : Nat
  resizeMarginRight : Nat
  resizeMarginBottom : Nat
  numVisibilityRects : Nat
  visibilityRects : List UInt8
  overlayDescription : RailUnicodeString
  taskbarButton : Nat
  enforceServerZOrder : Nat
  appBarState : Nat
  appBarEdge : Nat
  deriving DecidableEq, Repr

/-- `NOTIFY_ICON_STATE_ORDER`. -/
structure NotifyIconStateOrder where
  version : Nat
  toolTip : RailUnicodeString
  infoTip : NotifyIconInfotip
  state : Nat
  icon : IconInfo
  cachedIcon : CachedIconInfo
  deriving DecidableEq, Repr

/-- `MONITORED_DESKTOP_ORDER`; `numWindowIds` is the number of windows. -/
structure MonitoredDesktopOrder where
  activeWindowId : Nat
  windowIds : List Nat
  deriving DecidableEq, Repr

/-! ### Sizes -/

/-- A field of an order is there. -/
def WindowOrderInfo.has (info : WindowOrderInfo) (flag : Nat) : Bool := info.fieldFlags &&& flag ≠ 0

/-- What a field that is there adds to the size. -/
def WindowOrderInfo.sizeOf (info : WindowOrderInfo) (flag size : Nat) : Nat :=
  if info.has flag then size else 0

/-- `update_calculate_new_or_existing_window`. -/
def updateCalculateNewOrExistingWindow (info : WindowOrderInfo) (state : WindowStateOrder) : Nat :=
  (11 + info.sizeOf WINDOW_ORDER_FIELD_OWNER 4 + info.sizeOf WINDOW_ORDER_FIELD_STYLE 8 +
    info.sizeOf WINDOW_ORDER_FIELD_SHOW 1 +
    info.sizeOf WINDOW_ORDER_FIELD_TITLE (2 + state.titleInfo.length) +
    info.sizeOf WINDOW_ORDER_FIELD_CLIENT_AREA_OFFSET 8 +
    info.sizeOf WINDOW_ORDER_FIELD_CLIENT_AREA_SIZE 8 +
    info.sizeOf WINDOW_ORDER_FIELD_RESIZE_MARGIN_X 8 +
    info.sizeOf WINDOW_ORDER_FIELD_RESIZE_MARGIN_Y 8 +
    info.sizeOf WINDOW_ORDER_FIELD_RP_CONTENT 1 + info.sizeOf WINDOW_ORDER_FIELD_ROOT_PARENT 4 +
    info.sizeOf WINDOW_ORDER_FIELD_WND_OFFSET 8 +
    info.sizeOf WINDOW_ORDER_FIELD_WND_CLIENT_DELTA 8 +
    info.sizeOf WINDOW_ORDER_FIELD_WND_SIZE 8 +
    info.sizeOf WINDOW_ORDER_FIELD_WND_RECTS (2 + state.numWindowRects * 8) +
    info.sizeOf WINDOW_ORDER_FIELD_VIS_OFFSET 8 +
    info.sizeOf WINDOW_ORDER_FIELD_VISIBILITY (2 + state.numVisibilityRects * 8) +
    info.sizeOf WINDOW_ORDER_FIELD_OVERLAY_DESCRIPTION (2 + state.overlayDescription.length) +
    info.sizeOf WINDOW_ORDER_FIELD_TASKBAR_BUTTON 1 +
    info.sizeOf WINDOW_ORDER_FIELD_ENFORCE_SERVER_ZORDER 1 +
    info.sizeOf WINDOW_ORDER_FIELD_APPBAR_STATE 1 +
    info.sizeOf WINDOW_ORDER_FIELD_APPBAR_EDGE 1) % 2 ^ 16

/-- `update_calculate_window_icon_order`. -/
def updateCalculateWindowIconOrder (icon : IconInfo) : Nat :=
  (23 + icon.cbBitsColor + icon.cbBitsMask + if icon.bpp ≤ 8 then 2 + icon.cbColorTable else 0) %
    2 ^ 16

/-- `update_calculate_new_or_existing_notification_icons_order`. -/
def updateCalculateNewOrExistingNotificationIconsOrder (info : WindowOrderInfo)
    (state : NotifyIconStateOrder) : Nat :=
  (15 + info.sizeOf WINDOW_ORDER_FIELD_NOTIFY_VERSION 4 +
    info.sizeOf WINDOW_ORDER_FIELD_NOTIFY_TIP (2 + state.toolTip.length) +
    info.sizeOf WINDOW_ORDER_FIELD_NOTIFY_INFO_TIP
      (12 + state.infoTip.text.length + state.infoTip.title.length) +
    info.sizeOf WINDOW_ORDER_FIELD_NOTIFY_STATE 4 +
    if info.has WINDOW_ORDER_ICON then
      12 + (if state.icon.bpp ≤ 8 then 2 + state.icon.cbColorTable else 0) +
        (state.icon.cbBitsMask + state.icon.cbBitsColor)
    else info.sizeOf WINDOW_ORDER_CACHED_ICON 3) % 2 ^ 16

/-- `update_calculate_monitored_desktop`. -/
def updateCalculateMonitoredDesktop (info : WindowOrderInfo) (desktop : MonitoredDesktopOrder) :
    Nat :=
  (7 + info.sizeOf WINDOW_ORDER_FIELD_DESKTOP_ACTIVE_WND 4 +
    info.sizeOf WINDOW_ORDER_FIELD_DESKTOP_ZORDER (1 + 4 * desktop.windowIds.length)) % 2 ^ 16

/-! ### Writing -/

/-- The bytes of a field that is there. -/
def WindowOrderInfo.bytesOf (info : WindowOrderInfo) (flag : Nat) (bytes : List UInt8) :
    List UInt8 :=
  if info.has flag then bytes else []

/-- The bytes `Stream_Write_INT32` writes. -/
def bytesInt32 (v : Int) : List UInt8 := bytesUInt32 (v % 2 ^ 32).toNat

/-- The control flags of a window order. -/
def windowControlFlags : Nat := ORDER_SECONDARY ||| (ORDER_TYPE_WINDOW <<< 2)

/-- The control flags, the size and the fields that are there. -/
def writeWindowHeader (info : WindowOrderInfo) (orderSize : Nat) : List UInt8 :=
  bytesUInt8 windowControlFlags ++ (bytesUInt16 orderSize ++ bytesUInt32 info.fieldFlags)

/-- A string with its length in front. -/
def writeRailUnicodeString (s : RailUnicodeString) : List UInt8 :=
  bytesUInt16 s.length ++ pointerBytes s.string s.length

/-- The members of an icon, and its bits. -/
def writeIconInfo (icon : IconInfo) : List UInt8 :=
  bytesUInt16 icon.cacheEntry ++ (bytesUInt8 icon.cacheId ++ (bytesUInt8 icon.bpp ++
    (bytesUInt16 icon.width ++ (bytesUInt16 icon.height ++
      ((if icon.bpp ≤ 8 then bytesUInt16 icon.cbColorTable else []) ++
        (bytesUInt16 icon.cbBitsMask ++ (bytesUInt16 icon.cbBitsColor ++
          (pointerBytes icon.bitsMask icon.cbBitsMask ++
            ((if icon.bpp ≤ 8 then pointerBytes icon.colorTable icon.cbColorTable else []) ++
              pointerBytes icon.bitsColor icon.cbBitsColor)))))))))

/-- The entry and the cache of a cached icon. -/
def writeCachedIconInfo (icon : CachedIconInfo) : List UInt8 :=
  bytesUInt16 icon.cacheEntry ++ bytesUInt8 icon.cacheId

/-- The members of a window, behind the header and the identifier. -/
def writeWindowState (info : WindowOrderInfo) (state : WindowStateOrder) : List UInt8 :=
  info.bytesOf WINDOW_ORDER_FIELD_OWNER (bytesUInt32 state.ownerWindowId) ++
  (info.bytesOf WINDOW_ORDER_FIELD_STYLE
    (bytesUInt32 state.style ++ bytesUInt32 state.extendedStyle) ++
  (info.bytesOf WINDOW_ORDER_FIELD_SHOW (bytesUInt8 state.showState) ++
  (info.bytesOf WINDOW_ORDER_FIELD_TITLE (writeRailUnicodeString state.titleInfo) ++
  (info.bytesOf WINDOW_ORDER_FIELD_CLIENT_AREA_OFFSET
    (bytesInt32 state.clientOffsetX ++ bytesInt32 state.clientOffsetY) ++
  (info.bytesOf WINDOW_ORDER_FIELD_CLIENT_AREA_SIZE
    (bytesUInt32 state.clientAreaWidth ++ bytesUInt32 state.clientAreaHeight) ++
  (info.bytesOf WINDOW_ORDER_FIELD_RESIZE_MARGIN_X
    (bytesUInt32 state.resizeMarginLeft ++ bytesUInt32 state.resizeMarginRight) ++
  (info.bytesOf WINDOW_ORDER_FIELD_RESIZE_MARGIN_Y
    (bytesUInt32 state.resizeMarginTop ++ bytesUInt32 state.resizeMarginBottom) ++
  (info.bytesOf WINDOW_ORDER_FIELD_RP_CONTENT (bytesUInt8 state.rpContent) ++
  (info.bytesOf WINDOW_ORDER_FIELD_ROOT_PARENT (bytesUInt32 state.rootParentHandle) ++
  (info.bytesOf WINDOW_ORDER_FIELD_WND_OFFSET
    (bytesInt32 state.windowOffsetX ++ bytesInt32 state.windowOffsetY) ++
  (info.bytesOf WINDOW_ORDER_FIELD_WND_CLIENT_DELTA
    (bytesInt32 state.windowClientDeltaX ++ bytesInt32 state.windowClientDeltaY) ++
  (info.bytesOf WINDOW_ORDER_FIELD_WND_SIZE
    (bytesUInt32 state.windowWidth ++ bytesUInt32 state.windowHeight) ++
  (info.bytesOf WINDOW_ORDER_FIELD_WND_RECTS
    (bytesUInt16 state.numWindowRects ++
      pointerBytes state.windowRects (state.numWindowRects * 8)) ++
  (info.bytesOf WINDOW_ORDER_FIELD_VIS_OFFSET
    (bytesInt32 state.visibleOffsetX ++ bytesInt32 state.visibleOffsetY) ++
  (info.bytesOf WINDOW_ORDER_FIELD_VISIBILITY
    (bytesUInt16 state.numVisibilityRects ++
      pointerBytes state.visibilityRects (state.numVisibilityRects * 8)) ++
  (info.bytesOf WINDOW_ORDER_FIELD_OVERLAY_DESCRIPTION
    (writeRailUnicodeString state.overlayDescription) ++
  (info.bytesOf WINDOW_ORDER_FIELD_TASKBAR_BUTTON (bytesUInt8 state.taskbarButton) ++
  (info.bytesOf WINDOW_ORDER_FIELD_ENFORCE_SERVER_ZORDER
    (bytesUInt8 state.enforceServerZOrder) ++
  (info.bytesOf WINDOW_ORDER_FIELD_APPBAR_STATE (bytesUInt8 state.appBarState) ++
  info.bytesOf WINDOW_ORDER_FIELD_APPBAR_EDGE (bytesUInt8 state.appBarEdge))))))))))))))))))))

/-- A part of an order that is refused for an icon of version 0. -/
def unlessVersion0 (info : WindowOrderInfo) (state : NotifyIconStateOrder) (flag : Nat)
    (bytes : List UInt8) : List WriteStep :=
  if info.has flag then
    if info.has WINDOW_ORDER_FIELD_NOTIFY_VERSION && state.version == 0 then [.reject]
    else [.put bytes]
  else []

/-- What `update_send_new_or_existing_notification_icons` writes. -/
def notificationIconsSteps (info : WindowOrderInfo) (state : NotifyIconStateOrder) :
    List WriteStep :=
  .put (writeWindowHeader info (updateCalculateNewOrExistingNotificationIconsOrder info state) ++
    (bytesUInt32 info.windowId ++ (bytesUInt32 info.notifyIconId ++
      (info.bytesOf WINDOW_ORDER_FIELD_NOTIFY_VERSION (bytesUInt32 state.version) ++
        info.bytesOf WINDOW_ORDER_FIELD_NOTIFY_TIP (writeRailUnicodeString state.toolTip))))) ::
  (unlessVersion0 info state WINDOW_ORDER_FIELD_NOTIFY_INFO_TIP
    (bytesUInt32 state.infoTip.timeout ++ (bytesUInt32 state.infoTip.flags ++
      (writeRailUnicodeString state.infoTip.text ++
        writeRailUnicodeString state.infoTip.title))) ++
  (unlessVersion0 info state WINDOW_ORDER_FIELD_NOTIFY_STATE (bytesUInt32 state.state) ++
  [.put (if info.has WINDOW_ORDER_ICON then writeIconInfo state.icon
    else info.bytesOf WINDOW_ORDER_CACHED_ICON (writeCachedIconInfo state.cachedIcon))]))

/-- What `update_send_monitored_desktop` writes. -/
def writeMonitoredDesktop (info : WindowOrderInfo) (desktop : MonitoredDesktopOrder) : List UInt8 :=
  writeWindowHeader info (updateCalculateMonitoredDesktop info desktop) ++
    (info.bytesOf WINDOW_ORDER_FIELD_DESKTOP_ACTIVE_WND (bytesUInt32 desktop.activeWindowId) ++
      info.bytesOf WINDOW_ORDER_FIELD_DESKTOP_ZORDER
        (bytesUInt8 desktop.windowIds.length ++ desktop.windowIds.flatMap bytesUInt32))

end FreeRdp
