import FreeRdp.Codec.PixelFormat
import FreeRdp.Library.Transfers
import FreeRdp.Winpr.Crt

/-!
# Copying images

`freerdp_image_copy`, `codec/color.c`, on a memory of bytes in which some bytes may be read and some
may be written; a copy that touches other bytes is `none`, and so is a `memcpy` between bytes that
overlap. Offsets are computed with `UINT32` values. What `FreeRDPConvertColor` makes of a colour is a
parameter.
-/

namespace FreeRdp

abbrev Memory := Nat → UInt8

def FREERDP_FLIP_VERTICAL : UInt32 := 1

/-! ### Bytes and pixels -/

/-- `memmove`. -/
def memmove (areas : Areas) (dst src n : Nat) (m : Memory) : Option Memory :=
  (Transfer.copy dst src n).run areas m

/-- `memcpy`. -/
def memcpy (areas : Areas) (dst src n : Nat) (m : Memory) : Option Memory :=
  if Apart dst n src n then memmove areas dst src n m else none

/-- How many bytes `ReadColor` reads. -/
def readColorSize (format : Nat) : Nat :=
  if getBitsPerPixel format ∈ [32, 24, 16, 15, 8, 4, 1] then getBytesPerPixel format else 0

/-- How many bytes `WriteColor` writes. -/
def writeColorSize (format : Nat) : Nat :=
  if getBitsPerPixel format ∈ [32, 24, 16, 15, 8] then getBytesPerPixel format else 0

/-- `ReadColor`. -/
def readColorAt (areas : Areas) (m : Memory) (src format : Nat) : Option Nat :=
  if areas.Reads src (readColorSize format) then
    some (readColorBytes format (readList m src (readColorSize format)))
  else none

/-- `WriteColor`. -/
def writeColorAt (areas : Areas) (dst format color : Nat) (m : Memory) : Option Memory :=
  if areas.Writes dst (writeColorSize format) then
    some (writeList m dst ((writeColorBytes format color).getD []))
  else none

/-! ### Images -/

/-- The arguments of `freerdp_image_copy`. -/
structure ImageCopy where
  pDstData : Nat
  dstFormat : UInt32
  nDstStep : UInt32
  nXDst : UInt32
  nYDst : UInt32
  nWidth : UInt32
  nHeight : UInt32
  pSrcData : Nat
  srcFormat : UInt32
  nSrcStep : UInt32
  nXSrc : UInt32
  nYSrc : UInt32
  flags : UInt32

namespace ImageCopy

variable (c : ImageCopy)

def dstByte : UInt32 := UInt32.ofNat (getBytesPerPixel c.dstFormat.toNat)

def srcByte : UInt32 := UInt32.ofNat (getBytesPerPixel c.srcFormat.toNat)

def vSrcVFlip : Bool := c.flags &&& FREERDP_FLIP_VERTICAL ≠ 0

/-- `nDstStep`, with its default. -/
def dstStep : UInt32 := if c.nDstStep = 0 then c.nWidth * c.dstByte else c.nDstStep

/-- `nSrcStep`, with its default. -/
def srcStep : UInt32 := if c.nSrcStep = 0 then c.nWidth * c.srcByte else c.nSrcStep

/-- The formats are equal, as far as the copy looks at them. -/
def sameFormats : Bool := formatsEqualNoAlpha c.srcFormat.toNat c.dstFormat.toNat

/-- `overlapping`. -/
def overlapping : Bool :=
  let pDstStart := c.pDstData + (c.nXDst * c.dstByte + c.nYDst * c.dstStep).toNat
  let pDstEnd := pDstStart + (c.nHeight * c.dstStep).toNat
  let pSrcStart := c.pSrcData + (c.nXSrc * c.srcByte + c.nYSrc * c.srcStep).toNat
  let pSrcEnd := pSrcStart + (c.nHeight * c.srcStep).toNat
  decide (pSrcStart ≤ pDstStart ∧ pDstStart ≤ pSrcEnd) ||
    decide (pSrcStart ≤ pDstEnd ∧ pDstEnd ≤ pSrcEnd)

/-- The offset of a row. -/
def rowOffset (y nY step vMultiplier vOffset : UInt32) : UInt32 :=
  (y + nY) * step * vMultiplier + vOffset

/-- `srcLine`. -/
def srcLine (y : Nat) : Nat :=
  c.pSrcData + (if c.vSrcVFlip then
    rowOffset (UInt32.ofNat y) c.nYSrc c.srcStep (-1) ((c.nHeight - 1) * c.srcStep)
  else rowOffset (UInt32.ofNat y) c.nYSrc c.srcStep 1 0).toNat

/-- `dstLine`. -/
def dstLine (y : Nat) : Nat :=
  c.pDstData + (rowOffset (UInt32.ofNat y) c.nYDst c.dstStep 1 0).toNat

/-- A row between equal formats, by `memcpy` or `memmove`. -/
def copyRow (copy : Nat → Nat → Nat → Memory → Option Memory) (m : Memory) (y : Nat) :
    Option Memory :=
  copy (c.dstLine y + (c.nXDst * c.dstByte).toNat) (c.srcLine y + (c.nXSrc * c.srcByte).toNat)
    (c.nWidth * c.dstByte).toNat m

/-- The rows between equal formats. -/
def copyRows (areas : Areas) (m : Memory) : Option Memory :=
  let down := List.range c.nHeight.toNat
  let up := down.reverse
  if c.overlapping then
    if c.nYDst < c.nYSrc then down.foldlM (c.copyRow (memcpy areas)) m
    else if c.nYDst > c.nYSrc then up.foldlM (c.copyRow (memcpy areas)) m
    else if c.nXSrc > c.nXDst then down.foldlM (c.copyRow (memmove areas)) m
    else if c.nXSrc < c.nXDst then up.foldlM (c.copyRow (memmove areas)) m
    else some m
  else down.foldlM (c.copyRow (memcpy areas)) m

/-- A pixel between other formats; the colours of the pixel before are kept. -/
def convertPixel (areas : Areas) (convert : Nat → Nat) (y : Nat) (old : Nat × Nat × Memory)
    (x : Nat) : Option (Nat × Nat × Memory) := do
  let (oldColor, oldDstColor, m) := old
  let color ← readColorAt areas m
    (c.srcLine y + ((UInt32.ofNat x + c.nXSrc) * c.srcByte).toNat) c.srcFormat.toNat
  let dstColor := if color = oldColor then oldDstColor else convert color
  let m ← writeColorAt areas (c.dstLine y + ((UInt32.ofNat x + c.nXDst) * c.dstByte).toNat)
    c.dstFormat.toNat dstColor m
  return (color, dstColor, m)

/-- A row between other formats. -/
def convertRow (areas : Areas) (convert : Nat → Nat) (m : Memory) (y : Nat) : Option Memory := do
  let color ← readColorAt areas m (c.srcLine y + (c.nXSrc * c.srcByte).toNat) c.srcFormat.toNat
  let dstColor := convert color
  let m ← writeColorAt areas (c.dstLine y + (c.nXDst * c.dstByte).toNat) c.dstFormat.toNat dstColor m
  let (_, _, m) ←
    (List.range' 1 (c.nWidth.toNat - 1)).foldlM (c.convertPixel areas convert y) (color, dstColor, m)
  return m

/-- `freerdp_image_copy`: its result, and the memory behind it. -/
def freerdpImageCopy (areas : Areas) (convert : Nat → Nat) (c : ImageCopy) (m : Memory) :
    Option (Bool × Memory) :=
  if c.nHeight.toNat > INT32_MAX ∨ c.nWidth.toNat > INT32_MAX then some (false, m)
  else if c.pDstData = 0 ∨ c.pSrcData = 0 then some (false, m)
  else if c.sameFormats then (c.copyRows areas m).map (true, ·)
  else ((List.range c.nHeight.toNat).foldlM (c.convertRow areas convert) m).map (true, ·)

end ImageCopy

end FreeRdp
