import FreeRdp.Codec.Planar.RoundTrip
import FreeRdp.Codec.Color

/-!
# Images of the planar codec

`freerdp_bitmap_compress_planar` and `planar_decompress`. An image is split into planes, the bottom
row first, and the planes follow a header that says how they are stored: raw or run-length encoded,
with or without alpha.
-/

namespace FreeRdp

def PLANAR_FORMAT_HEADER_CS : UInt8 := 0x08
def PLANAR_FORMAT_HEADER_RLE : UInt8 := 0x10
def PLANAR_FORMAT_HEADER_NA : UInt8 := 0x20
def PLANAR_FORMAT_HEADER_CLL_MASK : UInt8 := 0x07

/-- `BITMAP_PLANAR_CONTEXT`: the options, the dimensions, and the buffers that are read before they
are written. -/
structure PlanarContext where
  allowSkipAlpha : Bool
  allowRunLengthEncoding : Bool
  bgr : Bool
  maxWidth : Nat
  maxHeight : Nat
  nTempStep : Nat
  pTempData : Nat → UInt8
  rlePlanesBuffer : Nat → UInt8

/-- `ALIGN` to 4. -/
def planarAlign (val : Nat) : Nat := if val % 4 = 0 then val else (val + 4 - val % 4) % 2 ^ 32

/-- `freerdp_bitmap_planar_context_reset`, when all buffers are allocated. -/
def planarContextReset (context : PlanarContext) (width height : Nat) : PlanarContext :=
  { context with
    bgr := false
    maxWidth := planarAlign width
    maxHeight := planarAlign height
    nTempStep := planarAlign width * 4 % 2 ^ 32
    pTempData := fun _ => 0
    rlePlanesBuffer := fun _ => 0 }

/-- `freerdp_bitmap_planar_context_new`. -/
def planarContextNew (flags : UInt8) (maxWidth maxHeight : Nat) : PlanarContext :=
  planarContextReset
    ⟨flags &&& PLANAR_FORMAT_HEADER_NA ≠ 0, flags &&& PLANAR_FORMAT_HEADER_RLE ≠ 0, false, 0, 0, 0,
      fun _ => 0, fun _ => 0⟩ maxWidth maxHeight

/-- `planar_invert_format` of the formats of 32 bits. -/
def planarInvertFormat (planar : PlanarContext) (alpha : Bool) (format : PixelFormat) :
    PixelFormat :=
  if planar.bgr && alpha then
    match format with
    | .argb32 => .abgr32
    | .xrgb32 => .xbgr32
    | .abgr32 => .argb32
    | .xbgr32 => .xrgb32
    | .bgra32 => .rgba32
    | .bgrx32 => .rgbx32
    | .rgba32 => .bgra32
    | .rgbx32 => .bgrx32
  else format

/-! ### Compression -/

/-- The pixels of a row, from the index `row` on. -/
def splitColorRow (data : Nat → UInt8) (format : PixelFormat) (width row : Nat) : List Color :=
  (List.range width).map fun j => splitColor (readColor data (row + 4 * j)) format

/-- `freerdp_split_color_planes`: the pixels in the order of the planes. The index of a row is an
`INT32`. -/
def freerdpSplitColorPlanes (data : Nat → UInt8) (format : PixelFormat)
    (width height scanline : Nat) : Except PlanarError (List Color) :=
  if width > INT32_MAX ∨ height > INT32_MAX ∨ scanline > INT32_MAX then .error .failed
  else
    let scanline := if scanline = 0 then width * 4 % 2 ^ 32 else scanline
    if scanline * (height - 1) > INT32_MAX then .error .undefined
    else .ok ((List.range height).reverse.flatMap fun i =>
      splitColorRow data format width (scanline * i))

/-- `freerdp_bitmap_planar_compress_planes_rle`: the four planes share one buffer. -/
def planarCompressPlanesRle (alpha red green blue : List UInt8) (width height : Nat)
    (skipAlpha : Bool) : Option (List UInt8 × List UInt8 × List UInt8 × List UInt8) := do
  let outPlanesSize := width * height * 4 % 2 ^ 32
  let alpha ← if skipAlpha then some []
    else planarCompressPlaneRle alpha width height outPlanesSize
  let outPlanesSize := outPlanesSize - alpha.length
  let red ← planarCompressPlaneRle red width height outPlanesSize
  let outPlanesSize := outPlanesSize - red.length
  let green ← planarCompressPlaneRle green width height outPlanesSize
  let outPlanesSize := outPlanesSize - green.length
  let blue ← planarCompressPlaneRle blue width height outPlanesSize
  return (alpha, red, green, blue)

/-- The `FormatHeader` of the compressor. -/
def planarFormatHeader (skipAlpha rle : Bool) : UInt8 :=
  (if skipAlpha then PLANAR_FORMAT_HEADER_NA else 0) ||| (if rle then PLANAR_FORMAT_HEADER_RLE else 0)

/-- `freerdp_bitmap_compress_planar`; the error `failed` is `NULL`. -/
def freerdpBitmapCompressPlanar (context : PlanarContext) (data : Nat → UInt8)
    (format : PixelFormat) (width height scanline : Nat) : Except PlanarError (List UInt8) :=
  let skipAlpha := context.allowSkipAlpha
  let planeSize := width * height % 2 ^ 32
  let format := if !skipAlpha then planarInvertFormat context true format else format
  match freerdpSplitColorPlanes data format width height scanline with
  | .error e => .error e
  | .ok colors =>
    let alpha := colors.map Color.a
    let red := colors.map Color.r
    let green := colors.map Color.g
    let blue := colors.map Color.b
    if context.allowRunLengthEncoding then
      match planarCompressPlanesRle (planarDeltaEncodePlane alpha width)
        (planarDeltaEncodePlane red width) (planarDeltaEncodePlane green width)
        (planarDeltaEncodePlane blue width) width height skipAlpha with
      | none => .error .failed
      | some (alpha, red, green, blue) =>
        .ok (planarFormatHeader skipAlpha true :: (alpha ++ red ++ green ++ blue))
    else
      .ok (planarFormatHeader skipAlpha false :: ((if skipAlpha then [] else alpha.take planeSize) ++
        red.take planeSize ++ green.take planeSize ++ blue.take planeSize ++ [0]))

/-! ### Decompression -/

/-- What `planar_decompress` takes from elsewhere: whether `freerdp_image_copy` takes the buffers
for overlapping ones, and the primitive that converts from YCoCg. -/
structure PlanarEnv where
  overlapping : Bool
  yCoCgToRGB : (Nat → UInt8) → Nat → (Nat → UInt8) → PixelFormat → Nat → Nat → Nat → Nat → Bool →
    Option (Nat → UInt8)

/-- Where the planes start in the source, with the sizes of their codes. -/
structure PlanarPlanes where
  alpha : List UInt8
  red : List UInt8
  green : List UInt8
  blue : List UInt8
  alphaSize : Nat
  redSize : Nat
  greenSize : Nat
  blueSize : Nat

/-- The dimensions of a plane: the chroma planes may be subsampled. -/
def planarSubsampled (cs : Bool) (n : Nat) : Nat := if cs then n / 2 + n % 2 else n

/-- The run-length encoded planes after the header, as the scan measures them. -/
def planarRlePlanes (srcp : List UInt8) (alpha cs : Bool) (w h : Nat) :
    Except PlanarError PlanarPlanes :=
  let skip (src : List UInt8) (w h : Nat) := planarSkipPlaneRle (src.length + 1) src w h
  match if alpha then skip srcp w h else .ok 0 with
  | .error e => .error e
  | .ok alphaSize =>
    let red := srcp.drop alphaSize
    match skip red w h with
    | .error e => .error e
    | .ok redSize =>
      let green := red.drop redSize
      match skip green (planarSubsampled cs w) (planarSubsampled cs h) with
      | .error e => .error e
      | .ok greenSize =>
        if greenSize < 1 then .error .failed
        else
          let blue := green.drop greenSize
          match skip blue (planarSubsampled cs w) (planarSubsampled cs h) with
          | .error e => .error e
          | .ok blueSize =>
            if blueSize < 1 then .error .failed
            else .ok ⟨srcp, red, green, blue, alphaSize, redSize, greenSize, blueSize⟩

/-- The raw planes after the header. -/
def planarRawPlanes (srcp : List UInt8) (alpha cs : Bool) (w h : Nat) :
    Except PlanarError PlanarPlanes :=
  let planeSize := w * h % 2 ^ 32
  let subSize := planarSubsampled cs w * planarSubsampled cs h % 2 ^ 32
  let base := if cs then (planeSize + planeSize / 2) % 2 ^ 32 else planeSize * 3 % 2 ^ 32
  let alphaSize := if alpha then planeSize else 0
  let red := srcp.drop alphaSize
  let green := red.drop planeSize
  let blue := green.drop subSize
  if srcp.length < (alphaSize + base) % 2 ^ 32 then .error .failed
  else if blue.length < subSize then .error .failed
  else .ok ⟨srcp, red, green, blue, alphaSize, planeSize, subSize, subSize⟩

/-- A plane as it is read by `writeLine`; a read behind the source is undefined. -/
def planarReadPlane (plane : List UInt8) (n : Nat) : Except PlanarError (Nat → UInt8) :=
  if plane.length < n then .error .undefined else .ok fun i => plane.getD i 0

/-- `writeLine` for the two formats it is called with: the bytes of a row, whose pixels start at
`k` in the planes. -/
def writeLine (red green blue : Nat → UInt8) (alpha : Option (Nat → UInt8)) (width k : Nat) :
    List UInt8 :=
  (List.range width).flatMap fun x =>
    [blue (k + x), green (k + x), red (k + x), match alpha with
      | none => 0xFF
      | some alpha => alpha (k + x)]

/-- `planar_decompress_planes_raw`. The height is converted to `INT32`. -/
def planarDecompressPlanesRaw (red green blue : Nat → UInt8) (alpha : Option (Nat → UInt8))
    (pDstData : Nat → UInt8) (nDstStep nXDst nYDst nWidth nHeight : Nat) (vFlip : Bool)
    (totalHeight : Nat) : Except PlanarError (Nat → UInt8) :=
  if nHeight > INT32_MAX then .error .undefined
  else if (nYDst + nHeight) % 2 ^ 32 > totalHeight then .error .failed
  else if (nXDst + nWidth) * 4 % 2 ^ 32 > nDstStep then .error .failed
  else
    .ok (writeRows pDstData 1 (planarPlaced (planarRleStart nDstStep nXDst nYDst 0)
      (planarRows nHeight vFlip)
      ((List.range nHeight).map fun y => writeLine red green blue alpha nWidth (y * nWidth))))

/-- `planar_set_plane`. -/
def planarSetPlane (bValue : UInt8) (pDstData : Nat → UInt8)
    (nDstStep nXDst nYDst nWidth nHeight nChannel : Nat) (vFlip : Bool) :
    Except PlanarError (Int × (Nat → UInt8)) :=
  if nHeight > INT32_MAX ∨ nWidth > INT32_MAX then .error .failed
  else
    .ok (0, writeRows pDstData 4 (planarPlaced (planarRleStart nDstStep nXDst nYDst nChannel)
      (planarRows nHeight vFlip) (List.replicate nHeight (List.replicate nWidth bValue))))

/-- A negative status is an error. -/
def planarStatus : Except PlanarError (Int × (Nat → UInt8)) → Except PlanarError (Nat → UInt8)
  | .error e => .error e
  | .ok (status, dst) => if status < 0 then .error .failed else .ok dst

/-- The planes of an RGB image are written, either from their codes or raw. -/
def planarDecompressRgb (planes : PlanarPlanes) (rle useAlpha : Bool) (dst : Nat → UInt8)
    (step nXDst nYDst w h : Nat) (vFlip : Bool) (totalHeight : Nat) :
    Except PlanarError (Nat → UInt8) :=
  if !rle then do
    let red ← planarReadPlane planes.red (w * h)
    let green ← planarReadPlane planes.green (w * h)
    let blue ← planarReadPlane planes.blue (w * h)
    let alpha ← (if useAlpha then some <$> planarReadPlane planes.alpha (w * h) else .ok none)
    planarDecompressPlanesRaw red green blue alpha dst step nXDst nYDst w h vFlip totalHeight
  else do
    let dst ← planarStatus (planarDecompressPlaneRle planes.red planes.redSize dst step nXDst nYDst
      w h 2 vFlip)
    let dst ← planarStatus (planarDecompressPlaneRle planes.green planes.greenSize dst step nXDst
      nYDst w h 1 vFlip)
    let dst ← planarStatus (planarDecompressPlaneRle planes.blue planes.blueSize dst step nXDst
      nYDst w h 0 vFlip)
    if useAlpha then
      planarStatus (planarDecompressPlaneRle planes.alpha planes.alphaSize dst step nXDst nYDst w h
        3 vFlip)
    else planarStatus (planarSetPlane 0xFF dst step nXDst nYDst w h 3 vFlip)

/-- A pixel as `freerdp_image_copy` writes it. -/
def freerdpCopyPixel (src : Nat → UInt8) (srcFormat dstFormat : PixelFormat) (i : Nat) :
    List UInt8 :=
  if areColorFormatsEqualNoAlpha srcFormat dstFormat then
    [src i, src (i + 1), src (i + 2), src (i + 3)]
  else writeColor (freeRDPConvertColor (readColor src i) srcFormat dstFormat)

/-- `freerdp_image_copy` between formats of 32 bits, from a place to the same place of another
buffer. Buffers that are taken for overlapping are then taken for equal. -/
def freerdpImageCopy (overlapping : Bool) (dst : Nat → UInt8) (dstFormat : PixelFormat)
    (nDstStep nX nY nWidth nHeight : Nat) (src : Nat → UInt8) (srcFormat : PixelFormat)
    (nSrcStep : Nat) : Except PlanarError (Nat → UInt8) :=
  if nHeight > INT32_MAX ∨ nWidth > INT32_MAX then .error .failed
  else
    let nDstStep := if nDstStep = 0 then nWidth * 4 % 2 ^ 32 else nDstStep
    let nSrcStep := if nSrcStep = 0 then nWidth * 4 % 2 ^ 32 else nSrcStep
    if areColorFormatsEqualNoAlpha srcFormat dstFormat && overlapping then .ok dst
    else
      let start (step y : Nat) := (y + nY) * step % 2 ^ 32 + nX * 4 % 2 ^ 32
      .ok (writeRows dst 1 (planarPlaced (start nDstStep) (List.range nHeight)
        ((List.range nHeight).map fun y => (List.range nWidth).flatMap fun x =>
          freerdpCopyPixel src srcFormat dstFormat (start nSrcStep y + 4 * x))))

/-- `planar_subsample_expand`. -/
def planarSubsampleExpand (plane : Nat → UInt8) (nWidth nHeight nPlaneWidth nPlaneHeight : Nat) :
    Option (Nat → UInt8) :=
  if nWidth > nPlaneWidth * 2 ∨ nHeight > nPlaneHeight * 2 then none
  else some fun i => plane (i / nWidth / 2 * nPlaneWidth + i % nWidth / 2)

/-- A plane of a YCoCg image: decoded to its place in the buffer, or raw. -/
def planarYCoCgPlane (rle : Bool) (plane : List UInt8) (size : Nat) (buffer : Nat → UInt8)
    (w h : Nat) : Except PlanarError (Nat → UInt8) :=
  if rle then planarStatus (planarDecompressPlaneRleOnly plane size buffer w h)
  else planarReadPlane plane (w * h)

/-- The branch of `planar_decompress` for YCoCg. -/
def planarDecompressYCoCg (env : PlanarEnv) (planar : PlanarContext) (planes : PlanarPlanes)
    (rle cs useAlpha : Bool) (cll : Nat) (pDstData : Nat → UInt8) (dstFormat : PixelFormat)
    (nDstStep nXDst nYDst nSrcWidth nSrcHeight w h : Nat) (vFlip : Bool) :
    Except PlanarError (Nat → UInt8) := do
  let planeSize := nSrcWidth * nSrcHeight % 2 ^ 32
  let subWidth := planarSubsampled cs nSrcWidth
  let subHeight := planarSubsampled cs nSrcHeight
  let buffer (k : Nat) := fun i => planar.rlePlanesBuffer (k * planeSize + i)
  let alpha ← (if useAlpha then
      some <$> planarYCoCgPlane rle planes.alpha planes.alphaSize (buffer 0) nSrcWidth nSrcHeight
    else .ok none)
  let luma ← planarYCoCgPlane rle planes.red planes.redSize (buffer 1) nSrcWidth nSrcHeight
  let orange ← planarYCoCgPlane rle planes.green planes.greenSize (buffer 2) subWidth subHeight
  let green ← planarYCoCgPlane rle planes.blue planes.blueSize (buffer 3) subWidth subHeight
  let expand (plane : Nat → UInt8) : Except PlanarError (Nat → UInt8) :=
    if cs then
      match planarSubsampleExpand plane nSrcWidth nSrcHeight subWidth subHeight with
      | none => .error .failed
      | some plane => .ok plane
    else .ok plane
  let orange ← expand orange
  let green ← expand green
  let temp ← planarDecompressPlanesRaw luma orange green alpha planar.pTempData planar.nTempStep
    nXDst nYDst nSrcWidth nSrcHeight vFlip planar.maxHeight
  match env.yCoCgToRGB temp planar.nTempStep pDstData dstFormat nDstStep w h cll useAlpha with
  | none => .error .failed
  | some dst => .ok dst

/-- `planar_decompress`: the destination after it, unless it returns `FALSE`. -/
def planarDecompress (env : PlanarEnv) (planar : PlanarContext) (pSrcData : List UInt8)
    (nSrcWidth nSrcHeight : Nat) (pDstData : Nat → UInt8) (dstFormat : PixelFormat)
    (nDstStep nXDst nYDst nDstWidth nDstHeight : Nat) (vFlip : Bool) :
    Except PlanarError (Nat → UInt8) :=
  let w := min nSrcWidth nDstWidth
  let h := min nSrcHeight nDstHeight
  let nDstStep := if nDstStep = 0 then nDstWidth * 4 % 2 ^ 32 else nDstStep
  match pSrcData with
  | [] => .error .undefined
  | formatHeader :: srcp =>
    let cll := (formatHeader &&& PLANAR_FORMAT_HEADER_CLL_MASK).toNat
    let cs : Bool := formatHeader &&& PLANAR_FORMAT_HEADER_CS ≠ 0
    let rle : Bool := formatHeader &&& PLANAR_FORMAT_HEADER_RLE ≠ 0
    let alpha : Bool := formatHeader &&& PLANAR_FORMAT_HEADER_NA = 0
    let dstFormat := planarInvertFormat planar alpha dstFormat
    let useAlpha := alpha && colorHasAlpha dstFormat
    if cll = 0 ∧ cs then .error .failed
    else
      match if rle then planarRlePlanes srcp alpha cs nSrcWidth nSrcHeight
        else planarRawPlanes srcp alpha cs nSrcWidth nSrcHeight with
      | .error e => .error e
      | .ok planes =>
        if cll = 0 then
          let tempFormat : PixelFormat := if useAlpha then .bgra32 else .bgrx32
          if tempFormat ≠ dstFormat ∨ nSrcWidth ≠ nDstWidth ∨ nSrcHeight ≠ nDstHeight then
            match planarDecompressRgb planes rle useAlpha planar.pTempData planar.nTempStep nXDst
              nYDst nSrcWidth nSrcHeight vFlip planar.maxHeight with
            | .error e => .error e
            | .ok temp => freerdpImageCopy env.overlapping pDstData dstFormat nDstStep nXDst nYDst w
                h temp tempFormat planar.nTempStep
          else
            planarDecompressRgb planes rle useAlpha pDstData nDstStep nXDst nYDst nSrcWidth
              nSrcHeight vFlip ((nYDst + nDstHeight) % 2 ^ 32)
        else
          planarDecompressYCoCg env planar planes rle cs useAlpha cll pDstData dstFormat nDstStep
            nXDst nYDst nSrcWidth nSrcHeight w h vFlip

end FreeRdp
