import FreeRdp.Library.Attempts
import FreeRdp.Codec.PixelFormat
import FreeRdp.Library.Copy
import FreeRdp.Winpr.Crt
import FreeRdp.Winpr.Stream

/-!
# ClearCodec

The decoder of `codec/clear.c`. A message has a glyph part and three layers, the residual, the bands
and the subcodecs, all of which draw on the destination; the vertical bars of bands and the glyphs
are kept in caches. A call that fails leaves what it has drawn and cached so far.

Next to the destination's bytes a call records the pixels it draws, the differences it clips with
and the bars it draws from. The values that `FreeRDPGetColor` and `FreeRDPConvertColor` give, what
NSCodec makes of its data and which allocations succeed are parameters.
-/

namespace FreeRdp

def CLEARCODEC_FLAG_GLYPH_INDEX : Nat := 0x01
def CLEARCODEC_FLAG_GLYPH_HIT : Nat := 0x02
def CLEARCODEC_FLAG_CACHE_RESET : Nat := 0x04

def CLEARCODEC_VBAR_SIZE : Nat := 32768
def CLEARCODEC_VBAR_SHORT_SIZE : Nat := 16384

/-! ### State -/

/-- `CLEAR_GLYPH_ENTRY`. -/
structure ClearGlyphEntry where
  size : Nat := 0
  count : Nat := 0
  pixels : Option (Nat → UInt8) := none

/-- `CLEAR_VBAR_ENTRY`, with the bytes that are allocated for its pixels. -/
structure ClearVBarEntry where
  size : Nat := 0
  count : Nat := 0
  pixels : Option (List UInt8) := none
  deriving DecidableEq, Repr

/-- `CLEAR_CONTEXT`. -/
structure ClearContext where
  seqNumber : Nat
  tempBuffer : Nat → UInt8
  tempSize : Nat
  format : Nat
  glyphCache : Nat → ClearGlyphEntry
  vBarStorageCursor : Nat
  vBarStorage : Nat → ClearVBarEntry
  shortVBarStorageCursor : Nat
  shortVBarStorage : Nat → ClearVBarEntry

/-- `clear_context_new`, with a temporary buffer for 512 by 512 pixels. -/
def clearContextNew : ClearContext where
  seqNumber := 0
  tempBuffer := fun _ => 0
  tempSize := (512 + 16) * (512 + 16) * 4
  format := PIXEL_FORMAT_BGRX32
  glyphCache := fun _ => {}
  vBarStorageCursor := 0
  vBarStorage := fun _ => {}
  shortVBarStorageCursor := 0
  shortVBarStorage := fun _ => {}

/-- `clear_context_reset`. -/
def clearContextReset (clear : ClearContext) : ClearContext := { clear with seqNumber := 0 }

/-- What memory is allocated for. -/
inductive ClearBuffer where
  | stream
  | temp
  | glyph
  | bar
  deriving DecidableEq, Repr

/-- What a call makes use of: colour values, NSCodec, and which of its allocations succeed. The flag
of `convertColor` says whether the palette of the call is used. -/
structure ClearEnv where
  getColor : (format : Nat) → (r g b a : UInt8) → Nat
  convertColor : (palette : Bool) → (color srcFormat dstFormat : Nat) → Nat
  nscDecode : (data : List UInt8) → (width height : Nat) → Option (Nat → UInt8)
  granted : ClearBuffer → Nat → Bool

/-- The arguments of `clear_decompress`. -/
structure ClearCall where
  pSrcData : List UInt8
  nWidth : UInt32
  nHeight : UInt32
  pDstData : Option (Nat → UInt8)
  dstFormat : UInt32
  nDstStep : UInt32
  nXDst : UInt32
  nYDst : UInt32
  nDstWidth : UInt32
  nDstHeight : UInt32

/-- What a call does apart from its result: pixels of the destination it writes, differences it
takes in order to clip, and bars it draws a band of some height from. -/
inductive ClearEvent where
  | pixel (x y : Nat)
  | clip (size start : Nat)
  | bar (entry : ClearVBarEntry) (bytesPerPixel height : Nat)
  deriving DecidableEq, Repr

/-- What a call works on. -/
structure ClearState where
  clear : ClearContext
  dst : Nat → UInt8
  allocations : Nat
  events : List ClearEvent

namespace ClearState

/-- An event is recorded. -/
def record (e : ClearEvent) : Attempt ClearState Unit :=
  .modify fun s => { s with events := e :: s.events }

/-- The context is changed. -/
def change (f : ClearContext → ClearContext) : Attempt ClearState Unit :=
  .modify fun s => { s with clear := f s.clear }

/-- An allocation is asked for. -/
def allocate (env : ClearEnv) (buffer : ClearBuffer) : Attempt ClearState Bool := fun s =>
  (some (env.granted buffer s.allocations), { s with allocations := s.allocations + 1 })

end ClearState

open ClearState

/-! ### Images -/

/-- A pixel that is written: where it is, the index of its first byte, and its bytes. -/
structure PixelWrite where
  x : Nat
  y : Nat
  index : Nat
  bytes : List UInt8

/-- The destination's pixel is written. -/
def drawPixel (p : PixelWrite) : Attempt ClearState Unit :=
  .modify fun s =>
    { s with dst := writeList s.dst p.index p.bytes, events := .pixel p.x p.y :: s.events }

/-- A row of `freerdp_image_copy`. Between formats that differ the first pixel of a row is written
whatever the width. -/
def freerdpImageCopyRow (env : ClearEnv) (palette : Bool)
    (dstFormat srcFormat nXDst y nWidth dstLine : Nat) (src : Nat → UInt8) (srcLine nXSrc : Nat) :
    List PixelWrite :=
  let dstByte := getBytesPerPixel dstFormat
  let srcByte := getBytesPerPixel srcFormat
  if formatsEqualNoAlpha srcFormat dstFormat then
    (List.range ((nWidth * dstByte % 2 ^ 32 + dstByte - 1) / dstByte)).map fun x =>
      { x := nXDst + x
        y := y
        index := dstLine + nXDst * dstByte % 2 ^ 32 + x * dstByte
        bytes := readList src (srcLine + nXSrc * srcByte % 2 ^ 32 + x * dstByte) dstByte }
  else
    (List.range (max nWidth 1)).filterMap fun x =>
      let bytes := readList src (srcLine + (x + nXSrc) * srcByte % 2 ^ 32) srcByte
      let color := env.convertColor palette (readColorBytes srcFormat bytes) srcFormat dstFormat
      (writeColorBytes dstFormat color).map fun bytes =>
        { x := (nXDst + x) % 2 ^ 32
          y := y
          index := dstLine + (x + nXDst) * dstByte % 2 ^ 32
          bytes := bytes }

/-- `freerdp_image_copy` without flipping, between buffers that do not overlap: the pixels it
writes. -/
def freerdpImageCopyPixels (env : ClearEnv) (palette : Bool)
    (dstFormat nDstStep nXDst nYDst nWidth nHeight : Nat) (src : Nat → UInt8)
    (srcFormat nSrcStep nXSrc nYSrc : Nat) : Option (List PixelWrite) :=
  if nHeight > INT32_MAX ∨ nWidth > INT32_MAX then none
  else
    let dstStep := if nDstStep = 0 then nWidth * getBytesPerPixel dstFormat % 2 ^ 32 else nDstStep
    let srcStep := if nSrcStep = 0 then nWidth * getBytesPerPixel srcFormat % 2 ^ 32 else nSrcStep
    some ((List.range nHeight).flatMap fun y =>
      freerdpImageCopyRow env palette dstFormat srcFormat nXDst ((nYDst + y) % 2 ^ 32) nWidth
        ((y + nYDst) * dstStep % 2 ^ 32) src ((y + nYSrc) * srcStep % 2 ^ 32) nXSrc)

/-- A side of a rectangle that is cut off at the end of the destination. -/
def clipSide (start size limit : Nat) : Attempt ClearState Nat :=
  if (size + start) % 2 ^ 32 > limit then do
    record (.clip limit start)
    return (limit + 2 ^ 32 - start) % 2 ^ 32
  else
    return size

/-- `convert_color`. -/
def convertColor (env : ClearEnv) (call : ClearCall) (nXDst nYDst nWidth nHeight : Nat)
    (src : Nat → UInt8) (nSrcStep srcFormat : Nat) : Attempt ClearState Unit := do
  let nWidth ← clipSide nXDst nWidth call.nDstWidth.toNat
  let nHeight ← clipSide nYDst nHeight call.nDstHeight.toNat
  let pixels ← .lift (freerdpImageCopyPixels env true call.dstFormat.toNat call.nDstStep.toNat
    nXDst nYDst nWidth nHeight src srcFormat nSrcStep 0 0)
  .each drawPixel pixels

/-- `clear_resize_buffer`. -/
def clearResizeBuffer (env : ClearEnv) (width height : Nat) : Attempt ClearState Unit := do
  let clear ← .gets ClearState.clear
  let size := (width + 16) * (height + 16) * getBytesPerPixel clear.format % 2 ^ 32
  .when (size > clear.tempSize) do
    .require (← allocate env .temp)
    change fun clear => { clear with tempSize := size }

/-! ### Reading -/

/-- The length of a run, in one, three or seven bytes, whose first byte has been read. -/
def readRunLengthFactor (factor : Nat) (s : WStream) : Option (Nat × WStream) :=
  if factor < 0xFF then some (factor, s)
  else if s.remainingLength < 2 then none
  else
    let (factor, s) := s.readUInt16
    if factor < 0xFFFF then some (factor, s)
    else if s.remainingLength < 4 then none
    else some s.readUInt32

/-- A colour with its bytes in the order blue, green, red. -/
structure ClearColor where
  b : UInt8
  g : UInt8
  r : UInt8
  deriving DecidableEq, Repr

/-- A colour of the stream. -/
def readClearColor (s : WStream) : ClearColor × WStream :=
  let (b, s) := s.readUInt8
  let (g, s) := s.readUInt8
  let (r, s) := s.readUInt8
  (⟨UInt8.ofNat b, UInt8.ofNat g, UInt8.ofNat r⟩, s)

/-- Some colours of the stream. -/
def readClearColors : Nat → WStream → List ClearColor × WStream
  | 0, s => ([], s)
  | n + 1, s =>
    let (color, s) := readClearColor s
    let (colors, s) := readClearColors n s
    (color :: colors, s)

/-- The value of a colour in a format. -/
def ClearEnv.color (env : ClearEnv) (format : Nat) (c : ClearColor) : Nat :=
  env.getColor format c.r c.g c.b 0xFF

/-! ### The residual layer -/

/-- How far the residual layer is: the bytes and pixels of it, the pixels in the temporary buffer
and the stream. -/
structure ResidualProgress where
  suboffset : Nat
  pixelIndex : Nat
  dstBuffer : Nat
  s : WStream

/-- A run of the residual layer. -/
def residualRun (env : ClearEnv) (pixelCount : Nat) (p : ResidualProgress) :
    Attempt ClearState ResidualProgress := do
  .require (4 ≤ p.s.remainingLength)
  let (c, s) := readClearColor p.s
  let (factor, s) := s.readUInt8
  let (factor, s) ← .lift (readRunLengthFactor factor s)
  let format ← .gets (·.clear.format)
  .require ((p.pixelIndex + factor) % 2 ^ 32 ≤ pixelCount)
  let bytes := (writeColorBytes format (env.color format c)).getD []
  let run := (List.replicate factor bytes).flatten
  let index := p.dstBuffer * getBytesPerPixel format
  change fun clear => { clear with tempBuffer := writeList clear.tempBuffer index run }
  return { suboffset := p.suboffset + (s.pos - p.s.pos)
           pixelIndex := (p.pixelIndex + factor) % 2 ^ 32
           dstBuffer := p.dstBuffer + factor
           s := s }

/-- `clear_decompress_residual_data`. A run takes four bytes at least, so there are fewer runs than
bytes. -/
def clearDecompressResidualData (env : ClearEnv) (call : ClearCall) (residualByteCount : Nat)
    (s : WStream) : Attempt ClearState WStream := do
  .require (residualByteCount ≤ s.remainingLength)
  let pixelCount := call.nWidth.toNat * call.nHeight.toNat % 2 ^ 32
  clearResizeBuffer env call.nWidth.toNat call.nHeight.toNat
  let p ← .loop (fun p => p.suboffset < residualByteCount) (residualRun env pixelCount)
    (s.remainingLength + 1) ⟨0, 0, 0, s⟩
  .require (p.pixelIndex = pixelCount)
  let clear ← .gets ClearState.clear
  convertColor env call call.nXDst.toNat call.nYDst.toNat call.nWidth.toNat call.nHeight.toNat
    clear.tempBuffer (call.nWidth.toNat * getBytesPerPixel clear.format % 2 ^ 32) clear.format
  return p.s

/-! ### Bands -/

/-- The header of a band. -/
structure ClearBand where
  xStart : Nat
  xEnd : Nat
  yStart : Nat
  yEnd : Nat
  colorBkg : ClearColor

/-- The header of a band, whose end must not come before its start. -/
def readBand (s : WStream) : Option (ClearBand × WStream) :=
  if s.remainingLength < 11 then none
  else
    let (xStart, s) := s.readUInt16
    let (xEnd, s) := s.readUInt16
    let (yStart, s) := s.readUInt16
    let (yEnd, s) := s.readUInt16
    let (colorBkg, s) := readClearColor s
    if xEnd < xStart then none
    else if yEnd < yStart then none
    else some (⟨xStart, xEnd, yStart, yEnd, colorBkg⟩, s)

/-- The height of a band's bars. -/
def ClearBand.height (band : ClearBand) : Nat := band.yEnd - band.yStart + 1

/-- The number of a band's bars. -/
def ClearBand.vBarCount (band : ClearBand) : Nat := band.xEnd - band.xStart + 1

/-- A vertical bar of a band: one with the pixels of a short bar of the cache, or of a new one, from
a row on, or a bar of the cache. -/
inductive ClearBar where
  | shortHit (vBarIndex vBarYOn : Nat)
  | shortMiss (vBarYOn : Nat) (colors : List ClearColor)
  | hit (vBarIndex : Nat)

/-- A bar of a band as the stream has it. -/
def readBar (vBarHeight : Nat) (s : WStream) : Option (ClearBar × WStream) :=
  if s.remainingLength < 2 then none
  else
    let (vBarHeader, s) := s.readUInt16
    if vBarHeight > 52 then none
    else if vBarHeader &&& 0xC000 = 0x4000 then
      if s.remainingLength < 1 then none
      else
        let (vBarYOn, s) := s.readUInt8
        some (.shortHit (vBarHeader &&& 0x3FFF) vBarYOn, s)
    else if vBarHeader &&& 0xC000 = 0x0000 then
      let vBarYOn := vBarHeader &&& 0xFF
      let vBarYOff := vBarHeader >>> 8 &&& 0x3F
      if vBarYOff < vBarYOn then none
      else if vBarYOff - vBarYOn > 52 then none
      else if s.remainingLength < (vBarYOff - vBarYOn) * 3 then none
      else
        let (colors, s) := readClearColors (vBarYOff - vBarYOn) s
        some (.shortMiss vBarYOn colors, s)
    else if vBarHeader &&& 0x8000 = 0x8000 then some (.hit (vBarHeader &&& 0x7FFF), s)
    else none

/-- The two caches of bars. -/
inductive ClearStorage where
  | vBar
  | shortVBar

namespace ClearContext

/-- An entry of a cache. -/
def entry (clear : ClearContext) : ClearStorage → Nat → ClearVBarEntry
  | .vBar, i => clear.vBarStorage i
  | .shortVBar, i => clear.shortVBarStorage i

/-- An entry of a cache is set. -/
def setEntry (clear : ClearContext) (storage : ClearStorage) (i : Nat) (e : ClearVBarEntry) :
    ClearContext :=
  match storage with
  | .vBar => { clear with vBarStorage := Function.update clear.vBarStorage i e }
  | .shortVBar => { clear with shortVBarStorage := Function.update clear.shortVBarStorage i e }

end ClearContext

/-- The buffer after `realloc` and `memset`: the first `oldPos` bytes stay, those up to `oldPos`
that the buffer did not have are not determined. -/
def growPixels (pixels : Option (List UInt8)) (oldPos diffSize : Nat) : List UInt8 :=
  (pixels.getD [] ++ List.replicate oldPos 0).take oldPos ++ List.replicate diffSize 0

/-- `resize_vbar_entry`. The size is set before the memory is there. -/
def resizeVbarEntry (env : ClearEnv) (storage : ClearStorage) (i : Nat) :
    Attempt ClearState Unit := do
  let clear ← .gets ClearState.clear
  let entry := clear.entry storage i
  let bpp := getBytesPerPixel clear.format
  .when (entry.count > entry.size) do
    change (·.setEntry storage i { entry with size := entry.count })
    .require (← allocate env .bar)
    let pixels := growPixels entry.pixels (entry.size * bpp) ((entry.count - entry.size) * bpp)
    change (·.setEntry storage i { entry with size := entry.count, pixels := some pixels })
  let clear ← .gets ClearState.clear
  let entry := clear.entry storage i
  .require (entry.pixels.isSome || entry.size == 0)

/-- The number of pixels of an entry is set, and the entry resized to it. -/
def setCount (env : ClearEnv) (storage : ClearStorage) (i count : Nat) :
    Attempt ClearState Unit := do
  change fun clear => clear.setEntry storage i { clear.entry storage i with count := count }
  resizeVbarEntry env storage i

/-- Bytes written into a buffer; what would go beyond its end is lost. -/
def patchBytes (buffer : List UInt8) (i : Nat) (bytes : List UInt8) : List UInt8 :=
  (buffer.take i ++ bytes ++ buffer.drop (i + bytes.length)).take buffer.length

/-- A pixel of an entry is written. -/
def writeEntryPixel (storage : ClearStorage) (i k color : Nat) : Attempt ClearState Unit := do
  let clear ← .gets ClearState.clear
  let bytes ← .lift (writeColorBytes clear.format color)
  change fun clear =>
    let entry := clear.entry storage i
    let write := (patchBytes · (k * getBytesPerPixel clear.format) bytes)
    clear.setEntry storage i { entry with pixels := entry.pixels.map write }

/-- Pixels of an entry from the one at `k` on. -/
def writeEntryPixels (storage : ClearStorage) (i : Nat) : Nat → List Nat → Attempt ClearState Unit
  | _, [] => pure ()
  | k, color :: colors => do
    writeEntryPixel storage i k color
    writeEntryPixels storage i (k + 1) colors

/-- A pixel of an entry. -/
def ClearVBarEntry.color (entry : ClearVBarEntry) (format k : Nat) : Nat :=
  readColorBytes format ((entry.pixels.getD []).drop (k * getBytesPerPixel format))

/-- A new short bar is put into the cache; its index there is the result. -/
def storeShortBar (env : ClearEnv) (colors : List ClearColor) : Attempt ClearState Nat := do
  let clear ← .gets ClearState.clear
  .require (clear.shortVBarStorageCursor < CLEARCODEC_VBAR_SHORT_SIZE)
  let i := clear.shortVBarStorageCursor
  setCount env .shortVBar i colors.length
  writeEntryPixels .shortVBar i 0 (colors.map (env.color clear.format))
  change fun clear => { clear with
    shortVBarStorageCursor := (clear.shortVBarStorageCursor + 1) % CLEARCODEC_VBAR_SHORT_SIZE }
  return i

/-- A bar is made of a short one and the background and put into the cache; its index there is the
result. Where the format is not supported the background above is left out. -/
def storeBar (env : ClearEnv) (band : ClearBand) (vBarYOn shortIndex : Nat) :
    Attempt ClearState Nat := do
  let clear ← .gets ClearState.clear
  .require (clear.vBarStorageCursor < CLEARCODEC_VBAR_SIZE)
  let i := clear.vBarStorageCursor
  let short := clear.entry .shortVBar shortIndex
  let height := band.height
  let colorBkg := env.color clear.format band.colorBkg
  let above := min vBarYOn height
  let inside := if vBarYOn + short.count > height then height - vBarYOn else short.count
  setCount env .vBar i height
  .when (writeColorBytes clear.format colorBkg).isSome
    (writeEntryPixels .vBar i 0 (List.replicate above colorBkg))
  writeEntryPixels .vBar i above ((List.range inside).map (short.color clear.format))
  writeEntryPixels .vBar i (above + inside)
    (List.replicate (height - (vBarYOn + short.count)) colorBkg)
  change fun clear => { clear.setEntry .vBar i { clear.entry .vBar i with count := height } with
    vBarStorageCursor := (clear.vBarStorageCursor + 1) % CLEARCODEC_VBAR_SIZE }
  return i

/-- The entry of the cache for a bar. An entry that has never been filled gets dummy data. -/
def barEntry (env : ClearEnv) (band : ClearBand) : ClearBar → Attempt ClearState Nat
  | .shortHit vBarIndex vBarYOn => storeBar env band vBarYOn vBarIndex
  | .shortMiss vBarYOn colors => do storeBar env band vBarYOn (← storeShortBar env colors)
  | .hit vBarIndex => do
    let clear ← .gets ClearState.clear
    .when ((clear.entry .vBar vBarIndex).size = 0) (setCount env .vBar vBarIndex band.height)
    return vBarIndex

/-- The pixel `y` of the bar `i` of a band, drawn where the band has it. -/
def drawBarPixel (env : ClearEnv) (call : ClearCall) (band : ClearBand) (i : Nat)
    (entry : ClearVBarEntry) (format y : Nat) : Attempt ClearState Unit := do
  let dstFormat := call.dstFormat.toNat
  let color := env.convertColor false (entry.color format y) format dstFormat
  let bytes ← .lift (writeColorBytes dstFormat color)
  let x' := (call.nXDst.toNat + band.xStart + i) % 2 ^ 32
  let y' := (call.nYDst.toNat + band.yStart + y) % 2 ^ 32
  let index := (y' * call.nDstStep.toNat + x' * getBytesPerPixel dstFormat) % 2 ^ 32
  drawPixel ⟨x', y', index, bytes⟩

/-- A bar of a band: its entry in the cache is found or made, and drawn unless there are more bars
than columns. -/
def drawBar (env : ClearEnv) (call : ClearCall) (band : ClearBand) (i : Nat) (bar : ClearBar) :
    Attempt ClearState Unit := do
  let k ← barEntry env band bar
  let clear ← .gets ClearState.clear
  .when ((clear.entry .vBar k).count ≠ band.height) (setCount env .vBar k band.height)
  .when (i < call.nWidth.toNat) do
    let clear ← .gets ClearState.clear
    let entry := clear.entry .vBar k
    record (.bar entry (getBytesPerPixel clear.format) band.height)
    .each (drawBarPixel env call band i entry clear.format)
      (List.range (min entry.count call.nHeight.toNat))

/-- The bars of a band from the one at `i` on. -/
def drawBars (env : ClearEnv) (call : ClearCall) (band : ClearBand) :
    Nat → Nat → WStream → Attempt ClearState WStream
  | 0, _, s => pure s
  | n + 1, i, s => do
    let (bar, s) ← .lift (readBar band.height s)
    drawBar env call band i bar
    drawBars env call band n (i + 1) s

/-- A band. The progress is the number of bytes read and the stream. -/
def drawBand (env : ClearEnv) (call : ClearCall) (p : Nat × WStream) :
    Attempt ClearState (Nat × WStream) := do
  let (band, s) ← .lift (readBand p.2)
  let s ← drawBars env call band band.vBarCount 0 s
  return (p.1 + (s.pos - p.2.pos), s)

/-- `clear_decompress_bands_data`. -/
def clearDecompressBandsData (env : ClearEnv) (call : ClearCall) (bandsByteCount : Nat)
    (s : WStream) : Attempt ClearState WStream := do
  .require (bandsByteCount ≤ s.remainingLength)
  let p ← .loop (fun p => p.1 < bandsByteCount) (drawBand env call) (s.remainingLength + 1) (0, s)
  return p.2

end FreeRdp
