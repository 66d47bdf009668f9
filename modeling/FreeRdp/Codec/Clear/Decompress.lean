import FreeRdp.Codec.Clear.Basic

/-!
# ClearCodec messages

The subcodecs, the glyph cache and `clear_decompress`, which takes a message apart.
-/

namespace FreeRdp

open ClearState

/-! ### Subcodecs -/

/-- The header of a rectangle that a subcodec has encoded. -/
structure ClearSubcodec where
  xStart : Nat
  yStart : Nat
  width : Nat
  height : Nat
  bitmapDataByteCount : Nat
  subcodecId : Nat

/-- The header of a rectangle; its data must be there. -/
def readSubcodec (s : WStream) : Option (ClearSubcodec × WStream) :=
  if s.remainingLength < 13 then none
  else
    let (xStart, s) := s.readUInt16
    let (yStart, s) := s.readUInt16
    let (width, s) := s.readUInt16
    let (height, s) := s.readUInt16
    let (bitmapDataByteCount, s) := s.readUInt32
    let (subcodecId, s) := s.readUInt8
    if s.remainingLength < bitmapDataByteCount then none
    else some (⟨xStart, yStart, width, height, bitmapDataByteCount, subcodecId⟩, s)

/-- `clear_decompress_nscodec`. -/
def clearDecompressNscodec (env : ClearEnv) (call : ClearCall) (rect : ClearSubcodec)
    (nXDstRel nYDstRel : Nat) (s : WStream) : Attempt ClearState WStream := do
  .require (rect.bitmapDataByteCount ≤ s.remainingLength)
  let data := (s.read rect.bitmapDataByteCount).1
  let bitmapData ← .lift (env.nscDecode data rect.width rect.height)
  let pixels ← .lift (freerdpImageCopyPixels env false call.dstFormat.toNat call.nDstStep.toNat
    nXDstRel nYDstRel rect.width rect.height bitmapData PIXEL_FORMAT_BGRA32 0 0 0)
  .each drawPixel pixels
  return s.seek rect.bitmapDataByteCount

/-- How far a RLEX bitmap is: its bytes, its pixels, the column and row of the next one, and the
stream. -/
structure RlexProgress where
  bitmapDataOffset : Nat
  pixelIndex : Nat
  x : Nat
  y : Nat
  s : WStream

/-- A pixel of a RLEX bitmap, drawn if the destination has it. The result is the next column and
row. -/
def rlexPixel (call : ClearCall) (width nXDstRel nYDstRel color : Nat) (p : Nat × Nat) :
    Attempt ClearState (Nat × Nat) := do
  let x := (nXDstRel + p.1) % 2 ^ 32
  let y := (nYDstRel + p.2) % 2 ^ 32
  let format := call.dstFormat.toNat
  .when (x < call.nDstWidth.toNat ∧ y < call.nDstHeight.toNat) do
    match writeColorBytes format color with
    | some bytes =>
      drawPixel ⟨x, y, (x * getBytesPerPixel format + y * call.nDstStep.toNat) % 2 ^ 32, bytes⟩
    | none => pure ()
  return if p.1 + 1 ≥ width then (0, (p.2 + 1) % 2 ^ 32) else (p.1 + 1, p.2)

/-- The pixels of a run. -/
def rlexRun (call : ClearCall) (width nXDstRel nYDstRel color : Nat) :
    Nat → Nat × Nat → Attempt ClearState (Nat × Nat)
  | 0, p => pure p
  | n + 1, p => do
    rlexRun call width nXDstRel nYDstRel color n
      (← rlexPixel call width nXDstRel nYDstRel color p)

/-- The pixels of a suite, whose colours follow each other in the palette. -/
def rlexSuite (call : ClearCall) (width nXDstRel nYDstRel : Nat) (palette : List Nat) :
    Nat → Nat → Nat × Nat → Attempt ClearState (Nat × Nat)
  | 0, _, p => pure p
  | n + 1, suiteIndex, p => do
    .require (suiteIndex ≤ 127)
    let p ← rlexPixel call width nXDstRel nYDstRel (palette.getD suiteIndex 0) p
    rlexSuite call width nXDstRel nYDstRel palette n ((suiteIndex + 1) % 256) p

/-- A segment of a RLEX bitmap: a run and a suite. -/
def rlexSegment (call : ClearCall) (width nXDstRel nYDstRel pixelCount numBits : Nat)
    (palette : List Nat) (p : RlexProgress) : Attempt ClearState RlexProgress := do
  .require (2 ≤ p.s.remainingLength)
  let (tmp, s) := p.s.readUInt8
  let (factor, s) := s.readUInt8
  let suiteDepth := tmp >>> numBits &&& (2 ^ (8 - numBits) - 1)
  let stopIndex := tmp &&& (2 ^ numBits - 1)
  let startIndex := (stopIndex + 256 - suiteDepth) % 256
  let (factor, s) ← .lift (readRunLengthFactor factor s)
  .require (startIndex < palette.length)
  .require (stopIndex < palette.length)
  .require (startIndex ≤ 127)
  .require (p.pixelIndex + factor ≤ pixelCount)
  let q ← rlexRun call width nXDstRel nYDstRel (palette.getD startIndex 0) factor (p.x, p.y)
  .require (p.pixelIndex + factor + (suiteDepth + 1) ≤ pixelCount)
  let q ← rlexSuite call width nXDstRel nYDstRel palette (suiteDepth + 1) startIndex q
  return { bitmapDataOffset := p.bitmapDataOffset + (s.pos - p.s.pos)
           pixelIndex := p.pixelIndex + factor + (suiteDepth + 1)
           x := q.1
           y := q.2
           s := s }

/-- `clear_decompress_subcode_rlex`. -/
def clearDecompressSubcodeRlex (env : ClearEnv) (call : ClearCall) (rect : ClearSubcodec)
    (nXDstRel nYDstRel : Nat) (s : WStream) : Attempt ClearState WStream := do
  .require (rect.bitmapDataByteCount ≤ s.remainingLength)
  .require (1 ≤ s.remainingLength)
  let (paletteCount, s) := s.readUInt8
  .require (1 ≤ paletteCount ∧ paletteCount ≤ 127)
  .require (3 * paletteCount ≤ s.remainingLength)
  let (colors, s) := readClearColors paletteCount s
  let palette := colors.map (env.color call.dstFormat.toNat)
  let pixelCount := rect.width * rect.height
  let numBits := Nat.log2 (paletteCount - 1) + 1
  let p ← .loop (fun p => p.bitmapDataOffset < rect.bitmapDataByteCount)
    (rlexSegment call rect.width nXDstRel nYDstRel pixelCount numBits palette)
    (s.remainingLength + 1) ⟨1 + paletteCount * 3, 0, 0, 0, s⟩
  .require (p.pixelIndex = pixelCount)
  return p.s

/-- A rectangle that is not compressed. -/
def clearDecompressUncompressed (env : ClearEnv) (call : ClearCall) (rect : ClearSubcodec)
    (nXDstRel nYDstRel : Nat) (s : WStream) : Attempt ClearState WStream := do
  let nSrcStep := rect.width * getBytesPerPixel PIXEL_FORMAT_BGR24
  .require (rect.bitmapDataByteCount = nSrcStep * rect.height % 2 ^ 32)
  convertColor env call nXDstRel nYDstRel rect.width rect.height
    (fun i => s.buffer.getD (s.pos + i) 0) nSrcStep PIXEL_FORMAT_BGR24
  return s.seek rect.bitmapDataByteCount

/-- The pixels of a rectangle, by the subcodec that its header names. -/
def clearSubcodec (env : ClearEnv) (call : ClearCall) (rect : ClearSubcodec)
    (nXDstRel nYDstRel : Nat) (s : WStream) : Attempt ClearState WStream :=
  match rect.subcodecId with
  | 0 => clearDecompressUncompressed env call rect nXDstRel nYDstRel s
  | 1 => clearDecompressNscodec env call rect nXDstRel nYDstRel s
  | 2 => clearDecompressSubcodeRlex env call rect nXDstRel nYDstRel s
  | _ => .fail

/-- A rectangle of the subcodecs. The progress is the number of bytes that have been read for sure
and the stream. -/
def drawSubcodec (env : ClearEnv) (call : ClearCall) (p : Nat × WStream) :
    Attempt ClearState (Nat × WStream) := do
  let (rect, s) ← .lift (readSubcodec p.2)
  let nXDstRel := (call.nXDst.toNat + rect.xStart) % 2 ^ 32
  let nYDstRel := (call.nYDst.toNat + rect.yStart) % 2 ^ 32
  .require (rect.width ≤ call.nWidth.toNat)
  .require (rect.height ≤ call.nHeight.toNat)
  clearResizeBuffer env rect.width rect.height
  let s ← clearSubcodec env call rect nXDstRel nYDstRel s
  return (p.1 + 13 + rect.bitmapDataByteCount, s)

/-- `clear_decompress_subcodecs_data`. A rectangle has a header of 13 bytes, so there are fewer
rectangles than bytes. -/
def clearDecompressSubcodecsData (env : ClearEnv) (call : ClearCall) (subcodecByteCount : Nat)
    (s : WStream) : Attempt ClearState WStream := do
  .require (subcodecByteCount ≤ s.remainingLength)
  let p ← .loop (fun p => p.1 < subcodecByteCount) (drawSubcodec env call) (s.remainingLength + 1)
    (0, s)
  return p.2

/-! ### Glyphs -/

/-- A glyph that is in the cache is drawn. -/
def drawGlyph (env : ClearEnv) (call : ClearCall) (glyphIndex : Nat) : Attempt ClearState Unit := do
  let clear ← .gets ClearState.clear
  let glyphEntry := clear.glyphCache glyphIndex
  let glyphData ← .lift glyphEntry.pixels
  .require (call.nWidth.toNat * call.nHeight.toNat % 2 ^ 32 ≤ glyphEntry.count)
  convertColor env call call.nXDst.toNat call.nYDst.toNat call.nWidth.toNat call.nHeight.toNat
    glyphData (call.nWidth.toNat * getBytesPerPixel clear.format % 2 ^ 32) clear.format

/-- An entry of the glyph cache is set. -/
def ClearContext.setGlyph (clear : ClearContext) (i : Nat) (e : ClearGlyphEntry) : ClearContext :=
  { clear with glyphCache := Function.update clear.glyphCache i e }

/-- Room for a glyph in the cache. -/
def reserveGlyph (env : ClearEnv) (call : ClearCall) (glyphIndex : Nat) :
    Attempt ClearState Unit := do
  let count := call.nWidth.toNat * call.nHeight.toNat % 2 ^ 32
  change fun clear => clear.setGlyph glyphIndex
    { clear.glyphCache glyphIndex with count := count }
  let clear ← .gets ClearState.clear
  let glyphEntry := clear.glyphCache glyphIndex
  .when (glyphEntry.count > glyphEntry.size) do
    .require (← allocate env .glyph)
    let pixels := glyphEntry.pixels.getD fun _ => 0
    change (·.setGlyph glyphIndex { glyphEntry with size := count, pixels := some pixels })
  let clear ← .gets ClearState.clear
  .require (clear.glyphCache glyphIndex).pixels.isSome

/-- `clear_decompress_glyph_data`. The result is the index of a glyph that is to be filled at the
end, and the stream. -/
def clearDecompressGlyphData (env : ClearEnv) (call : ClearCall) (glyphFlags : Nat) (s : WStream) :
    Attempt ClearState (Option Nat × WStream) := do
  let hit : Bool := glyphFlags &&& CLEARCODEC_FLAG_GLYPH_HIT ≠ 0
  let index : Bool := glyphFlags &&& CLEARCODEC_FLAG_GLYPH_INDEX ≠ 0
  .require (!(hit && !index))
  if !index then return (none, s)
  else do
    .require (call.nWidth.toNat * call.nHeight.toNat % 2 ^ 32 ≤ 1024 * 1024)
    .require (2 ≤ s.remainingLength)
    let (glyphIndex, s) := s.readUInt16
    .require (glyphIndex < 4000)
    if hit then do
      drawGlyph env call glyphIndex
      return (none, s)
    else do
      reserveGlyph env call glyphIndex
      return (some glyphIndex, s)

/-- The glyph is filled with what has been drawn. -/
def fillGlyph (env : ClearEnv) (call : ClearCall) (glyphIndex : Nat) : Attempt ClearState Unit := do
  let state ← .gets id
  let pixels ← .lift (freerdpImageCopyPixels env true state.clear.format 0 0 0 call.nWidth.toNat
    call.nHeight.toNat state.dst call.dstFormat.toNat call.nDstStep.toNat call.nXDst.toNat
    call.nYDst.toNat)
  change fun clear =>
    let glyphEntry := clear.glyphCache glyphIndex
    let fill := fun memory => pixels.foldl (fun m p => writeList m p.index p.bytes) memory
    clear.setGlyph glyphIndex { glyphEntry with pixels := glyphEntry.pixels.map fill }

/-! ### Messages -/

/-- The two first bytes of a message. The sequence number must be the expected one; as long as 0 is
expected any number is. The result is the glyph flags and the stream. -/
def clearHeader (call : ClearCall) : Attempt ClearState (Nat × WStream) := do
  let s := WStream.ofBytes call.pSrcData
  .require (2 ≤ s.remainingLength)
  change fun clear => { clear with format := call.dstFormat.toNat }
  let (glyphFlags, s) := s.readUInt8
  let (seqNumber, s) := s.readUInt8
  change fun clear =>
    if clear.seqNumber = 0 ∧ seqNumber ≠ 0 then { clear with seqNumber := seqNumber } else clear
  let clear ← .gets ClearState.clear
  .require (seqNumber = clear.seqNumber)
  change fun clear => { clear with seqNumber := (seqNumber + 1) % 256 }
  return (glyphFlags, s)

/-- A layer, if it has any bytes. -/
def clearLayer (decompress : Nat → WStream → Attempt ClearState WStream) (byteCount : Nat)
    (s : WStream) : Attempt ClearState WStream :=
  if byteCount > 0 then decompress byteCount s else pure s

/-- The three layers of a message, and the glyph that is filled with what they have drawn. -/
def clearLayersData (env : ClearEnv) (call : ClearCall) (glyph : Option Nat)
    (residualByteCount bandsByteCount subcodecByteCount : Nat) (s : WStream) :
    Attempt ClearState Unit := do
  let s ← clearLayer (clearDecompressResidualData env call) residualByteCount s
  let s ← clearLayer (clearDecompressBandsData env call) bandsByteCount s
  let _ ← clearLayer (clearDecompressSubcodecsData env call) subcodecByteCount s
  match glyph with
  | some glyphIndex => fillGlyph env call glyphIndex
  | none => pure ()

/-- The composition payload of a message: the sizes of the layers, and the layers. -/
def clearLayers (env : ClearEnv) (call : ClearCall) (glyph : Option Nat) (s : WStream) :
    Attempt ClearState Unit :=
  let (residualByteCount, s) := s.readUInt32
  let (bandsByteCount, s) := s.readUInt32
  let (subcodecByteCount, s) := s.readUInt32
  clearLayersData env call glyph residualByteCount bandsByteCount subcodecByteCount s

/-- The message behind its first two bytes. A message for a glyph of the cache may end there. -/
def clearBody (env : ClearEnv) (call : ClearCall) (glyphFlags : Nat) (s : WStream) :
    Attempt ClearState Unit := do
  .when (glyphFlags &&& CLEARCODEC_FLAG_CACHE_RESET ≠ 0)
    (change fun clear => { clear with vBarStorageCursor := 0, shortVBarStorageCursor := 0 })
  let (glyph, s) ← clearDecompressGlyphData env call glyphFlags s
  if s.remainingLength < 12 then
    let mask := CLEARCODEC_FLAG_GLYPH_HIT ||| CLEARCODEC_FLAG_GLYPH_INDEX
    .require (glyphFlags &&& mask = mask)
  else clearLayers env call glyph s

/-- A message. -/
def clearMessage (env : ClearEnv) (call : ClearCall) : Attempt ClearState Unit := do
  let (glyphFlags, s) ← clearHeader call
  clearBody env call glyphFlags s

/-- A call before it has done anything but some allocations. -/
def ClearCall.start (call : ClearCall) (clear : ClearContext) (allocations : Nat) : ClearState where
  clear := clear
  dst := call.pDstData.getD fun _ => 0
  allocations := allocations
  events := []

/-- `clear_decompress`. The first allocation is the one of the stream. -/
def clearDecompress (env : ClearEnv) (call : ClearCall) (clear : ClearContext) :
    Int × ClearState :=
  if call.pDstData.isNone then (-1002, call.start clear 0)
  else if call.nDstWidth = 0 ∨ call.nDstHeight = 0 then (-1022, call.start clear 0)
  else if call.nWidth > 0xFFFF ∨ call.nHeight > 0xFFFF then (-1004, call.start clear 0)
  else if !env.granted .stream 0 then (-2005, call.start clear 1)
  else
    match clearMessage env call (call.start clear 1) with
    | (some (), s) => (0, s)
    | (none, s) => (-1, s)

/-- The call gets to the check of the sequence number: its arguments are accepted, and the message
has a number. -/
structure ClearCall.Received (env : ClearEnv) (call : ClearCall) : Prop where
  dst : call.pDstData.isSome
  dstWidth : call.nDstWidth ≠ 0
  dstHeight : call.nDstHeight ≠ 0
  width : call.nWidth ≤ 0xFFFF
  height : call.nHeight ≤ 0xFFFF
  granted : env.granted .stream 0
  header : 2 ≤ call.pSrcData.length

/-- The number of a message. -/
def ClearCall.seqNumber (call : ClearCall) : Nat := (call.pSrcData.getD 1 0).toNat

/-- The call passes the check of the sequence number. -/
def ClearCall.passesSequenceCheck (call : ClearCall) (clear : ClearContext) : Bool :=
  (clearHeader call (call.start clear 1)).1.isSome

/-! ### Sessions -/

/-- What is done with a context: a message is decompressed, or the context is reset. -/
inductive ClearAction where
  | decompress (env : ClearEnv) (call : ClearCall)
  | reset

/-- What an action makes of the context. -/
def clearStep (clear : ClearContext) : ClearAction → ClearContext
  | .decompress env call => (clearDecompress env call clear).2.clear
  | .reset => clearContextReset clear

end FreeRdp
