import FreeRdp.Winpr.Crt

/-!
# Planes of the planar codec

The run-length coding of single planes, `planar.c`. A row is a sequence of segments: a control byte
with two counts, the raw bytes, and a run that repeats the last one. Rows after the first are
differences to the row before. Three functions read such rows: one only measures them, the other
two write the plane into memory.

Memory is a function from indices to bytes, from `pDstData` on.
-/

namespace FreeRdp

/-- `PLANAR_CONTROL_BYTE`. -/
def planarControlByte (nRunLength cRawBytes : Nat) : UInt8 :=
  UInt8.ofNat ((nRunLength &&& 0x0F) ||| ((cRawBytes &&& 0x0F) <<< 4))

/-- `cRawBytes` and `nRunLength` of a control byte, with the two forms of long runs. -/
def planarControlCounts (controlByte : UInt8) : Nat × Nat :=
  let nRunLength := controlByte.toNat &&& 0x0F
  let cRawBytes := (controlByte.toNat >>> 4) &&& 0x0F
  if nRunLength = 1 then (0, cRawBytes + 16)
  else if nRunLength = 2 then (0, cRawBytes + 32)
  else (cRawBytes, nRunLength)

/-- Why a function has no result: it returned an error, it did what the language leaves undefined
(a read outside of the source, an overflow of a signed number), or the fuel of the model ended. -/
inductive PlanarError where
  | failed | undefined | unfinished
  deriving DecidableEq, Repr

/-! ### Measuring -/

/-- The inner loop of `planar_skip_plane_rle`, with `used` and `x`; `fuel` bounds the rounds. -/
def planarSkipRow (pSrcData : List UInt8) (nWidth : Nat) : Nat → Nat → Nat → Except PlanarError Nat
  | 0, _, _ => .error .unfinished
  | fuel + 1, used, x =>
    if x < nWidth then
      if used ≥ pSrcData.length then .error .failed
      else
        let (cRawBytes, nRunLength) := planarControlCounts (pSrcData.getD used 0)
        let used := (used + 1 + cRawBytes) % 2 ^ 32
        let x := (x + cRawBytes + nRunLength) % 2 ^ 32
        if x > nWidth then .error .failed
        else if used > pSrcData.length then .error .failed
        else planarSkipRow pSrcData nWidth fuel used x
    else .ok used

/-- The outer loop of `planar_skip_plane_rle`. -/
def planarSkipRows (pSrcData : List UInt8) (nWidth fuel : Nat) : Nat → Nat → Except PlanarError Nat
  | 0, used => .ok used
  | nHeight + 1, used =>
    match planarSkipRow pSrcData nWidth fuel used 0 with
    | .error e => .error e
    | .ok used => planarSkipRows pSrcData nWidth fuel nHeight used

/-- `planar_skip_plane_rle`, with `fuel` for each row. -/
def planarSkipPlaneRle (fuel : Nat) (pSrcData : List UInt8) (nWidth nHeight : Nat) :
    Except PlanarError Nat :=
  match planarSkipRows pSrcData nWidth fuel nHeight 0 with
  | .error e => .error e
  | .ok used => if used > INT32_MAX then .error .failed else .ok used

/-! ### Decoding -/

/-- The difference to the row before that a byte stands for. -/
def planarDelta (deltaValue : UInt8) : UInt8 :=
  if deltaValue &&& 1 ≠ 0 then -(deltaValue >>> 1 + 1) else deltaValue >>> 1

/-- The locals of the decoders: the source from `srcp` on, `srcp - pSrcData`, the destination, `x`
and the low byte of `pixel`. `dstp` is `x` steps from the start of the row. -/
structure PlanarCursor where
  srcp : List UInt8
  used : Nat
  dst : Nat → UInt8
  x : Nat
  pixel : UInt8

/-- Where a row is written, and where the row before was. The two decoders differ in the distance
of two pixels. -/
structure PlanarScanline where
  step : Nat
  currentScanline : Nat
  previousScanline : Option Nat

/-- `pixel` for a byte of the source: the first row has absolute values. -/
def PlanarScanline.pixel (line : PlanarScanline) (value : UInt8) : UInt8 :=
  match line.previousScanline with
  | none => value
  | some _ => planarDelta value

/-- Writing one pixel. The index of the pixel above is an `INT32`. -/
def planarPut (line : PlanarScanline) (c : PlanarCursor) : Except PlanarError PlanarCursor :=
  match line.previousScanline with
  | none =>
    .ok { c with
      dst := Function.update c.dst (line.currentScanline + line.step * c.x) c.pixel
      x := c.x + 1 }
  | some previous =>
    if line.step * c.x > INT32_MAX then .error .undefined
    else
      .ok { c with
        dst := Function.update c.dst (line.currentScanline + line.step * c.x)
          (c.dst (previous + line.step * c.x) + c.pixel)
        x := c.x + 1 }

/-- The loop over `cRawBytes`, which does not look at the size of the source. -/
def planarRawBytes (line : PlanarScanline) : Nat → PlanarCursor → Except PlanarError PlanarCursor
  | 0, c => .ok c
  | cRawBytes + 1, c =>
    match c.srcp with
    | [] => .error .undefined
    | value :: srcp =>
      match planarPut line
        { c with srcp := srcp, used := c.used + 1, pixel := line.pixel value } with
      | .error e => .error e
      | .ok c => planarRawBytes line cRawBytes c

/-- The loop over `nRunLength`. -/
def planarRunLength (line : PlanarScanline) : Nat → PlanarCursor → Except PlanarError PlanarCursor
  | 0, c => .ok c
  | nRunLength + 1, c =>
    match planarPut line c with
    | .error e => .error e
    | .ok c => planarRunLength line nRunLength c

/-- The loop over the segments of a row. A round takes a byte of the source; `fuel` bounds them. -/
def planarSegments (srcSize nWidth limit : Nat) (line : PlanarScanline) :
    Nat → PlanarCursor → Except PlanarError PlanarCursor
  | 0, _ => .error .unfinished
  | fuel + 1, c =>
    if c.x < nWidth then
      match c.srcp with
      | [] => .error .undefined
      | controlByte :: srcp =>
        if c.used + 1 > srcSize then .error .failed
        else
          let (cRawBytes, nRunLength) := planarControlCounts controlByte
          if line.step * c.x + (cRawBytes + nRunLength) > limit then .error .failed
          else
            match planarRawBytes line cRawBytes { c with srcp := srcp, used := c.used + 1 } with
            | .error e => .error e
            | .ok c =>
              match planarRunLength line nRunLength c with
              | .error e => .error e
              | .ok c => planarSegments srcSize nWidth limit line fuel c
    else .ok c

/-- The loop over the rows, with the index where each of them starts. -/
def planarScanlines (srcSize nWidth limit step : Nat) (start : Nat → Option Nat) :
    Option Nat → List Nat → PlanarCursor → Except PlanarError PlanarCursor
  | _, [], c => .ok c
  | previousScanline, y :: ys, c =>
    match start y with
    | none => .error .undefined
    | some currentScanline =>
      match planarSegments srcSize nWidth limit ⟨step, currentScanline, previousScanline⟩
        (c.srcp.length + 1) { c with x := 0, pixel := 0 } with
      | .error e => .error e
      | .ok c =>
        planarScanlines srcSize nWidth limit step start (some currentScanline) ys c

/-- What a decoder returns: `(INT32)(srcp - pSrcData)`, and the destination. -/
def planarResult : Except PlanarError PlanarCursor → Except PlanarError (Int × (Nat → UInt8))
  | .error e => .error e
  | .ok c => .ok (intOfSize c.used, c.dst)

/-- Where `planar_decompress_plane_rle_only` starts a row, a product of two `INT32`. -/
def planarRleOnlyStart (nWidth y : Nat) : Option Nat :=
  if y * nWidth > INT32_MAX then none else some (y * nWidth)

/-- `planar_decompress_plane_rle_only`. -/
def planarDecompressPlaneRleOnly (pSrcData : List UInt8) (srcSize : Nat) (pDstData : Nat → UInt8)
    (nWidth nHeight : Nat) : Except PlanarError (Int × (Nat → UInt8)) :=
  if nHeight > INT32_MAX ∨ nWidth > INT32_MAX then .error .failed
  else
    planarResult (planarScanlines srcSize nWidth nWidth 1 (planarRleOnlyStart nWidth) none
      (List.range nHeight) ⟨pSrcData, 0, pDstData, 0, 0⟩)

/-- Where `planar_decompress_plane_rle` starts a row. The factors are converted to `UINT32`. -/
def planarRleStart (nDstStep nXDst nYDst nChannel y : Nat) : Nat :=
  ((nYDst + y) * nDstStep + nXDst * 4 + nChannel) % 2 ^ 32

/-- The rows from `beg` to `end`. -/
def planarRows (nHeight : Nat) (vFlip : Bool) : List Nat :=
  if vFlip then (List.range nHeight).reverse else List.range nHeight

/-- `planar_decompress_plane_rle`. `nDstStep` is an `INT32`, given by its 32 bits, and never larger
than `INT32_MAX`. -/
def planarDecompressPlaneRle (pSrcData : List UInt8) (srcSize : Nat) (pDstData : Nat → UInt8)
    (nDstStep nXDst nYDst nWidth nHeight nChannel : Nat) (vFlip : Bool) :
    Except PlanarError (Int × (Nat → UInt8)) :=
  if nHeight > INT32_MAX ∨ nWidth > INT32_MAX then .error .failed
  else
    planarResult (planarScanlines srcSize nWidth (nWidth * 4 % 2 ^ 32) 4
      (fun y => some (planarRleStart nDstStep nXDst nYDst nChannel y)) none
      (planarRows nHeight vFlip) ⟨pSrcData, 0, pDstData, 0, 0⟩)

/-! ### Encoding -/

/-- The byte for a pixel below another one; `char` is signed. -/
def planarDeltaEncode (src prev : UInt8) : UInt8 :=
  let s2c := src - prev
  if s2c.toNat < 128 then s2c <<< 1 else (~~~s2c + 1) <<< 1 - 1

/-- `freerdp_bitmap_planar_delta_encode_plane`. -/
def planarDeltaEncodePlane (inPlane : List UInt8) (width : Nat) : List UInt8 :=
  inPlane.take width ++ List.zipWith planarDeltaEncode (inPlane.drop width) inPlane

/-- The control byte of a round over `cRawBytes`, and both counts after it. -/
def planarRawControl (cRawBytes nRunLength : Nat) : UInt8 × Nat × Nat :=
  if cRawBytes < 16 then
    if nRunLength > 15 then
      if nRunLength < 18 then (planarControlByte 13 cRawBytes, 0, nRunLength - 13)
      else (planarControlByte 15 cRawBytes, 0, nRunLength - 15)
    else (planarControlByte nRunLength cRawBytes, 0, 0)
  else (planarControlByte 0 15, cRawBytes - 15, nRunLength)

/-- The control byte of a round over `nRunLength`, and the count after it. -/
def planarRunControl (nRunLength : Nat) : UInt8 × Nat :=
  if nRunLength > 47 then
    if nRunLength < 50 then (planarControlByte 2 13, nRunLength - 45)
    else (planarControlByte 2 15, nRunLength - 47)
  else if nRunLength > 31 then (planarControlByte 2 (nRunLength - 32), 0)
  else if nRunLength > 15 then (planarControlByte 1 (nRunLength - 16), 0)
  else (planarControlByte nRunLength 0, 0)

/-- The first loop of `freerdp_bitmap_planar_write_rle_bytes`: the output, `nRunLength` and
`outBufferSize` after it, unless the output does not fit. `fuel` is `cRawBytes`. -/
def planarWriteRaw :
    Nat → List UInt8 → Nat → Nat → Nat → Option (List UInt8 × Nat × Nat)
  | 0, _, _, nRunLength, outBufferSize => some ([], nRunLength, outBufferSize)
  | fuel + 1, pInput, cRawBytes, nRunLength, outBufferSize =>
    if cRawBytes = 0 then some ([], nRunLength, outBufferSize)
    else
      let (controlByte, cRawBytes, nRunLength) := planarRawControl cRawBytes nRunLength
      let nBytesToWrite := controlByte.toNat >>> 4
      if outBufferSize < 1 then none
      else if outBufferSize - 1 < nBytesToWrite then none
      else
        match planarWriteRaw fuel (pInput.drop nBytesToWrite) cRawBytes nRunLength
          (outBufferSize - 1 - nBytesToWrite) with
        | none => none
        | some (out, rest) => some (controlByte :: pInput.take nBytesToWrite ++ out, rest)

/-- The second loop of `freerdp_bitmap_planar_write_rle_bytes`. `fuel` is `nRunLength`. -/
def planarWriteRun : Nat → Nat → Nat → Option (List UInt8)
  | 0, _, _ => some []
  | fuel + 1, nRunLength, outBufferSize =>
    if nRunLength = 0 then some []
    else
      let (controlByte, nRunLength) := planarRunControl nRunLength
      if outBufferSize < 1 then none
      else
        match planarWriteRun fuel nRunLength (outBufferSize - 1) with
        | none => none
        | some out => some (controlByte :: out)

/-- `freerdp_bitmap_planar_write_rle_bytes`: what it wrote, nothing when it returns 0. -/
def planarWriteRleBytes (pInBuffer : List UInt8) (cRawBytes nRunLength outBufferSize : Nat) :
    List UInt8 :=
  if cRawBytes = 0 ∧ nRunLength = 0 then []
  else
    let (cRawBytes, nRunLength) :=
      if nRunLength < 3 then (cRawBytes + nRunLength, 0) else (cRawBytes, nRunLength)
    match planarWriteRaw cRawBytes pInBuffer cRawBytes nRunLength outBufferSize with
    | none => []
    | some (raw, nRunLength, outBufferSize) =>
      match planarWriteRun nRunLength nRunLength outBufferSize with
      | none => []
      | some run => raw ++ run

/-- The locals of `freerdp_bitmap_planar_encode_rle_bytes`, with the output so far. -/
structure PlanarEncoder where
  symbol : UInt8
  cRawBytes : Nat
  nRunLength : Nat
  out : List UInt8
  outBufferSize : Nat

/-- What a round does to a run that has ended; `pos` is the place of `pInput` after the round. -/
def planarEndRun (pInBuffer : List UInt8) (pos : Nat) (e : PlanarEncoder) : Option PlanarEncoder :=
  if e.nRunLength < 3 then
    some { e with cRawBytes := e.cRawBytes + e.nRunLength, nRunLength := 0 }
  else
    let bytes := planarWriteRleBytes (pInBuffer.drop (pos - (e.cRawBytes + e.nRunLength + 1)))
      e.cRawBytes e.nRunLength e.outBufferSize
    if bytes = [] ∨ bytes.length > e.outBufferSize then none
    else
      some { e with
        cRawBytes := 0
        nRunLength := 0
        out := e.out ++ bytes
        outBufferSize := e.outBufferSize - bytes.length }

/-- The loop of `freerdp_bitmap_planar_encode_rle_bytes` over what is left of the input. -/
def planarEncodeLoop (pInBuffer : List UInt8) :
    List UInt8 → PlanarEncoder → Option (PlanarEncoder × List UInt8)
  | [], e => some (e, [])
  | value :: rest, e =>
    let bSymbolMatch := e.symbol = value
    let e := { e with symbol := value }
    match if e.nRunLength ≠ 0 ∧ ¬bSymbolMatch then
      planarEndRun pInBuffer (pInBuffer.length - rest.length) e else some e with
    | none => none
    | some e =>
      let e := if bSymbolMatch then { e with nRunLength := e.nRunLength + 1 }
        else { e with cRawBytes := e.cRawBytes + 1 }
      if e.outBufferSize = 0 then some (e, rest) else planarEncodeLoop pInBuffer rest e

/-- `freerdp_bitmap_planar_encode_rle_bytes`: what it wrote, nothing when it returns 0. -/
def planarEncodeRleBytes (pInBuffer : List UInt8) (outBufferSize : Nat) : List UInt8 :=
  if outBufferSize = 0 then []
  else
    match planarEncodeLoop pInBuffer pInBuffer ⟨0, 0, 0, [], outBufferSize⟩ with
    | none => []
    | some (e, rest) =>
      if e.cRawBytes ≠ 0 ∨ e.nRunLength ≠ 0 then
        let bytes := planarWriteRleBytes
          (pInBuffer.drop (pInBuffer.length - rest.length - (e.cRawBytes + e.nRunLength)))
          e.cRawBytes e.nRunLength e.outBufferSize
        if bytes = [] then [] else if rest ≠ [] then [] else e.out ++ bytes
      else if rest ≠ [] then [] else e.out

/-- The loop of `freerdp_bitmap_planar_compress_plane_rle` with the rows that are left. It also
ends when the output buffer is full. -/
def planarCompressRows (width : Nat) : Nat → List UInt8 → Nat → Option (List UInt8)
  | 0, _, _ => some []
  | height + 1, pInput, outBufferSize =>
    if outBufferSize = 0 then some []
    else
      let bytes := planarEncodeRleBytes (pInput.take width) outBufferSize
      if bytes = [] ∨ bytes.length > outBufferSize then none
      else
        match planarCompressRows width height (pInput.drop width)
          (outBufferSize - bytes.length) with
        | none => none
        | some out => some (bytes ++ out)

/-- `freerdp_bitmap_planar_compress_plane_rle` into a buffer of `dstSize` bytes: what it wrote,
unless it returns `FALSE`. The first row is encoded before `height` is looked at. -/
def planarCompressPlaneRle (inPlane : List UInt8) (width height dstSize : Nat) :
    Option (List UInt8) :=
  planarCompressRows width (max height 1) inPlane dstSize

end FreeRdp
