import FreeRdp.Library.Copy
import FreeRdp.Winpr.Crt
import FreeRdp.Winpr.Stream

/-!
# RDP8 bulk compression

`zgfx.c`: the decompressor with its history ring, and the compressor, which does not compress but
writes the segments as they are. The 32-bit counters are numbers below `2 ^ 32`.

The loops that read bits run until the input or the output is used up; they are given fuel. The
input is addressed by its index in the whole source buffer, and where the source reads past it the
model reads zeros. Allocations succeed.
-/

namespace FreeRdp

def ZGFX_SEGMENTED_SINGLE : Nat := 0xE0
def ZGFX_SEGMENTED_MULTIPART : Nat := 0xE1
def ZGFX_PACKET_COMPR_TYPE_RDP8 : Nat := 0x04
def ZGFX_SEGMENTED_MAXSIZE : Nat := 65535
def ZGFX_PACKET_COMPRESSED : Nat := 0x20

/-- `sizeof(OutputBuffer)`. -/
def ZGFX_OUTPUT_SIZE : Nat := 65536

/-- `ZGFX_TOKEN`; a token is a literal or a match. -/
structure ZgfxToken where
  prefixLength : Nat
  prefixCode : Nat
  valueBits : Nat
  isMatch : Bool
  valueBase : Nat
  deriving DecidableEq, Repr

/-- `ZGFX_TOKEN_TABLE`, without its terminator. -/
def ZGFX_TOKEN_TABLE : List ZgfxToken :=
  [⟨1, 0, 8, false, 0⟩, ⟨5, 17, 5, true, 0⟩, ⟨5, 18, 7, true, 32⟩, ⟨5, 19, 9, true, 160⟩,
    ⟨5, 20, 10, true, 672⟩, ⟨5, 21, 12, true, 1696⟩, ⟨5, 24, 0, false, 0x00⟩,
    ⟨5, 25, 0, false, 0x01⟩, ⟨6, 44, 14, true, 5792⟩, ⟨6, 45, 15, true, 22176⟩,
    ⟨6, 52, 0, false, 0x02⟩, ⟨6, 53, 0, false, 0x03⟩, ⟨6, 54, 0, false, 0xFF⟩,
    ⟨7, 92, 18, true, 54944⟩, ⟨7, 93, 20, true, 317088⟩, ⟨7, 110, 0, false, 0x04⟩,
    ⟨7, 111, 0, false, 0x05⟩, ⟨7, 112, 0, false, 0x06⟩, ⟨7, 113, 0, false, 0x07⟩,
    ⟨7, 114, 0, false, 0x08⟩, ⟨7, 115, 0, false, 0x09⟩, ⟨7, 116, 0, false, 0x0A⟩,
    ⟨7, 117, 0, false, 0x0B⟩, ⟨7, 118, 0, false, 0x3A⟩, ⟨7, 119, 0, false, 0x3B⟩,
    ⟨7, 120, 0, false, 0x3C⟩, ⟨7, 121, 0, false, 0x3D⟩, ⟨7, 122, 0, false, 0x3E⟩,
    ⟨7, 123, 0, false, 0x3F⟩, ⟨7, 124, 0, false, 0x40⟩, ⟨7, 125, 0, false, 0x80⟩,
    ⟨8, 188, 20, true, 1365664⟩, ⟨8, 189, 21, true, 2414240⟩, ⟨8, 252, 0, false, 0x0C⟩,
    ⟨8, 253, 0, false, 0x38⟩, ⟨8, 254, 0, false, 0x39⟩, ⟨8, 255, 0, false, 0x66⟩,
    ⟨9, 380, 22, true, 4511392⟩, ⟨9, 381, 23, true, 8705696⟩, ⟨9, 382, 24, true, 17094304⟩]

/-- `ZGFX_CONTEXT` of a decompressor. `output` has the first `OutputCount` bytes of `OutputBuffer`;
the input is the buffer `input` with the indices of `pbInputCurrent` and `pbInputEnd`. -/
structure ZgfxContext where
  input : List UInt8
  pbInputCurrent : Nat
  pbInputEnd : Nat
  bits : Nat
  cBitsRemaining : Nat
  bitsCurrent : Nat
  cBitsCurrent : Nat
  output : List UInt8
  historyBuffer : Nat → UInt8
  historyIndex : Nat
  historyBufferSize : Nat

/-- `zgfx_context_new`. -/
def zgfxContextNew : ZgfxContext where
  input := []
  pbInputCurrent := 0
  pbInputEnd := 0
  bits := 0
  cBitsRemaining := 0
  bitsCurrent := 0
  cBitsCurrent := 0
  output := []
  historyBuffer _ := 0
  historyIndex := 0
  historyBufferSize := 2500000

/-- `a - b` for 32-bit numbers. -/
def sub32 (a b : Nat) : Nat := (a + 2 ^ 32 - b) % 2 ^ 32

/-! ### Reading bits -/

/-- The loop of `zgfx_GetBits` that takes in bytes. -/
def zgfxFillBits (nbits : Nat) : Nat → ZgfxContext → ZgfxContext
  | 0, zgfx => zgfx
  | fuel + 1, zgfx =>
    if zgfx.cBitsCurrent < nbits then
      let bitsCurrent := (zgfx.bitsCurrent <<< 8) % 2 ^ 32
      if zgfx.pbInputCurrent < zgfx.pbInputEnd then
        zgfxFillBits nbits fuel
          { zgfx with
            bitsCurrent :=
              (bitsCurrent + (zgfx.input.getD zgfx.pbInputCurrent 0).toNat) % 2 ^ 32
            pbInputCurrent := zgfx.pbInputCurrent + 1
            cBitsCurrent := zgfx.cBitsCurrent + 8 }
      else
        zgfxFillBits nbits fuel
          { zgfx with bitsCurrent := bitsCurrent, cBitsCurrent := zgfx.cBitsCurrent + 8 }
    else zgfx

/-- `zgfx_GetBits`. -/
def zgfxGetBits (zgfx : ZgfxContext) (nbits : Nat) : ZgfxContext :=
  let zgfx := zgfxFillBits nbits nbits zgfx
  let cBitsCurrent := zgfx.cBitsCurrent - nbits
  { zgfx with
    cBitsRemaining := sub32 zgfx.cBitsRemaining nbits
    cBitsCurrent := cBitsCurrent
    bits := zgfx.bitsCurrent >>> cBitsCurrent
    bitsCurrent := zgfx.bitsCurrent &&& ((1 <<< cBitsCurrent) - 1) }

/-! ### The history ring -/

/-- `zgfx_history_buffer_ring_write`. -/
def zgfxHistoryBufferRingWrite (zgfx : ZgfxContext) (src : List UInt8) : ZgfxContext :=
  if src.length = 0 then zgfx
  else
    let residue := src.length - zgfx.historyBufferSize
    let index := if src.length > zgfx.historyBufferSize then
      (zgfx.historyIndex + residue) % zgfx.historyBufferSize else zgfx.historyIndex
    let src := if src.length > zgfx.historyBufferSize then src.drop residue else src
    if index + src.length ≤ zgfx.historyBufferSize then
      { zgfx with
        historyBuffer := writeList zgfx.historyBuffer index src
        historyIndex := if index + src.length = zgfx.historyBufferSize then 0
          else index + src.length }
    else
      let front := zgfx.historyBufferSize - index
      { zgfx with
        historyBuffer := writeList (writeList zgfx.historyBuffer index (src.take front)) 0
          (src.drop front)
        historyIndex := src.length - front }

/-- The `do` loop of `zgfx_history_buffer_ring_read`: what has been read is copied behind itself
until `bytesLeft` more bytes are there. -/
def zgfxRepeat : Nat → List UInt8 → Nat → Nat → List UInt8
  | 0, dst, _, _ => dst
  | fuel + 1, dst, valid, bytesLeft =>
    let bytes := if valid > bytesLeft then bytesLeft else valid
    if bytesLeft - bytes > 0 then
      zgfxRepeat fuel (dst ++ dst.take bytes) (valid <<< 1) (bytesLeft - bytes)
    else dst ++ dst.take bytes

/-- `zgfx_history_buffer_ring_read`: the bytes that it writes to `dst`. -/
def zgfxHistoryBufferRingRead (zgfx : ZgfxContext) (offset count : Nat) : List UInt8 :=
  if count = 0 ∨ count > INT32_MAX then []
  else
    let index := sub32 (zgfx.historyIndex + zgfx.historyBufferSize) offset %
      zgfx.historyBufferSize
    let bytes := min count offset
    let dst := if index + bytes ≤ zgfx.historyBufferSize then
        readList zgfx.historyBuffer index bytes
      else
        let front := zgfx.historyBufferSize - index
        readList zgfx.historyBuffer index front ++ readList zgfx.historyBuffer 0 (bytes - front)
    if count - bytes = 0 then dst else zgfxRepeat count dst bytes (count - bytes)

/-! ### Segments -/

/-- Reads bits until there are `n` more of them in the prefix. -/
def zgfxReadPrefix : Nat → ZgfxContext × Nat → ZgfxContext × Nat
  | 0, acc => acc
  | n + 1, (zgfx, inPrefix) =>
    let zgfx := zgfxGetBits zgfx 1
    zgfxReadPrefix n (zgfx, (inPrefix <<< 1) + zgfx.bits)

/-- The search of the token table; `none` if no prefix matches. -/
def zgfxFindToken : List ZgfxToken → Nat → ZgfxContext × Nat → ZgfxContext × Option ZgfxToken
  | [], _, (zgfx, _) => (zgfx, none)
  | token :: tokens, haveBits, acc =>
    let (zgfx, inPrefix) := zgfxReadPrefix (token.prefixLength - haveBits) acc
    if inPrefix = token.prefixCode then (zgfx, some token)
    else zgfxFindToken tokens (max haveBits token.prefixLength) (zgfx, inPrefix)

/-- The loop that doubles the count of a match: the new count and number of extra bits. -/
def zgfxReadCount : Nat → ZgfxContext → Nat → Nat → ZgfxContext × Nat × Nat
  | 0, zgfx, count, extra => (zgfx, count, extra)
  | fuel + 1, zgfx, count, extra =>
    if zgfx.bits = 1 then zgfxReadCount fuel (zgfxGetBits zgfx 1) ((count * 2) % 2 ^ 32) (extra + 1)
    else (zgfx, count, extra)

/-- A literal. -/
def zgfxLiteral (zgfx : ZgfxContext) (token : ZgfxToken) : Option ZgfxContext :=
  let zgfx := zgfxGetBits zgfx token.valueBits
  let c := UInt8.ofNat (token.valueBase + zgfx.bits)
  let zgfx := { zgfx with
    historyBuffer := Function.update zgfx.historyBuffer zgfx.historyIndex c
    historyIndex := if zgfx.historyIndex + 1 = zgfx.historyBufferSize then 0
      else zgfx.historyIndex + 1 }
  if zgfx.output.length ≥ ZGFX_OUTPUT_SIZE then none
  else some { zgfx with output := zgfx.output ++ [c] }

/-- A match at `distance`. -/
def zgfxMatch (zgfx : ZgfxContext) (distance : Nat) : Option ZgfxContext :=
  let zgfx := zgfxGetBits zgfx 1
  let (zgfx, count) :=
    if zgfx.bits = 0 then (zgfx, 3)
    else
      let (zgfx, count, extra) := zgfxReadCount (8 * zgfx.input.length + 8) (zgfxGetBits zgfx 1) 4 2
      let zgfx := zgfxGetBits zgfx extra
      (zgfx, (count + zgfx.bits) % 2 ^ 32)
  if count > ZGFX_OUTPUT_SIZE - zgfx.output.length then none
  else
    let bytes := zgfxHistoryBufferRingRead zgfx distance count
    let zgfx := zgfxHistoryBufferRingWrite zgfx bytes
    some { zgfx with output := zgfx.output ++ bytes }

/-- Unencoded bytes of the input. -/
def zgfxUnencoded (zgfx : ZgfxContext) : Option ZgfxContext :=
  let zgfx := zgfxGetBits zgfx 15
  let count := zgfx.bits
  let zgfx := { zgfx with
    cBitsRemaining := sub32 zgfx.cBitsRemaining zgfx.cBitsCurrent
    cBitsCurrent := 0
    bitsCurrent := 0 }
  if count > ZGFX_OUTPUT_SIZE - zgfx.output.length then none
  else
    let bytes := (List.range count).map (fun i => zgfx.input.getD (zgfx.pbInputCurrent + i) 0)
    let zgfx := zgfxHistoryBufferRingWrite zgfx bytes
    some { zgfx with
      pbInputCurrent := zgfx.pbInputCurrent + count
      cBitsRemaining := sub32 zgfx.cBitsRemaining (8 * count)
      output := zgfx.output ++ bytes }

/-- One turn of the decoding loop; `none` where it returns `FALSE`. -/
def zgfxDecodeToken (zgfx : ZgfxContext) : Option ZgfxContext :=
  match zgfxFindToken ZGFX_TOKEN_TABLE 0 (zgfx, 0) with
  | (zgfx, none) => some zgfx
  | (zgfx, some token) =>
    if token.isMatch then
      let zgfx := zgfxGetBits zgfx token.valueBits
      let distance := token.valueBase + zgfx.bits
      if distance ≠ 0 then zgfxMatch zgfx distance else zgfxUnencoded zgfx
    else zgfxLiteral zgfx token

/-- The decoding loop. -/
def zgfxDecodeLoop : Nat → ZgfxContext → Option ZgfxContext
  | 0, _ => none
  | fuel + 1, zgfx =>
    if zgfx.cBitsRemaining ≠ 0 then
      match zgfxDecodeToken zgfx with
      | none => none
      | some zgfx => zgfxDecodeLoop fuel zgfx
    else some zgfx

/-- `zgfx_decompress_segment`: the context and the stream after it, or `none`. -/
def zgfxDecompressSegment (zgfx : ZgfxContext) (stream : WStream) (segmentSize : Nat) :
    Option (ZgfxContext × WStream) :=
  let cbSegment := segmentSize - 1
  if stream.remainingLength < segmentSize ∨ segmentSize < 1 ∨ segmentSize > 2 ^ 32 - 1 then none
  else
    let (flags, stream) := stream.readUInt8
    let pbSegment := stream.pos
    let (bytes, stream) := stream.read cbSegment
    let zgfx := { zgfx with output := [] }
    if flags &&& ZGFX_PACKET_COMPRESSED = 0 then
      let zgfx := zgfxHistoryBufferRingWrite zgfx bytes
      if cbSegment > ZGFX_OUTPUT_SIZE then none
      else some ({ zgfx with output := bytes }, stream)
    else
      let pbInputEnd := pbSegment + cbSegment - 1
      let last := (stream.buffer.getD pbInputEnd 0).toNat
      -- NumberOfBitsToDecode = ((NumberOfBytesToDecode - 1) * 8) - ValueOfLastByte
      let zgfx := { zgfx with
        input := stream.buffer
        pbInputCurrent := pbSegment
        pbInputEnd := pbInputEnd
        cBitsRemaining := sub32 (sub32 (8 * cbSegment % 2 ^ 32) 8) last
        cBitsCurrent := 0
        bitsCurrent := 0 }
      (zgfxDecodeLoop (8 * cbSegment + 2 * ZGFX_OUTPUT_SIZE) zgfx).map (fun zgfx => (zgfx, stream))

/-- The data `zgfx_decompress` returns: the bytes it has copied, and `*pDstSize`. -/
structure ZgfxData where
  bytes : List UInt8
  size : Nat
  deriving DecidableEq, Repr

/-- The loop of `zgfx_decompress` over `segmentCount` segments. -/
def zgfxDecompressParts (uncompressedSize : Nat) :
    Nat → ZgfxContext → WStream → List UInt8 → Option (ZgfxContext × List UInt8)
  | 0, zgfx, _, concatenated => some (zgfx, concatenated)
  | segments + 1, zgfx, stream, concatenated =>
    if stream.remainingLength < 4 then none
    else
      let (segmentSize, stream) := stream.readUInt32
      match zgfxDecompressSegment zgfx stream segmentSize with
      | none => none
      | some (zgfx, stream) =>
        if zgfx.output.length > 2 ^ 32 - 1 - concatenated.length then none
        else if concatenated.length + zgfx.output.length > uncompressedSize then none
        else zgfxDecompressParts uncompressedSize segments zgfx stream (concatenated ++ zgfx.output)

/-- `zgfx_decompress`: the data and the context after it, or `none` where the status is -1. -/
def zgfxDecompress (zgfx : ZgfxContext) (srcData : List UInt8) : Option (ZgfxData × ZgfxContext) :=
  let stream := WStream.ofBytes srcData
  if stream.remainingLength < 1 then none
  else
    let (descriptor, stream) := stream.readUInt8
    if descriptor = ZGFX_SEGMENTED_SINGLE then
      match zgfxDecompressSegment zgfx stream stream.remainingLength with
      | none => none
      | some (zgfx, _) =>
        if zgfx.output.length > 0 then some (⟨zgfx.output, zgfx.output.length⟩, zgfx) else none
    else if descriptor = ZGFX_SEGMENTED_MULTIPART then
      if stream.remainingLength < 6 then none
      else
        let (segmentCount, stream) := stream.readUInt16
        let (uncompressedSize, stream) := stream.readUInt32
        if stream.remainingLength < segmentCount * 4 then none
        else
          (zgfxDecompressParts uncompressedSize segmentCount zgfx stream []).map
            (fun (zgfx, bytes) => (⟨bytes, uncompressedSize⟩, zgfx))
    else none

/-! ### The compressor -/

/-- `zgfx_compress_segment`. -/
def zgfxCompressSegment (s : WStream) (srcData : List UInt8) (flags : Nat) : WStream × Nat :=
  let flags := flags ||| ZGFX_PACKET_COMPR_TYPE_RDP8
  ((s.write (bytesUInt8 flags)).write srcData, flags)

/-- The state of the loop of `zgfx_compress_to_stream`. -/
structure ZgfxFragments where
  stream : WStream
  fragment : Nat
  posSegmentCount : Nat
  flags : Nat
  deriving DecidableEq, Repr

/-- The headers in front of a segment: the stream, `posSegmentCount` and `posDstSize`. What
`Stream_Seek` passes over is filled in later. -/
def zgfxWriteHeaders (st : ZgfxFragments) (totalLength uncompressedSize : Nat) :
    WStream × Nat × Nat :=
  let (s, posSegmentCount) :=
    if st.fragment = 0 then
      let s := st.stream.write (bytesUInt8
        (if totalLength = 0 then ZGFX_SEGMENTED_SINGLE else ZGFX_SEGMENTED_MULTIPART))
      if totalLength > 0 then
        ((s.write (List.replicate 2 0)).write (bytesUInt32 uncompressedSize), s.pos)
      else (s, st.posSegmentCount)
    else (st.stream, st.posSegmentCount)
  if st.fragment > 0 ∨ totalLength > 0 then (s.write (List.replicate 4 0), posSegmentCount, s.pos)
  else (s, posSegmentCount, 0)

/-- The size of a segment of the multipart form is filled in behind it. -/
def zgfxFillSize (s : WStream) (posDstSize posDataStart : Nat) : WStream :=
  if posDstSize ≠ 0 then
    let dstSize := s.pos - posDataStart
    ((s.setPosition posDstSize).write (bytesUInt32 dstSize)).setPosition (posDataStart + dstSize)
  else s

/-- One turn of the loop, for the bytes `src` that are left. -/
def zgfxCompressFragment (st : ZgfxFragments) (src : List UInt8) (uncompressedSize : Nat) :
    ZgfxFragments :=
  let srcSize := if src.length > ZGFX_SEGMENTED_MAXSIZE then ZGFX_SEGMENTED_MAXSIZE else src.length
  let (s, posSegmentCount, posDstSize) := zgfxWriteHeaders st (src.length - srcSize) uncompressedSize
  let posDataStart := s.pos
  let (s, flags) := zgfxCompressSegment s (src.take srcSize) st.flags
  ⟨zgfxFillSize s posDstSize posDataStart, st.fragment + 1, posSegmentCount, flags⟩

/-- The loop of `zgfx_compress_to_stream`. -/
def zgfxCompressLoop (uncompressedSize : Nat) : Nat → ZgfxFragments → List UInt8 → ZgfxFragments
  | 0, st, _ => st
  | fuel + 1, st, src =>
    if src.length > 0 ∨ st.fragment = 0 then
      zgfxCompressLoop uncompressedSize fuel (zgfxCompressFragment st src uncompressedSize)
        (src.drop ZGFX_SEGMENTED_MAXSIZE)
    else st

/-- `zgfx_compress_to_stream`: the stream and the flags. -/
def zgfxCompressToStream (s : WStream) (uncompressed : List UInt8) (flags : Nat) : WStream × Nat :=
  let st := zgfxCompressLoop uncompressed.length (uncompressed.length + 1) ⟨s, 0, 0, flags⟩
    uncompressed
  -- fill back segmentCount
  if st.posSegmentCount ≠ 0 then
    let s := (st.stream.setPosition st.posSegmentCount).write (bytesUInt16 st.fragment)
    (s.setPosition s.buffer.length, st.flags)
  else (st.stream, st.flags)

/-- `zgfx_compress`: the `*pDstSize` bytes at `*ppDstData`, where the size is a `UINT32`. -/
def zgfxCompress (srcData : List UInt8) (flags : Nat) : List UInt8 :=
  let s := (zgfxCompressToStream (WStream.ofBytes []) srcData flags).1
  s.buffer.take (s.pos % 2 ^ 32)

end FreeRdp
