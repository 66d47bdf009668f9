import FreeRdp.Library.Copy
import FreeRdp.Library.Loops
import FreeRdp.Winpr.Crt

/-!
# NSCodec planes

The run-length encoding of planes, `nsc.c` and `nsc_encode.c`. `UINT32` values are numbers below
`2 ^ 32`. Both directions read from a memory that goes on behind the data, and write through a
pointer that only moves on, so what they write is a list. The decoder does not look at the end of
its input; how far it has looked, and whether a run was longer than what was left of the plane, is
kept beside its variables.
-/

namespace FreeRdp

/-- Subtraction of `UINT32` values. -/
def uint32Sub (a b : Nat) : Nat := (a + 2 ^ 32 - b) % 2 ^ 32

/-! ### Encoding -/

/-- The variables of `nsc_rle_encode`. -/
structure RleEncoder where
  pos : Nat
  out : List UInt8
  left : Nat
  runlength : Nat
  planeSize : Nat

/-- What a run is written as. -/
def nscRunToken (value : UInt8) (runlength : Nat) : List UInt8 :=
  if runlength = 1 then [value]
  else if runlength < 256 then [value, value, UInt8.ofNat (runlength - 2)]
  else
    [value, value, 0xFF, UInt8.ofNat (runlength &&& 0x000000FF),
      UInt8.ofNat ((runlength &&& 0x0000FF00) >>> 8),
      UInt8.ofNat ((runlength &&& 0x00FF0000) >>> 16),
      UInt8.ofNat ((runlength &&& 0xFF000000) >>> 24)]

/-- The loop of `nsc_rle_encode`, with at most `rounds` rounds. -/
def nscRleEncodeLoop (m : Nat → UInt8) (originalSize : Nat) : Nat → RleEncoder → RleEncoder
  | 0, e => e
  | rounds + 1, e =>
    if 4 < e.left ∧ e.planeSize < uint32Sub originalSize 4 then
      nscRleEncodeLoop m originalSize rounds
        (if 5 < e.left ∧ m e.pos = m (e.pos + 1) then
          { e with runlength := e.runlength + 1, pos := e.pos + 1, left := e.left - 1 }
        else
          let token := nscRunToken (m e.pos) e.runlength
          { out := e.out ++ token
            planeSize := (e.planeSize + token.length) % 2 ^ 32
            runlength := 1
            pos := e.pos + 1
            left := e.left - 1 })
    else e

/-- `nsc_rle_encode`: the size it returns, and what it writes. -/
def nscRleEncode (m : Nat → UInt8) (originalSize : Nat) : Nat × List UInt8 :=
  let e := nscRleEncodeLoop m originalSize originalSize ⟨0, [], originalSize, 1, 0⟩
  ((e.planeSize + 4) % 2 ^ 32,
    if e.planeSize < uint32Sub originalSize 4 then e.out ++ readList m e.pos 4 else e.out)

/-- One plane of `nsc_rle_compress_data`: the `PlaneByteCount`, and the bytes of the plane that are
sent. -/
def nscCompressPlane (m : Nat → UInt8) (originalSize : Nat) : Nat × List UInt8 :=
  if originalSize = 0 then (0, [])
  else
    let (planeSize, out) := nscRleEncode m originalSize
    if planeSize < originalSize then (planeSize, out.take planeSize)
    else (originalSize, readList m 0 originalSize)

/-- `nsc_rle_compress_data` for plane buffers with their `OrgByteCount`. -/
def nscRleCompressData (planes : List ((Nat → UInt8) × Nat)) : List (Nat × List UInt8) :=
  planes.map fun p => nscCompressPlane p.1 p.2

/-! ### Decoding -/

/-- The variables of `nsc_rle_decode`: the index of `in`, what has been written to `out`, `outSize`
and `left`. Besides, how many bytes have been looked at, and whether a run was longer than what was
left. -/
structure RleDecoder where
  pos : Nat
  out : List UInt8
  outSize : Nat
  left : Nat
  looked : Nat
  overrun : Bool

/-- How decoding a plane ends: whether it succeeds, what has been written, how many bytes have been
looked at, and whether a run was longer than what was left. -/
structure PlaneResult where
  ok : Bool
  out : List UInt8
  looked : Nat
  overrun : Bool

/-- The decoder has looked at the input up to before `i`. -/
def RleDecoder.look (d : RleDecoder) (i : Nat) : RleDecoder := { d with looked := max d.looked i }

/-- `return`. -/
def RleDecoder.stop (ok : Bool) (d : RleDecoder) : Round RleDecoder PlaneResult :=
  .done ⟨ok, d.out, d.looked, d.overrun⟩

/-- A byte by itself. -/
def RleDecoder.literal (value : UInt8) (d : RleDecoder) : Round RleDecoder PlaneResult :=
  if d.outSize < 1 then d.stop false
  else .next { d with outSize := d.outSize - 1, out := d.out ++ [value], left := d.left - 1 }

/-- A run. -/
def RleDecoder.run (value : UInt8) (len : Nat) (d : RleDecoder) : Round RleDecoder PlaneResult :=
  if d.outSize < len then d.stop false
  else
    .next { d with
      outSize := d.outSize - len
      out := d.out ++ List.replicate len value
      left := uint32Sub d.left len
      overrun := d.overrun || decide (d.left < len) }

/-- The four bytes of a length. -/
def nscRunLength (m : Nat → UInt8) (i : Nat) : Nat :=
  (m i).toNat ||| (m (i + 1)).toNat <<< 8 ||| (m (i + 2)).toNat <<< 16 |||
    (m (i + 3)).toNat <<< 24

/-- A round of the loop of `nsc_rle_decode`, and the end behind it. -/
def nscRleRound (m : Nat → UInt8) (d : RleDecoder) : Round RleDecoder PlaneResult :=
  if 4 < d.left then
    let value := m d.pos
    if d.left = 5 then ({ d with pos := d.pos + 1 }.look (d.pos + 1)).literal value
    else if value = m (d.pos + 1) then
      if (m (d.pos + 2)).toNat < 0xFF then
        ({ d with pos := d.pos + 3 }.look (d.pos + 3)).run value ((m (d.pos + 2)).toNat + 2)
      else
        ({ d with pos := d.pos + 7 }.look (d.pos + 7)).run value (nscRunLength m (d.pos + 3))
    else ({ d with pos := d.pos + 1 }.look (d.pos + 2)).literal value
  else if d.outSize < 4 ∨ d.left < 4 then d.stop false
  else { d with out := d.out ++ readList m d.pos 4 }.look (d.pos + 4) |>.stop true

/-- `nsc_rle_decode`, if it ends within `fuel` rounds. -/
def nscRleDecode (m : Nat → UInt8) (outSize originalSize fuel : Nat) : Option PlaneResult :=
  loop (nscRleRound m) fuel ⟨0, [], outSize, originalSize, 0, false⟩

/-- One plane of `nsc_rle_decompress_data`. -/
def nscDecompressPlane (rle : Nat → UInt8) (planeBuffersLength originalSize planeSize fuel : Nat) :
    Option PlaneResult :=
  if planeSize = 0 then
    if planeBuffersLength < originalSize then some ⟨false, [], 0, false⟩
    else some ⟨true, List.replicate originalSize 0xFF, 0, false⟩
  else if planeSize < originalSize then nscRleDecode rle planeBuffersLength originalSize fuel
  else
    if planeBuffersLength < originalSize then some ⟨false, [], 0, false⟩
    else some ⟨true, readList rle 0 originalSize, originalSize, false⟩

/-- `nsc_rle_decompress_data` for planes with their `OrgByteCount` and `PlaneByteCount`: the results
of the planes up to the first that fails. -/
def nscRleDecompressData (rle : Nat → UInt8) (planeBuffersLength fuel : Nat) :
    List (Nat × Nat) → Option (List PlaneResult)
  | [] => some []
  | (originalSize, planeSize) :: planes =>
    match nscDecompressPlane rle planeBuffersLength originalSize planeSize fuel with
    | none => none
    | some r =>
      if r.ok then
        (nscRleDecompressData (fun i => rle (planeSize + i)) planeBuffersLength fuel planes).map
          (r :: ·)
      else some [r]

/-! ### Messages -/

/-- `ROUND_UP_TO` for a `UINT16` value. -/
def roundUpTo (b n : Nat) : Nat :=
  b + (uint32Sub 0 (b &&& (n - 1)) &&& (n - 1))

/-- What `nsc_context_initialize` stores in a `NSC_CONTEXT`, and what it finds there; without
`BitmapData` its length is `none`. -/
structure NscContext where
  width : Nat
  height : Nat
  bitmapDataLength : Option Nat
  planeBuffersLength : Nat
  planeByteCount : List Nat
  orgByteCount : List Nat
  colorLossLevel : Nat
  chromaSubsamplingLevel : Nat
  deriving DecidableEq, Repr

/-- `Stream_Read_UINT32`. -/
def leUInt32 (m : Nat → UInt8) (i : Nat) : Nat :=
  (m i).toNat + (m (i + 1)).toNat <<< 8 + (m (i + 2)).toNat <<< 16 + (m (i + 3)).toNat <<< 24

/-- `nsc_stream_initialize` on a stream of `length` bytes; `Planes` begins at the byte 20. -/
def nscStreamInitialize (s : Nat → UInt8) (length : Nat) (context : NscContext) :
    Option NscContext :=
  if length < 20 then none
  else
    some { context with
      planeByteCount := [leUInt32 s 0, leUInt32 s 4, leUInt32 s 8, leUInt32 s 12]
      colorLossLevel := (s 16).toNat
      chromaSubsamplingLevel := (s 17).toNat }

/-- `OrgByteCount`. -/
def nscOrgByteCount (width height chromaSubsamplingLevel : Nat) : List Nat :=
  let tempWidth := roundUpTo width 8
  let tempHeight := roundUpTo height 2
  let plane := width * height % 2 ^ 32
  if chromaSubsamplingLevel ≠ 0 then
    let chroma := (tempWidth >>> 1) * (tempHeight >>> 1) % 2 ^ 32
    [tempWidth * height % 2 ^ 32, chroma, chroma, plane]
  else [plane, plane, plane, plane]

/-- `nsc_context_initialize`. -/
def nscContextInitialize (malloc : Malloc) (s : Nat → UInt8) (length : Nat) (context : NscContext) :
    Option NscContext := do
  let context ← nscStreamInitialize s length context
  let bitmapLength := context.width * context.height * 4 % 2 ^ 32
  let context ←
    if context.bitmapDataLength.all (· < bitmapLength) then
      if malloc.succeeds ((bitmapLength + 16) % 2 ^ 32) then
        some { context with bitmapDataLength := some bitmapLength }
      else none
    else some context
  let planeLength := roundUpTo context.width 8 * roundUpTo context.height 2 % 2 ^ 32
  let context ←
    if context.planeBuffersLength < planeLength then
      if malloc.succeeds planeLength then some { context with planeBuffersLength := planeLength }
      else none
    else some context
  some { context with
    orgByteCount :=
      nscOrgByteCount context.width context.height context.chromaSubsamplingLevel }

end FreeRdp
