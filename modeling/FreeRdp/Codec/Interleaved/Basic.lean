import FreeRdp.Library.Strided

/-!
# The interleaved codec

`RLEDECOMPRESS` of `codec/include/bitmap.c`, which is compiled for pixels of one, two and three
bytes. The source is a list of orders, each of them a header, a run length and operands. The pixels
are written one after the other; many orders refer to the pixel of the line before.
-/

namespace FreeRdp

/-! ### Pixels -/

/-- The number in some bytes, the lowest byte first. -/
def pixelOfBytes : List UInt8 → Nat
  | [] => 0
  | b :: bytes => b.toNat + 256 * pixelOfBytes bytes

/-- The lowest bytes of a number, the lowest byte first. -/
def bytesOfPixel : Nat → Nat → List UInt8
  | 0, _ => []
  | n + 1, pixel => UInt8.ofNat pixel :: bytesOfPixel n (pixel / 256)

/-- The bytes of a memory from an index on. -/
def readBytes (m : Nat → UInt8) (i : Nat) : Nat → List UInt8
  | 0 => []
  | n + 1 => m i :: readBytes m (i + 1) n

/-- `WHITE_PIXEL` of pixels of `base` bytes. -/
def whitePixel (base : Nat) : Nat := 2 ^ (8 * base) - 1

/-! ### Orders -/

/-- The code IDs of orders. All but the last ones have a regular or lite form and the form
`MEGA_MEGA`, in which two bytes hold the length. -/
inductive RleCode where
  | bgRun (mega : Bool)
  | fgRun (mega : Bool)
  | setFgRun (mega : Bool)
  | ditheredRun (mega : Bool)
  | colorRun (mega : Bool)
  | fgBgImage (mega : Bool)
  | setFgBgImage (mega : Bool)
  | colorImage (mega : Bool)
  | specialFgBg1
  | specialFgBg2
  | white
  | black
  | unknown
  deriving DecidableEq, Repr

/-- `ExtractCodeId`. -/
def extractCodeId (orderHdr : UInt8) : RleCode :=
  if orderHdr &&& 0xC0 ≠ 0xC0 then
    match (orderHdr >>> 5).toNat with
    | 0x00 => .bgRun false
    | 0x01 => .fgRun false
    | 0x02 => .fgBgImage false
    | 0x03 => .colorRun false
    | 0x04 => .colorImage false
    | _ => .unknown
  else if orderHdr &&& 0xF0 = 0xF0 then
    match orderHdr.toNat with
    | 0xF0 => .bgRun true
    | 0xF1 => .fgRun true
    | 0xF2 => .fgBgImage true
    | 0xF3 => .colorRun true
    | 0xF4 => .colorImage true
    | 0xF6 => .setFgRun true
    | 0xF7 => .setFgBgImage true
    | 0xF8 => .ditheredRun true
    | 0xF9 => .specialFgBg1
    | 0xFA => .specialFgBg2
    | 0xFD => .white
    | 0xFE => .black
    | _ => .unknown
  else
    match (orderHdr >>> 4).toNat with
    | 0x0C => .setFgRun false
    | 0x0D => .setFgBgImage false
    | 0x0E => .ditheredRun false
    | _ => .unknown

/-- How the length of an order is coded: in two bytes, or in the header under a mask, multiplied
by a factor; a length of zero stands for the next byte plus an offset. -/
inductive RleLength where
  | mega
  | short (mask : UInt8) (factor offset : Nat)
  | none

/-- The cases of `ExtractRunLength`. -/
def RleCode.length : RleCode → RleLength
  | .fgBgImage false => .short 0x1F 8 1
  | .setFgBgImage false => .short 0x0F 8 1
  | .bgRun false | .fgRun false | .colorRun false | .colorImage false => .short 0x1F 1 32
  | .setFgRun false | .ditheredRun false => .short 0x0F 1 16
  | .bgRun true | .fgRun true | .setFgRun true | .ditheredRun true | .colorRun true
  | .fgBgImage true | .setFgBgImage true | .colorImage true => .mega
  | .specialFgBg1 | .specialFgBg2 | .white | .black | .unknown => .none

/-- Why the decoder has no result: it returned `FALSE`, it touched a byte outside of a buffer (read
behind the end of the source, wrote or read behind the end of the destination, read before its
start), or the fuel of the model ended. -/
inductive RleStop where
  | refused
  | sourceOverrun
  | outside
  | beforeStart
  | unfinished
  deriving DecidableEq, Repr

/-- `ExtractRunLength`: the run length and the source after the header. -/
def extractRunLength (code : RleCode) (src : List UInt8) : Except RleStop (Nat × List UInt8) :=
  match code.length, src with
  | .mega, _ :: low :: high :: src => .ok (low.toNat ||| high.toNat <<< 8, src)
  | .short mask factor offset, orderHdr :: src =>
    if (orderHdr &&& mask).toNat = 0 then
      match src with
      | next :: src => .ok (next.toNat + offset, src)
      | [] => .error .sourceOverrun
    else .ok ((orderHdr &&& mask).toNat * factor, src)
  | .none, _ :: src => .ok (0, src)
  | _, _ => .error .sourceOverrun

/-! ### The decoder -/

/-- The destination: the bytes of a pixel, of a line and of the whole. -/
structure RleTarget where
  base : Nat
  rowDelta : Nat
  size : Nat

/-- The locals of `RLEDECOMPRESS`: the source from `pbSrc` on, the index of `pbDest` and the memory
it points to, the foreground pixel and the flags. -/
structure RleState where
  src : List UInt8
  pos : Nat
  dst : Nat → UInt8
  fgPel : Nat
  fInsertFgPel : Bool
  fFirstLine : Bool

/-- `runLength - 1`, a `UINT32`. -/
def runLengthPred (runLength : Nat) : Nat := (runLength + 2 ^ 32 - 1) % 2 ^ 32

namespace RleTarget

variable (t : RleTarget)

/-- `ENSURE_CAPACITY`. -/
def ensureCapacity (n : Nat) (s : RleState) : Except RleStop Unit :=
  if s.pos + n * t.base ≤ t.size then .ok () else .error .refused

/-- `DESTWRITEPIXEL` and `DESTNEXTPIXEL`. -/
def writePixel (data : Nat) (s : RleState) : Except RleStop RleState :=
  if s.pos + t.base > t.size then .error .outside
  else
    .ok { s with
      dst := writeStrided s.dst s.pos 1 (bytesOfPixel t.base data)
      pos := s.pos + t.base }

/-- The pixel of the line before, `DESTREADPIXEL` at `pbDest - rowDelta`; in the first line it is
black and not read. The source checks neither end: the model stops where a byte of the pixel is
before the destination or behind it, as it can be if a line is shorter than a pixel. -/
def abovePixel (s : RleState) : Except RleStop Nat :=
  if s.fFirstLine then .ok 0
  else if s.pos < t.rowDelta then .error .beforeStart
  else if s.pos - t.rowDelta + t.base > t.size then .error .outside
  else .ok (pixelOfBytes (readBytes s.dst (s.pos - t.rowDelta) t.base))

/-- `SRCREADPIXEL` and `SRCNEXTPIXEL`. -/
def readPixel (s : RleState) : Except RleStop (Nat × RleState) :=
  if s.src.length < t.base then .error .sourceOverrun
  else .ok (pixelOfBytes (s.src.take t.base), { s with src := s.src.drop t.base })

/-- A pixel after the check `pbSrc >= pbEnd`. -/
def readPixelChecked (s : RleState) : Except RleStop (Nat × RleState) :=
  if s.src = [] then .error .refused else t.readPixel s

/-- `UNROLL`. -/
def unroll (body : RleState → Except RleStop RleState) : Nat → RleState → Except RleStop RleState
  | 0, s => .ok s
  | n + 1, s => do unroll body n (← body s)

/-- A pixel that differs from the one above in `mask`. -/
def writeXor (mask : Nat) (s : RleState) : Except RleStop RleState := do
  t.writePixel ((← t.abovePixel s) ^^^ mask) s

/-- The loop of `WRITEFGBGIMAGE` from the bit `k` of the mask on. -/
def writeBits (bitmask : UInt8) : Nat → Nat → RleState → Except RleStop RleState
  | 0, _, s => .ok s
  | cBits + 1, k, s => do
    let s ← t.writeXor (if bitmask.toNat.testBit k then s.fgPel else 0) s
    writeBits bitmask cBits (k + 1) s

/-- `WRITEFGBGIMAGE`, and in the first line `WRITEFIRSTLINEFGBGIMAGE`. -/
def writeFgBgImage (bitmask : UInt8) (cBits : Nat) (s : RleState) : Except RleStop RleState := do
  if cBits > 8 then .error .refused
  else
    t.ensureCapacity cBits s
    t.writeBits bitmask cBits 0 s

/-- A bitmask of the source with its pixels. -/
def writeMask (cBits : Nat) (s : RleState) : Except RleStop RleState :=
  match s.src with
  | [] => .error .sourceOverrun
  | bitmask :: src => t.writeFgBgImage bitmask cBits { s with src := src }

/-- The loop over the bitmasks of an image. -/
def writeMasks (runLength : Nat) (s : RleState) : Except RleStop RleState :=
  if runLength > 8 then do writeMasks (runLength - 8) (← t.writeMask 8 s)
  else if runLength > 0 then t.writeMask runLength s
  else .ok s
termination_by runLength

/-- A background run. After another one its first pixel is a foreground pixel. -/
def bgRun (runLength : Nat) (s : RleState) : Except RleStop RleState := do
  let (runLength, s) ← (if s.fInsertFgPel then do
      let temp ← t.abovePixel s
      t.ensureCapacity 1 s
      let s ← t.writePixel (temp ^^^ s.fgPel) s
      .ok (runLengthPred runLength, s)
    else .ok (runLength, s))
  t.ensureCapacity runLength s
  let s ← unroll (t.writeXor 0) runLength s
  .ok { s with fInsertFgPel := true }

/-- A foreground run. -/
def fgRun (runLength : Nat) (s : RleState) : Except RleStop RleState := do
  t.ensureCapacity runLength s
  unroll (fun s => t.writeXor s.fgPel s) runLength s

/-- A new foreground pixel. -/
def setFgPel (s : RleState) : Except RleStop RleState := do
  let (fgPel, s) ← t.readPixel s
  .ok { s with fgPel := fgPel }

/-- The two pixels of a dithered run. -/
def writePixels (pixelA pixelB : Nat) (s : RleState) : Except RleStop RleState := do
  t.writePixel pixelB (← t.writePixel pixelA s)

/-- A dithered run. -/
def ditheredRun (runLength : Nat) (s : RleState) : Except RleStop RleState := do
  let (pixelA, s) ← t.readPixelChecked s
  let (pixelB, s) ← t.readPixelChecked s
  t.ensureCapacity (runLength * 2) s
  unroll (t.writePixels pixelA pixelB) runLength s

/-- A color run. -/
def colorRun (runLength : Nat) (s : RleState) : Except RleStop RleState := do
  let (pixelA, s) ← t.readPixelChecked s
  t.ensureCapacity runLength s
  unroll (t.writePixel pixelA) runLength s

/-- A pixel of the source. -/
def copyPixel (s : RleState) : Except RleStop RleState := do
  let (temp, s) ← t.readPixelChecked s
  t.writePixel temp s

/-- A color image. -/
def colorImage (runLength : Nat) (s : RleState) : Except RleStop RleState := do
  t.ensureCapacity runLength s
  unroll t.copyPixel runLength s

/-- An order after its header. -/
def order (code : RleCode) (runLength : Nat) (s : RleState) : Except RleStop RleState :=
  match code with
  | .bgRun _ => t.bgRun runLength s
  | .fgRun _ => t.fgRun runLength { s with fInsertFgPel := false }
  | .setFgRun _ =>
    if s.src = [] then .error .refused
    else do t.fgRun runLength (← t.setFgPel { s with fInsertFgPel := false })
  | .ditheredRun _ => t.ditheredRun runLength { s with fInsertFgPel := false }
  | .colorRun _ => t.colorRun runLength { s with fInsertFgPel := false }
  | .fgBgImage _ =>
    if s.src = [] then .error .refused else t.writeMasks runLength { s with fInsertFgPel := false }
  | .setFgBgImage _ =>
    if s.src = [] then .error .refused
    else do t.writeMasks runLength (← t.setFgPel { s with fInsertFgPel := false })
  | .colorImage _ => t.colorImage runLength { s with fInsertFgPel := false }
  | .specialFgBg1 => t.writeFgBgImage 0x03 8 { s with fInsertFgPel := false }
  | .specialFgBg2 => t.writeFgBgImage 0x05 8 { s with fInsertFgPel := false }
  | .white => do
    t.ensureCapacity 1 s
    t.writePixel (whitePixel t.base) { s with fInsertFgPel := false }
  | .black => do
    t.ensureCapacity 1 s
    t.writePixel 0 { s with fInsertFgPel := false }
  | .unknown => .error .refused

/-- The end of the first line. -/
def nextLine (s : RleState) : RleState :=
  if s.fFirstLine ∧ s.pos ≥ t.rowDelta then { s with fFirstLine := false, fInsertFgPel := false }
  else s

/-- The loop of `RLEDECOMPRESS`. -/
def loop : Nat → RleState → Except RleStop RleState
  | 0, _ => .error .unfinished
  | fuel + 1, s =>
    match s.src with
    | [] => .ok s
    | orderHdr :: _ => do
      let s := t.nextLine s
      let (runLength, src) ← extractRunLength (extractCodeId orderHdr) s.src
      loop fuel (← t.order (extractCodeId orderHdr) runLength { s with src := src })

end RleTarget

/-- `RLEDECOMPRESS` for pixels of `base` bytes: the destination, if it returns `TRUE`. -/
def rleDecompress (base : Nat) (src : List UInt8) (dst : Nat → UInt8)
    (rowDelta width height : Nat) : Except RleStop (Nat → UInt8) :=
  if rowDelta = 0 ∨ rowDelta < width then .error .refused
  else do
    let s ← RleTarget.loop ⟨base, rowDelta, rowDelta * height % 2 ^ 32⟩ (src.length + 1)
      ⟨src, 0, dst, whitePixel base, false, true⟩
    .ok s.dst

def rleDecompress8to8 := rleDecompress 1
def rleDecompress16to16 := rleDecompress 2
def rleDecompress24to24 := rleDecompress 3

end FreeRdp
