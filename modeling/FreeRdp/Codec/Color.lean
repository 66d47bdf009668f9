import FreeRdp.Winpr.BitStream

/-!
# Colours

The formats of 32 bits with a byte for each channel, `color.h`. A pixel is read into one number,
the first byte on top, and written from it.
-/

namespace FreeRdp

/-- The pixel formats of 32 bits with channels of 8 bits. X stands for an alpha channel that is not
used. -/
inductive PixelFormat where
  | argb32 | xrgb32 | abgr32 | xbgr32 | bgra32 | bgrx32 | rgba32 | rgbx32
  deriving DecidableEq, Repr

/-- The channels of a pixel. -/
structure Color where
  r : UInt8
  g : UInt8
  b : UInt8
  a : UInt8
  deriving DecidableEq, Repr

/-- `ColorHasAlpha`. -/
def colorHasAlpha : PixelFormat → Bool
  | .argb32 | .abgr32 | .bgra32 | .rgba32 => true
  | .xrgb32 | .xbgr32 | .bgrx32 | .rgbx32 => false

/-- The format with its alpha bits masked out, as `AreColorFormatsEqualNoAlpha` compares it. -/
def PixelFormat.noAlpha : PixelFormat → PixelFormat
  | .argb32 | .xrgb32 => .xrgb32
  | .abgr32 | .xbgr32 => .xbgr32
  | .bgra32 | .bgrx32 => .bgrx32
  | .rgba32 | .rgbx32 => .rgbx32

/-- `AreColorFormatsEqualNoAlpha`. -/
def areColorFormatsEqualNoAlpha (first second : PixelFormat) : Bool :=
  first.noAlpha = second.noAlpha

/-- Four bytes as a number. -/
def colorWord (b0 b1 b2 b3 : UInt8) : Nat :=
  b0.toNat <<< 24 ||| b1.toNat <<< 16 ||| b2.toNat <<< 8 ||| b3.toNat

/-- `ReadColor`. -/
def readColor (src : Nat → UInt8) (i : Nat) : Nat :=
  colorWord (src i) (src (i + 1)) (src (i + 2)) (src (i + 3))

/-- `WriteColor`: the bytes it writes. -/
def writeColor (color : Nat) : List UInt8 :=
  [UInt8.ofNat (color >>> 24), UInt8.ofNat (color >>> 16), UInt8.ofNat (color >>> 8),
    UInt8.ofNat color]

/-- `SplitColor`. -/
def splitColor (color : Nat) : PixelFormat → Color
  | .argb32 => ⟨UInt8.ofNat (color >>> 16), UInt8.ofNat (color >>> 8), UInt8.ofNat color,
      UInt8.ofNat (color >>> 24)⟩
  | .xrgb32 => ⟨UInt8.ofNat (color >>> 16), UInt8.ofNat (color >>> 8), UInt8.ofNat color, 0xFF⟩
  | .abgr32 => ⟨UInt8.ofNat color, UInt8.ofNat (color >>> 8), UInt8.ofNat (color >>> 16),
      UInt8.ofNat (color >>> 24)⟩
  | .xbgr32 => ⟨UInt8.ofNat color, UInt8.ofNat (color >>> 8), UInt8.ofNat (color >>> 16), 0xFF⟩
  | .rgba32 => ⟨UInt8.ofNat (color >>> 24), UInt8.ofNat (color >>> 16), UInt8.ofNat (color >>> 8),
      UInt8.ofNat color⟩
  | .rgbx32 => ⟨UInt8.ofNat (color >>> 24), UInt8.ofNat (color >>> 16), UInt8.ofNat (color >>> 8),
      0xFF⟩
  | .bgra32 => ⟨UInt8.ofNat (color >>> 8), UInt8.ofNat (color >>> 16), UInt8.ofNat (color >>> 24),
      UInt8.ofNat color⟩
  | .bgrx32 => ⟨UInt8.ofNat (color >>> 8), UInt8.ofNat (color >>> 16), UInt8.ofNat (color >>> 24),
      0xFF⟩

/-- `FreeRDPGetColor`. -/
def freeRDPGetColor (c : Color) : PixelFormat → Nat
  | .argb32 => colorWord c.a c.r c.g c.b
  | .xrgb32 => colorWord 0 c.r c.g c.b
  | .abgr32 => colorWord c.a c.b c.g c.r
  | .xbgr32 => colorWord 0 c.b c.g c.r
  | .rgba32 | .rgbx32 => colorWord c.r c.g c.b c.a
  | .bgra32 | .bgrx32 => colorWord c.b c.g c.r c.a

/-- `FreeRDPConvertColor`. -/
def freeRDPConvertColor (color : Nat) (srcFormat dstFormat : PixelFormat) : Nat :=
  freeRDPGetColor (splitColor color srcFormat) dstFormat

section Words

variable (b0 b1 b2 b3 : UInt8)

lemma colorWord_eq :
    colorWord b0 b1 b2 b3 =
      ((b0.toNat * 2 ^ 8 + b1.toNat) * 2 ^ 8 + b2.toNat) * 2 ^ 8 + b3.toNat :=
  WBitStream.word_eq_add b1.toNat_lt b2.toNat_lt b3.toNat_lt

@[simp] lemma ofNat_colorWord : UInt8.ofNat (colorWord b0 b1 b2 b3) = b3 := by
  rw [colorWord_eq]
  refine UInt8.toNat_inj.mp ?_
  have h := b3.toNat_lt
  rw [UInt8.toNat_ofNat']
  omega

@[simp] lemma ofNat_colorWord_8 : UInt8.ofNat (colorWord b0 b1 b2 b3 >>> 8) = b2 := by
  rw [colorWord_eq, Nat.shiftRight_eq_div_pow]
  refine UInt8.toNat_inj.mp ?_
  have h := b3.toNat_lt
  have h' := b2.toNat_lt
  rw [UInt8.toNat_ofNat']
  omega

@[simp] lemma ofNat_colorWord_16 : UInt8.ofNat (colorWord b0 b1 b2 b3 >>> 16) = b1 := by
  rw [colorWord_eq, Nat.shiftRight_eq_div_pow]
  refine UInt8.toNat_inj.mp ?_
  have h := b3.toNat_lt
  have h' := b2.toNat_lt
  have h'' := b1.toNat_lt
  rw [UInt8.toNat_ofNat']
  omega

@[simp] lemma ofNat_colorWord_24 : UInt8.ofNat (colorWord b0 b1 b2 b3 >>> 24) = b0 := by
  rw [colorWord_eq, Nat.shiftRight_eq_div_pow]
  refine UInt8.toNat_inj.mp ?_
  have h := b3.toNat_lt
  have h' := b2.toNat_lt
  have h'' := b1.toNat_lt
  have h''' := b0.toNat_lt
  rw [UInt8.toNat_ofNat']
  omega

end Words

/-- A pixel is read as it was written. -/
lemma colorWord_writeColor_colorWord (b0 b1 b2 b3 : UInt8) :
    writeColor (colorWord b0 b1 b2 b3) = [b0, b1, b2, b3] := by
  simp [writeColor]

/-- The channels of a pixel agree in two formats: the colours, and alpha where it is used. -/
structure Color.Agree (alpha : Bool) (c d : Color) : Prop where
  r : c.r = d.r
  g : c.g = d.g
  b : c.b = d.b
  a : alpha = true → c.a = d.a

/-- A colour keeps its channels in every format, and alpha in a format that has it. -/
lemma splitColor_freeRDPGetColor (c : Color) (format : PixelFormat) :
    (splitColor (freeRDPGetColor c format) format).Agree (colorHasAlpha format) c := by
  cases format <;> exact
    ⟨by simp [splitColor, freeRDPGetColor], by simp [splitColor, freeRDPGetColor],
      by simp [splitColor, freeRDPGetColor], by simp [splitColor, freeRDPGetColor, colorHasAlpha]⟩

end FreeRdp
