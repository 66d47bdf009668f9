import FreeRdp.Library.Bits

/-!
# Pixel formats

A format is a number that holds how many bits a pixel has and which bits its channels have,
`color.h`. A pixel is read as one number and written from one.
-/

namespace FreeRdp

def PIXEL_FORMAT_BGRX32 : Nat := 32 <<< 24 ||| 4 <<< 16 ||| 8 <<< 8 ||| 8 <<< 4 ||| 8
def PIXEL_FORMAT_BGRA32 : Nat := 32 <<< 24 ||| 4 <<< 16 ||| 8 <<< 12 ||| 8 <<< 8 ||| 8 <<< 4 ||| 8
def PIXEL_FORMAT_BGR24 : Nat := 24 <<< 24 ||| 2 <<< 16 ||| 8 <<< 8 ||| 8 <<< 4 ||| 8
def PIXEL_FORMAT_RGB16 : Nat := 16 <<< 24 ||| 1 <<< 16 ||| 5 <<< 8 ||| 6 <<< 4 ||| 5

/-- `GetBitsPerPixel`. -/
def getBitsPerPixel (format : Nat) : Nat := format >>> 24 &&& 0x3F

/-- `GetBytesPerPixel`. -/
def getBytesPerPixel (format : Nat) : Nat := (getBitsPerPixel format + 7) / 8

/-- `ColorHasAlpha` of a format given by its number. -/
def formatHasAlpha (format : Nat) : Bool := format >>> 12 &&& 0x0F ≠ 0

/-- `AreColorFormatsEqualNoAlpha` of formats given by their numbers. -/
def formatsEqualNoAlpha (first second : Nat) : Bool :=
  first &&& (2 ^ 32 - 1 - 8 <<< 12) = second &&& (2 ^ 32 - 1 - 8 <<< 12)

/-- `ReadColor` of some bytes. -/
def readColorBytes (format : Nat) (src : List UInt8) : Nat :=
  let byte i := (src.getD i 0).toNat
  match getBitsPerPixel format with
  | 32 => byte 0 <<< 24 ||| byte 1 <<< 16 ||| byte 2 <<< 8 ||| byte 3
  | 24 => byte 0 <<< 16 ||| byte 1 <<< 8 ||| byte 2
  | 16 => byte 1 <<< 8 ||| byte 0
  | 15 =>
    let color := byte 1 <<< 8 ||| byte 0
    if formatHasAlpha format then color else color &&& 0x7FFF
  | 8 | 4 | 1 => byte 0
  | _ => 0

/-- `WriteColor`: the bytes it writes, none for a format it does not support. -/
def writeColorBytes (format color : Nat) : Option (List UInt8) :=
  match getBitsPerPixel format with
  | 32 => some [UInt8.ofNat (color >>> 24), UInt8.ofNat (color >>> 16), UInt8.ofNat (color >>> 8),
      UInt8.ofNat color]
  | 24 => some [UInt8.ofNat (color >>> 16), UInt8.ofNat (color >>> 8), UInt8.ofNat color]
  | 16 => some [UInt8.ofNat color, UInt8.ofNat (color >>> 8)]
  | 15 =>
    let color := if formatHasAlpha format then color else color &&& 0x7FFF
    some [UInt8.ofNat color, UInt8.ofNat (color >>> 8)]
  | 8 => some [UInt8.ofNat color]
  | _ => none

/-! ### First bytes -/

/-- The first byte that is written for a colour without any bits. -/
lemma writeColorBytes_zero {format : Nat} {bytes : List UInt8}
    (h : writeColorBytes format 0 = some bytes) : bytes.getD 0 0 = 0 := by
  unfold writeColorBytes at h
  split at h <;> simp at h <;> subst h <;> rfl

/-- The first byte that is written for a colour with all bits. -/
lemma writeColorBytes_ones {format : Nat} {bytes : List UInt8}
    (h : writeColorBytes format 0xFFFFFFFF = some bytes) : bytes.getD 0 0 = 0xFF := by
  unfold writeColorBytes at h
  split at h <;> simp at h <;> subst h <;> try rfl
  split <;> rfl

lemma shiftLeft_shiftRight_eq_zero (b : UInt8) {j k : Nat} (h : j + 8 ≤ k) :
    b.toNat <<< j >>> k = 0 := by
  rw [Nat.shiftLeft_eq, Nat.shiftRight_eq_div_pow]
  refine Nat.div_eq_of_lt (lt_of_lt_of_le
    (Nat.mul_lt_mul_of_pos_right b.toNat_lt (Nat.two_pow_pos j)) ?_)
  rw [← pow_add]
  exact Nat.pow_le_pow_right (by decide) (by omega)

/-- A colour tells the first byte that it was read from. -/
lemma readColorBytes_first {format : Nat} {src src' : List UInt8}
    (hformat : getBitsPerPixel format ∈ [32, 24, 16, 15, 8, 4, 1])
    (h : readColorBytes format src = readColorBytes format src') : src.getD 0 0 = src'.getD 0 0 := by
  have hlow : ∀ bytes : List UInt8, (bytes.getD 1 0).toNat <<< 8 ||| (bytes.getD 0 0).toNat =
      (bytes.getD 1 0).toNat * 2 ^ 8 + (bytes.getD 0 0).toNat := fun bytes =>
    shiftLeft_or_eq_add (UInt8.toNat_lt _) _
  -- the first byte on top of the colour, or at its bottom
  suffices hfirst : ∃ first : Nat → Nat, ∀ bytes : List UInt8,
      first (readColorBytes format bytes) = (bytes.getD 0 0).toNat by
    obtain ⟨first, hfirst⟩ := hfirst
    apply UInt8.toNat_inj.mp
    rw [← hfirst, ← hfirst, h]
  simp only [List.mem_cons, List.not_mem_nil, or_false] at hformat
  rcases hformat with hf | hf | hf | hf | hf | hf | hf
  · refine ⟨(· >>> 24), fun bytes => ?_⟩
    have hlast := shiftLeft_shiftRight_eq_zero (bytes.getD 3 0) (j := 0) (k := 24) (by decide)
    rw [Nat.shiftLeft_zero] at hlast
    rw [readColorBytes, hf]
    simp only [Nat.shiftRight_or_distrib]
    rw [Nat.shiftLeft_shiftRight, shiftLeft_shiftRight_eq_zero _ (by decide),
      shiftLeft_shiftRight_eq_zero _ (by decide), hlast, Nat.or_zero, Nat.or_zero, Nat.or_zero]
  · refine ⟨(· >>> 16), fun bytes => ?_⟩
    have hlast := shiftLeft_shiftRight_eq_zero (bytes.getD 2 0) (j := 0) (k := 16) (by decide)
    rw [Nat.shiftLeft_zero] at hlast
    rw [readColorBytes, hf]
    simp only [Nat.shiftRight_or_distrib]
    rw [Nat.shiftLeft_shiftRight, shiftLeft_shiftRight_eq_zero _ (by decide), hlast, Nat.or_zero,
      Nat.or_zero]
  · refine ⟨(· % 2 ^ 8), fun bytes => ?_⟩
    have hlt := (bytes.getD 0 0).toNat_lt
    rw [readColorBytes, hf]
    simp only [hlow]
    omega
  · refine ⟨(· % 2 ^ 8), fun bytes => ?_⟩
    have hlt := (bytes.getD 0 0).toNat_lt
    rw [readColorBytes, hf]
    simp only [hlow, show 0x7FFF = 2 ^ 15 - 1 from rfl, Nat.and_two_pow_sub_one_eq_mod]
    split <;> omega
  all_goals
    refine ⟨id, fun bytes => ?_⟩
    rw [readColorBytes, hf]
    rfl

end FreeRdp
