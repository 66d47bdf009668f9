import FreeRdp.Library.Bits
import FreeRdp.Library.Copy
import FreeRdp.Winpr.Crt

/-!
# Base64

The encoder and the decoder of `base64.c`. The encoder writes through a pointer that only moves on,
so its output is a list. The decoder reads the characters from a memory `s`, and counts those it
has read; it writes to the memory that starts at its allocation.
-/

namespace FreeRdp

/-! ### Encoding -/

/-- `base64`: the character for six bits. -/
def base64 (n : Nat) : UInt8 :=
  ("ABCDEFGHIJKLMNOPQRSTUVWXYZabcdefghijklmnopqrstuvwxyz0123456789+/".toList.getD n '0').toUInt8

/-- The size that `crypto_base64_encode` allocates, computed as an `int`. -/
def encodeSize (length : Nat) : Int := Int.tdiv (Int.bmod ((length + 3) * 4) (2 ^ 32)) 3 + 1

/-- The complete blocks, then the remainder. -/
def encodeBlocks : List UInt8 → List UInt8
  | q0 :: q1 :: q2 :: q =>
    let c := q0.toNat <<< 16 + q1.toNat <<< 8 + q2.toNat
    base64 ((c &&& 0x00FC0000) >>> 18) :: base64 ((c &&& 0x0003F000) >>> 12) ::
      base64 ((c &&& 0x00000FC0) >>> 6) :: base64 (c &&& 0x0000003F) :: encodeBlocks q
  | [q0, q1] =>
    let c := q0.toNat <<< 16 + q1.toNat <<< 8
    [base64 ((c &&& 0x00FC0000) >>> 18), base64 ((c &&& 0x0003F000) >>> 12),
      base64 ((c &&& 0x00000FC0) >>> 6), '='.toUInt8]
  | [q0] =>
    let c := q0.toNat <<< 16
    [base64 ((c &&& 0x00FC0000) >>> 18), base64 ((c &&& 0x0003F000) >>> 12), '='.toUInt8,
      '='.toUInt8]
  | [] => []

/-- `crypto_base64_encode`: what is in the allocation, with the terminator. -/
def cryptoBase64Encode (malloc : Malloc) (data : List UInt8) : Option (List UInt8) :=
  if malloc.succeeds (reallocSize 1 (encodeSize data.length)) then some (encodeBlocks data ++ [0])
  else none

/-! ### Decoding -/

/-- `base64_decode_char`, where -1 is `none`. A `char` above 127 is negative. -/
def base64DecodeChar (c : UInt8) : Option Nat :=
  if 'A'.toUInt8 ≤ c ∧ c ≤ 'Z'.toUInt8 then some (c.toNat - 'A'.toNat)
  else if 'a'.toUInt8 ≤ c ∧ c ≤ 'z'.toUInt8 then some (c.toNat - 'a'.toNat + 26)
  else if '0'.toUInt8 ≤ c ∧ c ≤ '9'.toUInt8 then some (c.toNat - '0'.toNat + 52)
  else if c = '+'.toUInt8 then some 62
  else if c = '/'.toUInt8 then some 63
  else none

/-- The variables of `base64_decode`: the index in `s` of the next character, the index `q` in
`data`, the memory from `data` on. -/
structure Decoder where
  s : Nat
  q : Nat
  outputLen : Nat
  data : Nat → UInt8

/-- A complete block, and whether its characters are valid. -/
def decodeBlock (s : Nat → UInt8) (d : Decoder) : Decoder × Bool :=
  let d' := { d with s := d.s + 4 }
  match base64DecodeChar (s d.s), base64DecodeChar (s (d.s + 1)), base64DecodeChar (s (d.s + 2)),
    base64DecodeChar (s (d.s + 3)) with
  | some n0, some n1, some n2, some n3 =>
    ({ d' with
        q := d.q + 3
        outputLen := d.outputLen + 3
        data := writeList d.data d.q [UInt8.ofNat (n0 <<< 2 + n1 >>> 4),
          UInt8.ofNat ((n1 &&& 15) <<< 4 + n2 >>> 2), UInt8.ofNat ((n2 &&& 3) <<< 6 + n3)] }, true)
  | _, _, _, _ => (d', false)

/-- The loop over the complete blocks. -/
def decodeBlocks (s : Nat → UInt8) : Nat → Decoder → Decoder × Bool
  | 0, d => (d, true)
  | blocks + 1, d =>
    match decodeBlock s d with
    | (d, true) => decodeBlocks s blocks d
    | (d, false) => (d, false)

/-- The last block, and whether it is accepted. -/
def decodeLast (s : Nat → UInt8) (d : Decoder) : Decoder × Bool :=
  match base64DecodeChar (s d.s), base64DecodeChar (s (d.s + 1)) with
  | some n0, some n1 =>
    let d' := { d with s := d.s + 4 }
    let q0 := UInt8.ofNat (n0 <<< 2 + n1 >>> 4)
    match base64DecodeChar (s (d.s + 2)), base64DecodeChar (s (d.s + 3)) with
    | none, some _ =>
      ({ d' with outputLen := d.outputLen + 1, data := writeList d.data d.q [q0] }, false)
    | none, none =>
      ({ d' with
          outputLen := d.outputLen + 1
          data := writeList d.data d.q [q0, UInt8.ofNat ((n1 &&& 15) <<< 4)] }, true)
    | some n2, none =>
      ({ d' with
          outputLen := d.outputLen + 2
          data := writeList d.data d.q [q0, UInt8.ofNat ((n1 &&& 15) <<< 4 + n2 >>> 2),
            UInt8.ofNat ((n2 &&& 3) <<< 6)] }, true)
    | some n2, some n3 =>
      ({ d' with
          outputLen := d.outputLen + 3
          data := writeList d.data d.q [q0, UInt8.ofNat ((n1 &&& 15) <<< 4 + n2 >>> 2),
            UInt8.ofNat ((n2 &&& 3) <<< 6 + n3)] }, true)
  | _, _ => ({ d with s := d.s + 2 }, false)

/-- All blocks. -/
def decodeAll (s : Nat → UInt8) (blocks : Nat) (d : Decoder) : Decoder × Bool :=
  match decodeBlocks s blocks d with
  | (d, true) => decodeLast s d
  | (d, false) => (d, false)

lemma decodeAll_zero (s : Nat → UInt8) (d : Decoder) : decodeAll s 0 d = decodeLast s d := rfl

lemma decodeAll_succ (s : Nat → UInt8) (blocks : Nat) (d : Decoder) :
    decodeAll s (blocks + 1) d =
      match decodeBlock s d with
      | (d, true) => decodeAll s blocks d
      | (d, false) => (d, false) := by
  rw [decodeAll, decodeBlocks]
  rcases decodeBlock s d with ⟨d', _ | _⟩ <;> rfl

/-- What `base64_decode` comes to: how many characters it has read, and, unless it returns `NULL`,
the memory from its result on and the length it stores. -/
structure Base64Result where
  reads : Nat
  result : Option ((Nat → UInt8) × Nat)

/-- `base64_decode`. The allocation starts at the beginning of the memory `m`. -/
def base64Decode (malloc : Malloc) (m : Nat → UInt8) (s : Nat → UInt8) (length : Int) :
    Base64Result :=
  if Int.tmod length 4 ≠ 0 then ⟨0, none⟩
  else if malloc.succeeds (reallocSize 1 (Int.tdiv length 4 * 3 + 1)) then
    match decodeAll s (Int.tdiv length 4 - 1).toNat ⟨0, 0, 0, m⟩ with
    | (d, true) => ⟨d.s, some (Function.update d.data d.outputLen 0, d.outputLen)⟩
    | (d, false) => ⟨d.s, none⟩
  else ⟨0, none⟩

/-- `crypto_base64_decode`. -/
def cryptoBase64Decode (malloc : Malloc) (m : Nat → UInt8) (encData : Nat → UInt8) (length : Int) :
    Base64Result :=
  base64Decode malloc m encData length

end FreeRdp
