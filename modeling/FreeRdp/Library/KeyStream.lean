import Mathlib.Tactic

/-!
# Key streams

A stream cipher adds a key stream to the data, byte by byte, and goes on in the stream where it
stopped. Adding the same part of the stream once more gives the data back.
-/

namespace FreeRdp

/-- The bytes `data` with the key stream from place `pos` on added to them. -/
def xorStream (stream : Nat → UInt8) : Nat → List UInt8 → List UInt8
  | _, [] => []
  | pos, b :: data => (b ^^^ stream pos) :: xorStream stream (pos + 1) data

@[simp] lemma length_xorStream (stream : Nat → UInt8) (pos : Nat) (data : List UInt8) :
    (xorStream stream pos data).length = data.length := by
  induction data generalizing pos with
  | nil => rfl
  | cons b data ih => rw [xorStream, List.length_cons, List.length_cons, ih]

@[simp] lemma xorStream_xorStream (stream : Nat → UInt8) (pos : Nat) (data : List UInt8) :
    xorStream stream pos (xorStream stream pos data) = data := by
  induction data generalizing pos with
  | nil => rfl
  | cons b data ih => rw [xorStream, xorStream, ih, UInt8.xor_assoc, UInt8.xor_self, UInt8.xor_zero]

end FreeRdp
