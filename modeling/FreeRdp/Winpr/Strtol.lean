import Mathlib.Tactic

/-!
# Numbers in texts

`strtoul` and `strtol` of the C library, with the base taken from the text where it is 0.
-/

namespace FreeRdp

/-- `isspace`. -/
def isSpace (c : UInt8) : Bool := c = 32 ∨ 9 ≤ c.toNat ∧ c.toNat ≤ 13

/-- The sign that a text may begin with. -/
def strtoulSign (s : List UInt8) : Bool × List UInt8 :=
  match s with
  | [] => (false, [])
  | c :: s => if c = 43 then (false, s) else if c = 45 then (true, s) else (false, c :: s)

/-- The value of a digit of a base up to 16. -/
def digitValue (base : Nat) (c : UInt8) : Option Nat :=
  let n := c.toNat
  let value := if 48 ≤ n ∧ n ≤ 57 then n - 48
    else if 65 ≤ n ∧ n ≤ 70 then n - 55
    else if 97 ≤ n ∧ n ≤ 102 then n - 87
    else base
  if value < base then some value else none

/-- The digits at the front of a text, behind those with the value `v`. -/
def digitsValue (base v : Nat) : List UInt8 → Nat
  | [] => v
  | c :: cs =>
    match digitValue base c with
    | some d => digitsValue base (v * base + d) cs
    | none => v

/-- A number with the base that it shows, if there is one. -/
def unsignedBase0 (s : List UInt8) : Option Nat :=
  match s with
  | 48 :: x :: d :: s =>
    if (x = 88 ∨ x = 120) ∧ (digitValue 16 d).isSome then some (digitsValue 16 0 (d :: s))
    else some (digitsValue 8 0 (x :: d :: s))
  | 48 :: s => some (digitsValue 8 0 s)
  | c :: s => if (digitValue 10 c).isSome then some (digitsValue 10 0 (c :: s)) else none
  | [] => none

/-- The sign and the number that a string begins with, if it begins with one. -/
def signedBase0 (s : List UInt8) : Option (Bool × Nat) :=
  let (negative, s) := strtoulSign ((s.takeWhile (· ≠ 0)).dropWhile isSpace)
  (unsignedBase0 s).map fun v => (negative, v)

/-- `strtoul(s, NULL, 0)`, `none` when it sets `errno`. -/
def strtoul0 (s : List UInt8) : Option Nat :=
  match signedBase0 s with
  | none => some 0
  | some (negative, v) =>
    if 2 ^ 64 ≤ v then none else some (if negative then (2 ^ 64 - v) % 2 ^ 64 else v)

end FreeRdp
