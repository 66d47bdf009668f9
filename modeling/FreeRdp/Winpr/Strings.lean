import Mathlib.Tactic

/-!
# Strings

Characters and the functions of the C library on strings. A string is a list of bytes without a zero.
-/

namespace FreeRdp

def TAB : UInt8 := 0x09
def LF : UInt8 := 0x0A
def CR : UInt8 := 0x0D
def SPACE : UInt8 := 0x20
def QUOTE : UInt8 := 0x22
def PLUS : UInt8 := 0x2B
def DASH : UInt8 := 0x2D
def SLASH : UInt8 := 0x2F
def COLON : UInt8 := 0x3A
def SEMICOLON : UInt8 := 0x3B
def EQUALS : UInt8 := 0x3D
def LBRACKET : UInt8 := 0x5B
def RBRACKET : UInt8 := 0x5D

/-- A space or a tab. -/
def isBlank (c : UInt8) : Bool := c = SPACE ∨ c = TAB

/-- `tolower`. -/
def toLower (c : UInt8) : UInt8 := if 0x41 ≤ c ∧ c ≤ 0x5A then c + 0x20 else c

/-- `_stricmp` finds no difference. -/
def stricmpEqual (s t : List UInt8) : Bool := s.map toLower = t.map toLower

/-- The string at a position of some bytes. -/
def cString (bytes : List UInt8) (i : Nat) : List UInt8 := (bytes.drop i).takeWhile (· ≠ 0)

/-- `strchr`. -/
def strchr (s : List UInt8) (c : UInt8) : Option Nat := s.findIdx? (· = c)

end FreeRdp
