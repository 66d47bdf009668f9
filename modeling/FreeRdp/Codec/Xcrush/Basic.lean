import FreeRdp.Library.Copy
import FreeRdp.Winpr.Endian

/-!
# XCRUSH level-1 decompression

`xcrush_decompress_l1` of `codec/xcrush.c`. The history buffer and the source lie somewhere in one
memory, apart from each other, and pointers are addresses of it. An access outside of them, a
`memcpy` between overlapping cells and a modulus of zero stop the function.
-/

namespace FreeRdp

def L1_PACKET_AT_FRONT : Nat := 0x04
def L1_NO_COMPRESSION : Nat := 0x02
def L1_COMPRESSED : Nat := 0x01

/-- `HistoryBufferSize` of `xcrush_context_new`, the size of the array `HistoryBuffer`. -/
def XCRUSH_HISTORY_SIZE : Nat := 2000000

/-- `XCRUSH_CONTEXT`, the part of level-1 decompression. -/
structure XcrushContext where
  historyBuffer : Nat → UInt8
  historyOffset : Nat

/-- `RDP61_MATCH_DETAILS`. -/
structure MatchDetails where
  matchLength : Nat
  matchOutputOffset : Nat
  matchHistoryOffset : Nat
  deriving DecidableEq, Repr

/-- Where the history buffer and the source lie. -/
structure XcrushLayout (srcSize : Nat) where
  historyBuffer : Nat
  srcData : Nat
  apart : historyBuffer + XCRUSH_HISTORY_SIZE ≤ srcData ∨ srcData + srcSize ≤ historyBuffer

/-- Why `xcrush_decompress_l1` ends early: with a status, or in something undefined. -/
inductive XcrushStop where
  | status (code : Int)
  | outOfBounds
  | overlap
  | zeroModulus
  deriving DecidableEq, Repr

variable {srcSize : Nat}

namespace XcrushLayout

/-- `HistoryBufferEnd`. -/
def historyBufferEnd (l : XcrushLayout srcSize) : Nat := l.historyBuffer + XCRUSH_HISTORY_SIZE

/-- `pSrcEnd`. -/
def srcEnd (l : XcrushLayout srcSize) : Nat := l.srcData + srcSize

/-- The `n` cells from `a` on belong to the history buffer. -/
def Writable (l : XcrushLayout srcSize) (a n : Nat) : Prop :=
  n = 0 ∨ l.historyBuffer ≤ a ∧ a + n ≤ l.historyBufferEnd

/-- The `n` cells from `a` on belong to the history buffer or to the source. -/
def Readable (l : XcrushLayout srcSize) (a n : Nat) : Prop :=
  l.Writable a n ∨ l.srcData ≤ a ∧ a + n ≤ l.srcEnd

instance (l : XcrushLayout srcSize) (a n : Nat) : Decidable (l.Writable a n) :=
  inferInstanceAs (Decidable (_ ∨ _))

instance (l : XcrushLayout srcSize) (a n : Nat) : Decidable (l.Readable a n) :=
  inferInstanceAs (Decidable (_ ∨ _))

/-- The memory with a history and a source. -/
def memory (l : XcrushLayout srcSize) (history : Nat → UInt8) (src : List UInt8) : Nat → UInt8 :=
  fun a =>
    if l.historyBuffer ≤ a ∧ a < l.historyBufferEnd then history (a - l.historyBuffer)
    else src.getD (a - l.srcData) 0

end XcrushLayout

/-! ### Copying -/

/-- What is known while `xcrush_decompress_l1` runs; where it stops, the memory is kept. -/
abbrev XcrushRun (α : Type) := Except (XcrushStop × (Nat → UInt8)) α

/-- `memcpy`. -/
def xcrushMemcpy (l : XcrushLayout srcSize) (memory : Nat → UInt8) (dst src num : Nat) :
    XcrushRun (Nat → UInt8) :=
  if ¬l.Writable dst num ∨ ¬l.Readable src num then .error (.outOfBounds, memory)
  else if src < dst + num ∧ dst < src + num then .error (.overlap, memory)
  else .ok (copyBlock memory src dst num)

/-- `xcrush_copy_bytes`. -/
def xcrushCopyBytes (l : XcrushLayout srcSize) (memory : Nat → UInt8) (dst src num : Nat) :
    XcrushRun (Nat → UInt8) :=
  if src + num < dst ∨ src > dst + num then xcrushMemcpy l memory dst src num
  else
    let diff := if dst > src then dst - src else src - dst
    if diff = 0 then .error (.zeroModulus, memory)
    else do
      let rest := num % diff
      let last := num - rest
      let memory ← (List.range (last / diff)).foldlM (fun memory k =>
        xcrushMemcpy l memory (dst + k * diff) (src + k * diff) diff) memory
      if rest ≠ 0 then xcrushMemcpy l memory (dst + last) (src + last) rest else .ok memory

/-! ### Decompression -/

/-- The variables of `xcrush_decompress_l1`, with the memory. -/
structure XcrushL1 where
  memory : Nat → UInt8
  historyPtr : Nat
  literals : Nat
  outputOffset : Nat

/-- A check that returns a status. -/
def XcrushL1.refuse (s : XcrushL1) (c : Prop) [Decidable c] (code : Int) : XcrushRun Unit :=
  if c then .error (.status code, s.memory) else .ok ()

/-- Literals are copied to the history. -/
def XcrushL1.copyLiterals (l : XcrushLayout srcSize) (s : XcrushL1) (outputLength : Nat) :
    XcrushRun XcrushL1 := do
  let memory ← xcrushCopyBytes l s.memory s.historyPtr s.literals outputLength
  .ok {
    memory := memory
    historyPtr := s.historyPtr + outputLength
    literals := s.literals + outputLength
    outputOffset := s.outputOffset + outputLength }

/-- The literals in front of a match. -/
def xcrushLiterals (l : XcrushLayout srcSize) (s : XcrushL1) (outputLength : Nat) :
    XcrushRun XcrushL1 :=
  if outputLength > 0 then do
    s.refuse (s.historyPtr + outputLength ≥ l.historyBufferEnd ∨ s.literals ≥ l.srcEnd ∨
      s.literals + outputLength > l.srcEnd) (-1009)
    let s ← s.copyLiterals l outputLength
    s.refuse (s.literals > l.srcEnd) (-1010)
    .ok s
  else .ok s

/-- A match that has been read. -/
def xcrushMatch (l : XcrushLayout srcSize) (s : XcrushL1) (m : MatchDetails) :
    XcrushRun XcrushL1 := do
  s.refuse (m.matchOutputOffset < s.outputOffset) (-1005)
  s.refuse (m.matchLength > XCRUSH_HISTORY_SIZE) (-1006)
  s.refuse (m.matchHistoryOffset > XCRUSH_HISTORY_SIZE) (-1007)
  let outputLength := m.matchOutputOffset - s.outputOffset
  s.refuse (outputLength > XCRUSH_HISTORY_SIZE) (-1008)
  let s ← xcrushLiterals l s outputLength
  let outputPtr := l.historyBuffer + m.matchHistoryOffset
  s.refuse (s.historyPtr + m.matchLength ≥ l.historyBufferEnd ∨
    outputPtr + m.matchLength ≥ l.historyBufferEnd) (-1011)
  let memory ← xcrushCopyBytes l s.memory s.historyPtr outputPtr m.matchLength
  .ok { s with
    memory := memory
    outputOffset := s.outputOffset + m.matchLength
    historyPtr := s.historyPtr + m.matchLength }

/-- The details at an address. -/
def dataReadMatch (memory : Nat → UInt8) (a : Nat) : MatchDetails where
  matchLength := dataReadUInt16 memory a
  matchOutputOffset := dataReadUInt16 memory (a + 2)
  matchHistoryOffset := dataReadUInt32 memory (a + 4)

/-- The loop over `count` matches with their details from `details` on. -/
def xcrushMatches (l : XcrushLayout srcSize) : Nat → Nat → XcrushL1 → XcrushRun XcrushL1
  | 0, _, s => .ok s
  | count + 1, details, s =>
    if l.Readable details 8 then do
      let s ← xcrushMatch l s (dataReadMatch s.memory details)
      xcrushMatches l count (details + 8) s
    else .error (.outOfBounds, s.memory)

/-- The matches of a compressed packet. -/
def xcrushCompressed (l : XcrushLayout srcSize) (s : XcrushL1) (flags : Nat) :
    XcrushRun XcrushL1 := do
  s.refuse (flags &&& L1_COMPRESSED = 0) (-1002)
  s.refuse (l.srcData + 2 > l.srcEnd) (-1003)
  let matchCount := dataReadUInt16 s.memory l.srcData
  let details := l.srcData + 2
  let literals := details + 8 * matchCount
  s.refuse (literals > l.srcEnd) (-1004)
  xcrushMatches l matchCount details { s with literals := literals }

/-- The literals behind the last match. -/
def xcrushTrailing (l : XcrushLayout srcSize) (s : XcrushL1) : XcrushRun XcrushL1 :=
  if s.literals < l.srcEnd then do
    let outputLength := l.srcEnd - s.literals
    s.refuse (s.historyPtr + outputLength ≥ l.historyBufferEnd ∨
      s.literals + outputLength > l.srcEnd) (-1012)
    s.copyLiterals l outputLength
  else .ok s

/-- What `xcrush_decompress_l1` does to the memory. -/
def xcrushRunL1 (l : XcrushLayout srcSize) (s : XcrushL1) (flags : Nat) : XcrushRun XcrushL1 := do
  let s ← if flags &&& L1_NO_COMPRESSION ≠ 0 then .ok s else xcrushCompressed l s flags
  xcrushTrailing l s

/-- The context with a packet at the front. -/
def xcrushAtFront (xcrush : XcrushContext) (flags : Nat) : XcrushContext :=
  if flags &&& L1_PACKET_AT_FRONT ≠ 0 then { xcrush with historyOffset := 0 } else xcrush

/-- `xcrush_decompress_l1`: the slice of the history that is returned, or why there is none, and the
context. -/
def xcrushDecompressL1 (src : List UInt8) (l : XcrushLayout src.length) (xcrush : XcrushContext)
    (flags : Nat) : Except XcrushStop (List UInt8) × XcrushContext :=
  if src.length < 1 then (.error (.status (-1001)), xcrush)
  else
    let xcrush := xcrushAtFront xcrush flags
    let start := l.historyBuffer + xcrush.historyOffset
    match xcrushRunL1 l ⟨l.memory xcrush.historyBuffer src, start, l.srcData, 0⟩ flags with
    | .error (stop, memory) =>
      (.error stop, { xcrush with historyBuffer := fun i => memory (l.historyBuffer + i) })
    | .ok s =>
      (.ok (readList s.memory start (s.historyPtr - start)), {
        historyBuffer := fun i => s.memory (l.historyBuffer + i)
        historyOffset := s.historyPtr - l.historyBuffer })

end FreeRdp
