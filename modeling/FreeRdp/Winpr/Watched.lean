import FreeRdp.Library.Attempts
import FreeRdp.Winpr.Stream

/-!
# Watched streams

A parser in C may read bytes that are not there, compute a length that is negative, or fail an
assertion. On a watched stream each of these is a fault: it is recorded, and the parser ends. A
parser that fails without a fault has returned `FALSE`.
-/

namespace FreeRdp

/-- What a parser does wrong. -/
inductive StreamFault where
  | outside (offset count : Nat)
  | negative (length : Int)
  | assertion
  deriving DecidableEq, Repr

/-- A stream, and what has gone wrong on it. -/
structure WatchedStream where
  stream : WStream
  fault : Option StreamFault
  deriving DecidableEq, Repr

namespace WatchedStream

/-- A position in some bytes, nothing having gone wrong. -/
def place (bytes : List UInt8) (pos : Nat) : WatchedStream := ⟨⟨bytes, pos⟩, none⟩

variable {α : Type}

/-- A fault, unless the condition holds. -/
def expect (c : Bool) (fault : StreamFault) : Attempt WatchedStream Unit := fun s =>
  if c then (some (), s) else (none, { s with fault := some fault })

/-- `assert`. -/
def assert (c : Bool) : Attempt WatchedStream Unit := expect c .assertion

/-- A length that is computed with signed numbers, or would wrap. -/
def computed (length : Int) : Attempt WatchedStream Nat := do
  expect (0 ≤ length) (.negative length)
  pure length.toNat

/-- `n` bytes at the given place are read. -/
def touch (pos n : Nat) : Attempt WatchedStream Unit := fun s =>
  expect (pos + n ≤ s.stream.buffer.length) (.outside pos n) s

/-- `n` bytes are read with one of the macros of the stream. -/
def take (n : Nat) (read : WStream → α × WStream) : Attempt WatchedStream α := do
  touch (← Attempt.gets fun s => s.stream.pos) n
  fun s => (some (read s.stream).1, { s with stream := (read s.stream).2 })

/-- `Stream_Read_UINT8`. -/
def takeUInt8 : Attempt WatchedStream Nat := take 1 WStream.readUInt8

/-- `Stream_Read_UINT16`. -/
def takeUInt16 : Attempt WatchedStream Nat := take 2 WStream.readUInt16

/-- `Stream_Read_UINT32`. -/
def takeUInt32 : Attempt WatchedStream Nat := take 4 WStream.readUInt32

/-- `Stream_Read`. -/
def takeBytes (n : Nat) : Attempt WatchedStream (List UInt8) := take n (WStream.read · n)

/-- The check that `n` bytes are left. -/
def need (n : Nat) : Attempt WatchedStream Unit := fun s =>
  Attempt.require (n ≤ s.stream.remainingLength) s

/-- `Stream_SafeSeek`. -/
def safeSeek (n : Nat) : Attempt WatchedStream Unit := do
  need n
  Attempt.modify fun s => { s with stream := s.stream.seek n }

/-- `Stream_SetPosition`. -/
def setPosition (pos : Nat) : Attempt WatchedStream Unit :=
  Attempt.modify fun s => { s with stream := s.stream.setPosition pos }

/-! ### One step -/

section Steps

variable {β : Type} {bytes : List UInt8} {pos n : Nat} {R : β → WatchedStream → Prop}
  {E : WatchedStream → Prop}

@[simp] lemma place_fault : (place bytes pos).fault = none := rfl

@[simp] lemma place_pos : (place bytes pos).stream.pos = pos := rfl

@[simp] lemma place_buffer : (place bytes pos).stream.buffer = bytes := rfl

/-! The steps that go well. -/

lemma expect_apply {c : Bool} (h : c = true) (fault : StreamFault) (s : WatchedStream) :
    expect c fault s = (some (), s) := by
  rw [expect, if_pos h]

lemma computed_apply {length : Int} (h : 0 ≤ length) (s : WatchedStream) :
    computed length s = (some length.toNat, s) :=
  Attempt.bind_apply_some (expect_apply (decide_eq_true h) _ s)

lemma need_apply (h : n ≤ bytes.length - pos) :
    need n (place bytes pos) = (some (), place bytes pos) := by
  have hn : n ≤ (place bytes pos).stream.remainingLength := h
  rw [need, Attempt.require, if_pos (decide_eq_true hn)]

lemma touch_apply {i : Nat} (h : i + n ≤ bytes.length) :
    touch i n (place bytes pos) = (some (), place bytes pos) :=
  expect_apply (decide_eq_true h) _ _

lemma take_apply {read : WStream → α × WStream} (h : pos + n ≤ bytes.length)
    (hread : (read ⟨bytes, pos⟩).2 = ⟨bytes, pos + n⟩) :
    take n read (place bytes pos) = (some (read ⟨bytes, pos⟩).1, place bytes (pos + n)) := by
  have htouch : touch pos n (place bytes pos) = (some (), place bytes pos) := touch_apply h
  show Attempt.andThen (touch pos n) _ (place bytes pos) = _
  simp only [Attempt.andThen, htouch]
  simp only [place, hread]

lemma safeSeek_apply (h : n ≤ bytes.length - pos) :
    safeSeek n (place bytes pos) = (some (), place bytes (pos + n)) :=
  Attempt.bind_apply_some (need_apply h)

/-! And those that do not. -/

lemma expect_fails {c : Bool} (h : c = false) (fault : StreamFault) (s : WatchedStream) :
    expect c fault s = (none, { s with fault := some fault }) := by
  rw [expect, h]
  rfl

lemma computed_fails {length : Int} (h : length < 0) (s : WatchedStream) :
    computed length s = (none, { s with fault := some (.negative length) }) :=
  Attempt.bind_apply_none (expect_fails (decide_eq_false (by omega)) _ s)

lemma need_fails (h : bytes.length - pos < n) :
    need n (place bytes pos) = (none, place bytes pos) := by
  have hn : ¬ n ≤ (place bytes pos).stream.remainingLength := Nat.not_le.mpr h
  rw [need, Attempt.require, decide_eq_false hn]
  rfl

lemma safeSeek_fails (h : bytes.length - pos < n) :
    safeSeek n (place bytes pos) = (none, place bytes pos) :=
  Attempt.bind_apply_none (need_fails h)

lemma take_fails {read : WStream → α × WStream} (h : bytes.length < pos + n) :
    take n read (place bytes pos) =
      (none, { place bytes pos with fault := some (.outside pos n) }) := by
  have htouch : touch pos n (place bytes pos) =
      (none, { place bytes pos with fault := some (.outside pos n) }) :=
    expect_fails (decide_eq_false (Nat.not_le.mpr h)) _ _
  show Attempt.andThen (touch pos n) _ (place bytes pos) = _
  simp only [Attempt.andThen, htouch]

/-! What an attempt meets that begins with a step. -/

lemma meets_bind_some {m : Attempt WatchedStream α} {f : α → Attempt WatchedStream β} {a : α}
    {s s' : WatchedStream} (h : m s = (some a, s')) :
    (m >>= f).Meets s R E ↔ (f a).Meets s' R E := by
  unfold Attempt.Meets
  rw [Attempt.bind_apply_some h]

lemma meets_bind_none {m : Attempt WatchedStream α} {f : α → Attempt WatchedStream β}
    {s s' : WatchedStream} (h : m s = (none, s')) : (m >>= f).Meets s R E ↔ E s' := by
  unfold Attempt.Meets
  rw [Attempt.bind_apply_none h]

lemma meets_expect_bind {c : Bool} {fault : StreamFault} {k : Unit → Attempt WatchedStream β}
    {s : WatchedStream} (h : c = true → (k ()).Meets s R E)
    (h' : c = false → E { s with fault := some fault }) : (expect c fault >>= k).Meets s R E := by
  cases c with
  | true => exact h rfl
  | false => exact h' rfl

lemma meets_computed_bind {length : Int} {k : Nat → Attempt WatchedStream β} {s : WatchedStream}
    (h : 0 ≤ length → (k length.toNat).Meets s R E)
    (h' : length < 0 → E { s with fault := some (.negative length) }) :
    (computed length >>= k).Meets s R E := by
  by_cases hlength : 0 ≤ length
  · exact (meets_bind_some (computed_apply hlength s)).mpr (h hlength)
  · exact (meets_bind_none (computed_fails (by omega) s)).mpr (h' (by omega))

lemma meets_setPosition_bind {pos' : Nat} {k : Unit → Attempt WatchedStream β}
    (h : (k ()).Meets (place bytes pos') R E) :
    (setPosition pos' >>= k).Meets (place bytes pos) R E := h

lemma meets_need_bind {k : Unit → Attempt WatchedStream β}
    (h : n ≤ bytes.length - pos → (k ()).Meets (place bytes pos) R E)
    (h' : bytes.length - pos < n → E (place bytes pos)) :
    (need n >>= k).Meets (place bytes pos) R E := by
  by_cases hn : n ≤ bytes.length - pos
  · exact (meets_bind_some (need_apply hn)).mpr (h hn)
  · exact (meets_bind_none (need_fails (by omega))).mpr (h' (by omega))

lemma meets_touch {i : Nat} {Q : Unit → WatchedStream → Prop} (hn : i + n ≤ bytes.length)
    (h : Q () (place bytes pos)) : (touch i n).Meets (place bytes pos) Q E := by
  rw [Attempt.Meets, touch_apply hn]
  exact h

lemma meets_take_bind {read : WStream → α × WStream} {k : α → Attempt WatchedStream β}
    (hn : pos + n ≤ bytes.length) (hread : (read ⟨bytes, pos⟩).2 = ⟨bytes, pos + n⟩)
    (h : (k (read ⟨bytes, pos⟩).1).Meets (place bytes (pos + n)) R E) :
    (take n read >>= k).Meets (place bytes pos) R E :=
  (meets_bind_some (take_apply hn hread)).mpr h

lemma meets_takeUInt8_bind {k : Nat → Attempt WatchedStream β} (hn : pos + 1 ≤ bytes.length)
    (h : (k (bytes.getD pos 0).toNat).Meets (place bytes (pos + 1)) R E) :
    (takeUInt8 >>= k).Meets (place bytes pos) R E :=
  meets_take_bind hn rfl h

lemma meets_takeUInt16_bind {k : Nat → Attempt WatchedStream β} (hn : pos + 2 ≤ bytes.length)
    (h : (k (WStream.readUInt16 ⟨bytes, pos⟩).1).Meets (place bytes (pos + 2)) R E) :
    (takeUInt16 >>= k).Meets (place bytes pos) R E :=
  meets_take_bind hn rfl h

lemma meets_takeUInt32_bind {k : Nat → Attempt WatchedStream β} (hn : pos + 4 ≤ bytes.length)
    (h : (k (WStream.readUInt32 ⟨bytes, pos⟩).1).Meets (place bytes (pos + 4)) R E) :
    (takeUInt32 >>= k).Meets (place bytes pos) R E :=
  meets_take_bind hn rfl h

lemma meets_takeBytes_bind {k : List UInt8 → Attempt WatchedStream β}
    (hn : pos + n ≤ bytes.length)
    (h : (k ((bytes.drop pos).take n)).Meets (place bytes (pos + n)) R E) :
    (takeBytes n >>= k).Meets (place bytes pos) R E :=
  meets_take_bind hn rfl h

end Steps

-- from here on the steps are known by their lemmas alone
attribute [irreducible] expect computed touch take need safeSeek

end WatchedStream

end FreeRdp
