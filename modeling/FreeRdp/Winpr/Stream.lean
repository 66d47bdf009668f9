import FreeRdp.Library.Bits

/-!
# Byte streams

`wStream` is a byte buffer with a current position. The readers below are the macros of
`winpr/stream.h`: they take the bytes at the position, in little or big endian order, and move
past them. As in the source a reader does not check the remaining length itself; every function
that uses one makes that check first.
-/

namespace FreeRdp

/-- `wStream`, sealed: the buffer holds exactly the stream's `length` bytes. -/
structure WStream where
  buffer : List UInt8
  pos : Nat
  deriving DecidableEq, Repr

namespace WStream

/-- `Stream_StaticInit`. -/
def ofBytes (bytes : List UInt8) : WStream := ⟨bytes, 0⟩

/-- `Stream_GetRemainingLength`. -/
def remainingLength (s : WStream) : Nat := s.buffer.length - s.pos

/-- The byte `i` places after the current position. -/
def byteAt (s : WStream) (i : Nat) : Nat := (s.buffer.getD (s.pos + i) 0).toNat

/-- `Stream_Seek`. -/
def seek (s : WStream) (n : Nat) : WStream := { s with pos := s.pos + n }

/-- `Stream_Rewind`. -/
def rewind (s : WStream) (n : Nat) : WStream := { s with pos := s.pos - n }

/-- `Stream_SafeSeek`. -/
def safeSeek (s : WStream) (n : Nat) : Option WStream :=
  if s.remainingLength < n then none else some (s.seek n)

/-- `Stream_Read_UINT8`. -/
def readUInt8 (s : WStream) : Nat × WStream := (s.byteAt 0, s.seek 1)

/-- `Stream_Read_UINT16`. -/
def readUInt16 (s : WStream) : Nat × WStream :=
  (s.byteAt 0 + s.byteAt 1 <<< 8, s.seek 2)

/-- `Stream_Read_UINT16_BE`. -/
def readUInt16BE (s : WStream) : Nat × WStream :=
  (s.byteAt 0 <<< 8 + s.byteAt 1, s.seek 2)

/-- `Stream_Read_UINT32`. -/
def readUInt32 (s : WStream) : Nat × WStream :=
  (s.byteAt 0 + s.byteAt 1 <<< 8 + s.byteAt 2 <<< 16 + s.byteAt 3 <<< 24, s.seek 4)

/-- `Stream_Read_UINT32_BE`. -/
def readUInt32BE (s : WStream) : Nat × WStream :=
  (s.byteAt 0 <<< 24 + s.byteAt 1 <<< 16 + s.byteAt 2 <<< 8 + s.byteAt 3, s.seek 4)

/-- `Stream_Read`: the next `n` bytes. -/
def read (s : WStream) (n : Nat) : List UInt8 × WStream :=
  ((s.buffer.drop s.pos).take n, s.seek n)

/-- `Stream_Write`: the bytes at the position are overwritten, and the length grows where they go
beyond it. -/
def write (s : WStream) (bytes : List UInt8) : WStream where
  buffer := s.buffer.take s.pos ++ bytes ++ s.buffer.drop (s.pos + bytes.length)
  pos := s.pos + bytes.length

/-- `Stream_SetPosition`. -/
def setPosition (s : WStream) (pos : Nat) : WStream := { s with pos := pos }

/-- The bytes from the current position on. -/
def unread (s : WStream) : List UInt8 := s.buffer.drop s.pos

lemma remainingLength_eq (s : WStream) : s.remainingLength = s.unread.length := by
  simp [remainingLength, unread]

lemma byteAt_eq (s : WStream) (i : Nat) : s.byteAt i = (s.unread.getD i 0).toNat := by
  simp only [byteAt, unread, List.getD_eq_getElem?_getD, List.getElem?_drop]

@[simp] lemma unread_seek (s : WStream) (n : Nat) : (s.seek n).unread = s.unread.drop n := by
  simp [seek, unread, List.drop_drop]

@[simp] lemma unread_ofBytes (bytes : List UInt8) : (ofBytes bytes).unread = bytes := by
  simp [ofBytes, unread]

@[simp] lemma pos_ofBytes (bytes : List UInt8) : (ofBytes bytes).pos = 0 := rfl

@[simp] lemma pos_seek (s : WStream) (n : Nat) : (s.seek n).pos = s.pos + n := rfl

lemma seek_seek (s : WStream) (m n : Nat) : (s.seek m).seek n = s.seek (m + n) := by
  simp [seek, Nat.add_assoc]

lemma remainingLength_seek (s : WStream) (n : Nat) :
    (s.seek n).remainingLength = s.remainingLength - n := by
  simp only [remainingLength, seek]
  omega

lemma remainingLength_of_unread {s : WStream} {bytes rest : List UInt8}
    (h : s.unread = bytes ++ rest) : s.remainingLength = bytes.length + rest.length := by
  rw [remainingLength_eq, h, List.length_append]

end WStream

/-- The bytes `Stream_Write_UINT8` writes. -/
def bytesUInt8 (v : Nat) : List UInt8 := [UInt8.ofNat v]

/-- The bytes `Stream_Write_UINT16` writes. -/
def bytesUInt16 (v : Nat) : List UInt8 := [UInt8.ofNat v, UInt8.ofNat (v >>> 8)]

/-- The bytes `Stream_Write_UINT16_BE` writes. -/
def bytesUInt16BE (v : Nat) : List UInt8 := [UInt8.ofNat (v >>> 8), UInt8.ofNat v]

/-- The bytes `Stream_Write_UINT32` writes. -/
def bytesUInt32 (v : Nat) : List UInt8 :=
  [UInt8.ofNat v, UInt8.ofNat (v >>> 8), UInt8.ofNat (v >>> 16), UInt8.ofNat (v >>> 24)]

/-- The bytes `Stream_Write_UINT32_BE` writes. -/
def bytesUInt32BE (v : Nat) : List UInt8 :=
  [UInt8.ofNat (v >>> 24), UInt8.ofNat (v >>> 16), UInt8.ofNat (v >>> 8), UInt8.ofNat v]

/-- `Stream_Write_UTF16_String`. -/
def bytesUtf16 (s : List UInt16) : List UInt8 := s.flatMap fun c => bytesUInt16 c.toNat

namespace WStream

variable {s : WStream} {b b' : UInt8} {rest : List UInt8}

/-! ### Reading what is there -/

lemma readUInt8_of_unread (h : s.unread = b :: rest) : s.readUInt8 = (b.toNat, s.seek 1) := by
  simp [readUInt8, byteAt_eq, h]

lemma readUInt16_of_unread (h : s.unread = b :: b' :: rest) :
    s.readUInt16 = (b'.toNat * 256 + b.toNat, s.seek 2) := by
  simp [readUInt16, byteAt_eq, h, Nat.shiftLeft_eq, Nat.add_comm]

lemma unread_seek_one (h : s.unread = b :: rest) : (s.seek 1).unread = rest := by
  simp [h]

/-- `Stream_Read` of a known front part. -/
lemma read_of_unread {xs rest : List UInt8} {n : Nat} (h : s.unread = xs ++ rest)
    (hn : xs.length = n) : s.read n = (xs, s.seek n) := by
  have hdrop : s.buffer.drop s.pos = xs ++ rest := h
  simp [read, hdrop, ← hn]

lemma unread_seek_append {xs rest : List UInt8} {n : Nat} (h : s.unread = xs ++ rest)
    (hn : xs.length = n) : (s.seek n).unread = rest := by
  simp [h, ← hn]

lemma readUInt8_bytes {v : Nat} (h : s.unread = bytesUInt8 v ++ rest) (hv : v < 2 ^ 8) :
    s.readUInt8 = (v, s.seek 1) := by
  have hbyte : (UInt8.ofNat v).toNat = v := toNat_ofNat_of_lt (by omega)
  have hunread : s.unread = UInt8.ofNat v :: rest := h
  rw [readUInt8_of_unread hunread, hbyte]

lemma readUInt16_bytes {v : Nat} (h : s.unread = bytesUInt16 v ++ rest) (hv : v < 2 ^ 16) :
    s.readUInt16 = (v, s.seek 2) := by
  have hunread : s.unread = UInt8.ofNat v :: UInt8.ofNat (v >>> 8) :: rest := h
  rw [readUInt16_of_unread hunread, UInt8.toNat_ofNat', UInt8.toNat_ofNat',
    Nat.shiftRight_eq_div_pow, Prod.mk.injEq]
  refine ⟨?_, rfl⟩
  omega

lemma readUInt16BE_bytes {v : Nat} (h : s.unread = bytesUInt16BE v ++ rest) (hv : v < 2 ^ 16) :
    s.readUInt16BE = (v, s.seek 2) := by
  have hunread : s.unread = UInt8.ofNat (v >>> 8) :: UInt8.ofNat v :: rest := h
  have hvalue : s.byteAt 0 <<< 8 + s.byteAt 1 = v := by
    simp only [byteAt_eq, hunread, List.getD_cons_zero, List.getD_cons_succ, UInt8.toNat_ofNat',
      Nat.shiftRight_eq_div_pow, Nat.shiftLeft_eq]
    omega
  exact Prod.ext hvalue rfl

/-- A 32-bit number put together from its bytes. -/
lemma toNat_bytesUInt32 {v : Nat} (hv : v < 2 ^ 32) :
    (UInt8.ofNat v).toNat + (UInt8.ofNat (v >>> 8)).toNat <<< 8 +
      (UInt8.ofNat (v >>> 16)).toNat <<< 16 + (UInt8.ofNat (v >>> 24)).toNat <<< 24 = v := by
  simp only [UInt8.toNat_ofNat', Nat.shiftRight_eq_div_pow, Nat.shiftLeft_eq]
  norm_num at hv ⊢
  omega

lemma readUInt32_bytes {v : Nat} (h : s.unread = bytesUInt32 v ++ rest) (hv : v < 2 ^ 32) :
    s.readUInt32 = (v, s.seek 4) := by
  have hunread : s.unread = UInt8.ofNat v :: UInt8.ofNat (v >>> 8) :: UInt8.ofNat (v >>> 16) ::
    UInt8.ofNat (v >>> 24) :: rest := h
  have hvalue : s.byteAt 0 + s.byteAt 1 <<< 8 + s.byteAt 2 <<< 16 + s.byteAt 3 <<< 24 = v := by
    simp only [byteAt_eq, hunread, List.getD_cons_zero, List.getD_cons_succ]
    exact toNat_bytesUInt32 hv
  exact Prod.ext hvalue rfl

lemma readUInt32BE_bytes {v : Nat} (h : s.unread = bytesUInt32BE v ++ rest) (hv : v < 2 ^ 32) :
    s.readUInt32BE = (v, s.seek 4) := by
  have hunread : s.unread = UInt8.ofNat (v >>> 24) :: UInt8.ofNat (v >>> 16) ::
    UInt8.ofNat (v >>> 8) :: UInt8.ofNat v :: rest := h
  have hvalue : s.byteAt 0 <<< 24 + s.byteAt 1 <<< 16 + s.byteAt 2 <<< 8 + s.byteAt 3 = v := by
    simp only [byteAt_eq, hunread, List.getD_cons_zero, List.getD_cons_succ]
    have hbytes := toNat_bytesUInt32 hv
    omega
  exact Prod.ext hvalue rfl

/-! ### Writing -/

/-- A stream at its end. -/
def written (bytes : List UInt8) : WStream := ⟨bytes, bytes.length⟩

@[simp] lemma pos_written (bytes : List UInt8) : (written bytes).pos = bytes.length := rfl

@[simp] lemma buffer_written (bytes : List UInt8) : (written bytes).buffer = bytes := rfl

@[simp] lemma write_written (bytes more : List UInt8) :
    (written bytes).write more = written (bytes ++ more) := by
  simp [written, write]

/-- Writing bytes over a gap in the middle. -/
lemma write_gap (front : List UInt8) {gap bytes : List UInt8} (rest : List UInt8)
    (hgap : gap.length = bytes.length) :
    ((written (front ++ gap ++ rest)).setPosition front.length).write bytes =
      ⟨front ++ bytes ++ rest, front.length + bytes.length⟩ := by
  have hdrop : (front ++ gap ++ rest).drop (front.length + bytes.length) = rest := by
    rw [← hgap, ← List.length_append, List.drop_left]
  have htake : (front ++ gap ++ rest).take front.length = front := by
    rw [List.append_assoc, List.take_left]
  simp only [written, write, setPosition, hdrop, htake]

/-- Filling in bytes in the middle, and going back to the end. -/
lemma patch_written (front : List UInt8) {gap bytes : List UInt8} (rest : List UInt8)
    (hgap : gap.length = bytes.length) :
    (((written (front ++ gap ++ rest)).setPosition front.length).write bytes).setPosition
        (front ++ gap ++ rest).length = written (front ++ bytes ++ rest) := by
  rw [write_gap front rest hgap]
  simp only [written, setPosition, List.length_append, hgap]

end WStream

end FreeRdp
