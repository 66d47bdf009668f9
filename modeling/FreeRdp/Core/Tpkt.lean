import FreeRdp.Winpr.Stream

/-!
# TPKT and X.224 headers

The framing of `tpkt.c` and `tpdu.c`: a four byte TPKT header with the length of the whole PDU,
followed by a class 0 TPDU whose length indicator `LI` counts the bytes after it.
-/

namespace FreeRdp

def X224_TPDU_CONNECTION_REQUEST : Nat := 0xE0
def X224_TPDU_CONNECTION_CONFIRM : Nat := 0xD0
def X224_TPDU_DATA : Nat := 0xF0

/-- `TPKT_HEADER_LENGTH` plus the connection request TPDU without variable part. -/
def TPDU_CONNECTION_REQUEST_LENGTH : Nat := 11

/-- `tpkt_read_header`. A stream that does not start with version 3 is accepted with length 0. -/
def tpktReadHeader (s : WStream) : Option (Nat × WStream) :=
  if s.remainingLength < 1 then none
  else if s.byteAt 0 = 3 then
    if s.remainingLength < 4 then none
    else
      let (len, s) := (s.seek 2).readUInt16BE
      if len < 7 then none
      else if s.remainingLength + 4 < len then none
      else some (len, s)
  else some (0, s)

/-- `tpkt_ensure_stream_consumed`. -/
def tpktEnsureStreamConsumed (s : WStream) : Bool := !(0 < s.remainingLength)

/-- `tpkt_write_header`. -/
def tpktWriteHeader (length : Nat) : List UInt8 :=
  bytesUInt8 3 ++ bytesUInt8 0 ++ bytesUInt16BE length

/-- `tpdu_read_header`: the code, the length indicator and the stream after the header. -/
def tpduReadHeader (s : WStream) (tpktlength : Nat) : Option (Nat × Nat × WStream) :=
  if s.remainingLength < 3 then none
  else
    let (li, s) := s.readUInt8
    let (code, s) := s.readUInt8
    if li + 4 > tpktlength then none
    else if code = X224_TPDU_DATA then some (code, li, s.seek 1)
    else
      match s.safeSeek 5 with
      | none => none
      | some s => some (code, li, s)

/-- `tpdu_read_connection_confirm`: the length indicator and the stream behind the fixed part.

The comparison is one of `size_t` values, so that an `LI` smaller than the bytes already read
wraps around and is refused. -/
def tpduReadConnectionConfirm (s : WStream) (tpktlength : Nat) : Option (Nat × WStream) :=
  match tpduReadHeader s tpktlength with
  | none => none
  | some (code, li, t) =>
    if code ≠ X224_TPDU_CONNECTION_CONFIRM then none
    else
      let bytesRead := (t.pos - s.pos) - 1
      if t.remainingLength ≥ (li + 2 ^ 64 - bytesRead) % 2 ^ 64 then some (li, t) else none

/-- `tpdu_read_connection_request`: the length indicator and the stream behind the fixed part. -/
def tpduReadConnectionRequest (s : WStream) (tpktlength : Nat) : Option (Nat × WStream) :=
  match tpduReadHeader s tpktlength with
  | none => none
  | some (code, li, s) => if code ≠ X224_TPDU_CONNECTION_REQUEST then none else some (li, s)

/-- `tpdu_write_header`. -/
def tpduWriteHeader (length code : Nat) : List UInt8 :=
  bytesUInt8 length ++ bytesUInt8 code ++
    if code = X224_TPDU_DATA then bytesUInt8 0x80
    else bytesUInt16 0 ++ bytesUInt16 0 ++ bytesUInt8 0

/-- `tpdu_read_data`: the length indicator and the stream behind the header. -/
def tpduReadData (s : WStream) (tpktlength : Nat) : Option (Nat × WStream) :=
  match tpduReadHeader s tpktlength with
  | none => none
  | some (code, li, s) => if code ≠ X224_TPDU_DATA then none else some (li, s)

/-- `tpdu_write_data`. -/
def tpduWriteData : List UInt8 := tpduWriteHeader 2 X224_TPDU_DATA

/-- `tpdu_write_connection_request`. -/
def tpduWriteConnectionRequest (length : Nat) : List UInt8 :=
  tpduWriteHeader length X224_TPDU_CONNECTION_REQUEST

open WStream

/-- The TPKT header of what has been written is read back. -/
lemma tpktReadHeader_of_written {s : WStream} {length : Nat} {rest : List UInt8}
    (hs : s.unread = tpktWriteHeader length ++ rest) (h : length = 4 + rest.length)
    (hmin : 7 ≤ length) (hlength : length < 2 ^ 16) :
    tpktReadHeader s = some (length, s.seek 4) ∧ (s.seek 4).unread = rest := by
  have hbytes : s.unread = [3, 0] ++ (bytesUInt16BE length ++ rest) := hs
  have hremaining : s.remainingLength = 4 + rest.length := by
    simp only [remainingLength_eq, hbytes, bytesUInt16BE, List.length_append, List.length_cons,
      List.length_nil]
    omega
  have hversion : s.byteAt 0 = 3 := by
    rw [byteAt_eq, hbytes]
    rfl
  have hlen : (s.seek 2).readUInt16BE = (length, (s.seek 2).seek 2) :=
    readUInt16BE_bytes (unread_seek_append hbytes rfl) hlength
  refine ⟨?_, unread_seek_append hs rfl⟩
  unfold tpktReadHeader
  rw [if_neg (by omega), if_pos hversion, if_neg (by omega), hlen]
  dsimp only
  rw [if_neg (by omega), remainingLength_seek, remainingLength_seek, if_neg (by omega)]
  rfl

/-- The headers of a data PDU are read back. -/
lemma tpduReadData_of_written {s : WStream} {length : Nat} {rest : List UInt8}
    (hs : s.unread = tpktWriteHeader length ++ tpduWriteData ++ rest) (h : length = 7 + rest.length)
    (hlength : length < 2 ^ 16) :
    tpktReadHeader s = some (length, s.seek 4) ∧
      tpduReadData (s.seek 4) length = some (2, s.seek 7) := by
  rw [List.append_assoc] at hs
  have hsize : (tpduWriteData ++ rest).length = 3 + rest.length := by
    rw [List.length_append]
    rfl
  obtain ⟨hheader, htpdu⟩ := tpktReadHeader_of_written hs (by omega) (by omega) hlength
  refine ⟨hheader, ?_⟩
  have hremaining : (s.seek 4).remainingLength = 3 + rest.length := by
    rw [remainingLength_eq, htpdu, hsize]
  have hbytes : (s.seek 4).unread = 2 :: 0xF0 :: 0x80 :: rest := htpdu
  have hli : (s.seek 4).readUInt8 = (2, (s.seek 4).seek 1) := readUInt8_of_unread hbytes
  have hcode : ((s.seek 4).seek 1).readUInt8 = (0xF0, ((s.seek 4).seek 1).seek 1) :=
    readUInt8_of_unread (unread_seek_one hbytes)
  unfold tpduReadData tpduReadHeader
  rw [hremaining, if_neg (by omega), hli]
  dsimp only
  rw [hcode]
  dsimp only
  rw [if_neg (by omega)]
  rfl

/-- The headers of a connection request are read back, as long as the length indicator holds the
length. -/
lemma tpduReadConnectionRequest_of_written {s : WStream} {rest : List UInt8}
    (hs : s.unread = tpktWriteHeader (11 + rest.length) ++
      tpduWriteConnectionRequest (11 + rest.length - 5) ++ rest) (hli : 6 + rest.length < 2 ^ 8) :
    tpktReadHeader s = some (11 + rest.length, s.seek 4) ∧
      tpduReadConnectionRequest (s.seek 4) (11 + rest.length) =
        some (6 + rest.length, s.seek 11) ∧ (s.seek 11).unread = rest := by
  rw [show 11 + rest.length - 5 = 6 + rest.length by omega, List.append_assoc] at hs
  have hsize : (tpduWriteConnectionRequest (6 + rest.length) ++ rest).length = 7 + rest.length := by
    rw [List.length_append]
    rfl
  obtain ⟨hheader, htpdu⟩ := tpktReadHeader_of_written hs (by omega) (by omega) (by omega)
  have hremaining : (s.seek 4).remainingLength = 7 + rest.length := by
    rw [remainingLength_eq, htpdu, hsize]
  have hbytes : (s.seek 4).unread = bytesUInt8 (6 + rest.length) ++
    (0xE0 :: 0 :: 0 :: 0 :: 0 :: 0 :: rest) := htpdu
  have hread : (s.seek 4).readUInt8 = (6 + rest.length, (s.seek 4).seek 1) :=
    readUInt8_bytes hbytes hli
  have hcode : ((s.seek 4).seek 1).readUInt8 = (0xE0, ((s.seek 4).seek 1).seek 1) :=
    readUInt8_of_unread (unread_seek_append hbytes rfl)
  refine ⟨hheader, ?_, ?_⟩
  · unfold tpduReadConnectionRequest tpduReadHeader
    rw [hremaining, if_neg (by omega), hread]
    dsimp only
    rw [hcode]
    dsimp only
    rw [if_neg (by omega), if_neg (by decide), safeSeek, remainingLength_seek, remainingLength_seek,
      hremaining, if_neg (by omega)]
    rfl
  · have hfixed : (s.seek 4).seek 7 = s.seek 11 := rfl
    rw [← hfixed, unread_seek, htpdu]
    rfl

end FreeRdp
