import FreeRdp.Core.Gateway.Bio
import FreeRdp.Library.Loops
import FreeRdp.Winpr.Stream
import FreeRdp.Winpr.Strtol
import Mathlib.Data.Nat.Digits.Lemmas

/-!
# The chunked transfer encoding of a gateway

`rdg_chuncked_read` and the two functions of `rdg.c` that write chunks. The inner loop that reads the
header of a chunk has a round of its own for each read. A failed assertion or a write outside of
`lenBuffer` ends a call without a result. `closesocket` at the end of the stream is left out.
-/

namespace FreeRdp

/-! ### Numbers as text -/

/-- A digit of `%zX` or `%zx`. -/
def hexChar (upper : Bool) (d : Nat) : UInt8 :=
  if d < 10 then UInt8.ofNat (48 + d)
  else if upper then UInt8.ofNat (55 + d)
  else UInt8.ofNat (87 + d)

/-- A positive number, as `%zX` or `%zx` prints it. -/
def hexDigits (upper : Bool) (n : Nat) : List UInt8 :=
  ((Nat.digits 16 n).map (hexChar upper)).reverse

/-- The value of a hexadecimal digit. -/
def hexValue (c : UInt8) : Option Nat :=
  let n := c.toNat
  if 48 ≤ n ∧ n ≤ 57 then some (n - 48)
  else if 65 ≤ n ∧ n ≤ 70 then some (n - 55)
  else if 97 ≤ n ∧ n ≤ 102 then some (n - 87)
  else none

/-- The digits at the front of a text, behind those with the value `v`. -/
def hexPrefixValue (v : Nat) : List UInt8 → Nat
  | [] => v
  | c :: cs =>
    match hexValue c with
    | some d => hexPrefixValue (v * 16 + d) cs
    | none => v

/-- The `0x` that a hexadecimal number may begin with. -/
def strtoulPrefix (s : List UInt8) : List UInt8 :=
  match s with
  | c :: x :: d :: s =>
    if c = 48 ∧ (x = 88 ∨ x = 120) ∧ (hexValue d).isSome then d :: s else c :: x :: d :: s
  | s => s

/-- `strtoul(s, NULL, 16)`, `none` when it sets `errno`. -/
def strtoul16 (s : List UInt8) : Option Nat :=
  let (negative, s) := strtoulSign ((s.takeWhile (· ≠ 0)).dropWhile isSpace)
  let v := hexPrefixValue 0 (strtoulPrefix s)
  if 2 ^ 64 ≤ v then none else some (if negative then (2 ^ 64 - v) % 2 ^ 64 else v)

/-! ### Writing -/

/-- The header of a chunk in `chunkSize[11]`. -/
def chunkHeader (upper : Bool) (size : Nat) : List UInt8 :=
  (hexDigits upper size ++ [13, 10]).take 10

/-- A chunk, if there is memory for it and its length is an `int`. -/
def writeChunk (malloc : Malloc) (header data : List UInt8) : Option (List UInt8) :=
  if !malloc.succeeds (header.length + data.length + 2) then none
  else
    let chunk := header ++ data ++ [13, 10]
    if chunk.length > INT_MAX then none else some chunk

/-- `rdg_write_chunked`: the bytes for `BIO_write`. -/
def rdgWriteChunked (malloc : Malloc) (packet : List UInt8) : Option (List UInt8) :=
  writeChunk malloc (chunkHeader true packet.length) packet

def PKT_TYPE_DATA : Nat := 0xA

/-- A data packet: type, reserved, packet length, data size and data. -/
def dataPacket (data : List UInt8) : List UInt8 :=
  bytesUInt16 PKT_TYPE_DATA ++ bytesUInt16 0 ++
    bytesUInt32 (data.length + 10) ++ bytesUInt16 data.length ++ data

/-- `rdg_write_chunked_data_packet`: the bytes for `tls_write_all`. -/
def rdgWriteChunkedDataPacket (malloc : Malloc) (data : List UInt8) : Option (List UInt8) :=
  if data.length > 0xFFFF then none
  else if data.length < 1 then none
  else writeChunk malloc (chunkHeader false (data.length + 10)) (dataPacket data)

/-! ### Reading -/

/-- `CHUNK_STATE`. -/
inductive ChunkState where
  | lengthHeader
  | data
  | footer
  deriving DecidableEq, Repr

/-- `rdg_http_encoding_chunked_context`. -/
structure ChunkedContext where
  nextOffset : Nat
  headerFooterPos : Nat
  state : ChunkState
  lenBuffer : List UInt8
  deriving DecidableEq, Repr

/-- The context of a new `rdpRdg`. -/
def ChunkedContext.new : ChunkedContext := ⟨0, 0, .lengthHeader, List.replicate 11 0⟩

/-- A context with its BIO. -/
structure ChunkedReader where
  context : ChunkedContext
  bio : List BioEvent
  deriving DecidableEq, Repr

/-- The state of a call: the bytes that are already in the buffer, and what is left of it. -/
structure ChunkedCall where
  reader : ChunkedReader
  buffer : List UInt8
  size : Nat
  deriving DecidableEq, Repr

/-- The result of a call: its status, the bytes in the buffer and the reader. -/
abbrev ChunkedResult := Option (Int × List UInt8 × ChunkedReader)

/-- `effectiveDataLen`. -/
def ChunkedCall.effectiveDataLen (s : ChunkedCall) : Int := intOfSize s.buffer.length

/-- A call ends with what it has, or with a status. -/
def ChunkedCall.result (s : ChunkedCall) (status : Int) (reader : ChunkedReader) : ChunkedResult :=
  some (if s.effectiveDataLen > 0 then s.effectiveDataLen else status, s.buffer, reader)

/-- The end of a header: its text is terminated and its length is read. -/
def rdgChunkedParse (s : ChunkedCall) (reader : ChunkedReader) : Round ChunkedCall ChunkedResult :=
  let context := reader.context
  if ¬ context.headerFooterPos < context.lenBuffer.length then .done none
  else
    let lenBuffer := context.lenBuffer.set context.headerFooterPos 0
    match strtoul16 lenBuffer with
    | none => .done (some (-1, s.buffer, { reader with
        context := { context with lenBuffer := lenBuffer } }))
    | some tmp =>
      .next { s with reader := { reader with
        context :=
          if tmp = 0 then ⟨0, 0, .footer, lenBuffer⟩
          else ⟨tmp, context.headerFooterPos, .data, lenBuffer⟩ } }

/-- A read of the data of a chunk. -/
def ChunkedCall.dataRead (s : ChunkedCall) (read : Int × List UInt8 × List BioEvent) :
    Round ChunkedCall ChunkedResult :=
  let context := s.reader.context
  let (status, bytes, bio) := read
  if status ≤ 0 then .done (s.result status { s.reader with bio := bio })
  else
    let nextOffset := sizeSub context.nextOffset status.toNat
    let reader := ⟨if nextOffset = 0 then ⟨nextOffset, 0, .footer, context.lenBuffer⟩
      else { context with nextOffset := nextOffset }, bio⟩
    let next := ⟨reader, s.buffer ++ bytes, s.size - status.toNat⟩
    if status.toNat = s.size then .done (some (next.effectiveDataLen, next.buffer, next.reader))
    else .next next

/-- A round in the data of a chunk. -/
def rdgChunkedData (s : ChunkedCall) : Round ChunkedCall ChunkedResult :=
  let context := s.reader.context
  s.dataRead (bioReadSize
    (if s.size > context.nextOffset then context.nextOffset else s.size) s.reader.bio)

/-- A round in the footer of a chunk. -/
def rdgChunkedFooter (s : ChunkedCall) : Round ChunkedCall ChunkedResult :=
  let reader := s.reader
  let context := reader.context
  if ¬ (context.nextOffset = 0 ∧ context.headerFooterPos < 2) then .done none
  else
    let (status, _, bio) := bioRead (2 - context.headerFooterPos) reader.bio
    if status < 0 then .done (s.result status { reader with bio := bio })
    else
      let headerFooterPos := context.headerFooterPos + status.toNat
      .next { s with reader := ⟨
        if headerFooterPos = 2 then { context with headerFooterPos := 0, state := .lengthHeader }
        else { context with headerFooterPos := headerFooterPos }, bio⟩ }

/-- A round in the header of a chunk. -/
def rdgChunkedHeader (s : ChunkedCall) : Round ChunkedCall ChunkedResult :=
  let reader := s.reader
  let context := reader.context
  if ¬ context.nextOffset = 0 then .done none
  else if context.headerFooterPos < 10 then
    let (status, bytes, bio) := bioRead 1 reader.bio
    if status < 0 then .done (s.result status { reader with bio := bio })
    else if ¬ context.headerFooterPos < context.lenBuffer.length then .done none
    else
      let lenBuffer := match bytes with
        | [] => context.lenBuffer
        | byte :: _ => context.lenBuffer.set context.headerFooterPos byte
      let reader := ⟨{ context with
        headerFooterPos := context.headerFooterPos + status.toNat
        lenBuffer := lenBuffer }, bio⟩
      -- a read without data leaves the old byte at the position, and it is looked at all the same
      if lenBuffer.getD context.headerFooterPos 0 = 10 ∨
          ¬ context.headerFooterPos + status.toNat < 10 then rdgChunkedParse s reader
      else .next { s with reader := reader }
  else rdgChunkedParse s reader

/-- One round of the loops of `rdg_chuncked_read`. -/
def rdgChunkedRound (s : ChunkedCall) : Round ChunkedCall ChunkedResult :=
  match s.reader.context.state with
  | .data => rdgChunkedData s
  | .footer => rdgChunkedFooter s
  | .lengthHeader => rdgChunkedHeader s

/-- As many rounds as a call can have: each reads something, or follows such a round. -/
def rdgChunkedFuel (reader : ChunkedReader) : Nat := 2 * bioSize reader.bio + 3

/-- `rdg_chuncked_read` with a buffer of the given size; `none` if it does not return. -/
def rdgChunckedRead (reader : ChunkedReader) (size : Nat) : Option ChunkedResult :=
  loop rdgChunkedRound (rdgChunkedFuel reader) ⟨reader, [], size⟩

end FreeRdp
