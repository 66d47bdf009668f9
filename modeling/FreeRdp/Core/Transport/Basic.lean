import FreeRdp.Library.Arrivals
import FreeRdp.Winpr.Crt

/-!
# Reading PDUs from the transport

`transport_read_pdu` and the two read functions below it, on a non-blocking transport. The front
BIO is a list of arrivals. A stream that is being filled is the list of its bytes up to the
current position: `transport_read_pdu` never moves backwards before the PDU is complete.

Allocation is taken to succeed, so `Stream_EnsureCapacity` does not appear.
-/

namespace FreeRdp

/-- Below zero the difference wraps to a value that no read accepts. -/
lemma SSIZE_MAX_lt_sizeSub_zero {b : Nat} (hpos : 0 < b) (hb : b ≤ 4) :
    SSIZE_MAX < sizeSub 0 b := by
  unfold sizeSub SSIZE_MAX
  omega

/-- The front BIO: what the coming reads find. -/
abbrev Bio := List (Arrival UInt8)

/-- `transport_read_layer`, with the bytes it delivers; `none` is the status -1. Each piece of the
list is what one successful `BIO_read` finds, and on a non-blocking transport the loop ends early
with what it has when there is nothing to read. -/
def transportReadLayer (bio : Bio) (bytes : Nat) : Option (List UInt8) × Bio :=
  Arrival.read bio bytes

/-- `transport_read_layer_bytes`: the status, the stream and the BIO. -/
def transportReadLayerBytes (s : List UInt8) (bio : Bio) (toRead : Nat) :
    Int × List UInt8 × Bio :=
  if toRead > SSIZE_MAX then (0, s, bio)
  else
    match transportReadLayer bio toRead with
    | (none, bio) => (-1, s, bio)
    | (some [], bio) => (0, s, bio)
    | (some bytes, bio) => (if bytes.length = toRead then 1 else 0, s ++ bytes, bio)

lemma transportReadLayerBytes_of_lt {toRead : Nat} (h : SSIZE_MAX < toRead) (s : List UInt8)
    (bio : Bio) : transportReadLayerBytes s bio toRead = (0, s, bio) := if_pos h

/-- A read of no bytes is reported as "not enough data". -/
lemma transportReadLayerBytes_zero (s : List UInt8) (bio : Bio) :
    transportReadLayerBytes s bio 0 = (0, s, bio) := by
  simp [transportReadLayerBytes, transportReadLayer]

/-- The header reads of `transport_read_pdu`: make sure that `n` bytes are in the stream. -/
def transportEnsure (n : Nat) (s : List UInt8) (bio : Bio) : Int × List UInt8 × Bio :=
  if s.length < n then transportReadLayerBytes s bio (n - s.length) else (1, s, bio)

/-- `header[i]`. -/
def headerByte (s : List UInt8) (i : Nat) : Nat := (s.getD i 0).toNat

/-- Go on once `n` bytes are there, and return any other status to the caller. -/
def transportEnsureThen (n : Nat) (s : List UInt8) (bio : Bio)
    (next : List UInt8 → Bio → Int × Nat × List UInt8 × Bio) : Int × Nat × List UInt8 × Bio :=
  match transportEnsure n s bio with
  | (status, s, bio) => if status ≠ 1 then (status, 0, s, bio) else next s bio

/-- The length check of a fast-path PDU. -/
def transportCheckFastPathLength (pduLength : Nat) (s : List UInt8) (bio : Bio) :
    Int × Nat × List UInt8 × Bio :=
  if pduLength < 3 ∨ pduLength > 0x8000 then (-1, 0, s, bio) else (1, pduLength, s, bio)

/-- The length check of a TPKT. -/
def transportCheckTpktLength (pduLength : Nat) (s : List UInt8) (bio : Bio) :
    Int × Nat × List UInt8 × Bio :=
  if pduLength < 7 ∨ pduLength > 0xFFFF then (-1, 0, s, bio) else (1, pduLength, s, bio)

/-- The header part of `transport_read_pdu`. With status 1 the second component is `pduLength`,
and any other status is returned to the caller. -/
def transportReadHeader (nlaMode : Bool) (s : List UInt8) (bio : Bio) :
    Int × Nat × List UInt8 × Bio :=
  transportEnsureThen 2 s bio fun s bio =>
    if nlaMode then
      if headerByte s 0 = 0x30 then
        if headerByte s 1 &&& 0x80 ≠ 0 then
          if headerByte s 1 &&& 0x7F = 1 then
            transportEnsureThen 3 s bio fun s bio => (1, headerByte s 2 + 3, s, bio)
          else if headerByte s 1 &&& 0x7F = 2 then
            transportEnsureThen 4 s bio fun s bio =>
              (1, (headerByte s 2 <<< 8 ||| headerByte s 3) + 4, s, bio)
          else (-1, 0, s, bio)
        else (1, headerByte s 1 + 2, s, bio)
      else
        -- not a TSRequest: no length is ever set
        (1, 0, s, bio)
    else if headerByte s 0 = 0x03 then
      transportEnsureThen 4 s bio fun s bio =>
        transportCheckTpktLength (headerByte s 2 <<< 8 ||| headerByte s 3) s bio
    else if headerByte s 1 &&& 0x80 ≠ 0 then
      transportEnsureThen 3 s bio fun s bio =>
        transportCheckFastPathLength ((headerByte s 1 &&& 0x7F) <<< 8 ||| headerByte s 2) s bio
    else transportCheckFastPathLength (headerByte s 1) s bio

/-- The last read of `transport_read_pdu`. The number of bytes still to read is a `size_t`. -/
def transportReadBody (pduLength : Nat) (s : List UInt8) (bio : Bio) : Int × List UInt8 × Bio :=
  let r := transportReadLayerBytes s bio (sizeSub pduLength s.length)
  if r.1 ≠ 1 then r else (r.2.1.length, r.2.1, r.2.2)

/-- `transport_read_pdu`: a positive status is the length of the PDU now in the stream. -/
def transportReadPdu (nlaMode : Bool) (s : List UInt8) (bio : Bio) : Int × List UInt8 × Bio :=
  match transportReadHeader nlaMode s bio with
  | (status, pduLength, s, bio) =>
    if status ≠ 1 then (status, s, bio) else transportReadBody pduLength s bio

/-- The receiving side of a transport between two calls: the PDUs handed to the callback, the
partly filled `ReceiveBuffer`, the BIO, and whether a read has failed. -/
structure TransportReceiver where
  received : List (List UInt8)
  receiveBuffer : List UInt8
  bio : Bio
  closed : Bool
  deriving DecidableEq, Repr

/-- One round of the loop of `transport_check_fds`. `NlaMode` is set by the callbacks, so it may
depend on the PDUs received so far. -/
def transportCheckFds (nlaMode : List (List UInt8) → Bool) (t : TransportReceiver) :
    TransportReceiver :=
  if t.closed then t
  else
    match transportReadPdu (nlaMode t.received) t.receiveBuffer t.bio with
    | (status, s, bio) =>
      if status < 0 then { t with receiveBuffer := s, bio := bio, closed := true }
      else if status = 0 then { t with receiveBuffer := s, bio := bio }
      else { t with received := t.received ++ [s], receiveBuffer := [], bio := bio }

/-- `n` calls, one after the other. -/
def transportRun (nlaMode : List (List UInt8) → Bool) : Nat → TransportReceiver → TransportReceiver
  | 0, t => t
  | n + 1, t => transportRun nlaMode n (transportCheckFds nlaMode t)

/-- A receiver before its first call. -/
def TransportReceiver.start (bio : Bio) : TransportReceiver := ⟨[], [], bio, false⟩

end FreeRdp
