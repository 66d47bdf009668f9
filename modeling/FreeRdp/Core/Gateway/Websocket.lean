import FreeRdp.Core.Gateway.Bio
import FreeRdp.Library.Loops

/-!
# The websocket transport of a gateway

The functions of `rdg.c` that read and write websocket frames. `rdg_websocket_read` is resumed at
any byte, so that all its progress is in the context. The results of `BIO_write` do not matter to
it: what the BIO got is recorded.

`winpr_RAND` gives the bytes of a sequence. The two allocations whose size is chosen by the server
are outcomes of a `Malloc`.
-/

namespace FreeRdp

def WEBSOCKET_MASK_BIT : Nat := 0x80
def WEBSOCKET_FIN_BIT : Nat := 0x80

def WebsocketContinuationOpcode : Nat := 0x0
def WebsocketBinaryOpcode : Nat := 0x2
def WebsocketCloseOpcode : Nat := 0x8
def WebsocketPingOpcode : Nat := 0x9
def WebsocketPongOpcode : Nat := 0xa

/-- `WEBSOCKET_STATE`. -/
inductive WebsocketState where
  | opcodeAndFin
  | lengthAndMasking
  | shortLength
  | longLength
  | maskingKey
  | payload
  deriving DecidableEq, Repr

/-- `responseStreamBuffer`: its capacity, and the bytes before its position. -/
structure ResponseStream where
  capacity : Nat
  bytes : List UInt8
  deriving DecidableEq, Repr

/-- `rdg_http_websocket_context`, without the masking key, which no function uses. -/
structure WebsocketContext where
  payloadLength : Nat
  masking : Bool
  closeSent : Bool
  opcode : Nat
  fragmentOriginalOpcode : Nat
  lengthAndMaskPosition : Nat
  state : WebsocketState
  responseStreamBuffer : Option ResponseStream
  deriving DecidableEq, Repr

/-- The context of a new `rdpRdg`. -/
def WebsocketContext.new : WebsocketContext :=
  ⟨0, false, false, 0, 0, 0, .opcodeAndFin, none⟩

/-- A context with its BIO, what was written to it and the bytes that `winpr_RAND` will give. -/
structure WebsocketReader where
  context : WebsocketContext
  bio : List BioEvent
  written : List (List UInt8)
  random : Nat → UInt8

/-! ### Writing -/

/-- The four bytes of a masking key. -/
structure MaskingKey where
  k0 : UInt8
  k1 : UInt8
  k2 : UInt8
  k3 : UInt8

def MaskingKey.bytes (key : MaskingKey) : List UInt8 := [key.k0, key.k1, key.k2, key.k3]

/-- The two loops of `rdg_write_websocket`: words of four bytes, then the other bytes. -/
def rdgWebsocketMask (key : MaskingKey) : List UInt8 → List UInt8
  | b0 :: b1 :: b2 :: b3 :: data =>
    (b0 ^^^ key.k0) :: (b1 ^^^ key.k1) :: (b2 ^^^ key.k2) :: (b3 ^^^ key.k3) ::
      rdgWebsocketMask key data
  | [b0, b1, b2] => [b0 ^^^ key.k0, b1 ^^^ key.k1, b2 ^^^ key.k2]
  | [b0, b1] => [b0 ^^^ key.k0, b1 ^^^ key.k1]
  | [b0] => [b0 ^^^ key.k0]
  | [] => []

/-- `fullLen` of `rdg_write_websocket`. -/
def rdgWebsocketFullLen (len : Nat) : Nat :=
  if len < 126 then len + 6 else if len < 0x10000 then len + 8 else len + 14

/-- A number in `n` bytes, in big endian order. -/
def bytesBE : Nat → Nat → List UInt8
  | 0, _ => []
  | n + 1, v => UInt8.ofNat (v >>> (8 * n)) :: bytesBE n v

/-- `sWS` of `rdg_write_websocket`, if it comes to that. -/
def rdgWebsocketFrame (malloc : Malloc) (key : MaskingKey) (packet : List UInt8) (opcode : Nat) :
    Option (List UInt8) :=
  let len := packet.length
  if len > INT_MAX then none
  else if !malloc.succeeds (rdgWebsocketFullLen len) then none
  else
    let length :=
      if len < 126 then [UInt8.ofNat (len ||| WEBSOCKET_MASK_BIT)]
      else if len < 0x10000 then UInt8.ofNat (126 ||| WEBSOCKET_MASK_BIT) :: bytesBE 2 len
      else UInt8.ofNat (127 ||| WEBSOCKET_MASK_BIT) :: (bytesBE 4 0 ++ bytesBE 4 len)
    some (UInt8.ofNat (WEBSOCKET_FIN_BIT ||| opcode) :: length ++ key.bytes ++
      rdgWebsocketMask key packet)

/-- `rdg_write_websocket`: what the BIO gets. -/
def rdgWriteWebsocket (malloc : Malloc) (key : MaskingKey) (packet : List UInt8) (opcode : Nat) :
    Option (List UInt8) :=
  (rdgWebsocketFrame malloc key packet opcode).bind bioWriteSize

/-- The next random key. -/
def WebsocketReader.key (r : WebsocketReader) : MaskingKey :=
  ⟨r.random 0, r.random 1, r.random 2, r.random 3⟩

/-- A frame with a random key is handed to the BIO. -/
def WebsocketReader.write (r : WebsocketReader) (frame : List UInt8) : WebsocketReader :=
  { r with
    written := r.written ++ (bioWriteSize frame).toList
    random := fun i => r.random (i + 4) }

/-- The data of a close frame that is sent back: its first two bytes. -/
def websocketCloseData (s : Option (List UInt8)) : List UInt8 :=
  match s with
  | some bytes => if 2 ≤ bytes.length then bytes.take 2 else []
  | none => []

/-- `rdg_websocket_reply_close`. -/
def rdgWebsocketReplyClose (r : WebsocketReader) (s : Option (List UInt8)) : WebsocketReader :=
  let data := websocketCloseData s
  r.write (UInt8.ofNat (WEBSOCKET_FIN_BIT ||| WebsocketPongOpcode) ::
    UInt8.ofNat (data.length ||| WEBSOCKET_MASK_BIT) :: r.key.bytes ++ rdgWebsocketMask r.key data)

/-- `rdg_websocket_reply_pong`. -/
def rdgWebsocketReplyPong (malloc : Malloc) (r : WebsocketReader) (s : Option (List UInt8)) :
    WebsocketReader :=
  match s with
  | some bytes =>
    match rdgWebsocketFrame malloc r.key bytes WebsocketPongOpcode with
    | some frame => r.write frame
    | none => r
  | none =>
    r.write (UInt8.ofNat (WEBSOCKET_FIN_BIT ||| WebsocketPongOpcode) ::
      UInt8.ofNat (0 ||| WEBSOCKET_MASK_BIT) :: r.key.bytes)

/-! ### Reading -/

/-- `payloadLength` after a read, and the state at the end of the frame. -/
def WebsocketContext.consume (context : WebsocketContext) (status : Nat) : WebsocketContext :=
  let payloadLength := sizeSub context.payloadLength status
  { context with
    payloadLength := payloadLength
    state := if payloadLength = 0 then .opcodeAndFin else context.state }

/-- The frame has no payload left. -/
def WebsocketReader.endFrame (r : WebsocketReader) : WebsocketReader :=
  { r with context := { r.context with state := .opcodeAndFin } }

/-- `rdg_websocket_read_data`. -/
def rdgWebsocketReadData (r : WebsocketReader) (size : Nat) : Int × List UInt8 × WebsocketReader :=
  if r.context.payloadLength = 0 then (0, [], r.endFrame)
  else
    let (status, bytes, bio) := bioReadSize
      (if r.context.payloadLength < size then r.context.payloadLength else size) r.bio
    if status ≤ 0 then (status, [], { r with bio := bio })
    else (status, bytes, { r with bio := bio, context := r.context.consume status.toNat })

/-- `rdg_websocket_read_discard`: it asks for 256 bytes, whatever is left of the frame. -/
def rdgWebsocketReadDiscard (r : WebsocketReader) : Int × WebsocketReader :=
  if r.context.payloadLength = 0 then (0, r.endFrame)
  else
    let (status, _, bio) := bioRead 256 r.bio
    if status ≤ 0 then (status, { r with bio := bio })
    else (status, { r with bio := bio, context := r.context.consume status.toNat })

/-- The response stream after a read of the payload. -/
def WebsocketReader.fillResponse (r : WebsocketReader) (s : ResponseStream)
    (read : Int × List UInt8 × List BioEvent) : Int × WebsocketReader :=
  let (status, bytes, bio) := read
  if status ≤ 0 then (status, { r with bio := bio })
  else
    (status, { r with
      bio := bio
      context := { r.context.consume status.toNat with
        responseStreamBuffer := some { s with bytes := s.bytes ++ bytes } } })

/-- `rdg_websocket_read_wstream` of the response stream. -/
def rdgWebsocketReadWStream (r : WebsocketReader) : Int × WebsocketReader :=
  if r.context.payloadLength = 0 then (0, r.endFrame)
  else
    match r.context.responseStreamBuffer with
    | none => (-1, r)
    | some s =>
      if s.capacity - s.bytes.length ≠ r.context.payloadLength then (-1, r)
      else r.fillResponse s (bioReadSize r.context.payloadLength r.bio)

/-- `Stream_New(NULL, payloadLength)` if there is no response stream; it is `NULL` for size 0. -/
def WebsocketReader.newResponse (malloc : Malloc) (r : WebsocketReader) : WebsocketReader :=
  match r.context.responseStreamBuffer with
  | some _ => r
  | none =>
    { r with context := { r.context with
      responseStreamBuffer :=
        if r.context.payloadLength ≠ 0 ∧ malloc.succeeds r.context.payloadLength then
          some ⟨r.context.payloadLength, []⟩
        else none } }

/-- The bytes of the response stream after `Stream_SealLength`. -/
def WebsocketReader.response (r : WebsocketReader) : Option (List UInt8) :=
  r.context.responseStreamBuffer.map (·.bytes)

/-- `Stream_Free` of the response stream. -/
def WebsocketReader.freeResponse (r : WebsocketReader) : WebsocketReader :=
  { r with context := { r.context with responseStreamBuffer := none } }

/-- `effectiveOpcode`. -/
def WebsocketContext.effectiveOpcode (context : WebsocketContext) : Nat :=
  if context.opcode &&& 0xf = WebsocketContinuationOpcode then
    context.fragmentOriginalOpcode &&& 0xf
  else context.opcode &&& 0xf

/-- `rdg_websocket_handle_payload`: the status, the bytes for the caller and the reader. -/
def rdgWebsocketHandlePayload (malloc : Malloc) (r : WebsocketReader) (size : Nat) :
    Int × List UInt8 × WebsocketReader :=
  let opcode := r.context.effectiveOpcode
  if opcode = WebsocketBinaryOpcode then rdgWebsocketReadData r size
  else if opcode = WebsocketPingOpcode then
    let (status, r) := rdgWebsocketReadWStream (r.newResponse malloc)
    if status < 0 then (status, [], r)
    else if r.context.payloadLength = 0 then
      let r := if !r.context.closeSent then rdgWebsocketReplyPong malloc r r.response else r
      (0, [], r.freeResponse)
    else (0, [], r)
  else if opcode = WebsocketCloseOpcode then
    let (status, r) := rdgWebsocketReadWStream (r.newResponse malloc)
    if status < 0 then (status, [], r)
    else if r.context.payloadLength = 0 then
      let r := rdgWebsocketReplyClose r r.response
      let r := { r with context := { r.context with closeSent := true } }
      (0, [], r.freeResponse)
    else (0, [], r)
  else
    let (status, r) := rdgWebsocketReadDiscard r
    if status < 0 then (status, [], r) else (0, [], r)

/-- The inner loop of the two length states, for the `n` bytes that are missing. It gives a status
when it ends the call. -/
def rdgWebsocketReadLength : Nat → WebsocketReader → Option Int × WebsocketReader
  | 0, r => (none, r)
  | n + 1, r =>
    let (status, bytes, bio) := bioRead 1 r.bio
    if status ≤ 0 then (some status, { r with bio := bio })
    else
      rdgWebsocketReadLength n { r with
        bio := bio
        context := { r.context with
          payloadLength := (r.context.payloadLength <<< 8 ||| (bytes.headD 0).toNat) % 2 ^ 64
          lengthAndMaskPosition := r.context.lengthAndMaskPosition + 1 } }

/-- The state of a call: the bytes that are already in the buffer, and what is left of it. -/
structure WebsocketCall where
  reader : WebsocketReader
  buffer : List UInt8
  size : Nat

/-- The result of a call: its status, the bytes in the buffer and the reader. -/
abbrev WebsocketResult := Int × List UInt8 × WebsocketReader

/-- `effectiveDataLen`. -/
def WebsocketCall.effectiveDataLen (s : WebsocketCall) : Int := intOfSize s.buffer.length

/-- A call ends with what it has, or with a status. -/
def WebsocketCall.result (s : WebsocketCall) (status : Int) (reader : WebsocketReader) :
    WebsocketResult :=
  (if s.effectiveDataLen > 0 then s.effectiveDataLen else status, s.buffer, reader)

/-- Behind the length comes a masking key or the payload. -/
def WebsocketContext.afterLength (context : WebsocketContext) : WebsocketContext :=
  { context with state := if context.masking then .maskingKey else .payload }

/-- One round of the loop of `rdg_websocket_read`. -/
def rdgWebsocketRound (malloc : Malloc) (s : WebsocketCall) : Round WebsocketCall WebsocketResult :=
  let r := s.reader
  match r.context.state with
  | .opcodeAndFin =>
    let (status, bytes, bio) := bioRead 1 r.bio
    if status ≤ 0 then .done (s.result status { r with bio := bio })
    else
      let opcode := (bytes.headD 0).toNat
      .next { s with reader := { r with
        bio := bio
        context := { r.context with
          opcode := opcode
          fragmentOriginalOpcode :=
            if opcode &&& 0xf ≠ WebsocketContinuationOpcode ∧ opcode &&& 0xf < 0x08 then opcode
            else r.context.fragmentOriginalOpcode
          state := .lengthAndMasking } } }
  | .lengthAndMasking =>
    let (status, bytes, bio) := bioRead 1 r.bio
    if status ≤ 0 then .done (s.result status { r with bio := bio })
    else
      let byte := (bytes.headD 0).toNat
      let context := { r.context with
        masking := byte &&& WEBSOCKET_MASK_BIT = WEBSOCKET_MASK_BIT
        lengthAndMaskPosition := 0
        payloadLength := 0 }
      let len := byte &&& 0x7f
      .next { s with reader := { r with
        bio := bio
        context :=
          if len < 126 then { context with payloadLength := len }.afterLength
          else if len = 126 then { context with state := .shortLength }
          else { context with state := .longLength } } }
  | .shortLength | .longLength =>
    let lenLength := if r.context.state = .shortLength then 2 else 8
    match rdgWebsocketReadLength (lenLength - r.context.lengthAndMaskPosition) r with
    | (some status, r) => .done (s.result status r)
    | (none, r) => .next { s with reader := { r with context := r.context.afterLength } }
  | .maskingKey => .done (-1, s.buffer, r)
  | .payload =>
    let (status, bytes, r) := rdgWebsocketHandlePayload malloc r s.size
    if status < 0 then .done (s.result status r)
    else
      let next := ⟨r, s.buffer ++ bytes, s.size - status.toNat⟩
      if status.toNat = s.size then .done (next.effectiveDataLen, next.buffer, next.reader)
      else .next next

/-- As many rounds as a call can have: a round reads a byte, or follows one that did. -/
def rdgWebsocketFuel (r : WebsocketReader) : Nat := 2 * bioSize r.bio + 2

/-- `rdg_websocket_read` with a buffer of the given size; `none` if it does not return. -/
def rdgWebsocketRead (malloc : Malloc) (r : WebsocketReader) (size : Nat) :
    Option WebsocketResult :=
  loop (rdgWebsocketRound malloc) (rdgWebsocketFuel r) ⟨r, [], size⟩

end FreeRdp
