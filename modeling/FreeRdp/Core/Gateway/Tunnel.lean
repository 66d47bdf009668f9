import FreeRdp.Core.Gateway.Chunked

/-!
# Reading from a gateway tunnel

`rdg_bio_read` and the functions of `rdg.c` below it. `rdg_socket_read` is a source of bytes that
finds no data at any point; as long as it has an answer, `BIO_should_retry` holds. A null pointer or
a wrong argument of a format ends a call without a result.
-/

namespace FreeRdp

def PKT_TYPE_SERVICE_MESSAGE : Nat := 0xB
def PKT_TYPE_KEEPALIVE : Nat := 0xD
def PKT_TYPE_CLOSE_CHANNEL : Nat := 0x10
def PKT_TYPE_CLOSE_CHANNEL_RESPONSE : Nat := 0x11

/-- `RdgPacketHeader`. -/
def packetHeader (type reserved packetLength : Nat) : List UInt8 :=
  bytesUInt16 type ++ (bytesUInt16 reserved ++ bytesUInt32 packetLength)

/-- What a tunnel depends on. -/
structure RdgEnvironment where
  malloc : Malloc
  /-- `rdg_write_packet`. -/
  writePacket : List UInt8 → Bool
  /-- `PresentGatewayMessage`, for a message of the service. -/
  presentGatewayMessage : Option (List UInt8 → Bool)
  /-- Whether `WLog_ERR` prints. -/
  logsErrors : Bool

/-- The part of `rdpRdg` that is read and written here, with the retry flag of its own BIO, the source
of `rdg_socket_read` and the packets that were given to `rdg_write_packet`. -/
structure RdgTunnel where
  packetRemainingCount : Nat
  bio : List BioEvent
  sent : List (List UInt8)
  lastError : Nat
  shouldRetry : Bool
  deriving DecidableEq, Repr

/-! ### Loops that read -/

/-- A loop that reads: its source, and the bytes it has. -/
structure SocketRead where
  bio : List BioEvent
  bytes : List UInt8
  deriving DecidableEq, Repr

/-- How a loop that reads ends. -/
inductive SocketReadEnd where
  | complete (s : SocketRead)
  | noData (s : SocketRead)
  | failed (s : SocketRead)
  deriving DecidableEq, Repr

/-- A round of the loop that reads the header (which returns if it has nothing yet), and of the loop
that reads a payload. -/
def socketReadRound (size : Nat) (atOnce : Bool) (s : SocketRead) :
    Round SocketRead SocketReadEnd :=
  let readCount := s.bytes.length
  if ¬ readCount < size then .done (.complete s)
  else
    let (status, bytes, bio) := bioRead (size - readCount) s.bio
    if status ≤ 0 then
      if s.bio = [] then .done (.failed ⟨bio, s.bytes⟩)
      else if atOnce ∧ readCount = 0 then .done (.noData ⟨bio, s.bytes⟩)
      else .next ⟨bio, s.bytes⟩
    else if readCount + status.toNat > INT_MAX then .done (.failed ⟨bio, s.bytes ++ bytes⟩)
    else .next ⟨bio, s.bytes ++ bytes⟩

/-- A round of the loop that reads the size of a data packet. -/
def sizeReadRound (s : SocketRead) : Round SocketRead SocketReadEnd :=
  let readCount := s.bytes.length
  if ¬ readCount < 2 then .done (.complete s)
  else
    let (status, bytes, bio) := bioRead (2 - readCount) s.bio
    if status < 0 then
      if s.bio = [] then .done (.failed ⟨bio, s.bytes⟩)
      else .next ⟨bio, s.bytes⟩
    else .next ⟨bio, s.bytes ++ bytes⟩

/-- A loop that reads from a source. Each of its rounds but the last reads. -/
def readLoop (bio : List BioEvent) (round : SocketRead → Round SocketRead SocketReadEnd) :
    Option SocketReadEnd :=
  loop round (bioSize bio + 2) ⟨bio, []⟩

/-! ### Control packets -/

/-- `rdg_write_packet`, as the handlers of control packets use its result. -/
def rdgAnswer (env : RdgEnvironment) (rdg : RdgTunnel) (packet : List UInt8) : Bool × RdgTunnel :=
  let status : Int := if env.writePacket packet then 1 else 0
  (if status < 0 then false else true, { rdg with sent := rdg.sent ++ [packet] })

/-- `rdg_process_close_packet`, which reads from a null pointer if there is no payload. -/
def rdgProcessClosePacket (env : RdgEnvironment) (rdg : RdgTunnel) (s : Option (List UInt8)) :
    Option (Bool × RdgTunnel) :=
  s.map fun payload =>
    let s := WStream.ofBytes payload
    let packetSize := 12
    if s.remainingLength < 4 then (false, rdg)
    else
      let (errorCode, _) := s.readUInt32
      let rdg := if errorCode ≠ 0 then { rdg with lastError := errorCode } else rdg
      if !env.malloc.succeeds packetSize then (false, rdg)
      else rdgAnswer env rdg
        (packetHeader PKT_TYPE_CLOSE_CHANNEL_RESPONSE 0 packetSize ++ bytesUInt32 0)

/-- `rdg_process_keep_alive_packet`. -/
def rdgProcessKeepAlivePacket (env : RdgEnvironment) (rdg : RdgTunnel) : Bool × RdgTunnel :=
  let packetSize := 8
  if !env.malloc.succeeds packetSize then (false, rdg)
  else rdgAnswer env rdg (packetHeader PKT_TYPE_KEEPALIVE 0 packetSize)

/-- `rdg_read_http_unicode_string`. Both of its messages have `%s` for a number. -/
def rdgReadHttpUnicodeString (logsErrors : Bool) (s : WStream) :
    Option (Option (List UInt8 × WStream)) :=
  let failed := if logsErrors then none else some none
  if s.remainingLength < 4 then failed
  else
    let (strLenBytes, s) := s.readUInt16
    match s.safeSeek strLenBytes with
    | none => failed
    | some s' => some (some ((s.read strLenBytes).1, s'))

/-- `rdg_process_service_message`. -/
def rdgProcessServiceMessage (env : RdgEnvironment) (rdg : RdgTunnel) (payload : List UInt8) :
    Option (Bool × RdgTunnel) :=
  (rdgReadHttpUnicodeString env.logsErrors (.ofBytes payload)).map fun string =>
    match string with
    | none => (false, rdg)
    | some (msg, _) =>
      match env.presentGatewayMessage with
      | none => (true, rdg)
      | some present => (present msg, rdg)

/-- The switch over the type of a control packet. -/
def rdgHandleControlPacket (env : RdgEnvironment) (rdg : RdgTunnel) (type : Nat)
    (s : Option (List UInt8)) : Option (Bool × RdgTunnel) :=
  if type = PKT_TYPE_CLOSE_CHANNEL then rdgProcessClosePacket env rdg s
  else if type = PKT_TYPE_KEEPALIVE then some (rdgProcessKeepAlivePacket env rdg)
  else if type = PKT_TYPE_SERVICE_MESSAGE then
    match s with
    | none => some (false, rdg)
    | some payload => rdgProcessServiceMessage env rdg payload
  else some (true, rdg)

/-- `rdg_process_control_packet`. -/
def rdgProcessControlPacket (env : RdgEnvironment) (rdg : RdgTunnel) (type packetLength : Nat) :
    Option (Option (Bool × RdgTunnel)) :=
  if packetLength < 8 then some (some (false, rdg))
  else
    let payloadSize := packetLength - 8
    if payloadSize = 0 then some (rdgHandleControlPacket env rdg type none)
    else if !env.malloc.succeeds payloadSize then some (some (false, rdg))
    else
      (readLoop rdg.bio (socketReadRound payloadSize false)).map fun outcome =>
        match outcome with
        | .complete s => rdgHandleControlPacket env { rdg with bio := s.bio } type (some s.bytes)
        | .noData s => some (false, { rdg with bio := s.bio })
        | .failed s => some (false, { rdg with bio := s.bio })

/-! ### Data packets -/

/-- The result of a call: its status, the bytes in the buffer and the tunnel. -/
abbrev TunnelResult := Option (Option (Int × List UInt8 × RdgTunnel))

/-- The last part of `rdg_read_data_packet`: a read of the data. -/
def rdgReadPayload (rdg : RdgTunnel) (size : Nat) : Int × List UInt8 × RdgTunnel :=
  let readSize := if rdg.packetRemainingCount < size then rdg.packetRemainingCount else size
  let (status, bytes, bio) := bioRead readSize rdg.bio
  if status ≤ 0 then (if rdg.bio = [] then -1 else 0, [], { rdg with bio := bio })
  else (status, bytes, { rdg with
    bio := bio
    packetRemainingCount := rdg.packetRemainingCount - status.toNat })

/-- The second part: the size of a data packet, which is read into `packetRemainingCount`. -/
def rdgReadSize (rdg : RdgTunnel) (size : Nat) : TunnelResult :=
  (readLoop rdg.bio sizeReadRound).map fun outcome =>
    let withCount (s : SocketRead) : RdgTunnel :=
      { rdg with bio := s.bio, packetRemainingCount := (WStream.ofBytes s.bytes).readUInt16.1 }
    match outcome with
    | .complete s => some (rdgReadPayload (withCount s) size)
    | .noData s => some (-1, [], withCount s)
    | .failed s => some (-1, [], withCount s)

/-- What follows the header of a packet. -/
def rdgReadPacket (env : RdgEnvironment) (rdg : RdgTunnel) (header : List UInt8) (size : Nat) :
    TunnelResult :=
  let (type, s) := (WStream.ofBytes header).readUInt16
  let (packetLength, _) := (s.seek 2).readUInt32
  if type ≠ PKT_TYPE_DATA then
    (rdgProcessControlPacket env rdg type packetLength).map fun result =>
      result.map fun (status, rdg) => (if !status then -1 else 0, [], rdg)
  else rdgReadSize rdg size

/-- `rdg_read_data_packet`. -/
def rdgReadDataPacket (env : RdgEnvironment) (rdg : RdgTunnel) (size : Nat) : TunnelResult :=
  if rdg.packetRemainingCount = 0 then
    (readLoop rdg.bio (socketReadRound 8 true)).bind fun outcome =>
      match outcome with
      | .complete s => rdgReadPacket env { rdg with bio := s.bio } s.bytes size
      | .noData s => some (some (0, [], { rdg with bio := s.bio }))
      | .failed s => some (some (-1, [], { rdg with bio := s.bio }))
  else some (some (rdgReadPayload rdg size))

/-- The status of `rdg_bio_read` and the flags of its BIO. -/
def rdgBioStatus (status : Int) (bytes : List UInt8) (rdg : RdgTunnel) :
    Int × List UInt8 × RdgTunnel :=
  if status < 0 then (-1, bytes, { rdg with shouldRetry := false })
  else if status = 0 then (-1, bytes, { rdg with shouldRetry := true })
  else (status, bytes, rdg)

/-- `rdg_bio_read` with a buffer of the given size. -/
def rdgBioRead (env : RdgEnvironment) (rdg : RdgTunnel) (size : Nat) : TunnelResult :=
  (rdgReadDataPacket env rdg size).map fun result =>
    result.map fun (status, bytes, rdg) => rdgBioStatus status bytes rdg

end FreeRdp
