import FreeRdp.Core.Gateway.Tunnel

/-!
# Opening a gateway tunnel

`rdg_tunnel_connect` with its requests and the handlers of the responses. A log keeps what was
written, each value that `rdg->state` got and the packets that were received.
-/

namespace FreeRdp

def PKT_TYPE_HANDSHAKE_REQUEST : Nat := 0x1
def PKT_TYPE_HANDSHAKE_RESPONSE : Nat := 0x2
def PKT_TYPE_TUNNEL_CREATE : Nat := 0x4
def PKT_TYPE_TUNNEL_RESPONSE : Nat := 0x5
def PKT_TYPE_TUNNEL_AUTH : Nat := 0x6
def PKT_TYPE_TUNNEL_AUTH_RESPONSE : Nat := 0x7
def PKT_TYPE_CHANNEL_CREATE : Nat := 0x8
def PKT_TYPE_CHANNEL_RESPONSE : Nat := 0x9

def HTTP_EXTENDED_AUTH_PAA : Nat := 0x02
def HTTP_TUNNEL_PACKET_FIELD_PAA_COOKIE : Nat := 0x1

def HTTP_CAPABILITY_TYPE_QUAR_SOH : Nat := 0x1
def HTTP_CAPABILITY_MESSAGING_CONSENT_SIGN : Nat := 0x4
def HTTP_CAPABILITY_MESSAGING_SERVICE_MSG : Nat := 0x8

def HTTP_TUNNEL_RESPONSE_FIELD_TUNNEL_ID : Nat := 0x1
def HTTP_TUNNEL_RESPONSE_FIELD_CAPS : Nat := 0x2
def HTTP_TUNNEL_RESPONSE_FIELD_SOH_REQ : Nat := 0x4
def HTTP_TUNNEL_RESPONSE_FIELD_CONSENT_MSG : Nat := 0x10

/-- `RDG_CLIENT_STATE_*`. -/
inductive RdgClientState where
  | initial
  | handshake
  | tunnelCreate
  | tunnelAuthorize
  | channelCreate
  | opened
  deriving DecidableEq, Repr

/-- The value of a state. -/
def RdgClientState.toNat : RdgClientState → Nat
  | .initial => 0
  | .handshake => 1
  | .tunnelCreate => 2
  | .tunnelAuthorize => 3
  | .channelCreate => 4
  | .opened => 5

/-- What happens while a tunnel is opened. -/
inductive RdgEvent where
  | wrote (packet : List UInt8) (status : Bool)
  | state (state : RdgClientState)
  | received (packet : List UInt8)
  deriving DecidableEq, Repr

/-- What opening a tunnel depends on: memory, the results of `rdg_write_packet`, which may depend on
everything before, the callback for messages, and the settings. `none` is a string that
`ConvertToUnicode` does not convert; the strings have their terminating zero. -/
structure RdgConnectEnvironment where
  malloc : Malloc
  /-- `Stream_EnsureCapacity`. -/
  ensureCapacity : Nat → Bool
  writePacket : List RdgEvent → List UInt8 → Bool
  presentGatewayMessage : Option (List UInt8 → Bool)
  logsErrors : Bool
  extAuth : Nat
  gatewayAccessToken : Option (List UInt16)
  clientHostname : Option (List UInt16)
  serverHostname : Option (List UInt16)
  serverPort : Nat

/-- The part of `rdpRdg` that is read and written here, and the log. -/
structure RdgClient where
  state : RdgClientState
  bio : List BioEvent
  lastError : Nat
  layerClosed : Bool
  log : List RdgEvent
  deriving DecidableEq, Repr

/-! ### Requests -/

/-- An assignment to `rdg->state`. -/
def RdgClient.setState (rdg : RdgClient) (state : RdgClientState) : RdgClient :=
  { rdg with state := state, log := rdg.log ++ [.state state] }

/-- The common part of the requests: a packet is written, and the state follows if that succeeds. -/
def rdgSendRequest (env : RdgConnectEnvironment) (rdg : RdgClient) (packet : List UInt8)
    (state : RdgClientState) : Bool × RdgClient :=
  if !env.malloc.succeeds packet.length then (false, rdg)
  else
    let status := env.writePacket rdg.log packet
    let rdg := { rdg with log := rdg.log ++ [.wrote packet status] }
    (status, if status then rdg.setState state else rdg)

def handshakeRequest (env : RdgConnectEnvironment) : List UInt8 :=
  packetHeader PKT_TYPE_HANDSHAKE_REQUEST 0 14 ++
    (bytesUInt8 1 ++ bytesUInt8 0 ++ bytesUInt16 0 ++ bytesUInt16 env.extAuth)

/-- `rdg_send_handshake`. -/
def rdgSendHandshake (env : RdgConnectEnvironment) (rdg : RdgClient) : Bool × RdgClient :=
  rdgSendRequest env rdg (handshakeRequest env) .handshake

/-- The packet of `rdg_send_tunnel_request`, if it has a cookie to send. -/
def tunnelRequest (env : RdgConnectEnvironment) : Option (List UInt8) :=
  let capabilities := HTTP_CAPABILITY_TYPE_QUAR_SOH ||| HTTP_CAPABILITY_MESSAGING_CONSENT_SIGN |||
    HTTP_CAPABILITY_MESSAGING_SERVICE_MSG
  if env.extAuth = HTTP_EXTENDED_AUTH_PAA then
    match env.gatewayAccessToken with
    | none => none
    | some cookie =>
      if cookie.length > UINT16_MAX / 2 then none
      else some (packetHeader PKT_TYPE_TUNNEL_CREATE 0 (16 + (2 + cookie.length * 2)) ++
        (bytesUInt32 capabilities ++ bytesUInt16 HTTP_TUNNEL_PACKET_FIELD_PAA_COOKIE ++
          bytesUInt16 0 ++ bytesUInt16 (cookie.length * 2) ++ bytesUtf16 cookie))
  else some (packetHeader PKT_TYPE_TUNNEL_CREATE 0 16 ++
    (bytesUInt32 capabilities ++ bytesUInt16 0 ++ bytesUInt16 0))

/-- The packet of `rdg_send_tunnel_authorization`, if the name of the client can be sent. -/
def tunnelAuthorization (env : RdgConnectEnvironment) : Option (List UInt8) :=
  match env.clientHostname with
  | none => none
  | some clientName =>
    if clientName.length > UINT16_MAX / 2 then none
    else some (packetHeader PKT_TYPE_TUNNEL_AUTH 0 (12 + clientName.length * 2) ++
      (bytesUInt16 0 ++ bytesUInt16 (clientName.length * 2) ++ bytesUtf16 clientName))

/-- The packet of `rdg_send_channel_create`. A name that is not converted is sent as an empty one. -/
def channelCreateRequest (env : RdgConnectEnvironment) : Option (List UInt8) :=
  let serverName := env.serverHostname.getD []
  if serverName.length > UINT16_MAX / 2 then none
  else some (packetHeader PKT_TYPE_CHANNEL_CREATE 0 (16 + serverName.length * 2) ++
    (bytesUInt8 1 ++ bytesUInt8 0 ++ bytesUInt16 env.serverPort ++ bytesUInt16 3 ++
      bytesUInt16 (serverName.length * 2) ++ bytesUtf16 serverName))

/-- A request whose packet may be missing. -/
def rdgSendOptional (env : RdgConnectEnvironment) (rdg : RdgClient) (packet : Option (List UInt8))
    (state : RdgClientState) : Bool × RdgClient :=
  match packet with
  | none => (false, rdg)
  | some packet => rdgSendRequest env rdg packet state

/-- `rdg_send_tunnel_request`. -/
def rdgSendTunnelRequest (env : RdgConnectEnvironment) (rdg : RdgClient) : Bool × RdgClient :=
  rdgSendOptional env rdg (tunnelRequest env) .tunnelCreate

/-- `rdg_send_tunnel_authorization`. -/
def rdgSendTunnelAuthorization (env : RdgConnectEnvironment) (rdg : RdgClient) :
    Bool × RdgClient :=
  rdgSendOptional env rdg (tunnelAuthorization env) .tunnelAuthorize

/-- `rdg_send_channel_create`. -/
def rdgSendChannelCreate (env : RdgConnectEnvironment) (rdg : RdgClient) : Bool × RdgClient :=
  rdgSendOptional env rdg (channelCreateRequest env) .channelCreate

/-! ### Responses -/

/-- The result of a handler: `none` if its behaviour is undefined. -/
abbrev RdgHandled := Option Bool × RdgClient

/-- A result that is defined. -/
def RdgHandled.of (result : Bool × RdgClient) : RdgHandled := (some result.1, result.2)

/-- `FAILED`. -/
def failedCode (errorCode : Nat) : Bool := 2 ^ 31 ≤ errorCode

/-- The common part of the handlers: the response has its own state, a minimum length and an error
code at some offset. -/
def rdgProcessResponse (own : RdgClientState) (minimum offset : Nat) (rdg : RdgClient) (s : WStream)
    (proceed : RdgHandled) : RdgHandled :=
  if rdg.state ≠ own then (some false, rdg)
  else if s.remainingLength < minimum then (some false, rdg)
  else
    let (errorCode, _) := (s.seek offset).readUInt32
    if failedCode errorCode then (some false, { rdg with lastError := errorCode })
    else proceed

/-- `rdg_process_handshake_response`. -/
def rdgProcessHandshakeResponse (env : RdgConnectEnvironment) (rdg : RdgClient) (s : WStream) :
    RdgHandled :=
  rdgProcessResponse .handshake 10 0 rdg s (.of (rdgSendTunnelRequest env rdg))

/-- The consent message of a tunnel response. -/
def rdgProcessConsent (env : RdgConnectEnvironment) (fieldsPresent : Nat) (s : WStream) :
    Option Bool :=
  if fieldsPresent &&& HTTP_TUNNEL_RESPONSE_FIELD_CONSENT_MSG ≠ 0 then
    match rdgReadHttpUnicodeString env.logsErrors s with
    | none => none
    | some none => some false
    | some (some (msg, _)) =>
      match env.presentGatewayMessage with
      | none => some true
      | some present => some (present msg)
  else some true

/-- The nonce and the certificate of a tunnel response, and what follows. -/
def rdgProcessSohRequest (env : RdgConnectEnvironment) (fieldsPresent : Nat) (s : WStream) :
    Option Bool :=
  if fieldsPresent &&& HTTP_TUNNEL_RESPONSE_FIELD_SOH_REQ ≠ 0 then
    match s.safeSeek 20 with
    | none => some false
    | some s =>
      match rdgReadHttpUnicodeString env.logsErrors s with
      | none => none
      | some none => some false
      | some (some (_, s)) => rdgProcessConsent env fieldsPresent s
  else rdgProcessConsent env fieldsPresent s

/-- The capabilities of a tunnel response, and what follows. -/
def rdgProcessCaps (env : RdgConnectEnvironment) (fieldsPresent : Nat) (s : WStream) :
    Option Bool :=
  if fieldsPresent &&& HTTP_TUNNEL_RESPONSE_FIELD_CAPS ≠ 0 then
    if s.remainingLength < 4 then some false
    else rdgProcessSohRequest env fieldsPresent (s.seek 4)
  else rdgProcessSohRequest env fieldsPresent s

/-- `rdg_process_tunnel_response_optional`. -/
def rdgProcessTunnelResponseOptional (env : RdgConnectEnvironment) (fieldsPresent : Nat)
    (s : WStream) : Option Bool :=
  if fieldsPresent &&& HTTP_TUNNEL_RESPONSE_FIELD_TUNNEL_ID ≠ 0 then
    match s.safeSeek 4 with
    | none => some false
    | some s => rdgProcessCaps env fieldsPresent s
  else rdgProcessCaps env fieldsPresent s

/-- `rdg_process_tunnel_response`. -/
def rdgProcessTunnelResponse (env : RdgConnectEnvironment) (rdg : RdgClient) (s : WStream) :
    RdgHandled :=
  let (fieldsPresent, _) := (s.seek 6).readUInt16
  rdgProcessResponse .tunnelCreate 10 2 rdg s
    (match rdgProcessTunnelResponseOptional env fieldsPresent (s.seek 10) with
    | none => (none, rdg)
    | some false => (some false, rdg)
    | some true => .of (rdgSendTunnelAuthorization env rdg))

/-- `rdg_process_tunnel_authorization_response`. -/
def rdgProcessTunnelAuthorizationResponse (env : RdgConnectEnvironment) (rdg : RdgClient)
    (s : WStream) : RdgHandled :=
  rdgProcessResponse .tunnelAuthorize 8 0 rdg s (.of (rdgSendChannelCreate env rdg))

/-- `rdg_process_channel_response`. -/
def rdgProcessChannelResponse (rdg : RdgClient) (s : WStream) : RdgHandled :=
  rdgProcessResponse .channelCreate 8 0 rdg s (some true, rdg.setState .opened)

/-- The switch over the type of a packet. -/
def rdgDispatchPacket (env : RdgConnectEnvironment) (rdg : RdgClient) (type : Nat) (s : WStream) :
    RdgHandled :=
  if type = PKT_TYPE_HANDSHAKE_RESPONSE then rdgProcessHandshakeResponse env rdg s
  else if type = PKT_TYPE_TUNNEL_RESPONSE then rdgProcessTunnelResponse env rdg s
  else if type = PKT_TYPE_TUNNEL_AUTH_RESPONSE then
    rdgProcessTunnelAuthorizationResponse env rdg s
  else if type = PKT_TYPE_CHANNEL_RESPONSE then rdgProcessChannelResponse rdg s
  else if type = PKT_TYPE_DATA then (some false, rdg)
  else (some true, rdg)

/-- `rdg_process_packet`. -/
def rdgProcessPacket (env : RdgConnectEnvironment) (rdg : RdgClient) (packet : List UInt8) :
    RdgHandled :=
  let s := WStream.ofBytes packet
  if s.remainingLength < 8 then (some false, rdg)
  else
    let (type, s) := s.readUInt16
    let (packetLength, s) := (s.seek 2).readUInt32
    if packet.length < packetLength then (some false, rdg)
    else rdgDispatchPacket env rdg type s

/-! ### Receiving -/

/-- A round of `rdg_read_all`. -/
def rdgReadAllRound (size : Nat) (s : SocketRead) : Round SocketRead SocketReadEnd :=
  let readCount := s.bytes.length
  if ¬ readCount < size then .done (.complete s)
  else
    let (status, bytes, bio) := bioRead (size - readCount) s.bio
    if status ≤ 0 then
      if s.bio = [] then .done (.failed ⟨bio, s.bytes⟩) else .next ⟨bio, s.bytes⟩
    else .next ⟨bio, s.bytes ++ bytes⟩

/-- `rdg_read_all`. -/
def rdgReadAll (size : Nat) (bio : List BioEvent) : Option SocketReadEnd :=
  readLoop bio (rdgReadAllRound size)

/-- The second half of `rdg_receive_packet`: what follows the header. -/
def rdgReceivePayload (env : RdgConnectEnvironment) (header : SocketRead) :
    Option (Option (List UInt8) × List BioEvent) :=
  let (packetLength, _) := ((WStream.ofBytes header.bytes).seek 4).readUInt32
  if packetLength > INT_MAX ∨ !env.ensureCapacity packetLength ∨ packetLength < 8 then
    some (none, header.bio)
  else
    (rdgReadAll (packetLength - 8) header.bio).map fun outcome =>
      match outcome with
      | .complete s => (some (header.bytes ++ s.bytes), s.bio)
      | .noData s => (none, s.bio)
      | .failed s => (none, s.bio)

/-- `rdg_receive_packet`: a packet, if one is received, and the source. -/
def rdgReceivePacket (env : RdgConnectEnvironment) (bio : List BioEvent) :
    Option (Option (List UInt8) × List BioEvent) :=
  if !env.malloc.succeeds 1024 then some (none, bio)
  else
    (rdgReadAll 8 bio).bind fun outcome =>
      match outcome with
      | .complete s => rdgReceivePayload env s
      | .noData s => some (none, s.bio)
      | .failed s => some (none, s.bio)

/-- How `rdg_tunnel_connect` ends. -/
inductive RdgConnectEnd where
  | returned (status : Bool) (rdg : RdgClient)
  | undefined (rdg : RdgClient)
  | diverged
  deriving DecidableEq, Repr

/-- What follows a packet in the loop of `rdg_tunnel_connect`. -/
def rdgConnectContinue (result : RdgHandled) : Round RdgClient RdgConnectEnd :=
  match result with
  | (none, rdg) => .done (.undefined rdg)
  | (some false, rdg) => .done (.returned false { rdg with layerClosed := true })
  | (some true, rdg) => .next rdg

/-- One round of the loop of `rdg_tunnel_connect`. -/
def rdgConnectRound (env : RdgConnectEnvironment) (rdg : RdgClient) :
    Round RdgClient RdgConnectEnd :=
  if ¬ rdg.state.toNat < RdgClientState.opened.toNat then .done (.returned true rdg)
  else
    match rdgReceivePacket env rdg.bio with
    | none => .done .diverged
    | some (none, bio) => rdgConnectContinue (some false, { rdg with bio := bio })
    | some (some packet, bio) => rdgConnectContinue (rdgProcessPacket env
        { rdg with bio := bio, log := rdg.log ++ [.received packet] } packet)

/-- `rdg_tunnel_connect` of an rdg in its initial state. -/
def rdgTunnelConnect (env : RdgConnectEnvironment) (bio : List BioEvent) : Option RdgConnectEnd :=
  loop (rdgConnectRound env) (bioSize bio + 2)
    (rdgSendHandshake env ⟨.initial, bio, 0, false, []⟩).2

end FreeRdp
