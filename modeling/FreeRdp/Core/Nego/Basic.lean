import FreeRdp.Core.Tpkt

/-!
# Security negotiation

The client side of `nego.c`: `nego_connect` tries the enabled protocols from the strongest to the
weakest, one connection per attempt, until the server's connection confirm settles on one.

What the network does is an argument of the model: `NegoEnv` lists, attempt by attempt, the
answers of the transport functions that `nego.c` calls.
-/

namespace FreeRdp

def PROTOCOL_RDP : Nat := 0
def PROTOCOL_SSL : Nat := 1
def PROTOCOL_HYBRID : Nat := 2
def PROTOCOL_HYBRID_EX : Nat := 8

def TYPE_RDP_NEG_REQ : Nat := 1
def TYPE_RDP_NEG_RSP : Nat := 2
def TYPE_RDP_NEG_FAILURE : Nat := 3

def SSL_NOT_ALLOWED_BY_SERVER : Nat := 2
def SSL_CERT_NOT_ON_SERVER : Nat := 3

def RESTRICTED_ADMIN_MODE_REQUIRED : Nat := 1

/-- `ENCRYPTION_METHOD_40BIT | _56BIT | _128BIT | _FIPS`. -/
def allEncryptionMethods : Nat := 0x1 ||| 0x8 ||| 0x2 ||| 0x10

/-- `NEGO_STATE`. -/
inductive NegoState where
  | initial | ext | nla | tls | rdp | fail | final
  deriving DecidableEq, Repr

/-- The settings that a finished negotiation writes. -/
structure NegoSettings where
  requestedProtocols : Nat
  selectedProtocol : Nat
  negotiationFlags : Nat
  useRdpSecurityLayer : Bool
  encryptionMethods : Nat
  deriving DecidableEq, Repr

/-- A connection request as `transport_write` received it. -/
structure ConnectionRequest where
  requestedProtocols : Nat
  pdu : List UInt8
  deriving DecidableEq, Repr

/-- `rdpNego`. The field `sent` stands for the outgoing side of `nego->transport`: the connection
requests handed to it so far. -/
structure Nego where
  state : NegoState
  enabledProtocols : Nat → Bool
  selectedProtocol : Nat
  requestedProtocols : Nat
  flags : Nat
  sendNegoData : Bool
  negotiateSecurityLayer : Bool
  restrictedAdminModeRequired : Bool
  sendPreconnectionPdu : Bool
  gatewayEnabled : Bool
  gatewayBypassLocal : Bool
  routingToken : Option (List UInt8)
  cookie : Option (List UInt8)
  cookieMaxLength : Nat
  tcpConnected : Bool
  securityConnected : Bool
  settings : NegoSettings
  sent : List ConnectionRequest

/-- What the transport answers during one attempt: `transport_connect` (given whether the gateway
is used), `transport_write`, and `transport_read_pdu` with the stream it leaves behind (`none` is
a negative status). -/
structure TransportAnswers where
  connect : Bool → Bool
  write : Bool
  readPdu : Option WStream

/-- The network during one `nego_connect`. -/
structure NegoEnv where
  preconnection : TransportAnswers
  attempts : Nat → TransportAnswers
  connectNla : Bool
  connectTls : Bool
  connectRdp : Bool

/-- `nego_security_connect`. -/
def negoSecurityConnect (env : NegoEnv) (nego : Nego) : Bool × Nego :=
  let nego :=
    if !nego.tcpConnected then { nego with securityConnected := false }
    else if !nego.securityConnected then
      if nego.selectedProtocol = PROTOCOL_HYBRID then
        { nego with securityConnected := env.connectNla }
      else if nego.selectedProtocol = PROTOCOL_SSL then
        { nego with securityConnected := env.connectTls }
      else if nego.selectedProtocol = PROTOCOL_RDP then
        { nego with securityConnected := env.connectRdp }
      else nego
    else nego
  (nego.securityConnected, nego)

/-- `nego_tcp_connect`. -/
def negoTcpConnect (a : TransportAnswers) (nego : Nego) : Bool × Nego :=
  let nego :=
    if !nego.tcpConnected then
      if nego.gatewayEnabled then
        -- a direct connection first when the gateway may be bypassed, then the gateway
        let nego :=
          if nego.gatewayBypassLocal then { nego with tcpConnected := a.connect false } else nego
        if !nego.tcpConnected then { nego with tcpConnected := a.connect true } else nego
      else { nego with tcpConnected := a.connect false }
    else nego
  (nego.tcpConnected, nego)

/-- `nego_transport_connect`. -/
def negoTransportConnect (env : NegoEnv) (a : TransportAnswers) (nego : Nego) : Bool × Nego :=
  let (ok, nego) := negoTcpConnect a nego
  if !ok then (false, nego)
  else if nego.tcpConnected && !nego.negotiateSecurityLayer then negoSecurityConnect env nego
  else (nego.tcpConnected, nego)

/-- `nego_transport_disconnect`. -/
def negoTransportDisconnect (nego : Nego) : Nego :=
  { nego with tcpConnected := false, securityConnected := false }

/-- The routing token or the cookie of a connection request. -/
def negoRequestToken (nego : Nego) : List UInt8 :=
  match nego.routingToken, nego.cookie with
  | some token, _ =>
    if 2 < token.length ∧ token.drop (token.length - 2) = [0x0D, 0x0A] then token
    else token ++ [0x0D, 0x0A]
  | none, some cookie =>
    -- "Cookie: mstshash="
    [0x43, 0x6F, 0x6F, 0x6B, 0x69, 0x65, 0x3A, 0x20, 0x6D, 0x73, 0x74, 0x73, 0x68, 0x61, 0x73,
      0x68, 0x3D] ++ cookie.take nego.cookieMaxLength ++ [0x0D, 0x0A]
  | none, none => []

/-- The `RDP_NEG_REQ` block of a connection request. -/
def negoRequestData (nego : Nego) : List UInt8 :=
  if nego.requestedProtocols > PROTOCOL_RDP ∨ nego.sendNegoData then
    bytesUInt8 TYPE_RDP_NEG_REQ ++
      bytesUInt8 (if nego.restrictedAdminModeRequired then RESTRICTED_ADMIN_MODE_REQUIRED else 0) ++
      bytesUInt16 8 ++ bytesUInt32 nego.requestedProtocols
  else []

/-- `nego_send_negotiation_request`. -/
def negoSendNegotiationRequest (a : TransportAnswers) (nego : Nego) : Bool × Nego :=
  let body := negoRequestToken nego ++ negoRequestData nego
  let length := TPDU_CONNECTION_REQUEST_LENGTH + body.length
  if length > 0xFFFF then (false, nego)
  else
    let pdu := tpktWriteHeader length ++ tpduWriteConnectionRequest (length - 5) ++ body
    (a.write, { nego with sent := nego.sent ++ [⟨nego.requestedProtocols, pdu⟩] })

/-- `nego_process_negotiation_response`. -/
def negoProcessNegotiationResponse (nego : Nego) (s : WStream) : Bool × Nego × WStream :=
  if s.remainingLength < 7 then (false, { nego with state := .fail }, s)
  else
    let (flags, s) := s.readUInt8
    let (_length, s) := s.readUInt16
    let (selectedProtocol, s) := s.readUInt32
    (true, { nego with flags := flags, selectedProtocol := selectedProtocol, state := .final }, s)

/-- `nego_process_negotiation_failure`. -/
def negoProcessNegotiationFailure (nego : Nego) (s : WStream) : Bool × Nego × WStream :=
  if s.remainingLength < 7 then (false, nego, s)
  else
    let (_flags, s) := s.readUInt8
    let (_length, s) := s.readUInt16
    let (failureCode, s) := s.readUInt32
    (true, { nego with
      sendNegoData :=
        if failureCode = SSL_NOT_ALLOWED_BY_SERVER ∨ failureCode = SSL_CERT_NOT_ON_SERVER then true
        else nego.sendNegoData
      state := .fail }, s)

/-- The check of the selected protocol that `nego_recv` makes behind an `RDP_NEG_RSP`. -/
def negoCheckSelectedProtocol (nego : Nego) : Nego :=
  if nego.selectedProtocol ≠ 0 then
    let nego :=
      if nego.selectedProtocol = PROTOCOL_HYBRID ∧ !nego.enabledProtocols PROTOCOL_HYBRID then
        { nego with state := .fail }
      else nego
    if nego.selectedProtocol = PROTOCOL_SSL ∧ !nego.enabledProtocols PROTOCOL_SSL then
      { nego with state := .fail }
    else nego
  else if !nego.enabledProtocols PROTOCOL_RDP then { nego with state := .fail }
  else nego

/-- The switch over the type of `rdpNegData` in `nego_recv`. -/
def negoRecvNegData (nego : Nego) (s : WStream) : Bool × Nego :=
  let (type, s) := s.readUInt8
  if type = TYPE_RDP_NEG_RSP then
    match negoProcessNegotiationResponse nego s with
    | (false, nego, _) => (false, nego)
    | (true, nego, s) => (tpktEnsureStreamConsumed s, negoCheckSelectedProtocol nego)
  else if type = TYPE_RDP_NEG_FAILURE then
    match negoProcessNegotiationFailure nego s with
    | (false, nego, _) => (false, nego)
    | (true, nego, s) => (tpktEnsureStreamConsumed s, nego)
  else (tpktEnsureStreamConsumed s, nego)

/-- `nego_recv`: `false` is the status -1. The object may have changed even then. -/
def negoRecv (nego : Nego) (s : WStream) : Bool × Nego :=
  match tpktReadHeader s with
  | none => (false, nego)
  | some (length, s) =>
    match tpduReadConnectionConfirm s length with
    | none => (false, nego)
    | some (li, s) =>
      if li > 6 then negoRecvNegData nego s
      else if li = 6 then
        (tpktEnsureStreamConsumed s,
          if !nego.enabledProtocols PROTOCOL_RDP then { nego with state := .fail }
          else { nego with state := .final })
      else (tpktEnsureStreamConsumed s, { nego with state := .fail })

/-- `nego_recv_response`. -/
def negoRecvResponse (a : TransportAnswers) (nego : Nego) : Bool × Nego :=
  match a.readPdu with
  | none => (false, nego)
  | some s => negoRecv nego s

/-- The part that the four `nego_attempt_*` functions share: connect, request, wait for the reply.
Any failure on the way ends in `NEGO_STATE_FAIL`, and `false` is returned. -/
def negoAttempt (requested : Nat) (env : NegoEnv) (a : TransportAnswers) (nego : Nego) :
    Bool × Nego :=
  let nego := { nego with requestedProtocols := requested }
  match negoTransportConnect env a nego with
  | (false, nego) => (false, { nego with state := .fail })
  | (true, nego) =>
    match negoSendNegotiationRequest a nego with
    | (false, nego) => (false, { nego with state := .fail })
    | (true, nego) =>
      match negoRecvResponse a nego with
      | (false, nego) => (false, { nego with state := .fail })
      | (true, nego) => (true, nego)

/-- The end of `nego_attempt_ext`, `_nla` and `_tls`: unless the reply was final, disconnect and
go on with the first enabled one of the weaker protocols. -/
def negoFallBack (weaker : List (Nat × NegoState)) (nego : Nego) : Nego :=
  if nego.state ≠ .final then
    let nego := negoTransportDisconnect nego
    match weaker.find? (fun p => nego.enabledProtocols p.1) with
    | some p => { nego with state := p.2 }
    | none => { nego with state := .fail }
  else nego

/-- `nego_attempt_ext`. -/
def negoAttemptExt (env : NegoEnv) (a : TransportAnswers) (nego : Nego) : Nego :=
  match negoAttempt (PROTOCOL_HYBRID ||| PROTOCOL_SSL ||| PROTOCOL_HYBRID_EX) env a nego with
  | (false, nego) => nego
  | (true, nego) =>
    negoFallBack [(PROTOCOL_HYBRID, .nla), (PROTOCOL_SSL, .tls), (PROTOCOL_RDP, .rdp)] nego

/-- `nego_attempt_nla`. -/
def negoAttemptNla (env : NegoEnv) (a : TransportAnswers) (nego : Nego) : Nego :=
  match negoAttempt (PROTOCOL_HYBRID ||| PROTOCOL_SSL) env a nego with
  | (false, nego) => nego
  | (true, nego) => negoFallBack [(PROTOCOL_SSL, .tls), (PROTOCOL_RDP, .rdp)] nego

/-- `nego_attempt_tls`. -/
def negoAttemptTls (env : NegoEnv) (a : TransportAnswers) (nego : Nego) : Nego :=
  match negoAttempt PROTOCOL_SSL env a nego with
  | (false, nego) => nego
  | (true, nego) => negoFallBack [(PROTOCOL_RDP, .rdp)] nego

/-- `nego_attempt_rdp`. Unlike its siblings it does not look at the state the reply led to: it
neither disconnects nor moves on. -/
def negoAttemptRdp (env : NegoEnv) (a : TransportAnswers) (nego : Nego) : Nego :=
  (negoAttempt PROTOCOL_RDP env a nego).2

/-- `nego_send`. -/
def negoSend (env : NegoEnv) (a : TransportAnswers) (nego : Nego) : Nego :=
  match nego.state with
  | .ext => negoAttemptExt env a nego
  | .nla => negoAttemptNla env a nego
  | .tls => negoAttemptTls env a nego
  | .rdp => negoAttemptRdp env a nego
  | _ => nego

/-- The do/while loop of `nego_connect`, from its attempt number `i`; `none` when `fuel` attempts
do not end it. -/
def negoLoop (env : NegoEnv) : Nat → Nat → Nego → Option (Bool × Nego)
  | 0, _, _ => none
  | fuel + 1, i, nego =>
    let nego := negoSend env (env.attempts i) nego
    if nego.state = .fail then some (false, { nego with state := .final })
    else if nego.state ≠ .final then negoLoop env fuel (i + 1) nego
    else some (true, nego)

/-- `nego_send_preconnection_pdu`: whether it succeeds. The PDU's text is not kept. -/
def negoSendPreconnectionPdu (env : NegoEnv) (nego : Nego) : Bool × Nego :=
  match negoTcpConnect env.preconnection nego with
  | (false, nego) => (false, nego)
  | (true, nego) => (env.preconnection.write, nego)

/-- The preconnection PDU at the start of `nego_connect`. -/
def negoPreconnect (env : NegoEnv) (nego : Nego) : Bool × Nego :=
  if nego.sendPreconnectionPdu then
    match negoSendPreconnectionPdu env nego with
    | (false, nego) => (false, { nego with state := .final })
    | (true, nego) => (true, nego)
  else (true, nego)

/-- Without negotiation only the highest enabled protocol is attempted. -/
def negoSelectHighest (nego : Nego) : Nego :=
  match nego.state with
  | .ext =>
    { nego with
      enabledProtocols := fun p => p == PROTOCOL_HYBRID_EX || p == PROTOCOL_HYBRID,
      selectedProtocol := PROTOCOL_HYBRID_EX }
  | .nla =>
    { nego with
      enabledProtocols := fun p => p == PROTOCOL_HYBRID,
      selectedProtocol := PROTOCOL_HYBRID }
  | .tls =>
    { nego with
      enabledProtocols := fun p => p == PROTOCOL_SSL,
      selectedProtocol := PROTOCOL_SSL }
  | .rdp =>
    { nego with
      enabledProtocols := fun p => p == PROTOCOL_RDP,
      selectedProtocol := PROTOCOL_RDP }
  | _ => nego

/-- The block of `nego_connect` for `NEGO_STATE_INITIAL`; `false` when it returns `FALSE`. -/
def negoStart (env : NegoEnv) (nego : Nego) : Bool × Nego :=
  let strongest :=
    [(PROTOCOL_HYBRID_EX, NegoState.ext), (PROTOCOL_HYBRID, .nla), (PROTOCOL_SSL, .tls),
      (PROTOCOL_RDP, .rdp)].find? (fun p => nego.enabledProtocols p.1)
  match strongest with
  | none => (false, { nego with state := .fail })
  | some p =>
    let nego := { nego with state := p.2 }
    negoPreconnect env (if !nego.negotiateSecurityLayer then negoSelectHighest nego else nego)

/-- The end of `nego_connect`: update the settings and connect the security layer. -/
def negoFinish (env : NegoEnv) (nego : Nego) : Bool × Nego :=
  let settings := { nego.settings with
    requestedProtocols := nego.requestedProtocols
    selectedProtocol := nego.selectedProtocol
    negotiationFlags := nego.flags }
  let settings :=
    if nego.selectedProtocol = PROTOCOL_RDP then
      { settings with
        useRdpSecurityLayer := true
        encryptionMethods :=
          if settings.encryptionMethods = 0 then allEncryptionMethods
          else settings.encryptionMethods }
    else settings
  negoSecurityConnect env { nego with settings := settings }

/-- `nego_connect`, with at most `fuel` attempts; `none` when they do not end the loop. -/
def negoConnect (fuel : Nat) (env : NegoEnv) (nego : Nego) : Option (Bool × Nego) :=
  match if nego.state = .initial then negoStart env nego else (true, nego) with
  | (false, nego) => some (false, nego)
  | (true, nego) =>
    if !nego.negotiateSecurityLayer then
      some (negoFinish env { nego with state := .final })
    else
      match negoLoop env fuel 0 nego with
      | none => none
      | some (false, nego) => some (false, nego)
      | some (true, nego) => some (negoFinish env nego)

end FreeRdp
