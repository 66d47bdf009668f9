import FreeRdp.Core.Nego.Basic

/-!
# One attempt of the negotiation

A server's answer reaches the negotiation as bytes, but only six kinds of it can be told apart.
`Reply` names them, `negoRecv_eq` says what `nego_recv` does with each, and `negoSend_eq` what a
whole attempt does. The proofs about runs use these two and never look into the parser.
-/

namespace FreeRdp

/-- What a connection confirm says to the negotiation. -/
inductive Reply where
  /-- `RDP_NEG_RSP` with its flags and the selected protocol. -/
  | response (flags selectedProtocol : Nat)
  /-- `RDP_NEG_FAILURE`. -/
  | failure (failureCode : Nat)
  /-- A confirm without `rdpNegData` (`LI` is 6). -/
  | noNegData
  /-- `rdpNegData` of another type. -/
  | unrecognised
  /-- A length indicator below 6. -/
  | invalid
  deriving DecidableEq, Repr

namespace Reply

/-- The `rdpNegData` behind a connection confirm with `LI` above 6. -/
def ofNegData (s : WStream) : Option Reply :=
  let (type, s) := s.readUInt8
  if type = TYPE_RDP_NEG_RSP ∨ type = TYPE_RDP_NEG_FAILURE then
    if s.remainingLength < 7 then none
    else
      let (flags, s) := s.readUInt8
      let (value, s) := (s.seek 2).readUInt32
      if !tpktEnsureStreamConsumed s then none
      else if type = TYPE_RDP_NEG_RSP then some (response flags value)
      else some (failure value)
  else if !tpktEnsureStreamConsumed s then none
  else some unrecognised

/-- The reply in a received stream, `none` when `nego_recv` returns -1 for it. -/
def ofStream (s : WStream) : Option Reply :=
  match tpktReadHeader s with
  | none => none
  | some (length, s) =>
    match tpduReadConnectionConfirm s length with
    | none => none
    | some (li, s) =>
      if li > 6 then ofNegData s
      else if !tpktEnsureStreamConsumed s then none
      else if li = 6 then some noNegData
      else some invalid

/-- The effect of a reply on the negotiation. -/
def apply (nego : Nego) : Reply → Nego
  | response flags p =>
    negoCheckSelectedProtocol { nego with flags := flags, selectedProtocol := p, state := .final }
  | failure code =>
    { nego with
      sendNegoData :=
        if code = SSL_NOT_ALLOWED_BY_SERVER ∨ code = SSL_CERT_NOT_ON_SERVER then true
        else nego.sendNegoData
      state := .fail }
  | noNegData =>
    if !nego.enabledProtocols PROTOCOL_RDP then { nego with state := .fail }
    else { nego with state := .final }
  | unrecognised => nego
  | invalid => { nego with state := .fail }

/-- The protocol that a reply settles on: the selected one, or standard RDP security when the
server does not negotiate at all. -/
def selects : Reply → Option Nat
  | response _ p => some p
  | noNegData => some PROTOCOL_RDP
  | _ => none

end Reply

/-- The branch of `nego_recv` for a confirm with `rdpNegData`. -/
private lemma negoRecvNegData_eq (nego : Nego) (s : WStream) :
    (Reply.ofNegData s = none → (negoRecvNegData nego s).1 = false) ∧
      ∀ r, Reply.ofNegData s = some r → negoRecvNegData nego s = (true, r.apply nego) := by
  unfold Reply.ofNegData negoRecvNegData
  dsimp only
  generalize s.readUInt8.1 = type
  generalize s.readUInt8.2 = s
  -- the type byte picks one of the three readers, the first two with a length check of their own
  by_cases hrsp : type = TYPE_RDP_NEG_RSP
  · simp only [if_pos (Or.inl hrsp), if_pos hrsp, negoProcessNegotiationResponse]
    by_cases hlen : s.remainingLength < 7
    · simp [hlen]
    · simp only [if_neg hlen]
      cases hc : tpktEnsureStreamConsumed ((s.readUInt8.2.seek 2).readUInt32).2 with
      | false => simp [hc, WStream.readUInt16]
      | true =>
        simp only [Bool.not_true, Bool.false_eq_true, if_false, reduceCtorEq, false_implies,
          Option.some.injEq, true_and]
        rintro r rfl
        simp [WStream.readUInt16, hc, Reply.apply]
  · by_cases hfail : type = TYPE_RDP_NEG_FAILURE
    · simp only [if_pos (Or.inr hfail), if_neg hrsp, if_pos hfail, negoProcessNegotiationFailure]
      by_cases hlen : s.remainingLength < 7
      · simp [hlen]
      · simp only [if_neg hlen]
        cases hc : tpktEnsureStreamConsumed ((s.readUInt8.2.seek 2).readUInt32).2 with
        | false => simp [hc, WStream.readUInt16]
        | true =>
          simp only [Bool.not_true, Bool.false_eq_true, if_false, reduceCtorEq, false_implies,
            Option.some.injEq, true_and]
          rintro r rfl
          simp only [WStream.readUInt16, hc]
          rfl
    · have hneither : ¬(type = TYPE_RDP_NEG_RSP ∨ type = TYPE_RDP_NEG_FAILURE) := by tauto
      simp only [if_neg hneither, if_neg hrsp, if_neg hfail]
      cases hc : tpktEnsureStreamConsumed s with
      | false => simp
      | true => simp [Reply.apply]

/-- `negoRecv` fails on a stream that carries no reply, and applies the reply otherwise. -/
lemma negoRecv_eq (nego : Nego) (s : WStream) :
    (Reply.ofStream s = none → (negoRecv nego s).1 = false) ∧
      ∀ r, Reply.ofStream s = some r → negoRecv nego s = (true, r.apply nego) := by
  unfold Reply.ofStream negoRecv
  cases tpktReadHeader s with
  | none => simp
  | some p =>
    obtain ⟨length, s⟩ := p
    dsimp only
    cases tpduReadConnectionConfirm s length with
    | none => simp
    | some q =>
      obtain ⟨li, s⟩ := q
      dsimp only
      by_cases hli : li > 6
      · rw [if_pos hli, if_pos hli]
        exact negoRecvNegData_eq nego s
      · rw [if_neg hli, if_neg hli]
        cases hc : tpktEnsureStreamConsumed s with
        | false => by_cases h6 : li = 6 <;> simp [h6]
        | true =>
          by_cases h6 : li = 6
          · simp [h6, Reply.apply]
          · simp only [h6, Bool.not_true, Bool.false_eq_true, if_false, reduceCtorEq, false_implies,
              Option.some.injEq, true_and]
            rintro r rfl
            rfl

/-- The protocols requested by the attempt made in a state. -/
def negoRequested : NegoState → Nat
  | .ext => PROTOCOL_HYBRID ||| PROTOCOL_SSL ||| PROTOCOL_HYBRID_EX
  | .nla => PROTOCOL_HYBRID ||| PROTOCOL_SSL
  | .tls => PROTOCOL_SSL
  | _ => PROTOCOL_RDP

/-- Where an attempt goes on when its reply was not final. -/
def negoWeaker : NegoState → List (Nat × NegoState)
  | .ext => [(PROTOCOL_HYBRID, .nla), (PROTOCOL_SSL, .tls), (PROTOCOL_RDP, .rdp)]
  | .nla => [(PROTOCOL_SSL, .tls), (PROTOCOL_RDP, .rdp)]
  | .tls => [(PROTOCOL_RDP, .rdp)]
  | _ => []

/-- A state in which `nego_send` makes an attempt. -/
def NegoState.Active (state : NegoState) : Prop :=
  state = .ext ∨ state = .nla ∨ state = .tls ∨ state = .rdp

/-- The request an attempt writes. -/
def negoRequest (nego : Nego) : ConnectionRequest :=
  let nego := { nego with requestedProtocols := negoRequested nego.state }
  let body := negoRequestToken nego ++ negoRequestData nego
  let length := TPDU_CONNECTION_REQUEST_LENGTH + body.length
  ⟨nego.requestedProtocols,
    tpktWriteHeader length ++ tpduWriteConnectionRequest (length - 5) ++ body⟩

/-- The object with its request on the wire, waiting for the reply. -/
def negoWaiting (nego : Nego) : Nego :=
  { nego with
    requestedProtocols := negoRequested nego.state
    tcpConnected := true
    sent := nego.sent ++ [negoRequest nego] }

/-- The reply that the attempt of `nego_send` gets to see: `none` when it cannot connect, when the
request does not get out, and when nothing readable comes back. -/
def negoReply (a : TransportAnswers) (nego : Nego) : Option Reply :=
  let nego := { nego with requestedProtocols := negoRequested nego.state }
  if (negoTcpConnect a nego).1 && (negoSendNegotiationRequest a nego).1 then
    a.readPdu.bind Reply.ofStream
  else none

/-- The state after an accepted reply. -/
def negoAfterReply (state : NegoState) (nego : Nego) : Nego :=
  if state = .rdp then nego else negoFallBack (negoWeaker state) nego

lemma negoTcpConnect_eq {a : TransportAnswers} {nego : Nego} (h : (negoTcpConnect a nego).1) :
    negoTcpConnect a nego = (true, { nego with tcpConnected := true }) := by
  obtain ⟨state, enabled, selected, requested, flags, sendData, negotiate, restricted, pre, gw,
    bypass, token, cookie, maxLength, tcp, security, settings, sent⟩ := nego
  cases tcp <;> cases gw <;> cases bypass <;> simp_all [negoTcpConnect]
  -- direct connection first: it either stands or the gateway is asked
  cases hd : a.connect false <;> simp_all

section Attempt

variable (env : NegoEnv) (a : TransportAnswers) {nego : Nego}

/-- While the security layer is negotiated, connecting the transport is connecting TCP. -/
lemma negoTransportConnect_eq (hneg : nego.negotiateSecurityLayer = true) :
    negoTransportConnect env a nego =
      if (negoTcpConnect a nego).1 then (true, { nego with tcpConnected := true })
      else (false, (negoTcpConnect a nego).2) := by
  unfold negoTransportConnect
  by_cases h : (negoTcpConnect a nego).1
  · simp [negoTcpConnect_eq h, hneg]
  · simp [h]

/-- The connection does not show in the request. -/
lemma negoSendNegotiationRequest_tcpConnected (nego : Nego) (b : Bool) :
    negoSendNegotiationRequest a { nego with tcpConnected := b } =
      ((negoSendNegotiationRequest a nego).1,
        { (negoSendNegotiationRequest a nego).2 with tcpConnected := b }) := by
  have htoken : negoRequestToken { nego with tcpConnected := b } = negoRequestToken nego := rfl
  have hdata : negoRequestData { nego with tcpConnected := b } = negoRequestData nego := rfl
  simp only [negoSendNegotiationRequest, htoken, hdata]
  split <;> rfl

/-- A request that gets out is recorded as `negoRequest`. -/
lemma negoSendNegotiationRequest_snd
    (h : (negoSendNegotiationRequest a
      { nego with requestedProtocols := negoRequested nego.state }).1 = true) :
    { (negoSendNegotiationRequest a
      { nego with requestedProtocols := negoRequested nego.state }).2 with tcpConnected := true } =
      negoWaiting nego := by
  unfold negoSendNegotiationRequest at h ⊢
  dsimp only at h ⊢
  split at h
  · cases h
  · rename_i hlen
    rw [if_neg hlen]
    rfl

/-- The shared part of an attempt, in terms of the reply it gets. -/
lemma negoAttempt_eq (hneg : nego.negotiateSecurityLayer = true) :
    (negoReply a nego = none →
      (negoAttempt (negoRequested nego.state) env a nego).1 = false ∧
        (negoAttempt (negoRequested nego.state) env a nego).2.state = .fail) ∧
      ∀ r, negoReply a nego = some r →
        negoAttempt (negoRequested nego.state) env a nego = (true, r.apply (negoWaiting nego)) := by
  have hsnd := @negoSendNegotiationRequest_snd a nego
  unfold negoReply negoAttempt
  dsimp only
  rw [negoTransportConnect_eq env a (by exact hneg)]
  generalize ({ nego with requestedProtocols := negoRequested nego.state } : Nego) = n at hsnd ⊢
  cases htcp : (negoTcpConnect a n).1 with
  | false => simp
  | true =>
    simp only [if_true, negoSendNegotiationRequest_tcpConnected, Bool.true_and]
    cases hw : (negoSendNegotiationRequest a n).1 with
    | false => simp
    | true =>
      rw [hsnd hw]
      simp only [if_true, negoRecvResponse]
      cases a.readPdu with
      | none => simp
      | some s =>
        obtain ⟨hnone, hsome⟩ := negoRecv_eq (negoWaiting nego) s
        refine ⟨fun h => ?_, fun r h => ?_⟩
        · have hfalse := hnone h
          rcases hr : negoRecv (negoWaiting nego) s with ⟨b, n'⟩
          rw [hr] at hfalse
          subst hfalse
          simp only [hr, and_self]
        · simp only [hsome r h]

/-- An attempt without a reply fails for good; with one it goes where the reply sends it. -/
lemma negoSend_eq (hneg : nego.negotiateSecurityLayer = true) (hact : nego.state.Active) :
    (negoReply a nego = none → (negoSend env a nego).state = .fail) ∧
      ∀ r, negoReply a nego = some r →
        negoSend env a nego = negoAfterReply nego.state (r.apply (negoWaiting nego)) := by
  obtain ⟨hnone, hsome⟩ := negoAttempt_eq env a hneg
  refine ⟨fun h => ?_, fun r h => ?_⟩
  · obtain ⟨h1, h2⟩ := hnone h
    rcases hr : negoAttempt (negoRequested nego.state) env a nego with ⟨b, n'⟩
    rw [hr] at h1 h2
    subst h1
    rcases hact with hs | hs | hs | hs <;> rw [hs] at hr <;>
      simp_all [negoSend, negoAttemptExt, negoAttemptNla, negoAttemptTls, negoAttemptRdp,
        negoRequested]
  · have hr := hsome r h
    rcases hact with hs | hs | hs | hs <;> rw [hs] at hr <;>
      simp_all [negoSend, negoAttemptExt, negoAttemptNla, negoAttemptTls, negoAttemptRdp,
        negoRequested, negoAfterReply, negoWeaker]

end Attempt

end FreeRdp
