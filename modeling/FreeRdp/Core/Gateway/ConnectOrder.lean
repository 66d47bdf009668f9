import FreeRdp.Core.Gateway.TunnelConnect

/-!
# The order in which a gateway tunnel is opened

`ConnectLog` is the protocol: the logs of a client that has got every response in its own state. Each
round of `rdg_tunnel_connect` is a step of it, or the last one.
-/

namespace FreeRdp

/-! ### The protocol -/

namespace RdgClientState

/-- The state that follows. -/
def next : RdgClientState → RdgClientState
  | .initial => .handshake
  | .handshake => .tunnelCreate
  | .tunnelCreate => .tunnelAuthorize
  | .tunnelAuthorize => .channelCreate
  | .channelCreate => .opened
  | .opened => .opened

/-- The length that a response has at least, behind its header. -/
def minimumLength : RdgClientState → Nat
  | .handshake => 10
  | .tunnelCreate => 10
  | _ => 8

/-- Where a response has its error code, behind its header. -/
def codeOffset : RdgClientState → Nat
  | .tunnelCreate => 2
  | _ => 0

/-- The request that leads to a state. -/
def request (env : RdgConnectEnvironment) : RdgClientState → Option (List UInt8)
  | .handshake => some (handshakeRequest env)
  | .tunnelCreate => tunnelRequest env
  | .tunnelAuthorize => tunnelAuthorization env
  | .channelCreate => channelCreateRequest env
  | _ => none

end RdgClientState

/-- The type of a packet. -/
def packetType (packet : List UInt8) : Nat := (WStream.ofBytes packet).readUInt16.1

/-- The state that a response belongs to. -/
def responseState (packet : List UInt8) : Option RdgClientState :=
  if packetType packet = PKT_TYPE_HANDSHAKE_RESPONSE then some .handshake
  else if packetType packet = PKT_TYPE_TUNNEL_RESPONSE then some .tunnelCreate
  else if packetType packet = PKT_TYPE_TUNNEL_AUTH_RESPONSE then some .tunnelAuthorize
  else if packetType packet = PKT_TYPE_CHANNEL_RESPONSE then some .channelCreate
  else none

/-- A packet that is neither a response nor data. -/
def Unrecognised (packet : List UInt8) : Prop :=
  responseState packet = none ∧ packetType packet ≠ PKT_TYPE_DATA

/-- A response of a state: long enough, and without a failing code. -/
structure Answers (own : RdgClientState) (packet : List UInt8) : Prop where
  state_eq : responseState packet = some own
  length_le : 8 + own.minimumLength ≤ packet.length
  code : failedCode ((WStream.ofBytes packet).seek (8 + own.codeOffset)).readUInt32.1 = false

/-- The logs of clients in a state. -/
inductive ConnectLog (env : RdgConnectEnvironment) : RdgClientState → List RdgEvent → Prop
  | noMemory : ConnectLog env .initial []
  | notWritten : ConnectLog env .initial [.wrote (handshakeRequest env) false]
  | written : ConnectLog env .handshake
      [.wrote (handshakeRequest env) true, .state .handshake]
  | unrecognised {state : RdgClientState} {log : List RdgEvent} {packet : List UInt8}
      (h : ConnectLog env state log) (hstate : state ≠ .opened) (hpacket : Unrecognised packet) :
      ConnectLog env state (log ++ [.received packet])
  | answered {state : RdgClientState} {log : List RdgEvent} {packet request : List UInt8}
      (h : ConnectLog env state log) (hpacket : Answers state packet)
      (hrequest : state.next.request env = some request) :
      ConnectLog env state.next
        (log ++ [.received packet, .wrote request true, .state state.next])
  | opened {log : List RdgEvent} {packet : List UInt8} (h : ConnectLog env .channelCreate log)
      (hpacket : Answers .channelCreate packet) :
      ConnectLog env .opened (log ++ [.received packet, .state .opened])

/-! ### One packet -/

section Packet

variable {env : RdgConnectEnvironment} {rdg : RdgClient} {packet : List UInt8}

/-- What a handler does with a packet. Only a response in its own state can lead to a write, or to
undefined behaviour. -/
inductive RdgProcessed (env : RdgConnectEnvironment) (rdg : RdgClient) (packet : List UInt8) :
    RdgHandled → Prop
  | unrecognised (hpacket : Unrecognised packet) : RdgProcessed env rdg packet (some true, rdg)
  | answered (rdg' : RdgClient) (request : List UInt8) (hpacket : Answers rdg.state packet)
      (hrequest : rdg.state.next.request env = some request)
      (hstate : rdg'.state = rdg.state.next) (hbio : rdg'.bio = rdg.bio)
      (hlog : rdg'.log = rdg.log ++ [.wrote request true, .state rdg.state.next]) :
      RdgProcessed env rdg packet (some true, rdg')
  | opened (hstate : rdg.state = .channelCreate) (hpacket : Answers .channelCreate packet) :
      RdgProcessed env rdg packet (some true, rdg.setState .opened)
  | failed (status : Option Bool) (rdg' : RdgClient) (tail : List RdgEvent)
      (hstatus : status ≠ some true) (hlog : rdg'.log = rdg.log ++ tail)
      (htail : tail = [] ∨ ∃ request, tail = [.wrote request false])
      (hwrong : responseState packet ≠ some rdg.state → tail = [] ∧ status = some false) :
      RdgProcessed env rdg packet (status, rdg')

/-- A handler that gives up. -/
lemma RdgProcessed.giveUp {rdg' : RdgClient} (hlog : rdg'.log = rdg.log) :
    RdgProcessed env rdg packet (some false, rdg') :=
  .failed (some false) rdg' [] (by decide) (by rw [hlog, List.append_nil]) (.inl rfl)
    fun _ => ⟨rfl, rfl⟩

/-- A request that answers a response in its own state. -/
lemma rdgProcessed_sendOptional {state : RdgClientState} (hstate : rdg.state = state)
    (hpacket : Answers state packet) :
    RdgProcessed env rdg packet
      (.of (rdgSendOptional env rdg (state.next.request env) state.next)) := by
  subst hstate
  cases hrequest : rdg.state.next.request env with
  | none => exact .giveUp rfl
  | some request =>
    rw [rdgSendOptional, rdgSendRequest]
    by_cases hmalloc : env.malloc.succeeds request.length = true
    · rw [hmalloc, if_neg (by decide)]
      cases hwrite : env.writePacket rdg.log request with
      | true =>
        refine .answered _ request hpacket hrequest rfl rfl ?_
        exact (List.append_assoc rdg.log [_] [_])
      | false =>
        exact .failed (some false) _ [.wrote request false] (by decide) rfl (.inr ⟨request, rfl⟩)
          fun hwrong => absurd hpacket.state_eq hwrong
    · rw [Bool.not_eq_true] at hmalloc
      rw [hmalloc, if_pos (by decide)]
      exact .giveUp rfl

/-- The common part of the handlers. -/
lemma rdgProcessed_response {own : RdgClientState} (hown : responseState packet = some own)
    {s : WStream} (hs : s = (WStream.ofBytes packet).seek 8) {proceed : RdgHandled}
    (hproceed : rdg.state = own → Answers own packet → RdgProcessed env rdg packet proceed) :
    RdgProcessed env rdg packet
      (rdgProcessResponse own own.minimumLength own.codeOffset rdg s proceed) := by
  subst hs
  rw [rdgProcessResponse]
  by_cases hstate : rdg.state = own
  · rw [if_neg (not_not.mpr hstate), WStream.remainingLength_eq, WStream.unread_seek,
      WStream.unread_ofBytes, List.length_drop]
    by_cases hlen : packet.length - 8 < own.minimumLength
    · rw [if_pos hlen]
      exact .giveUp rfl
    · rw [if_neg hlen]
      dsimp only
      have hseek : ((WStream.ofBytes packet).seek 8).seek own.codeOffset =
          (WStream.ofBytes packet).seek (8 + own.codeOffset) := by
        rw [WStream.seek, WStream.seek, WStream.seek]
        dsimp only
        rw [Nat.add_assoc]
      rw [hseek]
      cases hcode : failedCode
          ((WStream.ofBytes packet).seek (8 + own.codeOffset)).readUInt32.1 with
      | true =>
        rw [if_pos rfl]
        exact .giveUp rfl
      | false =>
        rw [if_neg Bool.false_ne_true]
        have hpos : 0 < own.minimumLength := by cases own <;> decide
        exact hproceed hstate ⟨hown, by omega, hcode⟩
  · rw [if_pos hstate]
    exact .giveUp rfl

/-- A tunnel response with its optional fields. -/
lemma rdgProcessed_tunnelResponse (hown : responseState packet = some .tunnelCreate)
    {s : WStream} (hs : s = (WStream.ofBytes packet).seek 8) :
    RdgProcessed env rdg packet (rdgProcessTunnelResponse env rdg s) := by
  refine rdgProcessed_response hown hs fun hstate hpacket => ?_
  split
  · refine .failed none rdg [] (by decide) (List.append_nil _).symm (.inl rfl) fun hwrong => ?_
    rw [hstate] at hwrong
    exact absurd hpacket.state_eq hwrong
  · exact .giveUp rfl
  · exact rdgProcessed_sendOptional hstate hpacket

/-- Every packet is unrecognised, an answer or the reason for a failure. -/
lemma rdgProcessPacket_processed (env : RdgConnectEnvironment) (rdg : RdgClient)
    (packet : List UInt8) : RdgProcessed env rdg packet (rdgProcessPacket env rdg packet) := by
  rw [rdgProcessPacket]
  dsimp only
  split
  · exact .giveUp rfl
  split
  · exact .giveUp rfl
  have hs : ((((WStream.ofBytes packet).readUInt16).2.seek 2).readUInt32).2 =
      (WStream.ofBytes packet).seek 8 := rfl
  have htype : (WStream.ofBytes packet).readUInt16.1 = packetType packet := rfl
  rw [hs, htype, rdgDispatchPacket]
  by_cases hhandshake : packetType packet = PKT_TYPE_HANDSHAKE_RESPONSE
  · have hown : responseState packet = some .handshake := by rw [responseState, if_pos hhandshake]
    rw [if_pos hhandshake]
    exact rdgProcessed_response hown rfl rdgProcessed_sendOptional
  rw [if_neg hhandshake]
  by_cases htunnel : packetType packet = PKT_TYPE_TUNNEL_RESPONSE
  · have hown : responseState packet = some .tunnelCreate := by
      rw [responseState, if_neg hhandshake, if_pos htunnel]
    rw [if_pos htunnel]
    exact rdgProcessed_tunnelResponse hown rfl
  rw [if_neg htunnel]
  by_cases hauth : packetType packet = PKT_TYPE_TUNNEL_AUTH_RESPONSE
  · have hown : responseState packet = some .tunnelAuthorize := by
      rw [responseState, if_neg hhandshake, if_neg htunnel, if_pos hauth]
    rw [if_pos hauth]
    exact rdgProcessed_response hown rfl rdgProcessed_sendOptional
  rw [if_neg hauth]
  by_cases hchannel : packetType packet = PKT_TYPE_CHANNEL_RESPONSE
  · have hown : responseState packet = some .channelCreate := by
      rw [responseState, if_neg hhandshake, if_neg htunnel, if_neg hauth, if_pos hchannel]
    rw [if_pos hchannel]
    exact rdgProcessed_response hown rfl .opened
  rw [if_neg hchannel]
  have hnone : responseState packet = none := by
    rw [responseState, if_neg hhandshake, if_neg htunnel, if_neg hauth, if_neg hchannel]
  by_cases hdata : packetType packet = PKT_TYPE_DATA
  · rw [if_pos hdata]
    exact .giveUp rfl
  · rw [if_neg hdata]
    exact .unrecognised ⟨hnone, hdata⟩

end Packet

/-! ### Receiving -/

/-- `rdg_read_all` fails, or has all bytes and has read. -/
lemma rdgReadAll_ends (size : Nat) (bio : List BioEvent) :
    ∃ outcome, rdgReadAll size bio = some outcome ∧
      ∀ s, outcome = .complete s → bioSize s.bio ≤ bioSize bio ∧
        (0 < size → bioSize s.bio < bioSize bio) := by
  have hround : ∀ s : SocketRead,
      (bioSize s.bio ≤ bioSize bio ∧ (0 < s.bytes.length → bioSize s.bio < bioSize bio)) → True →
      (rdgReadAllRound size s).Ends
        (fun s' => (bioSize s'.bio ≤ bioSize bio ∧
          (0 < s'.bytes.length → bioSize s'.bio < bioSize bio)) ∧ bioSize s'.bio < bioSize s.bio)
        (fun outcome => ∀ s, outcome = .complete s → bioSize s.bio ≤ bioSize bio ∧
          (0 < size → bioSize s.bio < bioSize bio)) := by
    rintro s ⟨hle, hlt⟩ -
    rw [rdgReadAllRound]
    by_cases hcount : s.bytes.length < size
    · rw [if_neg (not_not.mpr hcount)]
      rcases bioRead_cases (Nat.sub_pos_of_lt hcount) s.bio with
        ⟨status, bio', hread, hstatus, -, hsize⟩ | ⟨byte, bytes, bio', hread, -, -, hsize⟩
      · rw [hread]
        dsimp only
        rw [if_pos hstatus]
        by_cases hnil : s.bio = []
        · rw [if_pos hnil]
          intro s' hs'
          cases hs'
        · have hless := hsize.resolve_right fun hand => hnil hand.1
          rw [if_neg hnil]
          exact ⟨⟨hless.le.trans hle, fun _ => hless.trans_le hle⟩, hless⟩
      · rw [hread]
        dsimp only
        rw [if_neg (by rw [List.length_cons]; omega)]
        exact ⟨⟨hsize.le.trans hle, fun _ => hsize.trans_le hle⟩, hsize⟩
    · rw [if_pos hcount]
      intro s' hs'
      cases hs'
      exact ⟨hle, fun hpos => hlt (by omega)⟩
  exact loop_spec (fun s : SocketRead => bioSize s.bio) hround
    (s := (⟨bio, []⟩ : SocketRead)) ⟨le_rfl, fun hpos => absurd hpos (lt_irrefl 0)⟩
    (alongLoop_true _ _) (Nat.lt_add_of_pos_right Nat.two_pos)

/-- Receiving ends, and a packet is read from the source. -/
lemma rdgReceivePacket_ends (env : RdgConnectEnvironment) (bio : List BioEvent) :
    ∃ packet bio', rdgReceivePacket env bio = some (packet, bio') ∧
      (packet ≠ none → bioSize bio' < bioSize bio) := by
  rw [rdgReceivePacket]
  split
  · exact ⟨none, bio, rfl, fun hne => absurd rfl hne⟩
  obtain ⟨outcome, hread, hcomplete⟩ := rdgReadAll_ends 8 bio
  rw [hread, Option.bind_some]
  cases outcome with
  | noData s => exact ⟨none, s.bio, rfl, fun hne => absurd rfl hne⟩
  | failed s => exact ⟨none, s.bio, rfl, fun hne => absurd rfl hne⟩
  | complete s =>
    have hless := (hcomplete s rfl).2 (by decide)
    dsimp only
    rw [rdgReceivePayload]
    dsimp only
    split
    · exact ⟨none, s.bio, rfl, fun hne => absurd rfl hne⟩
    obtain ⟨outcome', hread', hcomplete'⟩ := rdgReadAll_ends
      (((WStream.ofBytes s.bytes).seek 4).readUInt32.1 - 8) s.bio
    rw [hread', Option.map_some]
    cases outcome' with
    | noData s' => exact ⟨none, s'.bio, rfl, fun hne => absurd rfl hne⟩
    | failed s' => exact ⟨none, s'.bio, rfl, fun hne => absurd rfl hne⟩
    | complete s' =>
      exact ⟨_, s'.bio, rfl, fun _ => (hcomplete' s' rfl).1.trans_lt hless⟩

/-! ### Logs -/

/-- The values that `rdg->state` got. -/
def loggedStates (log : List RdgEvent) : List RdgClientState :=
  log.filterMap fun event => match event with
    | .state state => some state
    | _ => none

/-- The state after a log. -/
def lastState (log : List RdgEvent) : RdgClientState := (loggedStates log).getLastD .initial

/-- The states of a log do not decrease. -/
def StatesIncrease (log : List RdgEvent) : Prop :=
  (RdgClientState.initial :: loggedStates log).Pairwise (·.toNat ≤ ·.toNat)

/-- The log of a tunnel that is open: the four requests, each written before its response, and the
four responses, with unrecognised packets between them. -/
def Connected (env : RdgConnectEnvironment) (log : List RdgEvent) : Prop :=
  ∃ u₁ u₂ u₃ u₄ : List (List UInt8), ∃ p₁ p₂ p₃ p₄ r₂ r₃ r₄ : List UInt8,
    (∀ p ∈ u₁ ++ u₂ ++ u₃ ++ u₄, Unrecognised p) ∧ Answers .handshake p₁ ∧
    Answers .tunnelCreate p₂ ∧ Answers .tunnelAuthorize p₃ ∧ Answers .channelCreate p₄ ∧
    tunnelRequest env = some r₂ ∧ tunnelAuthorization env = some r₃ ∧
    channelCreateRequest env = some r₄ ∧
    log = [RdgEvent.wrote (handshakeRequest env) true, .state .handshake] ++
      u₁.map RdgEvent.received ++
      [RdgEvent.received p₁, .wrote r₂ true, .state .tunnelCreate] ++ u₂.map RdgEvent.received ++
      [RdgEvent.received p₂, .wrote r₃ true, .state .tunnelAuthorize] ++ u₃.map RdgEvent.received ++
      [RdgEvent.received p₃, .wrote r₄ true, .state .channelCreate] ++ u₄.map RdgEvent.received ++
      [RdgEvent.received p₄, .state .opened]

section Logs

variable {env : RdgConnectEnvironment} {state : RdgClientState} {log : List RdgEvent}

lemma loggedStates_append (log more : List RdgEvent) :
    loggedStates (log ++ more) = loggedStates log ++ loggedStates more := by
  rw [loggedStates, List.filterMap_append]
  rfl

/-- The states of a log are in order, and its last one is the state of the client. -/
lemma ConnectLog.states (h : ConnectLog env state log) :
    lastState log = state ∧ StatesIncrease log ∧
      ∀ state' ∈ loggedStates log, state'.toNat ≤ state.toNat := by
  have hstep : ∀ {state state' : RdgClientState} {log more : List RdgEvent},
      StatesIncrease log → (∀ s ∈ loggedStates log, s.toNat ≤ state.toNat) →
      state.toNat ≤ state'.toNat → loggedStates more = [state'] →
      lastState (log ++ more) = state' ∧ StatesIncrease (log ++ more) ∧
        ∀ s ∈ loggedStates (log ++ more), s.toNat ≤ state'.toNat := by
    intro state state' log more hpairwise hle hnext hmore
    have hall : ∀ s ∈ loggedStates (log ++ more), s.toNat ≤ state'.toNat := by
      intro s hs
      rw [loggedStates_append, hmore, List.mem_append, List.mem_singleton] at hs
      rcases hs with hs | rfl
      · exact (hle s hs).trans hnext
      · exact le_rfl
    refine ⟨?_, ?_, hall⟩
    · rw [lastState, loggedStates_append, hmore, List.getLastD_concat]
    · rw [StatesIncrease, loggedStates_append, hmore, ← List.cons_append, List.pairwise_append]
      refine ⟨hpairwise, List.pairwise_singleton _ _, ?_⟩
      intro s hs t ht
      rw [List.mem_singleton] at ht
      subst ht
      rcases List.mem_cons.mp hs with rfl | hs
      · exact Nat.zero_le _
      · exact (hle s hs).trans hnext
  induction h with
  | noMemory => exact ⟨rfl, List.pairwise_singleton _ _, by decide⟩
  | notWritten => exact ⟨rfl, List.pairwise_singleton _ _, by simp [loggedStates]⟩
  | written =>
    exact @hstep .initial _ [.wrote (handshakeRequest env) true] _
      (List.pairwise_singleton _ _) (by simp [loggedStates]) (by decide) rfl
  | @unrecognised state log packet h hstate hpacket ih =>
    have heq : loggedStates (log ++ [.received packet]) = loggedStates log := by
      rw [loggedStates_append]
      exact List.append_nil _
    rw [lastState, StatesIncrease, heq]
    exact ih
  | @answered state log packet request h hpacket hrequest ih =>
    refine hstep ih.2.1 ih.2.2 ?_ rfl
    cases state <;> decide
  | opened h hpacket ih => exact hstep ih.2.1 ih.2.2 (by decide) rfl

/-- The packets of a log that ends with a packet. -/
lemma received_split {before after log tail : List RdgEvent} {p q : List UInt8}
    (htail : ∀ p, RdgEvent.received p ∉ tail)
    (h : before ++ .received p :: after = log ++ .received q :: tail) :
    (∃ middle, log = before ++ .received p :: middle ∧ after = middle ++ .received q :: tail) ∨
      before = log ∧ p = q ∧ after = tail := by
  rcases List.append_eq_append_iff.mp h with ⟨front, hlog, hcons⟩ | ⟨front, hbefore, hcons⟩
  · cases front with
    | nil =>
      rw [List.append_nil] at hlog
      cases hcons
      exact .inr ⟨hlog.symm, rfl, rfl⟩
    | cons event front =>
      obtain ⟨rfl, rfl⟩ := List.cons.inj hcons
      exact .inl ⟨front, hlog, rfl⟩
  · cases front with
    | nil =>
      rw [List.append_nil] at hbefore
      cases hcons
      exact .inr ⟨hbefore, rfl, rfl⟩
    | cons event front =>
      obtain ⟨-, htail'⟩ := List.cons.inj hcons
      refine absurd ?_ (htail p)
      rw [htail']
      exact List.mem_append_right front List.mem_cons_self

/-- Every response of a log is there in its own state, and only packets follow an unrecognised one. -/
structure LogOrdered (log : List RdgEvent) : Prop where
  own : ∀ (before : List RdgEvent) (p : List UInt8) (after : List RdgEvent)
    (state : RdgClientState), log = before ++ .received p :: after →
    responseState p = some state → state = lastState before
  quiet : ∀ (before : List RdgEvent) (p : List UInt8) (after : List RdgEvent),
    log = before ++ .received p :: after → Unrecognised p →
    after = [] ∨ ∃ q rest, after = .received q :: rest

lemma logOrdered_of_noPacket (h : ∀ p, RdgEvent.received p ∉ log) : LogOrdered log := by
  have hsplit : ∀ (before : List RdgEvent) (p : List UInt8) (after : List RdgEvent),
      log ≠ before ++ .received p :: after := by
    intro before p after hlog
    refine h p ?_
    rw [hlog]
    exact List.mem_append_right before List.mem_cons_self
  exact ⟨fun before p after _ hlog _ => absurd hlog (hsplit before p after),
    fun before p after hlog _ => absurd hlog (hsplit before p after)⟩

/-- What follows an unrecognised packet, after one more packet. -/
lemma LogOrdered.quiet_append (h : LogOrdered log) {q : List UInt8} {tail : List RdgEvent}
    (htail : ∀ p, RdgEvent.received p ∉ tail) (hquiet : Unrecognised q → tail = [])
    {before : List RdgEvent} {p : List UInt8} {after : List RdgEvent}
    (hlog : log ++ .received q :: tail = before ++ .received p :: after) (hp : Unrecognised p) :
    after = [] ∨ ∃ q rest, after = .received q :: rest := by
  rcases received_split htail hlog.symm with ⟨middle, hmiddle, rfl⟩ | ⟨-, rfl, rfl⟩
  · rcases h.quiet before p middle hmiddle hp with rfl | ⟨q', rest, rfl⟩
    · exact .inr ⟨q, tail, rfl⟩
    · exact .inr ⟨q', rest ++ .received q :: tail, rfl⟩
  · exact .inl (hquiet hp)

lemma LogOrdered.append (h : LogOrdered log) {q : List UInt8} {tail : List RdgEvent}
    (htail : ∀ p, RdgEvent.received p ∉ tail)
    (hown : ∀ state, responseState q = some state → state = lastState log)
    (hquiet : Unrecognised q → tail = []) : LogOrdered (log ++ .received q :: tail) := by
  refine ⟨?_, fun before p after hlog hp => h.quiet_append htail hquiet hlog hp⟩
  intro before p after state hlog hstate
  rcases received_split htail hlog.symm with ⟨middle, hmiddle, -⟩ | ⟨rfl, rfl, -⟩
  · exact h.own before p middle state hmiddle hstate
  · exact hown state hstate

/-- An answer is not unrecognised, and its state is its own. -/
lemma Answers.eq_state {packet : List UInt8} (h : Answers state packet) {state' : RdgClientState}
    (hstate : responseState packet = some state') : state' = state :=
  Option.some.inj (hstate.symm.trans h.state_eq)

lemma Answers.not_unrecognised {packet : List UInt8} (h : Answers state packet) :
    ¬ Unrecognised packet := by
  intro hpacket
  have heq := hpacket.1.symm.trans h.state_eq
  cases heq

lemma ConnectLog.ordered (h : ConnectLog env state log) : LogOrdered log := by
  induction h with
  | noMemory => exact logOrdered_of_noPacket fun p => by simp
  | notWritten => exact logOrdered_of_noPacket fun p => by simp
  | written => exact logOrdered_of_noPacket fun p => by simp
  | unrecognised h hstate hpacket ih =>
    refine ih.append (fun p => by simp) (fun state' hstate' => ?_) fun _ => rfl
    have heq := hpacket.1.symm.trans hstate'
    cases heq
  | answered h hpacket hrequest ih =>
    exact ih.append (fun p => by simp) (fun state' hstate' => by
      rw [h.states.1, hpacket.eq_state hstate'])
      fun hunrecognised => absurd hunrecognised hpacket.not_unrecognised
  | opened h hpacket ih =>
    exact ih.append (fun p => by simp) (fun state' hstate' => by
      rw [h.states.1, hpacket.eq_state hstate'])
      fun hunrecognised => absurd hunrecognised hpacket.not_unrecognised

/-- The last stage of a log: the packet that led to its state, and the unrecognised ones since. -/
lemma ConnectLog.lastStage (h : ConnectLog env state log) :
    state = .initial ∨
    (state = .handshake ∧ ∃ u : List (List UInt8), (∀ p ∈ u, Unrecognised p) ∧
      log = [RdgEvent.wrote (handshakeRequest env) true, .state .handshake] ++
        u.map RdgEvent.received) ∨
    (∃ previous log' p r, ∃ u : List (List UInt8), state = previous.next ∧
      ConnectLog env previous log' ∧ Answers previous p ∧
      previous.next.request env = some r ∧ (∀ p ∈ u, Unrecognised p) ∧
      log = log' ++ [RdgEvent.received p, .wrote r true, .state previous.next] ++
        u.map RdgEvent.received) ∨
    (state = .opened ∧ ∃ log' p, ConnectLog env .channelCreate log' ∧
      Answers .channelCreate p ∧ log = log' ++ [RdgEvent.received p, .state .opened]) := by
  induction h with
  | noMemory => exact .inl rfl
  | notWritten => exact .inl rfl
  | written => exact .inr (.inl ⟨rfl, [], by simp, rfl⟩)
  | @unrecognised state log packet h hstate hpacket ih =>
    have happend : ∀ u : List (List UInt8), (∀ p ∈ u, Unrecognised p) →
        ∀ p ∈ u ++ [packet], Unrecognised p := by
      intro u hu p hp
      rcases List.mem_append.mp hp with hp | hp
      · exact hu p hp
      · rw [List.mem_singleton.mp hp]
        exact hpacket
    rcases ih with hinitial | ⟨hhandshake, u, hu, rfl⟩ |
      ⟨previous, log', p, r, u, hnext, hlog', hp, hr, hu, rfl⟩ | ⟨hopened, -⟩
    · exact .inl hinitial
    · refine .inr (.inl ⟨hhandshake, u ++ [packet], happend u hu, ?_⟩)
      rw [List.map_append, List.append_assoc]
      rfl
    · refine .inr (.inr (.inl ⟨previous, log', p, r, u ++ [packet], hnext, hlog', hp, hr,
        happend u hu, ?_⟩))
      rw [List.map_append, List.append_assoc]
      rfl
    · exact absurd hopened hstate
  | answered h hpacket hrequest ih =>
    exact .inr (.inr (.inl ⟨_, _, _, _, [], rfl, h, hpacket, hrequest, by simp, by simp⟩))
  | opened h hpacket ih => exact .inr (.inr (.inr ⟨rfl, _, _, h, hpacket, rfl⟩))

/-- No packet is a response of the initial state. -/
lemma responseState_ne_initial (packet : List UInt8) : responseState packet ≠ some .initial := by
  rw [responseState]
  split_ifs <;> decide

/-- The log of a handshake. -/
lemma ConnectLog.handshake (h : ConnectLog env .handshake log) :
    ∃ u : List (List UInt8), (∀ p ∈ u, Unrecognised p) ∧
      log = [.wrote (handshakeRequest env) true, .state .handshake] ++ u.map .received := by
  rcases h.lastStage with hstate | ⟨-, hlog⟩ | ⟨previous, log', p, r, u, hnext, -, hp, -⟩ |
    ⟨hstate, -⟩
  · cases hstate
  · exact hlog
  · cases previous with
    | initial =>
      exact absurd hp.state_eq (responseState_ne_initial p)
    | handshake => cases hnext
    | tunnelCreate => cases hnext
    | tunnelAuthorize => cases hnext
    | channelCreate => cases hnext
    | opened => cases hnext
  · cases hstate

/-- The last stage of a log in a later state. -/
lemma ConnectLog.stage {previous : RdgClientState} (h : ConnectLog env previous.next log)
    (hprevious : previous ≠ .initial) (hopened : previous.next ≠ .opened) :
    ∃ log' p r, ∃ u : List (List UInt8), ConnectLog env previous log' ∧ Answers previous p ∧
      previous.next.request env = some r ∧ (∀ p ∈ u, Unrecognised p) ∧
      log = log' ++ [.received p, .wrote r true, .state previous.next] ++ u.map .received := by
  have hinjective : ∀ {a b : RdgClientState}, a.next = b.next → a ≠ .initial →
      a.next ≠ .opened → b = a := by
    intro a b hab ha hopened
    cases a <;> cases b <;>
      first | rfl | exact absurd rfl ha | exact absurd rfl hopened | exact absurd hab (by decide)
  rcases h.lastStage with hstate | ⟨hstate, -⟩ |
    ⟨previous', log', p, r, u, hnext, hlog', hp, hr, hu, hlog⟩ | ⟨hstate, -⟩
  · cases previous <;> cases hstate
  · cases previous <;> first | exact absurd hstate (by decide) | exact absurd rfl hprevious
  · obtain rfl := hinjective hnext hprevious hopened
    exact ⟨log', p, r, u, hlog', hp, hr, hu, hlog⟩
  · exact absurd hstate hopened

/-- The log of an open tunnel. -/
lemma ConnectLog.connected (h : ConnectLog env .opened log) : Connected env log := by
  obtain ⟨log₄, p₄, hlog₄, hp₄, rfl⟩ : ∃ log' p, ConnectLog env .channelCreate log' ∧
      Answers .channelCreate p ∧ log = log' ++ [.received p, .state .opened] := by
    rcases h.lastStage with hstate | ⟨hstate, -⟩ |
      ⟨previous, log', p, r, u, hnext, -, -, hr, -⟩ | ⟨-, hlog⟩
    · cases hstate
    · cases hstate
    · rw [← hnext] at hr
      cases hr
    · exact hlog
  obtain ⟨log₃, p₃, r₄, u₄, hlog₃, hp₃, hr₄, hu₄, rfl⟩ :=
    @ConnectLog.stage _ _ .tunnelAuthorize hlog₄ (by decide) (by decide)
  obtain ⟨log₂, p₂, r₃, u₃, hlog₂, hp₂, hr₃, hu₃, rfl⟩ :=
    @ConnectLog.stage _ _ .tunnelCreate hlog₃ (by decide) (by decide)
  obtain ⟨log₁, p₁, r₂, u₂, hlog₁, hp₁, hr₂, hu₂, rfl⟩ :=
    @ConnectLog.stage _ _ .handshake hlog₂ (by decide) (by decide)
  obtain ⟨u₁, hu₁, rfl⟩ := hlog₁.handshake
  refine ⟨u₁, u₂, u₃, u₄, p₁, p₂, p₃, p₄, r₂, r₃, r₄, ?_, hp₁, hp₂, hp₃, hp₄, hr₂, hr₃, hr₄, ?_⟩
  · intro p hp
    simp only [List.mem_append] at hp
    rcases hp with ((hp | hp) | hp) | hp
    · exact hu₁ p hp
    · exact hu₂ p hp
    · exact hu₃ p hp
    · exact hu₄ p hp
  · simp only [List.append_assoc]
    rfl

end Logs

/-! ### The whole call -/

section Connect

variable {env : RdgConnectEnvironment}

/-- The log of a call that fails: after a log of the protocol a packet may be the last one, and a
request for it may not have been written. -/
def FailedLog (env : RdgConnectEnvironment) (status : Option Bool) (log : List RdgEvent) : Prop :=
  ∃ state log', ConnectLog env state log' ∧ (log = log' ∨ ∃ packet tail,
    log = log' ++ .received packet :: tail ∧
    (tail = [] ∨ ∃ request, tail = [.wrote request false]) ∧
    (responseState packet ≠ some state → tail = [] ∧ status = some false))

/-- How a call ends. -/
def ConnectEnds (env : RdgConnectEnvironment) : RdgConnectEnd → Prop
  | .returned true rdg => ConnectLog env .opened rdg.log
  | .returned false rdg => rdg.layerClosed = true ∧ FailedLog env (some false) rdg.log
  | .undefined rdg => FailedLog env none rdg.log
  | .diverged => False

/-- One round of the loop. -/
lemma rdgConnectRound_ends {rdg : RdgClient} (h : ConnectLog env rdg.state rdg.log) :
    (rdgConnectRound env rdg).Ends
      (fun rdg' => ConnectLog env rdg'.state rdg'.log ∧ bioSize rdg'.bio < bioSize rdg.bio)
      (ConnectEnds env) := by
  rw [rdgConnectRound]
  by_cases hstate : rdg.state.toNat < RdgClientState.opened.toNat
  · have hne : rdg.state ≠ .opened := by
      intro hopened
      rw [hopened] at hstate
      exact absurd hstate (lt_irrefl _)
    obtain ⟨packet, bio, hreceive, hless⟩ := rdgReceivePacket_ends env rdg.bio
    rw [if_neg (not_not.mpr hstate), hreceive]
    cases packet with
    | none => exact ⟨rfl, rdg.state, rdg.log, h, .inl rfl⟩
    | some packet =>
      have hsize : bioSize bio < bioSize rdg.bio := hless (by simp)
      dsimp only
      generalize hclient : ({ rdg with
        bio := bio, log := rdg.log ++ [.received packet] } : RdgClient) = client
      have hcstate : client.state = rdg.state := by rw [← hclient]
      have hcbio : client.bio = bio := by rw [← hclient]
      have hclog : client.log = rdg.log ++ [.received packet] := by rw [← hclient]
      have hprocessed := rdgProcessPacket_processed env client packet
      revert hprocessed
      generalize rdgProcessPacket env client packet = result
      intro hprocessed
      cases hprocessed with
      | unrecognised hpacket =>
        refine ⟨?_, by rwa [hcbio]⟩
        rw [hcstate, hclog]
        exact .unrecognised h hne hpacket
      | answered rdg' request hpacket hrequest hstate' hbio hlog =>
        refine ⟨?_, by rwa [hbio, hcbio]⟩
        rw [hstate', hlog, hclog, hcstate, List.append_assoc]
        rw [hcstate] at hpacket hrequest
        exact .answered h hpacket hrequest
      | opened hstate' hpacket =>
        refine ⟨?_, by rw [RdgClient.setState, hcbio]; exact hsize⟩
        rw [RdgClient.setState, hclog, List.append_assoc]
        rw [← hcstate, hstate'] at h
        exact .opened h hpacket
      | failed status rdg' tail hstatus hlog htail hwrong =>
        have hfailed : FailedLog env status rdg'.log := by
          refine ⟨rdg.state, rdg.log, h, .inr ⟨packet, tail, ?_, htail, hcstate ▸ hwrong⟩⟩
          rw [hlog, hclog, List.append_assoc]
          rfl
        cases status with
        | none => exact hfailed
        | some status =>
          cases status with
          | true => exact absurd rfl hstatus
          | false => exact ⟨rfl, hfailed⟩
  · rw [if_pos hstate]
    have hopened : rdg.state = .opened := by
      generalize rdg.state = state at hstate
      cases state <;> first | rfl | exact absurd (by decide) hstate
    rw [hopened] at h
    exact h

/-- The client after the first request. -/
lemma connectLog_start (env : RdgConnectEnvironment) (bio : List BioEvent) :
    ∃ rdg, (rdgSendHandshake env ⟨.initial, bio, 0, false, []⟩).2 = rdg ∧ rdg.bio = bio ∧
      ConnectLog env rdg.state rdg.log := by
  rw [rdgSendHandshake, rdgSendRequest]
  split
  · exact ⟨_, rfl, rfl, .noMemory⟩
  · dsimp only [List.nil_append]
    cases env.writePacket [] (handshakeRequest env) with
    | true => exact ⟨_, rfl, rfl, .written⟩
    | false => exact ⟨_, rfl, rfl, .notWritten⟩

/-- A call ends. -/
lemma rdgTunnelConnect_ends (env : RdgConnectEnvironment) (bio : List BioEvent) :
    ∃ result, rdgTunnelConnect env bio = some result ∧ ConnectEnds env result := by
  obtain ⟨rdg, hrdg, hbio, hlog⟩ := connectLog_start env bio
  rw [rdgTunnelConnect, hrdg]
  have hfuel : bioSize rdg.bio < bioSize bio + 2 := by
    rw [hbio]
    exact Nat.lt_add_of_pos_right Nat.two_pos
  exact loop_spec (P := fun _ => True) (fun rdg : RdgClient => bioSize rdg.bio)
    (fun rdg h _ => rdgConnectRound_ends h) hlog (alongLoop_true _ _) hfuel

/-- The log of a call that fails is in order as well, up to its last packet. -/
lemma FailedLog.ordered {status : Option Bool} {log : List RdgEvent}
    (h : FailedLog env status log) :
    StatesIncrease log ∧
      (∀ (before : List RdgEvent) (p : List UInt8) (after : List RdgEvent),
        log = before ++ .received p :: after → Unrecognised p →
        after = [] ∨ ∃ q rest, after = .received q :: rest) ∧
      ∀ (before : List RdgEvent) (p : List UInt8) (after : List RdgEvent)
        (state : RdgClientState), log = before ++ .received p :: after →
        responseState p = some state → state ≠ lastState before →
        after = [] ∧ status = some false := by
  obtain ⟨state, log', hlog', rfl | ⟨packet, tail, rfl, htail, hwrong⟩⟩ := h
  · refine ⟨hlog'.states.2.1, hlog'.ordered.quiet, ?_⟩
    intro before p after state' hsplit hstate' hne
    exact absurd (hlog'.ordered.own before p after state' hsplit hstate') hne
  · have hnone : ∀ p, RdgEvent.received p ∉ tail := by
      rcases htail with rfl | ⟨request, rfl⟩
      · simp
      · simp
    refine ⟨?_, ?_, ?_⟩
    · have hstates : loggedStates (.received packet :: tail) = [] := by
        rcases htail with rfl | ⟨request, rfl⟩
        · rfl
        · rfl
      rw [StatesIncrease, loggedStates_append, hstates, List.append_nil]
      exact hlog'.states.2.1
    · intro before p after hsplit hp
      refine hlog'.ordered.quiet_append hnone (fun hpacket => ?_) hsplit hp
      refine (hwrong ?_).1
      rw [hpacket.1]
      simp
    · intro before p after state' hsplit hstate' hne
      rcases received_split hnone hsplit.symm with ⟨middle, hmiddle, -⟩ | ⟨rfl, rfl, rfl⟩
      · exact absurd (hlog'.ordered.own before p middle state' hmiddle hstate') hne
      · rw [hlog'.states.1] at hne
        refine hwrong ?_
        rw [hstate']
        exact fun heq => hne (Option.some.inj heq)

/-- The client of a call that has ended. -/
def RdgConnectEnd.client : RdgConnectEnd → Option RdgClient
  | .returned _ rdg => some rdg
  | .undefined rdg => some rdg
  | .diverged => none

/-- Every call ends, and if it returns `TRUE` its log is that of an open tunnel. In every call the
state does not decrease; a response in a state that is not its own is the last thing that happens,
and the call fails with the layer closed; behind an unrecognised packet there is nothing or the next
packet. -/
theorem rdgTunnelConnect_order (env : RdgConnectEnvironment) (bio : List BioEvent) :
    ∃ result rdg, rdgTunnelConnect env bio = some result ∧ result.client = some rdg ∧
      (result = .returned true rdg → Connected env rdg.log) ∧ StatesIncrease rdg.log ∧
      (∀ (before : List RdgEvent) (p : List UInt8) (after : List RdgEvent)
        (state : RdgClientState), rdg.log = before ++ .received p :: after →
        responseState p = some state → state ≠ lastState before →
        after = [] ∧ result = .returned false rdg ∧ rdg.layerClosed = true) ∧
      ∀ (before : List RdgEvent) (p : List UInt8) (after : List RdgEvent),
        rdg.log = before ++ .received p :: after → Unrecognised p →
        after = [] ∨ ∃ q rest, after = .received q :: rest := by
  obtain ⟨result, hresult, hends⟩ := rdgTunnelConnect_ends env bio
  cases result with
  | returned status rdg =>
    refine ⟨_, rdg, hresult, rfl, ?_⟩
    cases status with
    | true =>
      have hlog : ConnectLog env .opened rdg.log := hends
      refine ⟨fun _ => hlog.connected, hlog.states.2.1, ?_, hlog.ordered.quiet⟩
      intro before p after state hsplit hstate hne
      exact absurd (hlog.ordered.own before p after state hsplit hstate) hne
    | false =>
      obtain ⟨hclosed, hlog⟩ := hends
      obtain ⟨hstates, hquiet, hwrong⟩ := hlog.ordered
      refine ⟨nofun, hstates, ?_, hquiet⟩
      intro before p after state hsplit hstate hne
      exact ⟨(hwrong before p after state hsplit hstate hne).1, rfl, hclosed⟩
  | undefined rdg =>
    obtain ⟨hstates, hquiet, hwrong⟩ := FailedLog.ordered hends
    refine ⟨_, rdg, hresult, rfl, nofun, hstates, ?_, hquiet⟩
    intro before p after state hsplit hstate hne
    exact absurd (hwrong before p after state hsplit hstate hne).2 (by decide)
  | diverged => exact hends.elim

-- a gateway that sends a packet of another type between its responses
example :
    let env : RdgConnectEnvironment := ⟨mallocAll, fun _ => true, fun _ _ => true, none, true, 0,
      none, some [67, 0], some [83, 0], 3389⟩
    let bio := [BioEvent.data 2 [0, 0, 0, 18, 0, 0, 0, 0, 0, 0, 0, 1, 0, 0, 0, 0, 0], .noData 1,
      .data 13 [0, 0, 0, 8, 0, 0, 0],
      .data 5 [0, 0, 0, 18, 0, 0, 0, 0, 0, 0, 0, 0, 0, 0, 0, 0, 0],
      .data 7 [0, 0, 0, 16, 0, 0, 0, 0, 0, 0, 0, 0, 0, 0, 0],
      .data 9 [0, 0, 0, 16, 0, 0, 0, 0, 0, 0, 0, 0, 0, 0, 0]]
    (rdgTunnelConnect env bio).map (fun result =>
      result.client.map fun rdg => (rdg.layerClosed, rdg.state, rdg.log.length)) =
        some (some (false, .opened, 14)) := by
  decide +kernel

end Connect

end FreeRdp
