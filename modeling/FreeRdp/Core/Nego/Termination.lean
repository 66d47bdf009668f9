import FreeRdp.Core.Nego.Properties

/-!
# The negotiation loop ends

Every attempt either ends the negotiation or moves down the order EXT > NLA > TLS > RDP, with one
exception: `nego_attempt_rdp` leaves the state alone, so a reply that `nego_recv` accepts without
acting on it starts the same attempt again.
-/

namespace FreeRdp

lemma negoTransportConnect_sent (env : NegoEnv) (a : TransportAnswers) (nego : Nego) :
    (negoTransportConnect env a nego).2.sent = nego.sent := by
  have htcp : (negoTcpConnect a nego).2.sent = nego.sent := by
    unfold negoTcpConnect
    dsimp only
    split_ifs <;> rfl
  unfold negoTransportConnect
  dsimp only
  split_ifs
  · exact htcp
  · exact (negoSecurityConnect_sent env _).trans htcp
  · exact htcp

lemma negoRecv_sent (nego : Nego) (s : WStream) : (negoRecv nego s).2.sent = nego.sent := by
  have hcheck : ∀ n : Nego, (negoCheckSelectedProtocol n).sent = n.sent := by
    intro n
    unfold negoCheckSelectedProtocol
    dsimp only
    split_ifs <;> rfl
  have hdata : ∀ s, (negoRecvNegData nego s).2.sent = nego.sent := by
    intro s
    unfold negoRecvNegData negoProcessNegotiationResponse negoProcessNegotiationFailure
    dsimp only
    split_ifs <;> simp [hcheck]
  unfold negoRecv
  split
  · rfl
  · split
    · rfl
    · split_ifs
      · exact hdata _
      · rfl
      · rfl
      · rfl

/-- An attempt sends at most one connection request. -/
lemma negoSend_sent_length (env : NegoEnv) (a : TransportAnswers) (nego : Nego) :
    (negoSend env a nego).sent.length ≤ nego.sent.length + 1 := by
  have hattempt : ∀ requested,
      (negoAttempt requested env a nego).2.sent.length ≤ nego.sent.length + 1 := by
    intro requested
    have hsent := negoTransportConnect_sent env a { nego with requestedProtocols := requested }
    unfold negoAttempt
    dsimp only
    split
    · rename_i n hn
      rw [hn] at hsent
      exact (congrArg List.length hsent).le.trans (Nat.le_succ _)
    · rename_i n hn
      rw [hn] at hsent
      have hreq : (negoSendNegotiationRequest a n).2.sent.length ≤ nego.sent.length + 1 := by
        unfold negoSendNegotiationRequest
        dsimp only at hsent ⊢
        split_ifs <;> simp [hsent]
      split
      · rename_i m hm
        rw [hm] at hreq
        exact hreq
      · rename_i m hm
        rw [hm] at hreq
        have hrecv : (negoRecvResponse a m).2.sent = m.sent := by
          unfold negoRecvResponse
          split
          · rfl
          · exact negoRecv_sent _ _
        split
        · rename_i k hk
          rw [hk] at hrecv
          exact (congrArg List.length hrecv).le.trans hreq
        · rename_i k hk
          rw [hk] at hrecv
          exact (congrArg List.length hrecv).le.trans hreq
  have hfall : ∀ weaker (n : Nego), (negoFallBack weaker n).sent = n.sent :=
    fun weaker n => (negoFallBack_sameSession weaker n).sent
  unfold negoSend negoAttemptExt negoAttemptNla negoAttemptTls negoAttemptRdp
  split
  · have h := hattempt (PROTOCOL_HYBRID ||| PROTOCOL_SSL ||| PROTOCOL_HYBRID_EX)
    split <;> simp_all
  · have h := hattempt (PROTOCOL_HYBRID ||| PROTOCOL_SSL)
    split <;> simp_all
  · have h := hattempt PROTOCOL_SSL
    split <;> simp_all
  · exact hattempt PROTOCOL_RDP
  · exact Nat.le_succ _

/-- The replies after which the loop does not get stuck: none of them is an unrecognised reply to
an RDP attempt. -/
def NegoAlwaysRecognised (env : NegoEnv) (nego : Nego) : Prop :=
  ∀ i n, negoAttemptState env nego i = some n → n.state = .rdp →
    negoReply (env.attempts i) n ≠ some .unrecognised

/-- An attempt with a recognised reply ends the negotiation or moves to a weaker protocol. -/
lemma negoSend_progress {env : NegoEnv} {nego n : Nego} {i : Nat}
    (h : negoAttemptState env nego i = some n)
    (hrec : n.state = .rdp → negoReply (env.attempts i) n ≠ some .unrecognised) :
    (negoSend env (env.attempts i) n).state = .fail ∨
      (negoSend env (env.attempts i) n).state = .final ∨
      (negoSend env (env.attempts i) n).state.strength < n.state.strength := by
  by_cases hfail : (negoSend env (env.attempts i) n).state = .fail
  · exact Or.inl hfail
  · have hinv := negoAttemptState_inv h
    obtain ⟨r, hr, hsend, -⟩ := hinv.step hfail
    rw [hsend]
    rcases negoAfterReply_state n r hinv.active with hs | hs | ⟨-, hs | ⟨hrdp, rfl, -⟩⟩
    · exact Or.inl hs
    · exact Or.inr (Or.inl hs)
    · exact Or.inr (Or.inr hs)
    · exact absurd hr (hrec hrdp)

/-- Each attempt is at a weaker protocol than the one before. -/
lemma negoAttemptState_strength {env : NegoEnv} {nego n : Nego} {i : Nat}
    (hrec : NegoAlwaysRecognised env nego) (h : negoAttemptState env nego i = some n) :
    n.state.strength + i ≤ 4 := by
  induction i generalizing n with
  | zero => cases n.state <;> simp [NegoState.strength]
  | succ i ih =>
    simp only [negoAttemptState] at h
    split at h
    · cases h
    · rename_i m hm
      split_ifs at h with hend
      cases h
      rw [not_or] at hend
      have hm' := ih hm
      rcases negoSend_progress hm (hrec i m hm) with hs | hs | hs
      · exact absurd hs hend.1
      · exact absurd hs hend.2
      · omega

/-- As many attempts as there are weaker protocols are enough. -/
lemma negoLoop_isSome {env : NegoEnv} {nego : Nego} (hrec : NegoAlwaysRecognised env nego)
    (fuel : Nat) : ∀ i n, negoAttemptState env nego i = some n → n.state.strength ≤ fuel →
      ∃ result, negoLoop env fuel i n = some result := by
  induction fuel with
  | zero =>
    intro i n h hle
    have hpos := (NegoState.active_iff n.state).mp (negoAttemptState_inv h).active
    omega
  | succ fuel ih =>
    intro i n h hle
    simp only [negoLoop]
    split_ifs with hfail hfin
    · exact ⟨_, rfl⟩
    · refine ih (i + 1) _ ?_ ?_
      · simp only [negoAttemptState, h, hfail, hfin, or_self, if_false]
      · rcases negoSend_progress h (hrec i n h) with hs | hs | hs
        · exact absurd hs hfail
        · exact absurd hs hfin
        · omega
    · exact ⟨_, rfl⟩

/-- The loop of `nego_connect` makes its way down the protocols, and so ends with at most four
requests, exactly when no RDP attempt is answered by an unrecognised reply. -/
theorem negoConnect_ends_iff (env : NegoEnv) (nego : Nego) (hinit : nego.state = .initial) :
    ((∀ i n, negoAttemptState env nego i = some n →
        (negoSend env (env.attempts i) n).state = .fail ∨
          (negoSend env (env.attempts i) n).state = .final ∨
          (negoSend env (env.attempts i) n).state.strength < n.state.strength) ∧
      ∃ fuel ok nego', negoConnect fuel env nego = some (ok, nego') ∧
        nego'.sent.length ≤ nego.sent.length + 4) ↔
      NegoAlwaysRecognised env nego := by
  constructor
  · -- an unrecognised reply to an RDP attempt leaves the state as it is
    rintro ⟨hprogress, -⟩ i n hn hrdp hreply
    have hinv := negoAttemptState_inv hn
    have hsend := (negoSend_eq env (env.attempts i) hinv.negotiate hinv.active).2 _ hreply
    have hstay : (negoSend env (env.attempts i) n).state = .rdp := by
      rw [hsend, hrdp]
      exact hrdp
    rcases hprogress i n hn with hs | hs | hs
    · rw [hstay] at hs
      cases hs
    · rw [hstay] at hs
      cases hs
    · rw [hstay, hrdp] at hs
      exact absurd hs (lt_irrefl _)
  · intro hrec
    refine ⟨fun i n hn => negoSend_progress hn (hrec i n hn), 4, ?_⟩
    have hsent := (negoStart_session env nego).1
    cases hneg : nego.negotiateSecurityLayer with
    | false =>
      rw [negoConnect_of_not_negotiate 4 hinit hneg]
      split_ifs
      · let n := { (negoStart env nego).2 with state := NegoState.final }
        refine ⟨(negoFinish env n).1, (negoFinish env n).2, rfl, ?_⟩
        rw [negoFinish_sent]
        exact (congrArg List.length hsent).le.trans (Nat.le_add_right _ _)
      · exact ⟨_, _, rfl, (congrArg List.length hsent).le.trans (Nat.le_add_right _ _)⟩
    | true =>
      rw [negoConnect_of_negotiate 4 hinit hneg]
      split_ifs with hstart
      · have h0 : negoAttemptState env nego 0 = some (negoStart env nego).2 := by
          simp [negoAttemptState, hneg, hstart]
        obtain ⟨⟨ok, n⟩, hloop⟩ := negoLoop_isSome hrec 4 0 _ h0
          ((Nat.le_add_right _ 0).trans (negoAttemptState_strength hrec h0))
        -- the loop ended at attempt `j`, which is at most the fourth
        obtain ⟨j, m, hj, hend⟩ := negoLoop_eq_some h0 hloop
        have hn : n.sent.length ≤ nego.sent.length + 4 := by
          have hsend := negoSend_sent_length env (env.attempts j) m
          have hstrength := negoAttemptState_strength hrec hj
          have hinv := negoAttemptState_inv hj
          have hpos := (NegoState.active_iff m.state).mp hinv.active
          have hm := hinv.sent
          rcases hend with ⟨-, -, rfl⟩ | ⟨-, rfl⟩
          · omega
          · dsimp only
            omega
        rw [hloop]
        cases ok with
        | false => exact ⟨false, n, rfl, hn⟩
        | true =>
          refine ⟨(negoFinish env n).1, (negoFinish env n).2, rfl, ?_⟩
          rw [negoFinish_sent]
          exact hn
      · exact ⟨_, _, rfl, (congrArg List.length hsent).le.trans (Nat.le_add_right _ _)⟩

/-- A nego object as `nego_new` and the setters of `nego.c` leave it, with the given protocols
enabled. -/
def negoNew (enabled : List Nat) : Nego where
  state := .initial
  enabledProtocols := fun p => enabled.contains p
  selectedProtocol := PROTOCOL_RDP
  requestedProtocols := PROTOCOL_RDP
  flags := 0
  sendNegoData := false
  negotiateSecurityLayer := true
  restrictedAdminModeRequired := false
  sendPreconnectionPdu := false
  gatewayEnabled := false
  gatewayBypassLocal := false
  routingToken := none
  cookie := none
  cookieMaxLength := 0xFF
  tcpConnected := false
  securityConnected := false
  settings := ⟨0, 0, 0, false, 0⟩
  sent := []

/-- A transport that connects, writes, and delivers `reply`. -/
def TransportAnswers.replying (reply : List UInt8) : TransportAnswers where
  connect := fun _ => true
  write := true
  readPdu := some (WStream.ofBytes reply)

/-- A network on which every layer can be connected, with the given replies to the attempts. -/
def NegoEnv.replying (reply : Nat → List UInt8) : NegoEnv where
  preconnection := TransportAnswers.replying []
  attempts := fun i => TransportAnswers.replying (reply i)
  connectNla := true
  connectTls := true
  connectRdp := true

/-- A connection confirm whose `rdpNegData` has type 5. -/
def unknownTypeConfirm : List UInt8 :=
  [0x03, 0x00, 0x00, 0x0C, 0x07, 0xD0, 0x00, 0x00, 0x00, 0x00, 0x00, 0x05]

/-- A server that answers standard RDP security with a failure. -/
def failureConfirm : List UInt8 :=
  [0x03, 0x00, 0x00, 0x13, 0x0E, 0xD0, 0x00, 0x00, 0x00, 0x00, 0x00,
    0x03, 0x00, 0x08, 0x00, 0x05, 0x00, 0x00, 0x00]

/-- Standard RDP security refused by the server: one attempt and out. -/
theorem negoConnect_ends_failure :
    ∃ fuel ok nego', negoConnect fuel (NegoEnv.replying fun _ => failureConfirm)
      (negoNew [PROTOCOL_RDP]) = some (ok, nego') ∧ nego'.sent.length ≤ 4 := by
  have hrec : NegoAlwaysRecognised (NegoEnv.replying fun _ => failureConfirm)
      (negoNew [PROTOCOL_RDP]) := by
    intro i n h
    cases i with
    | zero =>
      cases h
      decide
    | succ i =>
      -- the first attempt fails, so there is no second one
      have hone : negoAttemptState (NegoEnv.replying fun _ => failureConfirm)
          (negoNew [PROTOCOL_RDP]) 1 = none := rfl
      rw [negoAttemptState_eq_none (Nat.le_add_left 1 i) hone] at h
      cases h
  exact ((negoConnect_ends_iff _ _ rfl).mpr hrec).2

/-- A server that keeps answering with an unknown type keeps the client in its loop. -/
theorem negoConnect_unknownType_diverges :
    ¬∃ fuel result, negoConnect fuel (NegoEnv.replying fun _ => unknownTypeConfirm)
      (negoNew [PROTOCOL_RDP]) = some result := by
  have hloop : ∀ fuel i (n : Nego), n.state = .rdp → n.negotiateSecurityLayer = true →
      n.routingToken = none → n.cookie = none → n.gatewayEnabled = false →
      n.sendNegoData = false →
      negoLoop (NegoEnv.replying fun _ => unknownTypeConfirm) fuel i n = none := by
    intro fuel
    induction fuel with
    | zero => intros; rfl
    | succ fuel ih =>
      intro i n hstate hneg htoken hcookie hgw hdata
      have hreply : negoReply (TransportAnswers.replying unknownTypeConfirm) n =
          some .unrecognised := by
        have htype : Reply.ofStream (WStream.ofBytes unknownTypeConfirm) = some .unrecognised := by
          decide
        cases htcp : n.tcpConnected <;>
          simp [negoReply, TransportAnswers.replying, negoTcpConnect, negoSendNegotiationRequest,
            negoRequestToken, negoRequestData, negoRequested, htoken, hcookie, hgw, hdata, hstate,
            htcp, htype, PROTOCOL_RDP, TPDU_CONNECTION_REQUEST_LENGTH]
      have hsend := (negoSend_eq (NegoEnv.replying fun _ => unknownTypeConfirm)
        (TransportAnswers.replying unknownTypeConfirm) hneg
        (by simp [NegoState.Active, hstate])).2 _ hreply
      have hwait : negoSend (NegoEnv.replying fun _ => unknownTypeConfirm)
          ((NegoEnv.replying fun _ => unknownTypeConfirm).attempts i) n = negoWaiting n := by
        refine hsend.trans ?_
        simp [negoAfterReply, hstate, Reply.apply]
      simp only [negoLoop, hwait]
      rw [if_neg (by simp [negoWaiting, hstate]), if_pos (by simp [negoWaiting, hstate])]
      exact ih (i + 1) (negoWaiting n) hstate hneg htoken hcookie hgw hdata
  rintro ⟨fuel, result, h⟩
  have hstart : (negoStart (NegoEnv.replying fun _ => unknownTypeConfirm)
      (negoNew [PROTOCOL_RDP])).1 = true := rfl
  rw [negoConnect_of_negotiate fuel rfl rfl, if_pos hstart,
    hloop fuel 0 _ rfl rfl rfl rfl rfl rfl] at h
  cases h

end FreeRdp
