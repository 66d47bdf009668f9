import FreeRdp.Core.Nego.Step

/-!
# Runs of the negotiation

`negoAttemptState env nego i` is the object with which the loop of `nego_connect` starts its
attempt number `i`. `NegoAttemptInv` holds of every such state of every run, and
`negoLoop_eq_some` says in which of them a loop can end.
-/

namespace FreeRdp

/-- The object as attempt `i` of `nego_connect` finds it, `none` when there is no such attempt. -/
def negoAttemptState (env : NegoEnv) (nego : Nego) : Nat → Option Nego
  | 0 =>
    if nego.negotiateSecurityLayer && (negoStart env nego).1 then some (negoStart env nego).2
    else none
  | i + 1 =>
    match negoAttemptState env nego i with
    | none => none
    | some n =>
      let n := negoSend env (env.attempts i) n
      if n.state = .fail ∨ n.state = .final then none else some n

/-- The strength of the protocol that a state attempts: EXT > NLA > TLS > RDP. -/
def NegoState.strength : NegoState → Nat
  | .ext => 4
  | .nla => 3
  | .tls => 2
  | .rdp => 1
  | _ => 0

lemma NegoState.active_iff (state : NegoState) : state.Active ↔ 0 < state.strength := by
  cases state <;> simp [Active, strength]

/-! ### What a step keeps -/

@[simp] lemma negoCheckSelectedProtocol_enabledProtocols (nego : Nego) :
    (negoCheckSelectedProtocol nego).enabledProtocols = nego.enabledProtocols := by
  unfold negoCheckSelectedProtocol
  dsimp only
  split_ifs <;> rfl

/-- The fields that neither a reply nor the step down to a weaker protocol touches. -/
structure Nego.SameSession (n m : Nego) : Prop where
  enabledProtocols : m.enabledProtocols = n.enabledProtocols
  negotiateSecurityLayer : m.negotiateSecurityLayer = n.negotiateSecurityLayer
  securityConnected : n.securityConnected = false → m.securityConnected = false
  sent : m.sent = n.sent

lemma Nego.SameSession.refl (n : Nego) : n.SameSession n := ⟨rfl, rfl, id, rfl⟩

lemma Nego.SameSession.trans {n m k : Nego} (h : n.SameSession m) (h' : m.SameSession k) :
    n.SameSession k :=
  ⟨h'.1.trans h.1, h'.2.trans h.2, fun hn => h'.3 (h.3 hn), h'.4.trans h.4⟩

lemma Reply.apply_sameSession (nego : Nego) (r : Reply) : nego.SameSession (r.apply nego) := by
  cases r with
  | response flags p =>
    unfold apply negoCheckSelectedProtocol
    dsimp only
    split_ifs <;> exact ⟨rfl, rfl, id, rfl⟩
  | failure code => exact ⟨rfl, rfl, id, rfl⟩
  | noNegData =>
    unfold apply
    dsimp only
    split_ifs <;> exact ⟨rfl, rfl, id, rfl⟩
  | unrecognised => exact Nego.SameSession.refl nego
  | invalid => exact ⟨rfl, rfl, id, rfl⟩

lemma negoFallBack_sameSession (weaker : List (Nat × NegoState)) (nego : Nego) :
    nego.SameSession (negoFallBack weaker nego) := by
  unfold negoFallBack negoTransportDisconnect
  dsimp only
  split_ifs
  · split <;> exact ⟨rfl, rfl, fun _ => rfl, rfl⟩
  · exact Nego.SameSession.refl nego

lemma negoAfterReply_sameSession (state : NegoState) (nego : Nego) :
    nego.SameSession (negoAfterReply state nego) := by
  unfold negoAfterReply
  split_ifs
  · exact Nego.SameSession.refl nego
  · exact negoFallBack_sameSession _ nego

/-- Where an attempt's reply leads: the final state, failure, a weaker protocol, or, for an
unrecognised reply to an RDP attempt, nowhere. -/
lemma negoAfterReply_state (n : Nego) (r : Reply) (hact : n.state.Active) :
    (negoAfterReply n.state (r.apply (negoWaiting n))).state = .fail ∨
      (negoAfterReply n.state (r.apply (negoWaiting n))).state = .final ∨
      (negoAfterReply n.state (r.apply (negoWaiting n))).state.Active ∧
        ((negoAfterReply n.state (r.apply (negoWaiting n))).state.strength < n.state.strength ∨
          n.state = .rdp ∧ r = .unrecognised ∧
            negoAfterReply n.state (r.apply (negoWaiting n)) = negoWaiting n) := by
  by_cases hrdp : n.state = .rdp
  · simp only [negoAfterReply, hrdp, if_true]
    cases r with
    | response flags p =>
      unfold Reply.apply negoCheckSelectedProtocol
      dsimp only
      split_ifs <;> simp
    | failure code => exact Or.inl rfl
    | noNegData =>
      unfold Reply.apply
      dsimp only
      split_ifs <;> simp
    | unrecognised => simp [Reply.apply, negoWaiting, hrdp, NegoState.Active]
    | invalid => exact Or.inl rfl
  · simp only [negoAfterReply, hrdp, if_false]
    generalize r.apply (negoWaiting n) = m
    by_cases hfin : m.state = .final
    · simp [negoFallBack, hfin]
    · unfold negoFallBack
      rw [if_pos hfin]
      dsimp only
      cases hf : (negoWeaker n.state).find? fun p =>
          (negoTransportDisconnect m).enabledProtocols p.1 with
      | none => exact Or.inl rfl
      | some p =>
        refine Or.inr (Or.inr ?_)
        have hmem := List.mem_of_find?_eq_some hf
        rcases hact with hs | hs | hs | hs
        all_goals
          rw [hs] at hmem hrdp ⊢
          simp only [negoWeaker, List.mem_cons, List.not_mem_nil, or_false] at hmem
        · rcases hmem with rfl | rfl | rfl <;> simp [NegoState.Active, NegoState.strength]
        · rcases hmem with rfl | rfl <;> simp [NegoState.Active, NegoState.strength]
        · subst hmem
          simp [NegoState.Active, NegoState.strength]

/-- What holds of the object when attempt `i` starts. -/
structure NegoAttemptInv (nego : Nego) (i : Nat) (n : Nego) : Prop where
  active : n.state.Active
  negotiate : n.negotiateSecurityLayer = true
  enabled : n.enabledProtocols = nego.enabledProtocols
  security : nego.securityConnected = false → n.securityConnected = false
  sent : n.sent.length = nego.sent.length + i

/-- One attempt: without a reply it fails, and with one it keeps the invariant. -/
lemma NegoAttemptInv.step {env : NegoEnv} {a : TransportAnswers} {nego n : Nego} {i : Nat}
    (h : NegoAttemptInv nego i n) (hlive : (negoSend env a n).state ≠ .fail) :
    ∃ r, negoReply a n = some r ∧
      negoSend env a n = negoAfterReply n.state (r.apply (negoWaiting n)) ∧
      (negoWaiting n).SameSession (negoSend env a n) := by
  obtain ⟨hnone, hsome⟩ := negoSend_eq env a h.negotiate h.active
  cases hr : negoReply a n with
  | none => exact absurd (hnone hr) hlive
  | some r =>
    refine ⟨r, rfl, hsome r hr, ?_⟩
    rw [hsome r hr]
    exact (Reply.apply_sameSession _ r).trans (negoAfterReply_sameSession _ _)

/-- The preconnection PDU changes nothing but the connection. -/
lemma negoPreconnect_eq {env : NegoEnv} {nego : Nego} (h : (negoPreconnect env nego).1 = true) :
    ∃ b, (negoPreconnect env nego).2 = { nego with tcpConnected := b } := by
  unfold negoPreconnect negoSendPreconnectionPdu at h ⊢
  by_cases hpre : nego.sendPreconnectionPdu = true
  · rw [if_pos hpre] at h ⊢
    cases htcp : (negoTcpConnect env.preconnection nego).1 with
    | false =>
      rcases hr : negoTcpConnect env.preconnection nego with ⟨b, m⟩
      simp_all
    | true =>
      rw [negoTcpConnect_eq htcp] at h ⊢
      cases hw : env.preconnection.write with
      | false => simp [hw] at h
      | true => exact ⟨true, rfl⟩
  · rw [if_neg hpre]
    exact ⟨nego.tcpConnected, rfl⟩

/-- The loop starts with an attempt at the strongest enabled protocol. -/
lemma negoStart_inv {env : NegoEnv} {nego : Nego} (hneg : nego.negotiateSecurityLayer = true)
    (h : (negoStart env nego).1 = true) : NegoAttemptInv nego 0 (negoStart env nego).2 := by
  have hstate : ∀ p : Nat × NegoState, p ∈ [(PROTOCOL_HYBRID_EX, NegoState.ext),
      (PROTOCOL_HYBRID, .nla), (PROTOCOL_SSL, .tls), (PROTOCOL_RDP, .rdp)] → p.2.Active := by
    simp [NegoState.Active]
  unfold negoStart at h ⊢
  dsimp only at h ⊢
  split at h
  · cases h
  · rename_i p hp
    rw [if_neg (by simp [hneg])] at h ⊢
    obtain ⟨b, hb⟩ := negoPreconnect_eq h
    rw [hb]
    exact ⟨hstate p (List.mem_of_find?_eq_some hp), hneg, rfl, id, rfl⟩

/-- The invariant holds of every attempt of every run. -/
lemma negoAttemptState_inv {env : NegoEnv} {nego n : Nego} {i : Nat}
    (h : negoAttemptState env nego i = some n) : NegoAttemptInv nego i n := by
  induction i generalizing n with
  | zero =>
    simp only [negoAttemptState, Bool.and_eq_true] at h
    split_ifs at h with hc
    cases h
    exact negoStart_inv hc.1 hc.2
  | succ i ih =>
    simp only [negoAttemptState] at h
    split at h
    · cases h
    · rename_i m hm
      split_ifs at h with hend
      cases h
      rw [not_or] at hend
      have hinv := ih hm
      obtain ⟨r, -, hsend, hsame⟩ := hinv.step hend.1
      refine ⟨?_, hsame.2.trans hinv.negotiate, hsame.1.trans hinv.enabled,
        fun hsec => hsame.3 (hinv.security hsec), ?_⟩
      · rcases negoAfterReply_state m r hinv.active with hf | hf | hf
        · exact absurd (hsend ▸ hf) hend.1
        · exact absurd (hsend ▸ hf) hend.2
        · exact hsend ▸ hf.1
      · rw [hsame.4]
        simp only [negoWaiting, List.length_append, List.length_cons, List.length_nil, hinv.sent]
        omega

/-- A loop that ends does so at some attempt, in its failed or its final state. -/
lemma negoLoop_eq_some {env : NegoEnv} {nego n n' : Nego} {fuel i : Nat} {ok : Bool}
    (hn : negoAttemptState env nego i = some n) (h : negoLoop env fuel i n = some (ok, n')) :
    ∃ j m, negoAttemptState env nego j = some m ∧
      (ok = true ∧ (negoSend env (env.attempts j) m).state = .final ∧
          n' = negoSend env (env.attempts j) m ∨
        ok = false ∧ n' = { negoSend env (env.attempts j) m with state := .final }) := by
  induction fuel generalizing i n with
  | zero => cases h
  | succ fuel ih =>
    simp only [negoLoop] at h
    split_ifs at h with hfail hfin
    · cases h
      exact ⟨i, n, hn, Or.inr ⟨rfl, rfl⟩⟩
    · refine ih (i := i + 1) ?_ h
      simp only [negoAttemptState, hn, hfail, hfin, or_self, if_false]
    · cases h
      exact ⟨i, n, hn, Or.inl ⟨rfl, not_not.mp hfin, rfl⟩⟩

/-- Once the loop has ended there are no further attempts. -/
lemma negoAttemptState_eq_none {env : NegoEnv} {nego : Nego} {i j : Nat} (hij : i ≤ j)
    (h : negoAttemptState env nego i = none) : negoAttemptState env nego j = none := by
  induction j, hij using Nat.le_induction with
  | base => exact h
  | succ j _ ih => simp only [negoAttemptState, ih]

/-! ### `nego_connect` around its loop -/

lemma negoSecurityConnect_sent (env : NegoEnv) (nego : Nego) :
    (negoSecurityConnect env nego).2.sent = nego.sent := by
  unfold negoSecurityConnect
  dsimp only
  split_ifs <;> rfl

lemma negoFinish_sent (env : NegoEnv) (nego : Nego) :
    (negoFinish env nego).2.sent = nego.sent := negoSecurityConnect_sent env _

lemma negoPreconnect_session (env : NegoEnv) (nego : Nego) :
    (negoPreconnect env nego).2.sent = nego.sent ∧
      (negoPreconnect env nego).2.negotiateSecurityLayer = nego.negotiateSecurityLayer := by
  have htcp : (negoTcpConnect env.preconnection nego).2.sent = nego.sent ∧
      (negoTcpConnect env.preconnection nego).2.negotiateSecurityLayer =
        nego.negotiateSecurityLayer := by
    unfold negoTcpConnect
    dsimp only
    split_ifs <;> exact ⟨rfl, rfl⟩
  unfold negoPreconnect negoSendPreconnectionPdu
  rcases hr : negoTcpConnect env.preconnection nego with ⟨_ | _, m⟩ <;> rw [hr] at htcp
  · split_ifs
    · exact htcp
    · exact ⟨rfl, rfl⟩
  · split_ifs
    · cases env.preconnection.write <;> exact htcp
    · exact ⟨rfl, rfl⟩

lemma negoStart_session (env : NegoEnv) (nego : Nego) :
    (negoStart env nego).2.sent = nego.sent ∧
      (negoStart env nego).2.negotiateSecurityLayer = nego.negotiateSecurityLayer := by
  unfold negoStart
  dsimp only
  split
  · exact ⟨rfl, rfl⟩
  · rename_i p _
    obtain ⟨hsent, hneg⟩ := negoPreconnect_session env
      (if !nego.negotiateSecurityLayer then negoSelectHighest { nego with state := p.2 }
        else { nego with state := p.2 })
    rw [hsent, hneg]
    split_ifs
    · unfold negoSelectHighest
      split <;> exact ⟨rfl, rfl⟩
    · exact ⟨rfl, rfl⟩

/-- `nego_connect` without security negotiation: no attempt is made. -/
lemma negoConnect_of_not_negotiate {env : NegoEnv} {nego : Nego} (fuel : Nat)
    (hinit : nego.state = .initial) (hneg : nego.negotiateSecurityLayer = false) :
    negoConnect fuel env nego =
      if (negoStart env nego).1 then
        some (negoFinish env { (negoStart env nego).2 with state := .final })
      else some (false, (negoStart env nego).2) := by
  have hstart := (negoStart_session env nego).2
  unfold negoConnect
  rw [if_pos hinit]
  rcases hs : negoStart env nego with ⟨_ | _, n⟩
  · rfl
  · rw [hs] at hstart
    have hn : (!n.negotiateSecurityLayer) = true := by
      rw [hstart, hneg]
      rfl
    exact if_pos hn

/-- `nego_connect` with security negotiation: the loop decides. -/
lemma negoConnect_of_negotiate {env : NegoEnv} {nego : Nego} (fuel : Nat)
    (hinit : nego.state = .initial) (hneg : nego.negotiateSecurityLayer = true) :
    negoConnect fuel env nego =
      if (negoStart env nego).1 then
        match negoLoop env fuel 0 (negoStart env nego).2 with
        | none => none
        | some (false, n) => some (false, n)
        | some (true, n) => some (negoFinish env n)
      else some (false, (negoStart env nego).2) := by
  have hstart := (negoStart_session env nego).2
  unfold negoConnect
  rw [if_pos hinit]
  rcases hs : negoStart env nego with ⟨_ | _, n⟩
  · rfl
  · rw [hs] at hstart
    have hn : ¬(!n.negotiateSecurityLayer) = true := by
      rw [hstart, hneg]
      simp
    exact if_neg hn

end FreeRdp
