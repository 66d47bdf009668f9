import FreeRdp.Core.Nego.Termination

/-!
# The protocol a negotiation ends on

`nego_recv` checks the protocol a server selects against the enabled ones, but not against the
ones the attempt requested, and a confirm without `rdpNegData` finishes the negotiation without
touching `SelectedProtocol`. `Nego.Expects` names the replies for which neither matters.
-/

namespace FreeRdp

/-- What `nego_connect` owes its caller when it returns `TRUE`: the protocol was enabled, and if a
request was sent at all, the last one offered it and its reply selected it. -/
def NegoSelectionSound (env : NegoEnv) (nego nego' : Nego) : Prop :=
  nego.enabledProtocols nego'.selectedProtocol = true ∧
    ∀ request, nego'.sent.getLast? = some request →
      nego'.selectedProtocol &&& request.requestedProtocols = nego'.selectedProtocol ∧
      ∃ s r, (env.attempts (nego'.sent.length - 1)).readPdu = some s ∧
        Reply.ofStream s = some r ∧ r.selects = some nego'.selectedProtocol

/-- The replies that an attempt can take as they come: a confirm without `rdpNegData` while no
security protocol is selected yet, and a response that does not select an enabled security
protocol the attempt has not requested. -/
def Nego.Expects (n : Nego) : Reply → Prop
  | .noNegData =>
    n.enabledProtocols PROTOCOL_RDP = true →
      n.selectedProtocol ≠ PROTOCOL_SSL ∧ n.selectedProtocol ≠ PROTOCOL_HYBRID
  | .response _ p =>
    (p = PROTOCOL_SSL ∨ p = PROTOCOL_HYBRID) → n.enabledProtocols p = true →
      p &&& negoRequested n.state = p
  | _ => True

/-- Every reply of the run is one its attempt expects. -/
def NegoRepliesExpected (env : NegoEnv) (nego : Nego) : Prop :=
  ∀ i n r, negoAttemptState env nego i = some n → negoReply (env.attempts i) n = some r →
    n.Expects r

/-- A final state behind a reply: the attempt stops there. -/
lemma negoAfterReply_final {state : NegoState} {nego : Nego}
    (h : (negoAfterReply state nego).state = .final) (hact : state.Active) :
    nego.state = .final ∧ negoAfterReply state nego = nego := by
  unfold negoAfterReply at h ⊢
  by_cases hrdp : state = .rdp
  · rw [if_pos hrdp] at h ⊢
    exact ⟨h, rfl⟩
  · rw [if_neg hrdp] at h ⊢
    unfold negoFallBack at h ⊢
    by_cases hfin : nego.state = .final
    · rw [if_neg (not_not.mpr hfin)]
      exact ⟨hfin, rfl⟩
    · rw [if_pos hfin] at h
      dsimp only at h
      split at h
      · rename_i p hp
        have hmem := List.mem_of_find?_eq_some hp
        rcases hact with hs | hs | hs | hs
        all_goals
          rw [hs] at hmem hrdp
          simp only [negoWeaker, List.mem_cons, List.not_mem_nil, or_false] at hmem
        · rcases hmem with rfl | rfl | rfl <;> cases h
        · rcases hmem with rfl | rfl <;> cases h
        · subst hmem
          cases h
      · cases h

/-- The protocols whose security layer can be connected. -/
def Connectable (p : Nat) : Prop := p = PROTOCOL_HYBRID ∨ p = PROTOCOL_SSL ∨ p = PROTOCOL_RDP

/-- The replies that finish a negotiation, and the protocol they leave selected. -/
lemma Reply.apply_final_iff (n : Nego) (r : Reply) (hn : n.state ≠ .final) :
    (r.apply n).state = .final ↔
      (∃ flags p, r = .response flags p ∧ (Connectable p → n.enabledProtocols p = true)) ∨
      r = .noNegData ∧ n.enabledProtocols PROTOCOL_RDP = true := by
  cases r with
  | response flags p =>
    simp only [apply, negoCheckSelectedProtocol, Connectable, PROTOCOL_HYBRID, PROTOCOL_SSL,
      PROTOCOL_RDP]
    by_cases h2 : p = 2
    · rcases Bool.eq_false_or_eq_true (n.enabledProtocols 2) with he | he <;> simp [h2, he]
    · by_cases h1 : p = 1
      · rcases Bool.eq_false_or_eq_true (n.enabledProtocols 1) with he | he <;> simp [h1, he]
      · by_cases h0 : p = 0
        · rcases Bool.eq_false_or_eq_true (n.enabledProtocols 0) with he | he <;> simp [h0, he]
        · simp [h0, h1, h2]
  | failure code => simp [apply]
  | noNegData =>
    rcases Bool.eq_false_or_eq_true (n.enabledProtocols PROTOCOL_RDP) with he | he <;>
      simp [apply, he]
  | unrecognised => simpa [apply] using hn
  | invalid => simp [apply]

/-- The protocol that stays selected behind a reply. -/
def Reply.leaves (n : Nego) : Reply → Nat
  | response _ p => p
  | _ => n.selectedProtocol

lemma Reply.apply_selectedProtocol (n : Nego) (r : Reply) :
    (r.apply n).selectedProtocol = r.leaves n := by
  cases r with
  | response flags p =>
    unfold apply negoCheckSelectedProtocol
    dsimp only
    split_ifs <;> rfl
  | failure code => rfl
  | noNegData =>
    unfold apply
    dsimp only
    split_ifs <;> rfl
  | unrecognised => rfl
  | invalid => rfl

/-- The end of a successful `nego_connect`. -/
lemma negoFinish_eq_true {env : NegoEnv} {n nego' : Nego} (h : negoFinish env n = (true, nego')) :
    nego'.selectedProtocol = n.selectedProtocol ∧ nego'.sent = n.sent ∧
      (n.securityConnected = false → Connectable n.selectedProtocol) := by
  have hkeep : (negoFinish env n).2.selectedProtocol = n.selectedProtocol := by
    unfold negoFinish negoSecurityConnect
    dsimp only
    split_ifs <;> rfl
  have hsent := negoFinish_sent env n
  rw [h] at hkeep hsent
  refine ⟨hkeep, hsent, fun hsec => ?_⟩
  by_contra hne
  simp only [Connectable, not_or] at hne
  obtain ⟨h2, h1, h0⟩ := hne
  have hok := congrArg Prod.fst h
  unfold negoFinish negoSecurityConnect at hok
  cases htcp : n.tcpConnected <;> simp [htcp, hsec, h2, h1, h0] at hok

/-- Without negotiation the protocol selected at the start is one of the enabled. -/
lemma negoStart_selectedProtocol {env : NegoEnv} {nego : Nego}
    (hneg : nego.negotiateSecurityLayer = false) (h : (negoStart env nego).1 = true) :
    nego.enabledProtocols (negoStart env nego).2.selectedProtocol = true := by
  unfold negoStart at h ⊢
  dsimp only at h ⊢
  split at h
  · cases h
  · rename_i p hp
    rw [if_pos (by simp [hneg])] at h ⊢
    obtain ⟨b, hb⟩ := negoPreconnect_eq h
    rw [hb]
    have henabled := List.find?_some hp
    have hmem := List.mem_of_find?_eq_some hp
    simp only [List.mem_cons, List.not_mem_nil, or_false] at hmem
    rcases hmem with rfl | rfl | rfl | rfl <;> exact henabled

lemma negoReply_eq_some {a : TransportAnswers} {nego : Nego} {r : Reply}
    (h : negoReply a nego = some r) : ∃ s, a.readPdu = some s ∧ Reply.ofStream s = some r := by
  unfold negoReply at h
  dsimp only at h
  split_ifs at h
  exact Option.bind_eq_some_iff.mp h

section Run

variable {env : NegoEnv} {nego n : Nego} {i : Nat} {r : Reply}

/-- A reply that an attempt does not expect finishes the negotiation. -/
lemma negoSend_final_of_not_expects (hn : negoAttemptState env nego i = some n)
    (hr : negoReply (env.attempts i) n = some r) (h : ¬n.Expects r) :
    (negoSend env (env.attempts i) n).state = .final := by
  have hinv := negoAttemptState_inv hn
  rw [(negoSend_eq env (env.attempts i) hinv.negotiate hinv.active).2 r hr]
  have hactive : (negoWaiting n).state ≠ .final := by
    rcases hinv.active with hs | hs | hs | hs <;> simp [negoWaiting, hs]
  have hfin : (r.apply (negoWaiting n)).state = .final := by
    rw [Reply.apply_final_iff _ _ hactive]
    cases r with
    | response flags p =>
      refine Or.inl ⟨flags, p, rfl, fun _ => ?_⟩
      simp only [Nego.Expects, not_forall] at h
      obtain ⟨-, henabled, -⟩ := h
      exact henabled
    | noNegData =>
      simp only [Nego.Expects, not_forall] at h
      obtain ⟨henabled, -⟩ := h
      exact Or.inr ⟨rfl, henabled⟩
    | failure code => exact absurd trivial h
    | unrecognised => exact absurd trivial h
    | invalid => exact absurd trivial h
  unfold negoAfterReply negoFallBack
  split_ifs with hrdp hne
  · exact hfin
  · exact absurd hfin hne
  · exact hfin

/-- Only the last attempt of a run can meet a reply it does not expect. -/
lemma negoRepliesExpected_iff (hn : negoAttemptState env nego i = some n)
    (hr : negoReply (env.attempts i) n = some r)
    (hfin : (negoSend env (env.attempts i) n).state = .final) :
    NegoRepliesExpected env nego ↔ n.Expects r := by
  refine ⟨fun h => h i n r hn hr, fun h => ?_⟩
  have hlast : ∀ {j m}, negoAttemptState env nego j = some m →
      (negoSend env (env.attempts j) m).state = .final →
      negoAttemptState env nego (j + 1) = none := by
    intro j m hm hend
    simp only [negoAttemptState, hm, hend, or_true, if_true]
  intro j m r' hm hr'
  by_contra hunexpected
  have hend := negoSend_final_of_not_expects hm hr' hunexpected
  rcases lt_trichotomy i j with hij | rfl | hij
  · rw [negoAttemptState_eq_none hij (hlast hn hfin)] at hm
    cases hm
  · rw [hn] at hm
    cases hm
    rw [hr] at hr'
    cases hr'
    exact hunexpected h
  · rw [negoAttemptState_eq_none hij (hlast hm hend)] at hn
    cases hn

/-- The selection of a run whose last attempt is number `i`. -/
lemma negoSelectionSound_iff {nego' : Nego} (hn : negoAttemptState env nego i = some n)
    (hr : negoReply (env.attempts i) n = some r)
    (hfin : (negoSend env (env.attempts i) n).state = .final)
    (hsel : nego'.selectedProtocol = (negoSend env (env.attempts i) n).selectedProtocol)
    (hconn : Connectable (negoSend env (env.attempts i) n).selectedProtocol)
    (hsent : nego'.sent = n.sent ++ [negoRequest n]) (hlen : nego'.sent.length = i + 1) :
    NegoSelectionSound env nego nego' ↔ n.Expects r := by
  have hinv := negoAttemptState_inv hn
  have hsend := (negoSend_eq env (env.attempts i) hinv.negotiate hinv.active).2 r hr
  rw [hsend] at hfin hsel hconn
  obtain ⟨hfin, happly⟩ := negoAfterReply_final hfin hinv.active
  rw [happly, Reply.apply_selectedProtocol] at hsel hconn
  have hactive : (negoWaiting n).state ≠ .final := by
    rcases hinv.active with hs | hs | hs | hs <;> simp [negoWaiting, hs]
  obtain ⟨s, hread, hparse⟩ := negoReply_eq_some hr
  -- the request and the reply of the last attempt are the ones of `n`
  have hsound : NegoSelectionSound env nego nego' ↔
      n.enabledProtocols nego'.selectedProtocol = true ∧
        nego'.selectedProtocol &&& negoRequested n.state = nego'.selectedProtocol ∧
        r.selects = some nego'.selectedProtocol := by
    unfold NegoSelectionSound
    rw [hinv.enabled, hlen, Nat.add_sub_cancel, hread, hsent]
    simp only [List.getLast?_append, List.getLast?_singleton, Option.some_or, Option.some.injEq,
      forall_eq', exists_and_left, exists_eq_left', hparse]
    rfl
  rw [hsound, hsel]
  rcases (Reply.apply_final_iff _ r hactive).mp hfin with ⟨flags, p, rfl, henabled⟩ | ⟨rfl, hrdp⟩
  · -- a response: what it selects is enabled, so only the request is left to compare
    have hp : n.enabledProtocols p = true := henabled hconn
    simp only [Reply.leaves, Reply.selects, Nego.Expects, hp, true_and, and_true, forall_const]
    refine ⟨fun h _ => h, fun h => ?_⟩
    rcases hconn with h2 | h1 | h0
    · exact h (Or.inr h2)
    · exact h (Or.inl h1)
    · have hzero : p = 0 := h0
      rw [hzero, Nat.zero_and]
  · -- no negotiation data: only standard RDP security can be meant
    have hold : n.selectedProtocol = PROTOCOL_HYBRID ∨ n.selectedProtocol = PROTOCOL_SSL ∨
        n.selectedProtocol = PROTOCOL_RDP := hconn
    have henabled : n.enabledProtocols PROTOCOL_RDP = true := hrdp
    simp only [Reply.leaves, Reply.selects, Nego.Expects, henabled, forall_const, negoWaiting]
    rcases hold with h2 | h1 | h0
    · simp [h2, PROTOCOL_RDP, PROTOCOL_HYBRID]
    · simp [h1, PROTOCOL_RDP, PROTOCOL_SSL]
    · rw [h0]
      refine iff_of_true ⟨henabled, Nat.zero_and _, rfl⟩ ?_
      decide

end Run

/-- `nego_connect` ends on a protocol that was enabled, offered last and selected by the last
reply exactly when every reply of the run is one its attempt expects. -/
theorem negoConnect_selectionSound_iff {fuel : Nat} {env : NegoEnv} {nego nego' : Nego}
    (hinit : nego.state = .initial) (hsec : nego.securityConnected = false)
    (hsent : nego.sent = []) (h : negoConnect fuel env nego = some (true, nego')) :
    NegoSelectionSound env nego nego' ↔ NegoRepliesExpected env nego := by
  cases hneg : nego.negotiateSecurityLayer with
  | false =>
    have hnone : ∀ i, negoAttemptState env nego i = none := fun i =>
      negoAttemptState_eq_none (Nat.zero_le i) (by simp [negoAttemptState, hneg])
    rw [negoConnect_of_not_negotiate fuel hinit hneg] at h
    split_ifs at h with hstart
    · -- no request is sent, and the protocol was chosen from the enabled ones
      obtain ⟨hsel, hsent', -⟩ := negoFinish_eq_true (Option.some.inj h)
      refine iff_of_true ⟨?_, ?_⟩ (fun i n r hi => by simp [hnone i] at hi)
      · rw [hsel]
        exact negoStart_selectedProtocol hneg hstart
      · intro request hrequest
        simp [hsent', (negoStart_session env nego).1, hsent] at hrequest
    · cases h
  | true =>
    rw [negoConnect_of_negotiate fuel hinit hneg] at h
    split_ifs at h with hstart
    · have h0 : negoAttemptState env nego 0 = some (negoStart env nego).2 := by
        simp [negoAttemptState, hneg, hstart]
      split at h
      · cases h
      · cases h
      · rename_i n hloop
        obtain ⟨j, m, hj, ⟨-, hend, rfl⟩ | ⟨habs, -⟩⟩ := negoLoop_eq_some h0 hloop
        · obtain ⟨hsel, hsent', hconn⟩ := negoFinish_eq_true (Option.some.inj h)
          have hinv := negoAttemptState_inv hj
          have hlive : (negoSend env (env.attempts j) m).state ≠ .fail := by
            rw [hend]
            simp
          obtain ⟨r, hr, hsend, hsame⟩ := hinv.step hlive
          rw [negoRepliesExpected_iff hj hr hend]
          have hm : m.sent.length = j := by simpa [hsent] using hinv.sent
          refine negoSelectionSound_iff hj hr hend hsel (hconn (hsame.3 (hinv.security hsec))) ?_ ?_
          · rw [hsent', hsame.4]
            rfl
          · rw [hsent', hsame.4]
            simp [negoWaiting, hm]
        · cases habs
    · cases h

/-- A connection confirm that selects TLS. -/
def selectSslConfirm : List UInt8 :=
  [0x03, 0x00, 0x00, 0x13, 0x0E, 0xD0, 0x00, 0x00, 0x00, 0x00, 0x00,
    0x02, 0x00, 0x08, 0x00, 0x01, 0x00, 0x00, 0x00]

/-- A connection confirm without `rdpNegData`. -/
def shortConfirm : List UInt8 :=
  [0x03, 0x00, 0x00, 0x0B, 0x06, 0xD0, 0x00, 0x00, 0x00, 0x00, 0x00]

/-- TLS enabled, requested and selected. -/
theorem negoConnect_selectionSound_tls :
    ∃ nego', negoConnect 1 (NegoEnv.replying fun _ => selectSslConfirm)
        (negoNew [PROTOCOL_SSL, PROTOCOL_RDP]) = some (true, nego') ∧
      NegoSelectionSound (NegoEnv.replying fun _ => selectSslConfirm)
        (negoNew [PROTOCOL_SSL, PROTOCOL_RDP]) nego' := by
  have hexpected : NegoRepliesExpected (NegoEnv.replying fun _ => selectSslConfirm)
      (negoNew [PROTOCOL_SSL, PROTOCOL_RDP]) := by
    intro i n r hn hr
    cases i with
    | zero =>
      cases hn
      cases hr
      intro _ _
      rfl
    | succ i =>
      have hone : negoAttemptState (NegoEnv.replying fun _ => selectSslConfirm)
          (negoNew [PROTOCOL_SSL, PROTOCOL_RDP]) 1 = none := rfl
      rw [negoAttemptState_eq_none (Nat.le_add_left 1 i) hone] at hn
      cases hn
  obtain ⟨nego', h⟩ : ∃ nego', negoConnect 1 (NegoEnv.replying fun _ => selectSslConfirm)
      (negoNew [PROTOCOL_SSL, PROTOCOL_RDP]) = some (true, nego') := ⟨_, rfl⟩
  exact ⟨nego', h, (negoConnect_selectionSound_iff rfl rfl rfl h).mpr hexpected⟩

/-- TLS is not enabled, but the server selects it in its first reply and leaves `rdpNegData` out
of the second: the negotiation succeeds with TLS. -/
theorem negoConnect_staleSelection :
    ¬∀ fuel env nego nego', nego.state = .initial → nego.securityConnected = false →
      nego.sent = [] → negoConnect fuel env nego = some (true, nego') →
      NegoSelectionSound env nego nego' := by
  intro h
  have hsound := h 2
    (NegoEnv.replying fun i => if i = 0 then selectSslConfirm else shortConfirm)
    (negoNew [PROTOCOL_HYBRID_EX, PROTOCOL_RDP]) _ rfl rfl rfl rfl
  exact absurd hsound.1 (by decide)

end FreeRdp
