import FreeRdp.Core.Transport.Framing

/-!
# Framing under any arrival pattern

`transport_read_pdu` is called again and again while the bytes of a stream come in, in pieces of
any size and with any number of calls that find nothing. The results compare the PDUs it hands out
with `pduFrames`, which cuts the whole stream at once.
-/

namespace FreeRdp

/-- What the bytes of a partly received PDU can look like between two calls. A PDU that is all
there stays in the stream only when it ends with its header. -/
structure Pending (nla : Bool) (s : List UInt8) : Prop where
  declares : ∀ h n, pduHeader nla s = .declares h n → s.length < n ∨ s.length = n ∧ h = n
  malformed : pduHeader nla s = .malformed → s.length ≤ 4

lemma Pending.nil (nla : Bool) : Pending nla [] := by
  have hinc : pduHeader nla [] = .incomplete := by cases nla <;> rfl
  refine ⟨fun _ _ h => ?_, fun h => ?_⟩ <;> · rw [hinc] at h; cases h

section Call

variable {nla : Bool} {s : List UInt8} {bio : Bio}

/-- Bytes that precede a complete header are either less than the header or show it already. -/
lemma pduHeader_of_append {t : List UInt8} {h n : Nat}
    (hd : pduHeader nla (s ++ t) = .declares h n) :
    pduHeader nla s = .declares h n ∨ pduHeader nla s = .incomplete ∧ s.length < h := by
  by_cases hinc : pduHeader nla s = .incomplete
  · refine Or.inr ⟨hinc, ?_⟩
    by_contra hle
    have htake := pduHeader_take hd (not_lt.mp hle)
    rw [List.take_left] at htake
    rw [hinc] at htake
    cases htake
  · exact Or.inl (by rw [← pduHeader_append hinc t, hd])

lemma Pending.length_lt (hp : Pending nla s) {t : List UInt8} {h n : Nat}
    (hd : pduHeader nla (s ++ t) = .declares h n) (hne : h < n) : s.length < n := by
  rcases pduHeader_of_append hd with hs | ⟨-, hlt⟩
  · rcases hp.declares h n hs with hlt | ⟨-, heq⟩
    · exact hlt
    · omega
  · omega

lemma Pending.length_le (hp : Pending nla s) {t : List UInt8} {h n : Nat}
    (hd : pduHeader nla (s ++ t) = .declares h n) : s.length ≤ n := by
  have hb := (pduHeader_bounds hd).2.2.1
  rcases pduHeader_of_append hd with hs | ⟨-, hlt⟩
  · rcases hp.declares h n hs with hlt | ⟨heq, -⟩
    · exact hlt.le
    · exact heq.le
  · omega

lemma Pending.length_le_four (hp : Pending nla s) {t : List UInt8}
    (hd : pduHeader nla (s ++ t) = .malformed) : s.length ≤ 4 := by
  by_cases hinc : pduHeader nla s = .incomplete
  · have := length_of_pduHeader_incomplete hinc
    omega
  · exact hp.malformed (by rw [← pduHeader_append hinc t, hd])

/-- The four ways a call can end: with a PDU, with all there is used up, stuck at a PDU that ends
with its header, or stuck at a malformed header. -/
inductive CallOutcome (nla : Bool) (s : List UInt8) (bio : Bio) : Int × List UInt8 × Bio → Prop
  | pdu {h n : Nat} {bio' : Bio}
      (header : pduHeader nla (s ++ Arrival.available bio) = .declares h n) (body : h < n)
      (complete : n ≤ (s ++ Arrival.available bio).length)
      (on : ReadOn s bio ((s ++ Arrival.available bio).take n) bio') :
      CallOutcome nla s bio (n, (s ++ Arrival.available bio).take n, bio')
  | more {bio' : Bio}
      (header : ∀ h n, pduHeader nla (s ++ Arrival.available bio) = .declares h n →
        (s ++ Arrival.available bio).length < n)
      (formed : pduHeader nla (s ++ Arrival.available bio) ≠ .malformed)
      (out : ReadOut s bio bio') :
      CallOutcome nla s bio (0, s ++ Arrival.available bio, bio')
  | headerOnly {n : Nat} {bio' : Bio}
      (header : pduHeader nla (s ++ Arrival.available bio) = .declares n n)
      (complete : n ≤ (s ++ Arrival.available bio).length)
      (on : ReadOn s bio ((s ++ Arrival.available bio).take n) bio') :
      CallOutcome nla s bio (0, (s ++ Arrival.available bio).take n, bio')
  | malformed {status : Int} {s' : List UInt8} {bio' : Bio}
      (header : pduHeader nla (s ++ Arrival.available bio) = .malformed)
      (failed : status = -1 ∨ status = 0) (short : s'.length ≤ 4) (on : ReadOn s bio s' bio') :
      CallOutcome nla s bio (status, s', bio')

/-- Every call on a pending stream ends in one of these ways. -/
lemma transportReadPdu_outcome (hrel : Arrival.Reliable bio) (hp : Pending nla s) :
    CallOutcome nla s bio (transportReadPdu nla s bio) := by
  have hspec := transportReadHeader_spec hrel (s := s) nla
  cases hd : pduHeader nla (s ++ Arrival.available bio) with
  | incomplete =>
    rw [hd] at hspec
    obtain ⟨bio', h, hout⟩ := hspec
    have hcall : transportReadPdu nla s bio = (0, s ++ Arrival.available bio, bio') := by
      simp [transportReadPdu, h]
    rw [hcall]
    exact .more (fun h n hdec => by rw [hd] at hdec; cases hdec) (by rw [hd]; simp) hout
  | malformed =>
    rw [hd] at hspec
    obtain ⟨status, s', bio', h, hst, hpos, hlen, hon⟩ := hspec
    have hs := hp.length_le_four hd
    rcases hst with rfl | rfl
    · have hcall : transportReadPdu nla s bio = (-1, s', bio') := by simp [transportReadPdu, h]
      rw [hcall]
      exact .malformed hd (Or.inl rfl) (by omega) hon
    · -- no length was set, and the subtraction of the position wraps around
      have hwrap : SSIZE_MAX < sizeSub 0 s'.length := SSIZE_MAX_lt_sizeSub_zero hpos (by omega)
      have hcall : transportReadPdu nla s bio = (0, s', bio') := by
        simp [transportReadPdu, h, transportReadBody, transportReadLayerBytes_of_lt hwrap]
      rw [hcall]
      exact .malformed hd (Or.inr rfl) (by omega) hon
  | declares h n =>
    rw [hd] at hspec
    obtain ⟨s', bio', hhead, hon, hlen⟩ := hspec
    obtain ⟨-, hhT, hhn, hn32⟩ := pduHeader_bounds hd
    have hs := hp.length_le hd
    have hle : s'.length ≤ n := by omega
    have hread : sizeSub n s'.length = n - s'.length := sizeSub_of_le hle (by omega)
    have havail : s'.length + (Arrival.available bio').length =
        (s ++ Arrival.available bio).length := by
      rw [← hon.available, List.length_append]
    have hmax : n - s'.length ≤ SSIZE_MAX := by
      rw [SSIZE_MAX]
      omega
    by_cases hcomplete : n ≤ (s ++ Arrival.available bio).length
    · have htake : s' ++ (Arrival.available bio').take (n - s'.length) =
          (s ++ Arrival.available bio).take n := by
        rw [← hon.available, List.take_append, List.take_of_length_le hle]
      by_cases hbody : h < n
      · have hlt := hp.length_lt hd hbody
        obtain ⟨b₂, h₂, hon₂⟩ := transportReadLayerBytes_enough hon.reliable (s := s')
          (k := n - s'.length) (by omega) hmax (by omega)
        rw [htake] at h₂ hon₂
        have hcall : transportReadPdu nla s bio =
            ((n : Int), (s ++ Arrival.available bio).take n, b₂) := by
          simp only [transportReadPdu, transportReadBody, hhead, ne_eq, not_true_eq_false, if_false,
            hread, h₂, List.length_take, Nat.min_eq_left hcomplete]
        rw [hcall]
        exact .pdu hd hbody hcomplete (hon.trans hon₂)
      · -- nothing is left to read, which is reported as "no data"
        have heq : h = n := by omega
        subst heq
        have hfull : s'.length = h := by omega
        have hs' : s' = (s ++ Arrival.available bio).take h := by
          rw [← htake, hfull]
          simp
        have hzero : sizeSub h s'.length = 0 := by
          rw [hread]
          omega
        have hcall : transportReadPdu nla s bio = (0, s', bio') := by
          simp [transportReadPdu, transportReadBody, hhead, hzero, transportReadLayerBytes_zero]
        rw [hcall, hs']
        exact .headerOnly hd hcomplete (hs' ▸ hon)
    · obtain ⟨b₂, h₂, hout⟩ := transportReadLayerBytes_short hon.reliable (s := s')
        (k := n - s'.length) hmax (by omega)
      rw [hon.available] at h₂
      have hcall : transportReadPdu nla s bio = (0, s ++ Arrival.available bio, b₂) := by
        simp [transportReadPdu, transportReadBody, hhead, hread, h₂]
      rw [hcall]
      refine .more (fun h' n' hdec => ?_) (by rw [hd]; simp) (hon.out hout)
      rw [hd] at hdec
      cases hdec
      omega

end Call

/-! ### Whole runs -/

section Run

variable {nlaMode : List (List UInt8) → Bool}

lemma pduFrames_declares {before : List (List UInt8)} {stream : List UInt8} {h n : Nat}
    (hd : pduHeader (nlaMode before) stream = .declares h n) (hn : n ≤ stream.length) :
    pduFrames nlaMode before stream =
      stream.take n :: pduFrames nlaMode (before ++ [stream.take n]) (stream.drop n) := by
  rw [pduFrames]
  split
  · rename_i h' n' hd'
    rw [hd] at hd'
    cases hd'
    rw [dif_pos hn]
  · rename_i hne
    exact absurd hd (hne h n)

lemma pduFrames_nil {before : List (List UInt8)} {stream : List UInt8}
    (hd : ∀ h n, pduHeader (nlaMode before) stream = .declares h n → stream.length < n) :
    pduFrames nlaMode before stream = [] := by
  rw [pduFrames]
  split
  · rename_i h n hd'
    rw [dif_neg (not_le.mpr (hd h n hd'))]
  · rfl

/-- What holds of the receiver between any two calls, with the whole stream in view. -/
structure TransportInv (nlaMode : List (List UInt8) → Bool) (stream : List UInt8)
    (t : TransportReceiver) : Prop where
  frames : pduFrames nlaMode [] stream = t.received ++
    if t.closed then [] else
      pduFrames nlaMode t.received (t.receiveBuffer ++ Arrival.content t.bio)
  pending : t.closed = false → Pending (nlaMode t.received) t.receiveBuffer
  reliable : Arrival.Reliable t.bio
  bodies : ∀ before pdu after, t.received = before ++ pdu :: after →
    ¬HeaderOnly (nlaMode before) pdu

variable {stream : List UInt8} {t : TransportReceiver}

/-- One call keeps the invariant. -/
lemma TransportInv.step (hinv : TransportInv nlaMode stream t) :
    TransportInv nlaMode stream (transportCheckFds nlaMode t) := by
  unfold transportCheckFds
  by_cases hclosed : t.closed = true
  · rwa [if_pos hclosed]
  · rw [if_neg hclosed]
    rw [Bool.not_eq_true] at hclosed
    obtain ⟨hframes, hpend, hrel, hbodies⟩ := hinv
    have hp := hpend hclosed
    rw [hclosed] at hframes
    obtain ⟨later, hlater⟩ := Arrival.exists_content_eq t.bio
    have hout := transportReadPdu_outcome hrel hp
    generalize transportReadPdu (nlaMode t.received) t.receiveBuffer t.bio = r at hout ⊢
    cases hout with
    | @pdu h n bio' header body complete on =>
      have hpos : ¬((n : Int) < 0) := by omega
      have hne : (n : Int) ≠ 0 := by omega
      simp only [if_neg hpos, if_neg hne]
      have hwhole : t.receiveBuffer ++ Arrival.content t.bio =
          (t.receiveBuffer ++ Arrival.available t.bio) ++ later := by
        rw [hlater, List.append_assoc]
      have hd : pduHeader (nlaMode t.received) (t.receiveBuffer ++ Arrival.content t.bio) =
          .declares h n := by
        rw [hwhole, pduHeader_append (by rw [header]; simp), header]
      have htake : (t.receiveBuffer ++ Arrival.content t.bio).take n =
          (t.receiveBuffer ++ Arrival.available t.bio).take n := by
        rw [hwhole, List.take_append_of_le_length complete]
      have hdrop : (t.receiveBuffer ++ Arrival.content t.bio).drop n = Arrival.content bio' := by
        have hlen := List.length_take_of_le complete
        rw [← on.content, List.drop_append_of_le_length hlen.ge, List.drop_eq_nil_of_le hlen.le,
          List.nil_append]
      refine ⟨?_, fun _ => Pending.nil _, on.reliable, ?_⟩
      · rw [hframes]
        simp only [Bool.false_eq_true, if_false, hclosed]
        rw [pduFrames_declares hd (by rw [hwhole, List.length_append]; omega), htake, hdrop]
        simp
      · intro before pdu after hsplit
        rcases List.eq_nil_or_concat after with rfl | ⟨init, last, rfl⟩
        · obtain ⟨rfl, hpdu⟩ := List.append_inj' hsplit rfl
          cases hpdu
          rintro ⟨m, hm⟩
          rw [pduHeader_take header body.le] at hm
          cases hm
          exact absurd body (lt_irrefl _)
        · rw [List.concat_eq_append, ← List.cons_append, ← List.append_assoc] at hsplit
          exact hbodies before pdu init (List.append_inj' hsplit rfl).1
    | @more bio' header formed out =>
      simp only [lt_irrefl, if_false, if_true]
      refine ⟨?_, fun _ => ⟨fun h n hd => Or.inl (header h n hd), fun hm => absurd hm formed⟩,
        out.reliable, hbodies⟩
      simp only [hclosed]
      rw [out.content]
      exact hframes
    | @headerOnly n bio' header complete on =>
      simp only [lt_irrefl, if_false, if_true]
      have hd := pduHeader_take header le_rfl
      refine ⟨?_, fun _ => ⟨fun h' n' hd' => ?_, fun hm => ?_⟩, on.reliable, hbodies⟩
      · simp only [hclosed]
        rw [on.content]
        exact hframes
      · rw [hd] at hd'
        cases hd'
        exact Or.inr ⟨List.length_take_of_le complete, rfl⟩
      · rw [hd] at hm
        cases hm
    | @malformed status s' bio' header failed short on =>
      have hnil : pduFrames nlaMode t.received (t.receiveBuffer ++ Arrival.content t.bio) = [] := by
        refine pduFrames_nil fun h n hd => ?_
        rw [hlater, ← List.append_assoc, pduHeader_append (by rw [header]; simp), header] at hd
        cases hd
      rcases failed with rfl | rfl
      · refine ⟨?_, fun hc => (by cases hc), on.reliable, hbodies⟩
        simp only [Int.reduceNeg, Int.reduceLT, if_true]
        rw [hframes, hnil]
        simp
      · simp only [lt_irrefl, if_false, if_true]
        refine ⟨?_, fun _ => ⟨fun h n hd => ?_, fun _ => short⟩, on.reliable, hbodies⟩
        · simp only [hclosed]
          rw [on.content]
          exact hframes
        · rw [← on.available, pduHeader_append (by rw [hd]; simp), hd] at header
          cases header

/-- The invariant holds after any number of calls. -/
lemma TransportInv.run (hinv : TransportInv nlaMode stream t) (n : Nat) :
    TransportInv nlaMode stream (transportRun nlaMode n t) := by
  induction n generalizing t with
  | zero => exact hinv
  | succ n ih => exact ih hinv.step

lemma TransportInv.start {bio : Bio} (hrel : Arrival.Reliable bio)
    (hcontent : Arrival.content bio = stream) :
    TransportInv nlaMode stream (TransportReceiver.start bio) := by
  refine ⟨?_, fun _ => Pending.nil _, hrel, fun before pdu after h => ?_⟩
  · simp [TransportReceiver.start, hcontent]
  · simp [TransportReceiver.start] at h

/-- Once all bytes of a PDU with a body are there, the next call returns it. -/
lemma TransportInv.step_received (hinv : TransportInv nlaMode stream t) (hopen : t.closed = false)
    {h n : Nat}
    (hd : pduHeader (nlaMode t.received) (t.receiveBuffer ++ Arrival.available t.bio) =
      .declares h n) (hbody : h < n)
    (hn : n ≤ (t.receiveBuffer ++ Arrival.available t.bio).length) :
    (transportCheckFds nlaMode t).received =
      t.received ++ [(t.receiveBuffer ++ Arrival.available t.bio).take n] := by
  have hout := transportReadPdu_outcome hinv.reliable (hinv.pending hopen)
  unfold transportCheckFds
  rw [if_neg (by simp [hopen])]
  generalize transportReadPdu (nlaMode t.received) t.receiveBuffer t.bio = r at hout ⊢
  cases hout with
  | @pdu h' n' bio' header body complete on =>
    rw [hd] at header
    cases header
    have hpos : ¬((n : Int) < 0) := by omega
    have hne : (n : Int) ≠ 0 := by omega
    simp only [if_neg hpos, if_neg hne]
  | more header formed out => exact absurd (header h n hd) (not_lt.mpr hn)
  | headerOnly header complete on =>
    rw [hd] at header
    cases header
    exact absurd hbody (lt_irrefl _)
  | malformed header failed short on =>
    rw [hd] at header
    cases header

/-- The frames that are still to come behind an open receiver. -/
lemma TransportInv.rest_frames (hinv : TransportInv nlaMode stream t) (hopen : t.closed = false) :
    pduFrames nlaMode [] stream = t.received ++
      pduFrames nlaMode t.received (t.receiveBuffer ++ Arrival.content t.bio) := by
  have h := hinv.frames
  rw [hopen] at h
  exact h

/-- While PDUs are outstanding, none of which ends with its header, a call uses up bytes when it
returns a PDU and arrivals when it does not. -/
lemma TransportInv.step_progress (hinv : TransportInv nlaMode stream t)
    (hbodies : ∀ before pdu after, pduFrames nlaMode [] stream = before ++ pdu :: after →
      ¬HeaderOnly (nlaMode before) pdu)
    (hmore : t.received ≠ pduFrames nlaMode [] stream) :
    (Arrival.content (transportCheckFds nlaMode t).bio).length +
        (transportCheckFds nlaMode t).bio.length <
      (Arrival.content t.bio).length + t.bio.length := by
  have hopen : t.closed = false := by
    by_contra hclosed
    rw [Bool.not_eq_false] at hclosed
    have h := hinv.frames
    rw [hclosed, if_pos rfl, List.append_nil] at h
    exact hmore h.symm
  have hrest := hinv.rest_frames hopen
  have hp := hinv.pending hopen
  obtain ⟨later, hlater⟩ := Arrival.exists_content_eq t.bio
  have hwhole : t.receiveBuffer ++ Arrival.content t.bio =
      (t.receiveBuffer ++ Arrival.available t.bio) ++ later := by
    rw [hlater, List.append_assoc]
  have hsome : pduFrames nlaMode t.received (t.receiveBuffer ++ Arrival.content t.bio) ≠ [] := by
    intro hnil
    rw [hnil, List.append_nil] at hrest
    exact hmore hrest.symm
  have hout := transportReadPdu_outcome hinv.reliable hp
  unfold transportCheckFds
  rw [if_neg (by simp [hopen])]
  generalize transportReadPdu (nlaMode t.received) t.receiveBuffer t.bio = r at hout ⊢
  cases hout with
  | @pdu h n bio' header body complete on =>
    have hpos : ¬((n : Int) < 0) := by omega
    have hne : (n : Int) ≠ 0 := by omega
    simp only [if_neg hpos, if_neg hne]
    have hlen := congrArg List.length on.content
    rw [List.length_append, List.length_append, List.length_take_of_le complete] at hlen
    have hlt := hp.length_lt header body
    have hle := on.length
    omega
  | @more bio' header formed out =>
    simp only [lt_irrefl, if_false, if_true]
    have hlen := congrArg List.length out.content
    simp only [List.length_append] at hlen
    rcases out.length with rfl | hlt
    · -- nothing more will arrive, and what is there is no PDU
      refine absurd (pduFrames_nil fun h n hd => ?_) hsome
      rw [← out.content, Arrival.content, List.append_nil] at hd ⊢
      exact header h n hd
    · omega
  | @headerOnly n bio' header complete on =>
    have hd : pduHeader (nlaMode t.received) (t.receiveBuffer ++ Arrival.content t.bio) =
        .declares n n := by
      rw [hwhole, pduHeader_append (by rw [header]; simp), header]
    have hn : n ≤ (t.receiveBuffer ++ Arrival.content t.bio).length := by
      rw [hwhole, List.length_append]
      omega
    rw [pduFrames_declares hd hn] at hrest
    exact absurd ⟨n, pduHeader_take hd le_rfl⟩ (hbodies _ _ _ hrest)
  | malformed header failed short on =>
    refine absurd (pduFrames_nil fun h n hd => ?_) hsome
    rw [hwhole, pduHeader_append (by rw [header]; simp), header] at hd
    cases hd

/-- Enough calls return every PDU, if none of them ends with its header. -/
lemma TransportInv.run_complete (hinv : TransportInv nlaMode stream t)
    (hbodies : ∀ before pdu after, pduFrames nlaMode [] stream = before ++ pdu :: after →
      ¬HeaderOnly (nlaMode before) pdu) :
    ∃ n, (transportRun nlaMode n t).received = pduFrames nlaMode [] stream := by
  induction hk : (Arrival.content t.bio).length + t.bio.length
    using Nat.strong_induction_on generalizing t with
  | _ k ih =>
    by_cases hdone : t.received = pduFrames nlaMode [] stream
    · exact ⟨0, hdone⟩
    · have hlt := hinv.step_progress hbodies hdone
      rw [hk] at hlt
      obtain ⟨n, hn⟩ := ih _ hlt hinv.step rfl
      exact ⟨n + 1, hn⟩

end Run

/-- The PDUs handed out for one way in which a stream arrives: always the first ones of
`pduFrames`, each as soon as its bytes are there, and in the end all of them. -/
def FramesFaithfully (nlaMode : List (List UInt8) → Bool) (stream : List UInt8) (bio : Bio) :
    Prop :=
  (∀ n t, transportRun nlaMode n (TransportReceiver.start bio) = t →
    t.received <+: pduFrames nlaMode [] stream ∧
    ∀ h k, t.closed = false →
      pduHeader (nlaMode t.received) (t.receiveBuffer ++ Arrival.available t.bio) =
        .declares h k →
      k ≤ (t.receiveBuffer ++ Arrival.available t.bio).length →
      (transportCheckFds nlaMode t).received =
        t.received ++ [(t.receiveBuffer ++ Arrival.available t.bio).take k]) ∧
  ∃ n, (transportRun nlaMode n (TransportReceiver.start bio)).received =
    pduFrames nlaMode [] stream

/-- The PDUs of a stream come out as their headers declare, whatever the arrival pattern, exactly
when none of them ends with its header. -/
theorem transportRun_framesFaithfully_iff (nlaMode : List (List UInt8) → Bool)
    (stream : List UInt8) :
    (∀ bio, Arrival.Reliable bio → Arrival.content bio = stream →
        FramesFaithfully nlaMode stream bio) ↔
      ∀ before pdu after, pduFrames nlaMode [] stream = before ++ pdu :: after →
        ¬HeaderOnly (nlaMode before) pdu := by
  constructor
  · -- no call ever returns a PDU that ends with its header
    intro h before pdu after hsplit
    have hrel : Arrival.Reliable [Arrival.data stream] := by simp [Arrival.Reliable]
    have hcontent : Arrival.content [Arrival.data stream] = stream := by simp [Arrival.content]
    obtain ⟨n, hn⟩ := (h _ hrel hcontent).2
    exact ((TransportInv.start hrel hcontent).run n).bodies before pdu after (hn.trans hsplit)
  · intro hbodies bio hrel hcontent
    have hstart : TransportInv nlaMode stream (TransportReceiver.start bio) :=
      TransportInv.start hrel hcontent
    refine ⟨fun n t ht => ?_, hstart.run_complete hbodies⟩
    have hinv := hstart.run n
    rw [ht] at hinv
    refine ⟨?_, fun h k hopen hd hk => hinv.step_received hopen hd ?_ hk⟩
    · rw [hinv.frames]
      exact List.prefix_append _ _
    · -- a PDU that ended with its header would be the next frame of the stream
      obtain ⟨later, hlater⟩ := Arrival.exists_content_eq t.bio
      have hwhole : pduHeader (nlaMode t.received) (t.receiveBuffer ++ Arrival.content t.bio) =
          .declares h k := by
        rw [hlater, ← List.append_assoc, pduHeader_append (by rw [hd]; simp), hd]
      have hlen : k ≤ (t.receiveBuffer ++ Arrival.content t.bio).length := by
        rw [hlater, ← List.append_assoc, List.length_append]
        omega
      have hframes := hinv.rest_frames hopen
      rw [pduFrames_declares hwhole hlen] at hframes
      refine lt_of_le_of_ne (pduHeader_bounds hd).2.2.1 ?_
      rintro rfl
      exact hbodies _ _ _ hframes ⟨h, pduHeader_take hwhole le_rfl⟩

/-- A fast-path PDU with a two byte length of 3: all of it is there, and no call returns it. -/
theorem transportRun_headerOnly_stuck :
    ¬FramesFaithfully (fun _ => false) [0x00, 0x80, 0x03]
      [Arrival.data [0x00, 0x80], Arrival.data [0x03]] := by
  rintro ⟨-, n, hn⟩
  have hinv : TransportInv (fun _ => false) [0x00, 0x80, 0x03]
      (TransportReceiver.start [Arrival.data [0x00, 0x80], Arrival.data [0x03]]) :=
    TransportInv.start (by simp [Arrival.Reliable]) rfl
  have hframes : pduFrames (fun _ => false) [] [0x00, 0x80, 0x03] =
      [] ++ [0x00, 0x80, 0x03] :: [] := by
    rw [pduFrames_declares (h := 3) (n := 3) (by decide) (by decide)]
    simp only [List.take, List.drop, List.nil_append]
    rw [pduFrames_nil]
    intro h n hd
    cases hd
  exact (hinv.run n).bodies _ _ _ (hn.trans hframes) ⟨3, by decide⟩

end FreeRdp
