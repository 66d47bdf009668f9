import FreeRdp.Core.Gateway.Tunnel
import FreeRdp.Library.Runs

/-!
# The data stream of a gateway tunnel

Where a tunnel is in a sequence of packets, and what each call of `rdg_bio_read` does to that.
-/

namespace FreeRdp

/-! ### Loops that read -/

/-- A loop that reads `n` bytes. From `k` bytes on it does not stop when it finds no data. -/
structure ReadsAll (round : SocketRead → Round SocketRead SocketReadEnd) (n k : Nat) : Prop where
  complete : ∀ s : SocketRead, n ≤ s.bytes.length → round s = .done (.complete s)
  noData : ∀ (s : SocketRead) (status : Int) (bio : List BioEvent), k ≤ s.bytes.length →
    s.bytes.length < n → s.bio ≠ [] → status ≤ 0 →
    bioRead (n - s.bytes.length) s.bio = (status, [], bio) → round s = .next ⟨bio, s.bytes⟩
  data : ∀ (s : SocketRead) (byte : UInt8) (bytes : List UInt8) (bio : List BioEvent),
    s.bytes.length < n → s.bytes.length + (byte :: bytes).length ≤ n →
    bioRead (n - s.bytes.length) s.bio = (((byte :: bytes).length : Int), byte :: bytes, bio) →
    round s = .next ⟨bio, s.bytes ++ byte :: bytes⟩

/-- If there are enough bytes, a loop that reads gets them and leaves the rest. -/
lemma ReadsAll.loop_eq {round : SocketRead → Round SocketRead SocketReadEnd} {n k : Nat}
    (h : ReadsAll round n k) {front rest : List UInt8} (hfront : front.length = n) {s : SocketRead}
    (hs : s.bytes ++ bioContent s.bio = front ++ rest) (hk : k ≤ s.bytes.length)
    (hn : s.bytes.length ≤ n) {fuel : Nat} (hfuel : bioSize s.bio < fuel) :
    ∃ bio, loop round fuel s = some (.complete ⟨bio, front⟩) ∧ bioContent bio = rest ∧
      bioSize bio ≤ bioSize s.bio ∧ (s.bytes.length < n → bioSize bio < bioSize s.bio) := by
  induction fuel generalizing s with
  | zero => exact absurd hfuel (Nat.not_lt_zero _)
  | succ fuel ih =>
    rw [loop]
    by_cases hlt : s.bytes.length < n
    · have hbio : s.bio ≠ [] := by
        intro hnil
        rw [hnil, bioContent, List.append_nil] at hs
        have hlen := congrArg List.length hs
        rw [List.length_append] at hlen
        omega
      rcases bioRead_cases (Nat.sub_pos_of_lt hlt) s.bio with
        ⟨status, bio, hread, hstatus, hcontent, hsize⟩ |
          ⟨byte, bytes, bio, hread, hle, hcontent, hsize⟩
      · have hless : bioSize bio < bioSize s.bio := hsize.resolve_right fun hand => hbio hand.1
        rw [h.noData s status bio hk hlt hbio hstatus hread]
        obtain ⟨bio', hloop, hrest, hle', -⟩ := ih (s := ⟨bio, s.bytes⟩) (by rw [← hcontent, hs])
          hk hn (by dsimp only; omega)
        exact ⟨bio', hloop, hrest, hle'.trans hless.le, fun _ => hle'.trans_lt hless⟩
      · have hle' : s.bytes.length + (byte :: bytes).length ≤ n := by omega
        rw [h.data s byte bytes bio hlt hle' hread]
        obtain ⟨bio', hloop, hrest, hle'', -⟩ := ih (s := ⟨bio, s.bytes ++ byte :: bytes⟩)
          (by rw [← hs, hcontent, List.append_assoc])
          (by rw [List.length_append]; omega) (by rw [List.length_append]; exact hle')
          (by dsimp only; omega)
        exact ⟨bio', hloop, hrest, hle''.trans hsize.le, fun _ => hle''.trans_lt hsize⟩
    · rw [h.complete s (not_lt.mp hlt)]
      have hlen : s.bytes.length = front.length := by omega
      obtain ⟨hbytes, hrest⟩ := List.append_inj hs hlen
      exact ⟨s.bio, by rw [← hbytes], hrest, le_rfl, fun hlt' => absurd hlt' hlt⟩

lemma readsAll_socketRead {n : Nat} (hn : n ≤ INT_MAX) (atOnce : Bool) :
    ReadsAll (socketReadRound n atOnce) n (if atOnce then 1 else 0) := by
  constructor
  · intro s hle
    rw [socketReadRound, if_pos (not_lt.mpr hle)]
  · intro s status bio hk hlt hbio hstatus hread
    rw [socketReadRound, if_neg (not_not.mpr hlt), hread]
    dsimp only
    rw [if_pos hstatus, if_neg hbio, if_neg]
    rintro ⟨rfl, hzero⟩
    rw [if_pos rfl, hzero] at hk
    exact absurd hk (by decide)
  · intro s byte bytes bio hlt hle hread
    rw [socketReadRound, if_neg (not_not.mpr hlt), hread]
    dsimp only
    rw [Int.toNat_natCast, if_neg (by rw [List.length_cons]; omega), if_neg (by omega)]

lemma readsAll_sizeRead : ReadsAll sizeReadRound 2 0 := by
  constructor
  · intro s hle
    rw [sizeReadRound, if_pos (not_lt.mpr hle)]
  · intro s status bio hk hlt hbio hstatus hread
    rw [sizeReadRound, if_neg (not_not.mpr hlt), hread]
    dsimp only
    -- a zero is added to the count, which changes nothing
    rw [if_neg hbio, List.append_nil, ite_self]
  · intro s byte bytes bio hlt hle hread
    rw [sizeReadRound, if_neg (not_not.mpr hlt), hread]
    dsimp only
    rw [if_neg (by omega)]

/-- A loop that reads at least one byte, all of which are there. -/
lemma readLoop_eq {bio : List BioEvent}
    {round : SocketRead → Round SocketRead SocketReadEnd} {n : Nat} (h : ReadsAll round n 0)
    {front rest : List UInt8} (hfront : front.length = n) (hn : 0 < n)
    (hcontent : bioContent bio = front ++ rest) :
    ∃ bio', readLoop bio round = some (.complete ⟨bio', front⟩) ∧ bioContent bio' = rest ∧
      bioSize bio' < bioSize bio := by
  obtain ⟨bio', hloop, hrest, -, hless⟩ := h.loop_eq hfront (s := ⟨bio, []⟩) hcontent
    (Nat.zero_le _) (Nat.zero_le _) (Nat.lt_add_of_pos_right Nat.two_pos)
  exact ⟨bio', hloop, hrest, hless hn⟩

/-- The loop that reads a header returns at once, or reads all of it. -/
lemma readLoop_header {src : List BioEvent} {header rest : List UInt8}
    (hheader : header.length = 8) (hcontent : bioContent src = header ++ rest) :
    (∃ bio, readLoop src (socketReadRound 8 true) = some (.noData ⟨bio, []⟩) ∧
        bioContent bio = header ++ rest ∧ bioSize bio < bioSize src) ∨
      ∃ bio, readLoop src (socketReadRound 8 true) = some (.complete ⟨bio, header⟩) ∧
        bioContent bio = rest ∧ bioSize bio < bioSize src := by
  have hreads : ReadsAll (socketReadRound 8 true) 8 1 :=
    readsAll_socketRead (by decide) true
  have hbio : src ≠ [] := by
    intro hnil
    rw [hnil, bioContent] at hcontent
    have hlen := congrArg List.length hcontent
    rw [List.length_append, List.length_nil] at hlen
    omega
  have hlt : ([] : List UInt8).length < 8 := by decide
  rw [readLoop, loop]
  rcases bioRead_cases (show 0 < 8 by decide) src with
    ⟨status, bio, hread, hstatus, hsame, hsize⟩ | ⟨byte, bytes, bio, hread, hle, hsplit, hsize⟩
  · left
    have hround : socketReadRound 8 true ⟨src, []⟩ = .done (.noData ⟨bio, []⟩) := by
      rw [socketReadRound, if_neg (not_not.mpr hlt)]
      dsimp only [List.length_nil, Nat.sub_zero]
      rw [hread]
      dsimp only
      rw [if_pos hstatus, if_neg hbio, if_pos ⟨rfl, rfl⟩]
    rw [hround]
    exact ⟨bio, rfl, hsame ▸ hcontent, hsize.resolve_right fun hand => hbio hand.1⟩
  · right
    have hlen : (([] : List UInt8) ++ byte :: bytes).length ≤ 8 := hle
    rw [hreads.data ⟨src, []⟩ byte bytes bio hlt (by simpa using hle) hread]
    obtain ⟨bio', hloop, hrest, hle', -⟩ := hreads.loop_eq hheader
      (s := ⟨bio, [] ++ byte :: bytes⟩) (by rw [List.nil_append, ← hsplit, hcontent])
      (by rw [List.nil_append, List.length_cons]; exact Nat.le_add_left 1 _) hlen
      (show bioSize bio < bioSize src + 1 from hsize.trans (Nat.lt_succ_self _))
    exact ⟨bio', hloop, hrest, hle'.trans_lt hsize⟩

/-! ### Packets -/

/-- A packet of a tunnel: data behind its size, or a control packet with its payload. -/
inductive TunnelPacket where
  | data (reserved : UInt16) (bytes : List UInt8) (hne : bytes ≠ []) (hlen : bytes.length < 2 ^ 16)
  | control (type reserved : UInt16) (payload : List UInt8) (htype : type.toNat ≠ PKT_TYPE_DATA)
      (hlen : payload.length + 8 < 2 ^ 32)

/-- The packet that answers a keep-alive. -/
def keepAlivePacket : List UInt8 := packetHeader PKT_TYPE_KEEPALIVE 0 8

/-- The packet that answers a closed channel. -/
def closeResponsePacket : List UInt8 :=
  packetHeader PKT_TYPE_CLOSE_CHANNEL_RESPONSE 0 12 ++ bytesUInt32 0

/-- The length that a service message begins with. -/
def messageLength (payload : List UInt8) : Nat := (WStream.ofBytes payload).readUInt16.1

namespace TunnelPacket

/-- A packet on the wire. -/
def encode : TunnelPacket → List UInt8
  | .data reserved bytes _ _ =>
    packetHeader PKT_TYPE_DATA reserved.toNat (bytes.length + 10) ++
      (bytesUInt16 bytes.length ++ bytes)
  | .control type reserved payload _ _ =>
    packetHeader type.toNat reserved.toNat (payload.length + 8) ++ payload

/-- The bytes of a packet for the caller. -/
def content : TunnelPacket → List UInt8
  | .data _ bytes _ _ => bytes
  | .control .. => []

/-- The packets that are sent for a packet. -/
def answers : TunnelPacket → List (List UInt8)
  | .data .. => []
  | .control type _ payload _ _ =>
    if type.toNat = PKT_TYPE_KEEPALIVE then [keepAlivePacket]
    else if type.toNat = PKT_TYPE_CLOSE_CHANNEL ∧ 4 ≤ payload.length then [closeResponsePacket]
    else []

/-- The payload is missing, or too short for the type. -/
def TooShort : TunnelPacket → Prop
  | .data .. => False
  | .control type _ payload _ _ =>
    type.toNat = PKT_TYPE_CLOSE_CHANNEL ∧ payload.length < 4 ∨
      type.toNat = PKT_TYPE_SERVICE_MESSAGE ∧
        (payload.length < 4 ∨ payload.length < 2 + messageLength payload)

/-- The packet is long enough, and the client takes its message. -/
def Accepted (env : RdgEnvironment) : TunnelPacket → Prop
  | .data .. => True
  | .control type reserved payload htype hlen =>
    ¬ (control type reserved payload htype hlen).TooShort ∧
      (type.toNat = PKT_TYPE_SERVICE_MESSAGE → ∀ present ∈ env.presentGatewayMessage,
        present ((payload.drop 2).take (messageLength payload)) = true)

/-- The condition on a packet: a payload is no longer than an `int` can say, a closed channel has a
payload, and a service message with a payload is not too short if errors are printed. -/
def Handled (env : RdgEnvironment) : TunnelPacket → Prop
  | .data .. => True
  | .control type reserved payload htype hlen =>
    payload.length ≤ INT_MAX ∧ (type.toNat = PKT_TYPE_CLOSE_CHANNEL → payload ≠ []) ∧
      (type.toNat = PKT_TYPE_SERVICE_MESSAGE → env.logsErrors = true →
        payload = [] ∨ ¬ (control type reserved payload htype hlen).TooShort)

end TunnelPacket

/-- Packets on the wire. -/
def encodePackets (packets : List TunnelPacket) : List UInt8 := (packets.map (·.encode)).flatten

/-- The data of packets. -/
def tunnelData (packets : List TunnelPacket) : List UInt8 := (packets.map (·.content)).flatten

/-- The answers to packets. -/
def tunnelAnswers (packets : List TunnelPacket) : List (List UInt8) :=
  (packets.map (·.answers)).flatten

/-! ### Control packets -/

section Control

variable {env : RdgEnvironment} {rdg : RdgTunnel}

lemma rdgAnswer_eq (packet : List UInt8) :
    rdgAnswer env rdg packet = (true, { rdg with sent := rdg.sent ++ [packet] }) := by
  -- the result of a write is not negative
  have hstatus : ¬ (if env.writePacket packet then (1 : Int) else 0) < 0 := by
    split
    · decide
    · decide
  rw [rdgAnswer, if_neg hstatus]

/-- What a handler does: it says whether the packet is accepted, and sends the answers. -/
structure ControlHandled (rdg : RdgTunnel) (accepted : Prop) (answers : List (List UInt8))
    (result : Bool × RdgTunnel) : Prop where
  status : result.1 = true ↔ accepted
  sent : result.2.sent = rdg.sent ++ answers
  bio : result.2.bio = rdg.bio
  count : result.2.packetRemainingCount = rdg.packetRemainingCount

lemma rdgProcessClosePacket_handled (hmalloc : env.malloc.succeeds 12 = true)
    (payload : List UInt8) :
    ∃ result, rdgProcessClosePacket env rdg (some payload) = some result ∧
      ControlHandled rdg (4 ≤ payload.length)
        (if 4 ≤ payload.length then [closeResponsePacket] else []) result := by
  rw [rdgProcessClosePacket, Option.map_some]
  dsimp only
  rw [WStream.remainingLength_eq, WStream.unread_ofBytes]
  by_cases hlen : payload.length < 4
  · rw [if_pos hlen, if_neg (not_le.mpr hlen)]
    refine ⟨_, rfl, ⟨?_, (List.append_nil _).symm, rfl, rfl⟩⟩
    exact ⟨fun hfalse => absurd hfalse Bool.false_ne_true, fun hle => absurd hlen (not_lt.mpr hle)⟩
  · rw [if_neg hlen, if_pos (not_lt.mp hlen), hmalloc]
    refine ⟨_, rfl, ?_⟩
    rw [if_neg (by decide), rdgAnswer_eq]
    refine ⟨⟨fun _ => not_lt.mp hlen, fun _ => rfl⟩, ?_, ?_, ?_⟩
    · split
      · rfl
      · rfl
    · split
      · rfl
      · rfl
    · split
      · rfl
      · rfl

lemma rdgProcessKeepAlivePacket_handled (hmalloc : env.malloc.succeeds 8 = true) :
    ControlHandled rdg True [keepAlivePacket] (rdgProcessKeepAlivePacket env rdg) := by
  rw [rdgProcessKeepAlivePacket, hmalloc]
  rw [if_neg (by decide), rdgAnswer_eq]
  exact ⟨⟨fun _ => trivial, fun _ => rfl⟩, rfl, rfl, rfl⟩

lemma rdgReadHttpUnicodeString_eq {payload : List UInt8} (hlen : 4 ≤ payload.length)
    (hmessage : 2 + messageLength payload ≤ payload.length) :
    ∃ s, rdgReadHttpUnicodeString env.logsErrors (.ofBytes payload) =
      some (some ((payload.drop 2).take (messageLength payload), s)) := by
  have hread : (WStream.ofBytes payload).readUInt16 =
      (messageLength payload, (WStream.ofBytes payload).seek 2) := rfl
  rw [rdgReadHttpUnicodeString, WStream.remainingLength_eq, WStream.unread_ofBytes,
    if_neg (not_lt.mpr hlen), hread]
  dsimp only
  rw [WStream.safeSeek, WStream.remainingLength_eq, WStream.unread_seek, WStream.unread_ofBytes,
    List.length_drop, if_neg (by omega)]
  exact ⟨_, rfl⟩

lemma rdgReadHttpUnicodeString_short {payload : List UInt8} (hlogs : env.logsErrors = false)
    (hshort : payload.length < 4 ∨ payload.length < 2 + messageLength payload) :
    rdgReadHttpUnicodeString env.logsErrors (.ofBytes payload) = some none := by
  have hread : (WStream.ofBytes payload).readUInt16 =
      (messageLength payload, (WStream.ofBytes payload).seek 2) := rfl
  rw [rdgReadHttpUnicodeString, WStream.remainingLength_eq, WStream.unread_ofBytes, hlogs]
  split
  · rfl
  · rename_i hlen
    rw [hread]
    dsimp only
    rw [WStream.safeSeek, WStream.remainingLength_eq, WStream.unread_seek,
      WStream.unread_ofBytes, List.length_drop, if_pos (by omega)]
    rfl

/-- A service message with a payload. -/
lemma rdgProcessServiceMessage_handled {payload : List UInt8}
    (hlogs : env.logsErrors = true →
      ¬ (payload.length < 4 ∨ payload.length < 2 + messageLength payload)) :
    ∃ result, rdgProcessServiceMessage env rdg payload = some result ∧
      ControlHandled rdg (¬ (payload.length < 4 ∨ payload.length < 2 + messageLength payload) ∧
        ∀ present ∈ env.presentGatewayMessage,
          present ((payload.drop 2).take (messageLength payload)) = true) [] result := by
  rw [rdgProcessServiceMessage]
  by_cases hshort : payload.length < 4 ∨ payload.length < 2 + messageLength payload
  · have hlogs' : env.logsErrors = false := by
      by_contra htrue
      exact hlogs (Bool.not_eq_false _ ▸ htrue) hshort
    rw [rdgReadHttpUnicodeString_short hlogs' hshort]
    refine ⟨_, rfl, ⟨?_, (List.append_nil _).symm, rfl, rfl⟩⟩
    exact ⟨fun hfalse => absurd hfalse Bool.false_ne_true, fun hand => absurd hshort hand.1⟩
  · obtain ⟨hlen, hmessage⟩ := not_or.mp hshort
    obtain ⟨s, hread⟩ := @rdgReadHttpUnicodeString_eq env _ (not_lt.mp hlen)
      (not_lt.mp hmessage)
    rw [hread, Option.map_some]
    refine ⟨_, rfl, ?_⟩
    cases hpresent : env.presentGatewayMessage with
    | none =>
      refine ⟨⟨fun _ => ⟨hshort, fun present hmem => by cases hmem⟩, fun _ => rfl⟩,
        (List.append_nil _).symm, rfl, rfl⟩
    | some present =>
      refine ⟨⟨fun htrue => ⟨hshort, ?_⟩, fun hand => hand.2 present rfl⟩,
        (List.append_nil _).symm, rfl, rfl⟩
      intro present' hmem
      obtain rfl := Option.mem_some_iff.mp hmem
      exact htrue

/-- Whether a packet has a payload stream. -/
def payloadStream (payload : List UInt8) : Option (List UInt8) :=
  if payload = [] then none else some payload

/-- Every control packet that meets the condition is handled as it should be. -/
lemma rdgHandleControlPacket_handled (hmalloc : ∀ n < 2 ^ 32, env.malloc.succeeds n = true)
    {type reserved : UInt16} {payload : List UInt8} {htype : type.toNat ≠ PKT_TYPE_DATA}
    {hlen : payload.length + 8 < 2 ^ 32}
    (hhandled : (TunnelPacket.control type reserved payload htype hlen).Handled env) :
    ∃ result, rdgHandleControlPacket env rdg type.toNat (payloadStream payload) = some result ∧
      ControlHandled rdg ((TunnelPacket.control type reserved payload htype hlen).Accepted env)
        (TunnelPacket.control type reserved payload htype hlen).answers result := by
  obtain ⟨-, hclose, hservice⟩ := hhandled
  unfold rdgHandleControlPacket
  rw [TunnelPacket.answers, TunnelPacket.Accepted, TunnelPacket.TooShort]
  by_cases htypeClose : type.toNat = PKT_TYPE_CLOSE_CHANNEL
  · have hne : type.toNat ≠ PKT_TYPE_KEEPALIVE := by rw [htypeClose]; decide
    have hne' : type.toNat ≠ PKT_TYPE_SERVICE_MESSAGE := by rw [htypeClose]; decide
    rw [if_pos htypeClose, if_neg hne, payloadStream, if_neg (hclose htypeClose)]
    obtain ⟨result, hresult, h⟩ := @rdgProcessClosePacket_handled _ rdg
      (hmalloc 12 (by decide)) payload
    refine ⟨result, hresult, ⟨h.status.trans ?_, ?_, h.bio, h.count⟩⟩
    · rw [htypeClose] at hne'
      simp [htypeClose, hne', not_lt]
    · rw [h.sent]
      simp [htypeClose]
  · rw [if_neg htypeClose]
    by_cases htypeKeep : type.toNat = PKT_TYPE_KEEPALIVE
    · have hne' : type.toNat ≠ PKT_TYPE_SERVICE_MESSAGE := by rw [htypeKeep]; decide
      rw [if_pos htypeKeep, if_pos htypeKeep]
      have h := @rdgProcessKeepAlivePacket_handled _ rdg (hmalloc 8 (by decide))
      refine ⟨_, rfl, ⟨h.status.trans ?_, h.sent, h.bio, h.count⟩⟩
      simp [htypeClose, hne']
    · have hanswer : ¬ (type.toNat = PKT_TYPE_CLOSE_CHANNEL ∧ 4 ≤ payload.length) :=
        fun hand => htypeClose hand.1
      rw [if_neg htypeKeep, if_neg htypeKeep, if_neg hanswer]
      by_cases htypeService : type.toNat = PKT_TYPE_SERVICE_MESSAGE
      · rw [if_pos htypeService, payloadStream]
        by_cases hnil : payload = []
        · rw [if_pos hnil]
          refine ⟨_, rfl, ⟨⟨fun hfalse => absurd hfalse Bool.false_ne_true, fun hand => ?_⟩,
            (List.append_nil _).symm, rfl, rfl⟩⟩
          refine absurd (.inr ⟨htypeService, .inl ?_⟩) hand.1
          rw [hnil]
          decide
        · rw [if_neg hnil]
          have hlogs : env.logsErrors = true →
              ¬ (payload.length < 4 ∨ payload.length < 2 + messageLength payload) :=
            fun hlogs hshort =>
              (hservice htypeService hlogs).resolve_left hnil (.inr ⟨htypeService, hshort⟩)
          obtain ⟨result, hresult, h⟩ := @rdgProcessServiceMessage_handled _ rdg _ hlogs
          refine ⟨result, hresult, ⟨h.status.trans ?_, h.sent, h.bio, h.count⟩⟩
          rw [htypeService] at htypeClose
          simp [htypeClose, htypeService]
      · rw [if_neg htypeService]
        refine ⟨_, rfl, ⟨?_, (List.append_nil _).symm, rfl, rfl⟩⟩
        simp [htypeClose, htypeService]

/-- A control packet takes its payload from the source, and nothing else. -/
lemma rdgProcessControlPacket_handled (hmalloc : ∀ n < 2 ^ 32, env.malloc.succeeds n = true)
    {type reserved : UInt16} {payload : List UInt8} {htype : type.toNat ≠ PKT_TYPE_DATA}
    {hlen : payload.length + 8 < 2 ^ 32}
    (hhandled : (TunnelPacket.control type reserved payload htype hlen).Handled env)
    {rest : List UInt8} (hcontent : bioContent rdg.bio = payload ++ rest) :
    ∃ status rdg', rdgProcessControlPacket env rdg type.toNat (payload.length + 8) =
        some (some (status, rdg')) ∧
      (status = true ↔ (TunnelPacket.control type reserved payload htype hlen).Accepted env) ∧
      rdg'.sent =
        rdg.sent ++ (TunnelPacket.control type reserved payload htype hlen).answers ∧
      bioContent rdg'.bio = rest ∧ bioSize rdg'.bio ≤ bioSize rdg.bio ∧
      rdg'.packetRemainingCount = rdg.packetRemainingCount := by
  have hle : payload.length ≤ INT_MAX := hhandled.1
  rw [rdgProcessControlPacket, if_neg (by omega)]
  dsimp only
  rw [Nat.add_sub_cancel]
  by_cases hnil : payload = []
  · obtain ⟨⟨status, rdg'⟩, hresult, h⟩ := @rdgHandleControlPacket_handled _ rdg hmalloc
      _ _ _ _ _ hhandled
    rw [payloadStream, if_pos hnil] at hresult
    rw [if_pos (by rw [hnil]; rfl), hresult]
    have hbio : rdg'.bio = rdg.bio := h.bio
    rw [hnil, List.nil_append] at hcontent
    exact ⟨status, rdg', rfl, h.status, h.sent, by rw [hbio, hcontent], by rw [hbio], h.count⟩
  · have hpos : 0 < payload.length := List.length_pos_iff.mpr hnil
    have hmem : (!env.malloc.succeeds payload.length) = false := by
      rw [hmalloc payload.length (by omega)]
      rfl
    obtain ⟨bio, hloop, hrest, hless⟩ := readLoop_eq
      (readsAll_socketRead hle false) rfl hpos hcontent
    obtain ⟨⟨status, rdg'⟩, hresult, h⟩ := @rdgHandleControlPacket_handled _
      { rdg with bio := bio } hmalloc _ _ _ _ _ hhandled
    rw [payloadStream, if_neg hnil] at hresult
    rw [if_neg hpos.ne', hmem, if_neg Bool.false_ne_true, hloop, Option.map_some]
    dsimp only
    rw [hresult]
    have hbio : rdg'.bio = bio := h.bio
    refine ⟨status, rdg', rfl, h.status, h.sent, by rw [hbio, hrest], ?_, h.count⟩
    rw [hbio]
    exact hless.le

end Control

/-! ### Positions -/

/-- The position of a tunnel in a sequence of packets, and what the caller has got. -/
inductive TunnelAt (packets : List TunnelPacket) (rdg : RdgTunnel) (returned : List UInt8) : Prop
  | boundary (before after : List TunnelPacket) (hpackets : packets = before ++ after)
      (hcontent : bioContent rdg.bio = encodePackets after) (hcount : rdg.packetRemainingCount = 0)
      (hreturned : returned = tunnelData before) (hsent : rdg.sent = tunnelAnswers before)
  | data (before : List TunnelPacket) (reserved : UInt16) (bytes : List UInt8) (hne : bytes ≠ [])
      (hlen : bytes.length < 2 ^ 16) (after : List TunnelPacket)
      (hpackets : packets = before ++ .data reserved bytes hne hlen :: after) (k : Nat)
      (hk : k < bytes.length) (hcontent : bioContent rdg.bio = bytes.drop k ++ encodePackets after)
      (hcount : rdg.packetRemainingCount = bytes.length - k)
      (hreturned : returned = tunnelData before ++ bytes.take k)
      (hsent : rdg.sent = tunnelAnswers before)

section Positions

variable {env : RdgEnvironment} {packets : List TunnelPacket} {rdg : RdgTunnel}
  {returned : List UInt8}

lemma encodePackets_cons (p : TunnelPacket) (packets : List TunnelPacket) :
    encodePackets (p :: packets) = p.encode ++ encodePackets packets := by
  rw [encodePackets, List.map_cons, List.flatten_cons]
  rfl

lemma tunnelData_concat (packets : List TunnelPacket) (p : TunnelPacket) :
    tunnelData (packets ++ [p]) = tunnelData packets ++ p.content := by
  simp [tunnelData]

lemma tunnelAnswers_concat (packets : List TunnelPacket) (p : TunnelPacket) :
    tunnelAnswers (packets ++ [p]) = tunnelAnswers packets ++ p.answers := by
  simp [tunnelAnswers]

/-- The header of a packet as `rdg_read_data_packet` reads it. -/
lemma read_packetHeader {type reserved packetLength : Nat} (htype : type < 2 ^ 16)
    (hlen : packetLength < 2 ^ 32) :
    (WStream.ofBytes (packetHeader type reserved packetLength)).readUInt16 =
        (type, (WStream.ofBytes (packetHeader type reserved packetLength)).seek 2) ∧
      ((((WStream.ofBytes (packetHeader type reserved packetLength)).seek 2).seek 2).readUInt32).1 =
        packetLength := by
  constructor
  · exact WStream.readUInt16_bytes (by rw [WStream.unread_ofBytes, packetHeader]) htype
  · have hunread : (((WStream.ofBytes (packetHeader type reserved packetLength)).seek 2).seek
        2).unread = bytesUInt32 packetLength ++ [] := by
      rw [WStream.unread_seek, WStream.unread_seek, WStream.unread_ofBytes]
      rfl
    rw [WStream.readUInt32_bytes hunread hlen]

lemma length_encode_pos (p : TunnelPacket) : 0 < p.encode.length := by
  cases p with
  | data reserved bytes hne hlen =>
    rw [TunnelPacket.encode, List.length_append]
    exact Nat.add_pos_left (by decide : 0 < 8) _
  | control type reserved payload htype hlen =>
    rw [TunnelPacket.encode, List.length_append]
    exact Nat.add_pos_left (by decide : 0 < 8) _

/-- What is left of the bytes says how many packets are left. -/
lemma eq_of_length_encodePackets {before before' after after' : List TunnelPacket}
    (h : before ++ after = before' ++ after')
    (hlen : (encodePackets after).length = (encodePackets after').length) : after = after' := by
  have hnil : ∀ front back : List TunnelPacket,
      (encodePackets (front ++ back)).length = (encodePackets back).length → front = [] := by
    intro front back hlen
    cases front with
    | nil => rfl
    | cons p front =>
      have hpos := length_encode_pos p
      rw [List.cons_append, encodePackets_cons, List.length_append, encodePackets,
        List.map_append, List.flatten_append, List.length_append] at hlen
      rw [encodePackets] at hlen
      omega
  rcases List.append_eq_append_iff.mp h with ⟨front, -, rfl⟩ | ⟨front, -, rfl⟩
  · rw [hnil front after' hlen, List.nil_append]
  · rw [hnil front after hlen.symm, List.nil_append]

/-- The position does not depend on the retry flag. -/
lemma TunnelAt.setRetry (h : TunnelAt packets rdg returned) (retry : Bool) :
    TunnelAt packets { rdg with shouldRetry := retry } returned := by
  cases h with
  | boundary before after hpackets hcontent hcount hreturned hsent =>
    exact .boundary before after hpackets hcontent hcount hreturned hsent
  | data before reserved bytes hne hlen after hpackets k hk hcontent hcount hreturned hsent =>
    exact .data before reserved bytes hne hlen after hpackets k hk hcontent hcount hreturned hsent

/-- What a call does. In front of a control packet it finds no data, or it takes exactly this packet,
sends the answers to it and says with `retry` whether it was accepted. -/
structure TunnelReads (env : RdgEnvironment) (packets : List TunnelPacket) (rdg : RdgTunnel)
    (returned : List UInt8) (size : Nat) (retry : Prop) (bytes : List UInt8) (rdg' : RdgTunnel) :
    Prop where
  position : TunnelAt packets rdg' (returned ++ bytes)
  length_le : bytes.length ≤ size
  bio_lt : bioSize rdg'.bio < bioSize rdg.bio ∨ rdg.bio = [] ∧ rdg'.bio = []
  control : ∀ (before : List TunnelPacket) (type reserved : UInt16) (payload : List UInt8)
    (htype : type.toNat ≠ PKT_TYPE_DATA) (hlen : payload.length + 8 < 2 ^ 32)
    (after : List TunnelPacket),
    packets = before ++ .control type reserved payload htype hlen :: after →
    rdg.packetRemainingCount = 0 →
    bioContent rdg.bio = encodePackets (.control type reserved payload htype hlen :: after) →
    bytes = [] ∧
      (bioContent rdg'.bio = bioContent rdg.bio ∧ rdg'.sent = rdg.sent ∧ retry ∨
        bioContent rdg'.bio = encodePackets after ∧
          rdg'.sent =
            rdg.sent ++ (TunnelPacket.control type reserved payload htype hlen).answers ∧
          (retry ↔ (TunnelPacket.control type reserved payload htype hlen).Accepted env))

/-- The statuses that go with the bytes of a call. -/
def TunnelStatus (status : Int) (bytes : List UInt8) : Prop :=
  if bytes = [] then status ≤ 0 else status = bytes.length

lemma tunnelStatus_nil {status : Int} (h : status ≤ 0) : TunnelStatus status [] := by
  rwa [TunnelStatus, if_pos rfl]

lemma tunnelStatus_cons (byte : UInt8) (bytes : List UInt8) :
    TunnelStatus (byte :: bytes).length (byte :: bytes) := by
  rw [TunnelStatus, if_neg (List.cons_ne_nil byte bytes)]

/-- A read of data, behind the size of its packet. -/
lemma rdgReadPayload_reads {before : List TunnelPacket} {reserved : UInt16} {bytes : List UInt8}
    {hne : bytes ≠ []} {hlen : bytes.length < 2 ^ 16} {after : List TunnelPacket}
    (hpackets : packets = before ++ .data reserved bytes hne hlen :: after) {k : Nat}
    (hk : k < bytes.length) (hcontent : bioContent rdg.bio = bytes.drop k ++ encodePackets after)
    (hcount : rdg.packetRemainingCount = bytes.length - k)
    (hreturned : returned = tunnelData before ++ bytes.take k)
    (hsent : rdg.sent = tunnelAnswers before) {size : Nat} (hsize : 0 < size) :
    ∃ status read rdg', rdgReadPayload rdg size = (status, read, rdg') ∧
      TunnelStatus status read ∧ TunnelAt packets rdg' (returned ++ read) ∧ read.length ≤ size ∧
      bioSize rdg'.bio < bioSize rdg.bio := by
  have hbio : rdg.bio ≠ [] := by
    intro hnil
    rw [hnil, List.drop_eq_getElem_cons hk] at hcontent
    cases hcontent
  -- the size of the read
  obtain ⟨n, hn, hpos, hnsize, hncount⟩ : ∃ n, (if rdg.packetRemainingCount < size then
      rdg.packetRemainingCount else size) = n ∧ 0 < n ∧ n ≤ size ∧ n ≤ bytes.length - k := by
    refine ⟨_, rfl, ?_⟩
    split
    · omega
    · omega
  rw [rdgReadPayload]
  dsimp only
  rw [hn]
  rcases bioRead_cases hpos rdg.bio with ⟨status, bio, hread, hstatus, hsame, hless⟩ |
    ⟨byte, more, bio, hread, hle, hsplit, hless⟩
  · rw [hread]
    dsimp only
    rw [if_pos hstatus, if_neg hbio]
    refine ⟨_, _, _, rfl, tunnelStatus_nil le_rfl, ?_, Nat.zero_le _,
      hless.resolve_right fun hand => hbio hand.1⟩
    exact .data before reserved bytes hne hlen after hpackets k hk (hsame.symm.trans hcontent)
      hcount (by rw [List.append_nil, hreturned]) hsent
  · rw [hread]
    dsimp only
    rw [if_neg (by rw [List.length_cons]; omega), Int.toNat_natCast]
    refine ⟨_, _, _, rfl, tunnelStatus_cons byte more, ?_, hle.trans hnsize, hless⟩
    -- what was read is the next part of the data
    generalize byte :: more = read at hle hsplit
    obtain ⟨tail, hread', hrest⟩ : ∃ tail, bytes.drop k = read ++ tail ∧
        bioContent bio = tail ++ encodePackets after := by
      have heq := hsplit.symm.trans hcontent
      have hlen' : read.length ≤ (bytes.drop k).length := by
        rw [List.length_drop]
        omega
      refine ⟨(bytes.drop k).drop read.length, ?_, ?_⟩
      · have htake := congrArg (List.take read.length) heq
        rw [List.take_left, List.take_append_of_le_length hlen'] at htake
        nth_rewrite 1 [htake]
        exact (List.take_append_drop _ _).symm
      · have hdrop := congrArg (List.drop read.length) heq
        rwa [List.drop_left, List.drop_append_of_le_length hlen'] at hdrop
    have hreadtake : bytes.take k ++ read = bytes.take (k + read.length) := by
      rw [List.take_add, hread', List.take_left]
    have htail : tail = bytes.drop (k + read.length) := by
      rw [← List.drop_drop, hread', List.drop_left]
    have hlength : read.length + tail.length = bytes.length - k := by
      rw [← List.length_append, ← hread', List.length_drop]
    by_cases hend : k + read.length = bytes.length
    · have hnil : tail = [] := List.length_eq_zero_iff.mp (by omega)
      refine .boundary (before ++ [.data reserved bytes hne hlen]) after
        (by rw [hpackets, List.append_assoc]; rfl) (by rw [hrest, hnil, List.nil_append]) ?_ ?_ ?_
      · dsimp only
        omega
      · rw [hreturned, List.append_assoc, hreadtake, hend, List.take_length, tunnelData_concat]
        rfl
      · rw [tunnelAnswers_concat, hsent]
        exact (List.append_nil _).symm
    · refine .data before reserved bytes hne hlen after hpackets (k + read.length) (by omega)
        (by rw [hrest, htail]) ?_ ?_ hsent
      · dsimp only
        omega
      · rw [hreturned, List.append_assoc, hreadtake]

/-- What a call of `rdg_read_data_packet` does, with its status. -/
def RdgReads (env : RdgEnvironment) (packets : List TunnelPacket) (rdg : RdgTunnel)
    (returned : List UInt8) (size : Nat) : Prop :=
  ∃ status bytes rdg', rdgReadDataPacket env rdg size = some (some (status, bytes, rdg')) ∧
    TunnelStatus status bytes ∧ TunnelReads env packets rdg returned size (status = 0) bytes rdg'

/-- A call inside of a data packet. -/
lemma rdgReads_data {before : List TunnelPacket} {reserved : UInt16} {bytes : List UInt8}
    {hne : bytes ≠ []} {hlen : bytes.length < 2 ^ 16} {after : List TunnelPacket}
    (hpackets : packets = before ++ .data reserved bytes hne hlen :: after) {k : Nat}
    (hk : k < bytes.length) (hcontent : bioContent rdg.bio = bytes.drop k ++ encodePackets after)
    (hcount : rdg.packetRemainingCount = bytes.length - k)
    (hreturned : returned = tunnelData before ++ bytes.take k)
    (hsent : rdg.sent = tunnelAnswers before) {size : Nat} (hsize : 0 < size) :
    RdgReads env packets rdg returned size := by
  have hne0 : rdg.packetRemainingCount ≠ 0 := by omega
  obtain ⟨status, read, rdg', hread, hstatus, hat, hle, hless⟩ :=
    rdgReadPayload_reads hpackets hk hcontent hcount hreturned hsent hsize
  refine ⟨status, read, rdg', ?_, hstatus, hat, hle, .inl hless, ?_⟩
  · rw [rdgReadDataPacket, if_neg hne0, hread]
  · intro before' type reserved' payload htype hlen' after' hpackets' hzero
    exact absurd hzero hne0

/-- A call in front of a data packet. -/
lemma rdgReads_dataPacket {before : List TunnelPacket} {reserved : UInt16} {bytes : List UInt8}
    {hne : bytes ≠ []} {hlen : bytes.length < 2 ^ 16} {after : List TunnelPacket}
    (hpackets : packets = before ++ .data reserved bytes hne hlen :: after)
    (hcontent : bioContent rdg.bio = encodePackets (.data reserved bytes hne hlen :: after))
    (hcount : rdg.packetRemainingCount = 0) (hreturned : returned = tunnelData before)
    (hsent : rdg.sent = tunnelAnswers before) {size : Nat} (hsize : 0 < size) :
    RdgReads env packets rdg returned size := by
  have hnot : ∀ (before' : List TunnelPacket) (type reserved' : UInt16) (payload : List UInt8)
      (htype : type.toNat ≠ PKT_TYPE_DATA) (hlen' : payload.length + 8 < 2 ^ 32)
      (after' : List TunnelPacket),
      packets = before' ++ .control type reserved' payload htype hlen' :: after' →
      bioContent rdg.bio ≠ encodePackets (.control type reserved' payload htype hlen' :: after') := by
    intro before' type reserved' payload htype hlen' after' hpackets' hcontent'
    cases eq_of_length_encodePackets (hpackets.symm.trans hpackets')
      (congrArg List.length (hcontent.symm.trans hcontent'))
  have hsplit : bioContent rdg.bio = packetHeader PKT_TYPE_DATA reserved.toNat (bytes.length + 10) ++
      (bytesUInt16 bytes.length ++ (bytes ++ encodePackets after)) := by
    rw [hcontent, encodePackets_cons, TunnelPacket.encode, List.append_assoc, List.append_assoc]
  rw [RdgReads, rdgReadDataPacket, if_pos hcount]
  rcases readLoop_header rfl hsplit with ⟨bio, hloop, hsame, hless⟩ | ⟨bio, hloop, hrest, hless⟩
  · rw [hloop]
    refine ⟨_, _, _, rfl, tunnelStatus_nil le_rfl, ?_, Nat.zero_le _, .inl hless, ?_⟩
    · exact .boundary before (.data reserved bytes hne hlen :: after) hpackets
        (by rw [hsame, ← hsplit, hcontent]) hcount (by rw [List.append_nil, hreturned]) hsent
    · intro before' type reserved' payload htype hlen' after' hpackets' _ hcontent'
      exact absurd hcontent' (hnot before' type reserved' payload htype hlen' after' hpackets')
  · rw [hloop, Option.bind_some]
    obtain ⟨htype, -⟩ := @read_packetHeader _ reserved.toNat _
      (show PKT_TYPE_DATA < 2 ^ 16 by decide) (show bytes.length + 10 < 2 ^ 32 by omega)
    obtain ⟨bio', hloop', hrest', hless'⟩ := readLoop_eq
      readsAll_sizeRead (show (bytesUInt16 bytes.length).length = 2 from rfl) Nat.two_pos hrest
    have hvalue : (WStream.ofBytes (bytesUInt16 bytes.length)).readUInt16.1 = bytes.length := by
      rw [@WStream.readUInt16_bytes _ [] _ (by rw [WStream.unread_ofBytes, List.append_nil])
        hlen]
    dsimp only
    rw [rdgReadPacket, htype]
    dsimp only
    rw [if_neg (not_not.mpr rfl), rdgReadSize, hloop', Option.map_some]
    dsimp only
    rw [hvalue]
    have hreturned0 : returned = tunnelData before ++ bytes.take 0 := by
      rw [hreturned, List.take_zero, List.append_nil]
    obtain ⟨status, read, rdg', hread, hstatus, hat, hle, hless''⟩ :=
      @rdgReadPayload_reads _ { rdg with bio := bio', packetRemainingCount := bytes.length }
        _ _ _ _ _ _ _ hpackets 0 (List.length_pos_iff.mpr hne) hrest' rfl hreturned0 hsent _ hsize
    rw [hread]
    refine ⟨status, read, rdg', rfl, hstatus, hat, hle, .inl ?_, ?_⟩
    · dsimp only at hless' hless''
      omega
    · intro before' type reserved' payload htype hlen' after' hpackets' _ hcontent'
      exact absurd hcontent' (hnot before' type reserved' payload htype hlen' after' hpackets')

/-- A call in front of a control packet. -/
lemma rdgReads_controlPacket (hmalloc : ∀ n < 2 ^ 32, env.malloc.succeeds n = true)
    {before : List TunnelPacket} {type reserved : UInt16} {payload : List UInt8}
    {htype : type.toNat ≠ PKT_TYPE_DATA} {hlen : payload.length + 8 < 2 ^ 32}
    {after : List TunnelPacket}
    (hhandled : (TunnelPacket.control type reserved payload htype hlen).Handled env)
    (hpackets : packets = before ++ .control type reserved payload htype hlen :: after)
    (hcontent : bioContent rdg.bio =
      encodePackets (.control type reserved payload htype hlen :: after))
    (hcount : rdg.packetRemainingCount = 0) (hreturned : returned = tunnelData before)
    (hsent : rdg.sent = tunnelAnswers before) (size : Nat) :
    RdgReads env packets rdg returned size := by
  have hsplit : bioContent rdg.bio =
      packetHeader type.toNat reserved.toNat (payload.length + 8) ++
        (payload ++ encodePackets after) := by
    rw [hcontent, encodePackets_cons, TunnelPacket.encode, List.append_assoc]
  rw [RdgReads, rdgReadDataPacket, if_pos hcount]
  rcases readLoop_header rfl hsplit with ⟨bio, hloop, hsame, hless⟩ | ⟨bio, hloop, hrest, hless⟩
  · rw [hloop]
    refine ⟨_, _, _, rfl, tunnelStatus_nil le_rfl, ?_, Nat.zero_le _, .inl hless, ?_⟩
    · exact .boundary before (.control type reserved payload htype hlen :: after) hpackets
        (by rw [hsame, ← hsplit, hcontent]) hcount (by rw [List.append_nil, hreturned]) hsent
    · intro before' type' reserved' payload' htype' hlen' after' hpackets' _ hcontent'
      exact ⟨rfl, .inl ⟨hsame.trans hsplit.symm, rfl, rfl⟩⟩
  · rw [hloop, Option.bind_some]
    obtain ⟨hread, hlength⟩ := @read_packetHeader _ reserved.toNat _
      (UInt16.toNat_lt type) hlen
    obtain ⟨status, rdg', hresult, haccepted, hsent', hrest', hless', hcount'⟩ :=
      @rdgProcessControlPacket_handled _ { rdg with bio := bio } hmalloc _ _ _ _ _ hhandled _ hrest
    dsimp only
    rw [rdgReadPacket, hread]
    dsimp only
    rw [if_pos htype, hlength, hresult]
    refine ⟨_, _, rdg', rfl, tunnelStatus_nil ?_, ?_, Nat.zero_le _, .inl ?_, ?_⟩
    · split
      · decide
      · decide
    · refine .boundary (before ++ [.control type reserved payload htype hlen]) after
        (by rw [hpackets, List.append_assoc]; rfl) hrest' (hcount'.trans hcount) ?_ ?_
      · rw [hreturned, tunnelData_concat]
        rfl
      · rw [hsent', tunnelAnswers_concat, ← hsent]
    · exact hless'.trans_lt hless
    · intro before' type' reserved' payload' htype' hlen' after' hpackets' _ hcontent'
      cases eq_of_length_encodePackets (hpackets.symm.trans hpackets')
        (congrArg List.length (hcontent.symm.trans hcontent'))
      refine ⟨rfl, .inr ⟨hrest', hsent', ?_⟩⟩
      rw [← haccepted]
      cases status with
      | true => exact ⟨fun _ => rfl, fun _ => rfl⟩
      | false =>
        have hneg : ¬ ((-1 : Int) = 0) := by decide
        exact ⟨fun hzero => absurd hzero hneg, fun hfalse => absurd hfalse Bool.false_ne_true⟩

/-- A call behind the last packet. -/
lemma rdgReads_finished (hcontent : bioContent rdg.bio = []) (hcount : rdg.packetRemainingCount = 0)
    (hreturned : returned = tunnelData packets) (hsent : rdg.sent = tunnelAnswers packets)
    (size : Nat) : RdgReads env packets rdg returned size := by
  have hnot : ∀ (p : TunnelPacket) (after : List TunnelPacket),
      bioContent rdg.bio ≠ encodePackets (p :: after) := by
    intro p after hcontent'
    have hpos := length_encode_pos p
    have hlen := congrArg List.length (hcontent.symm.trans hcontent')
    rw [encodePackets_cons, List.length_append, List.length_nil] at hlen
    omega
  have hat : ∀ bio, bioContent bio = [] →
      TunnelAt packets { rdg with bio := bio } (returned ++ []) := fun bio hnil =>
    .boundary packets [] (List.append_nil _).symm hnil hcount (by rw [List.append_nil, hreturned])
      hsent
  have hlt : ([] : List UInt8).length < 8 := by decide
  rw [RdgReads, rdgReadDataPacket, if_pos hcount, readLoop, loop]
  rcases bioRead_cases (show 0 < 8 by decide) rdg.bio with
    ⟨status, bio, hread, hstatus, hsame, hsize⟩ | ⟨byte, bytes, bio, hread, hle, hsplit, hsize⟩
  · have hround : socketReadRound 8 true ⟨rdg.bio, []⟩ =
        .done (if rdg.bio = [] then .failed ⟨bio, []⟩ else .noData ⟨bio, []⟩) := by
      rw [socketReadRound, if_neg (not_not.mpr hlt)]
      dsimp only [List.length_nil, Nat.sub_zero]
      rw [hread]
      dsimp only
      rw [if_pos hstatus]
      split
      · rfl
      · rw [if_pos ⟨rfl, rfl⟩]
    rw [hround]
    by_cases hnil : rdg.bio = []
    · rw [if_pos hnil]
      obtain rfl : bio = [] := by
        rw [hnil] at hread
        exact (Prod.mk.inj (Prod.mk.inj hread).2).2.symm
      exact ⟨_, _, _, rfl, tunnelStatus_nil (by decide), hat [] rfl, Nat.zero_le _,
        .inr ⟨hnil, rfl⟩, fun _ _ _ _ _ _ _ _ _ hcontent' => absurd hcontent' (hnot _ _)⟩
    · rw [if_neg hnil]
      exact ⟨_, _, _, rfl, tunnelStatus_nil le_rfl, hat bio (hsame ▸ hcontent), Nat.zero_le _,
        .inl (hsize.resolve_right fun hand => hnil hand.1),
        fun _ _ _ _ _ _ _ _ _ hcontent' => absurd hcontent' (hnot _ _)⟩
  · rw [hcontent] at hsplit
    cases hsplit

/-- The packet that a tunnel is in front of meets the condition. -/
def NextHandled (env : RdgEnvironment) (packets : List TunnelPacket) (rdg : RdgTunnel) : Prop :=
  ∀ (before : List TunnelPacket) (p : TunnelPacket) (after : List TunnelPacket),
    packets = before ++ p :: after → rdg.packetRemainingCount = 0 →
    bioContent rdg.bio = encodePackets (p :: after) → p.Handled env

/-- Every call, wherever the tunnel is. -/
lemma TunnelAt.reads (hmalloc : ∀ n < 2 ^ 32, env.malloc.succeeds n = true)
    (h : TunnelAt packets rdg returned) (hnext : NextHandled env packets rdg) {size : Nat}
    (hsize : 0 < size) : RdgReads env packets rdg returned size := by
  cases h with
  | boundary before after hpackets hcontent hcount hreturned hsent =>
    cases after with
    | nil =>
      rw [List.append_nil] at hpackets
      subst hpackets
      exact rdgReads_finished hcontent hcount hreturned hsent size
    | cons p after =>
      cases p with
      | data reserved bytes hne hlen =>
        exact rdgReads_dataPacket hpackets hcontent hcount hreturned hsent hsize
      | control type reserved payload htype hlen =>
        exact rdgReads_controlPacket hmalloc (hnext before _ after hpackets hcount hcontent)
          hpackets hcontent hcount hreturned hsent size
  | data before reserved bytes hne hlen after hpackets k hk hcontent hcount hreturned hsent =>
    exact rdgReads_data hpackets hk hcontent hcount hreturned hsent hsize

end Positions

/-! ### Runs -/

/-- A tunnel, and what the calls so far have returned. -/
structure TunnelRun where
  rdg : RdgTunnel
  returned : List UInt8

/-- A tunnel on a source that has read nothing yet. -/
def TunnelRun.start (bio : List BioEvent) : TunnelRun := ⟨⟨0, bio, [], 0, false⟩, []⟩

/-- A call with a buffer of the given size. -/
def tunnelStep (env : RdgEnvironment) (s : TunnelRun) (size : Nat) : TunnelRun :=
  match rdgBioRead env s.rdg size with
  | some (some (_, bytes, rdg)) => ⟨rdg, s.returned ++ bytes⟩
  | _ => s

/-- The condition on a call: its buffer is not empty, and the packet that comes next is handled. -/
def TunnelMeets (env : RdgEnvironment) (packets : List TunnelPacket) (s : TunnelRun) (size : Nat) :
    Prop :=
  0 < size ∧ NextHandled env packets s.rdg

/-- A call returns the number of its bytes, or `-1` without any, and does what it should. -/
def TunnelExact (env : RdgEnvironment) (packets : List TunnelPacket) (s : TunnelRun) (size : Nat) :
    Prop :=
  ∃ status bytes rdg, rdgBioRead env s.rdg size = some (some (status, bytes, rdg)) ∧
    status = (if bytes = [] then -1 else (bytes.length : Int)) ∧
    TunnelReads env packets s.rdg s.returned size (rdg.shouldRetry = true) bytes rdg

section Runs

variable {env : RdgEnvironment} {packets : List TunnelPacket} {s : TunnelRun}

/-- A reader with nothing left to read is behind the last packet. -/
lemma TunnelAt.finished (h : TunnelAt packets s.rdg s.returned)
    (hnil : bioContent s.rdg.bio = []) :
    s.returned = tunnelData packets ∧ s.rdg.sent = tunnelAnswers packets := by
  cases h with
  | boundary before after hpackets hcontent hcount hreturned hsent =>
    cases after with
    | nil =>
      rw [List.append_nil] at hpackets
      rw [hpackets]
      exact ⟨hreturned, hsent⟩
    | cons p after =>
      have hpos := length_encode_pos p
      have hlen := congrArg List.length (hnil.symm.trans hcontent)
      rw [encodePackets_cons, List.length_append, List.length_nil] at hlen
      omega
  | data before reserved bytes hne hlen after hpackets k hk hcontent hcount hreturned hsent =>
    rw [hnil, List.drop_eq_getElem_cons hk] at hcontent
    cases hcontent

/-- One call. -/
lemma TunnelAt.step (hmalloc : ∀ n < 2 ^ 32, env.malloc.succeeds n = true)
    (h : TunnelAt packets s.rdg s.returned) {size : Nat} (hmeets : TunnelMeets env packets s size) :
    TunnelExact env packets s size ∧
      TunnelAt packets (tunnelStep env s size).rdg (tunnelStep env s size).returned ∧
      bioSize (tunnelStep env s size).rdg.bio ≤ bioSize s.rdg.bio - 1 := by
  obtain ⟨status, bytes, rdg, hread, hstatus, hreads⟩ := h.reads hmalloc hmeets.2 hmeets.1
  have hcall : rdgBioRead env s.rdg size = some (some (rdgBioStatus status bytes rdg)) := by
    rw [rdgBioRead, hread]
    rfl
  have hexact : ∃ status' rdg', rdgBioStatus status bytes rdg = (status', bytes, rdg') ∧
      status' = (if bytes = [] then -1 else (bytes.length : Int)) ∧
      TunnelReads env packets s.rdg s.returned size (rdg'.shouldRetry = true) bytes rdg' := by
    rw [TunnelStatus] at hstatus
    rw [rdgBioStatus]
    by_cases hbytes : bytes = []
    · rw [if_pos hbytes] at hstatus ⊢
      by_cases hzero : status = 0
      · rw [if_neg (by omega), if_pos hzero]
        refine ⟨_, _, rfl, rfl, hreads.position.setRetry true, hreads.length_le, hreads.bio_lt, ?_⟩
        simpa only [hzero, true_iff, and_true] using hreads.control
      · rw [if_pos (by omega)]
        refine ⟨_, _, rfl, rfl, hreads.position.setRetry false, hreads.length_le,
          hreads.bio_lt, ?_⟩
        simpa only [hzero, Bool.false_eq_true] using hreads.control
    · have hpos : 0 < bytes.length := List.length_pos_iff.mpr hbytes
      rw [if_neg hbytes] at hstatus ⊢
      rw [if_neg (by omega), if_neg (by omega)]
      refine ⟨_, _, rfl, hstatus, hreads.position, hreads.length_le, hreads.bio_lt, ?_⟩
      intro before type reserved payload htype hlen after hpackets hcount hcontent
      exact absurd (hreads.control before type reserved payload htype hlen after hpackets hcount
        hcontent).1 hbytes
  obtain ⟨status', rdg', heq, hstatus', hreads'⟩ := hexact
  rw [heq] at hcall
  refine ⟨⟨status', bytes, rdg', hcall, hstatus', hreads'⟩, ?_⟩
  rw [tunnelStep, hcall]
  refine ⟨hreads'.position, ?_⟩
  rcases hreads'.bio_lt with hlt | ⟨-, hnil⟩
  · exact Nat.le_sub_one_of_lt hlt
  · dsimp only
    rw [hnil]
    exact Nat.zero_le _

/-- Calls, each of which reads something, come to the end. -/
lemma TunnelAt.run (hmalloc : ∀ n < 2 ^ 32, env.malloc.succeeds n = true)
    (h : TunnelAt packets s.rdg s.returned) {sizes : List Nat}
    (hmeets : AlongRun (tunnelStep env) (TunnelMeets env packets) s sizes) :
    AlongRun (tunnelStep env) (TunnelExact env packets) s sizes ∧
      TunnelAt packets (sizes.foldl (tunnelStep env) s).rdg
        (sizes.foldl (tunnelStep env) s).returned ∧
      bioSize (sizes.foldl (tunnelStep env) s).rdg.bio ≤ bioSize s.rdg.bio - sizes.length := by
  induction sizes generalizing s with
  | nil => exact ⟨trivial, h, le_rfl⟩
  | cons size sizes ih =>
    obtain ⟨hexact, hat, hless⟩ := h.step hmalloc hmeets.1
    obtain ⟨hexacts, hat', hless'⟩ := ih hat hmeets.2
    refine ⟨⟨hexact, hexacts⟩, hat', hless'.trans ?_⟩
    rw [List.length_cons]
    omega

/-- In every run that meets the condition, each call does what the packets say. With enough calls the
data of all packets was returned, and every packet was answered. -/
theorem rdgBioRead_packets (hmalloc : ∀ n < 2 ^ 32, env.malloc.succeeds n = true)
    {bio : List BioEvent} (hbio : bioContent bio = encodePackets packets) {sizes : List Nat}
    (hmeets : AlongRun (tunnelStep env) (TunnelMeets env packets) (.start bio) sizes) :
    AlongRun (tunnelStep env) (TunnelExact env packets) (.start bio) sizes ∧
      (bioSize bio ≤ sizes.length →
        (sizes.foldl (tunnelStep env) (.start bio)).returned = tunnelData packets ∧
          (sizes.foldl (tunnelStep env) (.start bio)).rdg.sent = tunnelAnswers packets) := by
  have hstart : TunnelAt packets (TunnelRun.start bio).rdg (TunnelRun.start bio).returned :=
    .boundary [] packets rfl hbio rfl rfl rfl
  obtain ⟨hexact, hat, hless⟩ := hstart.run hmalloc hmeets
  refine ⟨hexact, fun hlen => hat.finished (bioContent_of_size_eq_zero ?_)⟩
  have hzero : bioSize (TunnelRun.start bio).rdg.bio - sizes.length = 0 :=
    Nat.sub_eq_zero_of_le hlen
  exact Nat.le_zero.mp (hless.trans_eq hzero)

/-- A sequence of packets that are all handled. -/
lemma tunnelMeets_of_handled (hhandled : ∀ p ∈ packets, p.Handled env) {sizes : List Nat}
    (hsizes : ∀ size ∈ sizes, 0 < size) (s : TunnelRun) :
    AlongRun (tunnelStep env) (TunnelMeets env packets) s sizes := by
  induction sizes generalizing s with
  | nil => trivial
  | cons size sizes ih =>
    refine ⟨⟨hsizes size List.mem_cons_self, ?_⟩,
      ih (fun size' hmem => hsizes size' (List.mem_cons_of_mem size hmem)) _⟩
    intro before p after hpackets _ _
    apply hhandled
    rw [hpackets]
    exact List.mem_append_right before List.mem_cons_self

end Runs

/-- A client with memory, whose writes succeed and that shows messages. -/
def plainEnvironment : RdgEnvironment := ⟨mallocAll, fun _ => true, some fun _ => true, true⟩

/-- Data, a keep-alive, a closed channel that is too short, a closed channel and a service message. -/
def mixedPackets : List TunnelPacket :=
  [.data 0 [1, 2, 3] (by decide) (by decide), .control 0xD 0 [] (by decide) (by decide),
    .control 0x10 0 [1, 2] (by decide) (by decide),
    .control 0x10 7 [0, 0, 0, 0] (by decide) (by decide),
    .control 0xB 0 [2, 0, 65, 0] (by decide) (by decide), .data 0 [4] (by decide) (by decide)]

theorem rdgBioRead_packets_mixed :
    ∃ bio : List BioEvent, BioEvent.noData 1 ∈ bio ∧
      ((List.replicate 73 2).foldl (tunnelStep plainEnvironment) (.start bio)).returned =
        [1, 2, 3, 4] ∧
      ((List.replicate 73 2).foldl (tunnelStep plainEnvironment) (.start bio)).rdg.sent =
        [keepAlivePacket, closeResponsePacket] := by
  let bio : List BioEvent := [.data 10 [0, 0, 0, 13, 0], .noData 1, .data 0 [0, 3], .noData 0,
    .data 0 [1, 2], .noData 1, .data 3 [13, 0, 0, 0, 8], .noData 2, .data 0 [0, 0],
    .data 16 [0, 0, 0, 10, 0, 0, 0, 1], .noData 1, .data 2 [16, 0, 7, 0, 12, 0, 0, 0, 0, 0, 0, 0],
    .data 11 [0, 0, 0, 12, 0, 0, 0, 2, 0, 65, 0, 10, 0, 0, 0, 11, 0, 0, 0, 1, 0, 4]]
  have hmalloc : ∀ n < 2 ^ 32, plainEnvironment.malloc.succeeds n = true := by
    intro n hn
    exact decide_eq_true (hn.le.trans (by decide))
  have hhandled : ∀ p ∈ mixedPackets, p.Handled plainEnvironment := by
    simp [mixedPackets, TunnelPacket.Handled, TunnelPacket.TooShort, INT_MAX,
      PKT_TYPE_CLOSE_CHANNEL, PKT_TYPE_SERVICE_MESSAGE]
    decide
  have hmeets := @tunnelMeets_of_handled plainEnvironment _ hhandled (List.replicate 73 2)
    (by decide) (.start bio)
  exact ⟨bio, by decide, (rdgBioRead_packets hmalloc (by decide) hmeets).2 (by decide)⟩

/-- A closed channel without a payload: the call reads from a null pointer. -/
theorem rdgBioRead_closeWithoutPayload :
    let bio := [BioEvent.data 0x10 [0, 0, 0, 8, 0, 0, 0]]
    bioContent bio = encodePackets [.control 0x10 0 [] (by decide) (by decide)] ∧
      rdgBioRead plainEnvironment (TunnelRun.start bio).rdg 1 = some none := by
  decide

end FreeRdp
