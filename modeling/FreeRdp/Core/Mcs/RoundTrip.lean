import FreeRdp.Core.Mcs.Connect

/-!
# MCS connect PDUs are read back

The receiver of a connect PDU finds the parameters that were written, and hands exactly the user
data to the GCC layer.
-/

namespace FreeRdp

open WStream Reader

variable {γ : Type}

/-! ### Domain parameters -/

lemma reads_readIntegerMember (old value : UInt32) :
    readIntegerMember.Reads (berWriteInteger value.toNat) old value := by
  have h := reads_store (parses_berReadInteger value.toNat_lt) UInt32.ofNat old
  rwa [UInt32.ofNat_toNat] at h

lemma berSizeofInteger_le (value : Nat) : berSizeofInteger value ≤ 6 := by
  unfold berSizeofInteger
  split_ifs <;> decide

lemma length_domainParametersContent_lt (p : DomainParameters) :
    (domainParametersContent p).length < 2 ^ 6 := by
  simp only [domainParametersContent, List.length_append, length_berWriteInteger, List.length_nil]
  have h := berSizeofInteger_le
  have h₁ := h p.maxChannelIds.toNat
  have h₂ := h p.maxUserIds.toNat
  have h₃ := h p.maxTokenIds.toNat
  have h₄ := h p.numPriorities.toNat
  have h₅ := h p.minThroughput.toNat
  have h₆ := h p.maxHeight.toNat
  have h₇ := h p.maxMCSPDUsize.toNat
  have h₈ := h p.protocolVersion.toNat
  omega

/-- Domain parameters are read back, whatever was in their place before. -/
lemma reads_mcsReadDomainParameters (old p : DomainParameters) :
    mcsReadDomainParameters.Reads (mcsWriteDomainParameters p) old p := by
  have hlength := length_domainParametersContent_lt p
  refine (reads_discard (parses_berReadSequenceTag (by omega)) old).cons ?_
  refine (reads_readIntegerMember _ p.maxChannelIds).into.cons ?_
  refine (reads_readIntegerMember _ p.maxUserIds).into.cons ?_
  refine (reads_readIntegerMember _ p.maxTokenIds).into.cons ?_
  refine (reads_readIntegerMember _ p.numPriorities).into.cons ?_
  refine (reads_readIntegerMember _ p.minThroughput).into.cons ?_
  refine (reads_readIntegerMember _ p.maxHeight).into.cons ?_
  refine (reads_readIntegerMember _ p.maxMCSPDUsize).into.cons ?_
  exact (reads_readIntegerMember _ p.protocolVersion).into.cons (reads_nil _)

lemma berEncoded_mcsWriteDomainParameters (p : DomainParameters) {rest : List UInt8}
    (hrest : BerEncoded rest) : BerEncoded (mcsWriteDomainParameters p ++ rest) := by
  have hlength := length_domainParametersContent_lt p
  refine .sequence (parses_berReadLength (by omega)) ?_ hrest
  refine .integer (.integer (.integer (.integer (.integer (.integer (.integer (.integer .nil _) _)
    _) _) _) _) _) _

/-! ### Octet strings -/

lemma parses_skipOctetString {octStr : List UInt8} (h : octStr.length < 2 ^ 16) :
    Parses skipOctetString (berWriteOctetString octStr) () := by
  intro s rest hs
  rw [berWriteOctetString, List.append_assoc] at hs
  have htag := parses_berReadOctetStringTag h s (octStr ++ rest) hs
  have hcontent := unread_seek_append hs rfl
  have hremaining := remainingLength_of_unread hcontent
  unfold skipOctetString
  rw [htag]
  dsimp only
  rw [if_neg (by omega), seek_seek]
  simp only [berWriteOctetString, List.length_append]

lemma length_lt_of_octetString {octStr : List UInt8} {n : Nat}
    (h : (berWriteOctetString octStr).length < n) : octStr.length < n := by
  rw [length_berWriteOctetString] at h
  unfold berSizeofOctetString at h
  omega

/-- The tag and length of the user data, which comes last. -/
lemma readUserDataTag_of_unread {s : WStream} {userData : List UInt8}
    (hs : s.unread = berWriteOctetString userData) (h : userData.length < 2 ^ 16) :
    ∃ n, n + userData.length = (berWriteOctetString userData).length ∧
      berReadOctetStringTag s = some (userData.length, s.seek n) ∧
      readUserDataTag s = some (userData.length, s.seek n) ∧ (s.seek n).unread = userData := by
  have htag := parses_berReadOctetStringTag h s userData hs
  have hcontent : (s.seek _).unread = userData := unread_seek_append hs rfl
  refine ⟨_, ?_, htag, ?_, hcontent⟩
  · rw [berWriteOctetString, ← List.length_append]
  · unfold readUserDataTag
    rw [htag]
    dsimp only
    rw [if_neg (by rw [remainingLength_eq, hcontent]; omega)]

/-! ### PDUs -/

/-- A parser in front, and readers behind it. -/
lemma all_discard_cons {β : Type} {p : WStream → Option (β × WStream)} {b : β}
    {rs : List (Reader WStream γ)} {a : γ} {s s' : WStream} (h : p s = some (b, s')) :
    all (discard p :: rs) a s = all rs a s' := by
  have hdiscard : discard p a s = (a, some s') := by
    unfold Reader.discard
    rw [h]
    rfl
  rw [all, Reader.andThen, hdiscard]

lemma all_append_of_reads {rs rs' : List (Reader WStream γ)} {a a' : γ} {s s' : WStream}
    (h : all rs a s = (a', some s')) : all (rs ++ rs') a s = all rs' a' s' := by
  rw [all_append, Reader.andThen, h]

/-- The headers, some elements, the tag of the user data, and what comes then. -/
lemma all_connect {β : Type} {p : WStream → Option (β × WStream)} {b : β}
    {front rest : List (Reader WStream γ)} {a a' : γ} {pdu bs : List UInt8} {n : Nat}
    (hheaders : readDataHeaders (ofBytes pdu) = some (2, (ofBytes pdu).seek 7))
    (hfront : all front a ((ofBytes pdu).seek 7) =
      (a', some (((ofBytes pdu).seek 7).seek bs.length)))
    (htag : p (((ofBytes pdu).seek 7).seek bs.length) =
      some (b, (((ofBytes pdu).seek 7).seek bs.length).seek n)) :
    all (discard readDataHeaders :: (front ++ (discard p :: rest))) a (ofBytes pdu) =
      all rest a' ((((ofBytes pdu).seek 7).seek bs.length).seek n) := by
  rw [all_discard_cons hheaders, all_append_of_reads hfront, all_discard_cons htag]

/-- The headers in front of what has been written. -/
lemma readDataHeaders_of_sent {written pdu : List UInt8} (h : mcsSendConnect written = some pdu) :
    written.length < 2 ^ 16 - 7 ∧ pdu.length = 7 + written.length ∧
      readDataHeaders (ofBytes pdu) = some (2, (ofBytes pdu).seek 7) ∧
      ((ofBytes pdu).seek 7).unread = written := by
  unfold mcsSendConnect at h
  dsimp only at h
  split at h
  · exact absurd h nofun
  · rename_i hlength
    cases h
    have hheaders : (tpktWriteHeader (7 + written.length) ++ tpduWriteData).length = 7 := rfl
    obtain ⟨htpkt, htpdu⟩ := tpduReadData_of_written (s := ofBytes (tpktWriteHeader
      (7 + written.length) ++ tpduWriteData ++ written)) (unread_ofBytes _) rfl (by omega)
    refine ⟨by omega, ?_, ?_, ?_⟩
    · rw [List.length_append, hheaders]
    · unfold readDataHeaders
      rw [htpkt]
      exact htpdu
    · exact unread_seek_append (unread_ofBytes _) hheaders

/-- The elements of a Connect-Initial PDU up to the user data. -/
lemma reads_connectInitial (client server : RdpMcs γ) {length : Nat} (hlength : length < 2 ^ 16) :
    (all [
      .discard (berReadApplicationTag MCS_TYPE_CONNECT_INITIAL),
      .discard skipOctetString,
      .discard skipOctetString,
      .discard berReadBOOL,
      .into (.mk (·.targetParameters) fun m v => { m with targetParameters := v })
        mcsReadDomainParameters,
      .into (.mk (·.minimumParameters) fun m v => { m with minimumParameters := v })
        mcsReadDomainParameters,
      .into (.mk (·.maximumParameters) fun m v => { m with maximumParameters := v })
        mcsReadDomainParameters] : Reader WStream (RdpMcs γ)).Reads
      (berWriteApplicationTag MCS_TYPE_CONNECT_INITIAL length ++
        (berWriteOctetString callingDomainSelector ++ (berWriteOctetString calledDomainSelector ++
          (berWriteBOOL true ++ (mcsWriteDomainParameters client.targetParameters ++
            (mcsWriteDomainParameters client.minimumParameters ++
              (mcsWriteDomainParameters client.maximumParameters ++ [])))))))
      server
      { server with
        targetParameters := client.targetParameters
        minimumParameters := client.minimumParameters
        maximumParameters := client.maximumParameters } := by
  refine (reads_discard (parses_berReadApplicationTag (by decide) (by decide) hlength) _).cons ?_
  refine (reads_discard (parses_skipOctetString (by decide)) _).cons ?_
  refine (reads_discard (parses_skipOctetString (by decide)) _).cons ?_
  refine (reads_discard (parses_berReadBOOL true) _).cons ?_
  refine (reads_mcsReadDomainParameters _ client.targetParameters).into.cons ?_
  refine (reads_mcsReadDomainParameters _ client.minimumParameters).into.cons ?_
  exact (reads_mcsReadDomainParameters _ client.maximumParameters).into.cons (reads_nil _)

/-- The elements of a Connect-Response PDU up to the user data. -/
lemma reads_connectResponse (client server : RdpMcs γ) {length : Nat} (hlength : length < 2 ^ 16) :
    (all [
      .discard (berReadApplicationTag MCS_TYPE_CONNECT_RESPONSE),
      .discard (berReadEnumerated MCS_RESULT_ENUM_LENGTH),
      .discard berReadInteger,
      .into (.mk (·.domainParameters) fun m v => { m with domainParameters := v })
        mcsReadDomainParameters] : Reader WStream (RdpMcs γ)).Reads
      (berWriteApplicationTag MCS_TYPE_CONNECT_RESPONSE length ++
        (berWriteEnumerated 0 ++ (berWriteInteger 0 ++
          (mcsWriteDomainParameters server.domainParameters ++ []))))
      client { client with domainParameters := server.domainParameters } := by
  refine (reads_discard (parses_berReadApplicationTag (by decide) (by decide) hlength) _).cons ?_
  refine (reads_discard (parses_berReadEnumerated (by decide) (by decide)) _).cons ?_
  refine (reads_discard (parses_berReadInteger (by decide)) _).cons ?_
  exact (reads_mcsReadDomainParameters _ server.domainParameters).into.cons (reads_nil _)

lemma berEncoded_mcsWriteConnectResponse (server : RdpMcs γ) {userData : List UInt8}
    (h : (connectResponseContent server userData).length < 2 ^ 16)
    (hdata : userData.length < 2 ^ 16) :
    BerEncoded (mcsWriteConnectResponse server userData) := by
  rw [← List.append_nil (mcsWriteConnectResponse server userData)]
  refine .application 0x66 (parses_berReadLength h) ?_ .nil
  refine .primitive (by decide) (parses_berReadLength (by decide)) (.integer ?_ 0)
  refine berEncoded_mcsWriteDomainParameters _ ?_
  rw [← List.append_nil (berWriteOctetString userData)]
  exact .octetString .nil hdata

lemma berEncoded_mcsWriteConnectInitial (client : RdpMcs γ) {userData : List UInt8}
    (h : (connectInitialContent client userData).length < 2 ^ 16)
    (hdata : userData.length < 2 ^ 16) :
    BerEncoded (mcsWriteConnectInitial client userData) := by
  rw [← List.append_nil (mcsWriteConnectInitial client userData)]
  refine .application 0x65 (parses_berReadLength h) ?_ .nil
  refine .octetString (.octetString ?_ (by decide)) (by decide)
  refine .primitive (by decide) (parses_berReadLength (by decide)) ?_
  refine berEncoded_mcsWriteDomainParameters _ (berEncoded_mcsWriteDomainParameters _
    (berEncoded_mcsWriteDomainParameters _ ?_))
  rw [← List.append_nil (berWriteOctetString userData)]
  exact .octetString .nil hdata

/-- The user data is the rest of a PDU, from the position of the stream on. -/
structure UserDataAt (s : WStream) (pdu userData : List UInt8) : Prop where
  buffer : s.buffer = pdu
  unread : s.unread = userData
  consumed : s.pos + userData.length = pdu.length

lemma mcsRecvConnectInitial_of_sent (gcc : Reader WStream γ) (client server : RdpMcs γ)
    {userData pdu : List UInt8}
    (h : mcsSendConnect (mcsWriteConnectInitial client userData) = some pdu) :
    ∃ s, UserDataAt s pdu userData ∧
      mcsRecvConnectInitial gcc server (ofBytes pdu) =
        connectInitialRest gcc { server with
          targetParameters := client.targetParameters
          minimumParameters := client.minimumParameters
          maximumParameters := client.maximumParameters } s := by
  obtain ⟨hlength, hpdu, hheaders, hwritten⟩ := readDataHeaders_of_sent h
  have hcontent : (connectInitialContent client userData).length < 2 ^ 16 := by
    rw [mcsWriteConnectInitial, List.length_append] at hlength
    omega
  have hread := reads_connectInitial client server hcontent
  generalize hfront : berWriteApplicationTag MCS_TYPE_CONNECT_INITIAL
    (connectInitialContent client userData).length ++ _ = front at hread
  have hsplit : mcsWriteConnectInitial client userData =
      front ++ berWriteOctetString userData := by
    rw [← hfront]
    simp only [mcsWriteConnectInitial, connectInitialContent, List.append_assoc, List.append_nil]
  rw [hsplit, List.length_append] at hlength hpdu
  rw [hsplit] at hwritten
  obtain ⟨n, hn, _, htag, hdata⟩ := readUserDataTag_of_unread
    (unread_seek_append hwritten rfl) (length_lt_of_octetString (by omega))
  refine ⟨_, ⟨rfl, hdata, ?_⟩, all_connect hheaders (hread _ _ hwritten) htag⟩
  simp only [pos_seek, pos_ofBytes]
  omega

lemma mcsRecvConnectResponse_of_sent (gcc : Reader WStream γ) (client server : RdpMcs γ)
    {userData pdu : List UInt8}
    (h : mcsSendConnect (mcsWriteConnectResponse server userData) = some pdu) :
    ∃ s, UserDataAt s pdu userData ∧
      mcsRecvConnectResponse gcc client (ofBytes pdu) =
        connectResponseRest gcc { client with domainParameters := server.domainParameters } s := by
  obtain ⟨hlength, hpdu, hheaders, hwritten⟩ := readDataHeaders_of_sent h
  have hcontent : (connectResponseContent server userData).length < 2 ^ 16 := by
    rw [mcsWriteConnectResponse, List.length_append] at hlength
    omega
  have hread := reads_connectResponse client server hcontent
  generalize hfront : berWriteApplicationTag MCS_TYPE_CONNECT_RESPONSE
    (connectResponseContent server userData).length ++ _ = front at hread
  have hsplit : mcsWriteConnectResponse server userData =
      front ++ berWriteOctetString userData := by
    rw [← hfront]
    simp only [mcsWriteConnectResponse, connectResponseContent, List.append_assoc, List.append_nil]
  rw [hsplit, List.length_append] at hlength hpdu
  rw [hsplit] at hwritten
  obtain ⟨n, hn, htag, _, hdata⟩ := readUserDataTag_of_unread
    (unread_seek_append hwritten rfl) (length_lt_of_octetString (by omega))
  refine ⟨_, ⟨rfl, hdata, ?_⟩, all_connect hheaders (hread _ _ hwritten) htag⟩
  simp only [pos_seek, pos_ofBytes]
  omega

/-! ### What the GCC layer leaves -/

lemma UserDataAt.seek_length {s : WStream} {pdu userData : List UInt8}
    (hs : UserDataAt s pdu userData) : s.seek userData.length = ⟨pdu, pdu.length⟩ := by
  rw [WStream.seek, hs.buffer, hs.consumed]

lemma tpktEnsureStreamConsumed_length (pdu : List UInt8) :
    tpktEnsureStreamConsumed ⟨pdu, pdu.length⟩ = true := by
  simp [tpktEnsureStreamConsumed, remainingLength]

/-- The GCC layer accepts the user data and consumes it: the rest of a Connect-Initial PDU fails
only if the parameters cannot be merged. -/
lemma connectInitialRest_of_consumed {gcc : Reader WStream γ} {mcs : RdpMcs γ} {s : WStream}
    {pdu userData : List UInt8} {g : γ} (hs : UserDataAt s pdu userData)
    (hgcc : gcc mcs.gcc s = (g, some (s.seek userData.length))) :
    connectInitialRest gcc mcs s =
      ({ mcs with
        gcc := g
        domainParameters := (mcsMergeDomainParameters mcs.targetParameters mcs.minimumParameters
          mcs.maximumParameters mcs.domainParameters).1 },
        if (mcsMergeDomainParameters mcs.targetParameters mcs.minimumParameters
          mcs.maximumParameters mcs.domainParameters).2 then some ⟨pdu, pdu.length⟩ else none) := by
  rw [hs.seek_length] at hgcc
  simp only [connectInitialRest, all, Reader.andThen, Reader.into, hgcc, mergeParameters]
  cases (mcsMergeDomainParameters mcs.targetParameters mcs.minimumParameters
    mcs.maximumParameters mcs.domainParameters).2 with
  | false => rfl
  | true => simp [ensureConsumed, tpktEnsureStreamConsumed_length, Reader.skip]

/-- The same of a Connect-Response PDU, where nothing is merged. -/
lemma connectResponseRest_of_consumed {gcc : Reader WStream γ} {mcs : RdpMcs γ} {s : WStream}
    {pdu userData : List UInt8} {g : γ} (hs : UserDataAt s pdu userData)
    (hgcc : gcc mcs.gcc s = (g, some (s.seek userData.length))) :
    connectResponseRest gcc mcs s = ({ mcs with gcc := g }, some ⟨pdu, pdu.length⟩) := by
  rw [hs.seek_length] at hgcc
  simp [connectResponseRest, all, Reader.andThen, Reader.into, hgcc, ensureConsumed,
    tpktEnsureStreamConsumed_length, Reader.skip]

/-! ### Round trip -/

lemma length_lt_of_sent_initial {client : RdpMcs γ} {userData pdu : List UInt8}
    (h : mcsSendConnect (mcsWriteConnectInitial client userData) = some pdu) :
    (connectInitialContent client userData).length < 2 ^ 16 ∧ userData.length < 2 ^ 16 := by
  have hlength := (readDataHeaders_of_sent h).1
  rw [mcsWriteConnectInitial, List.length_append] at hlength
  have hcontent : (connectInitialContent client userData).length < 2 ^ 16 := by omega
  refine ⟨hcontent, length_lt_of_octetString ?_⟩
  simp only [connectInitialContent, List.length_append] at hcontent
  omega

lemma length_lt_of_sent_response {server : RdpMcs γ} {userData pdu : List UInt8}
    (h : mcsSendConnect (mcsWriteConnectResponse server userData) = some pdu) :
    (connectResponseContent server userData).length < 2 ^ 16 ∧ userData.length < 2 ^ 16 := by
  have hlength := (readDataHeaders_of_sent h).1
  rw [mcsWriteConnectResponse, List.length_append] at hlength
  have hcontent : (connectResponseContent server userData).length < 2 ^ 16 := by omega
  refine ⟨hcontent, length_lt_of_octetString ?_⟩
  simp only [connectResponseContent, List.length_append] at hcontent
  omega

/-- Both connect PDUs are read back, for all domain parameters and all user data that fit. The
receiver stores the parameters that were written and hands over the stream with exactly the user
data left. Once the GCC layer has consumed that, the whole PDU is consumed, and a Connect-Initial
PDU is refused only where its parameters cannot be merged. Each length that is written is that of
the content behind it. -/
theorem mcsConnect_roundTrips (gcc : Reader WStream γ) (client server : RdpMcs γ)
    (userData : List UInt8) :
    (∀ pdu, mcsSendConnect (mcsWriteConnectInitial client userData) = some pdu →
      BerEncoded (mcsWriteConnectInitial client userData) ∧
      ∃ s, UserDataAt s pdu userData ∧
        mcsRecvConnectInitial gcc server (ofBytes pdu) =
          connectInitialRest gcc { server with
            targetParameters := client.targetParameters
            minimumParameters := client.minimumParameters
            maximumParameters := client.maximumParameters } s ∧
        ∀ g, gcc server.gcc s = (g, some (s.seek userData.length)) →
          mcsRecvConnectInitial gcc server (ofBytes pdu) =
            ({ targetParameters := client.targetParameters
               minimumParameters := client.minimumParameters
               maximumParameters := client.maximumParameters
               gcc := g
               domainParameters := (mcsMergeDomainParameters client.targetParameters
                 client.minimumParameters client.maximumParameters server.domainParameters).1 },
             if (mcsMergeDomainParameters client.targetParameters client.minimumParameters
               client.maximumParameters server.domainParameters).2
             then some ⟨pdu, pdu.length⟩ else none)) ∧
    ∀ pdu, mcsSendConnect (mcsWriteConnectResponse server userData) = some pdu →
      BerEncoded (mcsWriteConnectResponse server userData) ∧
      ∃ s, UserDataAt s pdu userData ∧
        mcsRecvConnectResponse gcc client (ofBytes pdu) =
          connectResponseRest gcc
            { client with domainParameters := server.domainParameters } s ∧
        ∀ g, gcc client.gcc s = (g, some (s.seek userData.length)) →
          mcsRecvConnectResponse gcc client (ofBytes pdu) =
            ({ client with domainParameters := server.domainParameters, gcc := g },
             some ⟨pdu, pdu.length⟩) := by
  constructor
  · intro pdu h
    obtain ⟨hcontent, hdata⟩ := length_lt_of_sent_initial h
    obtain ⟨s, hs, hrecv⟩ := mcsRecvConnectInitial_of_sent gcc client server h
    refine ⟨berEncoded_mcsWriteConnectInitial client hcontent hdata, s, hs, hrecv, ?_⟩
    intro g hg
    exact hrecv.trans (connectInitialRest_of_consumed hs hg)
  · intro pdu h
    obtain ⟨hcontent, hdata⟩ := length_lt_of_sent_response h
    obtain ⟨s, hs, hrecv⟩ := mcsRecvConnectResponse_of_sent gcc client server h
    refine ⟨berEncoded_mcsWriteConnectResponse server hcontent hdata, s, hs, hrecv, ?_⟩
    intro g hg
    exact hrecv.trans (connectResponseRest_of_consumed hs hg)

/-- `mcs_init_domain_parameters`. -/
def mcsInitDomainParameters (maxChannelIds maxUserIds maxTokenIds maxMCSPDUsize : UInt32) :
    DomainParameters where
  maxChannelIds := maxChannelIds
  maxUserIds := maxUserIds
  maxTokenIds := maxTokenIds
  maxMCSPDUsize := maxMCSPDUsize
  numPriorities := 1
  minThroughput := 0
  maxHeight := 1
  protocolVersion := 2

/-- The parameters of `mcs_new`. -/
def mcsNew (gcc : γ) : RdpMcs γ where
  targetParameters := mcsInitDomainParameters 34 2 0 0xFFFF
  minimumParameters := mcsInitDomainParameters 1 1 1 0x420
  maximumParameters := mcsInitDomainParameters 0xFFFF 0xFC17 0xFFFF 0xFFFF
  domainParameters := mcsInitDomainParameters 0 0 0 0xFFFF
  gcc := gcc

/-- A GCC layer that keeps the user data as it is. -/
def keepUserData : Reader WStream (List UInt8) := fun _ s =>
  (s.unread, some (s.seek s.unread.length))

lemma exists_sent (written : List UInt8) (h : 7 + written.length ≤ 0xFFFF) :
    ∃ pdu, mcsSendConnect written = some pdu := by
  unfold mcsSendConnect
  dsimp only
  rw [if_neg (by omega)]
  exact ⟨_, rfl⟩

/-- Parameters of a new client, and user data that is kept. -/
theorem mcsConnect_roundTrips_mcsNew :
    let mcs : RdpMcs (List UInt8) := mcsNew []
    (∃ pdu, mcsSendConnect (mcsWriteConnectInitial mcs [0, 5]) = some pdu ∧
      mcsRecvConnectInitial keepUserData mcs (ofBytes pdu) =
        ({ mcsNew [0, 5] with domainParameters := mcsInitDomainParameters 34 3 0 65528 },
          some ⟨pdu, pdu.length⟩)) ∧
    ∃ pdu, mcsSendConnect (mcsWriteConnectResponse mcs [0, 5]) = some pdu ∧
      mcsRecvConnectResponse keepUserData mcs (ofBytes pdu) =
        (mcsNew [0, 5], some ⟨pdu, pdu.length⟩) := by
  intro mcs
  obtain ⟨hinitial, hresponse⟩ := mcsConnect_roundTrips keepUserData mcs mcs [0, 5]
  constructor
  · have hmerged : mcsMergeDomainParameters mcs.targetParameters mcs.minimumParameters
        mcs.maximumParameters mcs.domainParameters =
          (mcsInitDomainParameters 34 3 0 65528, true) := by
      decide +kernel
    obtain ⟨pdu, hsent⟩ := exists_sent (mcsWriteConnectInitial mcs [0, 5])
      (by decide +kernel)
    obtain ⟨-, s, hs, -, hrecv⟩ := hinitial pdu hsent
    have hkept : keepUserData mcs.gcc s = ([0, 5], some (s.seek 2)) := by
      rw [keepUserData, hs.unread]
      rfl
    have hread := hrecv [0, 5] hkept
    rw [hmerged] at hread
    exact ⟨pdu, hsent, hread⟩
  · obtain ⟨pdu, hsent⟩ := exists_sent (mcsWriteConnectResponse mcs [0, 5])
      (by decide +kernel)
    obtain ⟨-, s, hs, -, hrecv⟩ := hresponse pdu hsent
    have hkept : keepUserData mcs.gcc s = ([0, 5], some (s.seek 2)) := by
      rw [keepUserData, hs.unread]
      rfl
    exact ⟨pdu, hsent, hrecv [0, 5] hkept⟩

end FreeRdp
