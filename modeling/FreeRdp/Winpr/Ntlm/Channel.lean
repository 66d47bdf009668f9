import Mathlib.Data.UInt
import FreeRdp.Library.Runs
import FreeRdp.Winpr.Ntlm.Seal

/-!
# The sealed channel

Two contexts with the same keys exchange sealed messages in both directions. Each direction has
one key stream; a message takes the same part of it at both ends, whether its signature is right
or not. The order of the calls in the two directions is arbitrary.
-/

namespace FreeRdp

/-! ### The buffers of a message -/

section Buffers

variable {isData isToken : UInt32 → Bool}

/-- What the loop has found so far are buffers of the message, of the right type. -/
structure FoundBuffers (isData isToken : UInt32 → Bool) (pMessage : List SecBuffer)
    (found : Option (Nat × SecBuffer) × Option (Nat × SecBuffer)) : Prop where
  data : ∀ i b, found.1 = some (i, b) → pMessage[i]? = some b ∧ isData b.bufferType = true
  token : ∀ j b, found.2 = some (j, b) → pMessage[j]? = some b ∧ isData b.bufferType = false

lemma ntlmFindBuffers_found {pMessage bufs : List SecBuffer} {index : Nat}
    {found : Option (Nat × SecBuffer) × Option (Nat × SecBuffer)}
    (hbufs : pMessage.drop index = bufs) (h : FoundBuffers isData isToken pMessage found) :
    FoundBuffers isData isToken pMessage (ntlmFindBuffers isData isToken index bufs found) := by
  induction bufs generalizing index found with
  | nil => exact h
  | cons cur bufs ih =>
    have hcur : pMessage[index]? = some cur := by
      rw [← List.head?_drop, hbufs, List.head?_cons]
    have hrest : pMessage.drop (index + 1) = bufs := by
      rw [← List.drop_drop, hbufs, List.drop_one, List.tail_cons]
    refine ih hrest ?_
    split
    · rename_i hdata
      refine ⟨?_, h.token⟩
      rintro i b ⟨rfl, rfl⟩
      exact ⟨hcur, hdata⟩
    · rename_i hdata
      split
      · refine ⟨h.data, ?_⟩
        rintro j b ⟨rfl, rfl⟩
        exact ⟨hcur, by simpa using hdata⟩
      · exact h

lemma ntlmFindBuffers_empty (isData isToken : UInt32 → Bool) (pMessage : List SecBuffer) :
    FoundBuffers isData isToken pMessage
      (ntlmFindBuffers isData isToken 0 pMessage (none, none)) :=
  ntlmFindBuffers_found List.drop_zero ⟨by simp, by simp⟩

/-- The two buffers are different, so each is written without touching the other. -/
lemma FoundBuffers.ne {pMessage : List SecBuffer}
    {found : Option (Nat × SecBuffer) × Option (Nat × SecBuffer)} {i j : Nat} {b c : SecBuffer}
    (h : FoundBuffers isData isToken pMessage found) (hdata : found.1 = some (i, b))
    (htoken : found.2 = some (j, c)) : i ≠ j := by
  rintro rfl
  obtain ⟨hb, hbData⟩ := h.data _ _ hdata
  obtain ⟨hc, hcData⟩ := h.token _ _ htoken
  rw [hb, Option.some.injEq] at hc
  rw [hc, hcData] at hbData
  contradiction

end Buffers

/-! ### One message -/

section Message

variable (crypto : NtlmCrypto) (confidentiality : Bool) (signingKey : List UInt8) (rc4Seal : Rc4)

/-- The data of a sealed message. -/
def sealedData (plain : List UInt8) : List UInt8 :=
  if confidentiality then xorStream (crypto.keyStream rc4Seal.key) rc4Seal.pos plain else plain

/-- The key stream after the data of a message, where its checksum is encrypted. -/
def checksumSeal (plain : List UInt8) : Rc4 :=
  if confidentiality then { rc4Seal with pos := rc4Seal.pos + plain.length } else rc4Seal

/-- The signature of a sealed message. -/
def sealedToken (seqNo : UInt32) (plain : List UInt8) : List UInt8 :=
  ntlmSignature (winprRc4Update crypto (checksumSeal confidentiality rc4Seal plain)
    ((ntlmDigest crypto signingKey seqNo plain).toList.take 8)).1 seqNo

/-- The key stream after a message. -/
def nextSeal (plain : List UInt8) : Rc4 :=
  { rc4Seal with pos := (checksumSeal confidentiality rc4Seal plain).pos + 8 }

variable {crypto confidentiality signingKey rc4Seal}

@[simp] lemma length_sealedData (plain : List UInt8) :
    (sealedData crypto confidentiality rc4Seal plain).length = plain.length := by
  cases confidentiality <;> simp [sealedData]

@[simp] lemma sealedData_sealedData (plain : List UInt8) :
    sealedData crypto confidentiality rc4Seal
      (sealedData crypto confidentiality rc4Seal plain) = plain := by
  cases confidentiality <;> simp [sealedData]

@[simp] lemma checksumSeal_sealedData (plain : List UInt8) :
    checksumSeal confidentiality rc4Seal (sealedData crypto confidentiality rc4Seal plain) =
      checksumSeal confidentiality rc4Seal plain := by
  simp [checksumSeal]

lemma checksumSeal_key (plain : List UInt8) :
    (checksumSeal confidentiality rc4Seal plain).key = rc4Seal.key := by
  cases confidentiality <;> rfl

/-- Eight bytes of the digest go through the key stream. -/
lemma winprRc4Update_digest (seqNo : UInt32) (plain : List UInt8) :
    (winprRc4Update crypto (checksumSeal confidentiality rc4Seal plain)
      ((ntlmDigest crypto signingKey seqNo plain).toList.take 8)).2 =
        nextSeal confidentiality rc4Seal plain := by
  simp [winprRc4Update, nextSeal, checksumSeal_key]

lemma winprRc4Update_data (data : List UInt8) :
    (if confidentiality = true then winprRc4Update crypto rc4Seal data else (data, rc4Seal)) =
      (sealedData crypto confidentiality rc4Seal data,
        checksumSeal confidentiality rc4Seal data) := by
  cases confidentiality <;> rfl

@[simp] lemma length_sealedToken (seqNo : UInt32) (plain : List UInt8) :
    (sealedToken crypto confidentiality signingKey rc4Seal seqNo plain).length = 16 := by
  simp [sealedToken, ntlmSignature, winprRc4Update, dataWriteUInt32]

end Message

section Calls

variable {crypto : NtlmCrypto} {memory : NtlmMemory} {context : NtlmContext}
  {pMessage : List SecBuffer} {i j : Nat} {dataBuffer signatureBuffer : SecBuffer}

/-- `ntlm_EncryptMessage` with enough memory and two writable buffers. -/
lemma ntlmEncryptMessage_eq
    (hfound : ntlmEncryptBuffers pMessage = (some (i, dataBuffer), some (j, signatureBuffer)))
    (hdata : dataBuffer.bufferType &&& SECBUFFER_READONLY = 0)
    (htoken : signatureBuffer.bufferType &&& SECBUFFER_READONLY = 0)
    (hlength : signatureBuffer.pvBuffer.length = 16)
    (hcopies : memory.copies dataBuffer.pvBuffer.length = true) (hhmac : memory.hmac = true)
    (seqNo : UInt32) :
    ntlmEncryptMessage crypto memory context pMessage seqNo =
      (.ok,
        { context with
          sendRc4Seal := nextSeal context.confidentiality context.sendRc4Seal dataBuffer.pvBuffer
          sendSeqNum := context.sendSeqNum + 1 },
        (pMessage.set i { dataBuffer with
            pvBuffer := sealedData crypto context.confidentiality context.sendRc4Seal
              dataBuffer.pvBuffer }).set j
          { signatureBuffer with
            pvBuffer := sealedToken crypto context.confidentiality context.sendSigningKey
              context.sendRc4Seal seqNo dataBuffer.pvBuffer }) := by
  have hdrop : signatureBuffer.pvBuffer.drop 16 = [] := List.drop_eq_nil_of_le hlength.le
  simp only [ntlmEncryptMessage, hfound, hcopies, hhmac, if_true, if_pos hdata, if_pos htoken,
    winprRc4Update_data, winprRc4Update_digest, hdrop, List.append_nil]
  rfl

/-- `ntlm_DecryptMessage` with enough memory, of the data of a sealed message. -/
lemma ntlmDecryptMessage_eq {plain : List UInt8}
    (hfound : ntlmDecryptBuffers pMessage = (some (i, dataBuffer), some (j, signatureBuffer)))
    (hdata : dataBuffer.pvBuffer =
      sealedData crypto context.confidentiality context.recvRc4Seal plain)
    (hcopies : memory.copies plain.length = true) (hhmac : memory.hmac = true) (seqNo : UInt32) :
    ntlmDecryptMessage crypto memory context pMessage seqNo =
      (if signatureBuffer.pvBuffer.take 16 = sealedToken crypto context.confidentiality
          context.recvSigningKey context.recvRc4Seal seqNo plain then .ok else .messageAltered,
        { context with
          recvRc4Seal := nextSeal context.confidentiality context.recvRc4Seal plain
          recvSeqNum := context.recvSeqNum + 1 },
        pMessage.set i { dataBuffer with pvBuffer := plain }) := by
  have hlength : dataBuffer.pvBuffer.length = plain.length := by
    rw [hdata, length_sealedData]
  simp only [ntlmDecryptMessage, hfound, hlength, hcopies, hhmac, if_true, winprRc4Update_data]
  simp only [hdata, sealedData_sealedData, checksumSeal_sealedData, winprRc4Update_digest]
  rw [← sealedToken]
  split <;> simp_all

/-- The fields of the receiving side. -/
def NtlmContext.recvSide (context : NtlmContext) : Bool × List UInt8 × Rc4 :=
  (context.confidentiality, context.recvSigningKey, context.recvRc4Seal)

/-- The fields of the sending side. -/
def NtlmContext.sendSide (context : NtlmContext) : Bool × List UInt8 × Rc4 :=
  (context.confidentiality, context.sendSigningKey, context.sendRc4Seal)

lemma ntlmEncryptMessage_recv (crypto : NtlmCrypto) (memory : NtlmMemory) (context : NtlmContext)
    (pMessage : List SecBuffer) (seqNo : UInt32) :
    (ntlmEncryptMessage crypto memory context pMessage seqNo).2.1.recvSide = context.recvSide := by
  rw [ntlmEncryptMessage]
  split
  · split
    · split <;> rfl
    · rfl
  · rfl

lemma ntlmDecryptMessage_send (crypto : NtlmCrypto) (memory : NtlmMemory) (context : NtlmContext)
    (pMessage : List SecBuffer) (seqNo : UInt32) :
    (ntlmDecryptMessage crypto memory context pMessage seqNo).2.1.sendSide = context.sendSide := by
  rw [ntlmDecryptMessage]
  split
  · split
    · simp only [winprRc4Update_data]
      split
      · split <;> rfl
      · rfl
    · rfl
  · rfl

end Calls

/-! ### Both directions -/

/-- The two ends of the channel. -/
inductive NtlmEnd where
  | client
  | server
  deriving DecidableEq, Repr

/-- The other end. -/
def NtlmEnd.peer : NtlmEnd → NtlmEnd
  | client => server
  | server => client

@[simp] lemma NtlmEnd.peer_peer (e : NtlmEnd) : e.peer.peer = e := by cases e <;> rfl

@[simp] lemma NtlmEnd.peer_ne (e : NtlmEnd) : e.peer ≠ e := by cases e <;> decide

@[simp] lemma NtlmEnd.ne_peer (e : NtlmEnd) : e ≠ e.peer := by cases e <;> decide

/-- A message on its way: what was given to `ntlm_EncryptMessage` and what it made of it. -/
structure SealedMessage where
  seqNo : UInt32
  plain : List UInt8
  data : List UInt8
  token : List UInt8
  deriving DecidableEq, Repr

/-- A message that was received: the token it came with and the results of
`ntlm_DecryptMessage`. -/
structure Delivery where
  message : SealedMessage
  token : List UInt8
  status : SecurityStatus
  data : List UInt8
  deriving DecidableEq, Repr

/-- The plaintext is restored if the token is the one that was made for the message, and an altered
token is noticed. -/
def Delivery.Restored (d : Delivery) : Prop :=
  if d.token = d.message.token then d.status = .ok ∧ d.data = d.message.plain
  else d.status = .messageAltered

/-- The contexts of the two ends, the messages on their way from each end, and those received. -/
structure NtlmLink where
  context : NtlmEnd → NtlmContext
  inFlight : NtlmEnd → List SealedMessage
  delivered : List Delivery

/-- A call at one of the ends. The receiver passes the sequence number of the sender. -/
inductive NtlmCall where
  | encrypt (sender : NtlmEnd) (memory : NtlmMemory) (pMessage : List SecBuffer) (seqNo : UInt32)
  | decrypt (receiver : NtlmEnd) (pMessage : List SecBuffer)
  deriving DecidableEq, Repr

/-- The contents of a buffer of a message. -/
def bufferBytes (pMessage : List SecBuffer) (i : Nat) : List UInt8 :=
  (pMessage[i]?.map SecBuffer.pvBuffer).getD []

/-- The message `ntlm_EncryptMessage` produced, if it did. -/
def sealedMessage (pMessage : List SecBuffer) (seqNo : UInt32)
    (result : SecurityStatus × NtlmContext × List SecBuffer) : List SealedMessage :=
  match result.1, ntlmEncryptBuffers pMessage with
  | .ok, (some (i, dataBuffer), some (j, _)) =>
    [⟨seqNo, dataBuffer.pvBuffer, bufferBytes result.2.2 i, bufferBytes result.2.2 j⟩]
  | _, _ => []

/-- What the receiver has after `ntlm_DecryptMessage` of a message. -/
def delivery (pMessage : List SecBuffer) (message : SealedMessage)
    (result : SecurityStatus × NtlmContext × List SecBuffer) : List Delivery :=
  match ntlmDecryptBuffers pMessage with
  | (some (i, _), some (_, signatureBuffer)) =>
    [⟨message, signatureBuffer.pvBuffer, result.1, bufferBytes result.2.2 i⟩]
  | _ => []

/-- One call. The messages of a direction are received in the order they were sent in. -/
def ntlmStep (crypto : NtlmCrypto) (link : NtlmLink) : NtlmCall → NtlmLink
  | .encrypt sender memory pMessage seqNo =>
    let result := ntlmEncryptMessage crypto memory (link.context sender) pMessage seqNo
    { link with
      context := Function.update link.context sender result.2.1
      inFlight := Function.update link.inFlight sender
        (link.inFlight sender ++ sealedMessage pMessage seqNo result) }
  | .decrypt receiver pMessage =>
    match link.inFlight receiver.peer with
    | [] => link
    | message :: messages =>
      let result := ntlmDecryptMessage crypto ⟨true, true⟩ (link.context receiver) pMessage
        message.seqNo
      { context := Function.update link.context receiver result.2.1
        inFlight := Function.update link.inFlight receiver.peer messages
        delivered := link.delivered ++ delivery pMessage message result }

/-- The buffers a call is made with: a sender has a writable data buffer and a token buffer of 16
bytes, a receiver has the data it got and a token of 16 bytes, which may be another one. -/
def NtlmCall.admits (link : NtlmLink) : NtlmCall → Bool
  | .encrypt _ _ pMessage _ =>
    match ntlmEncryptBuffers pMessage with
    | (some (_, dataBuffer), some (_, signatureBuffer)) =>
      dataBuffer.bufferType &&& SECBUFFER_READONLY == 0 &&
        signatureBuffer.bufferType &&& SECBUFFER_READONLY == 0 &&
        signatureBuffer.pvBuffer.length == 16
    | _ => false
  | .decrypt receiver pMessage =>
    match link.inFlight receiver.peer, ntlmDecryptBuffers pMessage with
    | [], _ => true
    | message :: _, (some (_, dataBuffer), some (_, signatureBuffer)) =>
      dataBuffer.pvBuffer == message.data && signatureBuffer.pvBuffer.length == 16
    | _, _ => false

lemma NtlmCall.admits_encrypt {link : NtlmLink} {sender : NtlmEnd} {memory : NtlmMemory}
    {pMessage : List SecBuffer} {seqNo : UInt32}
    (h : (encrypt sender memory pMessage seqNo).admits link = true) :
    ∃ i dataBuffer j signatureBuffer,
      ntlmEncryptBuffers pMessage = (some (i, dataBuffer), some (j, signatureBuffer)) ∧
        dataBuffer.bufferType &&& SECBUFFER_READONLY = 0 ∧
        signatureBuffer.bufferType &&& SECBUFFER_READONLY = 0 ∧
        signatureBuffer.pvBuffer.length = 16 := by
  rw [admits] at h
  split at h
  · rename_i i dataBuffer j signatureBuffer hfound
    simp only [Bool.and_eq_true, beq_iff_eq] at h
    exact ⟨i, dataBuffer, j, signatureBuffer, hfound, h.1.1, h.1.2, h.2⟩
  · contradiction

lemma NtlmCall.admits_decrypt {link : NtlmLink} {receiver : NtlmEnd} {pMessage : List SecBuffer}
    {message : SealedMessage} {messages : List SealedMessage}
    (h : (decrypt receiver pMessage).admits link = true)
    (hflight : link.inFlight receiver.peer = message :: messages) :
    ∃ i dataBuffer j signatureBuffer,
      ntlmDecryptBuffers pMessage = (some (i, dataBuffer), some (j, signatureBuffer)) ∧
        dataBuffer.pvBuffer = message.data ∧ signatureBuffer.pvBuffer.length = 16 := by
  rw [admits, hflight] at h
  split at h
  · contradiction
  · rename_i heq hfound
    simp only [Bool.and_eq_true, beq_iff_eq] at h
    rw [List.cons.injEq] at heq
    rw [← heq.1] at h
    exact ⟨_, _, _, _, hfound, h.1, h.2⟩
  · contradiction

/-- The contexts of the two ends after the handshake: the same keys and the same setting. -/
structure MatchingContexts (client server : NtlmContext) : Prop where
  isClient : client.server = false
  isServer : server.server = true
  confidentiality : client.confidentiality = server.confidentiality
  clientSigningKey : client.clientSigningKey = server.clientSigningKey
  clientSealingKey : client.clientSealingKey = server.clientSealingKey
  serverSigningKey : client.serverSigningKey = server.serverSigningKey
  serverSealingKey : client.serverSealingKey = server.serverSealingKey

/-- The channel with the seal states of both ends initialised. -/
def ntlmLinkInit (client server : NtlmContext) : NtlmLink where
  context
    | .client => ntlmInitRc4SealStates client
    | .server => ntlmInitRc4SealStates server
  inFlight _ := []
  delivered := []

/-! ### The two ends agree -/

section Invariant

variable {crypto : NtlmCrypto} {link : NtlmLink}

/-- The messages are the sealings of their plaintexts, in this order, from `rc4Seal` on; after
the last of them the key stream is at `rc4Seal'`. -/
def SealedFrom (crypto : NtlmCrypto) (confidentiality : Bool) (signingKey : List UInt8) :
    Rc4 → List SealedMessage → Rc4 → Prop
  | rc4Seal, [], rc4Seal' => rc4Seal = rc4Seal'
  | rc4Seal, m :: messages, rc4Seal' =>
    m.plain.length < 2 ^ 31 ∧ m.data = sealedData crypto confidentiality rc4Seal m.plain ∧
      m.token = sealedToken crypto confidentiality signingKey rc4Seal m.seqNo m.plain ∧
      SealedFrom crypto confidentiality signingKey (nextSeal confidentiality rc4Seal m.plain)
        messages rc4Seal'

lemma SealedFrom.append {confidentiality : Bool} {signingKey : List UInt8}
    {rc4Seal rc4Seal' rc4Seal'' : Rc4} {ms ns : List SealedMessage}
    (hms : SealedFrom crypto confidentiality signingKey rc4Seal ms rc4Seal')
    (hns : SealedFrom crypto confidentiality signingKey rc4Seal' ns rc4Seal'') :
    SealedFrom crypto confidentiality signingKey rc4Seal (ms ++ ns) rc4Seal'' := by
  induction ms generalizing rc4Seal with
  | nil =>
    rw [SealedFrom] at hms
    rw [hms]
    exact hns
  | cons m ms ih => exact ⟨hms.1, hms.2.1, hms.2.2.1, ih hms.2.2.2⟩

/-- One direction: the receiver is where the first message on its way was sealed, the sender where
the last one ended. -/
structure DirectionAgrees (crypto : NtlmCrypto) (sender receiver : NtlmContext)
    (inFlight : List SealedMessage) : Prop where
  confidentiality : sender.confidentiality = receiver.confidentiality
  signingKey : sender.sendSigningKey = receiver.recvSigningKey
  inFlight : SealedFrom crypto receiver.confidentiality receiver.recvSigningKey
    receiver.recvRc4Seal inFlight sender.sendRc4Seal

lemma DirectionAgrees.of_recv {sender receiver receiver' : NtlmContext}
    {inFlight : List SealedMessage} (h : DirectionAgrees crypto sender receiver inFlight)
    (hrecv : receiver'.recvSide = receiver.recvSide) :
    DirectionAgrees crypto sender receiver' inFlight := by
  obtain ⟨hconf, hkey, hseal⟩ : _ ∧ _ ∧ _ := by
    simpa only [NtlmContext.recvSide, Prod.mk.injEq] using hrecv
  refine ⟨h.confidentiality.trans hconf.symm, h.signingKey.trans hkey.symm, ?_⟩
  rw [hconf, hkey, hseal]
  exact h.inFlight

lemma DirectionAgrees.of_send {sender sender' receiver : NtlmContext}
    {inFlight : List SealedMessage} (h : DirectionAgrees crypto sender receiver inFlight)
    (hsend : sender'.sendSide = sender.sendSide) :
    DirectionAgrees crypto sender' receiver inFlight := by
  obtain ⟨hconf, hkey, hseal⟩ : _ ∧ _ ∧ _ := by
    simpa only [NtlmContext.sendSide, Prod.mk.injEq] using hsend
  refine ⟨hconf.trans h.confidentiality, hkey.trans h.signingKey, ?_⟩
  rw [hseal]
  exact h.inFlight

/-- Both directions, and every message received so far. -/
structure LinkAgrees (crypto : NtlmCrypto) (link : NtlmLink) : Prop where
  direction : ∀ e : NtlmEnd, DirectionAgrees crypto (link.context e) (link.context e.peer)
    (link.inFlight e)
  delivered : ∀ d ∈ link.delivered, d.Restored

lemma linkAgrees_init (crypto : NtlmCrypto) {client server : NtlmContext}
    (h : MatchingContexts client server) : LinkAgrees crypto (ntlmLinkInit client server) where
  direction e := by
    cases e with
    | client =>
      refine ⟨?_, ?_, ?_⟩ <;>
        simp [ntlmLinkInit, NtlmEnd.peer, ntlmInitRc4SealStates, h.isClient, h.isServer, SealedFrom,
          h.confidentiality, h.clientSigningKey, h.clientSealingKey]
    | server =>
      refine ⟨?_, ?_, ?_⟩ <;>
        simp [ntlmLinkInit, NtlmEnd.peer, ntlmInitRc4SealStates, h.isClient, h.isServer, SealedFrom,
          h.confidentiality, h.serverSigningKey, h.serverSealingKey]
  delivered := by simp [ntlmLinkInit]

/-- What a successful call of `ntlm_EncryptMessage` sends. -/
lemma DirectionAgrees.encrypt {sender receiver : NtlmContext} {inFlight : List SealedMessage}
    (h : DirectionAgrees crypto sender receiver inFlight) {memory : NtlmMemory}
    {pMessage : List SecBuffer} {i j : Nat} {dataBuffer signatureBuffer : SecBuffer}
    (hfound : ntlmEncryptBuffers pMessage = (some (i, dataBuffer), some (j, signatureBuffer)))
    (hdata : dataBuffer.bufferType &&& SECBUFFER_READONLY = 0)
    (htoken : signatureBuffer.bufferType &&& SECBUFFER_READONLY = 0)
    (hlength : signatureBuffer.pvBuffer.length = 16) (seqNo : UInt32)
    {result : SecurityStatus × NtlmContext × List SecBuffer}
    (hresult : ntlmEncryptMessage crypto memory sender pMessage seqNo = result) :
    DirectionAgrees crypto result.2.1 receiver
      (inFlight ++ sealedMessage pMessage seqNo result) := by
  by_cases hmemory : memory.copies dataBuffer.pvBuffer.length = true ∧ memory.hmac = true
  · obtain ⟨hcopies, hhmac⟩ := hmemory
    rw [ntlmEncryptMessage_eq hfound hdata htoken hlength hcopies hhmac] at hresult
    subst hresult
    have hbufs := ntlmFindBuffers_empty (fun t => t &&& SECBUFFER_DATA != 0)
      (fun t => t &&& SECBUFFER_TOKEN != 0) pMessage
    have hne := hbufs.ne (congrArg Prod.fst hfound) (congrArg Prod.snd hfound)
    have hi : i < pMessage.length :=
      (List.getElem?_eq_some_iff.mp (hbufs.data _ _ (congrArg Prod.fst hfound)).1).1
    have hj : j < pMessage.length :=
      (List.getElem?_eq_some_iff.mp (hbufs.token _ _ (congrArg Prod.snd hfound)).1).1
    refine ⟨h.confidentiality, h.signingKey, h.inFlight.append ?_⟩
    simp only [sealedMessage, hfound, SealedFrom, bufferBytes, h.confidentiality, h.signingKey]
    refine ⟨?_, ?_, ?_, trivial⟩
    · rw [NtlmMemory.copies, Bool.and_eq_true, decide_eq_true_eq] at hcopies
      exact hcopies.2
    · rw [List.getElem?_set_ne hne.symm, List.getElem?_set_self hi]
      rfl
    · rw [List.getElem?_set_self (by rw [List.length_set]; exact hj)]
      rfl
  · -- without memory nothing is sent and the sender is where it was
    have hfailed : ntlmEncryptMessage crypto memory sender pMessage seqNo =
        (.insufficientMemory, sender, pMessage) := by
      rw [ntlmEncryptMessage, hfound]
      split_ifs <;> simp_all
    rw [hfailed] at hresult
    subst hresult
    rw [sealedMessage, List.append_nil]
    exact h

/-- What a call of `ntlm_DecryptMessage` makes of the first message on its way. -/
lemma DirectionAgrees.decrypt {sender receiver : NtlmContext} {message : SealedMessage}
    {messages : List SealedMessage}
    (h : DirectionAgrees crypto sender receiver (message :: messages))
    {pMessage : List SecBuffer} {i j : Nat} {dataBuffer signatureBuffer : SecBuffer}
    (hfound : ntlmDecryptBuffers pMessage = (some (i, dataBuffer), some (j, signatureBuffer)))
    (hdata : dataBuffer.pvBuffer = message.data)
    (hlength : signatureBuffer.pvBuffer.length = 16)
    {result : SecurityStatus × NtlmContext × List SecBuffer}
    (hresult : ntlmDecryptMessage crypto ⟨true, true⟩ receiver pMessage message.seqNo = result) :
    DirectionAgrees crypto sender result.2.1 messages ∧
      ∀ d ∈ delivery pMessage message result, d.Restored := by
  obtain ⟨hfits, hsealed, htoken, hrest⟩ := h.inFlight
  have hcopies : NtlmMemory.copies ⟨true, true⟩ message.plain.length = true := by
    simpa [NtlmMemory.copies] using hfits
  rw [ntlmDecryptMessage_eq hfound (hdata.trans hsealed) hcopies rfl] at hresult
  subst hresult
  refine ⟨⟨h.confidentiality, h.signingKey, hrest⟩, ?_⟩
  have hi : i < pMessage.length :=
    (List.getElem?_eq_some_iff.mp ((ntlmFindBuffers_empty _ _ pMessage).data _ _
      (congrArg Prod.fst hfound)).1).1
  have htake : signatureBuffer.pvBuffer.take 16 = signatureBuffer.pvBuffer :=
    List.take_of_length_le hlength.le
  intro d hd
  simp only [delivery, hfound, List.mem_singleton] at hd
  subst hd
  simp only [Delivery.Restored, htake, htoken, bufferBytes, List.getElem?_set_self hi]
  split
  · exact ⟨rfl, rfl⟩
  · rfl

/-- The step of an end leaves the other direction as it is. -/
lemma LinkAgrees.step (h : LinkAgrees crypto link) {call : NtlmCall}
    (hcall : call.admits link = true) : LinkAgrees crypto (ntlmStep crypto link call) := by
  cases call with
  | encrypt sender memory pMessage seqNo =>
    obtain ⟨i, dataBuffer, j, signatureBuffer, hfound, hdata, htoken, hlength⟩ :=
      NtlmCall.admits_encrypt hcall
    refine ⟨?_, h.delivered⟩
    intro e
    by_cases he : e = sender
    · subst he
      simp only [ntlmStep, Function.update_self, Function.update_of_ne e.peer_ne]
      exact (h.direction e).encrypt hfound hdata htoken hlength seqNo rfl
    · -- in the other direction `sender` is the receiver
      have hpeer : e.peer = sender := by cases e <;> cases sender <;> simp_all [NtlmEnd.peer]
      subst hpeer
      have hframe := ntlmEncryptMessage_recv crypto memory (link.context e.peer) pMessage seqNo
      simp only [ntlmStep, Function.update_self, Function.update_of_ne e.ne_peer]
      exact (h.direction e).of_recv hframe
  | decrypt receiver pMessage =>
    rw [ntlmStep]
    split
    · exact h
    · rename_i message messages hflight
      obtain ⟨i, dataBuffer, j, signatureBuffer, hfound, hdata, hlength⟩ :=
        NtlmCall.admits_decrypt hcall hflight
      have hdirection := h.direction receiver.peer
      rw [hflight, NtlmEnd.peer_peer] at hdirection
      obtain ⟨hnext, hrestored⟩ := hdirection.decrypt hfound hdata hlength rfl
      refine ⟨?_, ?_⟩
      · intro e
        by_cases he : e = receiver
        · subst he
          have hframe := ntlmDecryptMessage_send crypto ⟨true, true⟩ (link.context e) pMessage
            message.seqNo
          simp only [Function.update_self, Function.update_of_ne e.peer_ne,
            Function.update_of_ne e.ne_peer]
          exact (h.direction e).of_send hframe
        · have hpeer : e = receiver.peer := by
            cases e <;> cases receiver <;> simp_all [NtlmEnd.peer]
          subst hpeer
          simp only [Function.update_self, NtlmEnd.peer_peer,
            Function.update_of_ne receiver.peer_ne]
          exact hnext
      · intro d hd
        rw [List.mem_append] at hd
        cases hd with
        | inl hold => exact h.delivered d hold
        | inr hnew => exact hrestored d hnew

end Invariant

/-- In every order of the calls at the two ends, every message that is received with the token made
for it is restored, and every other token is noticed, without harm to the messages after it. -/
theorem ntlmChannel_restores (crypto : NtlmCrypto) {client server : NtlmContext}
    (hmatch : MatchingContexts client server) {calls : List NtlmCall}
    (hcalls : AlongRun (ntlmStep crypto) (fun link call => call.admits link = true)
      (ntlmLinkInit client server) calls) :
    ∀ d ∈ (calls.foldl (ntlmStep crypto) (ntlmLinkInit client server)).delivered, d.Restored := by
  have hagrees : LinkAgrees crypto (calls.foldl (ntlmStep crypto) (ntlmLinkInit client server)) := by
    refine AlongRun.foldl ?_ (linkAgrees_init crypto hmatch) hcalls
    intro link call h hcall
    exact h.step hcall
  exact hagrees.delivered

/-- A small key stream and a digest that depends on the key and on the message. -/
def exampleCrypto : NtlmCrypto where
  hmacMd5 key message := Vector.replicate 16 (key.sum + 3 * message.sum)
  keyStream key pos := key.sum + UInt8.ofNat (7 * pos)

/-- A context before the seal states are initialised. -/
def exampleContext (server : Bool) : NtlmContext where
  server := server
  confidentiality := true
  clientSigningKey := List.replicate 16 1
  clientSealingKey := List.replicate 16 2
  serverSigningKey := List.replicate 16 3
  serverSealingKey := List.replicate 16 4
  sendSigningKey := []
  recvSigningKey := []
  sendSealingKey := []
  recvSealingKey := []
  sendRc4Seal := ⟨[], 0⟩
  recvRc4Seal := ⟨[], 0⟩
  sendSeqNum := 0
  recvSeqNum := 0

/-- Two messages of the client around one of the server; the token of the first is altered. -/
def exampleCalls : List NtlmCall :=
  let token : SecBuffer := ⟨SECBUFFER_TOKEN, List.replicate 16 0⟩
  [.encrypt .client ⟨true, true⟩ [token, ⟨SECBUFFER_DATA, [1, 2, 3]⟩] 0,
    .encrypt .server ⟨true, true⟩ [⟨SECBUFFER_DATA, [9]⟩, token] 0,
    .encrypt .client ⟨true, true⟩ [⟨SECBUFFER_DATA, [4, 5]⟩, token] 1,
    .decrypt .server [⟨SECBUFFER_DATA, [33, 37, 45]⟩, token],
    .decrypt .client [⟨SECBUFFER_DATA, [73]⟩,
      ⟨SECBUFFER_TOKEN, [1, 0, 0, 0, 12, 5, 30, 23, 40, 33, 58, 51, 0, 0, 0, 0]⟩],
    .decrypt .server [⟨SECBUFFER_DATA, [105, 113]⟩,
      ⟨SECBUFFER_TOKEN, [1, 0, 0, 0, 85, 172, 167, 190, 185, 176, 139, 130, 1, 0, 0, 0]⟩]]

theorem ntlmChannel_restores_altered :
    (∀ d ∈ (exampleCalls.foldl (ntlmStep exampleCrypto)
        (ntlmLinkInit (exampleContext false) (exampleContext true))).delivered, d.Restored) ∧
      ((exampleCalls.foldl (ntlmStep exampleCrypto)
        (ntlmLinkInit (exampleContext false) (exampleContext true))).delivered.map (·.status)) =
          [.messageAltered, .ok, .ok] := by
  have hmatch : MatchingContexts (exampleContext false) (exampleContext true) :=
    ⟨rfl, rfl, rfl, rfl, rfl, rfl, rfl⟩
  refine ⟨ntlmChannel_restores exampleCrypto hmatch ?_, ?_⟩
  · decide +kernel
  · decide +kernel

end FreeRdp
