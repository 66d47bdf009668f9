import FreeRdp.Library.KeyStream

/-!
# NTLM message sealing

`ntlm_EncryptMessage` and `ntlm_DecryptMessage` of `ntlm.c`, with the seal states of
`ntlm_init_rc4_seal_states`. The HMAC and the RC4 key stream are parameters: nothing below depends
on which functions they are.

Whether the memory for the copy of the data and for the HMAC is there is an argument of each call.
-/

namespace FreeRdp

/-- The cryptographic functions: HMAC-MD5 of a key and a message, and the RC4 key stream. -/
structure NtlmCrypto where
  hmacMd5 : List UInt8 → List UInt8 → Vector UInt8 16
  keyStream : List UInt8 → Nat → UInt8

/-- `WINPR_RC4_CTX`: the key and the place in its key stream. -/
structure Rc4 where
  key : List UInt8
  pos : Nat
  deriving DecidableEq, Repr

/-- `winpr_RC4_New`. -/
def winprRc4New (key : List UInt8) : Rc4 := ⟨key, 0⟩

/-- `winpr_RC4_Update`. -/
def winprRc4Update (crypto : NtlmCrypto) (ctx : Rc4) (input : List UInt8) : List UInt8 × Rc4 :=
  (xorStream (crypto.keyStream ctx.key) ctx.pos input, { ctx with pos := ctx.pos + input.length })

/-- The part of `NTLM_CONTEXT` that sealing uses. -/
structure NtlmContext where
  server : Bool
  confidentiality : Bool
  clientSigningKey : List UInt8
  clientSealingKey : List UInt8
  serverSigningKey : List UInt8
  serverSealingKey : List UInt8
  sendSigningKey : List UInt8
  recvSigningKey : List UInt8
  sendSealingKey : List UInt8
  recvSealingKey : List UInt8
  sendRc4Seal : Rc4
  recvRc4Seal : Rc4
  sendSeqNum : Nat
  recvSeqNum : Nat
  deriving DecidableEq, Repr

/-- `ntlm_init_rc4_seal_states`. -/
def ntlmInitRc4SealStates (context : NtlmContext) : NtlmContext :=
  if context.server then
    { context with
      sendSigningKey := context.serverSigningKey
      recvSigningKey := context.clientSigningKey
      sendSealingKey := context.clientSealingKey
      recvSealingKey := context.serverSealingKey
      sendRc4Seal := winprRc4New context.serverSealingKey
      recvRc4Seal := winprRc4New context.clientSealingKey }
  else
    { context with
      sendSigningKey := context.clientSigningKey
      recvSigningKey := context.serverSigningKey
      sendSealingKey := context.serverSealingKey
      recvSealingKey := context.clientSealingKey
      sendRc4Seal := winprRc4New context.clientSealingKey
      recvRc4Seal := winprRc4New context.serverSealingKey }

/-- `SecBuffer`; `cbBuffer` is the length of `pvBuffer`. -/
structure SecBuffer where
  bufferType : UInt32
  pvBuffer : List UInt8
  deriving DecidableEq, Repr

def SECBUFFER_DATA : UInt32 := 1
def SECBUFFER_TOKEN : UInt32 := 2
def SECBUFFER_READONLY : UInt32 := 0x80000000

/-- The values of `SECURITY_STATUS` the two functions return. -/
inductive SecurityStatus where
  | ok
  | invalidToken
  | insufficientMemory
  | messageAltered
  deriving DecidableEq, Repr

/-- Whether `malloc` and the HMAC context are to be had. -/
structure NtlmMemory where
  malloc : Bool
  hmac : Bool
  deriving DecidableEq, Repr

/-- The copy of a data buffer: its length is kept in an `int`, and from `2 ^ 31` on `malloc` is
asked for a negative number of bytes. -/
def NtlmMemory.copies (memory : NtlmMemory) (length : Nat) : Bool :=
  memory.malloc && decide (length < 2 ^ 31)

/-- The loop over the buffers of a message: the last data buffer and the last token buffer, each
with its index. -/
def ntlmFindBuffers (isData isToken : UInt32 → Bool) :
    Nat → List SecBuffer → Option (Nat × SecBuffer) × Option (Nat × SecBuffer) →
      Option (Nat × SecBuffer) × Option (Nat × SecBuffer)
  | _, [], found => found
  | index, cur :: bufs, found =>
    ntlmFindBuffers isData isToken (index + 1) bufs
      (if isData cur.bufferType then (some (index, cur), found.2)
        else if isToken cur.bufferType then (found.1, some (index, cur))
        else found)

/-- The buffers `ntlm_EncryptMessage` uses: it tests the bits of the type. -/
def ntlmEncryptBuffers (pMessage : List SecBuffer) :
    Option (Nat × SecBuffer) × Option (Nat × SecBuffer) :=
  ntlmFindBuffers (fun t => t &&& SECBUFFER_DATA != 0) (fun t => t &&& SECBUFFER_TOKEN != 0) 0
    pMessage (none, none)

/-- The buffers `ntlm_DecryptMessage` uses: it compares the type. -/
def ntlmDecryptBuffers (pMessage : List SecBuffer) :
    Option (Nat × SecBuffer) × Option (Nat × SecBuffer) :=
  ntlmFindBuffers (fun t => t == SECBUFFER_DATA) (fun t => t == SECBUFFER_TOKEN) 0 pMessage
    (none, none)

/-- `Data_Write_UINT32`. -/
def dataWriteUInt32 (v : UInt32) : List UInt8 :=
  [v.toUInt8, (v >>> 8).toUInt8, (v >>> 16).toUInt8, (v >>> 24).toUInt8]

/-- The HMAC over the sequence number and the data. -/
def ntlmDigest (crypto : NtlmCrypto) (key : List UInt8) (seqNo : UInt32) (data : List UInt8) :
    Vector UInt8 16 :=
  crypto.hmacMd5 key (dataWriteUInt32 seqNo ++ data)

/-- The concatenation of version, checksum and sequence number. -/
def ntlmSignature (checksum : List UInt8) (seqNo : UInt32) : List UInt8 :=
  dataWriteUInt32 1 ++ checksum ++ dataWriteUInt32 seqNo

/-- `ntlm_EncryptMessage`. -/
def ntlmEncryptMessage (crypto : NtlmCrypto) (memory : NtlmMemory) (context : NtlmContext)
    (pMessage : List SecBuffer) (messageSeqNo : UInt32) :
    SecurityStatus × NtlmContext × List SecBuffer :=
  match ntlmEncryptBuffers pMessage with
  | (some (i, dataBuffer), some (j, signatureBuffer)) =>
    if memory.copies dataBuffer.pvBuffer.length then
      if memory.hmac then
        let data := dataBuffer.pvBuffer
        let digest := ntlmDigest crypto context.sendSigningKey messageSeqNo data
        let (out, rc4Seal) :=
          if dataBuffer.bufferType &&& SECBUFFER_READONLY = 0 then
            if context.confidentiality then winprRc4Update crypto context.sendRc4Seal data
            else (data, context.sendRc4Seal)
          else (data, context.sendRc4Seal)
        let (checksum, rc4Seal) := winprRc4Update crypto rc4Seal (digest.toList.take 8)
        let signature :=
          if signatureBuffer.bufferType &&& SECBUFFER_READONLY = 0 then
            ntlmSignature checksum messageSeqNo ++ signatureBuffer.pvBuffer.drop 16
          else signatureBuffer.pvBuffer
        (.ok, { context with sendRc4Seal := rc4Seal, sendSeqNum := context.sendSeqNum + 1 },
          (pMessage.set i { dataBuffer with pvBuffer := out }).set j
            { signatureBuffer with pvBuffer := signature })
      else (.insufficientMemory, context, pMessage)
    else (.insufficientMemory, context, pMessage)
  | _ => (.invalidToken, context, pMessage)

/-- `ntlm_DecryptMessage`. Without memory for the HMAC the data has been decrypted already. -/
def ntlmDecryptMessage (crypto : NtlmCrypto) (memory : NtlmMemory) (context : NtlmContext)
    (pMessage : List SecBuffer) (messageSeqNo : UInt32) :
    SecurityStatus × NtlmContext × List SecBuffer :=
  match ntlmDecryptBuffers pMessage with
  | (some (i, dataBuffer), some (_, signatureBuffer)) =>
    if memory.copies dataBuffer.pvBuffer.length then
      let (out, rc4Seal) :=
        if context.confidentiality then
          winprRc4Update crypto context.recvRc4Seal dataBuffer.pvBuffer
        else (dataBuffer.pvBuffer, context.recvRc4Seal)
      let message := pMessage.set i { dataBuffer with pvBuffer := out }
      if memory.hmac then
        let digest := ntlmDigest crypto context.recvSigningKey messageSeqNo out
        let (checksum, rc4Seal) := winprRc4Update crypto rc4Seal (digest.toList.take 8)
        let expectedSignature := ntlmSignature checksum messageSeqNo
        let context :=
          { context with recvRc4Seal := rc4Seal, recvSeqNum := context.recvSeqNum + 1 }
        if signatureBuffer.pvBuffer.take 16 ≠ expectedSignature then
          (.messageAltered, context, message)
        else (.ok, context, message)
      else (.insufficientMemory, { context with recvRc4Seal := rc4Seal }, message)
    else (.insufficientMemory, context, pMessage)
  | _ => (.invalidToken, context, pMessage)

end FreeRdp
