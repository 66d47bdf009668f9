import FreeRdp.Winpr.Watched

/-!
# The headers of RPC PDUs

`rts_read_pdu_header` of `rts.c`: the common header and, by the type of the PDU, the fields behind
it, counted lists and the security trailer, which is looked for from the end of the fragment. The
structures of `rpc.h` are packed, and a pointer has eight bytes.
-/

namespace FreeRdp

open Attempt WatchedStream

def PTYPE_REQUEST : Nat := 0x00
def PTYPE_RESPONSE : Nat := 0x02
def PTYPE_FAULT : Nat := 0x03
def PTYPE_CANCEL_ACK : Nat := 0x0A
def PTYPE_BIND : Nat := 0x0B
def PTYPE_BIND_ACK : Nat := 0x0C
def PTYPE_BIND_NAK : Nat := 0x0D
def PTYPE_ALTER_CONTEXT : Nat := 0x0E
def PTYPE_ALTER_CONTEXT_RESP : Nat := 0x0F
def PTYPE_RPC_AUTH_3 : Nat := 0x10
def PTYPE_SHUTDOWN : Nat := 0x11
def PTYPE_ORPHANED : Nat := 0x13
def PTYPE_RTS : Nat := 0x14

/-- `sizeof(rpcconn_common_hdr_t)`, and `RPC_COMMON_FIELDS_LENGTH`. -/
def RPC_COMMON_FIELDS_LENGTH : Nat := 16

/-- `sizeof(auth_verifier_co_t)`: eight bytes and a pointer. -/
def SIZEOF_AUTH_VERIFIER_CO : Nat := 16

/-- `sizeof(p_cont_list_t)` and `sizeof(p_result_list_t)`: four bytes and a pointer. -/
def SIZEOF_P_LIST : Nat := 12

/-- `sizeof(port_any_t)`: two bytes and a pointer. -/
def SIZEOF_PORT_ANY : Nat := 10

/-- `sizeof(p_uuid_t)`. -/
def SIZEOF_P_UUID : Nat := 16

/-- `rpcconn_common_hdr_t`. -/
structure RpcConnCommonHdr where
  rpcVers : Nat
  rpcVersMinor : Nat
  ptype : Nat
  pfcFlags : Nat
  packedDrep : List UInt8
  fragLength : Nat
  authLength : Nat
  callId : Nat
  deriving DecidableEq, Repr

/-- `rpcconn_hdr_t`, with the fields that somebody looks at; those which a type of PDU does not have
are zero. `headerEnd` is not in the source: it is where the header in front of a trailer ends. -/
structure RpcConnHdr where
  common : RpcConnCommonHdr
  maxXmitFrag : Nat := 0
  maxRecvFrag : Nat := 0
  allocHint : Nat := 0
  status : Nat := 0
  flags : Nat := 0
  numberOfCommands : Nat := 0
  authPadLength : Nat := 0
  headerEnd : Option Nat := none
  deriving DecidableEq, Repr

/-- `rpc_offset_align`, for an alignment that is a power of two. -/
def rpcOffsetAlign (offset alignment : Nat) : Nat := (offset + alignment - 1) / alignment * alignment

/-- `rts_align_stream`. -/
def rtsAlignStream (alignment : Nat) : Attempt WatchedStream Unit := do
  let pos ← gets fun s => s.stream.pos
  safeSeek (rpcOffsetAlign pos alignment - pos)

/-- `rts_read_common_pdu_header`. -/
def rtsReadCommonPduHeader : Attempt WatchedStream RpcConnCommonHdr := do
  need RPC_COMMON_FIELDS_LENGTH
  let rpcVers ← takeUInt8
  let rpcVersMinor ← takeUInt8
  let ptype ← takeUInt8
  let pfcFlags ← takeUInt8
  let packedDrep ← takeBytes 4
  let fragLength ← takeUInt16
  let authLength ← takeUInt16
  let callId ← takeUInt32
  require (RPC_COMMON_FIELDS_LENGTH ≤ fragLength)
  need (fragLength - RPC_COMMON_FIELDS_LENGTH)
  pure ⟨rpcVers, rpcVersMinor, ptype, pfcFlags, packedDrep, fragLength, authLength, callId⟩

/-! ### The security trailer -/

/-- `rts_read_auth_verifier_no_checks`: `auth_pad_length`, and the position before. -/
def rtsReadAuthVerifierNoChecks (header : RpcConnCommonHdr) : Attempt WatchedStream (Nat × Nat) := do
  assert (header.authLength < header.fragLength)
  let startPos ← gets fun s => s.stream.pos
  let expected ← computed ((header.fragLength : Int) - header.authLength - 8)
  setPosition expected
  need SIZEOF_AUTH_VERIFIER_CO
  let _ ← takeUInt8
  let _ ← takeUInt8
  let authPadLength ← takeUInt8
  let _ ← takeUInt8
  let _ ← takeUInt32
  Attempt.when (header.authLength ≠ 0) do
    let ptr ← gets fun s => s.stream.pos
    safeSeek header.authLength
    touch ptr header.authLength
  pure (authPadLength, startPos)

/-- `rts_read_auth_verifier`. -/
def rtsReadAuthVerifier (header : RpcConnCommonHdr) : Attempt WatchedStream (Nat × Nat) := do
  let (authPadLength, pos) ← rtsReadAuthVerifierNoChecks header
  let expected ← computed ((header.fragLength : Int) - header.authLength - 8)
  assert (pos + authPadLength = expected)
  pure (authPadLength, pos)

/-- `rts_read_auth_verifier_with_stub`; nothing is left of a stub of no bytes, which is an error. -/
def rtsReadAuthVerifierWithStub (header : RpcConnCommonHdr) (allocHint : Nat) :
    Attempt WatchedStream (Nat × Nat) := do
  let (authPadLength, pos) ← rtsReadAuthVerifierNoChecks header
  Attempt.when (0 < allocHint) do
    let size ← computed ((header.fragLength : Int) - header.authLength - 8 - authPadLength - pos)
    require (size ≠ 0)
    touch pos size
  pure (authPadLength, pos)

/-! ### Parts of a header -/

/-- `rts_read_version`. -/
def rtsReadVersion : Attempt WatchedStream Unit := do
  need 2
  let _ ← takeUInt8
  let _ ← takeUInt8
  pure ()

/-- `rts_read_supported_versions`. -/
def rtsReadSupportedVersions : Attempt WatchedStream Unit := do
  need 1
  let nProtocols ← takeUInt8
  let _ ← times rtsReadVersion nProtocols
  pure ()

/-- `rts_read_port_any`. -/
def rtsReadPortAny : Attempt WatchedStream Unit := do
  need 2
  let length ← takeUInt16
  Attempt.when (length ≠ 0) do
    let ptr ← gets fun s => s.stream.pos
    safeSeek length
    touch ptr length

/-- `rts_read_uuid`. -/
def rtsReadUuid : Attempt WatchedStream Unit := do
  need SIZEOF_P_UUID
  let _ ← takeUInt32
  let _ ← takeUInt16
  let _ ← takeUInt16
  let _ ← takeUInt8
  let _ ← takeUInt8
  let _ ← takeBytes 6
  pure ()

/-- `rts_read_syntax_id`. -/
def rtsReadSyntaxId : Attempt WatchedStream Unit := do
  rtsReadUuid
  need 4
  let _ ← takeUInt32
  pure ()

/-- `rts_read_context_elem`. -/
def rtsReadContextElem : Attempt WatchedStream Unit := do
  need 4
  let _ ← takeUInt16
  let nTransferSyn ← takeUInt8
  let _ ← takeUInt8
  rtsReadSyntaxId
  let _ ← times rtsReadSyntaxId nTransferSyn
  pure ()

/-- `rts_read_context_list`. -/
def rtsReadContextList : Attempt WatchedStream Unit := do
  need 4
  let nContextElem ← takeUInt8
  let _ ← takeUInt8
  let _ ← takeUInt16
  let _ ← times rtsReadContextElem nContextElem
  pure ()

/-- `rts_read_result`: two bytes are checked for, four are read. -/
def rtsReadResult : Attempt WatchedStream Unit := do
  need 2
  let _ ← takeUInt16
  let _ ← takeUInt16
  rtsReadSyntaxId

/-- `rts_read_result_list`. -/
def rtsReadResultList : Attempt WatchedStream Unit := do
  need 4
  let nResults ← takeUInt8
  let _ ← takeUInt8
  let _ ← takeUInt16
  let _ ← times rtsReadResult nResults
  pure ()

/-! ### The types of PDUs -/

/-- A list of contexts, and the trailer. -/
def rtsReadPduContexts (common : RpcConnCommonHdr) : Attempt WatchedStream RpcConnHdr := do
  need (8 + SIZEOF_P_LIST + SIZEOF_AUTH_VERIFIER_CO)
  let maxXmitFrag ← takeUInt16
  let maxRecvFrag ← takeUInt16
  let _ ← takeUInt32
  rtsReadContextList
  let (authPadLength, pos) ← rtsReadAuthVerifier common
  pure { common, maxXmitFrag, maxRecvFrag, authPadLength, headerEnd := some pos }

/-- `rts_read_pdu_alter_context`. -/
def rtsReadPduAlterContext : RpcConnCommonHdr → Attempt WatchedStream RpcConnHdr :=
  rtsReadPduContexts

/-- `rts_read_pdu_bind`. -/
def rtsReadPduBind : RpcConnCommonHdr → Attempt WatchedStream RpcConnHdr := rtsReadPduContexts

/-- An address, a list of results, and the trailer. -/
def rtsReadPduResults (common : RpcConnCommonHdr) : Attempt WatchedStream RpcConnHdr := do
  need (8 + SIZEOF_PORT_ANY + SIZEOF_P_LIST + SIZEOF_AUTH_VERIFIER_CO)
  let maxXmitFrag ← takeUInt16
  let maxRecvFrag ← takeUInt16
  let _ ← takeUInt32
  rtsReadPortAny
  rtsAlignStream 4
  rtsReadResultList
  let (authPadLength, pos) ← rtsReadAuthVerifier common
  pure { common, maxXmitFrag, maxRecvFrag, authPadLength, headerEnd := some pos }

/-- `rts_read_pdu_alter_context_response`. -/
def rtsReadPduAlterContextResponse : RpcConnCommonHdr → Attempt WatchedStream RpcConnHdr :=
  rtsReadPduResults

/-- `rts_read_pdu_bind_ack`. -/
def rtsReadPduBindAck : RpcConnCommonHdr → Attempt WatchedStream RpcConnHdr := rtsReadPduResults

/-- `rts_read_pdu_bind_nak`. -/
def rtsReadPduBindNak (common : RpcConnCommonHdr) : Attempt WatchedStream RpcConnHdr := do
  need (2 + 9)
  let _ ← takeUInt16
  rtsReadSupportedVersions
  pure { common }

/-- `rts_read_pdu_auth3`. -/
def rtsReadPduAuth3 (common : RpcConnCommonHdr) : Attempt WatchedStream RpcConnHdr := do
  need (4 + SIZEOF_AUTH_VERIFIER_CO)
  let maxXmitFrag ← takeUInt16
  let maxRecvFrag ← takeUInt16
  let (authPadLength, pos) ← rtsReadAuthVerifier common
  pure { common, maxXmitFrag, maxRecvFrag, authPadLength, headerEnd := some pos }

/-- `rts_read_pdu_fault`. -/
def rtsReadPduFault (common : RpcConnCommonHdr) : Attempt WatchedStream RpcConnHdr := do
  need (12 + 8 + SIZEOF_AUTH_VERIFIER_CO)
  let allocHint ← takeUInt32
  let _ ← takeUInt16
  let _ ← takeUInt8
  let _ ← takeUInt8
  let status ← takeUInt32
  let (authPadLength, pos) ← rtsReadAuthVerifierWithStub common allocHint
  pure { common, allocHint, status, authPadLength, headerEnd := some pos }

/-- A trailer and nothing else. -/
def rtsReadPduTrailer (common : RpcConnCommonHdr) : Attempt WatchedStream RpcConnHdr := do
  need SIZEOF_AUTH_VERIFIER_CO
  let (authPadLength, pos) ← rtsReadAuthVerifier common
  pure { common, authPadLength, headerEnd := some pos }

/-- `rts_read_pdu_cancel_ack`. -/
def rtsReadPduCancelAck : RpcConnCommonHdr → Attempt WatchedStream RpcConnHdr := rtsReadPduTrailer

/-- `rts_read_pdu_orphaned`. -/
def rtsReadPduOrphaned : RpcConnCommonHdr → Attempt WatchedStream RpcConnHdr := rtsReadPduTrailer

/-- `rts_read_pdu_request`. -/
def rtsReadPduRequest (common : RpcConnCommonHdr) : Attempt WatchedStream RpcConnHdr := do
  need (8 + SIZEOF_P_UUID + 8 + SIZEOF_AUTH_VERIFIER_CO)
  let allocHint ← takeUInt32
  let _ ← takeUInt16
  let _ ← takeUInt16
  rtsReadUuid
  let (authPadLength, pos) ← rtsReadAuthVerifierWithStub common allocHint
  pure { common, allocHint, authPadLength, headerEnd := some pos }

/-- `rts_read_pdu_response`. -/
def rtsReadPduResponse (common : RpcConnCommonHdr) : Attempt WatchedStream RpcConnHdr := do
  need (8 + 8 + SIZEOF_AUTH_VERIFIER_CO)
  let allocHint ← takeUInt32
  let _ ← takeUInt16
  let _ ← takeUInt8
  let _ ← takeUInt8
  rtsAlignStream 8
  let (authPadLength, pos) ← rtsReadAuthVerifierWithStub common allocHint
  pure { common, allocHint, authPadLength, headerEnd := some pos }

/-- `rts_read_pdu_rts`. -/
def rtsReadPduRts (common : RpcConnCommonHdr) : Attempt WatchedStream RpcConnHdr := do
  need 4
  let flags ← takeUInt16
  let numberOfCommands ← takeUInt16
  pure { common, flags, numberOfCommands }

/-- The fields behind the common header. The other types are not handled. -/
def rtsReadPduBody (common : RpcConnCommonHdr) : Attempt WatchedStream RpcConnHdr :=
  if common.ptype = PTYPE_ALTER_CONTEXT then rtsReadPduAlterContext common
  else if common.ptype = PTYPE_ALTER_CONTEXT_RESP then rtsReadPduAlterContextResponse common
  else if common.ptype = PTYPE_BIND then rtsReadPduBind common
  else if common.ptype = PTYPE_BIND_ACK then rtsReadPduBindAck common
  else if common.ptype = PTYPE_BIND_NAK then rtsReadPduBindNak common
  else if common.ptype = PTYPE_RPC_AUTH_3 then rtsReadPduAuth3 common
  else if common.ptype = PTYPE_CANCEL_ACK then rtsReadPduCancelAck common
  else if common.ptype = PTYPE_FAULT then rtsReadPduFault common
  else if common.ptype = PTYPE_ORPHANED then rtsReadPduOrphaned common
  else if common.ptype = PTYPE_REQUEST then rtsReadPduRequest common
  else if common.ptype = PTYPE_RESPONSE then rtsReadPduResponse common
  else if common.ptype = PTYPE_RTS then rtsReadPduRts common
  else if common.ptype = PTYPE_SHUTDOWN then pure { common }
  else fail

/-- `rts_read_pdu_header`. -/
def rtsReadPduHeader : Attempt WatchedStream RpcConnHdr := do
  let common ← rtsReadCommonPduHeader
  rtsReadPduBody common

end FreeRdp
