import FreeRdp.Core.Tpkt
import FreeRdp.Crypto.Ber

/-!
# MCS connect PDUs

Connect-Initial and Connect-Response of `core/mcs.c`, in a TPKT and a data TPDU. What the GCC layer
makes of the user data is a parameter.
-/

namespace FreeRdp

def MCS_TYPE_CONNECT_INITIAL : Nat := 0x65
def MCS_TYPE_CONNECT_RESPONSE : Nat := 0x66
def MCS_RESULT_ENUM_LENGTH : Nat := 16

/-- `DomainParameters`. -/
structure DomainParameters where
  maxChannelIds : UInt32
  maxUserIds : UInt32
  maxTokenIds : UInt32
  numPriorities : UInt32
  minThroughput : UInt32
  maxHeight : UInt32
  maxMCSPDUsize : UInt32
  protocolVersion : UInt32
  deriving DecidableEq, Repr

/-- `rdpMcs`, with what the GCC layer keeps. -/
structure RdpMcs (γ : Type) where
  domainParameters : DomainParameters
  targetParameters : DomainParameters
  minimumParameters : DomainParameters
  maximumParameters : DomainParameters
  gcc : γ
  deriving DecidableEq, Repr

/-! ### Domain parameters -/

/-- `ber_read_integer` into a member. -/
def readIntegerMember : Reader WStream UInt32 := .store berReadInteger UInt32.ofNat

/-- `mcs_read_domain_parameters`. -/
def mcsReadDomainParameters : Reader WStream DomainParameters :=
  .all [
    .discard berReadSequenceTag,
    .into (.mk (·.maxChannelIds) fun p v => { p with maxChannelIds := v }) readIntegerMember,
    .into (.mk (·.maxUserIds) fun p v => { p with maxUserIds := v }) readIntegerMember,
    .into (.mk (·.maxTokenIds) fun p v => { p with maxTokenIds := v }) readIntegerMember,
    .into (.mk (·.numPriorities) fun p v => { p with numPriorities := v }) readIntegerMember,
    .into (.mk (·.minThroughput) fun p v => { p with minThroughput := v }) readIntegerMember,
    .into (.mk (·.maxHeight) fun p v => { p with maxHeight := v }) readIntegerMember,
    .into (.mk (·.maxMCSPDUsize) fun p v => { p with maxMCSPDUsize := v }) readIntegerMember,
    .into (.mk (·.protocolVersion) fun p v => { p with protocolVersion := v }) readIntegerMember]

/-- The integers of domain parameters. -/
def domainParametersContent (p : DomainParameters) : List UInt8 :=
  berWriteInteger p.maxChannelIds.toNat ++ (berWriteInteger p.maxUserIds.toNat ++
    (berWriteInteger p.maxTokenIds.toNat ++ (berWriteInteger p.numPriorities.toNat ++
      (berWriteInteger p.minThroughput.toNat ++ (berWriteInteger p.maxHeight.toNat ++
        (berWriteInteger p.maxMCSPDUsize.toNat ++ (berWriteInteger p.protocolVersion.toNat ++
          [])))))))

/-- `mcs_write_domain_parameters`. -/
def mcsWriteDomainParameters (p : DomainParameters) : List UInt8 :=
  berWriteSequenceTag (domainParametersContent p).length ++ domainParametersContent p

/-- `mcs_merge_domain_parameters`: the parameters as far as they have been merged, and whether they
could be. -/
def mcsMergeDomainParameters (target minimum maximum out : DomainParameters) :
    DomainParameters × Bool :=
  if ¬(target.maxChannelIds ≥ 4 ∨ maximum.maxChannelIds ≥ 4) then (out, false)
  else
    let out := { out with
      maxChannelIds := if target.maxChannelIds ≥ 4 then target.maxChannelIds else 4 }
    if ¬(target.maxUserIds ≥ 3 ∨ maximum.maxUserIds ≥ 3) then (out, false)
    else
      let out := { out with
        maxUserIds := if target.maxUserIds ≥ 3 then target.maxUserIds else 3
        maxTokenIds := target.maxTokenIds }
      if ¬minimum.numPriorities ≤ 1 then (out, false)
      else
        let out := { out with numPriorities := 1, minThroughput := target.minThroughput }
        if ¬(target.maxHeight = 1 ∨ minimum.maxHeight ≤ 1) then (out, false)
        else
          let out := { out with maxHeight := 1 }
          let size : Option UInt32 :=
            if target.maxMCSPDUsize ≥ 1024 then
              if target.maxMCSPDUsize ≤ 65528 then some target.maxMCSPDUsize
              else if minimum.maxMCSPDUsize ≥ 124 ∧ minimum.maxMCSPDUsize ≤ 65528 then some 65528
              else none
            else if maximum.maxMCSPDUsize ≥ 124 then some maximum.maxMCSPDUsize
            else none
          match size with
          | none => (out, false)
          | some size =>
            let out := { out with maxMCSPDUsize := size }
            if ¬(target.protocolVersion = 2 ∨
                minimum.protocolVersion ≤ 2 ∧ maximum.protocolVersion ≥ 2) then (out, false)
            else ({ out with protocolVersion := 2 }, true)

/-! ### PDUs -/

variable {γ : Type}

/-- The headers of a data PDU. -/
def readDataHeaders (s : WStream) : Option (Nat × WStream) :=
  match tpktReadHeader s with
  | none => none
  | some (tlength, s) => tpduReadData s tlength

/-- An octet string that is passed over. -/
def skipOctetString (s : WStream) : Option (Unit × WStream) :=
  match berReadOctetStringTag s with
  | none => none
  | some (length, s) => if s.remainingLength < length then none else some ((), s.seek length)

/-- The tag and length of the user data, which must be there. -/
def readUserDataTag (s : WStream) : Option (Nat × WStream) :=
  match berReadOctetStringTag s with
  | none => none
  | some (length, s) => if s.remainingLength < length then none else some (length, s)

/-- The target, minimum and maximum parameters are merged into those of the domain. -/
def mergeParameters : Reader WStream (RdpMcs γ) := fun mcs s =>
  let (domain, merged) := mcsMergeDomainParameters mcs.targetParameters mcs.minimumParameters
    mcs.maximumParameters mcs.domainParameters
  ({ mcs with domainParameters := domain }, if merged then some s else none)

/-- `tpkt_ensure_stream_consumed`, at the end of a PDU. -/
def ensureConsumed : Reader WStream (RdpMcs γ) := fun mcs s =>
  (mcs, if tpktEnsureStreamConsumed s then some s else none)

/-- `mcs_recv_connect_initial`. `gcc` is `gcc_read_conference_create_request`. -/
def mcsRecvConnectInitial (gcc : Reader WStream γ) : Reader WStream (RdpMcs γ) :=
  .all [
    .discard readDataHeaders,
    .discard (berReadApplicationTag MCS_TYPE_CONNECT_INITIAL),
    .discard skipOctetString,
    .discard skipOctetString,
    .discard berReadBOOL,
    .into (.mk (·.targetParameters) fun m v => { m with targetParameters := v })
      mcsReadDomainParameters,
    .into (.mk (·.minimumParameters) fun m v => { m with minimumParameters := v })
      mcsReadDomainParameters,
    .into (.mk (·.maximumParameters) fun m v => { m with maximumParameters := v })
      mcsReadDomainParameters,
    .discard readUserDataTag,
    .into (.mk (·.gcc) fun m v => { m with gcc := v }) gcc,
    mergeParameters,
    ensureConsumed]

def callingDomainSelector : List UInt8 := [1]
def calledDomainSelector : List UInt8 := [1]

/-- The content of a Connect-Initial PDU. -/
def connectInitialContent (mcs : RdpMcs γ) (userData : List UInt8) : List UInt8 :=
  berWriteOctetString callingDomainSelector ++ (berWriteOctetString calledDomainSelector ++
    (berWriteBOOL true ++ (mcsWriteDomainParameters mcs.targetParameters ++
      (mcsWriteDomainParameters mcs.minimumParameters ++
        (mcsWriteDomainParameters mcs.maximumParameters ++ berWriteOctetString userData)))))

/-- `mcs_write_connect_initial`. -/
def mcsWriteConnectInitial (mcs : RdpMcs γ) (userData : List UInt8) : List UInt8 :=
  berWriteApplicationTag MCS_TYPE_CONNECT_INITIAL (connectInitialContent mcs userData).length ++
    connectInitialContent mcs userData

/-- `mcs_recv_connect_response`. `gcc` is `gcc_read_conference_create_response`. -/
def mcsRecvConnectResponse (gcc : Reader WStream γ) : Reader WStream (RdpMcs γ) :=
  .all [
    .discard readDataHeaders,
    .discard (berReadApplicationTag MCS_TYPE_CONNECT_RESPONSE),
    .discard (berReadEnumerated MCS_RESULT_ENUM_LENGTH),
    .discard berReadInteger,
    .into (.mk (·.domainParameters) fun m v => { m with domainParameters := v })
      mcsReadDomainParameters,
    .discard berReadOctetStringTag,
    .into (.mk (·.gcc) fun m v => { m with gcc := v }) gcc,
    ensureConsumed]

/-- The content of a Connect-Response PDU. -/
def connectResponseContent (mcs : RdpMcs γ) (userData : List UInt8) : List UInt8 :=
  berWriteEnumerated 0 ++ (berWriteInteger 0 ++ (mcsWriteDomainParameters mcs.domainParameters ++
    berWriteOctetString userData))

/-- `mcs_write_connect_response`. -/
def mcsWriteConnectResponse (mcs : RdpMcs γ) (userData : List UInt8) : List UInt8 :=
  berWriteApplicationTag MCS_TYPE_CONNECT_RESPONSE (connectResponseContent mcs userData).length ++
    connectResponseContent mcs userData

/-- The PDU that `mcs_send_connect_initial` and `mcs_send_connect_response` hand to the transport:
the headers and what has been written, if it is not too long for them. -/
def mcsSendConnect (written : List UInt8) : Option (List UInt8) :=
  let length := 7 + written.length
  if length > 0xFFFF then none else some (tpktWriteHeader length ++ tpduWriteData ++ written)

/-- What is left to do for a Connect-Initial PDU once the user data is reached. -/
def connectInitialRest (gcc : Reader WStream γ) : Reader WStream (RdpMcs γ) :=
  .all [.into (.mk (·.gcc) fun m v => { m with gcc := v }) gcc, mergeParameters, ensureConsumed]

/-- What is left to do for a Connect-Response PDU once the user data is reached. -/
def connectResponseRest (gcc : Reader WStream γ) : Reader WStream (RdpMcs γ) :=
  .all [.into (.mk (·.gcc) fun m v => { m with gcc := v }) gcc, ensureConsumed]

end FreeRdp
