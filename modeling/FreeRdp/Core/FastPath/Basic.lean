import FreeRdp.Core.Bulk

/-!
# Fast-path updates

The two ends of the fast-path output channel in `fastpath.c`. The server cuts an update into
fragments, compresses and encrypts each one and writes it as a PDU of its own; the client reads
the PDUs, undoes both, collects the fragments and hands the finished update on.

Standard RDP security (`security.c` and the ciphers below it) is an argument, like the bulk codec.
-/

namespace FreeRdp

def FASTPATH_MAX_PACKET_SIZE : Nat := 0x3FFF

def FASTPATH_OUTPUT_SECURE_CHECKSUM : Nat := 1
def FASTPATH_OUTPUT_ENCRYPTED : Nat := 2
def FASTPATH_OUTPUT_COMPRESSION_USED : Nat := 2

/-- `FASTPATH_UPDATETYPE`. -/
inductive FastPathUpdateType where
  | orders | bitmap | palette | synchronize | surfcmds | ptrNull | ptrDefault | ptrPosition
  | color | cached | pointer | largePointer
  deriving DecidableEq, Repr

/-- The code of an update type. -/
def FastPathUpdateType.code : FastPathUpdateType → Nat
  | orders => 0x0
  | bitmap => 0x1
  | palette => 0x2
  | synchronize => 0x3
  | surfcmds => 0x4
  | ptrNull => 0x5
  | ptrDefault => 0x6
  | ptrPosition => 0x8
  | color => 0x9
  | cached => 0xA
  | pointer => 0xB
  | largePointer => 0xC

/-- `FASTPATH_FRAGMENT`. -/
inductive FastPathFragment where
  | single | last | first | next
  deriving DecidableEq, Repr

namespace FastPathFragment

def code : FastPathFragment → Nat
  | single => 0
  | last => 1
  | first => 2
  | next => 3

/-- The fragment with a two bit code. -/
def ofCode (n : Nat) : FastPathFragment :=
  if n = 0 then single else if n = 1 then last else if n = 2 then first else next

end FastPathFragment

/-- The security functions of both directions, with the states of their keys. `protect` is the
sender's signature (over the data without its padding) and encryption of the data; `unprotect` is the
receiver's decryption and signature check, `none` when it refuses. -/
structure FastPathSecurity (κ τ : Type*) where
  protect : κ → Bool → List UInt8 → Nat → List UInt8 × List UInt8 × κ
  unprotect : τ → Bool → List UInt8 → Nat → List UInt8 → Option (List UInt8) × τ

/-- What the settings and the security state of a session say about fast-path output. Both ends
see the same `MultifragMaxRequestSize`, which the client announced. -/
structure FastPathSettings where
  compressionEnabled : Bool
  compressionLevel : Nat
  multifragMaxRequestSize : Nat
  fastPathOutput : Bool
  doCrypt : Bool
  doSecureChecksum : Bool
  /-- `EncryptionMethods == ENCRYPTION_METHOD_FIPS` -/
  fips : Bool
  deriving DecidableEq, Repr

/-! ### The sender -/

/-- `FASTPATH_UPDATE_HEADER`. -/
structure FastPathUpdateHeader where
  updateCode : Nat
  fragmentation : FastPathFragment
  compression : Nat
  compressionFlags : Nat
  size : Nat
  deriving DecidableEq, Repr

/-- `fastpath_write_update_header`. -/
def fastpathWriteUpdateHeader (h : FastPathUpdateHeader) : List UInt8 :=
  bytesUInt8 ((h.updateCode &&& 0x0F) ||| (h.fragmentation.code &&& 0x03) <<< 4 |||
      (h.compression &&& 0x03) <<< 6) ++
    (if h.compression ≠ 0 then bytesUInt8 h.compressionFlags else []) ++ bytesUInt16 h.size

/-- `secFlags` of the PDU header. -/
def fastpathSecFlags (settings : FastPathSettings) : Nat :=
  if settings.doCrypt then
    FASTPATH_OUTPUT_ENCRYPTED |||
      (if settings.doSecureChecksum then FASTPATH_OUTPUT_SECURE_CHECKSUM else 0)
  else 0

/-- `fastpath_get_update_pdu_header_size`. -/
def fastpathGetUpdatePduHeaderSize (settings : FastPathSettings) : Nat :=
  if fastpathSecFlags settings ≠ 0 then if settings.fips then 15 else 11 else 3

/-- The first three bytes that `fastpath_write_update_pdu_header` writes; the action is 0. -/
def fastpathWriteUpdatePduHeader (secFlags length : Nat) : List UInt8 :=
  bytesUInt8 ((secFlags &&& 0x03) <<< 6) ++ bytesUInt8 (0x80 ||| length >>> 8) ++
    bytesUInt8 (length &&& 0xFF)

section Session

variable {σ ρ κ τ : Type*} (codec : BulkCodec σ ρ) (security : FastPathSecurity κ τ)
  (settings : FastPathSettings)

/-- The padding of a FIPS encrypted fragment. -/
def fastpathPad (dataSize : Nat) : Nat :=
  if settings.doCrypt && settings.fips then
    if 8 - dataSize % 8 = 8 then 0 else 8 - dataSize % 8
  else 0

/-- The security part of a fragment: header, FIPS information, signature and encrypted data. -/
def fastpathWritePdu (keys : κ) (data : List UInt8) : List UInt8 × κ :=
  let pad := fastpathPad settings data.length
  let length := data.length + fastpathGetUpdatePduHeaderSize settings + pad
  let header := fastpathWriteUpdatePduHeader (fastpathSecFlags settings) length
  if settings.doCrypt then
    let (signature, cipher, keys) :=
      security.protect keys settings.doSecureChecksum (data ++ List.replicate pad 0) pad
    (header ++ (if settings.fips then [0x10, 0x00, 0x01, UInt8.ofNat pad] else []) ++ signature ++
      cipher, keys)
  else (header ++ data, keys)

/-- The compression of a fragment: the header fields and the bytes that stand for `src`. -/
def fastpathCompressFragment (compress : Bool) (context : σ) (src : List UInt8) :
    Nat × Nat × List UInt8 × σ :=
  if compress then
    match bulkCompress codec settings.compressionLevel context src with
    | (some (dst, flags), context) =>
      if flags ≠ 0 then (FASTPATH_OUTPUT_COMPRESSION_USED, flags, dst, context)
      else (0, 0, src, context)
    | (none, context) => (0, 0, src, context)
  else (0, 0, src, context)

/-- `maxLength` of `fastpath_send_update_pdu`. -/
def fastpathMaxLength (compress : Bool) : Nat :=
  let maxLength := FASTPATH_MAX_PACKET_SIZE - 20
  if compress then min maxLength (bulkCompressionMaxSize settings.compressionLevel) - 20
  else maxLength

/-- One round of the loop in `fastpath_send_update_pdu`: the PDU for the fragment `src`. -/
def fastpathSendFragment (updateCode : Nat) (compress : Bool) (fragmentation : FastPathFragment)
    (context : σ) (keys : κ) (src : List UInt8) : List UInt8 × σ × κ :=
  let (compression, compressionFlags, dst, context) :=
    fastpathCompressFragment codec settings compress context src
  let header : FastPathUpdateHeader :=
    ⟨updateCode, fragmentation, compression, compressionFlags, dst.length⟩
  let (pdu, keys) :=
    fastpathWritePdu security settings keys (fastpathWriteUpdateHeader header ++ dst)
  (pdu, context, keys)

/-- The loop of `fastpath_send_update_pdu`, from its fragment number `fragment` on; `fuel` bounds
the fragments. -/
def fastpathSendLoop (updateCode : Nat) (compress : Bool) :
    Nat → Nat → σ → κ → List UInt8 → List (List UInt8) × σ × κ
  | 0, _, context, keys, _ => ([], context, keys)
  | fuel + 1, fragment, context, keys, rest =>
    if 0 < rest.length ∨ fragment = 0 then
      let size := if rest.length > fastpathMaxLength settings compress then
        fastpathMaxLength settings compress else rest.length
      let src := rest.take size
      let rest := rest.drop size
      let fragmentation :=
        if rest.length = 0 then
          if fragment = 0 then FastPathFragment.single else FastPathFragment.last
        else if fragment = 0 then FastPathFragment.first else FastPathFragment.next
      let (pdu, context, keys) := fastpathSendFragment codec security settings updateCode compress
        fragmentation context keys src
      let (pdus, context, keys) :=
        fastpathSendLoop updateCode compress fuel (fragment + 1) context keys rest
      (pdu :: pdus, context, keys)
    else ([], context, keys)

/-- `fastpath_send_update_pdu` on a transport that takes every PDU: whether it returns `TRUE`, the
PDUs, and the new states. -/
def fastpathSendUpdatePdu (updateCode : Nat) (skipCompression : Bool) (context : σ) (keys : κ)
    (data : List UInt8) : Bool × List (List UInt8) × σ × κ :=
  if !settings.fastPathOutput then (false, [], context, keys)
  else if data.length > settings.multifragMaxRequestSize then (false, [], context, keys)
  else
    let compress := settings.compressionEnabled && !skipCompression
    (true, fastpathSendLoop codec security settings updateCode compress (data.length + 1) 0 context
      keys data)

/-! ### The receiver -/

/-- The receiving side: `rdpFastPath`, the decompressor and the keys, and the updates handed to
`fastpath_recv_update` so far. `fragmentation` is `none` for -1, and `updateData` holds the bytes
up to the position of the stream. -/
structure FastPathReceiver (ρ τ : Type*) where
  fragmentation : Option FastPathFragment
  updateData : List UInt8
  bulk : ρ
  keys : τ
  dispatched : List (Nat × List UInt8)

/-- `per_read_length`. -/
def perReadLength (s : WStream) : Option (Nat × WStream) :=
  if s.remainingLength < 1 then none
  else
    let (byte, s) := s.readUInt8
    if byte &&& 0x80 ≠ 0 then
      if s.remainingLength < 1 then none
      else
        let (low, s) := s.readUInt8
        some ((byte &&& 0x7F) <<< 8 + low, s)
    else some (byte, s)

/-- `fastpath_read_header_rdp`: the encryption flags and the length behind the header. -/
def fastpathReadHeaderRdp (s : WStream) : Option (Nat × Nat × WStream) :=
  if s.remainingLength < 1 then none
  else
    let (header, s) := s.readUInt8
    match perReadLength s with
    | none => none
    | some (length, s) =>
      some ((header &&& 0xC0) >>> 6, (length + 2 ^ 16 - s.pos) % 2 ^ 16, s)

/-- The hand-over of a finished update; `handler` says whether processing it succeeds. -/
def fastpathDispatch (handler : Nat → List UInt8 → Bool) (updateCode : Nat)
    (fp : FastPathReceiver ρ τ) : Bool × FastPathReceiver ρ τ :=
  (handler updateCode fp.updateData,
    { fp with
      updateData := []
      dispatched := fp.dispatched ++ [(updateCode, fp.updateData)] })

/-- The fragment state machine of `fastpath_recv_update_data`, with the fragment's bytes already
in `updateData`. -/
def fastpathRecvFragment (handler : Nat → List UInt8 → Bool) (updateCode : Nat)
    (fragmentation : FastPathFragment) (fp : FastPathReceiver ρ τ) :
    Bool × FastPathReceiver ρ τ :=
  match fragmentation with
  | .single =>
    if fp.fragmentation ≠ none then (false, fp) else fastpathDispatch handler updateCode fp
  | .first =>
    if fp.updateData.length > settings.multifragMaxRequestSize then (false, fp)
    else if fp.fragmentation ≠ none then (false, fp)
    else (true, { fp with fragmentation := some .first })
  | .next =>
    if fp.updateData.length > settings.multifragMaxRequestSize then (false, fp)
    else if fp.fragmentation ≠ some .first ∧ fp.fragmentation ≠ some .next then (false, fp)
    else (true, { fp with fragmentation := some .next })
  | .last =>
    if fp.updateData.length > settings.multifragMaxRequestSize then (false, fp)
    else if fp.fragmentation ≠ some .first ∧ fp.fragmentation ≠ some .next then (false, fp)
    else fastpathDispatch handler updateCode { fp with fragmentation := none }

/-- The size field of an update, and the check that its bytes are there. -/
def fastpathReadUpdateSize (updateHeader compressionFlags : Nat) (s : WStream) :
    Option (FastPathUpdateHeader × WStream) :=
  if s.remainingLength < 2 then none
  else
    let (size, s) := s.readUInt16
    if s.remainingLength < size then none
    else
      some (⟨updateHeader &&& 0x0F, FastPathFragment.ofCode (updateHeader >>> 4 &&& 0x03),
        updateHeader >>> 6 &&& 0x03, compressionFlags, size⟩, s)

/-- `fastpath_read_update_header` and the fields that follow it. -/
def fastpathReadUpdateHeader (s : WStream) : Option (FastPathUpdateHeader × WStream) :=
  if s.remainingLength < 1 then none
  else
    let (updateHeader, s) := s.readUInt8
    if updateHeader >>> 6 &&& 0x03 = FASTPATH_OUTPUT_COMPRESSION_USED then
      if s.remainingLength < 1 then none
      else
        let (compressionFlags, s) := s.readUInt8
        fastpathReadUpdateSize updateHeader compressionFlags s
    else fastpathReadUpdateSize updateHeader 0 s

/-- `fastpath_recv_update_data`: `false` is the status -1. -/
def fastpathRecvUpdateData (handler : Nat → List UInt8 → Bool) (fp : FastPathReceiver ρ τ)
    (s : WStream) : Bool × FastPathReceiver ρ τ × WStream :=
  match fastpathReadUpdateHeader s with
  | none => (false, fp, s)
  | some (header, s) =>
    let (src, s) := s.read header.size
    match bulkDecompress codec fp.bulk src header.compressionFlags with
    | (none, bulk) => (false, { fp with bulk := bulk }, s)
    | (some dst, bulk) =>
      let fp := { fp with bulk := bulk, updateData := fp.updateData ++ dst }
      let (ok, fp) :=
        fastpathRecvFragment settings handler header.updateCode header.fragmentation fp
      (ok, fp, s)

/-- The loop of `fastpath_recv_updates`; `fuel` bounds the updates in one PDU. -/
def fastpathRecvUpdatesLoop (handler : Nat → List UInt8 → Bool) :
    Nat → FastPathReceiver ρ τ → WStream → Bool × FastPathReceiver ρ τ
  | 0, fp, _ => (true, fp)
  | fuel + 1, fp, s =>
    if s.remainingLength ≥ 3 then
      match fastpathRecvUpdateData codec settings handler fp s with
      | (false, fp, _) => (false, fp)
      | (true, fp, s) => fastpathRecvUpdatesLoop handler fuel fp s
    else (true, fp)

/-- `fastpath_recv_updates`. -/
def fastpathRecvUpdates (handler : Nat → List UInt8 → Bool) (fp : FastPathReceiver ρ τ)
    (s : WStream) : Bool × FastPathReceiver ρ τ :=
  fastpathRecvUpdatesLoop codec settings handler (s.remainingLength + 1) fp s

/-- `rdp_decrypt` on a fast-path PDU, with the number of bytes behind its header. -/
def rdpDecrypt (keys : τ) (secureChecksum : Bool) (length : Nat) (s : WStream) :
    Option WStream × τ :=
  if settings.fips then
    if s.remainingLength < 12 then (none, keys)
    else
      let (_len, s) := s.readUInt16
      let (_version, s) := s.readUInt8
      let (pad, s) := s.readUInt8
      let (signature, s) := s.read 8
      if length ≤ 12 ∨ length - 12 ≤ pad then (none, keys)
      else
        match security.unprotect keys secureChecksum (s.unread.take (length - 12)) pad signature with
        | (none, keys) => (none, keys)
        | (some data, keys) =>
          let rest := data ++ s.unread.drop (length - 12)
          (some ⟨s.buffer.take s.pos ++ rest.take (rest.length - pad), s.pos⟩, keys)
  else if s.remainingLength < 8 then (none, keys)
  else
    let (signature, s) := s.read 8
    if length ≤ 8 then (none, keys)
    else
      match security.unprotect keys secureChecksum (s.unread.take (length - 8)) 0 signature with
      | (none, keys) => (none, keys)
      | (some data, keys) =>
        (some ⟨s.buffer.take s.pos ++ (data ++ s.unread.drop (length - 8)), s.pos⟩, keys)

/-- `rdp_recv_fastpath_pdu`: `false` is a negative status. -/
def rdpRecvFastpathPdu (handler : Nat → List UInt8 → Bool) (fp : FastPathReceiver ρ τ)
    (pdu : List UInt8) : Bool × FastPathReceiver ρ τ :=
  match fastpathReadHeaderRdp (WStream.ofBytes pdu) with
  | none => (false, fp)
  | some (encryptionFlags, length, s) =>
    if length = 0 ∨ length > s.remainingLength then (false, fp)
    else if encryptionFlags &&& FASTPATH_OUTPUT_ENCRYPTED ≠ 0 then
      match rdpDecrypt security settings fp.keys
        (encryptionFlags &&& FASTPATH_OUTPUT_SECURE_CHECKSUM ≠ 0) length s with
      | (none, keys) => (false, { fp with keys := keys })
      | (some s, keys) =>
        fastpathRecvUpdates codec settings handler { fp with keys := keys } s
    else fastpathRecvUpdates codec settings handler fp s

end Session

end FreeRdp
