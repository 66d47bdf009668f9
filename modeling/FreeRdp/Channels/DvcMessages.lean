import FreeRdp.Library.Pieces
import FreeRdp.Library.Runs
import FreeRdp.Channels.Drdynvc

/-!
# Messages on dynamic channels

Both ends cut a message into PDUs that fit into a chunk: `drdynvc_write_data` of the client and
`FreeRDP_WTSVirtualChannelWrite` of the server. The first PDU of a message that is cut says how long
it is. `freerdp_channel_send` cuts a PDU once more, into the chunks of the static channel.

What a receiver is for is said by `Assembler`: it puts the parts of one channel together again. The
parts of each message, in order, make it hand out the message and wait for the next one.
-/

namespace FreeRdp

def CHANNEL_CHUNK_LENGTH : Nat := 1600
def CHANNEL_RC_BAD_INIT_HANDLE : Nat := 3

/-! ### Writing -/

/-- `drdynvc_write_variable_uint` and `wts_write_variable_uint`: the code of the length, and the
bytes. -/
def writeVariableUint (val : Nat) : Nat × List UInt8 :=
  if val ≤ 0xFF then (0, bytesUInt8 val)
  else if val ≤ 0xFFFF then (1, bytesUInt16 val)
  else (2, bytesUInt32 val)

/-- A `DATA_PDU`. -/
def dataPdu (channelId : UInt32) (data : List UInt8) : List UInt8 :=
  let (cbChId, id) := writeVariableUint channelId.toNat
  bytesUInt8 (DATA_PDU <<< 4 ||| cbChId) ++ (id ++ data)

/-- A `DATA_FIRST_PDU` for a message of the given length. -/
def dataFirstPdu (channelId : UInt32) (length : Nat) (data : List UInt8) : List UInt8 :=
  let (cbChId, id) := writeVariableUint channelId.toNat
  let (cbLen, len) := writeVariableUint length
  bytesUInt8 (DATA_FIRST_PDU <<< 4 ||| cbChId ||| cbLen <<< 2) ++ (id ++ (len ++ data))

/-- The position behind the channel id of a PDU. -/
def channelIdEnd (channelId : UInt32) : Nat := 1 + (writeVariableUint channelId.toNat).2.length

/-- The position behind the length of a `DATA_FIRST_PDU`. -/
def lengthEnd (channelId : UInt32) (length : Nat) : Nat :=
  channelIdEnd channelId + (writeVariableUint length).2.length

/-- The PDUs of `drdynvc_write_data` for a message that is not empty. -/
def drdynvcDataPdus (channelId : UInt32) (data : List UInt8) : List (List UInt8) :=
  let pos := channelIdEnd channelId
  if data.length ≤ CHANNEL_CHUNK_LENGTH - pos then [dataPdu channelId data]
  else
    -- fragment the data
    let chunkLength := CHANNEL_CHUNK_LENGTH - lengthEnd channelId data.length
    dataFirstPdu channelId data.length (data.take chunkLength) ::
      (pieces (CHANNEL_CHUNK_LENGTH - pos) (data.drop chunkLength)).map (dataPdu channelId)

/-- The loop of `FreeRDP_WTSVirtualChannelWrite` for streams of `chunkSize` bytes. -/
def wtsWriteLoop (chunkSize : Nat) (channelId : UInt32) :
    Nat → Bool → List UInt8 → List (List UInt8)
  | 0, _, _ => []
  | fuel + 1, first, data =>
    if data = [] then []
    else
      let remaining := chunkSize - channelIdEnd channelId
      if first ∧ remaining < data.length then
        let written := min (chunkSize - lengthEnd channelId data.length) data.length
        dataFirstPdu channelId data.length (data.take written) ::
          wtsWriteLoop chunkSize channelId fuel false (data.drop written)
      else
        let written := min remaining data.length
        dataPdu channelId (data.take written) ::
          wtsWriteLoop chunkSize channelId fuel false (data.drop written)

/-- The PDUs that `FreeRDP_WTSVirtualChannelWrite` queues on a dynamic channel. -/
def wtsVirtualChannelWritePdus (chunkSize : Nat) (channelId : UInt32) (data : List UInt8) :
    List (List UInt8) :=
  wtsWriteLoop chunkSize channelId data.length true data

/-- A chunk of a static channel, with its flags and the size of the whole. -/
structure StaticChunk where
  data : List UInt8
  flags : Nat
  totalSize : Nat
  deriving DecidableEq, Repr

/-- The chunks behind the first one. -/
def laterChunks (totalSize : Nat) : List (List UInt8) → List StaticChunk
  | [] => []
  | [piece] => [⟨piece, CHANNEL_FLAG_LAST, totalSize⟩]
  | piece :: rest => ⟨piece, 0, totalSize⟩ :: laterChunks totalSize rest

/-- The chunks that `freerdp_channel_send` sends, for a chunk size above 0, without the flag
`CHANNEL_FLAG_SHOW_PROTOCOL`: neither receiver looks at it. -/
def freerdpChannelSend (chunkSize : Nat) (data : List UInt8) : List StaticChunk :=
  match pieces chunkSize data with
  | [] => []
  | [piece] => [⟨piece, CHANNEL_FLAG_FIRST ||| CHANNEL_FLAG_LAST, data.length⟩]
  | piece :: rest => ⟨piece, CHANNEL_FLAG_FIRST, data.length⟩ :: laterChunks data.length rest

namespace DrdynvcPlugin

variable (calls : DrdynvcCalls)

/-- The PDUs are handed over one after the other, each in a stream of the pool, until one fails. -/
def sendAll (drdynvc : DrdynvcPlugin) : List (List UInt8) → Nat × DrdynvcPlugin
  | [] => (CHANNEL_RC_OK, drdynvc)
  | pdu :: pdus =>
    if calls.streamPoolTake then
      let (status, drdynvc) := drdynvc.send calls pdu
      if status = CHANNEL_RC_OK then sendAll drdynvc pdus else (status, drdynvc)
    else (CHANNEL_RC_NO_MEMORY, drdynvc)

/-- `drdynvc_write_data`: the status, and whether the channel is to be closed. -/
def writeData (drdynvc : DrdynvcPlugin) (channelId : UInt32) (data : List UInt8) :
    Nat × Bool × DrdynvcPlugin :=
  if data = [] then
    if calls.streamPoolTake then (CHANNEL_RC_BAD_INIT_HANDLE, true, drdynvc)
    else (CHANNEL_RC_NO_MEMORY, false, drdynvc)
  else
    let (status, drdynvc) := drdynvc.sendAll calls (drdynvcDataPdus channelId data)
    (status, false, drdynvc)

variable {calls} {drdynvc : DrdynvcPlugin}

lemma sendAll_sent (hpool : calls.streamPoolTake = true)
    (hwrite : ∀ pdu, calls.virtualChannelWrite pdu = CHANNEL_RC_OK) (pdus : List (List UInt8)) :
    drdynvc.sendAll calls pdus = (CHANNEL_RC_OK, { drdynvc with sent := drdynvc.sent ++ pdus }) := by
  induction pdus generalizing drdynvc with
  | nil => simp [sendAll]
  | cons pdu pdus ih => simp [sendAll, hpool, send, hwrite, ih]

/-- While the static channel takes everything, a message is sent as its PDUs. -/
lemma writeData_sent (hpool : calls.streamPoolTake = true)
    (hwrite : ∀ pdu, calls.virtualChannelWrite pdu = CHANNEL_RC_OK) (channelId : UInt32)
    {data : List UInt8} (hdata : data ≠ []) :
    drdynvc.writeData calls channelId data = (CHANNEL_RC_OK, false,
      { drdynvc with sent := drdynvc.sent ++ drdynvcDataPdus channelId data }) := by
  simp [writeData, hdata, sendAll_sent hpool hwrite]

end DrdynvcPlugin

/-! ### Putting together -/

/-- What a PDU with data is for its channel. -/
inductive DvcPart
  | first (total : Nat) (bytes : List UInt8)
  | next (bytes : List UInt8)
  deriving DecidableEq, Repr

/-- The PDU of a part. -/
def DvcPart.pdu (channelId : UInt32) : DvcPart → List UInt8
  | .first total bytes => dataFirstPdu channelId total bytes
  | .next bytes => dataPdu channelId bytes

/-- The message that is put together, its length or 0, and the messages that are complete. -/
structure Assembler where
  total : Nat
  got : List UInt8
  messages : List (List UInt8)
  deriving DecidableEq, Repr

namespace Assembler

/-- A part arrives. -/
def receive (a : Assembler) : DvcPart → Assembler
  | .first total bytes => { a with total := total, got := bytes }
  | .next bytes =>
    if a.total = 0 then { a with messages := a.messages ++ [bytes] }
    else if a.total ≤ a.got.length + bytes.length then
      ⟨0, [], a.messages ++ [a.got ++ bytes]⟩
    else { a with got := a.got ++ bytes }

/-- The part fits into the message that it belongs to. -/
def Takes (a : Assembler) : DvcPart → Prop
  | .first total bytes => bytes.length < total ∧ total < 2 ^ 32
  | .next bytes => a.total ≠ 0 → a.got.length + bytes.length ≤ a.total

/-- The parts of a message: itself, or with a first part that says its length. -/
inductive MessageParts (message : List UInt8) : List DvcPart → Prop
  | whole : MessageParts message [.next message]
  | cut {front : List UInt8} {rest : List (List UInt8)} (hrest : rest ≠ [])
      (hne : ∀ piece ∈ rest, piece ≠ []) (hmessage : front ++ rest.flatten = message) :
      MessageParts message (.first message.length front :: rest.map .next)

variable {message front : List UInt8} {messages : List (List UInt8)} {parts : List DvcPart}

lemma receive_rest (messages : List (List UInt8)) {rest : List (List UInt8)} (hrest : rest ≠ [])
    (hne : ∀ piece ∈ rest, piece ≠ []) (hmessage : front ++ rest.flatten = message) :
    AlongRun receive Takes ⟨message.length, front, messages⟩ (rest.map .next) ∧
      (rest.map DvcPart.next).foldl receive ⟨message.length, front, messages⟩ =
        ⟨0, [], messages ++ [message]⟩ := by
  induction rest generalizing front with
  | nil => exact absurd rfl hrest
  | cons piece rest ih =>
    rw [List.forall_mem_cons] at hne
    have hpiece := List.length_pos_iff.mpr hne.1
    have hlength : front.length + (piece.length + rest.flatten.length) = message.length := by
      simp [← hmessage]
    have htakes : Takes ⟨message.length, front, messages⟩ (.next piece) := by
      intro _
      dsimp only
      omega
    have hpos : message.length ≠ 0 := by omega
    cases rest with
    | nil =>
      have hfull : message.length ≤ front.length + piece.length := by simpa using hlength.ge
      refine ⟨⟨htakes, trivial⟩, ?_⟩
      simp only [List.map_cons, List.map_nil, List.foldl_cons, List.foldl_nil, receive, hpos,
        if_false, hfull, if_true]
      rw [← hmessage, List.flatten_singleton]
    | cons piece' rest =>
      -- there is more to come
      have hmore : ¬message.length ≤ front.length + piece.length := by
        have := List.length_pos_iff.mpr (hne.2 piece' List.mem_cons_self)
        simp only [List.flatten_cons, List.length_append] at hlength
        omega
      have hstep : receive ⟨message.length, front, messages⟩ (.next piece) =
          ⟨message.length, front ++ piece, messages⟩ := by
        simp [receive, hpos, hmore]
      obtain ⟨halong, hfold⟩ := ih (List.cons_ne_nil _ _) hne.2
        (show front ++ piece ++ _ = message by
          rw [List.append_assoc, ← List.flatten_cons, hmessage])
      rw [List.map_cons, List.foldl_cons, hstep]
      refine ⟨⟨htakes, ?_⟩, hfold⟩
      rw [hstep]
      exact halong

/-- The parts of a message make it complete. -/
lemma MessageParts.receive (h : MessageParts message parts) (messages : List (List UInt8))
    (hlength : message.length < 2 ^ 32) :
    AlongRun receive Takes ⟨0, [], messages⟩ parts ∧
      parts.foldl receive ⟨0, [], messages⟩ = ⟨0, [], messages ++ [message]⟩ := by
  cases h with
  | whole => exact ⟨⟨fun hzero => absurd rfl hzero, trivial⟩, by simp [Assembler.receive]⟩
  | @cut front rest hrest hrestNe hmessage =>
    obtain ⟨halong, hfold⟩ := receive_rest messages hrest hrestNe hmessage
    obtain ⟨piece, hpiece⟩ := List.exists_mem_of_ne_nil rest hrest
    have hpos := List.length_pos_iff.mpr (hrestNe piece hpiece)
    have hle : piece.length ≤ rest.flatten.length :=
      (List.sublist_flatten_of_mem hpiece).length_le
    have hsum : front.length + rest.flatten.length = message.length := by simp [← hmessage]
    exact ⟨⟨⟨by omega, hlength⟩, halong⟩, hfold⟩

/-- The parts of messages one after the other make all of them complete. -/
lemma receive_messages (messages : List (List UInt8)) {parts : List UInt8 → List DvcPart}
    (sent : List (List UInt8)) (hparts : ∀ m ∈ sent, MessageParts m (parts m))
    (hne : ∀ m ∈ sent, m ≠ [] ∧ m.length < 2 ^ 32) :
    AlongRun Assembler.receive Takes ⟨0, [], messages⟩ (sent.flatMap parts) ∧
      (sent.flatMap parts).foldl Assembler.receive ⟨0, [], messages⟩ =
        ⟨0, [], messages ++ sent⟩ := by
  induction sent generalizing messages with
  | nil => exact ⟨trivial, by simp⟩
  | cons m sent ih =>
    rw [List.forall_mem_cons] at hparts hne
    obtain ⟨halong, hfold⟩ := hparts.1.receive messages hne.1.2
    obtain ⟨halong', hfold'⟩ := ih (messages ++ [m]) hparts.2 hne.2
    rw [List.flatMap_cons]
    refine ⟨halong.append (hfold ▸ halong'), ?_⟩
    rw [List.foldl_append, hfold, hfold', List.append_assoc, List.singleton_append]

/-- What is complete stays complete. -/
lemma messages_prefix (parts : List DvcPart) (a : Assembler) :
    a.messages <+: (parts.foldl Assembler.receive a).messages := by
  induction parts generalizing a with
  | nil => exact List.prefix_rfl
  | cons part parts ih =>
    refine List.IsPrefix.trans ?_ (ih _)
    cases part with
    | first total bytes => exact List.prefix_rfl
    | next bytes =>
      rw [Assembler.receive]
      split_ifs
      · exact List.prefix_append _ _
      · exact List.prefix_append _ _
      · exact List.prefix_rfl

end Assembler

/-! ### The parts of both ends -/

lemma length_writeVariableUint_le (val : Nat) : (writeVariableUint val).2.length ≤ 4 := by
  rw [writeVariableUint]
  split_ifs <;> simp [bytesUInt8, bytesUInt16, bytesUInt32]

lemma channelIdEnd_le (channelId : UInt32) : channelIdEnd channelId ≤ 5 :=
  Nat.add_le_add_left (length_writeVariableUint_le _) 1

lemma lengthEnd_le (channelId : UInt32) (length : Nat) : lengthEnd channelId length ≤ 9 :=
  Nat.add_le_add (channelIdEnd_le channelId) (length_writeVariableUint_le _)

lemma channelIdEnd_le_lengthEnd (channelId : UInt32) (length : Nat) :
    channelIdEnd channelId ≤ lengthEnd channelId length := Nat.le_add_right _ _

lemma length_dataPdu (channelId : UInt32) (data : List UInt8) :
    (dataPdu channelId data).length = channelIdEnd channelId + data.length := by
  simp [dataPdu, channelIdEnd, bytesUInt8]
  omega

lemma length_dataFirstPdu (channelId : UInt32) (length : Nat) (data : List UInt8) :
    (dataFirstPdu channelId length data).length = lengthEnd channelId length + data.length := by
  simp [dataFirstPdu, lengthEnd, channelIdEnd, bytesUInt8]
  omega

/-- The parts that fit into chunks of the given size. -/
def messageParts (chunkSize : Nat) (channelId : UInt32) (message : List UInt8) : List DvcPart :=
  if message.length ≤ chunkSize - channelIdEnd channelId then [.next message]
  else
    let front := chunkSize - lengthEnd channelId message.length
    .first message.length (message.take front) ::
      (pieces (chunkSize - channelIdEnd channelId) (message.drop front)).map .next

variable {chunkSize : Nat} {channelId : UInt32} {message : List UInt8}

lemma drdynvcDataPdus_eq (channelId : UInt32) (message : List UInt8) :
    drdynvcDataPdus channelId message =
      (messageParts CHANNEL_CHUNK_LENGTH channelId message).map (DvcPart.pdu channelId) := by
  rw [drdynvcDataPdus, messageParts]
  split_ifs
  · rfl
  · simp only [List.map_cons, List.map_map]
    rfl

/-- Behind the first PDU the loop writes the pieces. -/
lemma wtsWriteLoop_later (fuel : Nat) (data : List UInt8) :
    wtsWriteLoop chunkSize channelId fuel false data =
      (nextPieces (chunkSize - channelIdEnd channelId) fuel data).map (dataPdu channelId) := by
  induction fuel generalizing data with
  | zero => rfl
  | succ fuel ih =>
    rcases eq_or_ne data [] with rfl | hne
    · simp [wtsWriteLoop]
    · rw [nextPieces_of_ne_nil hne, List.map_cons, ← ih, wtsWriteLoop, if_neg hne]
      rcases Nat.le_total (chunkSize - channelIdEnd channelId) data.length with hle | hle
      · simp [Nat.min_eq_left hle]
      · simp [Nat.min_eq_right hle, List.take_of_length_le hle, List.drop_of_length_le hle]

lemma wtsVirtualChannelWritePdus_eq (hchunk : 9 < chunkSize) (hne : message ≠ []) :
    wtsVirtualChannelWritePdus chunkSize channelId message =
      (messageParts chunkSize channelId message).map (DvcPart.pdu channelId) := by
  have hid := channelIdEnd_le channelId
  have hlen := lengthEnd_le channelId message.length
  have hends := channelIdEnd_le_lengthEnd channelId message.length
  obtain ⟨fuel, hfuel⟩ := Nat.exists_eq_succ_of_ne_zero (List.length_pos_iff.mpr hne).ne'
  have hloop : wtsVirtualChannelWritePdus chunkSize channelId message =
      wtsWriteLoop chunkSize channelId (fuel + 1) true message := by
    rw [wtsVirtualChannelWritePdus, hfuel]
  rw [hloop, messageParts, wtsWriteLoop, if_neg hne]
  dsimp only
  rcases Nat.lt_or_ge (chunkSize - channelIdEnd channelId) message.length with hlong | hshort
  · have hwritten : min (chunkSize - lengthEnd channelId message.length) message.length =
        chunkSize - lengthEnd channelId message.length := by omega
    have hrest : (message.drop (chunkSize - lengthEnd channelId message.length)).length ≤ fuel := by
      rw [List.length_drop]
      omega
    rw [if_pos ⟨rfl, hlong⟩, if_neg (not_le.mpr hlong), hwritten, wtsWriteLoop_later,
      nextPieces_fuel (by omega) hrest, List.map_cons, List.map_map]
    rfl
  · have hwritten : min (chunkSize - channelIdEnd channelId) message.length = message.length := by
      omega
    rw [if_neg (by simpa using hshort), if_pos hshort, hwritten, List.take_length, List.drop_length,
      wtsWriteLoop_later, nextPieces_nil]
    rfl

lemma messageParts_parts (channelId : UInt32) (message : List UInt8) (hchunk : 9 < chunkSize) :
    Assembler.MessageParts message (messageParts chunkSize channelId message) := by
  have hid := channelIdEnd_le channelId
  have hlen := lengthEnd_le channelId message.length
  have hends := channelIdEnd_le_lengthEnd channelId message.length
  have hroom : 0 < chunkSize - channelIdEnd channelId := by omega
  rw [messageParts]
  split
  · exact .whole
  · rename_i hlong
    refine .cut (pieces_ne_nil ?_) (fun piece hpiece => (mem_pieces hroom hpiece).1) ?_
    · rw [← List.length_pos_iff, List.length_drop]
      omega
    · rw [flatten_pieces hroom, List.take_append_drop]

/-- No PDU is longer than a chunk. -/
lemma length_pdu_le (hchunk : 9 < chunkSize) {part : DvcPart}
    (h : part ∈ messageParts chunkSize channelId message) :
    (part.pdu channelId).length ≤ chunkSize := by
  have hid := channelIdEnd_le channelId
  have hlen := lengthEnd_le channelId message.length
  have hroom : 0 < chunkSize - channelIdEnd channelId := by omega
  rw [messageParts] at h
  split at h
  · rename_i hshort
    rw [List.mem_singleton] at h
    rw [h, DvcPart.pdu, length_dataPdu]
    omega
  · rw [List.mem_cons, List.mem_map] at h
    rcases h with rfl | ⟨piece, hpiece, rfl⟩
    · rw [DvcPart.pdu, length_dataFirstPdu, List.length_take]
      omega
    · have := (mem_pieces hroom hpiece).2
      rw [DvcPart.pdu, length_dataPdu]
      omega

/-! ### Reading the header -/

/-- The code says how many bytes there are. -/
lemma cblenToBytes_writeVariableUint (val : Nat) :
    cblenToBytes (writeVariableUint val).1 = (writeVariableUint val).2.length := by
  rw [writeVariableUint]
  split_ifs <;> rfl

lemma writeVariableUint_code_le (val : Nat) : (writeVariableUint val).1 ≤ 2 := by
  rw [writeVariableUint]
  split_ifs <;> simp

/-- A variable integer is read back. -/
lemma uintAt_writeVariableUint {val : Nat} {s : WStream} {rest : List UInt8} (hval : val < 2 ^ 32)
    (h : s.unread = (writeVariableUint val).2 ++ rest) :
    uintAt (cblenToBytes (writeVariableUint val).1) s = val := by
  rw [writeVariableUint] at h ⊢
  split_ifs at h ⊢ with hbyte hword
  · exact congrArg Prod.fst (WStream.readUInt8_bytes h (by omega))
  · exact congrArg Prod.fst (WStream.readUInt16_bytes h (by omega))
  · exact congrArg Prod.fst (WStream.readUInt32_bytes h hval)

/-- The fields of the first byte of a PDU. -/
lemma dvcHeader_fields {cmd sp cbChId : Nat} (hcmd : cmd < 16) (hsp : sp < 4) (hid : cbChId < 4) :
    cmd <<< 4 ||| cbChId ||| sp <<< 2 < 2 ^ 8 ∧
      ((cmd <<< 4 ||| cbChId ||| sp <<< 2) &&& 0xF0) >>> 4 = cmd ∧
      ((cmd <<< 4 ||| cbChId ||| sp <<< 2) &&& 0x0C) >>> 2 = sp ∧
      (cmd <<< 4 ||| cbChId ||| sp <<< 2) &&& 0x03 = cbChId := by
  have hall : ∀ cmd < 16, ∀ sp < 4, ∀ id < 4, cmd <<< 4 ||| id ||| sp <<< 2 < 2 ^ 8 ∧
      ((cmd <<< 4 ||| id ||| sp <<< 2) &&& 0xF0) >>> 4 = cmd ∧
      ((cmd <<< 4 ||| id ||| sp <<< 2) &&& 0x0C) >>> 2 = sp ∧
      (cmd <<< 4 ||| id ||| sp <<< 2) &&& 0x03 = id := by decide
  exact hall cmd hcmd sp hsp cbChId hid

/-- The command of a part. -/
def DvcPart.cmd : DvcPart → Nat
  | .first _ _ => DATA_FIRST_PDU
  | .next _ => DATA_PDU

/-- The code of the length in the first byte. -/
def DvcPart.sp : DvcPart → Nat
  | .first total _ => (writeVariableUint total).1
  | .next _ => 0

/-- What is behind the channel id. -/
def DvcPart.body : DvcPart → List UInt8
  | .first total bytes => (writeVariableUint total).2 ++ bytes
  | .next bytes => bytes

lemma DvcPart.pdu_eq (channelId : UInt32) (part : DvcPart) :
    part.pdu channelId = bytesUInt8 (part.cmd <<< 4 ||| (writeVariableUint channelId.toNat).1 |||
      part.sp <<< 2) ++ ((writeVariableUint channelId.toNat).2 ++ part.body) := by
  cases part with
  | first total bytes => rfl
  | next bytes => simp [DvcPart.pdu, dataPdu, DvcPart.cmd, DvcPart.sp, DvcPart.body]

/-- The fields of the first byte of the PDU of a part. -/
lemma DvcPart.header (channelId : UInt32) (part : DvcPart) :
    let value := part.cmd <<< 4 ||| (writeVariableUint channelId.toNat).1 ||| part.sp <<< 2
    value < 2 ^ 8 ∧ (value &&& 0xF0) >>> 4 = part.cmd ∧ (value &&& 0x0C) >>> 2 = part.sp ∧
      value &&& 0x03 = (writeVariableUint channelId.toNat).1 := by
  refine dvcHeader_fields ?_ ?_ (Nat.lt_of_le_of_lt (writeVariableUint_code_le _) (by decide))
  · cases part <;> simp [DvcPart.cmd, DATA_PDU, DATA_FIRST_PDU]
  · cases part with
    | first total bytes => exact Nat.lt_of_le_of_lt (writeVariableUint_code_le _) (by decide)
    | next bytes => simp [DvcPart.sp]

end FreeRdp
