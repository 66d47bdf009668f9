import FreeRdp.Channels.DvcMessages
import FreeRdp.Winpr.Writing

/-!
# Messages of the server to the client

The thread of the static channel puts the PDUs together and queues them; the thread of the plugin
takes them out of the queue. Each channel of the manager is an assembler, whatever the order of the
steps of the two threads.
-/

namespace FreeRdp

def CHANNEL_FLAG_SUSPEND : Nat := 0x20
def CHANNEL_FLAG_RESUME : Nat := 0x40

/-! ### Receiving -/

/-- What is called outside while data is received, beside the calls of a request: a stream of the
pool for a size, memory for a stream that grows, a place in the queue, and the callback of a
channel. -/
structure DrdynvcReceiveCalls extends DrdynvcCalls where
  poolTake : Nat → Option WStream
  realloc : Malloc
  messageQueuePost : Bool
  onDataReceived : ChannelCallback → List UInt8 → Nat

/-- `drdynvcPlugin` with the PDU that arrives, the PDUs that wait in the queue, and what the
callbacks have been handed, with the ids of their channels. -/
structure DrdynvcReceiver where
  drdynvc : DrdynvcPlugin
  dataIn : Option WStream
  queue : List (List UInt8)
  received : List (UInt32 × List UInt8)
  deriving DecidableEq, Repr

/-- The channel with the id is changed to the given one. -/
def DrdynvcPlugin.setChannel (drdynvc : DrdynvcPlugin) (channel : DvcmanChannel) : DrdynvcPlugin :=
  { drdynvc with
    channels := drdynvc.channels.set
      (drdynvc.channels.findIdx fun c => c.channelId == channel.channelId) channel }

namespace DrdynvcReceiver

variable (calls : DrdynvcReceiveCalls)

/-- The channel with the id is changed to the given one. -/
def setChannel (r : DrdynvcReceiver) (channel : DvcmanChannel) : DrdynvcReceiver :=
  { r with drdynvc := r.drdynvc.setChannel channel }

/-- `dvcman_receive_channel_data_first`. -/
def receiveChannelDataFirst (r : DrdynvcReceiver) (channelId length : UInt32) :
    Nat × DrdynvcReceiver :=
  match r.drdynvc.findChannelById channelId with
  | none => (CHANNEL_RC_OK, r)
  | some channel =>
    match calls.poolTake length.toNat with
    | none => (CHANNEL_RC_NO_MEMORY, r.setChannel { channel with dvcData := none })
    | some s =>
      (CHANNEL_RC_OK, r.setChannel { channel with dvcData := some s, dvcDataLength := length })

/-- `OnDataReceived` of the callback of a channel. A channel that has none is no case of the code. -/
def onDataReceived (r : DrdynvcReceiver) (channel : DvcmanChannel) (data : List UInt8) :
    Option (Nat × DrdynvcReceiver) :=
  channel.channelCallback.map fun callback =>
    (calls.onDataReceived callback data,
      { r with received := r.received ++ [(channel.channelId, data)] })

/-- `dvcman_receive_channel_data`. -/
def receiveChannelData (r : DrdynvcReceiver) (channelId : UInt32) (data : List UInt8) :
    Option (Nat × DrdynvcReceiver) :=
  match r.drdynvc.findChannelById channelId with
  | none => some (CHANNEL_RC_OK, r)
  | some channel =>
    match channel.dvcData with
    | none => r.onDataReceived calls channel data
    | some dvcData =>
      -- fragmented data
      if channel.dvcDataLength.toNat < dvcData.pos + data.length then
        some (ERROR_INVALID_DATA, r.setChannel { channel with dvcData := none })
      else if channel.dvcDataLength.toNat ≤ (dvcData.write data).pos then
        (r.onDataReceived calls channel (dvcData.write data).front).map fun (status, r) =>
          (status, r.setChannel { channel with dvcData := none })
      else some (CHANNEL_RC_OK, r.setChannel { channel with dvcData := some (dvcData.write data) })

/-- A channel is closed after an error. -/
def closeOnError (channelId : UInt32) : Nat × DrdynvcReceiver → Nat × DrdynvcReceiver
  | (status, r) =>
    if status = CHANNEL_RC_OK then (status, r)
    else
      let (status, drdynvc) := r.drdynvc.closeChannel calls.toDrdynvcCalls channelId true
      (status, { r with drdynvc := drdynvc })

/-- `drdynvc_process_data_first`. -/
def processDataFirst (r : DrdynvcReceiver) (sp cbChId : Nat) (s : WStream) :
    Option (Nat × DrdynvcReceiver) :=
  if s.remainingLength < cblenToBytes cbChId + cblenToBytes sp then some (ERROR_INVALID_DATA, r)
  else
    let channelId := UInt32.ofNat (uintAt (cblenToBytes cbChId) s)
    let s := s.seek (cblenToBytes cbChId)
    let length := UInt32.ofNat (uintAt (cblenToBytes sp) s)
    let s := s.seek (cblenToBytes sp)
    let (status, r) := r.receiveChannelDataFirst calls channelId length
    (if status = CHANNEL_RC_OK then r.receiveChannelData calls channelId s.unread
      else some (status, r)).map (closeOnError calls channelId)

/-- `drdynvc_process_data`. -/
def processData (r : DrdynvcReceiver) (cbChId : Nat) (s : WStream) :
    Option (Nat × DrdynvcReceiver) :=
  if s.remainingLength < cblenToBytes cbChId then some (ERROR_INVALID_DATA, r)
  else
    let channelId := UInt32.ofNat (uintAt (cblenToBytes cbChId) s)
    (r.receiveChannelData calls channelId (s.seek (cblenToBytes cbChId)).unread).map
      (closeOnError calls channelId)

/-- `drdynvc_process_close_request`. -/
def processCloseRequest (r : DrdynvcReceiver) (cbChId : Nat) (s : WStream) :
    Nat × DrdynvcReceiver :=
  if s.remainingLength < cblenToBytes cbChId then (ERROR_INVALID_DATA, r)
  else
    let channelId := UInt32.ofNat (uintAt (cblenToBytes cbChId) s)
    let (status, drdynvc) := r.drdynvc.closeChannel calls.toDrdynvcCalls channelId true
    (status, { r with drdynvc := drdynvc })

/-- `drdynvc_process_capability_request`; the priority charges are not kept. -/
def processCapabilityRequest (r : DrdynvcReceiver) (s : WStream) : Nat × DrdynvcReceiver :=
  if s.remainingLength < 3 then (ERROR_INVALID_DATA, r)
  else
    let s := s.seek 1
    let version := s.readUInt16.1
    let drdynvc := { r.drdynvc with version := version }
    if (version = 2 ∨ version = 3) ∧ (s.seek 2).remainingLength < 8 then
      (ERROR_INVALID_DATA, { r with drdynvc := drdynvc })
    else
      let (status, drdynvc) := drdynvc.sendCapabilityResponse calls.toDrdynvcCalls
      (status, { r with drdynvc := { drdynvc with state := .ready } })

/-- `drdynvc_order_recv`. -/
def orderRecv (r : DrdynvcReceiver) (s : WStream) : Option (Nat × DrdynvcReceiver) :=
  if s.remainingLength < 1 then some (ERROR_INVALID_DATA, r)
  else
    let (value, s) := s.readUInt8
    let cmd := (value &&& 0xF0) >>> 4
    let sp := (value &&& 0x0C) >>> 2
    let cbChId := value &&& 0x03
    if cmd = CAPABILITY_REQUEST_PDU then some (r.processCapabilityRequest calls s)
    else if cmd = CREATE_REQUEST_PDU then
      let result := r.drdynvc.processCreateRequest calls.toDrdynvcCalls cbChId s
      some (result.status, { r with drdynvc := result.drdynvc })
    else if cmd = DATA_FIRST_PDU then r.processDataFirst calls sp cbChId s
    else if cmd = DATA_PDU then r.processData calls cbChId s
    else if cmd = CLOSE_REQUEST_PDU then some (r.processCloseRequest calls cbChId s)
    else some (ERROR_INTERNAL_ERROR, r)

/-- The stream that a chunk is written to: a first chunk takes a new one. -/
def streamFor (r : DrdynvcReceiver) (chunk : StaticChunk) : Option WStream :=
  if chunk.flags &&& CHANNEL_FLAG_FIRST ≠ 0 then calls.poolTake chunk.totalSize else r.dataIn

/-- `drdynvc_virtual_channel_event_data_received`. -/
def eventDataReceived (r : DrdynvcReceiver) (chunk : StaticChunk) : Nat × DrdynvcReceiver :=
  if chunk.flags &&& CHANNEL_FLAG_SUSPEND ≠ 0 ∨ chunk.flags &&& CHANNEL_FLAG_RESUME ≠ 0 then
    (CHANNEL_RC_OK, r)
  else
    match r.streamFor calls chunk with
    | none => (CHANNEL_RC_NO_MEMORY, { r with dataIn := none })
    | some dataIn =>
      match (dataIn.ensureRemainingCapacity calls.realloc chunk.data.length).stream with
      | none => (ERROR_INTERNAL_ERROR, { r with dataIn := none })
      | some dataIn =>
        let dataIn := dataIn.write chunk.data
        if chunk.flags &&& CHANNEL_FLAG_LAST ≠ 0 then
          if dataIn.buffer.length < dataIn.pos then
            (ERROR_INVALID_DATA, { r with dataIn := some dataIn })
          else if calls.messageQueuePost then
            (CHANNEL_RC_OK, { r with dataIn := none, queue := r.queue ++ [dataIn.front] })
          else (ERROR_INTERNAL_ERROR, { r with dataIn := none })
        else (CHANNEL_RC_OK, { r with dataIn := some dataIn })

/-- A round of `drdynvc_virtual_channel_client_thread`: the oldest message of the queue. -/
def clientThreadRound (r : DrdynvcReceiver) : Option (Nat × DrdynvcReceiver) :=
  match r.queue with
  | [] => some (CHANNEL_RC_OK, r)
  | pdu :: queue => { r with queue := queue }.orderRecv calls (.ofBytes pdu)

end DrdynvcReceiver

/-- What the two threads do, with the outcome of what they call. -/
inductive DrdynvcEvent
  | dataReceived (calls : DrdynvcReceiveCalls) (chunk : StaticChunk)
  | clientThread (calls : DrdynvcReceiveCalls)

namespace DrdynvcEvent

/-- The outcome of what is called. -/
def calls : DrdynvcEvent → DrdynvcReceiveCalls
  | dataReceived calls _ => calls
  | clientThread calls => calls

/-- The chunk that arrives, if any. -/
def chunks : DrdynvcEvent → List StaticChunk
  | dataReceived _ chunk => [chunk]
  | clientThread _ => []

/-- The status of a step, and what it leaves. -/
def run (r : DrdynvcReceiver) : DrdynvcEvent → Option (Nat × DrdynvcReceiver)
  | dataReceived calls chunk => some (r.eventDataReceived calls chunk)
  | clientThread calls => r.clientThreadRound calls

/-- A step of one of the threads. -/
def step (r : DrdynvcReceiver) (e : DrdynvcEvent) : DrdynvcReceiver :=
  ((e.run r).map Prod.snd).getD r

/-- The thread of the plugin waits while the queue is empty. -/
def Possible (r : DrdynvcReceiver) : DrdynvcEvent → Prop
  | dataReceived _ _ => True
  | clientThread _ => r.queue ≠ []

instance (r : DrdynvcReceiver) (e : DrdynvcEvent) : Decidable (e.Possible r) :=
  match e with
  | dataReceived _ _ => isTrue trivial
  | clientThread _ => inferInstanceAs (Decidable (r.queue ≠ []))

/-- The step is taken without an error. -/
def Succeeds (r : DrdynvcReceiver) (e : DrdynvcEvent) : Prop :=
  (e.run r).map Prod.fst = some CHANNEL_RC_OK

end DrdynvcEvent

/-! ### Channels and assemblers -/

/-- Nothing that is called outside fails: the pool has streams that are large enough, there is
memory, the queue takes a message, and the callbacks report no error. -/
structure DrdynvcReceiveCalls.Work (calls : DrdynvcReceiveCalls) : Prop where
  poolTake : ∀ n < 2 ^ 32, ∃ s, calls.poolTake n = some s ∧ s.Roomy ∧ s.pos = 0 ∧
    n ≤ s.buffer.length
  realloc : ∀ n ≤ SSIZE_MAX, calls.realloc.succeeds n = true
  messageQueuePost : calls.messageQueuePost = true
  onDataReceived : ∀ callback data, calls.onDataReceived callback data = CHANNEL_RC_OK

/-- The ids of the channels. -/
def DrdynvcPlugin.channelIds (drdynvc : DrdynvcPlugin) : List UInt32 :=
  drdynvc.channels.map DvcmanChannel.channelId

namespace DrdynvcPlugin

variable {drdynvc : DrdynvcPlugin} {channel : DvcmanChannel} {channelId : UInt32}

/-- The channel with an id is found. -/
lemma findChannelById_of_mem (h : channelId ∈ drdynvc.channelIds) :
    ∃ channel ∈ drdynvc.channels, drdynvc.findChannelById channelId = some channel ∧
      channel.channelId = channelId := by
  obtain ⟨found, hmem, hid⟩ := List.mem_map.mp h
  have hsome : (drdynvc.findChannelById channelId).isSome := by
    rw [findChannelById, List.find?_isSome]
    exact ⟨found, hmem, by simp [hid]⟩
  obtain ⟨channel, hfind⟩ := Option.isSome_iff_exists.mp hsome
  exact ⟨channel, List.mem_of_find?_eq_some hfind, hfind, by simpa using List.find?_some hfind⟩

lemma channelIds_setChannel : (drdynvc.setChannel channel).channelIds = drdynvc.channelIds := by
  refine List.ext_getElem (by simp [channelIds, setChannel]) fun i hi _ => ?_
  have hlt : i < drdynvc.channels.length := by simpa [channelIds, setChannel] using hi
  simp only [channelIds, setChannel, List.map_set, List.getElem_set, List.getElem_map]
  split_ifs with h
  · subst h
    exact (beq_iff_eq.mp (List.findIdx_getElem (w := hlt))).symm
  · rfl

/-- The other channels are as they were. -/
lemma mem_setChannel (hids : drdynvc.channelIds.Nodup)
    (hmem : channel.channelId ∈ drdynvc.channelIds) {c : DvcmanChannel}
    (hc : c ∈ (drdynvc.setChannel channel).channels) :
    c = channel ∨ c ∈ drdynvc.channels ∧ c.channelId ≠ channel.channelId := by
  rcases eq_or_ne c.channelId channel.channelId with heq | hne
  · left
    have hlt : (drdynvc.channels.findIdx fun c => c.channelId == channel.channelId) <
        drdynvc.channels.length := by
      obtain ⟨found, hfound, hid⟩ := List.mem_map.mp hmem
      exact List.findIdx_lt_length_of_exists ⟨found, hfound, by simp [hid]⟩
    have hset : channel ∈ (drdynvc.setChannel channel).channels := List.mem_set hlt channel
    have hnodup : (drdynvc.setChannel channel).channelIds.Nodup := by
      rwa [channelIds_setChannel]
    exact List.inj_on_of_nodup_map hnodup hc hset heq
  · right
    exact ⟨(List.mem_or_eq_of_mem_set hc).resolve_right fun h => hne (h ▸ rfl), hne⟩

end DrdynvcPlugin

/-- The channel is the assembler. -/
structure DvcmanChannel.Assembles (channel : DvcmanChannel) (a : Assembler) : Prop where
  callback : channel.channelCallback.isSome
  idle : a.total = 0 → channel.dvcData = none
  fragment : a.total ≠ 0 → ∃ s, channel.dvcData = some s ∧ s.Within ∧ s.front = a.got ∧
    channel.dvcDataLength.toNat = a.total ∧ a.total ≤ s.buffer.length

/-- The channels are the assemblers; their callbacks have been handed the complete messages behind
what they were handed before. -/
structure DrdynvcReceiver.Assembles (first r : DrdynvcReceiver) (family : UInt32 → Assembler) :
    Prop where
  ids : r.drdynvc.channelIds = first.drdynvc.channelIds
  channels : ∀ channel ∈ r.drdynvc.channels, channel.Assembles (family channel.channelId)
  received : ∀ c ∈ first.drdynvc.channelIds,
    partOf c r.received = partOf c first.received ++ (family c).messages

namespace DrdynvcReceiver

variable {first r r' : DrdynvcReceiver} {family : UInt32 → Assembler} {channelId : UInt32}
  {a : Assembler} {calls : DrdynvcReceiveCalls} {bytes : List UInt8}

/-- One of the channels has become another assembler. -/
lemma Assembles.update (h : first.Assembles r family)
    (hids : r'.drdynvc.channelIds = r.drdynvc.channelIds)
    (hchannels : ∀ channel ∈ r'.drdynvc.channels, channel.channelId = channelId ∧
      channel.Assembles a ∨ channel ∈ r.drdynvc.channels ∧ channel.channelId ≠ channelId)
    (hreceived : partOf channelId r'.received =
      partOf channelId first.received ++ a.messages)
    (hothers : ∀ c ≠ channelId, partOf c r'.received = partOf c r.received) :
    first.Assembles r' (Function.update family channelId a) := by
  refine ⟨hids.trans h.ids, fun channel hmem => ?_, fun c hc => ?_⟩
  · rcases hchannels channel hmem with ⟨rfl, ha⟩ | ⟨hold, hne⟩
    · rwa [Function.update_self]
    · rw [Function.update_of_ne hne]
      exact h.channels channel hold
  · rcases eq_or_ne c channelId with rfl | hne
    · rwa [Function.update_self]
    · rw [Function.update_of_ne hne, hothers c hne]
      exact h.received c hc

/-- The channel with an id is set. -/
lemma Assembles.setChannel (h : first.Assembles r family)
    (hnodup : first.drdynvc.channelIds.Nodup) (channel : DvcmanChannel)
    (hmem : channel.channelId ∈ first.drdynvc.channelIds) (ha : channel.Assembles a)
    (hr : r'.drdynvc = r.drdynvc.setChannel channel)
    (hreceived : partOf channel.channelId r'.received =
      partOf channel.channelId first.received ++ a.messages)
    (hothers : ∀ c ≠ channel.channelId, partOf c r'.received = partOf c r.received) :
    first.Assembles r' (Function.update family channel.channelId a) := by
  rw [← h.ids] at hnodup hmem
  refine h.update (hr ▸ DrdynvcPlugin.channelIds_setChannel) (fun c hc => ?_) hreceived hothers
  rw [hr] at hc
  rcases DrdynvcPlugin.mem_setChannel hnodup hmem hc with rfl | hother
  · exact Or.inl ⟨rfl, ha⟩
  · exact Or.inr hother

/-! ### A PDU -/

lemma onDataReceived_apply (hcalls : calls.Work) {channel : DvcmanChannel}
    (hcallback : channel.channelCallback.isSome) (data : List UInt8) :
    r.onDataReceived calls channel data = some (CHANNEL_RC_OK,
      { r with received := r.received ++ [(channel.channelId, data)] }) := by
  obtain ⟨callback, hsome⟩ := Option.isSome_iff_exists.mp hcallback
  simp [onDataReceived, hsome, hcalls.onDataReceived]

lemma partOf_handed (received : List (UInt32 × List UInt8)) (data : List UInt8) :
    partOf channelId (received ++ [(channelId, data)]) = partOf channelId received ++ [data] := by
  rw [partOf_append, partOf_cons_self]
  rfl

lemma partOf_handed_ne {c : UInt32} (hne : c ≠ channelId) (received : List (UInt32 × List UInt8))
    (data : List UInt8) : partOf c (received ++ [(channelId, data)]) = partOf c received := by
  rw [partOf_append, partOf_cons_ne hne.symm]
  exact List.append_nil _

/-- A part for a channel is what the assembler makes of it. -/
lemma receiveChannelData_next (hcalls : calls.Work) (hnodup : first.drdynvc.channelIds.Nodup)
    (h : first.Assembles r family) (hopen : channelId ∈ first.drdynvc.channelIds)
    (htakes : (family channelId).Takes (.next bytes)) :
    ∃ r', r.receiveChannelData calls channelId bytes = some (CHANNEL_RC_OK, r') ∧
      first.Assembles r' (familyStep Assembler.receive family (channelId, .next bytes)) ∧
      r'.dataIn = r.dataIn ∧ r'.queue = r.queue := by
  obtain ⟨channel, hmem, hfind, rfl⟩ := DrdynvcPlugin.findChannelById_of_mem (h.ids ▸ hopen)
  have ha := h.channels channel hmem
  have hreceived := h.received channel.channelId hopen
  rw [receiveChannelData, hfind, familyStep, Assembler.receive]
  dsimp only
  rcases eq_or_ne (family channel.channelId).total 0 with hzero | htotal
  · have hids : r.drdynvc.channelIds.Nodup := h.ids ▸ hnodup
    rw [ha.idle hzero, if_pos hzero]
    refine ⟨_, onDataReceived_apply hcalls ha.callback bytes, ?_, rfl, rfl⟩
    refine h.update rfl (fun c hc => ?_) ?_ fun c hne => partOf_handed_ne hne _ _
    · rcases eq_or_ne c.channelId channel.channelId with heq | hne
      · rw [List.inj_on_of_nodup_map hids hc hmem heq]
        exact Or.inl ⟨rfl, ha.callback, ha.idle, ha.fragment⟩
      · exact Or.inr ⟨hc, hne⟩
    · rw [partOf_handed, hreceived, List.append_assoc]
  · obtain ⟨s, hdata, hwithin, hfront, hlength, hroom⟩ := ha.fragment htotal
    have hpos : s.pos = (family channel.channelId).got.length := by
      rw [← hfront, WStream.length_front hwithin]
    have hfits := htakes htotal
    obtain ⟨hwithin', hfront'⟩ := hwithin.write bytes
    have hpos' : (s.write bytes).pos = s.pos + bytes.length := rfl
    rw [hdata, if_neg htotal]
    dsimp only
    rw [if_neg (by omega)]
    rcases Nat.lt_or_ge (s.pos + bytes.length) (family channel.channelId).total with hmore | hfull
    · rw [if_neg (by omega), if_neg (by omega)]
      refine ⟨_, rfl, ?_, rfl, rfl⟩
      refine h.setChannel hnodup { channel with dvcData := some (s.write bytes) } hopen
        ⟨ha.callback, fun hzero => absurd hzero htotal, fun _ => ?_⟩ rfl hreceived fun c _ => rfl
      refine ⟨_, rfl, hwithin', by rw [hfront', hfront], hlength, ?_⟩
      simp only [WStream.write, List.length_append, List.length_take, List.length_drop]
      omega
    · -- the message is complete
      rw [if_pos (by omega), if_pos (by omega), onDataReceived_apply hcalls ha.callback,
        Option.map_some]
      refine ⟨_, rfl, ?_, rfl, rfl⟩
      refine h.setChannel hnodup { channel with dvcData := none } hopen
        ⟨ha.callback, fun _ => rfl, fun hne => absurd rfl hne⟩ rfl ?_
        fun c hne => partOf_handed_ne hne _ _
      refine (partOf_handed _ _).trans ?_
      rw [hreceived, hfront', hfront, List.append_assoc]

/-- The first part of a message starts it. -/
lemma receiveChannelDataFirst_apply (hcalls : calls.Work)
    (hnodup : first.drdynvc.channelIds.Nodup) (h : first.Assembles r family)
    (hopen : channelId ∈ first.drdynvc.channelIds) {total : UInt32} (htotal : total.toNat ≠ 0) :
    ∃ r', r.receiveChannelDataFirst calls channelId total = (CHANNEL_RC_OK, r') ∧
      first.Assembles r' (Function.update family channelId
        ⟨total.toNat, [], (family channelId).messages⟩) ∧
      r'.dataIn = r.dataIn ∧ r'.queue = r.queue := by
  obtain ⟨channel, hmem, hfind, rfl⟩ := DrdynvcPlugin.findChannelById_of_mem (h.ids ▸ hopen)
  obtain ⟨s, htake, hroomy, hpos, hcapacity⟩ := hcalls.poolTake total.toNat total.toNat_lt
  rw [receiveChannelDataFirst, hfind]
  dsimp only
  rw [htake]
  refine ⟨_, rfl, ?_, rfl, rfl⟩
  refine h.setChannel hnodup { channel with dvcData := some s, dvcDataLength := total } hopen
    ⟨(h.channels channel hmem).callback, fun hzero => absurd hzero htotal, fun _ => ?_⟩ rfl
    (h.received channel.channelId hopen) fun c _ => rfl
  exact ⟨s, rfl, hroomy.within, by rw [WStream.front, hpos, List.take_zero], rfl, hcapacity⟩

lemma closeOnError_ok (channelId : UInt32) (r : DrdynvcReceiver) :
    closeOnError calls channelId (CHANNEL_RC_OK, r) = (CHANNEL_RC_OK, r) := rfl

/-- A PDU with a part, behind its first byte. -/
lemma processPart (hcalls : calls.Work) (hnodup : first.drdynvc.channelIds.Nodup)
    (h : first.Assembles r family) (hopen : channelId ∈ first.drdynvc.channelIds) {part : DvcPart}
    (htakes : (family channelId).Takes part) {s : WStream}
    (hunread : s.unread = (writeVariableUint channelId.toNat).2 ++ part.body) :
    ∃ r', (if part.cmd = DATA_FIRST_PDU then
        r.processDataFirst calls part.sp (writeVariableUint channelId.toNat).1 s
      else r.processData calls (writeVariableUint channelId.toNat).1 s) =
        some (CHANNEL_RC_OK, r') ∧
      first.Assembles r' (familyStep Assembler.receive family (channelId, part)) ∧
      r'.dataIn = r.dataIn ∧ r'.queue = r.queue := by
  have hcb := cblenToBytes_writeVariableUint channelId.toNat
  have hlength := WStream.remainingLength_of_unread hunread
  have hid := uintAt_writeVariableUint channelId.toNat_lt hunread
  have hunread' := WStream.unread_seek_append hunread hcb.symm
  cases part with
  | next bytes =>
    rw [DvcPart.body] at hunread'
    rw [if_neg (by simp [DvcPart.cmd, DATA_PDU, DATA_FIRST_PDU]), processData, if_neg (by omega)]
    dsimp only
    rw [hid, UInt32.ofNat_toNat, hunread']
    obtain ⟨r', hreceive, hrest⟩ := receiveChannelData_next hcalls hnodup h hopen htakes
    exact ⟨r', by rw [hreceive, Option.map_some, closeOnError_ok], hrest⟩
  | first total bytes =>
    obtain ⟨hlt, hmax⟩ := htakes
    have htotal : (UInt32.ofNat total).toNat = total := UInt32.toNat_ofNat_of_lt' hmax
    have hcb' := cblenToBytes_writeVariableUint total
    rw [DvcPart.body] at hunread'
    have hvalue := uintAt_writeVariableUint hmax hunread'
    have hunread'' := WStream.unread_seek_append hunread' hcb'.symm
    rw [DvcPart.body, List.length_append] at hlength
    rw [DvcPart.sp, if_pos (show (DvcPart.first total bytes).cmd = DATA_FIRST_PDU from rfl),
      processDataFirst, if_neg (by omega)]
    dsimp only
    rw [hid, UInt32.ofNat_toNat, hvalue, hunread'']
    obtain ⟨r₁, hfirst, h₁, hdataIn, hqueue⟩ := receiveChannelDataFirst_apply hcalls hnodup h hopen
      (show (UInt32.ofNat total).toNat ≠ 0 by omega)
    rw [hfirst, htotal] at *
    -- what is behind the length is a part of the message that has been started
    have htakes' : (Function.update family channelId
        ⟨total, [], (family channelId).messages⟩ channelId).Takes (.next bytes) := by
      rw [Function.update_self]
      exact fun _ => by simpa using hlt.le
    obtain ⟨r', hreceive, h', hdataIn', hqueue'⟩ :=
      receiveChannelData_next hcalls hnodup h₁ hopen htakes'
    refine ⟨r', ?_, ?_, hdataIn'.trans hdataIn, hqueue'.trans hqueue⟩
    · rw [if_pos rfl, hreceive, Option.map_some, closeOnError_ok]
    · have hstep : Assembler.receive ⟨total, [], (family channelId).messages⟩ (.next bytes) =
          (family channelId).receive (.first total bytes) := by
        have hpos : total ≠ 0 := by omega
        simp [Assembler.receive, hpos, not_le.mpr hlt]
      rw [familyStep, Function.update_self, Function.update_idem, hstep] at h'
      exact h'

/-- A PDU with a part for a channel. -/
lemma orderRecv_part (hcalls : calls.Work) (hnodup : first.drdynvc.channelIds.Nodup)
    (h : first.Assembles r family) (hopen : channelId ∈ first.drdynvc.channelIds) {part : DvcPart}
    (htakes : (family channelId).Takes part) :
    ∃ r', r.orderRecv calls (.ofBytes (part.pdu channelId)) = some (CHANNEL_RC_OK, r') ∧
      first.Assembles r' (familyStep Assembler.receive family (channelId, part)) ∧
      r'.dataIn = r.dataIn ∧ r'.queue = r.queue := by
  obtain ⟨hvalue, hcmd, hsp, hid⟩ := part.header channelId
  have hunread := WStream.unread_ofBytes (part.pdu channelId)
  nth_rewrite 2 [DvcPart.pdu_eq] at hunread
  have hlength := WStream.remainingLength_of_unread hunread
  have hbyte : (bytesUInt8 (part.cmd <<< 4 ||| (writeVariableUint channelId.toNat).1 |||
    part.sp <<< 2)).length = 1 := rfl
  obtain ⟨r', hprocess, hrest⟩ := processPart hcalls hnodup h hopen htakes
    (WStream.unread_seek_append hunread hbyte)
  refine ⟨r', ?_, hrest⟩
  rw [orderRecv, if_neg (by omega), WStream.readUInt8_bytes hunread hvalue]
  dsimp only
  rw [hcmd, hsp, hid, ← hprocess]
  cases part with
  | first total bytes => rfl
  | next bytes => rfl

/-! ### Chunks -/

/-- The flags of the first and the last chunk do not suspend or resume the channel. -/
lemma flags_of_lt {flags : Nat} (h : flags < 4) :
    flags &&& CHANNEL_FLAG_SUSPEND = 0 ∧ flags &&& CHANNEL_FLAG_RESUME = 0 := by
  have hall : ∀ flags < 4, flags &&& CHANNEL_FLAG_SUSPEND = 0 ∧
      flags &&& CHANNEL_FLAG_RESUME = 0 := by decide
  exact hall flags h

/-- A chunk is written behind what there is of its PDU. -/
lemma eventDataReceived_apply (hcalls : calls.Work) {chunk : StaticChunk} (hflags : chunk.flags < 4)
    {s : WStream} (hstream : r.streamFor calls chunk = some s) (hroom : s.Roomy)
    (hsize : s.front.length + chunk.data.length < 2 ^ 32) :
    ∃ s', s'.Roomy ∧ s'.front = s.front ++ chunk.data ∧ r.eventDataReceived calls chunk =
      (CHANNEL_RC_OK, if chunk.flags &&& CHANNEL_FLAG_LAST ≠ 0 then
        { r with dataIn := none, queue := r.queue ++ [s'.front] }
      else { r with dataIn := some s' }) := by
  rw [WStream.length_front hroom.within] at hsize
  obtain ⟨s₁, hensured, hroomy, hpos, hfront, hcapacity⟩ := hroom.ensured hcalls.realloc
    (show s.pos + chunk.data.length ≤ 2 ^ 33 by omega)
  obtain ⟨hroomy', hfront', -⟩ := hroomy.write chunk.data (by omega)
  refine ⟨s₁.write chunk.data, hroomy', by rw [hfront', hfront], ?_⟩
  have hwithin : (s₁.write chunk.data).pos ≤ (s₁.write chunk.data).buffer.length := hroomy'.within
  rw [eventDataReceived, if_neg (by simp [flags_of_lt hflags]), hstream]
  dsimp only
  rw [hensured]
  dsimp only
  rw [if_neg (not_lt.mpr hwithin), if_pos hcalls.messageQueuePost]
  split_ifs <;> rfl

/-- The chunks of some PDUs are still to come, after the front part of the first of them. -/
inductive Arriving (chunkSize : Nat) :
    Option WStream → List StaticChunk → List (UInt32 × DvcPart) → Prop
  | between {dataIn : Option WStream} (rest : List (UInt32 × DvcPart)) :
      Arriving chunkSize dataIn
        (rest.flatMap fun p => freerdpChannelSend chunkSize (p.2.pdu p.1)) rest
  | within {s : WStream} {pieces : List (List UInt8)} (totalSize : Nat) (p : UInt32 × DvcPart)
      (rest : List (UInt32 × DvcPart)) (hroom : s.Roomy) (hne : pieces ≠ [])
      (hpdu : s.front ++ pieces.flatten = p.2.pdu p.1) :
      Arriving chunkSize (some s) (laterChunks totalSize pieces ++
        rest.flatMap fun p => freerdpChannelSend chunkSize (p.2.pdu p.1)) (p :: rest)

/-- A chunk arrives: its PDU goes on, or it is queued. -/
structure Arrives (chunkSize : Nat) (r r' : DrdynvcReceiver) (todo : List StaticChunk)
    (rest : List (UInt32 × DvcPart)) : Prop where
  drdynvc : r'.drdynvc = r.drdynvc
  received : r'.received = r.received
  arriving : ∃ done rest', rest = done ++ rest' ∧
    r'.queue = r.queue ++ done.map (fun p => p.2.pdu p.1) ∧
    Arriving chunkSize r'.dataIn todo rest'

variable {chunkSize : Nat}

/-- A chunk that is not the last one of its PDU. -/
lemma arrives_collected (hcalls : calls.Work) {chunk : StaticChunk} (hflags : chunk.flags < 4)
    (hlast : chunk.flags &&& CHANNEL_FLAG_LAST = 0) {s : WStream}
    (hstream : r.streamFor calls chunk = some s) (hroom : s.Roomy) {pieces : List (List UInt8)}
    (hne : pieces ≠ []) (totalSize : Nat) (p : UInt32 × DvcPart) (rest : List (UInt32 × DvcPart))
    (hpdu : s.front ++ (chunk.data ++ pieces.flatten) = p.2.pdu p.1)
    (hsize : (p.2.pdu p.1).length < 2 ^ 32) :
    ∃ r', r.eventDataReceived calls chunk = (CHANNEL_RC_OK, r') ∧
      Arrives chunkSize r r' (laterChunks totalSize pieces ++
        rest.flatMap fun p => freerdpChannelSend chunkSize (p.2.pdu p.1)) (p :: rest) := by
  have hle : s.front.length + chunk.data.length < 2 ^ 32 := by
    rw [← hpdu, List.length_append, List.length_append] at hsize
    omega
  obtain ⟨s', hroom', hfront', hevent⟩ := eventDataReceived_apply hcalls hflags hstream hroom hle
  rw [if_neg (not_not.mpr hlast)] at hevent
  refine ⟨_, hevent, rfl, rfl, [], p :: rest, rfl, (List.append_nil _).symm, ?_⟩
  exact .within totalSize p rest hroom' hne (by rw [hfront', List.append_assoc, hpdu])

/-- With the last chunk of a PDU it is queued. -/
lemma arrives_queued (hcalls : calls.Work) {chunk : StaticChunk} (hflags : chunk.flags < 4)
    (hlast : chunk.flags &&& CHANNEL_FLAG_LAST ≠ 0) {s : WStream}
    (hstream : r.streamFor calls chunk = some s) (hroom : s.Roomy) (p : UInt32 × DvcPart)
    (rest : List (UInt32 × DvcPart)) (hpdu : s.front ++ chunk.data = p.2.pdu p.1)
    (hsize : (p.2.pdu p.1).length < 2 ^ 32) :
    ∃ r', r.eventDataReceived calls chunk = (CHANNEL_RC_OK, r') ∧
      Arrives chunkSize r r'
        (rest.flatMap fun p => freerdpChannelSend chunkSize (p.2.pdu p.1)) (p :: rest) := by
  have hle : s.front.length + chunk.data.length < 2 ^ 32 := by
    rwa [← hpdu, List.length_append] at hsize
  obtain ⟨s', -, hfront', hevent⟩ := eventDataReceived_apply hcalls hflags hstream hroom hle
  rw [if_pos hlast] at hevent
  refine ⟨_, hevent, rfl, rfl, [p], rest, rfl, ?_, .between rest⟩
  rw [hfront', hpdu]
  rfl

/-- The next chunk arrives. -/
lemma Arriving.step (hcalls : calls.Work) (hchunk : 0 < chunkSize) {chunk : StaticChunk}
    {todo : List StaticChunk} {rest : List (UInt32 × DvcPart)}
    (hsize : ∀ p ∈ rest, (p.2.pdu p.1).length < 2 ^ 32)
    (h : Arriving chunkSize r.dataIn (chunk :: todo) rest) :
    ∃ r', r.eventDataReceived calls chunk = (CHANNEL_RC_OK, r') ∧
      Arrives chunkSize r r' todo rest := by
  obtain ⟨all, hall⟩ : ∃ all, all = chunk :: todo := ⟨_, rfl⟩
  obtain ⟨dataIn, hdataIn⟩ : ∃ dataIn, dataIn = r.dataIn := ⟨_, rfl⟩
  rw [← hall, ← hdataIn] at h
  cases h with
  | between =>
    cases rest with
    | nil => exact absurd hall (List.cons_ne_nil _ _).symm
    | cons p rest =>
      have hpdu := hsize p List.mem_cons_self
      have hflatten := flatten_pieces hchunk (p.2.pdu p.1)
      obtain ⟨s, htake, hroom, hpos, -⟩ := hcalls.poolTake (p.2.pdu p.1).length hpdu
      have hfront : s.front = [] := by rw [WStream.front, hpos, List.take_zero]
      have hstream : ∀ {c : StaticChunk}, c.flags &&& CHANNEL_FLAG_FIRST ≠ 0 →
          c.totalSize = (p.2.pdu p.1).length → r.streamFor calls c = some s := by
        intro c hc hlength
        rw [streamFor, if_pos hc, hlength, htake]
      rw [List.flatMap_cons, freerdpChannelSend] at hall
      rcases hcut : pieces chunkSize (p.2.pdu p.1) with _ | ⟨piece, _ | ⟨piece', later⟩⟩
      · refine absurd hcut (pieces_ne_nil ?_)
        rw [DvcPart.pdu_eq, bytesUInt8]
        exact List.cons_ne_nil _ _
      · rw [hcut] at hall hflatten
        rw [List.flatten_singleton] at hflatten
        obtain ⟨rfl, rfl⟩ := List.cons.inj hall
        have hflags : (CHANNEL_FLAG_FIRST ||| CHANNEL_FLAG_LAST) < 4 ∧
            (CHANNEL_FLAG_FIRST ||| CHANNEL_FLAG_LAST) &&& CHANNEL_FLAG_FIRST ≠ 0 ∧
            (CHANNEL_FLAG_FIRST ||| CHANNEL_FLAG_LAST) &&& CHANNEL_FLAG_LAST ≠ 0 := by decide
        exact arrives_queued hcalls hflags.1 hflags.2.2 (hstream hflags.2.1 rfl) hroom p rest
          (by rw [hfront, ← hflatten]; rfl) hpdu
      · rw [hcut] at hall hflatten
        obtain ⟨rfl, rfl⟩ := List.cons.inj hall
        have hflags : CHANNEL_FLAG_FIRST < 4 ∧ CHANNEL_FLAG_FIRST &&& CHANNEL_FLAG_FIRST ≠ 0 ∧
            CHANNEL_FLAG_FIRST &&& CHANNEL_FLAG_LAST = 0 := by decide
        exact arrives_collected hcalls hflags.1 hflags.2.2 (hstream hflags.2.1 rfl) hroom
          (List.cons_ne_nil piece' later) _ p rest (by rw [hfront, ← hflatten]; rfl) hpdu
  | @within s pieces totalSize p rest hroom hne hpdu =>
    have hstream : ∀ {c : StaticChunk}, c.flags &&& CHANNEL_FLAG_FIRST = 0 →
        r.streamFor calls c = some s := by
      intro c hc
      rw [streamFor, if_neg (not_not.mpr hc), hdataIn]
    rcases pieces with _ | ⟨piece, _ | ⟨piece', later⟩⟩
    · exact absurd rfl hne
    · obtain ⟨rfl, rfl⟩ := List.cons.inj hall
      have hflags : CHANNEL_FLAG_LAST < 4 ∧ CHANNEL_FLAG_LAST &&& CHANNEL_FLAG_FIRST = 0 ∧
          CHANNEL_FLAG_LAST &&& CHANNEL_FLAG_LAST ≠ 0 := by decide
      exact arrives_queued hcalls hflags.1 hflags.2.2 (hstream hflags.2.1) hroom p rest
        (by rw [← hpdu, List.flatten_singleton]) (hsize p List.mem_cons_self)
    · obtain ⟨rfl, rfl⟩ := List.cons.inj hall
      have hflags : 0 < 4 ∧ 0 &&& CHANNEL_FLAG_FIRST = 0 ∧ 0 &&& CHANNEL_FLAG_LAST = 0 := by decide
      exact arrives_collected hcalls hflags.1 hflags.2.2 (hstream hflags.2.1) hroom
        (List.cons_ne_nil piece' later) totalSize p rest (by rw [← hpdu]; rfl)
        (hsize p List.mem_cons_self)

/-- After the last chunk no PDU is left. -/
lemma Arriving.eq_nil {dataIn : Option WStream}
    {rest : List (UInt32 × DvcPart)} (h : Arriving chunkSize dataIn [] rest) : rest = [] := by
  obtain ⟨todo, htodo⟩ : ∃ todo : List StaticChunk, todo = [] := ⟨_, rfl⟩
  rw [← htodo] at h
  cases h with
  | between =>
    cases rest with
    | nil => rfl
    | cons p rest =>
      have hpieces : pieces chunkSize (p.2.pdu p.1) ≠ [] := by
        refine pieces_ne_nil ?_
        rw [DvcPart.pdu_eq, bytesUInt8]
        exact List.cons_ne_nil _ _
      rw [List.flatMap_cons, freerdpChannelSend] at htodo
      rcases hcut : pieces chunkSize (p.2.pdu p.1) with _ | ⟨piece, _ | ⟨piece', later⟩⟩
      · exact absurd hcut hpieces
      · rw [hcut] at htodo
        exact absurd htodo (List.cons_ne_nil _ _)
      · rw [hcut] at htodo
        exact absurd htodo (List.cons_ne_nil _ _)
  | @within s pieces totalSize p rest hroom hne hpdu =>
    rcases pieces with _ | ⟨piece, _ | ⟨piece', later⟩⟩
    · exact absurd rfl hne
    · exact absurd htodo (List.cons_ne_nil _ _)
    · exact absurd htodo (List.cons_ne_nil _ _)

/-! ### Runs -/

/-- The parts that wait in the queue and the parts that are to come lead the channels to `final`. -/
structure Delivers (chunkSize : Nat) (first r : DrdynvcReceiver) (todo : List StaticChunk)
    (final family : UInt32 → Assembler) (queued rest : List (UInt32 × DvcPart)) : Prop where
  channels : first.Assembles r family
  queue : r.queue = queued.map fun p => p.2.pdu p.1
  arriving : Arriving chunkSize r.dataIn todo rest
  takes : AlongRun (familyStep Assembler.receive) (fun family p => (family p.1).Takes p.2) family
    (queued ++ rest)
  parts : ∀ p ∈ queued ++ rest, p.1 ∈ first.drdynvc.channelIds ∧ (p.2.pdu p.1).length < 2 ^ 32
  leads : (queued ++ rest).foldl (familyStep Assembler.receive) family = final

variable {final : UInt32 → Assembler} {queued rest : List (UInt32 × DvcPart)}
  {todo : List StaticChunk}

/-- A chunk arrives. -/
lemma Delivers.dataReceived (hcalls : calls.Work) (hchunk : 0 < chunkSize) {chunk : StaticChunk}
    (h : Delivers chunkSize first r (chunk :: todo) final family queued rest) :
    ∃ r' queued' rest', r.eventDataReceived calls chunk = (CHANNEL_RC_OK, r') ∧
      Delivers chunkSize first r' todo final family queued' rest' := by
  obtain ⟨r', hevent, hdrdynvc, hreceived, done, rest', rfl, hqueue, harriving⟩ :=
    h.arriving.step hcalls hchunk fun p hp => (h.parts p (List.mem_append_right _ hp)).2
  refine ⟨r', queued ++ done, rest', hevent, ⟨?_, ?_, ?_⟩, ?_, harriving, ?_, ?_, ?_⟩
  · rw [hdrdynvc]
    exact h.channels.ids
  · rw [hdrdynvc]
    exact h.channels.channels
  · rw [hreceived]
    exact h.channels.received
  · rw [hqueue, h.queue, List.map_append]
  · rw [List.append_assoc]
    exact h.takes
  · rw [List.append_assoc]
    exact h.parts
  · rw [List.append_assoc]
    exact h.leads

/-- The oldest PDU of the queue is read. -/
lemma Delivers.clientThread (hcalls : calls.Work) (hnodup : first.drdynvc.channelIds.Nodup)
    (hne : r.queue ≠ []) (h : Delivers chunkSize first r todo final family queued rest) :
    ∃ r' family' queued', r.clientThreadRound calls = some (CHANNEL_RC_OK, r') ∧
      Delivers chunkSize first r' todo final family' queued' rest := by
  cases queued with
  | nil => exact absurd h.queue hne
  | cons p queued =>
    have h₁ : first.Assembles { r with queue := queued.map fun p => p.2.pdu p.1 } family :=
      ⟨h.channels.ids, h.channels.channels, h.channels.received⟩
    obtain ⟨r', hrecv, hassembles, hdataIn, hqueue⟩ := orderRecv_part hcalls hnodup h₁
      (h.parts p List.mem_cons_self).1 h.takes.1
    refine ⟨r', _, queued, ?_, hassembles, hqueue, ?_, h.takes.2, ?_, h.leads⟩
    · rw [clientThreadRound, h.queue]
      exact hrecv
    · rw [hdataIn]
      exact h.arriving
    · exact fun p hp => h.parts p (List.mem_cons_of_mem _ hp)

lemma step_of_run {e : DrdynvcEvent} (h : e.run r = some (CHANNEL_RC_OK, r')) :
    e.Succeeds r ∧ e.step r = r' := by
  rw [DrdynvcEvent.Succeeds, DrdynvcEvent.step, h]
  exact ⟨rfl, rfl⟩

/-- A step of one of the threads. -/
lemma Delivers.step (hnodup : first.drdynvc.channelIds.Nodup) (hchunk : 0 < chunkSize)
    {e : DrdynvcEvent} (hcalls : e.calls.Work) (hpossible : e.Possible r)
    (h : Delivers chunkSize first r (e.chunks ++ todo) final family queued rest) :
    e.Succeeds r ∧ ∃ family' queued' rest',
      Delivers chunkSize first (e.step r) todo final family' queued' rest' := by
  cases e with
  | dataReceived calls chunk =>
    obtain ⟨r', queued', rest', hevent, hnext⟩ := Delivers.dataReceived hcalls hchunk h
    obtain ⟨hsucceeds, hstep⟩ := step_of_run
      (show (DrdynvcEvent.dataReceived calls chunk).run r = _ from congrArg some hevent)
    rw [hstep]
    exact ⟨hsucceeds, family, queued', rest', hnext⟩
  | clientThread calls =>
    obtain ⟨r', family', queued', hround, hnext⟩ := Delivers.clientThread hcalls hnodup hpossible h
    obtain ⟨hsucceeds, hstep⟩ := step_of_run
      (show (DrdynvcEvent.clientThread calls).run r = _ from hround)
    rw [hstep]
    exact ⟨hsucceeds, family', queued', rest, hnext⟩

/-- However the steps of the threads are mixed, none of them fails. -/
lemma Delivers.run (hnodup : first.drdynvc.channelIds.Nodup) (hchunk : 0 < chunkSize)
    {events : List DrdynvcEvent} (hcalls : ∀ e ∈ events, e.calls.Work)
    (hpossible : AlongRun DrdynvcEvent.step DrdynvcEvent.Possible r events)
    (h : Delivers chunkSize first r (events.flatMap DrdynvcEvent.chunks ++ todo) final family queued
      rest) :
    AlongRun DrdynvcEvent.step DrdynvcEvent.Succeeds r events ∧ ∃ family' queued' rest',
      Delivers chunkSize first (events.foldl DrdynvcEvent.step r) todo final family' queued'
        rest' := by
  induction events generalizing r family queued rest with
  | nil => exact ⟨trivial, family, queued, rest, h⟩
  | cons e events ih =>
    rw [List.flatMap_cons, List.append_assoc] at h
    obtain ⟨hsucceeds, family', queued', rest', hnext⟩ :=
      h.step hnodup hchunk (hcalls e List.mem_cons_self) hpossible.1
    obtain ⟨hlater, hfinal⟩ :=
      ih (fun e he => hcalls e (List.mem_cons_of_mem _ he)) hpossible.2 hnext
    exact ⟨⟨hsucceeds, hlater⟩, hfinal⟩

end DrdynvcReceiver

/-- Everything that is called succeeds; the pool has new streams. -/
def workingCalls : DrdynvcReceiveCalls where
  calloc := true
  arrayListAdd := true
  streamPoolTake := true
  onNewChannelConnection _ _ := ⟨CHANNEL_RC_OK, true, 0⟩
  onChannelConnected _ := CHANNEL_RC_OK
  onOpen _ := CHANNEL_RC_OK
  virtualChannelWrite _ := CHANNEL_RC_OK
  poolTake n := some ⟨List.replicate (max n 16) 0, 0⟩
  realloc := mallocAll
  messageQueuePost := true
  onDataReceived _ _ := CHANNEL_RC_OK

lemma work_workingCalls : workingCalls.Work := by
  refine ⟨fun n hn => ⟨_, rfl, ⟨Nat.zero_le _, ?_, ?_⟩, rfl, ?_⟩, fun n hn => decide_eq_true hn, rfl,
    fun _ _ => rfl⟩
  · simp
  · simp only [List.length_replicate]
    omega
  · simp

/-- The channels 3 and 300. -/
def twoClientChannels : DrdynvcReceiver where
  drdynvc := ⟨.ready, 3, [⟨CHANNEL_RC_OK, 3, [], some 0, none, 0⟩,
    ⟨CHANNEL_RC_OK, 300, [], some 1, none, 0⟩], [], [], []⟩
  dataIn := none
  queue := []
  received := []

/-- A message on channel 3 in two PDUs, with one on channel 300 between them. -/
def mixedPdus : List (UInt32 × List UInt8) :=
  let long := wtsVirtualChannelWritePdus 20 3 (List.replicate 30 7)
  (long.take 1).map (Prod.mk 3) ++ (wtsVirtualChannelWritePdus 20 300 [1, 2]).map (Prod.mk 300) ++
    (long.drop 1).map (Prod.mk 3)

/-- The first PDU is read when the second one has arrived. -/
def mixedEvents : List DrdynvcEvent :=
  let chunks := (mixedPdus.flatMap fun p => freerdpChannelSend 8 p.2).map some
  (chunks.take 4 ++ [none] ++ chunks.drop 4 ++ [none, none]).map fun chunk : Option StaticChunk =>
    chunk.elim (.clientThread workingCalls) (.dataReceived workingCalls)

lemma partOf_mixedPdus (c : UInt32) : partOf c mixedPdus =
    (if c = 3 then [List.replicate 30 7] else if c = 300 then [[1, 2]] else []).flatMap
      (wtsVirtualChannelWritePdus 20 c) := by
  simp only [mixedPdus, partOf_append, partOf_map_mk]
  rcases eq_or_ne c 3 with rfl | h3
  · simp only [if_true, show ¬(300 : UInt32) = 3 by decide, if_false, List.append_nil,
      List.take_append_drop, List.flatMap_cons, List.flatMap_nil]
  · rcases eq_or_ne c 300 with rfl | h300
    · simp
    · simp [h3, h300, Ne.symm h3, Ne.symm h300]

end FreeRdp
