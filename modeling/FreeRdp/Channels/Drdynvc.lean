import FreeRdp.Winpr.Reading

/-!
# Channel manager

The part of `drdynvc_main.c` that answers a request of the server for a new dynamic channel. The
channel is added to the channels of the manager before the listeners are asked, and what a failure
has left of it is looked for by its id.
-/

namespace FreeRdp

open WStream

def CHANNEL_RC_OK : Nat := 0
def CHANNEL_RC_NOT_CONNECTED : Nat := 4
def CHANNEL_RC_NO_MEMORY : Nat := 12
def ERROR_INVALID_DATA : Nat := 0x0D
def ERROR_INTERNAL_ERROR : Nat := 0x54F
def ERROR_NOT_CONNECTED : Nat := 0x8CA

def CREATE_REQUEST_PDU : Nat := 0x01
def DATA_FIRST_PDU : Nat := 0x02
def DATA_PDU : Nat := 0x03
def CLOSE_REQUEST_PDU : Nat := 0x04
def CAPABILITY_REQUEST_PDU : Nat := 0x05

def CHANNEL_FLAG_FIRST : Nat := 0x01
def CHANNEL_FLAG_LAST : Nat := 0x02

/-! ### Variable integers -/

/-- `drdynvc_cblen_to_bytes`. -/
def cblenToBytes : Nat → Nat
  | 0 => 1
  | 1 => 2
  | _ => 4

/-- The value of `Stream_Read_UINT8`, `Stream_Read_UINT16` or `Stream_Read_UINT32`. -/
def uintAt (n : Nat) (s : WStream) : Nat :=
  match n with
  | 1 => s.readUInt8.1
  | 2 => s.readUInt16.1
  | _ => s.readUInt32.1

/-! ### The manager -/

/-- A callback object, by a number of its own. -/
abbrev ChannelCallback := Nat

/-- `DVCMAN_CHANNEL`. -/
structure DvcmanChannel where
  status : Nat
  channelId : UInt32
  channelName : List UInt8
  channelCallback : Option ChannelCallback
  dvcData : Option WStream
  dvcDataLength : UInt32
  deriving DecidableEq, Repr

/-- `DVCMAN_LISTENER`. -/
structure DvcmanListener where
  channelName : List UInt8
  listenerCallback : Nat
  deriving DecidableEq, Repr

/-- `DRDYNVC_STATE_*` of the client. -/
inductive DrdynvcClientState
  | initial | capabilities | ready | openingChannel | sendReceive | final
  deriving DecidableEq, Repr

/-- `drdynvcPlugin` with its `DVCMAN`, the PDUs it has sent, and the callbacks whose `OnClose` it
has called. -/
structure DrdynvcPlugin where
  state : DrdynvcClientState
  version : Nat
  channels : List DvcmanChannel
  listeners : List DvcmanListener
  sent : List (List UInt8)
  closed : List ChannelCallback
  deriving DecidableEq, Repr

/-- What a listener says to a new channel. -/
structure Acceptance where
  error : Nat
  bAccept : Bool
  callback : ChannelCallback
  deriving DecidableEq, Repr

/-- The outcome of what is called outside: memory for a channel, a place in the list of channels and
a stream of the pool, the listeners, the context, the callback of a channel, and the writing. -/
structure DrdynvcCalls where
  calloc : Bool
  arrayListAdd : Bool
  streamPoolTake : Bool
  onNewChannelConnection : DvcmanListener → UInt32 → Acceptance
  onChannelConnected : List UInt8 → Nat
  onOpen : ChannelCallback → Nat
  virtualChannelWrite : List UInt8 → Nat

namespace DrdynvcPlugin

variable (calls : DrdynvcCalls)

/-- `dvcman_find_channel_by_id`. -/
def findChannelById (drdynvc : DrdynvcPlugin) (channelId : UInt32) : Option DvcmanChannel :=
  drdynvc.channels.find? fun channel => channel.channelId == channelId

/-- `drdynvc_send`. -/
def send (drdynvc : DrdynvcPlugin) (pdu : List UInt8) : Nat × DrdynvcPlugin :=
  let status := calls.virtualChannelWrite pdu
  if status = CHANNEL_RC_OK then
    (CHANNEL_RC_OK, { drdynvc with sent := drdynvc.sent ++ [pdu] })
  else if status = CHANNEL_RC_NOT_CONNECTED then (CHANNEL_RC_OK, drdynvc)
  else (status, drdynvc)

/-- `drdynvc_send_capability_response`. -/
def sendCapabilityResponse (drdynvc : DrdynvcPlugin) : Nat × DrdynvcPlugin :=
  if calls.streamPoolTake then
    drdynvc.send calls (bytesUInt16 0x0050 ++ bytesUInt16 drdynvc.version)
  else (CHANNEL_RC_NO_MEMORY, drdynvc)

/-- `dvcman_channel_free`: the callback of the channel is told. -/
def channelFree (drdynvc : DrdynvcPlugin) (channel : DvcmanChannel) : DrdynvcPlugin :=
  { drdynvc with closed := drdynvc.closed ++ channel.channelCallback.toList }

/-- `dvcman_channel_new`. -/
def channelNew (drdynvc : DrdynvcPlugin) (channelId : UInt32) (channelName : List UInt8) :
    Option DvcmanChannel :=
  if (drdynvc.findChannelById channelId).isSome then none
  else if calls.calloc then some ⟨CHANNEL_RC_OK, channelId, channelName, none, none, 0⟩
  else none

/-- What a listener makes of a new channel. -/
def connect (listener : DvcmanListener) (channel : DvcmanChannel) : Nat × DvcmanChannel :=
  let acceptance := calls.onNewChannelConnection listener channel.channelId
  if acceptance.error = CHANNEL_RC_OK ∧ acceptance.bAccept then
    (calls.onChannelConnected channel.channelName,
      { channel with status := CHANNEL_RC_OK, channelCallback := some acceptance.callback })
  else if acceptance.error ≠ CHANNEL_RC_OK then (acceptance.error, channel)
  else (ERROR_INTERNAL_ERROR, channel)

/-- `dvcman_create_channel`: the channel is in the list when the listeners are asked. -/
def createChannel (drdynvc : DrdynvcPlugin) (channelId : UInt32) (channelName : List UInt8) :
    Nat × DrdynvcPlugin :=
  match drdynvc.channelNew calls channelId channelName with
  | none => (CHANNEL_RC_NO_MEMORY, drdynvc)
  | some channel =>
    let channel := { channel with status := ERROR_NOT_CONNECTED }
    if calls.arrayListAdd then
      let (error, channel) :=
        match drdynvc.listeners.find? fun listener => listener.channelName == channelName with
        | some listener => connect calls listener channel
        | none => (ERROR_INTERNAL_ERROR, channel)
      (error, { drdynvc with channels := drdynvc.channels ++ [channel] })
    else (ERROR_INTERNAL_ERROR, drdynvc)

/-- `dvcman_open_channel`. -/
def openChannel (drdynvc : DrdynvcPlugin) (channelId : UInt32) : Nat :=
  match drdynvc.findChannelById channelId with
  | none => ERROR_INTERNAL_ERROR
  | some channel =>
    if channel.status = CHANNEL_RC_OK then
      match channel.channelCallback with
      | some callback => calls.onOpen callback
      | none => CHANNEL_RC_OK
    else CHANNEL_RC_OK

/-- The channel that has been found is removed from the list. -/
def removeChannel (drdynvc : DrdynvcPlugin) (channelId : UInt32) : DrdynvcPlugin :=
  { drdynvc with
    channels := drdynvc.channels.eraseP fun channel => channel.channelId == channelId }

/-- `dvcman_close_channel`. -/
def closeChannel (drdynvc : DrdynvcPlugin) (channelId : UInt32) (bSendClosePDU : Bool) :
    Nat × DrdynvcPlugin :=
  match drdynvc.findChannelById channelId with
  | none => (CHANNEL_RC_OK, drdynvc)
  | some channel =>
    let (error, drdynvc) :=
      if bSendClosePDU then
        if calls.streamPoolTake then
          drdynvc.send calls (bytesUInt8 0x42 ++ bytesUInt32 channelId.toNat)
        else (CHANNEL_RC_NO_MEMORY, drdynvc)
      else (CHANNEL_RC_OK, drdynvc)
    (error, (drdynvc.channelFree channel).removeChannel channelId)

/-- What a request has led to: the status that is returned, and the creation status of the answer,
if it has been handed over. -/
structure CreateResult where
  status : Nat
  answered : Option Nat
  drdynvc : DrdynvcPlugin

/-- The channel id of a request. -/
def requestChannelId (cbChId : Nat) (s : WStream) : UInt32 :=
  UInt32.ofNat (uintAt (cblenToBytes cbChId) s)

/-- The name behind it, which ends with the first 0. -/
def requestChannelName (cbChId : Nat) (s : WStream) : List UInt8 :=
  (s.seek (cblenToBytes cbChId)).unread.takeWhile (· ≠ 0)

/-- `drdynvc_process_create_request` behind the capabilities. -/
def answerCreateRequest (drdynvc : DrdynvcPlugin) (cbChId : Nat) (s : WStream) : CreateResult :=
  let cb := cblenToBytes cbChId
  if s.remainingLength < cb then ⟨ERROR_INVALID_DATA, none, drdynvc⟩
  else
    let channelId := requestChannelId cbChId s
    let pos := s.pos + cb
    let name := requestChannelName cbChId s
    if (s.seek cb).unread.length ≤ name.length then ⟨ERROR_INVALID_DATA, none, drdynvc⟩
    else
      let (channelStatus, drdynvc) := drdynvc.createChannel calls channelId name
      if calls.streamPoolTake then
        let creationStatus := if channelStatus = CHANNEL_RC_OK then 0 else 0xC0000001
        let (status, drdynvc) := drdynvc.send calls
          (bytesUInt8 (CREATE_REQUEST_PDU <<< 4 ||| cbChId) ++
            ((s.setPosition 1).read (pos - 1)).1 ++ bytesUInt32 creationStatus)
        if status ≠ CHANNEL_RC_OK then ⟨status, none, drdynvc⟩
        else if channelStatus = CHANNEL_RC_OK then
          ⟨drdynvc.openChannel calls channelId, some creationStatus, drdynvc⟩
        else
          let (status, drdynvc) := drdynvc.closeChannel calls channelId false
          ⟨status, some creationStatus, drdynvc⟩
      else ⟨CHANNEL_RC_NO_MEMORY, none, drdynvc⟩

/-- `drdynvc_process_create_request`. -/
def processCreateRequest (drdynvc : DrdynvcPlugin) (cbChId : Nat) (s : WStream) : CreateResult :=
  if drdynvc.state = .capabilities then
    let (status, drdynvc) := { drdynvc with version := 3 }.sendCapabilityResponse calls
    if status ≠ CHANNEL_RC_OK then ⟨status, none, drdynvc⟩
    else { drdynvc with state := .ready }.answerCreateRequest calls cbChId s
  else drdynvc.answerCreateRequest calls cbChId s

/-! ### Refused requests -/

/-- The channels that have been opened, with their callbacks and their data. -/
def openChannels (drdynvc : DrdynvcPlugin) : List DvcmanChannel :=
  drdynvc.channels.filter fun channel => channel.status == CHANNEL_RC_OK

variable {calls} {drdynvc : DrdynvcPlugin} {channelId : UInt32} {channelName : List UInt8}

lemma send_channels (pdu : List UInt8) :
    (drdynvc.send calls pdu).2.channels = drdynvc.channels := by
  unfold send
  dsimp only
  split_ifs <;> rfl

lemma sendCapabilityResponse_channels :
    (drdynvc.sendCapabilityResponse calls).2.channels = drdynvc.channels := by
  unfold sendCapabilityResponse
  split
  · exact send_channels _
  · rfl

lemma closeChannel_channels :
    (drdynvc.closeChannel calls channelId false).2.channels =
      drdynvc.channels.eraseP fun channel => channel.channelId == channelId := by
  unfold closeChannel
  cases hfind : drdynvc.findChannelById channelId with
  | none =>
    refine (List.eraseP_of_forall_not ?_).symm
    intro channel hmem heq
    exact absurd heq (List.find?_eq_none.mp hfind channel hmem)
  | some channel => rfl

lemma connect_channelId (listener : DvcmanListener) (channel : DvcmanChannel) :
    (connect calls listener channel).2.channelId = channel.channelId := by
  unfold connect
  dsimp only
  split_ifs <;> rfl

/-- A channel of a manager that has another one with its id is not created. -/
lemma createChannel_of_found (h : (drdynvc.findChannelById channelId).isSome) :
    drdynvc.createChannel calls channelId channelName = (CHANNEL_RC_NO_MEMORY, drdynvc) := by
  unfold createChannel channelNew
  rw [if_pos h]

/-- A new channel with the id is the last one of the list, if there is any. -/
lemma createChannel_channels (h : drdynvc.findChannelById channelId = none) :
    (drdynvc.createChannel calls channelId channelName).2.channels = drdynvc.channels ∨
      ∃ channel, (drdynvc.createChannel calls channelId channelName).2.channels =
        drdynvc.channels ++ [channel] ∧ channel.channelId = channelId := by
  unfold createChannel channelNew
  rw [h, if_neg (by decide)]
  split
  · exact Or.inl rfl
  rename_i channel hnew
  split at hnew
  · cases hnew
    dsimp only
    split
    · right
      split
      · exact ⟨_, rfl, connect_channelId _ _⟩
      · exact ⟨_, rfl, rfl⟩
    · exact Or.inl rfl
  · cases hnew

/-- A channel that has not been there is created and closed without a change. -/
lemma closeChannel_createChannel (h : drdynvc.findChannelById channelId = none) :
    ((drdynvc.createChannel calls channelId channelName).2.channels.eraseP
      fun channel => channel.channelId == channelId) = drdynvc.channels := by
  have hnot : ∀ channel ∈ drdynvc.channels, ¬(channel.channelId == channelId) = true :=
    List.find?_eq_none.mp h
  rcases createChannel_channels h with hsame | ⟨channel, hadded, hid⟩
  · rw [hsame]
    exact List.eraseP_of_forall_not hnot
  · have hmatch : (channel.channelId == channelId) = true := beq_iff_eq.mpr hid
    rw [hadded, List.eraseP_append_right _ hnot, List.eraseP_cons, hmatch]
    exact List.append_nil _

/-- Without the channel that is found, the open channels are the same if that one is not open. -/
lemma filter_eraseP_eq_iff {α : Type} {p q : α → Bool} {a : α} {as : List α}
    (h : as.find? p = some a) : (as.eraseP p).filter q = as.filter q ↔ q a = false := by
  obtain ⟨ha, front, back, rfl, hfront⟩ := List.find?_eq_some_iff_append.mp h
  have hnot : ∀ b ∈ front, ¬p b = true := fun b hb hpb => by
    have hfalse := hfront b hb
    rw [hpb] at hfalse
    cases hfalse
  rw [List.eraseP_append_right _ hnot, List.eraseP_cons_of_pos ha, List.filter_append,
    List.filter_append, List.append_cancel_left_eq, List.filter_cons]
  cases q a with
  | false => exact iff_of_true rfl rfl
  | true =>
    refine iff_of_false (fun heq => ?_) nofun
    have hlength := congrArg List.length heq
    rw [if_pos rfl, List.length_cons] at hlength
    omega

/-- What a request that is refused leaves: the channels without the one that has the id. -/
lemma answerCreateRequest_refused {cbChId : Nat} {s : WStream}
    (h : (drdynvc.answerCreateRequest calls cbChId s).answered = some 0xC0000001) :
    (drdynvc.answerCreateRequest calls cbChId s).drdynvc.channels =
      (drdynvc.createChannel calls (requestChannelId cbChId s)
        (requestChannelName cbChId s)).2.channels.eraseP
          fun channel => channel.channelId == requestChannelId cbChId s := by
  unfold answerCreateRequest at h ⊢
  dsimp only at h ⊢
  split_ifs at h ⊢
  · cases h
  · exact closeChannel_channels.trans (by rw [send_channels])

/-- A refused request behind the capabilities. -/
lemma answerCreateRequest_refused_iff {cbChId : Nat} {s : WStream}
    (h : (drdynvc.answerCreateRequest calls cbChId s).answered = some 0xC0000001) :
    (drdynvc.answerCreateRequest calls cbChId s).drdynvc.openChannels = drdynvc.openChannels ↔
      ∀ channel, drdynvc.findChannelById (requestChannelId cbChId s) = some channel →
        channel.status ≠ CHANNEL_RC_OK := by
  unfold openChannels
  rw [answerCreateRequest_refused h]
  cases hfind : drdynvc.findChannelById (requestChannelId cbChId s) with
  | none =>
    rw [closeChannel_createChannel hfind]
    exact iff_of_true rfl nofun
  | some channel =>
    have hfound : (drdynvc.findChannelById (requestChannelId cbChId s)).isSome := hfind ▸ rfl
    rw [createChannel_of_found hfound, filter_eraseP_eq_iff hfind, beq_eq_false_iff_ne]
    constructor
    · rintro hstatus channel' ⟨⟩
      exact hstatus
    · exact fun hstatus => hstatus channel rfl

/-- A request is refused without a change of the open channels, their callbacks and their data, if
and only if none of them has its channel id. -/
theorem processCreateRequest_refused_iff {cbChId : Nat} {s : WStream}
    (h : (drdynvc.processCreateRequest calls cbChId s).answered = some 0xC0000001) :
    (drdynvc.processCreateRequest calls cbChId s).drdynvc.openChannels = drdynvc.openChannels ↔
      ∀ channel, drdynvc.findChannelById (requestChannelId cbChId s) = some channel →
        channel.status ≠ CHANNEL_RC_OK := by
  unfold processCreateRequest at h ⊢
  split_ifs at h ⊢
  · dsimp only at h ⊢
    split_ifs at h ⊢
    have hiff := answerCreateRequest_refused_iff h
    simp only [openChannels, findChannelById, sendCapabilityResponse_channels] at hiff ⊢
    exact hiff
  · exact answerCreateRequest_refused_iff h

/-- Everything outside succeeds. -/
def succeeding : DrdynvcCalls where
  calloc := true
  arrayListAdd := true
  streamPoolTake := true
  onNewChannelConnection := fun listener _ => ⟨CHANNEL_RC_OK, true, listener.listenerCallback⟩
  onChannelConnected := fun _ => CHANNEL_RC_OK
  onOpen := fun _ => CHANNEL_RC_OK
  virtualChannelWrite := fun _ => CHANNEL_RC_OK

/-- A manager with one channel, of which one byte of a message has been received. -/
def oneChannel : DrdynvcPlugin where
  state := .ready
  version := 3
  channels := [⟨CHANNEL_RC_OK, 5, [0x41], some 7, some ⟨[1, 0, 0], 1⟩, 3⟩]
  listeners := []
  sent := []
  closed := []

theorem processCreateRequest_refused_noListener :
    (oneChannel.processCreateRequest succeeding 0 ⟨[0x10, 6, 0x42, 0], 1⟩).drdynvc.openChannels =
      oneChannel.openChannels :=
  (processCreateRequest_refused_iff (by decide)).mpr nofun

/-- The id of the channel is asked for again, and the channel is closed. -/
theorem processCreateRequest_closes :
    (oneChannel.processCreateRequest succeeding 0 ⟨[0x10, 5, 0x42, 0], 1⟩).answered =
        some 0xC0000001 ∧
      (oneChannel.processCreateRequest succeeding 0 ⟨[0x10, 5, 0x42, 0], 1⟩).drdynvc.openChannels =
        [] ∧
      oneChannel.openChannels ≠ [] := by
  decide

end DrdynvcPlugin

end FreeRdp
