import FreeRdp.Channels.Drdynvc
import FreeRdp.Winpr.Writing
import FreeRdp.Library.Runs

/-!
# Dynamic channels of the server

The receiving side of `server.c`: the chunks of the static channel are written one behind the other
to a buffer, and at the last one a PDU is read from the front of it. How many bytes of the PDU are
left is counted in a variable, and what the stream says is left goes up to the end of the buffer.
-/

namespace FreeRdp

open Attempt

/-- `sizeof(wtsChannelMessage)`. -/
def WTS_CHANNEL_MESSAGE_SIZE : Nat := 12

/-! ### Channels -/

/-- `DRDYNVC_STATE_*` of the server. -/
inductive DrdynvcState
  | none | initialized | ready
  deriving DecidableEq, Repr

/-- `DVC_OPEN_STATE_*`. -/
inductive DvcOpenState
  | none | succeeded | failed | closed
  deriving DecidableEq, Repr

/-- A message of the queue of a channel. -/
inductive DvcMessage
  | data (bytes : List UInt8)
  | quit
  deriving DecidableEq, Repr

/-- `rdpPeerChannel`, of a dynamic channel. -/
structure RdpPeerChannel where
  channelId : UInt32
  dvcOpenState : DvcOpenState
  dvcTotalLength : UInt32
  receiveData : WStream
  queue : List DvcMessage
  deriving DecidableEq, Repr

/-- What has been done to read a PDU: how many bytes it has, the places and the numbers of the bytes
that have been read, the numbers of the bytes that have been queued out of the buffer of a channel
beside the numbers of the bytes in it, and if the counter has gone below 0. -/
structure PduTrace where
  size : Nat
  reads : List (Nat × Nat)
  queued : List (Nat × Nat)
  wrapped : Bool
  deriving DecidableEq, Repr

/-- `WTSVirtualChannelManager`, with the buffer of its `drdynvc_channel`. -/
structure VirtualChannelManager where
  drdynvcState : DrdynvcState
  receiveData : WStream
  dynamicVirtualChannels : List RdpPeerChannel
  trace : PduTrace
  deriving DecidableEq, Repr

namespace PduTrace

/-- Before a PDU of a size is read. -/
def start (size : Nat) : PduTrace := ⟨size, [], [], false⟩

/-- All that has been read or queued has been received, and the counter has not gone below 0. -/
def Inside (t : PduTrace) : Prop :=
  (∀ r ∈ t.reads, r.1 + r.2 ≤ t.size) ∧ (∀ q ∈ t.queued, q.1 ≤ q.2) ∧ t.wrapped = false

instance (t : PduTrace) : Decidable t.Inside := inferInstanceAs (Decidable (_ ∧ _ ∧ _))

end PduTrace

namespace VirtualChannelManager

/-- A channel is found by the place of the first one with the id. -/
def getDvcChannelById (vcm : VirtualChannelManager) (channelId : UInt32) : Option Nat :=
  vcm.dynamicVirtualChannels.findIdx? fun channel => channel.channelId == channelId

/-- The channel at a place. -/
def dvc (vcm : VirtualChannelManager) (i : Nat) : RdpPeerChannel :=
  vcm.dynamicVirtualChannels.getD i ⟨0, .none, 0, ⟨[], 0⟩, []⟩

/-- A change of the channel at a place. -/
def updateDvc (vcm : VirtualChannelManager) (i : Nat) (f : RdpPeerChannel → RdpPeerChannel) :
    VirtualChannelManager :=
  { vcm with dynamicVirtualChannels := vcm.dynamicVirtualChannels.modify i f }

/-- `n` bytes are read at the position. -/
def noteRead (vcm : VirtualChannelManager) (n : Nat) : VirtualChannelManager :=
  { vcm with trace.reads := (vcm.receiveData.pos, n) :: vcm.trace.reads }

end VirtualChannelManager

open VirtualChannelManager

/-! ### Reading a PDU -/

/-- An integer of `n` bytes is read. -/
def readUint (n : Nat) : Attempt VirtualChannelManager Nat := fun vcm =>
  (some (uintAt n vcm.receiveData),
    { vcm.noteRead n with receiveData := vcm.receiveData.seek n })

/-- Bytes at the position are copied. -/
def copyPointer (n : Nat) : Attempt VirtualChannelManager (List UInt8) := fun vcm =>
  (some (vcm.receiveData.read n).1, vcm.noteRead n)

/-- The counter of the bytes that are left, a `UINT32`. -/
def lengthSub (length : UInt32) (value : Nat) : Attempt VirtualChannelManager UInt32 := fun vcm =>
  (some (length - UInt32.ofNat value),
    { vcm with trace.wrapped := vcm.trace.wrapped || decide (length.toNat < value) })

/-- `wts_read_variable_uint`: the value, and the number of its bytes, which is 0 in the source where
the attempt fails. -/
def wtsReadVariableUint (cbLen : Nat) : Attempt VirtualChannelManager (UInt32 × Nat) := do
  let remaining ← gets (·.receiveData.remainingLength)
  require (cblenToBytes cbLen ≤ remaining)
  let value ← readUint (cblenToBytes cbLen)
  pure (UInt32.ofNat value, cblenToBytes cbLen)

/-- A variable integer, whose bytes are taken off the counter. -/
def wtsTakeVariableUint (cbLen : Nat) (length : UInt32) :
    Attempt VirtualChannelManager (UInt32 × UInt32) := do
  let (val, value) ← wtsReadVariableUint cbLen
  let length ← lengthSub length value
  pure (val, length)

/-- `wts_queue_receive_data`: the bytes are copied if there is memory for them. -/
def wtsQueueReceiveData (malloc : Malloc) (i length : Nat)
    (bytes : Attempt VirtualChannelManager (List UInt8)) : Attempt VirtualChannelManager Bool := do
  if malloc.succeeds (WTS_CHANNEL_MESSAGE_SIZE + length) then
    let bytes ← bytes
    modify (·.updateDvc i fun dvc => { dvc with queue := dvc.queue ++ [.data bytes] })
    pure true
  else pure false

/-- `wts_read_drdynvc_capabilities_response`. -/
def wtsReadDrdynvcCapabilitiesResponse (length : UInt32) : Attempt VirtualChannelManager Unit := do
  require (3 ≤ length)
  -- Pad (1 byte)
  modify fun vcm => { vcm with receiveData := vcm.receiveData.seek 1 }
  let _ ← readUint 2
  modify fun vcm => { vcm with drdynvcState := .ready }

/-- `wts_read_drdynvc_create_response`. -/
def wtsReadDrdynvcCreateResponse (i : Nat) (length : UInt32) :
    Attempt VirtualChannelManager Unit := do
  require (4 ≤ length)
  let creationStatus ← readUint 4
  let state := if 2 ^ 31 ≤ creationStatus then DvcOpenState.failed else DvcOpenState.succeeded
  modify (·.updateDvc i fun dvc => { dvc with dvcOpenState := state })

/-- The data of a `DATA_FIRST_PDU` starts a message. -/
def wtsStartMessage (realloc : Malloc) (i : Nat) (totalLength length : UInt32) :
    Attempt VirtualChannelManager Unit := do
  require (length ≤ totalLength)
  modify (·.updateDvc i fun dvc => { dvc with receiveData := dvc.receiveData.setPosition 0 })
  let dvc ← gets (·.dvc i)
  let receiveData ← lift
    (dvc.receiveData.ensureRemainingCapacity realloc totalLength.toNat).stream
  let bytes ← copyPointer length.toNat
  modify (·.updateDvc i fun dvc => { dvc with receiveData := receiveData.write bytes })

/-- `wts_read_drdynvc_data_first`. -/
def wtsReadDrdynvcDataFirst (realloc : Malloc) (i cbLen : Nat) (length : UInt32) :
    Attempt VirtualChannelManager Unit := do
  let (totalLength, length) ← wtsTakeVariableUint cbLen length
  modify (·.updateDvc i fun dvc => { dvc with dvcTotalLength := totalLength })
  wtsStartMessage realloc i totalLength length

/-- A message that is complete is queued out of the buffer of its channel. -/
def wtsQueueComplete (malloc : Malloc) (i : Nat) (dvc : RdpPeerChannel) :
    Attempt VirtualChannelManager Bool :=
  wtsQueueReceiveData malloc i dvc.dvcTotalLength.toNat do
    let queued := (dvc.dvcTotalLength.toNat, dvc.receiveData.pos)
    modify fun vcm => { vcm with trace.queued := queued :: vcm.trace.queued }
    pure (dvc.receiveData.buffer.take dvc.dvcTotalLength.toNat)

/-- `wts_read_drdynvc_data`. -/
def wtsReadDrdynvcData (malloc : Malloc) (i : Nat) (length : UInt32) :
    Attempt VirtualChannelManager Unit := do
  let dvc ← gets (·.dvc i)
  if 0 < dvc.dvcTotalLength then
    if dvc.dvcTotalLength.toNat < dvc.receiveData.pos + length.toNat then
      modify (·.updateDvc i fun dvc => { dvc with dvcTotalLength := 0 })
      fail
    else
      let bytes ← copyPointer length.toNat
      modify (·.updateDvc i fun dvc => { dvc with receiveData := dvc.receiveData.write bytes })
      let dvc ← gets (·.dvc i)
      if dvc.dvcTotalLength.toNat ≤ dvc.receiveData.pos then
        let queued ← wtsQueueComplete malloc i dvc
        modify (·.updateDvc i fun dvc => { dvc with dvcTotalLength := 0 })
        require queued
      else pure ()
  else
    let queued ← wtsQueueReceiveData malloc i length.toNat (copyPointer length.toNat)
    require queued

/-- `wts_read_drdynvc_close_response`. -/
def wtsReadDrdynvcCloseResponse (i : Nat) : Attempt VirtualChannelManager Unit :=
  modify (·.updateDvc i fun dvc =>
    { dvc with dvcOpenState := .closed, queue := dvc.queue ++ [.quit] })

/-- The handlers of `wts_read_drdynvc_pdu`. -/
def wtsHandlePdu (malloc : Malloc) (cmd sp i : Nat) (length : UInt32) :
    Attempt VirtualChannelManager Unit :=
  if cmd = CREATE_REQUEST_PDU then wtsReadDrdynvcCreateResponse i length
  else if cmd = DATA_FIRST_PDU then wtsReadDrdynvcDataFirst malloc i sp length
  else if cmd = DATA_PDU then wtsReadDrdynvcData malloc i length
  else if cmd = CLOSE_REQUEST_PDU then wtsReadDrdynvcCloseResponse i
  else pure ()

/-- The PDU of a server that is ready, behind its first byte. -/
def wtsReadReadyPdu (malloc : Malloc) (cmd sp cbChId : Nat) (length : UInt32) :
    Attempt VirtualChannelManager Unit := do
  let (channelId, length) ← wtsTakeVariableUint cbChId length
  match ← gets (·.getDvcChannelById channelId) with
  | some i => wtsHandlePdu malloc cmd sp i length
  | none => pure ()

/-- The PDU behind its first byte. -/
def wtsDispatchPdu (malloc : Malloc) (value : Nat) (length : UInt32) :
    Attempt VirtualChannelManager Unit := do
  let cmd := (value &&& 0xF0) >>> 4
  let sp := (value &&& 0x0C) >>> 2
  let cbChId := value &&& 0x03
  if cmd = CAPABILITY_REQUEST_PDU then wtsReadDrdynvcCapabilitiesResponse length
  else if (← gets (·.drdynvcState)) = .ready then wtsReadReadyPdu malloc cmd sp cbChId length
  else pure ()

/-- `wts_read_drdynvc_pdu`. -/
def wtsReadDrdynvcPdu (malloc : Malloc) : Attempt VirtualChannelManager Unit := do
  let size ← gets (·.receiveData.pos)
  let length := UInt32.ofNat size
  require (1 ≤ length)
  modify fun vcm => { vcm with receiveData := vcm.receiveData.setPosition 0 }
  let value ← readUint 1
  let length ← lengthSub length 1
  wtsDispatchPdu malloc value length

/-- A PDU starts at the front of the buffer. -/
def wtsStartChunk (flags : Nat) (vcm : VirtualChannelManager) : VirtualChannelManager :=
  if flags &&& CHANNEL_FLAG_FIRST ≠ 0 then
    { vcm with receiveData := vcm.receiveData.setPosition 0 }
  else vcm

/-- The bytes of a chunk behind what has been received, if there is memory for them. -/
def wtsWriteChunk (realloc : Malloc) (vcm : VirtualChannelManager) (data : List UInt8) :
    Option WStream :=
  (vcm.receiveData.ensureRemainingCapacity realloc data.length).stream.map (·.write data)

/-- `WTSProcessChannelData` for the `drdynvc` channel. -/
def wtsProcessChannelData (malloc : Malloc) (data : List UInt8) (flags : Nat)
    (vcm : VirtualChannelManager) : Bool × VirtualChannelManager :=
  let vcm := wtsStartChunk flags vcm
  match wtsWriteChunk malloc vcm data with
  | none => (false, { vcm with trace := .start 0 })
  | some receiveData =>
    let vcm := { vcm with receiveData := receiveData, trace := .start receiveData.pos }
    if flags &&& CHANNEL_FLAG_LAST ≠ 0 then
      let (ret, vcm) := wtsReadDrdynvcPdu malloc vcm
      (ret.isSome, { vcm with receiveData := vcm.receiveData.setPosition 0 })
    else (true, vcm)

/-! ### What is read of a PDU -/

/-- A variable integer that the stream can hold is in the bytes of the PDU that are left. -/
def FieldComplete (cbLen length : Nat) (s : WStream) : Prop :=
  cblenToBytes cbLen ≤ s.remainingLength → cblenToBytes cbLen ≤ length

instance (cbLen length : Nat) (s : WStream) : Decidable (FieldComplete cbLen length s) :=
  inferInstanceAs (Decidable (_ → _))

/-- The channel id, if it is read, and the length behind it are in the PDU. -/
def ReadyPduComplete (vcm : VirtualChannelManager) (cmd sp cbChId length : Nat) (s : WStream) :
    Prop :=
  cblenToBytes cbChId ≤ s.remainingLength → cblenToBytes cbChId ≤ length ∧
    (cmd = DATA_FIRST_PDU →
      (vcm.getDvcChannelById (UInt32.ofNat (uintAt (cblenToBytes cbChId) s))).isSome →
        FieldComplete sp (length - cblenToBytes cbChId) (s.seek (cblenToBytes cbChId)))

instance (vcm : VirtualChannelManager) (cmd sp cbChId length : Nat) (s : WStream) :
    Decidable (ReadyPduComplete vcm cmd sp cbChId length s) :=
  inferInstanceAs (Decidable (_ → _ ∧ (_ → _ → _)))

/-- The PDU in the buffer has all the fields that are read of it. -/
def PduComplete (vcm : VirtualChannelManager) : Prop :=
  let length := vcm.receiveData.pos % 2 ^ 32
  let value := uintAt 1 (vcm.receiveData.setPosition 0)
  length ≠ 0 → (value &&& 0xF0) >>> 4 ≠ CAPABILITY_REQUEST_PDU → vcm.drdynvcState = .ready →
    ReadyPduComplete vcm ((value &&& 0xF0) >>> 4) ((value &&& 0x0C) >>> 2) (value &&& 0x03)
      (length - 1) ((vcm.receiveData.setPosition 0).seek 1)

instance (vcm : VirtualChannelManager) : Decidable (PduComplete vcm) :=
  inferInstanceAs (Decidable (_ → _ → _ → _))

/-- The PDU that ends with a chunk has all the fields that are read of it. -/
def ChunkComplete (malloc : Malloc) (data : List UInt8) (flags : Nat)
    (vcm : VirtualChannelManager) : Prop :=
  flags &&& CHANNEL_FLAG_LAST ≠ 0 →
    ∀ receiveData, wtsWriteChunk malloc (wtsStartChunk flags vcm) data = some receiveData →
      PduComplete { wtsStartChunk flags vcm with receiveData := receiveData }

section Inside

variable {vcm : VirtualChannelManager} {n m : Nat} {length : UInt32}

/-- Nothing behind the PDU has been read, and `n` bytes of it are left at least. -/
def Room (n : Nat) (vcm : VirtualChannelManager) : Prop :=
  vcm.trace.Inside ∧ vcm.receiveData.pos + n ≤ vcm.trace.size

/-- Something behind the PDU has been read, or the counter has wrapped. -/
def Outside (vcm : VirtualChannelManager) : Prop := ¬vcm.trace.Inside

lemma Room.mono (h : Room n vcm) (hm : m ≤ n) : Room m vcm :=
  ⟨h.1, Nat.le_trans (Nat.add_le_add_left hm _) h.2⟩

lemma Room.noteRead (h : Room n vcm) (hm : m ≤ n) : (vcm.noteRead m).trace.Inside := by
  refine ⟨?_, h.1.2.1, h.1.2.2⟩
  intro r hr
  rcases List.mem_cons.mp hr with rfl | hr
  · exact Nat.le_trans (Nat.add_le_add_left hm _) h.2
  · exact h.1.1 r hr

lemma Outside.noteRead (h : Outside vcm) (n : Nat) : Outside (vcm.noteRead n) := by
  rintro ⟨hreads, hqueued, hwrapped⟩
  exact h ⟨fun r hr => hreads r (List.mem_cons_of_mem _ hr), hqueued, hwrapped⟩

/-! Once a byte behind the PDU has been read it stays so. -/

lemma keeps_readUint (n : Nat) : (readUint n).Keeps Outside := fun _ hs => hs.noteRead n

lemma keeps_copyPointer (n : Nat) : (copyPointer n).Keeps Outside := fun _ hs => hs.noteRead n

lemma keeps_lengthSub (length : UInt32) (value : Nat) : (lengthSub length value).Keeps Outside := by
  rintro vcm hs ⟨hreads, hqueued, hwrapped⟩
  exact hs ⟨hreads, hqueued, (Bool.or_eq_false_iff.mp hwrapped).1⟩

lemma keeps_updateDvc {I : VirtualChannelManager → Prop} (i : Nat)
    (f : RdpPeerChannel → RdpPeerChannel) (h : ∀ vcm, I vcm → I (vcm.updateDvc i f)) :
    (modify fun vcm : VirtualChannelManager => vcm.updateDvc i f).Keeps I := h

lemma keeps_wtsTakeVariableUint (cbLen : Nat) (length : UInt32) :
    (wtsTakeVariableUint cbLen length).Keeps Outside := by
  refine Keeps.bind ?_ fun _ => (keeps_lengthSub _ _).bind fun _ => keeps_pure _
  exact (keeps_gets _).bind fun _ => (keeps_require _).bind fun _ => (keeps_readUint _).bind
    fun _ => keeps_pure _

lemma keeps_wtsQueueReceiveData {I : VirtualChannelManager → Prop} {malloc : Malloc}
    {i length : Nat} {bytes : Attempt VirtualChannelManager (List UInt8)}
    (hupdate : ∀ f vcm, I vcm → I (vcm.updateDvc i f)) (hbytes : bytes.Keeps I) :
    (wtsQueueReceiveData malloc i length bytes).Keeps I :=
  keeps_ite (fun _ => hbytes.bind fun _ => (keeps_updateDvc i _ (hupdate _)).bind fun _ =>
    keeps_pure _) fun _ => keeps_pure _

lemma keeps_wtsReadDrdynvcCreateResponse (i : Nat) (length : UInt32) :
    (wtsReadDrdynvcCreateResponse i length).Keeps Outside :=
  (keeps_require _).bind fun _ => (keeps_readUint _).bind fun _ =>
    keeps_updateDvc i _ fun _ h => h

lemma keeps_wtsStartMessage {I : VirtualChannelManager → Prop} (realloc : Malloc) (i : Nat)
    (totalLength : UInt32) {length : UInt32} (hupdate : ∀ f vcm, I vcm → I (vcm.updateDvc i f))
    (hcopy : (copyPointer length.toNat).Keeps I) :
    (wtsStartMessage realloc i totalLength length).Keeps I := by
  refine (keeps_require _).bind fun _ => (keeps_updateDvc i _ (hupdate _)).bind fun _ => ?_
  refine (keeps_gets _).bind fun _ => (keeps_lift _).bind fun _ => ?_
  exact hcopy.bind fun _ => keeps_updateDvc i _ (hupdate _)

lemma keeps_wtsReadDrdynvcDataFirst (realloc : Malloc) (i cbLen : Nat) (length : UInt32) :
    (wtsReadDrdynvcDataFirst realloc i cbLen length).Keeps Outside :=
  (keeps_wtsTakeVariableUint cbLen length).bind fun _ =>
    (keeps_updateDvc i _ fun _ h => h).bind fun _ =>
      keeps_wtsStartMessage realloc i _ (fun _ _ h => h) (keeps_copyPointer _)

/-- The message of a channel is queued out of bytes that are in its buffer. -/
lemma keeps_wtsQueueComplete {I : VirtualChannelManager → Prop} {malloc : Malloc} {i : Nat}
    {dvc : RdpPeerChannel} (hupdate : ∀ f vcm, I vcm → I (vcm.updateDvc i f))
    (hqueued : ∀ vcm, I vcm → I { vcm with
      trace.queued := (dvc.dvcTotalLength.toNat, dvc.receiveData.pos) :: vcm.trace.queued }) :
    (wtsQueueComplete malloc i dvc).Keeps I :=
  keeps_wtsQueueReceiveData hupdate ((keeps_modify hqueued).bind fun _ => keeps_pure _)

lemma keeps_wtsReadDrdynvcData {I : VirtualChannelManager → Prop} {malloc : Malloc} {i : Nat}
    {length : UInt32} (hupdate : ∀ f vcm, I vcm → I (vcm.updateDvc i f))
    (hcopy : (copyPointer length.toNat).Keeps I)
    (hqueued : ∀ q : Nat × Nat, q.1 ≤ q.2 → ∀ vcm, I vcm →
      I { vcm with trace.queued := q :: vcm.trace.queued }) :
    (wtsReadDrdynvcData malloc i length).Keeps I := by
  refine (keeps_gets _).bind fun dvc => keeps_ite (fun _ => ?_) fun _ => ?_
  · refine keeps_ite (fun _ => (keeps_updateDvc i _ (hupdate _)).bind fun _ => keeps_fail)
      fun _ => ?_
    refine hcopy.bind fun _ => (keeps_updateDvc i _ (hupdate _)).bind fun _ => ?_
    refine (keeps_gets _).bind fun dvc => keeps_ite (fun hcomplete => ?_) fun _ => keeps_pure _
    refine (keeps_wtsQueueComplete hupdate (hqueued _ hcomplete)).bind fun _ => ?_
    exact (keeps_updateDvc i _ (hupdate _)).bind fun _ => keeps_require _
  · exact (keeps_wtsQueueReceiveData hupdate hcopy).bind fun _ => keeps_require _

lemma Outside.queued (h : Outside vcm) (q : Nat × Nat) :
    Outside { vcm with trace.queued := q :: vcm.trace.queued } := by
  rintro ⟨hreads, hqueued, hwrapped⟩
  exact h ⟨hreads, fun r hr => hqueued r (List.mem_cons_of_mem _ hr), hwrapped⟩

lemma Room.queued (h : Room n vcm) {q : Nat × Nat} (hq : q.1 ≤ q.2) :
    Room n { vcm with trace.queued := q :: vcm.trace.queued } := by
  refine ⟨⟨h.1.1, ?_, h.1.2.2⟩, h.2⟩
  intro r hr
  rcases List.mem_cons.mp hr with rfl | hr
  · exact hq
  · exact h.1.2.1 r hr

lemma keeps_wtsHandlePdu (malloc : Malloc) (cmd sp i : Nat) (length : UInt32) :
    (wtsHandlePdu malloc cmd sp i length).Keeps Outside := by
  refine keeps_ite (fun _ => keeps_wtsReadDrdynvcCreateResponse i length) fun _ => ?_
  refine keeps_ite (fun _ => keeps_wtsReadDrdynvcDataFirst malloc i sp length) fun _ => ?_
  refine keeps_ite (fun _ => ?_) fun _ => ?_
  · exact keeps_wtsReadDrdynvcData (fun _ _ h => h) (keeps_copyPointer _) fun q _ _ h => h.queued q
  · exact keeps_ite (fun _ => keeps_updateDvc i _ fun _ h => h) fun _ => keeps_pure _

/-! While bytes of the PDU are left, only those are read. -/

lemma Room.keeps_copyPointer (hm : m ≤ n) : (copyPointer m).Keeps (Room n) :=
  fun _ h => ⟨h.noteRead hm, h.2⟩

lemma wtsReadVariableUint_readable {cbLen : Nat}
    (hread : cblenToBytes cbLen ≤ vcm.receiveData.remainingLength) :
    wtsReadVariableUint cbLen vcm =
      (some (UInt32.ofNat (uintAt (cblenToBytes cbLen) vcm.receiveData), cblenToBytes cbLen),
        (readUint (cblenToBytes cbLen) vcm).2) := by
  show andThen (require (decide (cblenToBytes cbLen ≤ vcm.receiveData.remainingLength))) _ vcm = _
  rw [decide_eq_true hread]
  rfl

lemma wtsReadVariableUint_unreadable {cbLen : Nat}
    (hread : ¬cblenToBytes cbLen ≤ vcm.receiveData.remainingLength) :
    wtsReadVariableUint cbLen vcm = (none, vcm) := by
  show andThen (require (decide (cblenToBytes cbLen ≤ vcm.receiveData.remainingLength))) _ vcm = _
  rw [decide_eq_false hread]
  rfl

/-- The state behind a variable integer. -/
lemma wtsTakeVariableUint_readable {cbLen : Nat}
    (hread : cblenToBytes cbLen ≤ vcm.receiveData.remainingLength) :
    wtsTakeVariableUint cbLen length vcm =
      (some (UInt32.ofNat (uintAt (cblenToBytes cbLen) vcm.receiveData),
          length - UInt32.ofNat (cblenToBytes cbLen)),
        (lengthSub length (cblenToBytes cbLen) (readUint (cblenToBytes cbLen) vcm).2).2) := by
  show andThen (wtsReadVariableUint cbLen) _ vcm = _
  unfold andThen
  rw [wtsReadVariableUint_readable hread]
  rfl

lemma wtsTakeVariableUint_unreadable {cbLen : Nat}
    (hread : ¬cblenToBytes cbLen ≤ vcm.receiveData.remainingLength) :
    wtsTakeVariableUint cbLen length vcm = (none, vcm) := by
  show andThen (wtsReadVariableUint cbLen) _ vcm = _
  unfold andThen
  rw [wtsReadVariableUint_unreadable hread]

lemma toNat_lengthSub (hm : m ≤ length.toNat) :
    (length - UInt32.ofNat m).toNat = length.toNat - m := by
  have hofNat : (UInt32.ofNat m).toNat = m :=
    UInt32.toNat_ofNat_of_lt' (Nat.lt_of_le_of_lt hm length.toNat_lt)
  rw [UInt32.toNat_sub_of_le _ _ (UInt32.le_iff_toNat_le.mpr (hofNat.symm ▸ hm)), hofNat]

/-- Bytes that the counter has are read in the PDU. -/
lemma room_lengthSub (h : Room length.toNat vcm) (hm : m ≤ length.toNat) :
    Room (length.toNat - m) (lengthSub length m (readUint m vcm).2).2 := by
  obtain ⟨hreads, hqueued, hwrapped⟩ := h.noteRead hm
  refine ⟨⟨hreads, hqueued, ?_⟩, ?_⟩
  · show (vcm.trace.wrapped || decide (length.toNat < m)) = false
    rw [h.1.2.2, decide_eq_false (Nat.not_lt.mpr hm)]
    rfl
  · show vcm.receiveData.pos + m + (length.toNat - m) ≤ vcm.trace.size
    have hle := h.2
    omega

/-- A counter that has less wraps. -/
lemma outside_lengthSub (hm : length.toNat < m) :
    Outside (lengthSub length m (readUint m vcm).2).2 := by
  rintro ⟨-, -, hwrapped⟩
  change (vcm.trace.wrapped || decide (length.toNat < m)) = false at hwrapped
  rw [decide_eq_true hm, Bool.or_true] at hwrapped
  cases hwrapped

/-- An integer and what comes behind it stay in the PDU exactly if the counter has its bytes, where
the second part stays in the PDU behind it. -/
lemma inside_wtsTakeVariableUint {cbLen : Nat} {P : Prop} (h : Room length.toNat vcm)
    {k : UInt32 × UInt32 → Attempt VirtualChannelManager Unit}
    (houtside : ∀ a, (k a).Keeps Outside)
    (hk : ∀ length' vcm', length'.toNat = length.toNat - cblenToBytes cbLen →
      vcm'.receiveData = vcm.receiveData.seek (cblenToBytes cbLen) →
      vcm'.dynamicVirtualChannels = vcm.dynamicVirtualChannels → Room length'.toNat vcm' →
        ((k (UInt32.ofNat (uintAt (cblenToBytes cbLen) vcm.receiveData),
          length') vcm').2.trace.Inside ↔ P)) :
    ((wtsTakeVariableUint cbLen length >>= k) vcm).2.trace.Inside ↔
      (cblenToBytes cbLen ≤ vcm.receiveData.remainingLength →
        cblenToBytes cbLen ≤ length.toNat ∧ P) := by
  show (andThen _ k vcm).2.trace.Inside ↔ _
  unfold andThen
  by_cases hread : cblenToBytes cbLen ≤ vcm.receiveData.remainingLength
  · rw [wtsTakeVariableUint_readable hread, imp_iff_right hread]
    by_cases hlength : cblenToBytes cbLen ≤ length.toNat
    · rw [and_iff_right hlength]
      have hsub := toNat_lengthSub hlength
      exact hk _ _ hsub rfl rfl (hsub ▸ room_lengthSub h hlength)
    · have hwrapped : Outside (lengthSub length _ (readUint _ vcm).2).2 :=
        outside_lengthSub (Nat.not_le.mp hlength)
      exact iff_of_false (houtside _ _ hwrapped) fun hcomplete => hlength hcomplete.1
  · rw [wtsTakeVariableUint_unreadable hread]
    exact iff_of_true h.1 fun hread' => absurd hread' hread

lemma inside_wtsReadDrdynvcCreateResponse (i : Nat) (h : Room length.toNat vcm) :
    (wtsReadDrdynvcCreateResponse i length vcm).2.trace.Inside := by
  show (andThen (require (decide (4 ≤ length))) _ vcm).2.trace.Inside
  by_cases hlength : 4 ≤ length
  · rw [decide_eq_true hlength]
    exact h.noteRead (UInt32.le_iff_toNat_le.mp hlength)
  · rw [decide_eq_false hlength]
    exact h.1

lemma inside_wtsReadDrdynvcDataFirst (realloc : Malloc) (i cbLen : Nat)
    (h : Room length.toNat vcm) :
    (wtsReadDrdynvcDataFirst realloc i cbLen length vcm).2.trace.Inside ↔
      FieldComplete cbLen length.toNat vcm.receiveData := by
  refine (inside_wtsTakeVariableUint (P := True) h ?_ ?_).trans ?_
  · exact fun _ => (keeps_updateDvc i _ fun _ h => h).bind fun _ =>
      keeps_wtsStartMessage realloc i _ (fun _ _ h => h) (keeps_copyPointer _)
  · intro length' vcm' _ _ _ hroom
    have hkeeps (totalLength : UInt32) : (do
        modify fun vcm : VirtualChannelManager =>
          vcm.updateDvc i fun dvc => { dvc with dvcTotalLength := totalLength }
        wtsStartMessage realloc i totalLength length').Keeps (Room length'.toNat) :=
      (keeps_updateDvc i _ fun _ h => h).bind fun _ =>
        keeps_wtsStartMessage realloc i _ (fun _ _ h => h) (Room.keeps_copyPointer le_rfl)
    exact iff_true_intro (hkeeps _ vcm' hroom).1
  · rw [FieldComplete]
    simp only [and_true]

/-- The handlers read inside of the PDU exactly if the length of a first fragment is in it. -/
lemma inside_wtsHandlePdu (malloc : Malloc) (cmd sp i : Nat) (h : Room length.toNat vcm) :
    (wtsHandlePdu malloc cmd sp i length vcm).2.trace.Inside ↔
      (cmd = DATA_FIRST_PDU → FieldComplete sp length.toNat vcm.receiveData) := by
  unfold wtsHandlePdu
  split_ifs with hcreate hfirst hdata hclose
  · refine iff_of_true (inside_wtsReadDrdynvcCreateResponse i h) fun hfirst => ?_
    rw [hcreate] at hfirst
    exact absurd hfirst (by decide)
  · rw [imp_iff_right hfirst]
    exact inside_wtsReadDrdynvcDataFirst malloc i sp h
  · refine iff_of_true ?_ fun hfirst' => absurd hfirst' hfirst
    exact (keeps_wtsReadDrdynvcData (I := Room length.toNat) (fun _ _ h => h)
      (Room.keeps_copyPointer le_rfl) (fun _ hq _ h => h.queued hq) vcm h).1
  · exact iff_of_true h.1 fun hfirst' => absurd hfirst' hfirst
  · exact iff_of_true h.1 fun hfirst' => absurd hfirst' hfirst

/-- A PDU of a server that is ready is read inside exactly if its fields are complete. -/
lemma inside_wtsReadReadyPdu (malloc : Malloc) (cmd sp cbChId : Nat) (h : Room length.toNat vcm) :
    (wtsReadReadyPdu malloc cmd sp cbChId length vcm).2.trace.Inside ↔
      ReadyPduComplete vcm cmd sp cbChId length.toNat vcm.receiveData := by
  refine (inside_wtsTakeVariableUint (P := cmd = DATA_FIRST_PDU →
    (vcm.getDvcChannelById (UInt32.ofNat (uintAt (cblenToBytes cbChId) vcm.receiveData))).isSome →
      FieldComplete sp (length.toNat - cblenToBytes cbChId)
        (vcm.receiveData.seek (cblenToBytes cbChId))) h ?_ ?_).trans Iff.rfl
  · refine fun _ => (keeps_gets _).bind fun channel => ?_
    cases channel with
    | none => exact keeps_pure _
    | some i => exact keeps_wtsHandlePdu malloc cmd sp i _
  · intro length' vcm' hlength' hreceive hchannels hroom
    have hget (id : UInt32) : vcm'.getDvcChannelById id = vcm.getDvcChannelById id := by
      unfold getDvcChannelById
      rw [hchannels]
    show ((match vcm'.getDvcChannelById _ with | some i => _ | none => _ :
      Attempt VirtualChannelManager Unit) vcm').2.trace.Inside ↔ _
    rw [hget]
    cases hchannel : vcm.getDvcChannelById _ with
    | none => exact iff_of_true hroom.1 fun _ hsome => by cases hsome
    | some i =>
      rw [← hlength', ← hreceive]
      refine (inside_wtsHandlePdu malloc cmd sp i hroom).trans ?_
      exact imp_congr_right fun _ => (imp_iff_right rfl).symm

lemma inside_wtsReadDrdynvcCapabilitiesResponse (h : Room length.toNat vcm) :
    (wtsReadDrdynvcCapabilitiesResponse length vcm).2.trace.Inside := by
  show (andThen (require (decide (3 ≤ length))) _ vcm).2.trace.Inside
  by_cases hlength : 3 ≤ length
  · rw [decide_eq_true hlength]
    have hroom : Room 2 { vcm with receiveData := vcm.receiveData.seek 1 } := by
      refine ⟨h.1, ?_⟩
      have hle : 3 ≤ length.toNat := UInt32.le_iff_toNat_le.mp hlength
      have hsize := h.2
      show vcm.receiveData.pos + 1 + 2 ≤ vcm.trace.size
      omega
    exact hroom.noteRead le_rfl
  · rw [decide_eq_false hlength]
    exact h.1

lemma inside_wtsDispatchPdu (malloc : Malloc) (value : Nat) (h : Room length.toNat vcm) :
    (wtsDispatchPdu malloc value length vcm).2.trace.Inside ↔
      ((value &&& 0xF0) >>> 4 ≠ CAPABILITY_REQUEST_PDU → vcm.drdynvcState = .ready →
        ReadyPduComplete vcm ((value &&& 0xF0) >>> 4) ((value &&& 0x0C) >>> 2) (value &&& 0x03)
          length.toNat vcm.receiveData) := by
  show ((if (value &&& 0xF0) >>> 4 = CAPABILITY_REQUEST_PDU then _ else _ :
    Attempt VirtualChannelManager Unit) vcm).2.trace.Inside ↔ _
  split_ifs with hcmd
  · exact iff_of_true (inside_wtsReadDrdynvcCapabilitiesResponse h) fun hne => absurd hcmd hne
  · rw [imp_iff_right hcmd]
    show ((if vcm.drdynvcState = .ready then _ else _ : Attempt VirtualChannelManager Unit)
      vcm).2.trace.Inside ↔ _
    split_ifs with hready
    · rw [imp_iff_right hready]
      exact inside_wtsReadReadyPdu malloc _ _ _ h
    · exact iff_of_true h.1 fun hready' => absurd hready' hready

/-- A PDU is read inside exactly if its fields are complete. -/
lemma inside_wtsReadDrdynvcPdu (malloc : Malloc) (h : vcm.trace = .start vcm.receiveData.pos) :
    (wtsReadDrdynvcPdu malloc vcm).2.trace.Inside ↔ PduComplete vcm := by
  have hinside : vcm.trace.Inside := by
    rw [h]
    exact ⟨nofun, nofun, rfl⟩
  have hsize : (UInt32.ofNat vcm.receiveData.pos).toNat = vcm.receiveData.pos % 2 ^ 32 :=
    UInt32.toNat_ofNat'
  show (andThen (require (decide (1 ≤ UInt32.ofNat vcm.receiveData.pos))) _ vcm).2.trace.Inside ↔ _
  unfold PduComplete
  by_cases hone : 1 ≤ UInt32.ofNat vcm.receiveData.pos
  · have hle : 1 ≤ vcm.receiveData.pos % 2 ^ 32 := hsize ▸ UInt32.le_iff_toNat_le.mp hone
    have hroom : Room (UInt32.ofNat vcm.receiveData.pos).toNat
        { vcm with receiveData := vcm.receiveData.setPosition 0 } := by
      refine ⟨hinside, ?_⟩
      show 0 + _ ≤ vcm.trace.size
      rw [h, hsize, Nat.zero_add]
      exact Nat.mod_le _ _
    have hsub := toNat_lengthSub (m := 1) (hsize.symm ▸ hle)
    have hbehind := room_lengthSub hroom (hsize.symm ▸ hle)
    rw [decide_eq_true hone]
    refine (inside_wtsDispatchPdu malloc _ (hsub ▸ hbehind)).trans ?_
    rw [imp_iff_right (Nat.ne_of_gt hle), hsub, hsize]
    exact Iff.rfl
  · rw [decide_eq_false hone]
    refine iff_of_true hinside fun hne => absurd ?_ hone
    exact UInt32.le_iff_toNat_le.mpr (hsize.symm ▸ Nat.pos_of_ne_zero hne)

/-- What a chunk makes the server read is inside of the PDU exactly if the PDU that ends with it has
all the fields that are read of it. -/
lemma inside_wtsProcessChannelData (malloc : Malloc) (data : List UInt8) (flags : Nat)
    (vcm : VirtualChannelManager) :
    (wtsProcessChannelData malloc data flags vcm).2.trace.Inside ↔
      ChunkComplete malloc data flags vcm := by
  have hstart (size : Nat) : (PduTrace.start size).Inside := ⟨nofun, nofun, rfl⟩
  unfold wtsProcessChannelData ChunkComplete
  dsimp only
  rcases hwrite : wtsWriteChunk malloc (wtsStartChunk flags vcm) data with _ | receiveData
  · exact iff_of_true (hstart 0) fun _ _ h => nomatch h
  · dsimp only
    split_ifs with hlast
    · rw [imp_iff_right hlast]
      refine (inside_wtsReadDrdynvcPdu malloc rfl).trans ?_
      constructor
      · rintro hcomplete receiveData' ⟨⟩
        exact hcomplete
      · exact fun hcomplete => hcomplete receiveData rfl
    · exact iff_of_true (hstart _) fun hlast' => absurd hlast' hlast

end Inside

/-! ### Runs -/

/-- A chunk that is received, or a channel that the server opens or closes. -/
inductive DvcEvent
  | chunk (data : List UInt8) (flags : Nat)
  | opened (channelId : UInt32) (buffer : List UInt8)
  | closed (channelId : UInt32)
  deriving DecidableEq, Repr

/-- A new channel has an empty buffer with memory that nothing has been written to. -/
def VirtualChannelManager.step (malloc : Malloc) (vcm : VirtualChannelManager) :
    DvcEvent → VirtualChannelManager
  | .chunk data flags => (wtsProcessChannelData malloc data flags vcm).2
  | .opened channelId buffer =>
    { vcm with
      dynamicVirtualChannels :=
        vcm.dynamicVirtualChannels ++ [⟨channelId, .none, 0, ⟨buffer, 0⟩, []⟩]
      trace := .start 0 }
  | .closed channelId =>
    { vcm with
      dynamicVirtualChannels :=
        vcm.dynamicVirtualChannels.eraseP fun channel => channel.channelId == channelId
      trace := .start 0 }

/-- A PDU that ends with the event has all the fields that are read of it. -/
def EventComplete (malloc : Malloc) (vcm : VirtualChannelManager) : DvcEvent → Prop
  | .chunk data flags => ChunkComplete malloc data flags vcm
  | .opened _ _ => True
  | .closed _ => True

/-- In every run, all bytes that are read or queued are in the PDUs that have been received, and the
counter never wraps, if and only if every PDU that ends has the fields that are read of it. -/
theorem wtsRun_inside_iff (malloc : Malloc) (vcm : VirtualChannelManager)
    (events : List DvcEvent) :
    AlongRun (VirtualChannelManager.step malloc) (fun vcm e => (vcm.step malloc e).trace.Inside) vcm
        events ↔
      AlongRun (VirtualChannelManager.step malloc) (EventComplete malloc) vcm events := by
  induction events generalizing vcm with
  | nil => exact Iff.rfl
  | cons e events ih =>
    refine and_congr ?_ (ih _)
    cases e with
    | chunk data flags => exact inside_wtsProcessChannelData malloc data flags vcm
    | opened channelId buffer => exact iff_of_true ⟨nofun, nofun, rfl⟩ trivial
    | closed channelId => exact iff_of_true ⟨nofun, nofun, rfl⟩ trivial

/-- A PDU of one byte that is to have a channel id of four. -/
theorem wtsRun_outside :
    ¬AlongRun (VirtualChannelManager.step mallocAll)
      (fun vcm e => (vcm.step mallocAll e).trace.Inside)
      ⟨.ready, ⟨List.replicate 8 0, 0⟩, [], .start 0⟩ [.chunk [0x32] 3] := by
  decide

end FreeRdp
