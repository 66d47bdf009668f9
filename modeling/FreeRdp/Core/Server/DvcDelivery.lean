import FreeRdp.Channels.DvcMessages
import FreeRdp.Core.Server.Dvc

/-!
# Messages of the client to the server

The server puts the messages of every dynamic channel together again: each of its channels is an
assembler, however the PDUs of the channels are mixed and however they are cut into chunks of the
static channel.
-/

namespace FreeRdp

open Attempt VirtualChannelManager

variable {malloc : Malloc} {bytes rest : List UInt8}

/-! ### Channels and assemblers -/

/-- The channel is the assembler; it has queued the complete messages behind what was queued
before. -/
structure RdpPeerChannel.Assembles (before dvc : RdpPeerChannel) (a : Assembler) : Prop where
  channelId : dvc.channelId = before.channelId
  total : dvc.dvcTotalLength.toNat = a.total
  room : dvc.receiveData.Roomy
  got : a.total ≠ 0 → dvc.receiveData.front = a.got ∧ a.total ≤ dvc.receiveData.buffer.length
  queue : dvc.queue = before.queue ++ a.messages.map .data

/-- What a PDU leaves but for the trace: the channel at the place is changed. -/
structure Leaves (vcm vcm' : VirtualChannelManager) (i : Nat)
    (f : RdpPeerChannel → RdpPeerChannel) : Prop where
  state : vcm'.drdynvcState = vcm.drdynvcState
  buffer : vcm'.receiveData.buffer = vcm.receiveData.buffer
  channels : vcm'.dynamicVirtualChannels = vcm.dynamicVirtualChannels.modify i f

variable {vcm : VirtualChannelManager} {before : RdpPeerChannel} {a : Assembler} {i : Nat}
  {length : UInt32} {junk : List UInt8}

lemma dvc_updateDvc {vcm : VirtualChannelManager} (hi : i < vcm.dynamicVirtualChannels.length)
    (f : RdpPeerChannel → RdpPeerChannel) : (vcm.updateDvc i f).dvc i = f (vcm.dvc i) := by
  simp [VirtualChannelManager.dvc, VirtualChannelManager.updateDvc, hi]

lemma length_updateDvc (f : RdpPeerChannel → RdpPeerChannel) :
    (vcm.updateDvc i f).dynamicVirtualChannels.length = vcm.dynamicVirtualChannels.length := by
  simp [VirtualChannelManager.updateDvc]

lemma copyPointer_apply (hunread : vcm.receiveData.unread = bytes ++ junk) {n : Nat}
    (hn : n = bytes.length) : copyPointer n vcm = (some bytes, vcm.noteRead n) := by
  rw [copyPointer, WStream.read_of_unread hunread hn.symm]

lemma wtsQueueReceiveData_apply (hmalloc : ∀ n ≤ SSIZE_MAX, malloc.succeeds n = true) {n : Nat}
    (hn : n < 2 ^ 32) {m : Attempt VirtualChannelManager (List UInt8)}
    {vcm' : VirtualChannelManager} (hm : m vcm = (some bytes, vcm')) :
    wtsQueueReceiveData malloc i n m vcm = (some true,
      vcm'.updateDvc i fun dvc => { dvc with queue := dvc.queue ++ [.data bytes] }) := by
  have hsucceeds : malloc.succeeds (WTS_CHANNEL_MESSAGE_SIZE + n) = true :=
    hmalloc _ (by rw [WTS_CHANNEL_MESSAGE_SIZE, SSIZE_MAX]; omega)
  rw [wtsQueueReceiveData, if_pos hsucceeds, bind_apply_some hm]
  rfl

lemma wtsQueueComplete_apply (hmalloc : ∀ n ≤ SSIZE_MAX, malloc.succeeds n = true)
    {dvc : RdpPeerChannel}
    (htake : dvc.receiveData.buffer.take dvc.dvcTotalLength.toNat = bytes) :
    wtsQueueComplete malloc i dvc vcm = (some true,
      VirtualChannelManager.updateDvc { vcm with
        trace.queued := (dvc.dvcTotalLength.toNat, dvc.receiveData.pos) :: vcm.trace.queued } i
          fun dvc => { dvc with queue := dvc.queue ++ [.data bytes] }) := by
  subst htake
  exact wtsQueueReceiveData_apply hmalloc (UInt32.toNat_lt _) rfl

lemma lengthSub_bind_apply {β : Type} (value : Nat) (k : UInt32 → Attempt VirtualChannelManager β) :
    (lengthSub length value >>= k) vcm =
      k (length - UInt32.ofNat value) (lengthSub length value vcm).2 := rfl

/-- Data that is no part of a longer message is queued. -/
lemma wtsReadDrdynvcData_whole (hmalloc : ∀ n ≤ SSIZE_MAX, malloc.succeeds n = true)
    (h : before.Assembles (vcm.dvc i) a) (hidle : a.total = 0)
    (hunread : vcm.receiveData.unread = bytes ++ junk) (hlength : length.toNat = bytes.length) :
    ∃ vcm', wtsReadDrdynvcData malloc i length vcm = (some (), vcm') ∧
      Leaves vcm vcm' i fun dvc => { dvc with queue := dvc.queue ++ [.data bytes] } := by
  have hzero : ¬0 < (vcm.dvc i).dvcTotalLength := by
    rw [UInt32.lt_iff_toNat_lt, h.total, hidle]
    exact lt_irrefl 0
  rw [wtsReadDrdynvcData, gets_bind_apply]
  rw [if_neg hzero, bind_apply_some (wtsQueueReceiveData_apply hmalloc length.toNat_lt
    (copyPointer_apply hunread hlength))]
  exact ⟨_, rfl, rfl, rfl, rfl⟩

/-- Data of a longer message is written behind what there is of it, and the message is queued when
it is complete. -/
lemma wtsReadDrdynvcData_part (hmalloc : ∀ n ≤ SSIZE_MAX, malloc.succeeds n = true)
    (hi : i < vcm.dynamicVirtualChannels.length) (h : before.Assembles (vcm.dvc i) a)
    (htotal : a.total ≠ 0) (hfits : a.got.length + bytes.length ≤ a.total)
    (hunread : vcm.receiveData.unread = bytes ++ junk) (hlength : length.toNat = bytes.length) :
    ∃ vcm', wtsReadDrdynvcData malloc i length vcm = (some (), vcm') ∧
      Leaves vcm vcm' i fun dvc =>
        if a.total ≤ a.got.length + bytes.length then
          { dvc with
            receiveData := dvc.receiveData.write bytes
            queue := dvc.queue ++ [.data (a.got ++ bytes)]
            dvcTotalLength := 0 }
        else { dvc with receiveData := dvc.receiveData.write bytes } := by
  obtain ⟨hfront, hroom⟩ := h.got htotal
  have hpos : (vcm.dvc i).receiveData.pos = a.got.length := by
    rw [← hfront, WStream.length_front h.room.within]
  have hwritten := (h.room.write bytes (by omega)).2.1
  have hsome : 0 < (vcm.dvc i).dvcTotalLength := by
    rw [UInt32.lt_iff_toNat_lt, h.total]
    exact Nat.pos_of_ne_zero htotal
  rw [wtsReadDrdynvcData, gets_bind_apply]
  rw [if_pos hsome, if_neg (by rw [h.total, hpos, hlength]; omega),
    bind_apply_some (copyPointer_apply hunread hlength), modify_bind_apply, gets_bind_apply,
    @dvc_updateDvc i (vcm.noteRead length.toNat) hi]
  have hpos' : ((vcm.noteRead length.toNat).dvc i).receiveData.pos + bytes.length =
      a.got.length + bytes.length := congrArg (· + bytes.length) hpos
  have htotal' : ((vcm.noteRead length.toNat).dvc i).dvcTotalLength.toNat = a.total := h.total
  rcases Nat.lt_or_ge (a.got.length + bytes.length) a.total with hmore | hfull
  · rw [if_neg fun hle => absurd (hle.trans hpos'.le) (by rw [htotal']; omega)]
    exact ⟨_, rfl, rfl, rfl, by simp only [not_le.mpr hmore, if_false]; rfl⟩
  · have htake : (((vcm.noteRead length.toNat).dvc i).receiveData.write bytes).buffer.take
        ((vcm.noteRead length.toNat).dvc i).dvcTotalLength.toNat = a.got ++ bytes := by
      rw [← hfront, htotal']
      refine Eq.trans ?_ hwritten
      exact congrArg (List.take · _) (le_antisymm (hfull.trans hpos'.ge) (hpos'.le.trans hfits))
    rw [if_pos, bind_apply_some (wtsQueueComplete_apply hmalloc htake), modify_bind_apply]
    · refine ⟨_, rfl, rfl, rfl, ?_⟩
      simp only [hfull, if_true, VirtualChannelManager.updateDvc, List.modify_modify_eq]
      rfl
    · exact htotal'.le.trans (hfull.trans hpos'.ge)

/-! ### A PDU -/

/-- A part for a channel is what the assembler makes of it. -/
lemma wtsReadDrdynvcData_next (hmalloc : ∀ n ≤ SSIZE_MAX, malloc.succeeds n = true)
    (hi : i < vcm.dynamicVirtualChannels.length) (h : before.Assembles (vcm.dvc i) a)
    (htakes : a.Takes (.next bytes)) (hunread : vcm.receiveData.unread = bytes ++ junk)
    (hlength : length.toNat = bytes.length) :
    ∃ vcm' f, wtsReadDrdynvcData malloc i length vcm = (some (), vcm') ∧ Leaves vcm vcm' i f ∧
      before.Assembles (f (vcm.dvc i)) (a.receive (.next bytes)) := by
  rw [Assembler.receive]
  rcases eq_or_ne a.total 0 with hidle | htotal
  · obtain ⟨vcm', hread, hleaves⟩ := wtsReadDrdynvcData_whole hmalloc h hidle hunread hlength
    refine ⟨vcm', _, hread, hleaves, ?_⟩
    rw [if_pos hidle]
    refine ⟨h.channelId, h.total, h.room, h.got, ?_⟩
    simp [h.queue]
  · obtain ⟨vcm', hread, hleaves⟩ := wtsReadDrdynvcData_part hmalloc hi h htotal (htakes htotal)
      hunread hlength
    refine ⟨vcm', _, hread, hleaves, ?_⟩
    obtain ⟨hfront, hroom⟩ := h.got htotal
    have hpos : (vcm.dvc i).receiveData.pos = a.got.length := by
      rw [← hfront, WStream.length_front h.room.within]
    have hfits := htakes htotal
    obtain ⟨hroomy, hwritten, hcapacity⟩ := h.room.write bytes (by omega)
    rw [if_neg htotal]
    split_ifs with hfull
    · exact ⟨h.channelId, rfl, hroomy, fun hzero => absurd rfl hzero, by simp [h.queue]⟩
    · refine ⟨h.channelId, h.total, hroomy, fun _ => ⟨?_, hcapacity ▸ hroom⟩, h.queue⟩
      rw [hwritten, hfront]

/-- The first part of a message starts it. -/
lemma wtsStartMessage_apply (hmalloc : ∀ n ≤ SSIZE_MAX, malloc.succeeds n = true)
    (hi : i < vcm.dynamicVirtualChannels.length) (hroom : (vcm.dvc i).receiveData.Roomy)
    {total : UInt32} (hlt : bytes.length < total.toNat)
    (hunread : vcm.receiveData.unread = bytes ++ junk) (hlength : length.toNat = bytes.length) :
    ∃ vcm' s, wtsStartMessage malloc i total length vcm = (some (), vcm') ∧
      (Leaves vcm vcm' i fun dvc => { dvc with receiveData := s }) ∧ s.Roomy ∧ s.front = bytes ∧
        total.toNat ≤ s.buffer.length := by
  have htotal := total.toNat_lt
  obtain ⟨s, hstream, hroomy, hpos, hfront, hcapacity⟩ :=
    hroom.restart.ensured hmalloc (show 0 + total.toNat ≤ 2 ^ 33 by omega)
  have hpos' : s.pos = 0 := hpos
  obtain ⟨hroomy', hfront', hcapacity'⟩ := hroomy.write bytes (by omega)
  have hcopy : ∀ f, copyPointer length.toNat (vcm.updateDvc i f) =
      (some bytes, (vcm.updateDvc i f).noteRead length.toNat) :=
    fun f => copyPointer_apply (show (vcm.updateDvc i f).receiveData.unread = bytes ++ junk from
      hunread) hlength
  have hle : decide (length ≤ total) = true := by
    rw [decide_eq_true_iff, UInt32.le_iff_toNat_le, hlength]
    exact hlt.le
  have hrun : wtsStartMessage malloc i total length vcm = (some (),
      ((vcm.updateDvc i fun dvc =>
        { dvc with receiveData := dvc.receiveData.setPosition 0 }).noteRead length.toNat).updateDvc i
          fun dvc => { dvc with receiveData := s.write bytes }) := by
    rw [wtsStartMessage, require_bind_apply hle, modify_bind_apply, gets_bind_apply,
      dvc_updateDvc hi, lift_bind_apply hstream, bind_apply_some (hcopy _)]
    rfl
  refine ⟨_, s.write bytes, hrun, ⟨rfl, rfl, ?_⟩, hroomy', ?_, ?_⟩
  · simp only [VirtualChannelManager.updateDvc, VirtualChannelManager.noteRead,
      List.modify_modify_eq]
    rfl
  · rw [hfront', hfront]
    rfl
  · rw [hcapacity']
    omega

/-- A change in front of what else is changed. -/
lemma Leaves.of_update {vcm₁ vcm' : VirtualChannelManager} {f g : RdpPeerChannel → RdpPeerChannel}
    (h : Leaves (vcm₁.updateDvc i f) vcm' i g) (hstate : vcm₁.drdynvcState = vcm.drdynvcState)
    (hbuffer : vcm₁.receiveData.buffer = vcm.receiveData.buffer)
    (hchannels : vcm₁.dynamicVirtualChannels = vcm.dynamicVirtualChannels) :
    Leaves vcm vcm' i (g ∘ f) := by
  refine ⟨h.state.trans hstate, h.buffer.trans hbuffer, ?_⟩
  rw [h.channels, ← hchannels, ← List.modify_modify_eq]
  rfl

/-- The state behind a variable integer that has been written. -/
lemma wtsTakeVariableUint_written {val : Nat} (hval : val < 2 ^ 32)
    (hunread : vcm.receiveData.unread = (writeVariableUint val).2 ++ rest)
    (hlength : length.toNat = (writeVariableUint val).2.length + bytes.length) :
    ∃ length' vcm', wtsTakeVariableUint (writeVariableUint val).1 length vcm =
        (some (UInt32.ofNat val, length'), vcm') ∧ length'.toNat = bytes.length ∧
      vcm'.drdynvcState = vcm.drdynvcState ∧
      vcm'.dynamicVirtualChannels = vcm.dynamicVirtualChannels ∧
      vcm'.receiveData.buffer = vcm.receiveData.buffer ∧ vcm'.receiveData.unread = rest := by
  have hcb := cblenToBytes_writeVariableUint val
  have hread : cblenToBytes (writeVariableUint val).1 ≤ vcm.receiveData.remainingLength := by
    rw [WStream.remainingLength_of_unread hunread, hcb]
    exact Nat.le_add_right _ _
  have htake : wtsTakeVariableUint (writeVariableUint val).1 length vcm = _ :=
    wtsTakeVariableUint_readable hread
  rw [uintAt_writeVariableUint hval hunread] at htake
  refine ⟨_, _, htake, ?_, rfl, rfl, rfl, WStream.unread_seek_append hunread hcb.symm⟩
  rw [toNat_lengthSub (by omega), hcb, hlength]
  omega

lemma wtsReadDrdynvcDataFirst_first (hmalloc : ∀ n ≤ SSIZE_MAX, malloc.succeeds n = true)
    (hi : i < vcm.dynamicVirtualChannels.length) (h : before.Assembles (vcm.dvc i) a) {total : Nat}
    (htakes : a.Takes (.first total bytes))
    (hunread : vcm.receiveData.unread = (writeVariableUint total).2 ++ (bytes ++ junk))
    (hlength : length.toNat = (writeVariableUint total).2.length + bytes.length) :
    ∃ vcm' f, wtsReadDrdynvcDataFirst malloc i (writeVariableUint total).1 length vcm =
        (some (), vcm') ∧ Leaves vcm vcm' i f ∧
      before.Assembles (f (vcm.dvc i)) (a.receive (.first total bytes)) := by
  obtain ⟨hlt, hmax⟩ := htakes
  have htotal : (UInt32.ofNat total).toNat = total := UInt32.toNat_ofNat_of_lt' hmax
  obtain ⟨length', vcm₁, htake, hlength', hstate, hchannels, hbuffer, hunread'⟩ :=
    wtsTakeVariableUint_written hmax hunread hlength
  have hdvc : vcm₁.dvc i = vcm.dvc i := by rw [VirtualChannelManager.dvc, hchannels]; rfl
  have hi₁ : i < vcm₁.dynamicVirtualChannels.length := by rw [hchannels]; exact hi
  obtain ⟨vcm₂, hvcm₂⟩ : ∃ vcm₂, vcm₂ = vcm₁.updateDvc i fun dvc =>
      { dvc with dvcTotalLength := UInt32.ofNat total } := ⟨_, rfl⟩
  have hi₂ : i < vcm₂.dynamicVirtualChannels.length := by rw [hvcm₂, length_updateDvc]; exact hi₁
  have hroom : (vcm₂.dvc i).receiveData.Roomy := by
    rw [hvcm₂, dvc_updateDvc hi₁, hdvc]
    exact h.room
  have hunread₂ : vcm₂.receiveData.unread = bytes ++ junk := by rw [hvcm₂]; exact hunread'
  obtain ⟨vcm', s, hstart, hleaves, hroomy, hfront, hcapacity⟩ :=
    wtsStartMessage_apply hmalloc hi₂ hroom (htotal.symm ▸ hlt) hunread₂ hlength'
  rw [hvcm₂] at hstart hleaves
  refine ⟨vcm', _, ?_, hleaves.of_update hstate hbuffer hchannels, ?_⟩
  · rw [wtsReadDrdynvcDataFirst, bind_apply_some htake]
    exact hstart
  · exact ⟨h.channelId, htotal, hroomy, fun _ => ⟨hfront, htotal ▸ hcapacity⟩, h.queue⟩

lemma wtsHandlePdu_part (hmalloc : ∀ n ≤ SSIZE_MAX, malloc.succeeds n = true)
    (hi : i < vcm.dynamicVirtualChannels.length) (h : before.Assembles (vcm.dvc i) a)
    {part : DvcPart} (htakes : a.Takes part)
    (hunread : vcm.receiveData.unread = part.body ++ junk)
    (hlength : length.toNat = part.body.length) :
    ∃ vcm' f, wtsHandlePdu malloc part.cmd part.sp i length vcm = (some (), vcm') ∧
      Leaves vcm vcm' i f ∧ before.Assembles (f (vcm.dvc i)) (a.receive part) := by
  cases part with
  | first total bytes =>
    rw [DvcPart.body, List.append_assoc] at hunread
    rw [DvcPart.body, List.length_append] at hlength
    exact wtsReadDrdynvcDataFirst_first hmalloc hi h htakes hunread hlength
  | next bytes => exact wtsReadDrdynvcData_next hmalloc hi h htakes hunread hlength

/-- The PDU behind its first byte. -/
lemma wtsReadReadyPdu_part (hmalloc : ∀ n ≤ SSIZE_MAX, malloc.succeeds n = true)
    {channelId : UInt32} (hfind : vcm.getDvcChannelById channelId = some i)
    (hi : i < vcm.dynamicVirtualChannels.length) (h : before.Assembles (vcm.dvc i) a)
    {part : DvcPart} (htakes : a.Takes part)
    (hunread : vcm.receiveData.unread = (writeVariableUint channelId.toNat).2 ++
      (part.body ++ junk))
    (hlength : length.toNat = (writeVariableUint channelId.toNat).2.length + part.body.length) :
    ∃ vcm' f, wtsReadReadyPdu malloc part.cmd part.sp (writeVariableUint channelId.toNat).1 length
        vcm = (some (), vcm') ∧ Leaves vcm vcm' i f ∧
      before.Assembles (f (vcm.dvc i)) (a.receive part) := by
  obtain ⟨length', vcm₁, htake, hlength', hstate, hchannels, hbuffer, hunread'⟩ :=
    wtsTakeVariableUint_written channelId.toNat_lt hunread hlength
  have hdvc : vcm₁.dvc i = vcm.dvc i := by rw [VirtualChannelManager.dvc, hchannels]; rfl
  have hfind₁ : vcm₁.getDvcChannelById (UInt32.ofNat channelId.toNat) = some i := by
    rw [UInt32.ofNat_toNat, VirtualChannelManager.getDvcChannelById, hchannels]
    exact hfind
  rw [← hdvc] at h ⊢
  obtain ⟨vcm', f, hhandle, hleaves, hassembles⟩ := wtsHandlePdu_part hmalloc
    (by rw [hchannels]; exact hi) h htakes hunread' hlength'
  refine ⟨vcm', f, ?_, ⟨hleaves.state.trans hstate, hleaves.buffer.trans hbuffer, ?_⟩, hassembles⟩
  · rw [wtsReadReadyPdu, bind_apply_some htake]
    dsimp only
    rw [gets_bind_apply, hfind₁]
    exact hhandle
  · rw [hleaves.channels, hchannels]

/-- A PDU that is not about capabilities, for a server that is ready. -/
lemma wtsDispatchPdu_ready {value cmd sp cbChId : Nat} (hcmd : (value &&& 0xF0) >>> 4 = cmd)
    (hsp : (value &&& 0x0C) >>> 2 = sp) (hid : value &&& 0x03 = cbChId)
    (hcap : cmd ≠ CAPABILITY_REQUEST_PDU) (hready : vcm.drdynvcState = .ready) :
    wtsDispatchPdu malloc value length vcm = wtsReadReadyPdu malloc cmd sp cbChId length vcm := by
  subst hcmd hsp hid
  show ((if (value &&& 0xF0) >>> 4 = CAPABILITY_REQUEST_PDU then _ else _ :
    Attempt VirtualChannelManager Unit) vcm) = _
  rw [if_neg hcap]
  show ((if vcm.drdynvcState = .ready then _ else _ : Attempt VirtualChannelManager Unit) vcm) = _
  rw [if_pos hready]

/-- A PDU with a part for a channel. -/
lemma wtsReadDrdynvcPdu_part (hmalloc : ∀ n ≤ SSIZE_MAX, malloc.succeeds n = true)
    (hready : vcm.drdynvcState = .ready) {channelId : UInt32}
    (hfind : vcm.getDvcChannelById channelId = some i)
    (hi : i < vcm.dynamicVirtualChannels.length) (h : before.Assembles (vcm.dvc i) a)
    {part : DvcPart} (htakes : a.Takes part) (hwithin : vcm.receiveData.Within)
    (hpdu : vcm.receiveData.front = part.pdu channelId)
    (hsize : (part.pdu channelId).length < 2 ^ 32) :
    ∃ vcm' f, wtsReadDrdynvcPdu malloc vcm = (some (), vcm') ∧
      Leaves vcm vcm' i f ∧ before.Assembles (f (vcm.dvc i)) (a.receive part) := by
  obtain ⟨hvalue, hcmd, hsp, hid⟩ := part.header channelId
  rw [DvcPart.pdu_eq] at hpdu hsize
  have hpos : vcm.receiveData.pos = 1 + ((writeVariableUint channelId.toNat).2.length +
      part.body.length) := by
    rw [← WStream.length_front hwithin, hpdu]
    simp [bytesUInt8]
    omega
  have hpos32 : (UInt32.ofNat vcm.receiveData.pos).toNat = vcm.receiveData.pos := by
    refine UInt32.toNat_ofNat_of_lt' ?_
    rw [← WStream.length_front hwithin, hpdu]
    exact hsize
  -- the PDU and what is behind it in the buffer
  have hunread : (vcm.receiveData.setPosition 0).unread = bytesUInt8 (part.cmd <<< 4 |||
      (writeVariableUint channelId.toNat).1 ||| part.sp <<< 2) ++
        ((writeVariableUint channelId.toNat).2 ++ (part.body ++
          vcm.receiveData.buffer.drop vcm.receiveData.pos)) := by
    have hsplit := List.take_append_drop vcm.receiveData.pos vcm.receiveData.buffer
    rw [← WStream.front, hpdu] at hsplit
    simpa [WStream.unread, WStream.setPosition] using hsplit.symm
  have hbyte := congrArg Prod.fst (WStream.readUInt8_bytes hunread hvalue)
  have hone : decide (1 ≤ UInt32.ofNat vcm.receiveData.pos) = true := by
    rw [decide_eq_true_iff, UInt32.le_iff_toNat_le, hpos32, hpos]
    exact Nat.le_add_right 1 _
  obtain ⟨vcm₁, hvcm₁⟩ : ∃ vcm₁, vcm₁ = (lengthSub (UInt32.ofNat vcm.receiveData.pos) 1
      (readUint 1 { vcm with receiveData := vcm.receiveData.setPosition 0 }).2).2 := ⟨_, rfl⟩
  have hunread₁ : vcm₁.receiveData.unread = (writeVariableUint channelId.toNat).2 ++
      (part.body ++ vcm.receiveData.buffer.drop vcm.receiveData.pos) := by
    rw [hvcm₁]
    exact WStream.unread_seek_append hunread rfl
  have hlength₁ : (UInt32.ofNat vcm.receiveData.pos - UInt32.ofNat 1).toNat =
      (writeVariableUint channelId.toNat).2.length + part.body.length := by
    rw [toNat_lengthSub (by rw [hpos32, hpos]; omega), hpos32, hpos]
    omega
  obtain ⟨hfind₁, hi₁, hdvc⟩ : vcm₁.getDvcChannelById channelId = some i ∧
      i < vcm₁.dynamicVirtualChannels.length ∧ vcm₁.dvc i = vcm.dvc i := by
    subst hvcm₁
    exact ⟨hfind, hi, rfl⟩
  rw [← hdvc] at h ⊢
  obtain ⟨vcm', f, hread, hleaves, hassembles⟩ :=
    wtsReadReadyPdu_part hmalloc hfind₁ hi₁ h htakes hunread₁ hlength₁
  have hcap : part.cmd ≠ CAPABILITY_REQUEST_PDU := by
    cases part <;> simp [DvcPart.cmd, DATA_FIRST_PDU, DATA_PDU, CAPABILITY_REQUEST_PDU]
  subst hvcm₁
  refine ⟨vcm', f, ?_, ⟨hleaves.state, hleaves.buffer, hleaves.channels⟩, hassembles⟩
  have hreadone : readUint 1 { vcm with receiveData := vcm.receiveData.setPosition 0 } = (some
      (part.cmd <<< 4 ||| (writeVariableUint channelId.toNat).1 ||| part.sp <<< 2),
        (readUint 1 { vcm with receiveData := vcm.receiveData.setPosition 0 }).2) :=
    Prod.ext (congrArg some hbyte) rfl
  rw [wtsReadDrdynvcPdu, gets_bind_apply, require_bind_apply hone, modify_bind_apply,
    bind_apply_some hreadone, lengthSub_bind_apply]
  refine Eq.trans (wtsDispatchPdu_ready hcmd hsp hid hcap ?_) hread
  exact hready

/-! ### Assemblers of all channels -/

/-- The manager is ready, and each of its channels is the assembler of its id. -/
structure VirtualChannelManager.Assembles (before vcm : VirtualChannelManager)
    (family : UInt32 → Assembler) : Prop where
  ready : vcm.drdynvcState = .ready
  room : vcm.receiveData.Roomy
  length : vcm.dynamicVirtualChannels.length = before.dynamicVirtualChannels.length
  channels : ∀ i < vcm.dynamicVirtualChannels.length,
    (before.dvc i).Assembles (vcm.dvc i) (family (before.dvc i).channelId)

/-- No two channels have the same id. -/
def VirtualChannelManager.DistinctIds (vcm : VirtualChannelManager) : Prop :=
  (vcm.dynamicVirtualChannels.map RdpPeerChannel.channelId).Nodup

variable {first vcm' : VirtualChannelManager} {family : UInt32 → Assembler} {flags : Nat}

lemma VirtualChannelManager.Assembles.update (h : first.Assembles vcm family)
    (hids : first.DistinctIds) (hi : i < vcm.dynamicVirtualChannels.length)
    {f : RdpPeerChannel → RdpPeerChannel} (hstate : vcm'.drdynvcState = vcm.drdynvcState)
    (hroom : vcm'.receiveData.Roomy)
    (hchannels : vcm'.dynamicVirtualChannels = vcm.dynamicVirtualChannels.modify i f)
    {part : DvcPart}
    (hassembles : (first.dvc i).Assembles (f (vcm.dvc i))
      ((family (first.dvc i).channelId).receive part)) :
    first.Assembles vcm' (familyStep Assembler.receive family ((first.dvc i).channelId, part)) := by
  have hlength : vcm'.dynamicVirtualChannels.length = vcm.dynamicVirtualChannels.length := by
    rw [hchannels, List.length_modify]
  refine ⟨hstate.trans h.ready, hroom, hlength.trans h.length, fun j hj => ?_⟩
  rw [hlength] at hj
  have hdvc : vcm'.dvc j = (vcm.updateDvc i f).dvc j := by
    rw [VirtualChannelManager.dvc, hchannels]
    rfl
  rw [hdvc, familyStep]
  rcases eq_or_ne i j with rfl | hne
  · rw [dvc_updateDvc hi, Function.update_self]
    exact hassembles
  · have hsame : (vcm.updateDvc i f).dvc j = vcm.dvc j := by
      simp [VirtualChannelManager.dvc, VirtualChannelManager.updateDvc, hne]
    have hid : (first.dvc j).channelId ≠ (first.dvc i).channelId := by
      rw [h.length] at hi hj
      intro heq
      have hi' : i < (first.dynamicVirtualChannels.map RdpPeerChannel.channelId).length := by
        simpa using hi
      have hj' : j < (first.dynamicVirtualChannels.map RdpPeerChannel.channelId).length := by
        simpa using hj
      refine hne (hids.getElem_inj_iff.mp (show (first.dynamicVirtualChannels.map
        RdpPeerChannel.channelId)[i] = (first.dynamicVirtualChannels.map
          RdpPeerChannel.channelId)[j] from ?_))
      simpa [VirtualChannelManager.dvc, hi, hj] using heq.symm
    rw [hsame, Function.update_of_ne hid]
    exact h.channels j hj

/-- The channel with an id is found. -/
lemma VirtualChannelManager.Assembles.find (h : first.Assembles vcm family) {channelId : UInt32}
    (hopen : channelId ∈ first.dynamicVirtualChannels.map RdpPeerChannel.channelId) :
    ∃ i, vcm.getDvcChannelById channelId = some i ∧ i < vcm.dynamicVirtualChannels.length ∧
      (first.dvc i).channelId = channelId := by
  obtain ⟨j, hj, hid⟩ := List.mem_iff_getElem.mp hopen
  rw [List.length_map] at hj
  have hcid : ∀ k (hk : k < vcm.dynamicVirtualChannels.length),
      vcm.dynamicVirtualChannels[k].channelId = (first.dvc k).channelId := by
    intro k hk
    rw [← (h.channels k hk).channelId]
    simp [VirtualChannelManager.dvc, hk]
  have hj' : j < vcm.dynamicVirtualChannels.length := by rw [h.length]; exact hj
  have hsome : (vcm.getDvcChannelById channelId).isSome := by
    rw [VirtualChannelManager.getDvcChannelById, List.findIdx?_isSome, List.any_eq_true]
    refine ⟨_, List.getElem_mem hj', ?_⟩
    rw [beq_iff_eq, hcid j hj', ← hid]
    simp [VirtualChannelManager.dvc, hj]
  obtain ⟨i, hi⟩ := Option.isSome_iff_exists.mp hsome
  obtain ⟨hlt, hfound, -⟩ := List.findIdx?_eq_some_iff_getElem.mp hi
  exact ⟨i, hi, hlt, (hcid i hlt).symm.trans (beq_iff_eq.mp hfound)⟩

/-! ### Chunks -/

/-- Bytes are written behind what has been received of a PDU. -/
lemma wtsWriteChunk_eq (hmalloc : ∀ n ≤ SSIZE_MAX, malloc.succeeds n = true)
    (hroom : vcm.receiveData.Roomy) (hsize : vcm.receiveData.front.length + bytes.length ≤ 2 ^ 32) :
    ∃ s, wtsWriteChunk malloc vcm bytes = some s ∧ s.Roomy ∧
      s.front = vcm.receiveData.front ++ bytes := by
  rw [WStream.length_front hroom.within] at hsize
  obtain ⟨s, hstream, hroomy, hpos, hfront, hcapacity⟩ :=
    hroom.ensured hmalloc (show vcm.receiveData.pos + bytes.length ≤ 2 ^ 33 by omega)
  obtain ⟨hroomy', hfront', -⟩ := hroomy.write bytes (by omega)
  exact ⟨s.write bytes, by rw [wtsWriteChunk, hstream]; rfl, hroomy', by rw [hfront', hfront]⟩

/-- The start of a chunk: a first one drops what was received before. -/
def startedWith (flags : Nat) (received : List UInt8) : List UInt8 :=
  if flags &&& CHANNEL_FLAG_FIRST ≠ 0 then [] else received

lemma wtsStartChunk_spec (flags : Nat) (h : first.Assembles vcm family) :
    first.Assembles (wtsStartChunk flags vcm) family ∧
      (wtsStartChunk flags vcm).receiveData.front = startedWith flags vcm.receiveData.front := by
  rw [wtsStartChunk, startedWith]
  split_ifs
  · exact ⟨⟨h.ready, h.room.restart, h.length, h.channels⟩, rfl⟩
  · exact ⟨h, rfl⟩

/-- A chunk that is not the last one is collected. -/
lemma wtsProcessChannelData_collects (hmalloc : ∀ n ≤ SSIZE_MAX, malloc.succeeds n = true)
    (h : first.Assembles vcm family) (hlast : flags &&& CHANNEL_FLAG_LAST = 0)
    (hsize : (startedWith flags vcm.receiveData.front ++ bytes).length ≤ 2 ^ 32) :
    (wtsProcessChannelData malloc bytes flags vcm).1 = true ∧
      first.Assembles (wtsProcessChannelData malloc bytes flags vcm).2 family ∧
      (wtsProcessChannelData malloc bytes flags vcm).2.receiveData.front =
        startedWith flags vcm.receiveData.front ++ bytes := by
  obtain ⟨hstart, hfront⟩ := wtsStartChunk_spec flags h
  rw [← hfront, List.length_append] at hsize
  obtain ⟨s, hwrite, hroomy, hfront'⟩ := wtsWriteChunk_eq hmalloc hstart.room hsize
  rw [wtsProcessChannelData, hwrite]
  dsimp only
  rw [if_neg (not_not.mpr hlast), ← hfront]
  exact ⟨rfl, ⟨hstart.ready, hroomy, hstart.length, hstart.channels⟩, hfront'⟩

/-- With the last chunk of a PDU its part has arrived. -/
lemma wtsProcessChannelData_last (hmalloc : ∀ n ≤ SSIZE_MAX, malloc.succeeds n = true)
    (hids : first.DistinctIds) (h : first.Assembles vcm family) {channelId : UInt32}
    (hopen : channelId ∈ first.dynamicVirtualChannels.map RdpPeerChannel.channelId)
    {part : DvcPart} (htakes : (family channelId).Takes part)
    (hlast : flags &&& CHANNEL_FLAG_LAST ≠ 0)
    (hpdu : startedWith flags vcm.receiveData.front ++ bytes = part.pdu channelId)
    (hsize : (part.pdu channelId).length < 2 ^ 32) :
    (wtsProcessChannelData malloc bytes flags vcm).1 = true ∧
      first.Assembles (wtsProcessChannelData malloc bytes flags vcm).2
        (familyStep Assembler.receive family (channelId, part)) := by
  obtain ⟨hstart, hfront⟩ := wtsStartChunk_spec flags h
  rw [← hfront] at hpdu
  have hsize' : (wtsStartChunk flags vcm).receiveData.front.length + bytes.length ≤ 2 ^ 32 := by
    rw [← List.length_append, hpdu]
    exact hsize.le
  obtain ⟨s, hwrite, hroomy, hfront'⟩ := wtsWriteChunk_eq hmalloc hstart.room hsize'
  rw [hpdu] at hfront'
  obtain ⟨vcm₁, hvcm₁⟩ : ∃ vcm₁, vcm₁ = { wtsStartChunk flags vcm with
      receiveData := s, trace := .start s.pos } := ⟨_, rfl⟩
  have h₁ : first.Assembles vcm₁ family := by
    rw [hvcm₁]
    exact ⟨hstart.ready, hroomy, hstart.length, hstart.channels⟩
  obtain ⟨i, hfind, hi, rfl⟩ := h₁.find hopen
  obtain ⟨vcm₂, f, hread, hleaves, hassembles⟩ := wtsReadDrdynvcPdu_part hmalloc h₁.ready hfind hi
    (h₁.channels i hi) htakes (by rw [hvcm₁]; exact hroomy.within) (by rw [hvcm₁]; exact hfront')
    hsize
  rw [wtsProcessChannelData, hwrite]
  dsimp only
  rw [if_pos hlast, ← hvcm₁, hread]
  have hbuffer : vcm₂.receiveData.buffer = s.buffer := hleaves.buffer.trans (by rw [hvcm₁])
  have hroomy₂ : (vcm₂.receiveData.setPosition 0).Roomy := by
    refine ⟨Nat.zero_le _, ?_, ?_⟩
    · rw [WStream.setPosition, hbuffer]
      exact hroomy.pos
    · rw [WStream.setPosition, hbuffer]
      exact hroomy.capacity
  have hfinal : first.Assembles { vcm₂ with receiveData := vcm₂.receiveData.setPosition 0 }
      (familyStep Assembler.receive family ((first.dvc i).channelId, part)) := by
    refine h₁.update hids hi ?_ hroomy₂ ?_ hassembles
    · exact hleaves.state
    · exact hleaves.channels
  exact ⟨rfl, hfinal⟩

/-- A chunk of the static channel arrives. -/
def wtsChunkStep (malloc : Malloc) (vcm : VirtualChannelManager) (chunk : StaticChunk) :
    VirtualChannelManager := (wtsProcessChannelData malloc chunk.data chunk.flags vcm).2

/-- The server takes the chunk without an error. -/
def TakesChunk (malloc : Malloc) (vcm : VirtualChannelManager) (chunk : StaticChunk) : Prop :=
  (wtsProcessChannelData malloc chunk.data chunk.flags vcm).1 = true

section Pdus

variable (hmalloc : ∀ n ≤ SSIZE_MAX, malloc.succeeds n = true) (hids : first.DistinctIds)
  {channelId : UInt32}
  (hopen : channelId ∈ first.dynamicVirtualChannels.map RdpPeerChannel.channelId) {part : DvcPart}
  (htakes : (family channelId).Takes part) (hsize : (part.pdu channelId).length < 2 ^ 32)

include hmalloc hids hopen htakes hsize

lemma wtsLaterChunks {pieces : List (List UInt8)} (hne : pieces ≠ []) (totalSize : Nat)
    (h : first.Assembles vcm family)
    (hpdu : vcm.receiveData.front ++ pieces.flatten = part.pdu channelId) :
    AlongRun (wtsChunkStep malloc) (TakesChunk malloc) vcm (laterChunks totalSize pieces) ∧
      first.Assembles ((laterChunks totalSize pieces).foldl (wtsChunkStep malloc) vcm)
        (familyStep Assembler.receive family (channelId, part)) := by
  induction pieces generalizing vcm with
  | nil => exact absurd rfl hne
  | cons piece pieces ih =>
    cases pieces with
    | nil =>
      rw [List.flatten_singleton] at hpdu
      obtain ⟨hok, hnext⟩ := wtsProcessChannelData_last hmalloc hids h hopen htakes
        (show CHANNEL_FLAG_LAST &&& CHANNEL_FLAG_LAST ≠ 0 by decide) hpdu hsize
      exact ⟨⟨hok, trivial⟩, hnext⟩
    | cons piece' pieces =>
      rw [List.flatten_cons, ← List.append_assoc] at hpdu
      have hle : (vcm.receiveData.front ++ piece).length ≤ 2 ^ 32 := by
        have := congrArg List.length hpdu
        rw [List.length_append] at this
        omega
      obtain ⟨hok, hnext, hfront⟩ := wtsProcessChannelData_collects hmalloc h
        (show 0 &&& CHANNEL_FLAG_LAST = 0 by decide) hle
      obtain ⟨halong, hrest⟩ := ih (List.cons_ne_nil _ _) hnext (hfront ▸ hpdu)
      exact ⟨⟨hok, halong⟩, hrest⟩

/-- The chunks of a PDU bring its part. -/
lemma wtsChunks {chunkSize : Nat} (hchunk : 0 < chunkSize) (h : first.Assembles vcm family) :
    AlongRun (wtsChunkStep malloc) (TakesChunk malloc) vcm
        (freerdpChannelSend chunkSize (part.pdu channelId)) ∧
      first.Assembles
        ((freerdpChannelSend chunkSize (part.pdu channelId)).foldl (wtsChunkStep malloc) vcm)
        (familyStep Assembler.receive family (channelId, part)) := by
  have hflatten := flatten_pieces hchunk (part.pdu channelId)
  have hpieces : pieces chunkSize (part.pdu channelId) ≠ [] := by
    refine pieces_ne_nil ?_
    rw [DvcPart.pdu_eq, bytesUInt8]
    exact List.cons_ne_nil _ _
  rw [freerdpChannelSend]
  rcases hcut : pieces chunkSize (part.pdu channelId) with _ | ⟨piece, _ | ⟨piece', rest⟩⟩
  · exact absurd hcut hpieces
  · rw [hcut, List.flatten_singleton] at hflatten
    obtain ⟨hok, hnext⟩ := wtsProcessChannelData_last hmalloc hids h hopen htakes
      (show (CHANNEL_FLAG_FIRST ||| CHANNEL_FLAG_LAST) &&& CHANNEL_FLAG_LAST ≠ 0 by decide) hflatten
      hsize
    exact ⟨⟨hok, trivial⟩, hnext⟩
  · rw [hcut, List.flatten_cons] at hflatten
    have hle : ([] ++ piece).length ≤ 2 ^ 32 := by
      have := congrArg List.length hflatten
      rw [List.length_append] at this
      rw [List.nil_append]
      omega
    obtain ⟨hok, hnext, hfront⟩ := wtsProcessChannelData_collects hmalloc h
      (show CHANNEL_FLAG_FIRST &&& CHANNEL_FLAG_LAST = 0 by decide) hle
    obtain ⟨halong, hrest⟩ := wtsLaterChunks hmalloc hids hopen htakes hsize
      (List.cons_ne_nil piece' rest) (part.pdu channelId).length hnext (hfront ▸ hflatten)
    exact ⟨⟨hok, halong⟩, hrest⟩

end Pdus

/-- The chunks of PDUs of several channels bring the parts of all of them. -/
lemma wtsRun (hmalloc : ∀ n ≤ SSIZE_MAX, malloc.succeeds n = true) (hids : first.DistinctIds)
    {chunkSize : Nat} (hchunk : 0 < chunkSize) {ps : List (UInt32 × DvcPart)}
    (hps : ∀ p ∈ ps, p.1 ∈ first.dynamicVirtualChannels.map RdpPeerChannel.channelId ∧
      (p.2.pdu p.1).length < 2 ^ 32)
    (htakes : AlongRun (familyStep Assembler.receive) (fun family p => (family p.1).Takes p.2)
      family ps) (h : first.Assembles vcm family) :
    AlongRun (wtsChunkStep malloc) (TakesChunk malloc) vcm
        (ps.flatMap fun p => freerdpChannelSend chunkSize (p.2.pdu p.1)) ∧
      first.Assembles ((ps.flatMap fun p => freerdpChannelSend chunkSize (p.2.pdu p.1)).foldl
        (wtsChunkStep malloc) vcm) (ps.foldl (familyStep Assembler.receive) family) := by
  induction ps generalizing vcm family with
  | nil => exact ⟨trivial, h⟩
  | cons p ps ih =>
    obtain ⟨⟨hopen, hsize⟩, hrest⟩ := List.forall_mem_cons.mp hps
    obtain ⟨halong, hnext⟩ := wtsChunks hmalloc hids hopen htakes.1 hsize hchunk h
    obtain ⟨halong', hfinal⟩ := ih hrest htakes.2 hnext
    rw [List.flatMap_cons, List.foldl_append]
    exact ⟨halong.append halong', hfinal⟩

/-- The client writes messages on open channels. Whatever the order in which the PDUs of different
channels reach the static channel and whatever its chunk size, the server takes every chunk, and
each channel queues its own messages, whole, once and in order. -/
theorem clientMessages_delivered (hmalloc : ∀ n ≤ SSIZE_MAX, malloc.succeeds n = true)
    {chunkSize : Nat} (hchunk : 0 < chunkSize) (hready : vcm.drdynvcState = .ready)
    (hroom : vcm.receiveData.Roomy)
    (hidle : ∀ dvc ∈ vcm.dynamicVirtualChannels, dvc.receiveData.Roomy ∧ dvc.dvcTotalLength = 0)
    (hids : vcm.DistinctIds) {messages : UInt32 → List (List UInt8)}
    (hmessages : ∀ c, ∀ m ∈ messages c, m ≠ [] ∧ m.length < 2 ^ 32)
    (hopen : ∀ c, messages c ≠ [] → c ∈ vcm.dynamicVirtualChannels.map RdpPeerChannel.channelId)
    {pdus : List (UInt32 × List UInt8)}
    (hpdus : ∀ c, partOf c pdus = (messages c).flatMap (drdynvcDataPdus c)) :
    let chunks := pdus.flatMap fun p => freerdpChannelSend chunkSize p.2
    AlongRun (wtsChunkStep malloc) (TakesChunk malloc) vcm chunks ∧
      ∀ i < vcm.dynamicVirtualChannels.length,
        ((chunks.foldl (wtsChunkStep malloc) vcm).dvc i).queue =
          (vcm.dvc i).queue ++ (messages (vcm.dvc i).channelId).map .data := by
  have hchunkLength : 9 < CHANNEL_CHUNK_LENGTH := by decide
  have hparts : ∀ c, partOf c pdus = ((messages c).flatMap
      (messageParts CHANNEL_CHUNK_LENGTH c)).map (DvcPart.pdu c) := by
    intro c
    rw [hpdus, List.map_flatMap]
    exact List.flatMap_congr fun m _ => drdynvcDataPdus_eq c m
  obtain ⟨ps, rfl, hpart⟩ := exists_partOf_eq hparts
  -- each assembler is handed the parts of its messages
  have hreceived := fun c => Assembler.receive_messages [] (messages c)
    (fun m _ => messageParts_parts c m hchunkLength) (hmessages c)
  have halong : AlongRun (familyStep Assembler.receive) (fun family p => (family p.1).Takes p.2)
      (fun _ => ⟨0, [], []⟩) ps := by
    refine alongRun_familyStep fun c => ?_
    rw [hpart]
    exact (hreceived c).1
  have hps : ∀ p ∈ ps, p.1 ∈ vcm.dynamicVirtualChannels.map RdpPeerChannel.channelId ∧
      (p.2.pdu p.1).length < 2 ^ 32 := by
    rintro ⟨c, part⟩ hp
    have hmem := mem_partOf hp
    rw [hpart, List.mem_flatMap] at hmem
    obtain ⟨m, hm, hmem⟩ := hmem
    refine ⟨hopen c (List.ne_nil_of_mem hm), ?_⟩
    exact Nat.lt_of_le_of_lt (length_pdu_le hchunkLength hmem) (by decide)
  have hstart : vcm.Assembles vcm fun _ => ⟨0, [], []⟩ := by
    refine ⟨hready, hroom, rfl, fun i hi => ?_⟩
    obtain ⟨hroomy, htotal⟩ := hidle (vcm.dvc i) (by simp [VirtualChannelManager.dvc, hi])
    exact ⟨rfl, by rw [htotal]; rfl, hroomy, fun hzero => absurd rfl hzero, by simp⟩
  obtain ⟨hchunks, hfinal⟩ := wtsRun hmalloc hids hchunk hps halong hstart
  rw [List.flatMap_map]
  refine ⟨hchunks, fun i hi => ?_⟩
  rw [(hfinal.channels i (hfinal.length.symm ▸ hi)).queue, foldl_familyStep, hpart,
    (hreceived _).2]
  rfl

/-- The channels 3 and 300. -/
def twoPeerChannels : VirtualChannelManager where
  drdynvcState := .ready
  receiveData := ⟨List.replicate 64 0, 0⟩
  dynamicVirtualChannels :=
    [⟨3, .succeeded, 0, ⟨List.replicate 64 0, 0⟩, []⟩,
      ⟨300, .succeeded, 0, ⟨List.replicate 64 0, 0⟩, []⟩]
  trace := .start 0

/-- A long message on channel 3 and a short one on channel 300. -/
def twoMessages (c : UInt32) : List (List UInt8) :=
  if c = 3 then [List.replicate 2000 7] else if c = 300 then [[1, 2]] else []

/-- What `drdynvc_write_data` hands to the static channel, while nothing fails. -/
def sentPdus (channelId : UInt32) (data : List UInt8) : List (List UInt8) :=
  let drdynvc : DrdynvcPlugin := ⟨.ready, 1, [], [], [], []⟩
  (drdynvc.writeData DrdynvcPlugin.succeeding channelId data).2.2.sent

lemma sentPdus_eq (channelId : UInt32) {data : List UInt8} (hdata : data ≠ []) :
    sentPdus channelId data = drdynvcDataPdus channelId data := by
  rw [sentPdus, DrdynvcPlugin.writeData_sent rfl (fun _ => rfl) channelId hdata]
  rfl

/-- The short message is sent behind the first PDU of the long one. -/
def twoMessagePdus : List (UInt32 × List UInt8) :=
  let long := sentPdus 3 (List.replicate 2000 7)
  (long.take 1).map (Prod.mk 3) ++ (sentPdus 300 [1, 2]).map (Prod.mk 300) ++
    (long.drop 1).map (Prod.mk 3)

lemma partOf_twoMessagePdus (c : UInt32) :
    partOf c twoMessagePdus = (twoMessages c).flatMap (drdynvcDataPdus c) := by
  simp only [twoMessagePdus, partOf_append, partOf_map_mk, twoMessages,
    sentPdus_eq 3 (List.ne_nil_of_length_eq_add_one List.length_replicate),
    sentPdus_eq 300 (List.cons_ne_nil 1 [2])]
  rcases eq_or_ne c 3 with rfl | h3
  · simp only [if_true, show ¬(300 : UInt32) = 3 by decide, if_false, List.append_nil,
      List.take_append_drop, List.flatMap_cons, List.flatMap_nil]
  · rcases eq_or_ne c 300 with rfl | h300
    · simp
    · simp [h3, h300, Ne.symm h3, Ne.symm h300]

theorem clientMessages_delivered_two :
    (((twoMessagePdus.flatMap fun p => freerdpChannelSend 500 p.2).foldl
      (wtsChunkStep mallocAll) twoPeerChannels).dvc 0).queue = [.data (List.replicate 2000 7)] := by
  have hroomy : (⟨List.replicate 64 0, 0⟩ : WStream).Roomy := ⟨Nat.zero_le _, by simp, by simp⟩
  have hidle : ∀ dvc ∈ twoPeerChannels.dynamicVirtualChannels,
      dvc.receiveData.Roomy ∧ dvc.dvcTotalLength = 0 := by
    intro dvc hdvc
    rcases List.mem_pair.mp hdvc with rfl | rfl
    · exact ⟨hroomy, rfl⟩
    · exact ⟨hroomy, rfl⟩
  have hmessages : ∀ c, ∀ m ∈ twoMessages c, m ≠ [] ∧ m.length < 2 ^ 32 := by
    intro c m hm
    rw [twoMessages] at hm
    split_ifs at hm
    · rw [List.mem_singleton.mp hm, ← List.length_pos_iff, List.length_replicate]
      exact ⟨by decide, by decide⟩
    · rw [List.mem_singleton.mp hm]
      exact ⟨by decide, by decide⟩
    · exact absurd hm List.not_mem_nil
  have hopen : ∀ c, twoMessages c ≠ [] →
      c ∈ twoPeerChannels.dynamicVirtualChannels.map RdpPeerChannel.channelId := by
    intro c hc
    rw [twoMessages] at hc
    split_ifs at hc with h3 h300
    · simp [twoPeerChannels, h3]
    · simp [twoPeerChannels, h300]
    · exact absurd rfl hc
  exact (clientMessages_delivered (fun n hn => decide_eq_true hn) (by decide) rfl hroomy hidle
    (show [3, 300].Nodup by decide) hmessages hopen partOf_twoMessagePdus).2 0 (by decide)

end FreeRdp
