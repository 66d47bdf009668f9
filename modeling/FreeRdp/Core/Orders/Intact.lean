import FreeRdp.Core.Orders.Pending

/-!
# Orders that are not sent

An order that cannot be sent leaves the pending update as it is only if it fails before the room
for its header has been passed over. A writer that gives up later leaves a gap, since nothing takes
the position back.
-/

namespace FreeRdp

/-! ### Orders that the writers accept -/

/-- The writer of a bitmap accepts its depth and its numbers. -/
def CacheBitmapV2Order.Accepted (o : CacheBitmapV2Order) : Prop :=
  o.bitmapBpp ∈ [1, 8, 16, 24, 32] ∧ o.bitmapWidth ≤ 0x7FFF ∧
    (o.flags &&& CBR2_HEIGHT_SAME_AS_WIDTH ≠ 0 ∨ o.bitmapHeight ≤ 0x7FFF) ∧
    o.bitmapLength ≤ 0x3FFFFFFF ∧ (o.flags &&& CBR2_DO_NOT_CACHE ≠ 0 ∨ o.cacheIndex ≤ 0x7FFF)

/-- A signed number of two bytes at most. The smallest `INT32` is taken for such a number. -/
def Accepted2byteSigned (v : Int) : Prop :=
  if v < 0 then toInt32 (-v) ≤ 0x3FFF else v ≤ 0x3FFF

/-- The writer of a glyph accepts its numbers. -/
def GlyphDataV2.Accepted (g : GlyphDataV2) : Prop :=
  Accepted2byteSigned g.x ∧ Accepted2byteSigned g.y ∧ g.cx ≤ 0x7FFF ∧ g.cy ≤ 0x7FFF

/-- The writer of a brush accepts its depth, and the length of its data. -/
def CacheBrushOrder.Accepted (o : CacheBrushOrder) : Prop :=
  o.bpp ∈ [1, 8, 16, 24, 32] ∧ (o.cx = 8 ∧ o.cy = 8 →
    (o.bpp = 1 → o.length = 8) ∧ (o.bpp = 8 → o.length ≠ 20) ∧ (o.bpp = 16 → o.length ≠ 24) ∧
      (o.bpp = 32 → o.length ≠ 32))

/-- An icon of version 0 has neither an info tip nor a state. -/
def NotifyIconStateOrder.Accepted (state : NotifyIconStateOrder) (info : WindowOrderInfo) : Prop :=
  info.has WINDOW_ORDER_FIELD_NOTIFY_VERSION = true → state.version = 0 →
    info.has WINDOW_ORDER_FIELD_NOTIFY_INFO_TIP = false ∧
      info.has WINDOW_ORDER_FIELD_NOTIFY_STATE = false

/-- The writer of an order accepts it. -/
def ServerOrder.Accepted : ServerOrder → Prop
  | .cacheBitmapV2 o => o.Accepted
  | .cacheBitmapV3 o => o.bpp ∈ [1, 8, 16, 24, 32]
  | .cacheColorTable o => o.numberColors = 256
  | .cacheGlyphV2 o => ∀ g ∈ o.glyphData, g.Accepted
  | .cacheBrush o => o.Accepted
  | .newOrExistingNotificationIcons info state => state.Accepted info
  | _ => True

lemma getBppBmf_eq_none_iff (bpp : Nat) : getBppBmf bpp = none ↔ bpp ∉ [1, 8, 16, 24, 32] := by
  unfold getBppBmf
  split <;> simp_all

lemma reject_mem_putOrReject (bytes : Option (List UInt8)) :
    .reject ∈ putOrReject bytes ↔ bytes = none := by
  cases bytes <;> simp [putOrReject]

lemma updateWrite2byteUnsigned_eq_none_iff (v : Nat) :
    updateWrite2byteUnsigned v = none ↔ ¬v ≤ 0x7FFF := by
  unfold updateWrite2byteUnsigned
  split_ifs <;> simp <;> omega

lemma updateWrite4byteUnsigned_eq_none_iff (v : Nat) :
    updateWrite4byteUnsigned v = none ↔ ¬v ≤ 0x3FFFFFFF := by
  unfold updateWrite4byteUnsigned
  split_ifs <;> simp <;> omega

lemma updateWrite2byteSigned_eq_none_iff (v : Int) :
    updateWrite2byteSigned v = none ↔ ¬Accepted2byteSigned v := by
  unfold updateWrite2byteSigned Accepted2byteSigned
  dsimp only
  split_ifs <;> simp <;> omega

section Accepted

lemma reject_mem_cacheBitmapV2Steps (o : CacheBitmapV2Order) :
    .reject ∈ cacheBitmapV2Steps o ↔ ¬o.Accepted := by
  unfold cacheBitmapV2Steps CacheBitmapV2Order.Accepted ensureInt
  dsimp only
  rw [List.mem_cons, or_iff_right (by simp)]
  rcases hbpp : getBppBmf o.bitmapBpp with _ | id
  · have hnone := (getBppBmf_eq_none_iff _).mp hbpp
    simp [hnone]
  · have hsome : o.bitmapBpp ∈ [1, 8, 16, 24, 32] := by
      by_contra hnot
      rw [(getBppBmf_eq_none_iff _).mpr hnot] at hbpp
      cases hbpp
    have hkey : WriteStep.reject ∉ (if o.flags &&& CBR2_PERSISTENT_KEY_PRESENT ≠ 0 then
        [WriteStep.put (bytesUInt32 o.key1), .put (bytesUInt32 o.key2)] else []) := by
      split_ifs <;> simp
    have hhdr : WriteStep.reject ∉ (if o.withComprHdr o.compressed then
        [WriteStep.put (bytesUInt16 o.cbCompFirstRowSize),
          .put (bytesUInt16 o.cbCompMainBodySize), .put (bytesUInt16 o.cbScanWidth),
          .put (bytesUInt16 o.cbUncompressedSize)] else []) := by
      split_ifs <;> simp
    have hheight : WriteStep.reject ∈ (if o.flags &&& CBR2_HEIGHT_SAME_AS_WIDTH ≠ 0 then []
        else putOrReject (updateWrite2byteUnsigned o.bitmapHeight)) ↔
        ¬(o.flags &&& CBR2_HEIGHT_SAME_AS_WIDTH ≠ 0 ∨ o.bitmapHeight ≤ 0x7FFF) := by
      split_ifs with hsame
      · simp [hsame]
      · rw [reject_mem_putOrReject, updateWrite2byteUnsigned_eq_none_iff, or_iff_right hsame]
    have hindex : ¬(if o.flags &&& CBR2_DO_NOT_CACHE ≠ 0 then BITMAP_CACHE_WAITING_LIST_INDEX
        else o.cacheIndex) ≤ 0x7FFF ↔
        ¬(o.flags &&& CBR2_DO_NOT_CACHE ≠ 0 ∨ o.cacheIndex ≤ 0x7FFF) := by
      split_ifs with hflag
      · simp [hflag, BITMAP_CACHE_WAITING_LIST_INDEX]
      · rw [or_iff_right hflag]
    simp only [List.mem_append, reject_mem_putOrReject, updateWrite2byteUnsigned_eq_none_iff,
      updateWrite4byteUnsigned_eq_none_iff, hkey, hhdr, hheight, hindex, hsome, List.mem_cons,
      List.not_mem_nil, reduceCtorEq, false_or, or_false, true_and, not_and_or]

lemma reject_mem_glyphV2Steps (g : GlyphDataV2) : .reject ∈ glyphV2Steps g ↔ ¬g.Accepted := by
  unfold glyphV2Steps GlyphDataV2.Accepted
  simp only [List.mem_cons, List.mem_append, reject_mem_putOrReject,
    updateWrite2byteSigned_eq_none_iff, updateWrite2byteUnsigned_eq_none_iff, reduceCtorEq,
    List.not_mem_nil, false_or, or_false]
  tauto

lemma writeBrushData_eq_none_iff {o : CacheBrushOrder} : writeBrushData o = none ↔
    ¬(o.cx = 8 ∧ o.cy = 8 → (o.bpp = 1 → o.length = 8) ∧ (o.bpp = 8 → o.length ≠ 20) ∧
      (o.bpp = 16 → o.length ≠ 24) ∧ (o.bpp = 32 → o.length ≠ 32)) := by
  unfold writeBrushData
  split_ifs with hsize hbpp hlength hcompressed
  · simp [hsize, hbpp, hlength]
  · simp only [false_iff, not_not]
    omega
  · simp only [true_iff]
    omega
  · simp only [false_iff, not_not]
    omega
  · simp [hsize]

lemma reject_mem_cacheBrushSteps (o : CacheBrushOrder) :
    .reject ∈ cacheBrushSteps o ↔ ¬o.Accepted := by
  unfold cacheBrushSteps CacheBrushOrder.Accepted ensureInt
  rw [List.mem_cons, or_iff_right (by simp), not_and_or, ← getBppBmf_eq_none_iff]
  rcases getBppBmf o.bpp with _ | id
  · simp
  · simp only [List.mem_cons, reduceCtorEq, false_or, reject_mem_putOrReject]
    exact writeBrushData_eq_none_iff

lemma reject_mem_unlessVersion0 (info : WindowOrderInfo) (state : NotifyIconStateOrder)
    (flag : Nat) (bytes : List UInt8) : .reject ∈ unlessVersion0 info state flag bytes ↔
      info.has flag = true ∧ info.has WINDOW_ORDER_FIELD_NOTIFY_VERSION = true ∧
        state.version = 0 := by
  unfold unlessVersion0
  split_ifs with hflag hversion
  · simpa [hflag] using hversion
  · simpa [hflag] using hversion
  · simp [hflag]

/-- The flag of the settings does not matter. -/
lemma CacheBitmapV2Order.accepted_withSettings (o : CacheBitmapV2Order) (c : Bool) :
    (o.withSettings c).Accepted ↔ o.Accepted := by
  have hbit : ∀ flag, CBR2_NO_BITMAP_COMPRESSION_HDR &&& flag = 0 →
      (o.flags ||| CBR2_NO_BITMAP_COMPRESSION_HDR) &&& flag = o.flags &&& flag := by
    intro flag hflag
    rw [Nat.and_or_distrib_right, hflag, Nat.or_zero]
  cases c with
  | false => exact Iff.rfl
  | true =>
    simp only [CacheBitmapV2Order.withSettings, CacheBitmapV2Order.Accepted, if_true,
      hbit _ (by decide : CBR2_NO_BITMAP_COMPRESSION_HDR &&& CBR2_HEIGHT_SAME_AS_WIDTH = 0),
      hbit _ (by decide : CBR2_NO_BITMAP_COMPRESSION_HDR &&& CBR2_DO_NOT_CACHE = 0)]

lemma reject_notMem_ensured (estimate : Int) (bytes : List UInt8) :
    WriteStep.reject ∉ [ensureInt estimate, .put bytes] := by
  simp [ensureInt]

lemma reject_notMem_put (bytes : List UInt8) : WriteStep.reject ∉ [.put bytes] := by
  simp

/-- A writer gives up on the orders that it does not accept. -/
lemma reject_mem_sender (env : UpdateEnvironment) (u : RdpUpdate) (order : ServerOrder) :
    .reject ∈ (order.sender env u).steps ↔ ¬order.Accepted := by
  cases order with
  | cacheBitmapV2 o =>
    show .reject ∈ cacheBitmapV2Steps (o.withSettings env.noBitmapCompressionHeader) ↔ ¬o.Accepted
    rw [reject_mem_cacheBitmapV2Steps, o.accepted_withSettings]
  | cacheBitmapV3 o =>
    show .reject ∈ cacheBitmapV3Steps o ↔ ¬o.bpp ∈ [1, 8, 16, 24, 32]
    unfold cacheBitmapV3Steps updateWriteCacheBitmapV3Order ensureInt
    rw [List.mem_cons, or_iff_right (by simp), reject_mem_putOrReject, ← getBppBmf_eq_none_iff]
    rcases getBppBmf o.bpp with _ | id <;> simp
  | cacheColorTable o =>
    show .reject ∈ cacheColorTableSteps o ↔ ¬o.numberColors = 256
    unfold cacheColorTableSteps updateWriteCacheColorTableOrder ensureInt
    split_ifs with h <;> simp [h]
  | cacheGlyphV2 o =>
    show .reject ∈ cacheGlyphV2Steps o ↔ ¬∀ g ∈ o.glyphData, g.Accepted
    unfold cacheGlyphV2Steps ensureInt
    simp [List.mem_flatMap, reject_mem_glyphV2Steps]
  | cacheBrush o => exact reject_mem_cacheBrushSteps o
  | newOrExistingNotificationIcons info state =>
    show .reject ∈ notificationIconsSteps info state ↔ ¬state.Accepted info
    unfold notificationIconsSteps NotifyIconStateOrder.Accepted
    simp only [List.mem_cons, List.mem_append, reject_mem_unlessVersion0, reduceCtorEq,
      List.not_mem_nil, false_or, or_false]
    grind
  | _ =>
    refine iff_of_false (fun h => ?_) (not_not_intro trivial)
    first
    | exact reject_notMem_ensured _ _ h
    | exact reject_notMem_put _ h

end Accepted

/-! ### Failures -/

/-- The position, the bytes before it and the number of orders are what they were. -/
def RdpUpdate.Intact (u u' : RdpUpdate) : Prop :=
  ∀ s, u.us = some s → ∃ s', u'.us = some s' ∧ s'.pos = s.pos ∧ s'.front = s.front ∧
    u'.numberOrders = u.numberOrders

/-- A function gives up before it has passed over anything: there is no stream, or no memory. -/
def OrderSend.GivesUp (p : OrderSend) (env : UpdateEnvironment) (u : RdpUpdate) : Prop :=
  match u.us with
  | none => p.withoutStream = false
  | some s => p.ensure env s = .noMemory

/-- A writer returns `FALSE`, and the function checks that. -/
def OrderSend.Refuses (p : OrderSend) (env : UpdateEnvironment) (u : RdpUpdate) : Prop :=
  p.checked = true ∧ ∃ s s', u.us = some s ∧ p.ensure env s = .ready s' ∧
    (runSteps env.realloc p.steps (s'.seek p.headerLength)).1 = .refused

/-- A function passes over its header, or begins with some bytes. -/
def OrderSend.Begins (p : OrderSend) : Prop :=
  0 < p.headerLength ∨ ∃ bytes steps, p.steps = .put bytes :: steps ∧ bytes ≠ []

section Failures

variable {env : UpdateEnvironment} {p : OrderSend} {u u' : RdpUpdate}

lemma OrderSend.pos_ensure {s s' : WStream} (h : p.ensure env s = .ready s') : s'.pos = s.pos := by
  unfold OrderSend.ensure at h
  split at h
  · cases h
    rfl
  · exact (WStream.ensureRemainingCapacity_ready h).1

/-- What is written behind the position moves it. -/
lemma OrderSend.Begins.pos_lt (hp : p.Begins) {s s' : WStream} (h : p.ensure env s = .ready s') :
    s.pos < (runSteps env.realloc p.steps (s'.seek p.headerLength)).2.pos := by
  rw [← OrderSend.pos_ensure h]
  rcases hp with hlength | ⟨bytes, steps, hsteps, hne⟩
  · have hle := runSteps_pos_le env.realloc p.steps (s'.seek p.headerLength)
    exact (Nat.lt_add_of_pos_right hlength).trans_le hle
  · have hpos : 0 < bytes.length := List.length_pos_iff.mpr hne
    have hle := runSteps_pos_le env.realloc steps ((s'.seek p.headerLength).write bytes)
    have hwrite : s'.pos + p.headerLength + bytes.length ≤
        (runSteps env.realloc p.steps (s'.seek p.headerLength)).2.pos := by
      rw [hsteps]
      exact hle
    omega

/-- The two ways in which a function returns `FALSE`. -/
lemma sendOrder_false (hp : p.Begins) (h : sendOrder env p u = some (false, u')) :
    let flushed := updateCheckFlush env u p.size
    p.GivesUp env flushed ∧ u' = flushed ∨
      p.Refuses env flushed ∧ ∃ s s', flushed.us = some s ∧ u' = { flushed with us := some s' } ∧
        s.pos < s'.pos := by
  intro flushed
  unfold sendOrder at h
  dsimp only at h
  rcases hus : flushed.us with _ | s <;> rw [hus] at h
  · simp only [Option.some.injEq, Prod.mk.injEq] at h
    refine .inl ⟨?_, h.2.symm⟩
    rw [OrderSend.GivesUp, hus]
    exact h.1
  · dsimp only at h
    rcases hensure : p.ensure env s with s' | _ | _ <;> rw [hensure] at h
    · dsimp only at h
      have hpos := hp.pos_lt hensure
      rcases hrun : runSteps env.realloc p.steps (s'.seek p.headerLength) with ⟨_ | _ | _, s''⟩ <;>
        rw [hrun] at h hpos <;> dsimp only at h hpos
      · simp at h
      · split at h
        · rename_i hchecked
          simp only [Option.some.injEq, Prod.mk.injEq, true_and] at h
          exact .inr ⟨⟨hchecked, s, s', hus, hensure, by rw [hrun]⟩, s, s'', rfl, h.symm, hpos⟩
        · simp at h
      · cases h
    · simp only [Option.some.injEq, Prod.mk.injEq, true_and] at h
      refine .inl ⟨?_, h.symm⟩
      rw [OrderSend.GivesUp, hus]
      exact hensure
    · cases h

lemma OrderSend.GivesUp.send (h : p.GivesUp env (updateCheckFlush env u p.size)) :
    sendOrder env p u = some (false, updateCheckFlush env u p.size) := by
  unfold OrderSend.GivesUp at h
  unfold sendOrder
  dsimp only
  revert h
  cases (updateCheckFlush env u p.size).us with
  | none => exact fun h => congrArg (fun b => some (b, _)) h
  | some s =>
    intro h
    dsimp only at h ⊢
    rw [h]

lemma OrderSend.Refuses.send (h : p.Refuses env (updateCheckFlush env u p.size)) :
    ∃ u', sendOrder env p u = some (false, u') := by
  obtain ⟨hchecked, s, s', hus, hensure, hrun⟩ := h
  unfold sendOrder
  dsimp only
  rw [hus]
  dsimp only
  rw [hensure]
  dsimp only
  rcases hresult : runSteps env.realloc p.steps (s'.seek p.headerLength) with ⟨_ | _ | _, s''⟩ <;>
    rw [hresult] at hrun
  · cases hrun
  · exact ⟨_, if_pos hchecked⟩
  · cases hrun

lemma RdpUpdate.Intact.refl (u : RdpUpdate) : u.Intact u := fun s hs => ⟨s, hs, rfl, rfl, rfl⟩

/-- With the update that is pending after `update_check_flush`, a failure does no harm exactly if
the writer does not refuse the order. -/
lemma sendOrder_intact_flushed_iff (hp : p.Begins) :
    (∀ u', sendOrder env p u = some (false, u') →
      (updateCheckFlush env u p.size).Intact u') ↔
      ¬p.Refuses env (updateCheckFlush env u p.size) := by
  constructor
  · intro hintact hrefuses
    obtain ⟨u', hsend⟩ := hrefuses.send
    rcases sendOrder_false hp hsend with ⟨hgives, -⟩ | ⟨-, s, s', hus, rfl, hlt⟩
    · rw [hgives.send, Option.some.injEq, Prod.mk.injEq] at hsend
      obtain ⟨-, s, s', hus, hensure, -⟩ := hrefuses
      rw [OrderSend.GivesUp, hus] at hgives
      dsimp only at hgives
      rw [hensure] at hgives
      cases hgives
    · obtain ⟨s'', hus', hpos, -⟩ := hintact _ hsend s hus
      cases hus'
      omega
  · intro hrefuses u' hsend
    rcases sendOrder_false hp hsend with ⟨-, rfl⟩ | ⟨hrefuses', -⟩
    · exact .refl _
    · exact absurd hrefuses' hrefuses

end Failures

/-! ### The condition -/

/-- The order is refused behind its header: there is no memory for what the writer asks for, or it
does not accept the order. -/
def OrderSend.LeavesGap (p : OrderSend) (env : UpdateEnvironment) (accepted : Prop)
    (u : RdpUpdate) : Prop :=
  p.checked = true ∧ ∃ s s', u.us = some s ∧ p.ensure env s = .ready s' ∧
    (growFor env.realloc p.steps (s'.seek p.headerLength) = .noMemory ∨
      (∃ t, growFor env.realloc p.steps (s'.seek p.headerLength) = .ready t) ∧ ¬accepted)

/-- The orders that are pending are sent before an order of this size. -/
def RdpUpdate.Flushes (u : RdpUpdate) (size : Int) : Prop :=
  ∃ s, u.us = some s ∧ 0x3FFF ≤ (s.pos + sizeOfInt size + 64) % 2 ^ 64 ∧ 0 < u.numberOrders

section Condition

variable {env : UpdateEnvironment} {p : OrderSend} {u u' : RdpUpdate}

lemma OrderSend.refuses_iff_leavesGap {accepted : Prop} (h : .reject ∈ p.steps ↔ ¬accepted) :
    p.Refuses env u ↔ p.LeavesGap env accepted u := by
  unfold OrderSend.Refuses OrderSend.LeavesGap
  simp only [runSteps_refused_iff, h]

/-- Every function that sends an order begins with a header. -/
lemma ServerOrder.sender_begins (env : UpdateEnvironment) (u : RdpUpdate) (order : ServerOrder) :
    (order.sender env u).Begins := by
  have hprimary : ∀ t, 0 < (updatePrepareOrderInfo u t).1 := by
    intro t
    show 0 < 1 + 1 + fieldBytesOf t + _
    omega
  have hwindow : ∀ info size rest, writeWindowHeader info size ++ rest ≠ [] := nofun
  cases order with
  | newOrExistingWindow info state => exact .inr ⟨_, _, rfl, hwindow _ _ _⟩
  | windowIcon info icon => exact .inr ⟨_, _, rfl, hwindow _ _ _⟩
  | windowCachedIcon info icon => exact .inr ⟨_, _, rfl, hwindow _ _ _⟩
  | windowDelete info => exact .inr ⟨_, _, rfl, hwindow _ _ _⟩
  | newOrExistingNotificationIcons info state => exact .inr ⟨_, _, rfl, hwindow _ _ _⟩
  | notifyIconDelete info => exact .inr ⟨_, _, rfl, hwindow _ _ _⟩
  | monitoredDesktop info desktop => exact .inr ⟨_, _, rfl, hwindow _ _ _⟩
  | nonMonitoredDesktop info => exact .inr ⟨_, _, rfl, by simpa using hwindow info 7 []⟩
  | _ =>
    refine .inl ?_
    first
    | exact hprimary _
    | exact Nat.zero_lt_succ _

/-- The number of orders starts again from zero when the pending update is sent. -/
lemma updateCheckFlush_flushes {size : Int} (h : u.Flushes size) :
    (updateCheckFlush env u size).numberOrders = 0 := by
  obtain ⟨s, hus, hsize, hpos⟩ := h
  unfold updateCheckFlush updateFlush updateBeginPaint updateEndPaint
  rw [hus]
  dsimp only
  rw [if_pos hsize, if_pos hpos]
  split <;> rfl

/-- Otherwise a pending update stays as it is. -/
lemma updateCheckFlush_of_not_flushes {size : Int} (hus : u.us ≠ none) (h : ¬u.Flushes size) :
    updateCheckFlush env u size = u := by
  unfold updateCheckFlush updateFlush
  split
  · exact absurd ‹_› hus
  · rename_i s hs
    split_ifs with hsize hpos
    · exact absurd ⟨s, hs, hsize, hpos⟩ h
    · rfl
    · rfl

/-- With the update that was pending before the call, a failure does no harm exactly if moreover
that update has not been sent in the meantime. -/
lemma sendOrder_intact_iff (hp : p.Begins) :
    (∀ u', sendOrder env p u = some (false, u') → u.Intact u') ↔
      u.us = none ∨ ¬p.Refuses env (updateCheckFlush env u p.size) ∧
        (u.Flushes p.size → ¬p.GivesUp env (updateCheckFlush env u p.size)) := by
  rcases hus : u.us with _ | s
  · refine iff_of_true (fun u' _ s hs => ?_) (.inl rfl)
    rw [hus] at hs
    cases hs
  rw [or_iff_right (by simp)]
  by_cases hflush : u.Flushes p.size
  · -- whatever fails now, the number of orders has changed
    have hfail : ∀ u', sendOrder env p u = some (false, u') → ¬u.Intact u' := by
      intro u' hsend hintact
      obtain ⟨-, -, -, -, hnumber⟩ := hintact s hus
      have hzero := @updateCheckFlush_flushes env u p.size hflush
      obtain ⟨-, -, -, hpos⟩ := hflush
      rcases sendOrder_false hp hsend with ⟨-, rfl⟩ | ⟨-, s', s'', -, rfl, -⟩
      · omega
      · dsimp only at hnumber
        omega
    constructor
    · intro hintact
      refine ⟨fun hrefuses => ?_, fun _ hgives => ?_⟩
      · obtain ⟨u', hsend⟩ := hrefuses.send
        exact hfail u' hsend (hintact u' hsend)
      · exact hfail _ hgives.send (hintact _ hgives.send)
    · intro h u' hsend
      rcases sendOrder_false hp hsend with ⟨hgives, -⟩ | ⟨hrefuses, -⟩
      · exact absurd hgives (h.2 hflush)
      · exact absurd hrefuses h.1
  · have hsame : updateCheckFlush env u p.size = u :=
      updateCheckFlush_of_not_flushes (by simp [hus]) hflush
    have hiff := @sendOrder_intact_flushed_iff env p u hp
    rw [hsame] at hiff ⊢
    rw [hiff]
    exact ⟨fun h => ⟨h, fun hflush' => absurd hflush' hflush⟩, fun h => h.1⟩

end Condition

/-- An order that cannot be sent leaves the pending update intact exactly if it is not refused
behind its header. The first part is about the update that is pending after `update_check_flush`;
the second one is about the update before, which must not have been sent by it. -/
theorem updateSend_intact_iff (env : UpdateEnvironment) (order : ServerOrder) (u : RdpUpdate) :
    let p := order.sender env u
    let flushed := updateCheckFlush env u p.size
    ((∀ u', order.send env u = some (false, u') → flushed.Intact u') ↔
      ¬p.LeavesGap env order.Accepted flushed) ∧
    ((∀ u', order.send env u = some (false, u') → u.Intact u') ↔
      u.us = none ∨ ¬p.LeavesGap env order.Accepted flushed ∧
        (u.Flushes p.size → ¬p.GivesUp env flushed)) := by
  intro p flushed
  have hp := order.sender_begins env u
  have hgap := @OrderSend.refuses_iff_leavesGap env p flushed _ (reject_mem_sender env u order)
  rw [← hgap]
  exact ⟨sendOrder_intact_flushed_iff hp, sendOrder_intact_iff hp⟩

/-- A writer that refuses the order at once. -/
private lemma sendOrder_rejected {env : UpdateEnvironment} {p : OrderSend} {u : RdpUpdate}
    {s s' : WStream} (hflush : updateCheckFlush env u p.size = u) (hus : u.us = some s)
    (hensure : p.ensure env s = .ready s') (hsteps : p.steps = [.reject])
    (hchecked : p.checked = true) :
    sendOrder env p u = some (false, { u with us := some (s'.seek p.headerLength) }) := by
  unfold sendOrder
  dsimp only
  rw [hflush, hus]
  dsimp only
  rw [hensure, hsteps]
  exact if_pos hchecked

/-- The environment of a server that has memory. -/
def serverEnvironment : UpdateEnvironment := ⟨mallocAll, mallocAll, false⟩

/-- An update that has just begun. -/
def begunUpdate : RdpUpdate := ⟨some newUpdateStream, 0, 0, ⟨0, 0, 0, 0⟩, ⟨0, 0, 0, 0⟩, []⟩

/-- A palette of another number of colors is refused, and six bytes stay in the update. -/
theorem updateSend_colorTable_gap :
    ∃ u', (ServerOrder.cacheColorTable ⟨0, 0, Vector.replicate 256 0⟩).send serverEnvironment
        begunUpdate = some (false, u') ∧
      begunUpdate.us.map WStream.pos = some 2 ∧ u'.us.map WStream.pos = some 8 ∧
      u'.numberOrders = 0 ∧ ¬begunUpdate.Intact u' := by
  have hroom : newUpdateStream.ensureRemainingCapacity mallocAll 6 = .ready newUpdateStream := by
    rw [WStream.ensureRemainingCapacity, if_neg]
    show ¬(List.replicate FASTPATH_MAX_PACKET_SIZE (0 : UInt8)).length < (2 + 6) % 2 ^ 64
    rw [List.length_replicate]
    decide
  refine ⟨{ begunUpdate with us := some (newUpdateStream.seek 6) }, ?_, rfl, rfl, rfl, ?_⟩
  · refine sendOrder_rejected ?_ rfl hroom rfl rfl
    refine updateCheckFlush_of_not_flushes (by simp [begunUpdate]) ?_
    rintro ⟨s, hs, horders, hpos⟩
    exact absurd hpos (by decide)
  · intro hintact
    obtain ⟨s', hs', hpos, -⟩ := hintact newUpdateStream rfl
    cases hs'
    exact absurd hpos (by decide)

end FreeRdp
