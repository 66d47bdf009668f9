import FreeRdp.Core.Orders.Decoding
import FreeRdp.Library.Runs

/-!
# Sequences of primary orders

In a sequence of accepted orders every order is an update of the fields whose flags are set. The
invariant is what the derived members of the records have in common with the members they come from.
It does not bring back what a reader has thrown away: the color index of a MemBlt or Mem3Blt order
and the background mode of a PolygonCB order are computed again from what is left of the field, and
the point count of an order without points is dropped.
-/

namespace FreeRdp

/-! ### The invariant -/

/-- The derived members of the records. -/
structure PrimaryUpdate.Valid (p : PrimaryUpdate) : Prop where
  patblt : p.patblt.brush.Valid
  multiPatblt : p.multiPatblt.brush.Valid
  glyphIndex : p.glyphIndex.brush.Valid
  ellipseCb : p.ellipseCb.brush.Valid
  opaqueRect : p.opaqueRect.color < 2 ^ 24
  multiOpaqueRect : p.multiOpaqueRect.color < 2 ^ 24
  memblt : p.memblt.cacheId < 2 ^ 8
  mem3blt : p.mem3blt.brush.Valid ∧ p.mem3blt.cacheId < 2 ^ 8
  polygonCb : p.polygonCb.brush.Valid ∧ p.polygonCb.bRop2 < 2 ^ 5 ∧
    p.polygonCb.backMode ∈ [0, BACKMODE_TRANSPARENT, BACKMODE_OPAQUE]

lemma updateResetState_valid : updateResetState.Valid where
  patblt := fun h => absurd rfl h
  multiPatblt := fun h => absurd rfl h
  glyphIndex := fun h => absurd rfl h
  ellipseCb := fun h => absurd rfl h
  opaqueRect := by decide
  multiOpaqueRect := by decide
  memblt := by decide
  mem3blt := ⟨fun h => absurd rfl h, by decide⟩
  polygonCb := ⟨fun h => absurd rfl h, by decide, by decide⟩

section Ensures

variable (info : OrderInfo)

lemma byteValue_ensures {number old : Nat} (hold : old < 2 ^ 8) :
    Ensures (byteValue info number old) (· < 2 ^ 8) := by
  intro s v s' h
  exact byteValue_lt h hold

lemma orderValue_ensures {β : Type} {number : Nat} {r : Reader WStream β} {old : β} :
    Ensures (orderValue info number r old)
      (fun v => orderFieldFlagIsSet info.fieldFlags number = false → v = old) := by
  intro s v s' h hunset
  rw [orderValue_unset _ _ _ hunset, Option.some.injEq, Prod.mk.injEq] at h
  exact h.1.symm

lemma cachedBrushValue_ensures {changed : Bool} {style hatch : Nat} {old : Nat × Nat}
    (hold : changed = false → style &&& CACHED_BRUSH ≠ 0 →
      old.1 = hatch ∧ getBmfBpp style = some old.2) :
    Ensures (cachedBrushValue changed style hatch old)
      (fun p => style &&& CACHED_BRUSH ≠ 0 → p.1 = hatch ∧ getBmfBpp style = some p.2) := by
  intro s p s' h hcached
  cases changed with
  | true =>
    simp only [cachedBrushValue, Bool.true_and, decide_eq_true_eq, if_pos hcached,
      Option.map_eq_some_iff] at h
    obtain ⟨bpp, hbpp, heq⟩ := h
    cases heq
    exact ⟨rfl, hbpp⟩
  | false =>
    simp only [cachedBrushValue, Bool.false_and, Bool.false_eq_true, if_false,
      Option.some.injEq, Prod.mk.injEq] at h
    rw [← h.1]
    exact hold rfl hcached

lemma brushUpdated_ensures (fieldFlags : Nat) {b : Brush} (hb : b.Valid) :
    Ensures (brushUpdated fieldFlags b) Brush.Valid := by
  refine Ensures.skip fun x => Ensures.skip fun y => ?_
  refine Ensures.bind (orderValue_ensures _) fun style hstyle => ?_
  refine Ensures.bind (orderValue_ensures _) fun hatch hhatch => ?_
  refine Ensures.bind (cachedBrushValue_ensures ?_) fun p hp => ?_
  · intro hchanged
    obtain ⟨h3, h4⟩ := Bool.or_eq_false_iff.mp hchanged
    rw [hstyle h3, hhatch h4]
    exact hb
  · exact Ensures.skip fun q => Ensures.pure hp

lemma opaqueColorUpdated_ensures {color : Nat} (hcolor : color < 2 ^ 24) :
    Ensures (opaqueColorUpdated info color) (· < 2 ^ 24) := by
  refine Ensures.bind (byteValue_ensures info (by omega)) fun red hred => ?_
  refine Ensures.bind (byteValue_ensures info (by omega)) fun green hgreen => ?_
  refine Ensures.bind (byteValue_ensures info (by omega)) fun blue hblue => ?_
  exact Ensures.pure (by omega)

/-- A field that is read into its two parts. -/
lemma readValue_ensures {β : Type} {number n : Nat} {value : WStream → β} {old : β} {P : β → Prop}
    (hold : P old) (hvalue : ∀ s, P (value s)) :
    Ensures (orderValue info number (readValue n value) old) P := by
  intro s v s' h
  cases hflag : orderFieldFlagIsSet info.fieldFlags number with
  | false =>
    rw [orderValue_unset _ _ _ hflag, Option.some.injEq, Prod.mk.injEq] at h
    rw [← h.1]
    exact hold
  | true =>
    simp only [orderValue, hflag, if_true, Reader.parse, Reader.accepted, readValue] at h
    split at h
    · cases h
    · rw [Option.map_some, Option.some.injEq, Prod.mk.injEq] at h
      rw [← h.1]
      exact hvalue s

lemma cacheIdReader_ensures {old : Nat × Nat} (hold : old.1 < 2 ^ 8) :
    Ensures (orderValue info 1 cacheIdReader old) (fun v => v.1 < 2 ^ 8) := by
  refine readValue_ensures info hold fun s => ?_
  exact Nat.and_lt_two_pow _ (by norm_num)

lemma bRop2Reader_ensures {old : Nat × Nat} (hold : old.1 < 2 ^ 5)
    (hmode : old.2 ∈ [0, BACKMODE_TRANSPARENT, BACKMODE_OPAQUE]) :
    Ensures (orderValue info 3 bRop2Reader old)
      (fun v => v.1 < 2 ^ 5 ∧ v.2 ∈ [0, BACKMODE_TRANSPARENT, BACKMODE_OPAQUE]) := by
  refine readValue_ensures info ⟨hold, hmode⟩ fun s => ⟨?_, ?_⟩
  · exact Nat.and_lt_two_pow _ (by norm_num)
  · dsimp only
    split <;> decide

lemma polygonBackMode_mem {o : PolygonCbOrder}
    (h : o.backMode ∈ [0, BACKMODE_TRANSPARENT, BACKMODE_OPAQUE]) :
    polygonBackMode o ∈ [0, BACKMODE_TRANSPARENT, BACKMODE_OPAQUE] := by
  unfold polygonBackMode
  split
  · decide
  · exact h

/-- Accepted orders keep the invariant. -/
lemma primaryUpdated_ensures {p : PrimaryUpdate} (hp : p.Valid) :
    Ensures (primaryUpdated info p) PrimaryUpdate.Valid := by
  unfold primaryUpdated
  rcases OrderType.ofCode info.orderType with _ | t
  · exact Ensures.pure hp
  cases t with
  | patblt =>
    refine Ensures.bind (Q := fun o => o.brush.Valid) ?_
      fun o ho => Ensures.pure { hp with patblt := ho }
    iterate 7 refine Ensures.skip fun _ => ?_
    exact Ensures.bind (brushUpdated_ensures _ hp.patblt) fun _ h => Ensures.pure h
  | multiPatblt =>
    refine Ensures.bind (Q := fun o => o.brush.Valid) ?_
      fun o ho => Ensures.pure { hp with multiPatblt := ho }
    iterate 7 refine Ensures.skip fun _ => ?_
    refine Ensures.bind (brushUpdated_ensures _ hp.multiPatblt) fun _ h => ?_
    exact Ensures.skip fun _ => Ensures.skip fun _ => Ensures.pure h
  | glyphIndex =>
    refine Ensures.bind (Q := fun o => o.brush.Valid) ?_
      fun o ho => Ensures.pure { hp with glyphIndex := ho }
    iterate 14 refine Ensures.skip fun _ => ?_
    refine Ensures.bind (brushUpdated_ensures _ hp.glyphIndex) fun _ h => ?_
    exact Ensures.skip fun _ => Ensures.skip fun _ => Ensures.skip fun _ => Ensures.pure h
  | ellipseCb =>
    refine Ensures.bind (Q := fun o => o.brush.Valid) ?_
      fun o ho => Ensures.pure { hp with ellipseCb := ho }
    iterate 8 refine Ensures.skip fun _ => ?_
    exact Ensures.bind (brushUpdated_ensures _ hp.ellipseCb) fun _ h => Ensures.pure h
  | opaqueRect =>
    refine Ensures.bind (Q := fun o => o.color < 2 ^ 24) ?_
      fun o ho => Ensures.pure { hp with opaqueRect := ho }
    iterate 4 refine Ensures.skip fun _ => ?_
    exact Ensures.bind (opaqueColorUpdated_ensures info hp.opaqueRect) fun _ h => Ensures.pure h
  | multiOpaqueRect =>
    refine Ensures.bind (Q := fun o => o.color < 2 ^ 24) ?_
      fun o ho => Ensures.pure { hp with multiOpaqueRect := ho }
    iterate 4 refine Ensures.skip fun _ => ?_
    refine Ensures.bind (opaqueColorUpdated_ensures info hp.multiOpaqueRect) fun _ h => ?_
    exact Ensures.skip fun _ => Ensures.skip fun _ => Ensures.pure h
  | memblt =>
    refine Ensures.bind (Q := fun o => o.cacheId < 2 ^ 8) ?_
      fun o ho => Ensures.pure { hp with memblt := ho }
    refine Ensures.bind (cacheIdReader_ensures info hp.memblt) fun _ h => ?_
    iterate 8 refine Ensures.skip fun _ => ?_
    exact Ensures.pure h
  | mem3blt =>
    refine Ensures.bind (Q := fun o => o.brush.Valid ∧ o.cacheId < 2 ^ 8) ?_
      fun o ho => Ensures.pure { hp with mem3blt := ho }
    refine Ensures.bind (cacheIdReader_ensures info hp.mem3blt.2) fun _ h => ?_
    iterate 9 refine Ensures.skip fun _ => ?_
    refine Ensures.bind (brushUpdated_ensures _ hp.mem3blt.1) fun _ hbrush => ?_
    exact Ensures.skip fun _ => Ensures.pure ⟨hbrush, h⟩
  | polygonCb =>
    refine Ensures.bind (Q := fun o => o.brush.Valid ∧ o.bRop2 < 2 ^ 5 ∧
      o.backMode ∈ [0, BACKMODE_TRANSPARENT, BACKMODE_OPAQUE]) ?_
      fun o ho => Ensures.pure { hp with polygonCb := ho }
    obtain ⟨hbrush, hbRop2, hmode⟩ := hp.polygonCb
    refine Ensures.skip fun _ => Ensures.skip fun _ => ?_
    refine Ensures.bind (bRop2Reader_ensures info hbRop2 (polygonBackMode_mem hmode)) fun _ h => ?_
    iterate 3 refine Ensures.skip fun _ => ?_
    refine Ensures.bind (brushUpdated_ensures _ hbrush) fun _ hbrush => ?_
    exact Ensures.skip fun _ => Ensures.skip fun _ => Ensures.pure ⟨hbrush, h⟩
  | _ => exact Ensures.skip fun _ => Ensures.pure { hp with }

end Ensures

/-! ### Received orders -/

/-- An order as `update_recv_order` hands it over: the control flags and the stream behind them. -/
structure ReceivedOrder where
  flags : Nat
  stream : WStream
  deriving DecidableEq, Repr

section Runs

variable (settings : OrderSettings) (callbacks : OrderCallbacks)

/-- The records after an order. -/
def primaryStep (p : PrimaryUpdate) (o : ReceivedOrder) : PrimaryUpdate :=
  (updateRecvPrimaryOrder settings callbacks p o.stream o.flags).primary

/-- The order is accepted. -/
def WellFormedOrder (p : PrimaryUpdate) (o : ReceivedOrder) : Prop :=
  (updateRecvPrimaryOrder settings callbacks p o.stream o.flags).rest.isSome

/-- The header of an order: the order type and the field flags, the bounds, and whether coordinates
are differences. -/
def readOrderInfo (p : PrimaryUpdate) (o : ReceivedOrder) : Option (OrderInfo × WStream) :=
  ((Reader.all [updateReadOrderHeader settings o.flags, updateReadOrderBounds o.flags]).accepted
    p.orderInfo o.stream).map (fun q => ({ q.1 with
      deltaCoordinates := decide (o.flags &&& ORDER_DELTA_COORDINATES ≠ 0) }, q.2))

/-- The order is an update of the fields whose flags it sets. -/
def IncrementalOrder (p : PrimaryUpdate) (o : ReceivedOrder) : Prop :=
  ∃ info s s', readOrderInfo settings p o = some (info, s) ∧
    primaryUpdated info { p with orderInfo := info } s =
      some (primaryStep settings callbacks p o, s')

/-- The order does not leave out a field of which the record has lost a part, and its point count
comes with points. -/
def keepsFields (p : PrimaryUpdate) (info : OrderInfo) : Bool :=
  let isSet number := orderFieldFlagIsSet info.fieldFlags number
  match OrderType.ofCode info.orderType with
  | some .memblt => isSet 1 || p.memblt.colorIndex = 0
  | some .mem3blt => isSet 1 || p.mem3blt.colorIndex = 0
  | some .polygonCb =>
    (isSet 3 || p.polygonCb.backMode ≠ BACKMODE_TRANSPARENT) && (!isSet 12 || isSet 13)
  | some .polygonSc => !isSet 6 || isSet 7
  | some .polyline => !isSet 6 || isSet 7
  | _ => true

/-- The condition for an order with its header. -/
def KeepsFieldsOrder (p : PrimaryUpdate) (o : ReceivedOrder) : Prop :=
  (readOrderInfo settings p o).all (fun q => keepsFields p q.1) = true

instance (p : PrimaryUpdate) (o : ReceivedOrder) :
    Decidable (WellFormedOrder settings callbacks p o) :=
  inferInstanceAs (Decidable (_ = true))

instance (p : PrimaryUpdate) (o : ReceivedOrder) : Decidable (KeepsFieldsOrder settings p o) :=
  inferInstanceAs (Decidable (_ = true))

variable {settings callbacks} {p : PrimaryUpdate} {info : OrderInfo}

private lemma unset_of_or {P : Prop} [Decidable P] {b : Bool} (h : (b || decide P) = true)
    (hb : b = false) : P := by
  rw [hb, Bool.false_or] at h
  exact of_decide_eq_true h

private lemma set_of_set {b c : Bool} (h : (!b || c) = true) (hb : b = true) : c = true := by
  rw [hb, Bool.not_true, Bool.false_or] at h
  exact h

private lemma accepted_record {α : Type} {m : Member PrimaryUpdate α} {r : Reader WStream α}
    {updated : StateT WStream Option α} {s : WStream} (h : r.accepted (m.get p) s = updated s) :
    (Reader.into m r).accepted p s = (updated >>= fun v => pure (m.set p v)) s := by
  rw [Reader.accepted_into, h, Option.map_eq_bind]
  rfl

private lemma polygonBackMode_eq (hp : p.Valid)
    (h : p.polygonCb.backMode ≠ BACKMODE_TRANSPARENT) :
    polygonBackMode p.polygonCb = BACKMODE_OPAQUE := by
  have hmode := hp.polygonCb.2.2
  unfold polygonBackMode
  simp only [List.mem_cons, List.not_mem_nil, or_false] at hmode
  rcases hmode with hzero | htransparent | hcover
  · rw [if_pos hzero]
  · exact absurd htransparent h
  · rw [hcover]
    rfl

/-- What the readers accept is what the orders mean. -/
lemma accepted_readPrimaryOrder (s : WStream) (hp : p.Valid) (hkeeps : keepsFields p info = true) :
    (readPrimaryOrder info).accepted p s = primaryUpdated info p s := by
  unfold readPrimaryOrder primaryUpdated
  unfold keepsFields at hkeeps
  generalize OrderType.ofCode info.orderType = orderType at hkeeps ⊢
  rcases orderType with _ | t
  · rfl
  cases t with
  | dstblt => exact accepted_record (accepted_dstblt _ _ _)
  | patblt => exact accepted_record (accepted_patblt _ _ hp.patblt)
  | scrblt => exact accepted_record (accepted_scrblt _ _ _)
  | opaqueRect => exact accepted_record (accepted_opaqueRect _ _ hp.opaqueRect)
  | drawNineGrid => exact accepted_record (accepted_drawNineGrid _ _ _)
  | multiDstblt => exact accepted_record (accepted_multiDstblt _ _ _)
  | multiPatblt => exact accepted_record (accepted_multiPatblt _ _ hp.multiPatblt)
  | multiScrblt => exact accepted_record (accepted_multiScrblt _ _ _)
  | multiOpaqueRect => exact accepted_record (accepted_multiOpaqueRect _ _ hp.multiOpaqueRect)
  | multiDrawNineGrid => exact accepted_record (accepted_multiDrawNineGrid _ _ _)
  | lineTo => exact accepted_record (accepted_lineTo _ _ _)
  | polyline => exact accepted_record (accepted_polyline _ _ _ (set_of_set hkeeps))
  | memblt => exact accepted_record (accepted_memblt _ _ hp.memblt (unset_of_or hkeeps))
  | mem3blt =>
    exact accepted_record (accepted_mem3blt _ _ hp.mem3blt.1 hp.mem3blt.2 (unset_of_or hkeeps))
  | saveBitmap => exact accepted_record (accepted_saveBitmap _ _ _)
  | glyphIndex => exact accepted_record (accepted_glyphIndex _ _ hp.glyphIndex)
  | fastIndex => exact accepted_record (accepted_fastIndex _ _ _)
  | fastGlyph => exact accepted_record (accepted_fastGlyph _ _ _)
  | polygonSc => exact accepted_record (accepted_polygonSc _ _ _ (set_of_set hkeeps))
  | polygonCb =>
    obtain ⟨hmode, hpoints⟩ := (Bool.and_eq_true _ _).mp hkeeps
    exact accepted_record (accepted_polygonCb _ _ hp.polygonCb.1 hp.polygonCb.2.1
      (fun hunset => polygonBackMode_eq hp (unset_of_or hmode hunset)) (set_of_set hpoints))
  | ellipseSc => exact accepted_record (accepted_ellipseSc _ _ _)
  | ellipseCb => exact accepted_record (accepted_ellipseCb _ _ hp.ellipseCb)

lemma updateDrawPrimaryOrder_primary (flags : Nat) (p : PrimaryUpdate) (events : List OrderEvent)
    (s : WStream) : (updateDrawPrimaryOrder callbacks flags p events s).primary = p := by
  unfold updateDrawPrimaryOrder
  dsimp only
  repeat' split
  all_goals rfl

/-- The fields of an accepted order. -/
lemma updateReadOrderFields_accepted {flags : Nat} {s : WStream}
    (h : (updateReadOrderFields callbacks flags p s).rest.isSome) :
    ∃ s', (readPrimaryOrder { p.orderInfo with
        deltaCoordinates := decide (flags &&& ORDER_DELTA_COORDINATES ≠ 0) }).accepted
      { p with orderInfo := { p.orderInfo with
        deltaCoordinates := decide (flags &&& ORDER_DELTA_COORDINATES ≠ 0) } } s =
        some ((updateReadOrderFields callbacks flags p s).primary, s') := by
  unfold updateReadOrderFields at h ⊢
  dsimp only at h ⊢
  split at h
  · cases h
  rename_i hbounds
  rw [if_neg hbounds]
  split at h
  · cases h
  rename_i p' s' hread
  refine ⟨s', ?_⟩
  rw [Reader.accepted, hread, updateDrawPrimaryOrder_primary]
  rfl

/-- An accepted order is a header, and fields that the reader of its type accepts. -/
lemma updateRecvPrimaryOrder_accepted {o : ReceivedOrder}
    (h : WellFormedOrder settings callbacks p o) :
    ∃ info s s', readOrderInfo settings p o = some (info, s) ∧
      (readPrimaryOrder info).accepted { p with orderInfo := info } s =
        some (primaryStep settings callbacks p o, s') := by
  unfold WellFormedOrder updateRecvPrimaryOrder at h
  unfold readOrderInfo primaryStep updateRecvPrimaryOrder
  rcases hstart : Reader.all [updateReadOrderHeader settings o.flags, updateReadOrderBounds o.flags]
    p.orderInfo o.stream with ⟨info, _ | s⟩
  · rw [hstart] at h
    cases h
  · rw [hstart] at h
    obtain ⟨s', hfields⟩ := updateReadOrderFields_accepted h
    refine ⟨_, s, s', ?_, hfields⟩
    rw [Reader.accepted, hstart]
    rfl

/-- One order: it is an update of its fields, and the invariant is kept. -/
lemma incrementalOrder_step (hp : p.Valid) {o : ReceivedOrder}
    (h : WellFormedOrder settings callbacks p o ∧ KeepsFieldsOrder settings p o) :
    IncrementalOrder settings callbacks p o ∧ (primaryStep settings callbacks p o).Valid := by
  obtain ⟨info, s, s', hinfo, haccepted⟩ := updateRecvPrimaryOrder_accepted h.1
  have hp' : PrimaryUpdate.Valid { p with orderInfo := info } := { hp with }
  have hkeeps : keepsFields { p with orderInfo := info } info = true := by
    have hkeeps := h.2
    rw [KeepsFieldsOrder, hinfo] at hkeeps
    exact hkeeps
  rw [accepted_readPrimaryOrder s hp' hkeeps] at haccepted
  exact ⟨⟨info, s, s', hinfo, haccepted⟩, primaryUpdated_ensures info hp' s _ s' haccepted⟩

lemma IncrementalOrder.colorIndex {o : ReceivedOrder}
    (h : IncrementalOrder settings callbacks p o) :
    (readOrderInfo settings p o).bind (fun q =>
        (primaryUpdated q.1 { p with orderInfo := q.1 } q.2).map (·.1.memblt.colorIndex)) =
      some (primaryStep settings callbacks p o).memblt.colorIndex := by
  obtain ⟨info, s, s', hinfo, hupdated⟩ := h
  rw [hinfo, Option.bind_some, hupdated]
  rfl

variable (settings callbacks)

/-- In a sequence of accepted orders that leave out no field of which the record has lost a part,
and no points with a count, every order is an update of its fields. -/
theorem primaryRun_incremental (orders : List ReceivedOrder)
    (h : AlongRun (primaryStep settings callbacks)
      (fun p o => WellFormedOrder settings callbacks p o ∧ KeepsFieldsOrder settings p o)
      updateResetState orders) :
    AlongRun (primaryStep settings callbacks) (IncrementalOrder settings callbacks)
      updateResetState orders := by
  refine AlongRun.imp ?_ updateResetState_valid h
  intro p o hp ho
  exact incrementalOrder_step hp ho

end Runs

/-- Settings of a client that supports all orders, and callbacks that succeed. -/
def allOrders : OrderSettings := ⟨fun _ => true, true⟩

def allCallbacks : OrderCallbacks := fun _ => true

/-- A MemBlt order with cache 5 and color index 1, and one with another cache. -/
theorem primaryRun_incremental_memblt :
    AlongRun (primaryStep allOrders allCallbacks) (IncrementalOrder allOrders allCallbacks)
      updateResetState
      [⟨0x09, .ofBytes [0x0D, 0x01, 0x00, 0x05, 0x01]⟩,
        ⟨0x01, .ofBytes [0x21, 0x00, 0x06, 0x00, 0xCC]⟩] :=
  primaryRun_incremental allOrders allCallbacks _ (by decide)

/-- A MemBlt order without the cache id after one with color index 1: the color index is 0. -/
theorem primaryRun_colorIndex_lost :
    let orders : List ReceivedOrder :=
      [⟨0x09, .ofBytes [0x0D, 0x01, 0x00, 0x05, 0x01]⟩, ⟨0x01, .ofBytes [0x20, 0x00, 0xCC]⟩]
    AlongRun (primaryStep allOrders allCallbacks) (WellFormedOrder allOrders allCallbacks)
        updateResetState orders ∧
      ¬ AlongRun (primaryStep allOrders allCallbacks) (IncrementalOrder allOrders allCallbacks)
        updateResetState orders := by
  refine ⟨by decide, ?_⟩
  rintro ⟨-, hsecond, -⟩
  exact absurd hsecond.colorIndex (by decide)

end FreeRdp
