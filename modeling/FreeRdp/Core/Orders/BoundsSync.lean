import FreeRdp.Core.Orders.Counts
import FreeRdp.Core.Orders.Pending
import FreeRdp.Library.Runs
import FreeRdp.Winpr.Reading

/-!
# Bounds on both sides

The bounds of a primary order are sent as what has changed since the bounds before. The server
moves these on with every call of `update_set_bounds`, the client with every order that has bounds.
-/

namespace FreeRdp

open Reader

/-! ### The header of an order -/

/-- What a server sends of a primary order: the header, and the bytes behind it. -/
def primaryOrderBytes (u : RdpUpdate) (t : OrderType) (fieldFlags : Nat) (body : List UInt8) :
    List UInt8 :=
  updateWriteOrderInfo { (updatePrepareOrderInfo u t.code).2 with fieldFlags := fieldFlags } ++ body

/-- The functions `update_send_*` fill in this header. -/
example (u : RdpUpdate) (t : OrderType) (fields : Nat) (estimate : Int) (steps : List WriteStep)
    (checked withoutStream written : Bool) (n : Nat) :
    (primarySend u t fields estimate steps checked withoutStream).header written n =
      primaryOrderBytes u t (if written then orderFields fields else 0) [] := by
  rw [primaryOrderBytes, List.append_nil]
  rfl

/-- The sides of bounds. -/
def Bounds.sides : List (Bounds → Int) := [Bounds.left, Bounds.top, Bounds.right, Bounds.bottom]

/-- Every coordinate fits into 16 bits. -/
def Bounds.InRange (b : Bounds) : Prop := ∀ side ∈ Bounds.sides, -2 ^ 15 ≤ side b ∧ side b < 2 ^ 15

lemma inRange_zero : Bounds.InRange ⟨0, 0, 0, 0⟩ := by
  intro side hside
  simp only [Bounds.sides, List.mem_cons, List.not_mem_nil, or_false] at hside
  rcases hside with rfl | rfl | rfl | rfl <;> exact ⟨by decide, by decide⟩

/-- The bounds that the client has after an order with bounds: the coordinates that have changed on
the server are the new ones. -/
def mergedBounds (u : RdpUpdate) (old : Bounds) : Bounds where
  left := if u.previousBounds.left ≠ u.currentBounds.left then u.currentBounds.left else old.left
  top := if u.previousBounds.top ≠ u.currentBounds.top then u.currentBounds.top else old.top
  right :=
    if u.previousBounds.right ≠ u.currentBounds.right then u.currentBounds.right else old.right
  bottom :=
    if u.previousBounds.bottom ≠ u.currentBounds.bottom then u.currentBounds.bottom else old.bottom

/-- The bounds of the client after an order of the server. -/
def receivedBounds (u : RdpUpdate) (old : Bounds) : Bounds :=
  if updateBoundsIsNull u.currentBounds then old else mergedBounds u old

section Header

variable {u : RdpUpdate} {info : OrderInfo} {settings : OrderSettings} {t : OrderType}
  {fieldFlags : Nat} {s : WStream} {rest : List UInt8}

lemma toSigned_emod {v : Int} (hle : -2 ^ 15 ≤ v) (hlt : v < 2 ^ 15) :
    toSigned 16 (v % 2 ^ 16).toNat = v := by
  have hpos : 0 ≤ v % 2 ^ 16 := Int.emod_nonneg _ (by norm_num)
  rw [toSigned, Int.toNat_of_nonneg hpos]
  show Int.bmod (v % ((2 ^ 16 : Nat) : Int)) (2 ^ 16) = v
  rw [Int.emod_bmod]
  exact Int.bmod_eq_of_le_mul_two (by norm_num; omega) (by norm_num; omega)

/-- A coordinate is read as it has been written. -/
lemma reads_updateReadCoord {v : Int} (hle : -2 ^ 15 ≤ v) (hlt : v < 2 ^ 15) (old : Int) :
    (updateReadCoord false).Reads (updateWriteCoord v) old v := by
  intro s rest hs
  have hlength : (updateWriteCoord v).length = 2 := rfl
  have hnat : (v % 2 ^ 16).toNat < 2 ^ 16 := by
    have hmod := Int.emod_lt_of_pos v (show (0 : Int) < 2 ^ 16 by norm_num)
    omega
  have hvalue := WStream.readUInt16_bytes hs hnat
  rw [updateReadCoord, if_neg Bool.false_ne_true, readValue, if_neg]
  · rw [hvalue, hlength, toSigned_emod hle hlt]
  · rw [WStream.remainingLength_eq, hs, List.length_append, hlength]
    omega

/-- A coordinate of the bounds is read where it has been written, and else left alone. -/
lemma reads_readBound (bound : Nat) (target : Member Bounds Int) (old : Bounds)
    {boundDelta : Nat} {coord : Int} (hle : -2 ^ 15 ≤ coord) (hlt : coord < 2 ^ 15)
    (hdelta : info.boundsFlags &&& boundDelta = 0) :
    (readBound info.boundsFlags bound boundDelta target).Reads (writeBound info bound coord) old
      (if info.boundsFlags &&& bound ≠ 0 then target.set old coord else old) := by
  rw [readBound, writeBound]
  split_ifs with hbound
  · exact Reads.into (reads_updateReadCoord hle hlt _)
  · rw [hdelta]
    exact reads_skip old

/-- The flags of the fields are read as they have been written. -/
lemma updateReadFieldFlags_write {fieldBytes flags : Nat} (hbytes : fieldBytes ∈ [1, 2, 3])
    (hfits : fieldFlags < 2 ^ (8 * fieldBytes)) (hzero : flags &&& ORDER_ZERO_FIELD_BYTE_BIT0 = 0)
    (hzero' : flags &&& ORDER_ZERO_FIELD_BYTE_BIT1 = 0)
    (hs : s.unread = updateWriteFieldFlags fieldFlags fieldBytes ++ rest) :
    (updateWriteFieldFlags fieldFlags fieldBytes).length = fieldBytes ∧
      updateReadFieldFlags s flags fieldBytes = some (fieldFlags, s.seek fieldBytes) := by
  have hlength : (updateWriteFieldFlags fieldFlags fieldBytes).length = fieldBytes := by
    simp only [List.mem_cons, List.not_mem_nil, or_false] at hbytes
    rcases hbytes with rfl | rfl | rfl <;> rfl
  refine ⟨hlength, ?_⟩
  have hroom : ¬s.remainingLength < fieldBytes := by
    rw [WStream.remainingLength_eq, hs, List.length_append, hlength]
    omega
  rw [updateReadFieldFlags, if_neg (not_not.mpr hzero), if_neg (not_not.mpr hzero'), if_neg hroom]
  have hbyte : ∀ x, x % 256 < 2 ^ 8 := fun x => Nat.mod_lt x (by norm_num)
  have hlow : fieldFlags % 256 % 4294967296 = fieldFlags % 256 :=
    Nat.mod_eq_of_lt ((hbyte _).trans (by norm_num))
  have hflags : (List.range fieldBytes).foldl
      (fun fieldFlags i => (fieldFlags ||| s.byteAt i <<< (i * 8)) % 2 ^ 32) 0 = fieldFlags := by
    simp only [List.mem_cons, List.not_mem_nil, or_false] at hbytes
    rcases hbytes with rfl | rfl | rfl
    · simp [List.range_succ, WStream.byteAt_eq, hs, updateWriteFieldFlags, bytesUInt8, and_FF]
      omega
    · simp [List.range_succ, WStream.byteAt_eq, hs, updateWriteFieldFlags, bytesUInt8, and_FF,
        Nat.shiftRight_eq_div_pow]
      rw [hlow, or_shiftLeft_eq_add (hbyte _)]
      omega
    · simp [List.range_succ, WStream.byteAt_eq, hs, updateWriteFieldFlags, bytesUInt8, and_FF,
        Nat.shiftRight_eq_div_pow]
      rw [hlow, or_shiftLeft_eq_add (hbyte _), Nat.mod_eq_of_lt (a := _ + _) (by omega),
        or_shiftLeft_eq_add (show fieldFlags / 256 % 256 * 2 ^ 8 + fieldFlags % 256 < 2 ^ 16 by
          omega)]
      omega
  rw [hflags]

lemma fieldBytesOf_mem (t : OrderType) : fieldBytesOf t.code ∈ [1, 2, 3] := by
  cases t <;> decide

lemma getPrimaryDrawingOrderFieldBytes_code (t : OrderType) :
    getPrimaryDrawingOrderFieldBytes t.code = some (fieldBytesOf t.code) := by
  cases t <;> rfl

lemma OrderType.code_lt (t : OrderType) : t.code < 2 ^ 8 := by
  cases t <;> decide

/-- The order type and the flags of the fields are read as they have been written. -/
lemma reads_updateReadOrderHeader {flags : Nat} (old : OrderInfo)
    (hsupported : checkPrimaryOrderSupported settings t.code = true)
    (hfits : fieldFlags < 2 ^ (8 * fieldBytesOf t.code))
    (hchange : flags &&& ORDER_TYPE_CHANGE ≠ 0)
    (hzero : flags &&& ORDER_ZERO_FIELD_BYTE_BIT0 = 0)
    (hzero' : flags &&& ORDER_ZERO_FIELD_BYTE_BIT1 = 0) :
    (updateReadOrderHeader settings flags).Reads
      (bytesUInt8 t.code ++ updateWriteFieldFlags fieldFlags (fieldBytesOf t.code)) old
      { old with orderType := t.code, fieldFlags := fieldFlags } := by
  intro s rest hs
  rw [List.append_assoc] at hs
  have hroom : ¬s.remainingLength < 1 := by
    rw [WStream.remainingLength_eq, hs]
    simp [bytesUInt8]
  have hcode := WStream.readUInt8_bytes hs t.code_lt
  obtain ⟨hlength, hflags⟩ := updateReadFieldFlags_write (fieldBytesOf_mem t) hfits hzero hzero'
    (WStream.unread_seek_append hs rfl)
  rw [updateReadOrderHeader, if_neg fun h => hroom h.2, if_pos hchange, hcode]
  dsimp only
  rw [hsupported, getPrimaryDrawingOrderFieldBytes_code, Option.bind_some]
  have hone : (bytesUInt8 t.code).length = 1 := rfl
  rw [hone] at hflags
  rw [hflags, if_neg (by decide), List.length_append, hlength, hone, WStream.seek_seek]

/-- What the flags of the bounds say. -/
lemma boundsFlags_spec (a b c d : Prop) [Decidable a] [Decidable b] [Decidable c] [Decidable d]
    {flags : Nat} (hflags : flags = (if a then BOUND_LEFT else 0) |||
      (if b then BOUND_TOP else 0) ||| (if c then BOUND_RIGHT else 0) |||
        (if d then BOUND_BOTTOM else 0)) :
    flags < 2 ^ 8 ∧ (flags &&& BOUND_LEFT ≠ 0 ↔ a) ∧ (flags &&& BOUND_TOP ≠ 0 ↔ b) ∧
      (flags &&& BOUND_RIGHT ≠ 0 ↔ c) ∧ (flags &&& BOUND_BOTTOM ≠ 0 ↔ d) ∧
      flags &&& BOUND_DELTA_LEFT = 0 ∧ flags &&& BOUND_DELTA_TOP = 0 ∧
      flags &&& BOUND_DELTA_RIGHT = 0 ∧ flags &&& BOUND_DELTA_BOTTOM = 0 := by
  subst hflags
  by_cases ha : a <;> by_cases hb : b <;> by_cases hc : c <;> by_cases hd : d <;>
    simp [ha, hb, hc, hd, BOUND_LEFT, BOUND_TOP, BOUND_RIGHT, BOUND_BOTTOM, BOUND_DELTA_LEFT,
      BOUND_DELTA_TOP, BOUND_DELTA_RIGHT, BOUND_DELTA_BOTTOM]

/-- The three kinds of headers: without bounds, with the bounds of before, and with new ones. -/
lemma updatePrepareOrderInfo_cases (u : RdpUpdate) (t : OrderType) :
    (updatePrepareOrderInfo u t.code).2.orderType = t.code ∧
    (updateBoundsIsNull u.currentBounds = true ∧
        (updatePrepareOrderInfo u t.code).2.controlFlags = 0x09 ∨
      updateBoundsIsNull u.currentBounds = false ∧ u.previousBounds = u.currentBounds ∧
        (updatePrepareOrderInfo u t.code).2.controlFlags = 0x2D ∨
      updateBoundsIsNull u.currentBounds = false ∧ u.previousBounds ≠ u.currentBounds ∧
        (updatePrepareOrderInfo u t.code).2.controlFlags = 0x0D) := by
  rw [updatePrepareOrderInfo, updatePrepareBounds]
  dsimp only
  cases hnull : updateBoundsIsNull u.currentBounds with
  | true => exact ⟨rfl, .inl ⟨rfl, rfl⟩⟩
  | false =>
    rw [if_neg Bool.false_ne_true]
    by_cases hsame : u.previousBounds = u.currentBounds
    · rw [if_pos hsame]
      exact ⟨rfl, .inr (.inl ⟨rfl, hsame, rfl⟩)⟩
    · rw [if_neg hsame]
      exact ⟨rfl, .inr (.inr ⟨rfl, hsame, rfl⟩)⟩

/-- A coordinate that is left at 0 fits as well. -/
lemma coord_ite {changed : Prop} [Decidable changed] {v : Int}
    (hv : -2 ^ 15 ≤ v ∧ v < 2 ^ 15) :
    -2 ^ 15 ≤ (if changed then v else 0) ∧ (if changed then v else 0) < 2 ^ 15 := by
  split_ifs
  · exact hv
  · norm_num

/-- Coordinates that are set one after another, each if it has changed. -/
lemma setBounds_ite {a b c d : Prop} [Decidable a] [Decidable b] [Decidable c] [Decidable d]
    {sent new : Bounds} (old : Bounds) (hleft : a → sent.left = new.left)
    (htop : b → sent.top = new.top) (hright : c → sent.right = new.right)
    (hbottom : d → sent.bottom = new.bottom) :
    (let withLeft := if a then { old with left := sent.left } else old
     let withTop := if b then { withLeft with top := sent.top } else withLeft
     let withRight := if c then { withTop with right := sent.right } else withTop
     if d then { withRight with bottom := sent.bottom } else withRight) =
      (⟨if a then new.left else old.left, if b then new.top else old.top,
        if c then new.right else old.right, if d then new.bottom else old.bottom⟩ : Bounds) := by
  dsimp only
  split_ifs with ha hb hc hd <;> simp only [*]

/-- New bounds are read as they have been written. -/
lemma reads_updateReadBounds (hrange : u.currentBounds.InRange) (old : Bounds)
    (hnull : updateBoundsIsNull u.currentBounds = false)
    (hchanged : u.previousBounds ≠ u.currentBounds) :
    updateReadBounds.Reads (updateWriteBounds (updatePrepareOrderInfo u t.code).2) old
      (mergedBounds u old) := by
  obtain ⟨info, hinfo⟩ : ∃ info, info = (updatePrepareOrderInfo u t.code).2 := ⟨_, rfl⟩
  have hprepared := hinfo
  rw [updatePrepareOrderInfo, updatePrepareBounds, hnull, if_neg Bool.false_ne_true,
    if_neg hchanged] at hprepared
  dsimp only at hprepared
  have hcontrol : info.controlFlags = 0x0D := by rw [hprepared]; rfl
  have hflags := congrArg OrderInfo.boundsFlags hprepared
  obtain ⟨hlt, hleft, htop, hright, hbottom, hdl, hdt, hdr, hdb⟩ := boundsFlags_spec
    (u.previousBounds.left ≠ u.currentBounds.left) (u.previousBounds.top ≠ u.currentBounds.top)
    (u.previousBounds.right ≠ u.currentBounds.right)
    (u.previousBounds.bottom ≠ u.currentBounds.bottom) hflags
  -- the coordinates that are written, and 0 where they have not changed
  have hbounds := congrArg OrderInfo.bounds hprepared
  have hinleft : -2 ^ 15 ≤ info.bounds.left ∧ info.bounds.left < 2 ^ 15 := by
    rw [hbounds]
    exact coord_ite (hrange Bounds.left (by simp [Bounds.sides]))
  have hintop : -2 ^ 15 ≤ info.bounds.top ∧ info.bounds.top < 2 ^ 15 := by
    rw [hbounds]
    exact coord_ite (hrange Bounds.top (by simp [Bounds.sides]))
  have hinright : -2 ^ 15 ≤ info.bounds.right ∧ info.bounds.right < 2 ^ 15 := by
    rw [hbounds]
    exact coord_ite (hrange Bounds.right (by simp [Bounds.sides]))
  have hinbottom : -2 ^ 15 ≤ info.bounds.bottom ∧ info.bounds.bottom < 2 ^ 15 := by
    rw [hbounds]
    exact coord_ite (hrange Bounds.bottom (by simp [Bounds.sides]))
  have hall := Reads.cons (reads_readBound BOUND_LEFT
      (.mk (·.left) fun b v => { b with left := v }) old hinleft.1 hinleft.2 hdl)
    (Reads.cons (reads_readBound BOUND_TOP (.mk (·.top) fun b v => { b with top := v }) _
      hintop.1 hintop.2 hdt)
    (Reads.cons (reads_readBound BOUND_RIGHT (.mk (·.right) fun b v => { b with right := v }) _
      hinright.1 hinright.2 hdr)
    (Reads.cons (reads_readBound BOUND_BOTTOM (.mk (·.bottom) fun b v => { b with bottom := v }) _
      hinbottom.1 hinbottom.2 hdb) (reads_nil _))))
  rw [List.append_nil] at hall
  rw [← hinfo, updateWriteBounds, hcontrol, if_neg (by decide), if_neg (by decide)]
  intro s rest hs
  rw [List.append_assoc] at hs
  have hroom : ¬s.remainingLength < 1 := by
    rw [WStream.remainingLength_eq, hs]
    simp [bytesUInt8]
  rw [updateReadBounds, if_neg hroom, WStream.readUInt8_bytes hs hlt]
  dsimp only
  refine (hall (s.seek 1) rest (WStream.unread_seek_append hs rfl)).trans ?_
  refine congrArg₂ Prod.mk ?_ (by rw [WStream.seek_seek, Nat.add_comm]; rfl)
  rw [mergedBounds]
  simp only [hleft, htop, hright, hbottom]
  exact setBounds_ite old (fun h => by rw [hbounds]; exact if_pos h)
    (fun h => by rw [hbounds]; exact if_pos h) (fun h => by rw [hbounds]; exact if_pos h)
    (fun h => by rw [hbounds]; exact if_pos h)

end Header

/-! ### Receiving an order -/

/-- The bounds of the first callback, which are applied to the order. -/
def PrimaryResult.appliedBounds (r : PrimaryResult) : Option Bounds :=
  match r.events with
  | .setBounds bounds :: _ => bounds
  | _ => none

section Receiving

variable {u : RdpUpdate} {settings : OrderSettings} {callbacks : OrderCallbacks}
  {primary : PrimaryUpdate} {t : OrderType} {fieldFlags : Nat} {s : WStream}
  {body : List UInt8}

/-- The fields of an order leave the bounds as they are, however reading them ends. -/
lemma updateReadOrderFields_bounds (callbacks : OrderCallbacks) (flags : Nat) (p : PrimaryUpdate)
    (s : WStream) :
    (updateReadOrderFields callbacks flags p s).primary.orderInfo.bounds = p.orderInfo.bounds ∧
      (updateReadOrderFields callbacks flags p s).appliedBounds =
        if flags &&& ORDER_BOUNDS ≠ 0 then some p.orderInfo.bounds else none := by
  have hevents : ∀ more rest q, PrimaryResult.appliedBounds ⟨q,
      (if flags &&& ORDER_BOUNDS ≠ 0 then [OrderEvent.setBounds (some p.orderInfo.bounds)]
        else []) ++ more, rest⟩ = if flags &&& ORDER_BOUNDS ≠ 0 then some p.orderInfo.bounds
          else (PrimaryResult.mk q more rest).appliedBounds := by
    intro more rest q
    split_ifs <;> rfl
  have hshort := fun rest q => hevents [] rest q
  simp only [List.append_nil] at hshort
  rw [updateReadOrderFields]
  dsimp only
  by_cases hrefused : flags &&& ORDER_BOUNDS ≠ 0 ∧
      (!callbacks (.setBounds (some p.orderInfo.bounds))) = true
  · rw [if_pos hrefused]
    exact ⟨rfl, hshort _ _⟩
  · rw [if_neg hrefused]
    obtain ⟨info, hinfo⟩ : ∃ info, info = { p.orderInfo with
      deltaCoordinates := decide (flags &&& ORDER_DELTA_COORDINATES ≠ 0) } := ⟨_, rfl⟩
    rw [← hinfo]
    have hkept := readPrimaryOrder_orderInfo info { p with orderInfo := info } s
    have hbounds : info.bounds = p.orderInfo.bounds := by rw [hinfo]
    rcases hread : readPrimaryOrder info { p with orderInfo := info } s with ⟨q, _ | s'⟩
    · rw [hread] at hkept
      exact ⟨(congrArg OrderInfo.bounds hkept).trans hbounds, hshort _ _⟩
    · rw [hread] at hkept
      dsimp only at hkept ⊢
      obtain ⟨events, hdrawn⟩ : ∃ events, events = (if flags &&& ORDER_BOUNDS ≠ 0 then
        [OrderEvent.setBounds (some p.orderInfo.bounds)] else []) := ⟨_, rfl⟩
      rw [← hdrawn]
      obtain ⟨more, hmore, -⟩ := @updateDrawPrimaryOrder_events callbacks flags q events s'
      constructor
      · rw [updateDrawPrimaryOrder_primary, hkept, hbounds]
      · have happlied := hevents (.orderInfo q.orderInfo :: more) none q
        rw [← hdrawn] at happlied
        rw [PrimaryResult.appliedBounds, hmore]
        exact happlied

/-- An order whose header has these control flags and these bytes for its bounds. -/
lemma updateRecvOrder_header {control : Nat} {boundsBytes : List UInt8} {new : Bounds}
    (hcontrol : control ∈ [0x09, 0x2D, 0x0D])
    (hsupported : checkPrimaryOrderSupported settings t.code = true)
    (hfits : fieldFlags < 2 ^ (8 * fieldBytesOf t.code))
    (hbounds : ∀ info : OrderInfo, info.bounds = primary.orderInfo.bounds →
      (updateReadOrderBounds control).Reads boundsBytes info { info with bounds := new })
    (hs : s.unread = bytesUInt8 control ++ ((bytesUInt8 t.code ++
      updateWriteFieldFlags fieldFlags (fieldBytesOf t.code)) ++ (boundsBytes ++ [])) ++ body) :
    ∃ r, updateRecvOrder settings callbacks primary s = some r ∧
      r.primary.orderInfo.bounds = new ∧
      r.appliedBounds = if control &&& ORDER_BOUNDS ≠ 0 then some new else none := by
  have hflags : control < 2 ^ 8 ∧ ¬(control &&& ORDER_STANDARD = 0 ∨
      control &&& ORDER_SECONDARY ≠ 0) ∧ control &&& ORDER_TYPE_CHANGE ≠ 0 ∧
      control &&& ORDER_ZERO_FIELD_BYTE_BIT0 = 0 ∧ control &&& ORDER_ZERO_FIELD_BYTE_BIT1 = 0 := by
    simp only [List.mem_cons, List.not_mem_nil, or_false] at hcontrol
    rcases hcontrol with rfl | rfl | rfl <;> decide
  obtain ⟨hlt, hprimary, hchange, hzero, hzero'⟩ := hflags
  rw [List.append_assoc] at hs
  have hroom : ¬s.remainingLength < 1 := by
    rw [WStream.remainingLength_eq, hs]
    simp [bytesUInt8]
  have hheader := (reads_updateReadOrderHeader primary.orderInfo hsupported
    hfits hchange hzero hzero').cons ((hbounds { primary.orderInfo with
      orderType := t.code, fieldFlags := fieldFlags } rfl).cons (reads_nil _))
  have hread := hheader (s.seek 1) body (WStream.unread_seek_append hs rfl)
  refine ⟨_, ?_, updateReadOrderFields_bounds callbacks control
    { primary with orderInfo := { primary.orderInfo with
      orderType := t.code, fieldFlags := fieldFlags, bounds := new } } ((s.seek 1).seek
        (bytesUInt8 t.code ++ updateWriteFieldFlags fieldFlags (fieldBytesOf t.code) ++
          (boundsBytes ++ [])).length)⟩
  rw [updateRecvOrder, if_neg hroom, WStream.readUInt8_bytes hs hlt]
  dsimp only
  rw [if_neg hprimary, updateRecvPrimaryOrder, hread]

/-- What the client makes of an order of the server. -/
lemma updateRecvOrder_bounds (callbacks : OrderCallbacks) (primary : PrimaryUpdate)
    (hrange : u.currentBounds.InRange)
    (hsupported : checkPrimaryOrderSupported settings t.code = true)
    (hfits : fieldFlags < 2 ^ (8 * fieldBytesOf t.code))
    (hs : s.unread = primaryOrderBytes u t fieldFlags body) :
    ∃ r, updateRecvOrder settings callbacks primary s = some r ∧
      r.primary.orderInfo.bounds = receivedBounds u primary.orderInfo.bounds ∧
      r.appliedBounds = if updateBoundsIsNull u.currentBounds then none
        else some (receivedBounds u primary.orderInfo.bounds) := by
  obtain ⟨htype, hcases⟩ := updatePrepareOrderInfo_cases u t
  rw [primaryOrderBytes, updateWriteOrderInfo] at hs
  dsimp only at hs
  rw [htype] at hs
  obtain ⟨info, hinfo⟩ : ∃ info, info = (updatePrepareOrderInfo u t.code).2 := ⟨_, rfl⟩
  have hwrite : updateWriteBounds { info with orderType := t.code, fieldFlags := fieldFlags } =
      updateWriteBounds info := rfl
  rw [← hinfo] at hs hcases
  rw [hwrite] at hs
  rcases hcases with ⟨hnull, hcontrol⟩ | ⟨hnull, hsame, hcontrol⟩ | ⟨hnull, hchanged, hcontrol⟩
  · have hnone : updateWriteBounds info = [] := by
      rw [updateWriteBounds, hcontrol, if_pos (by decide)]
    rw [hcontrol, if_pos (by decide), hnone] at hs
    obtain ⟨r, hrecv, hnew, happlied⟩ := @updateRecvOrder_header settings callbacks primary t
      fieldFlags s body 0x09 [] primary.orderInfo.bounds (by simp) hsupported hfits
      (fun old hold => by rw [← hold]; exact reads_skip old) (by rw [hs]; simp)
    rw [if_neg (by decide)] at happlied
    rw [receivedBounds, hnull, if_pos rfl, if_pos rfl]
    exact ⟨r, hrecv, hnew, happlied⟩
  · have hnone : updateWriteBounds info = [] := by
      rw [updateWriteBounds, hcontrol, if_neg (by decide), if_pos (by decide)]
    rw [hcontrol, if_pos (by decide), hnone] at hs
    obtain ⟨r, hrecv, hnew, happlied⟩ := @updateRecvOrder_header settings callbacks primary t
      fieldFlags s body 0x2D [] primary.orderInfo.bounds (by simp) hsupported hfits
      (fun old hold => by rw [← hold]; exact reads_skip old) (by rw [hs]; simp)
    rw [if_pos (by decide)] at happlied
    have hmerged : mergedBounds u primary.orderInfo.bounds = primary.orderInfo.bounds := by
      simp [mergedBounds, hsame]
    rw [receivedBounds, hnull, if_neg Bool.false_ne_true, if_neg Bool.false_ne_true, hmerged]
    exact ⟨r, hrecv, hnew, happlied⟩
  · rw [hcontrol, if_pos (by decide)] at hs
    obtain ⟨r, hrecv, hnew, happlied⟩ := @updateRecvOrder_header settings callbacks primary t
      fieldFlags s body 0x0D (updateWriteBounds info) (mergedBounds u primary.orderInfo.bounds)
      (by simp) hsupported hfits
      (fun old hold => by
        rw [← hold, hinfo]
        exact Reads.into (reads_updateReadBounds hrange old.bounds hnull hchanged))
      (by rw [hs]; simp)
    rw [if_pos (by decide)] at happlied
    rw [receivedBounds, hnull, if_neg Bool.false_ne_true, if_neg Bool.false_ne_true]
    exact ⟨r, hrecv, hnew, happlied⟩

end Receiving

/-! ### Runs of both sides -/

/-- A call of the server. Behind the header of an order come its fields, and whatever follows. -/
inductive PaintCall
  | setBounds (bounds : Option Bounds)
  | order (t : OrderType) (fieldFlags : Nat) (body : List UInt8)
  deriving DecidableEq

/-- The server, the client, and the bounds of the last order that had any. -/
structure PaintPeers where
  update : RdpUpdate
  primary : PrimaryUpdate
  carried : Bounds

section Runs

variable (settings : OrderSettings) (callbacks : OrderCallbacks)

/-- What the client makes of an order. -/
def PaintPeers.receive (p : PaintPeers) (t : OrderType) (fieldFlags : Nat) (body : List UInt8) :
    Option PrimaryResult :=
  updateRecvOrder settings callbacks p.primary
    (.ofBytes (primaryOrderBytes p.update t fieldFlags body))

/-- The server makes a call, and the client receives what it sends. -/
def PaintPeers.step (p : PaintPeers) : PaintCall → PaintPeers
  | .setBounds bounds => { p with update := updateSetBounds p.update bounds }
  | .order t fieldFlags body =>
    { p with
      primary := ((p.receive settings callbacks t fieldFlags body).map (·.primary)).getD p.primary
      carried := if updateBoundsIsNull p.update.currentBounds then p.carried
        else p.update.currentBounds }

/-- The bounds fit into the coordinates of an order, and the client knows the order. -/
def PaintPeers.Sendable (_ : PaintPeers) : PaintCall → Prop
  | .setBounds bounds => ∀ b, bounds = some b → b.InRange
  | .order t fieldFlags _ =>
    checkPrimaryOrderSupported settings t.code = true ∧ fieldFlags < 2 ^ (8 * fieldBytesOf t.code)

/-- The client applies the bounds of the server to the order. -/
def PaintPeers.Applies (p : PaintPeers) : PaintCall → Prop
  | .setBounds _ => True
  | .order t fieldFlags body =>
    (p.receive settings callbacks t fieldFlags body).map PrimaryResult.appliedBounds =
      some (if updateBoundsIsNull p.update.currentBounds then none
        else some p.update.currentBounds)

/-- The order has no bounds, or every coordinate that is the one of `previousBounds` is also the one
of the last order with bounds. -/
def PaintPeers.InStep (p : PaintPeers) : PaintCall → Prop
  | .setBounds _ => True
  | .order _ _ _ => updateBoundsIsNull p.update.currentBounds = true ∨
      ∀ side ∈ Bounds.sides, side p.update.previousBounds = side p.update.currentBounds →
        side p.carried = side p.update.currentBounds

/-- The client has the bounds of the last order that had any. -/
structure PaintPeers.Linked (p : PaintPeers) : Prop where
  client : p.primary.orderInfo.bounds = p.carried
  range : p.update.currentBounds.InRange

variable {settings callbacks} {p : PaintPeers} {call : PaintCall}

/-- The merged bounds are those of the server if what has not changed is there. -/
lemma mergedBounds_eq_iff {u : RdpUpdate} {old : Bounds} :
    mergedBounds u old = u.currentBounds ↔ ∀ side ∈ Bounds.sides,
      side u.previousBounds = side u.currentBounds → side old = side u.currentBounds := by
  rcases hcurrent : u.currentBounds with ⟨left, top, right, bottom⟩
  simp only [mergedBounds, hcurrent, Bounds.mk.injEq, Bounds.sides, List.forall_mem_cons,
    List.not_mem_nil, false_imp_iff, implies_true, and_true, ite_eq_left_iff, not_not, ne_eq]

/-- One order is given the right bounds just when the condition holds. -/
lemma PaintPeers.Linked.applies_iff (h : p.Linked) (hsend : p.Sendable settings call) :
    p.Applies settings callbacks call ↔ p.InStep call := by
  cases call with
  | setBounds bounds => exact Iff.rfl
  | order t fieldFlags body =>
    obtain ⟨r, hrecv, hnew, happlied⟩ := updateRecvOrder_bounds callbacks p.primary
      h.range hsend.1 hsend.2 (WStream.unread_ofBytes _)
    have hreceive : p.receive settings callbacks t fieldFlags body = some r := hrecv
    rw [PaintPeers.Applies, PaintPeers.InStep, hreceive, Option.map_some, happlied,
      ← mergedBounds_eq_iff, Option.some_inj, receivedBounds, h.client]
    cases hnull : updateBoundsIsNull p.update.currentBounds <;> simp

/-- An order that is given the right bounds leaves both sides linked. -/
lemma PaintPeers.Linked.step (h : p.Linked) (hsend : p.Sendable settings call)
    (hin : p.InStep call) : (p.step settings callbacks call).Linked := by
  cases call with
  | setBounds bounds =>
    refine ⟨h.client, ?_⟩
    cases bounds with
    | none => exact inRange_zero
    | some b => exact hsend b rfl
  | order t fieldFlags body =>
    obtain ⟨r, hrecv, hnew, -⟩ := updateRecvOrder_bounds callbacks p.primary
      h.range hsend.1 hsend.2 (WStream.unread_ofBytes _)
    have hreceive : p.receive settings callbacks t fieldFlags body = some r := hrecv
    refine ⟨?_, h.range⟩
    rw [PaintPeers.step, hreceive]
    dsimp only [Option.map_some, Option.getD_some]
    rw [hnew, receivedBounds, h.client]
    rcases hin with hnull | hsides
    · rw [if_pos hnull, if_pos hnull]
    · rw [mergedBounds_eq_iff.mpr hsides]

/-- Both sides at the start. -/
def PaintPeers.start : PaintPeers :=
  ⟨⟨none, 0, 0, ⟨0, 0, 0, 0⟩, ⟨0, 0, 0, 0⟩, []⟩, updateResetState, ⟨0, 0, 0, 0⟩⟩

lemma linked_start : PaintPeers.start.Linked := ⟨rfl, inRange_zero⟩

/-- In a run of calls the client applies the bounds of the server to every order just when every
order with bounds finds the coordinates it does not send in the order with bounds before it. -/
theorem boundsRun_applies_iff {calls : List PaintCall}
    (hsend : AlongRun (PaintPeers.step settings callbacks) (PaintPeers.Sendable settings) .start
      calls) :
    AlongRun (PaintPeers.step settings callbacks) (PaintPeers.Applies settings callbacks) .start
        calls ↔
      AlongRun (PaintPeers.step settings callbacks) PaintPeers.InStep .start calls :=
  @AlongRun.iff_of_invariant _ _ _ _ _ _ PaintPeers.Linked (fun _ _ h hs => h.applies_iff hs)
    (fun _ _ h hs happlies => h.step hs ((h.applies_iff hs).mp happlies)) _ _ linked_start
    hsend

/-- Bounds that are set twice before an order need not be the ones that the client applies. -/
theorem boundsRun_applies_twice :
    AlongRun (PaintPeers.step allOrders allCallbacks) (PaintPeers.Applies allOrders allCallbacks)
        .start [.setBounds (some ⟨1, 2, 30, 40⟩), .order .dstblt 0 [],
          .setBounds (some ⟨1, 2, 50, 40⟩), .order .dstblt 0 []] ∧
      ¬AlongRun (PaintPeers.step allOrders allCallbacks)
        (PaintPeers.Applies allOrders allCallbacks) .start [.setBounds (some ⟨1, 2, 30, 40⟩),
          .setBounds (some ⟨1, 2, 50, 40⟩), .order .dstblt 0 []] := by
  have hrange : ∀ right : Int, right = 30 ∨ right = 50 → Bounds.InRange ⟨1, 2, right, 40⟩ := by
    intro right hright side hside
    simp only [Bounds.sides, List.mem_cons, List.not_mem_nil, or_false] at hside
    rcases hside with rfl | rfl | rfl | rfl <;> rcases hright with rfl | rfl <;>
      exact ⟨by decide, by decide⟩
  constructor
  · refine (boundsRun_applies_iff ?_).mpr ?_
    · refine ⟨?_, ⟨by decide, by decide⟩, ?_, ⟨by decide, by decide⟩, trivial⟩
      · rintro b ⟨⟩
        exact hrange 30 (.inl rfl)
      · rintro b ⟨⟩
        exact hrange 50 (.inr rfl)
    · exact ⟨trivial, .inr (by decide), trivial, .inr (by decide), trivial⟩
  · intro happlies
    refine absurd ((boundsRun_applies_iff ?_).mp happlies) ?_
    · refine ⟨?_, ?_, ⟨by decide, by decide⟩, trivial⟩
      · rintro b ⟨⟩
        exact hrange 30 (.inl rfl)
      · rintro b ⟨⟩
        exact hrange 50 (.inr rfl)
    · rintro ⟨-, -, hnull | hsides, -⟩
      · exact absurd hnull (by decide)
      · exact absurd (hsides Bounds.left (by simp [Bounds.sides]) rfl) (by decide)

end Runs

end FreeRdp
