import FreeRdp.Core.Orders.CacheGlyphs
import FreeRdp.Core.Orders.Intact

/-!
# Orders for the caches in the pending update

The functions `update_send_cache_*` write into the stream of the pending update. What they put there
are the bytes of the order, and it is within the capacity if the room that is ensured is enough:
that is an estimate, and nothing checks it while the order is written.
-/

namespace FreeRdp

open WStream

/-! ### What is put into the update -/

/-- A secondary order as it is sent. -/
def SecondaryOrder.toServer : SecondaryOrder → ServerOrder
  | .cacheBitmap o => .cacheBitmap o
  | .cacheBitmapV2 o => .cacheBitmapV2 o
  | .cacheBitmapV3 o => .cacheBitmapV3 o
  | .cacheColorTable o => .cacheColorTable o
  | .cacheGlyph o => .cacheGlyph o
  | .cacheGlyphV2 o => .cacheGlyphV2 o
  | .cacheBrush o => .cacheBrush o

/-- The order with all the bytes that are written of the data it points to. -/
def SecondaryOrder.padded (noBitmapCompressionHeader : Bool) : SecondaryOrder → SecondaryOrder
  | .cacheBitmap o =>
    .cacheBitmap { o with bitmapDataStream := pointerBytes o.bitmapDataStream o.bitmapLength }
  | .cacheBitmapV2 o =>
    .cacheBitmapV2 { o with
      bitmapDataStream := pointerBytes o.bitmapDataStream
        (o.withSettings noBitmapCompressionHeader).dataLength }
  | .cacheGlyph o => .cacheGlyph { o with glyphData := o.glyphData.map GlyphDataV2.padded }
  | .cacheGlyphV2 o => .cacheGlyphV2 { o with glyphData := o.glyphData.map GlyphDataV2.padded }
  | o => o

/-- The stream of an update is used within its capacity, which an allocation can have. -/
def RdpUpdate.Ready (u : RdpUpdate) : Prop :=
  ∀ s, u.us = some s → s.Within ∧ s.buffer.length ≤ SSIZE_MAX

section Sender

variable {xs : Option (List UInt8)}

lemma putBytes_append (steps steps' : List WriteStep) :
    putBytes (steps ++ steps') = putBytes steps ++ putBytes steps' := by
  induction steps with
  | nil => rfl
  | cons step steps ih =>
    cases step <;> simp only [List.cons_append, putBytes, ih, List.append_assoc]

lemma putBytes_flatMap {α : Type} (f : α → List WriteStep) (xs : List α) :
    putBytes (xs.flatMap f) = xs.flatMap fun x => putBytes (f x) := by
  induction xs with
  | nil => rfl
  | cons x xs ih => rw [List.flatMap_cons, List.flatMap_cons, putBytes_append, ih]

/-- A writer that has not given up has its bytes. -/
lemma exists_of_reject_notMem (h : .reject ∉ putOrReject xs) : ∃ bytes, xs = some bytes := by
  cases xs with
  | none => exact absurd List.mem_cons_self h
  | some bytes => exact ⟨bytes, rfl⟩

lemma putBytes_putOrReject (bytes : List UInt8) : putBytes (putOrReject (some bytes)) = bytes :=
  List.append_nil bytes

lemma take_pointerBytes (data : List UInt8) (n : Nat) :
    (pointerBytes data n).take n = pointerBytes data n := by
  refine List.take_of_length_le ?_
  simp only [pointerBytes, List.length_append, List.length_take, List.length_replicate]
  omega

lemma writeGlyphV2_padded {g : GlyphDataV2} (h : .reject ∉ glyphV2Steps g) :
    writeGlyphV2 g.padded = some (putBytes (glyphV2Steps g)) := by
  simp only [glyphV2Steps, List.mem_cons, List.mem_append, not_or] at h
  obtain ⟨-, hx, hy, hcx, hcy, -⟩ := h
  obtain ⟨x, hx⟩ := exists_of_reject_notMem hx
  obtain ⟨y, hy⟩ := exists_of_reject_notMem hy
  obtain ⟨cx, hcx⟩ := exists_of_reject_notMem hcx
  obtain ⟨cy, hcy⟩ := exists_of_reject_notMem hcy
  simp only [writeGlyphV2, GlyphDataV2.padded, glyphV2Steps, hx, hy, hcx, hcy, take_pointerBytes,
    putBytes, putBytes_append, putBytes_putOrReject, List.append_nil]
  rfl

lemma mapM_writeGlyphV2_padded {glyphs : List GlyphDataV2}
    (h : ∀ g ∈ glyphs, .reject ∉ glyphV2Steps g) :
    (glyphs.map GlyphDataV2.padded).mapM writeGlyphV2 =
      some (glyphs.map fun g => putBytes (glyphV2Steps g)) := by
  induction glyphs with
  | nil => rfl
  | cons g glyphs ih =>
    rw [List.map_cons, List.mapM_cons, writeGlyphV2_padded (h g List.mem_cons_self),
      ih fun g hg => h g (List.mem_cons_of_mem _ hg)]
    rfl

/-- The bytes that are put of a bitmap are those of its writer, whose flags do not depend on the
data. -/
lemma cacheBitmapV2_sent {o : CacheBitmapV2Order} (hreject : .reject ∉ cacheBitmapV2Steps o) :
    ∃ (left : CacheBitmapV2Order) (extraFlags : Nat) (front : List UInt8),
      left.compressed = o.compressed ∧
      putBytes (cacheBitmapV2Steps o) = front ++ pointerBytes o.bitmapDataStream o.dataLength ∧
      ∀ data, updateWriteCacheBitmapV2Order { o with bitmapDataStream := data } o.compressed =
        some ({ left with bitmapDataStream := data }, extraFlags,
          front ++ data.take o.dataLength) := by
  unfold cacheBitmapV2Steps at hreject ⊢
  dsimp only at hreject ⊢
  rcases hbpp : getBppBmf o.bitmapBpp with _ | bitsPerPixelId <;> rw [hbpp] at hreject
  · exact absurd (List.mem_cons_of_mem _ List.mem_cons_self) hreject
  · simp only [ensureInt, List.mem_cons, List.mem_append, not_or] at hreject
    obtain ⟨-, -, hwidth, hheight, hlength, hindex, -⟩ := hreject
    obtain ⟨width, hwidth⟩ := exists_of_reject_notMem hwidth
    obtain ⟨length, hlength⟩ := exists_of_reject_notMem hlength
    obtain ⟨index, hindex⟩ := exists_of_reject_notMem hindex
    obtain ⟨size, hsize, hputs⟩ : ∃ size, writeBitmapSize o = some size ∧
        width ++ putBytes (if o.flags &&& CBR2_HEIGHT_SAME_AS_WIDTH ≠ 0 then []
          else putOrReject (updateWrite2byteUnsigned o.bitmapHeight)) = size := by
      rw [writeBitmapSize, hwidth]
      split_ifs at hheight ⊢ with hsame
      · exact ⟨width, rfl, List.append_nil width⟩
      · obtain ⟨height, hheight⟩ := exists_of_reject_notMem hheight
        rw [hheight, putBytes_putOrReject]
        exact ⟨_, rfl, rfl⟩
    obtain ⟨key, hkey⟩ : ∃ key, key = if o.flags &&& CBR2_PERSISTENT_KEY_PRESENT ≠ 0 then
      bytesUInt32 o.key1 ++ bytesUInt32 o.key2 else [] := ⟨_, rfl⟩
    obtain ⟨hdr, hhdr⟩ : ∃ hdr, hdr = if o.withComprHdr o.compressed then
      bytesUInt16 o.cbCompFirstRowSize ++ (bytesUInt16 o.cbCompMainBodySize ++
        (bytesUInt16 o.cbScanWidth ++ bytesUInt16 o.cbUncompressedSize)) else [] := ⟨_, rfl⟩
    have hputKey : putBytes (if o.flags &&& CBR2_PERSISTENT_KEY_PRESENT ≠ 0 then
        [WriteStep.put (bytesUInt32 o.key1), .put (bytesUInt32 o.key2)] else []) = key := by
      rw [hkey]
      split_ifs <;> simp [putBytes]
    have hputHdr : putBytes (if o.withComprHdr o.compressed then
        [WriteStep.put (bytesUInt16 o.cbCompFirstRowSize), .put (bytesUInt16 o.cbCompMainBodySize),
          .put (bytesUInt16 o.cbScanWidth), .put (bytesUInt16 o.cbUncompressedSize)]
          else []) = hdr := by
      rw [hhdr]
      split_ifs <;> simp [putBytes]
    refine ⟨{ o with
      cacheIndex := if o.flags &&& CBR2_DO_NOT_CACHE ≠ 0 then BITMAP_CACHE_WAITING_LIST_INDEX
        else o.cacheIndex
      bitmapLength := o.dataLength }, (o.cacheId &&& 0x0003) ||| (bitsPerPixelId <<< 3) |||
        ((o.flags <<< 7) &&& 0xFF80), key ++ (size ++ (length ++ (index ++ hdr))), rfl, ?_,
      fun data => ?_⟩
    · simp only [ensureInt, putBytes, putBytes_append, hwidth, hlength, hindex, hputKey, hputHdr,
        putBytes_putOrReject, List.append_nil, ← hputs, List.append_assoc]
      rfl
    · have hsize' : writeBitmapSize { o with bitmapDataStream := data } = some size := hsize
      unfold updateWriteCacheBitmapV2Order
      dsimp only
      rw [hbpp, hsize', hlength, hindex, hkey, hhdr]
      simp only [List.append_assoc]
      rfl

/-- Each function sends a secondary order with a header of six bytes, and what its writer puts there
is the order. -/
lemma sender_toServer (env : UpdateEnvironment) (u : RdpUpdate) (order : SecondaryOrder) :
    ∃ orderType extraFlags estimate steps,
      order.toServer.sender env u = secondarySend orderType extraFlags estimate steps ∧
      (.reject ∉ steps → updateSendCache env.noBitmapCompressionHeader
        (order.padded env.noBitmapCompressionHeader) =
          some (updateSendSecondary orderType extraFlags (putBytes steps))) := by
  cases order with
  | cacheBitmap o =>
    refine ⟨_, _, _, _, rfl, fun _ => ?_⟩
    simp only [SecondaryOrder.padded, updateSendCache, updateSendCacheBitmap, cacheBitmapSteps,
      ensureInt, putBytes, List.append_nil]
    rfl
  | cacheBitmapV2 o =>
    refine ⟨_, _, _, _, rfl, fun hreject => ?_⟩
    obtain ⟨o', ho'⟩ : ∃ o', o' = o.withSettings env.noBitmapCompressionHeader := ⟨_, rfl⟩
    have hpadded : CacheBitmapV2Order.withSettings env.noBitmapCompressionHeader
        { o with bitmapDataStream := pointerBytes o.bitmapDataStream o'.dataLength } =
          { o' with bitmapDataStream := pointerBytes o'.bitmapDataStream o'.dataLength } := by
      rw [ho', CacheBitmapV2Order.withSettings, CacheBitmapV2Order.withSettings]
      split_ifs <;> rfl
    rw [← ho'] at hreject
    obtain ⟨left, extraFlags, front, hcompressed, hputs, hwrite⟩ := cacheBitmapV2_sent hreject
    have hflags : ((updateWriteCacheBitmapV2Order o' o'.compressed).map (·.2.1)).getD 0 =
        extraFlags := by
      rw [show o' = { o' with bitmapDataStream := o'.bitmapDataStream } from rfl, hwrite]
      rfl
    simp only [SecondaryOrder.padded, updateSendCache, updateSendCacheBitmapV2, ← ho', hpadded,
      hwrite, hputs, Option.bind_eq_bind, Option.bind_some, hcompressed, take_pointerBytes]
    rfl
  | cacheBitmapV3 o =>
    refine ⟨_, _, _, _, rfl, fun hreject => ?_⟩
    simp only [cacheBitmapV3Steps, ensureInt, List.mem_cons, not_or] at hreject
    obtain ⟨-, hreject⟩ := hreject
    obtain ⟨bytes, hbytes⟩ := exists_of_reject_notMem hreject
    obtain ⟨⟨extraFlags, body⟩, hwrite, rfl⟩ := Option.map_eq_some_iff.mp hbytes
    simp only [SecondaryOrder.padded, updateSendCache, updateSendCacheBitmapV3, cacheBitmapV3Steps,
      ensureInt, hwrite, putBytes, Option.map_some, putBytes_putOrReject]
    rfl
  | cacheColorTable o =>
    refine ⟨_, _, _, _, rfl, fun hreject => ?_⟩
    unfold cacheColorTableSteps at hreject ⊢
    rcases hwrite : updateWriteCacheColorTableOrder o with _ | ⟨flags, body⟩
    · rw [hwrite] at hreject
      exact absurd List.mem_cons_self hreject
    · have hflags : flags = 0 := by
        unfold updateWriteCacheColorTableOrder at hwrite
        split at hwrite <;> cases hwrite
        rfl
      simp only [SecondaryOrder.padded, updateSendCache, updateSendCacheColorTable, ensureInt,
        hwrite, hflags, putBytes, List.append_nil]
      rfl
  | cacheGlyph o =>
    refine ⟨_, _, _, _, rfl, fun _ => ?_⟩
    simp only [SecondaryOrder.padded, updateSendCache, updateSendCacheGlyph, cacheGlyphSteps,
      ensureInt, putBytes, List.append_nil]
    rfl
  | cacheGlyphV2 o =>
    refine ⟨_, _, _, _, rfl, fun hreject => ?_⟩
    simp only [cacheGlyphV2Steps, ensureInt, List.mem_cons, List.mem_append, List.mem_flatMap,
      not_or, not_exists, not_and] at hreject
    have hglyphs := mapM_writeGlyphV2_padded hreject.2.1
    simp only [SecondaryOrder.padded, updateSendCache, updateSendCacheGlyphV2,
      updateWriteCacheGlyphV2Order, hglyphs, cacheGlyphV2Steps, ensureInt, putBytes,
      putBytes_append, putBytes_flatMap, List.append_nil, List.length_map]
    rfl
  | cacheBrush o =>
    refine ⟨_, _, _, _, rfl, fun hreject => ?_⟩
    unfold cacheBrushSteps at hreject ⊢
    rcases hformat : getBppBmf o.bpp with _ | iBitmapFormat <;> rw [hformat] at hreject
    · exact absurd (List.mem_cons_of_mem _ List.mem_cons_self) hreject
    · simp only [ensureInt, List.mem_cons, not_or] at hreject
      obtain ⟨data, hdata⟩ := exists_of_reject_notMem hreject.2.2
      simp only [SecondaryOrder.padded, updateSendCache, updateSendCacheBrush,
        updateWriteCacheBrushOrder, hformat, hdata, ensureInt, putBytes, putBytes_putOrReject,
        List.append_assoc]
      rfl

end Sender

section Update

variable {env : UpdateEnvironment} {u u' : RdpUpdate} {orderType extraFlags : Nat} {estimate : Int}
  {steps : List WriteStep}

lemma newUpdateStream_within : newUpdateStream.Within := by
  show 2 ≤ (List.replicate FASTPATH_MAX_PACKET_SIZE (0 : UInt8)).length
  rw [List.length_replicate]
  decide

lemma length_newUpdateStream : newUpdateStream.buffer.length = FASTPATH_MAX_PACKET_SIZE :=
  List.length_replicate

lemma updateBeginPaint_ready (env : UpdateEnvironment) (u : RdpUpdate) :
    (updateBeginPaint env u).2.Ready := by
  intro s hs
  unfold updateBeginPaint at hs
  dsimp only at hs
  split_ifs at hs
  · cases hs
    exact ⟨newUpdateStream_within, by rw [length_newUpdateStream]; decide⟩
  · unfold updateEndPaint at hs
    split at hs
    · rename_i hnone
      rw [hnone] at hs
      cases hs
    · cases hs

/-- The stream is ready whether or not it has been sent before the order. -/
lemma RdpUpdate.Ready.checkFlush (hu : u.Ready) (env : UpdateEnvironment) (size : Int) :
    (updateCheckFlush env u size).Ready := by
  unfold updateCheckFlush
  split
  · exact updateBeginPaint_ready env u
  · unfold updateFlush
    split_ifs
    · exact updateBeginPaint_ready env _
    · exact hu
    · exact hu

lemma length_secondaryHeader (orderType extraFlags length : Nat) :
    (secondaryHeader orderType extraFlags length).length = 6 := rfl

/-- A secondary order that has been sent: its bytes are behind those that were pending. -/
lemma sendOrder_secondary (hu : u.Ready)
    (h : sendOrder env (secondarySend orderType extraFlags estimate steps) u = some (true, u')) :
    ∃ s s', (updateCheckFlush env u (toInt32 (6 + estimate))).us = some s ∧ u'.us = some s' ∧
      s'.front = s.front ++ updateSendSecondary orderType extraFlags (putBytes steps) ∧
      .reject ∉ steps := by
  have hready := hu.checkFlush env (toInt32 (6 + estimate))
  obtain ⟨p, hp⟩ : ∃ p, p = secondarySend orderType extraFlags estimate steps := ⟨_, rfl⟩
  have hsize : p.size = toInt32 (6 + estimate) := by rw [hp]; rfl
  have hensured : p.ensured = some 6 := by rw [hp]; rfl
  have hlength : p.headerLength = 6 := by rw [hp]; rfl
  have hsteps : p.steps = steps := by rw [hp]; rfl
  have hheader : ∀ written n, p.header written n = secondaryHeader orderType extraFlags n := by
    rw [hp]
    intro written n
    rfl
  rw [← hp, sendOrder, hsize] at h
  rcases hus : (updateCheckFlush env u (toInt32 (6 + estimate))).us with _ | s <;> rw [hus] at h
  · rw [hp] at h
    cases h
  · obtain ⟨hwithin, hcapacity⟩ := hready s hus
    simp only [OrderSend.ensure, hensured] at h
    rcases hgrown : s.ensureRemainingCapacity env.realloc 6 with t | _ | _ <;> rw [hgrown] at h
    · obtain ⟨htwithin, htpos, htfront⟩ := hwithin.ensured hgrown
      have hroom : t.pos + 6 ≤ t.buffer.length := by
        rw [htpos]
        exact hwithin.room_of_ready (by rw [SSIZE_MAX] at hcapacity; omega) hgrown
      have hgap : (t.seek 6).front = s.front ++ (t.buffer.drop t.pos).take 6 := by
        rw [← htfront]
        exact List.take_add
      dsimp only at h
      rw [hsteps, hlength] at h
      rcases hrun : runSteps env.realloc steps (t.seek 6) with ⟨_ | _ | _, s'⟩ <;> rw [hrun] at h
      · dsimp only at h
        cases h
        obtain ⟨hs', hfront, hreject⟩ := runSteps_done (Within.seek hroom) hrun
        rw [hgap] at hfront
        have hpos := congrArg List.length hfront
        have hgapLength : ((t.buffer.drop t.pos).take 6).length = 6 := by
          rw [List.length_take, List.length_drop]
          omega
        simp only [List.length_append, length_front hs', length_front hwithin, hgapLength] at hpos
        have hfilled := length_secondaryHeader orderType extraFlags (6 + (putBytes steps).length)
        refine ⟨s, _, rfl, rfl, ?_, hreject⟩
        rw [hheader, show s'.pos - s.pos = 6 + (putBytes steps).length by omega,
          front_fill hs' hfront (length_front hwithin).symm (hgapLength.trans hfilled.symm),
          updateSendSecondary, List.append_assoc]
      · rw [hp] at h
        cases h
      · cases h
    · cases h
    · cases h

end Update

/-! ### The room in the stream -/

/-- The header and what the writer puts are within the capacity of the stream. -/
def OrderSend.StaysInside (p : OrderSend) (env : UpdateEnvironment) (u : RdpUpdate) : Prop :=
  ∀ s s', u.us = some s → p.ensure env s = .ready s' →
    s'.pos + p.headerLength ≤ s'.buffer.length ∧
      PutsInside env.realloc p.steps (s'.seek p.headerLength)

/-- The capacity that is ensured, for the header and for an estimate of the rest, has room for an
order of this size. -/
def RdpUpdate.HasRoom (u : RdpUpdate) (env : UpdateEnvironment) (estimate : Int) (size : Nat) :
    Prop :=
  ∀ s s' t, u.us = some s → s.ensureRemainingCapacity env.realloc 6 = .ready s' →
    (s'.seek 6).ensureRemainingCapacity env.realloc (sizeOfInt estimate) = .ready t →
    s.pos + size ≤ t.buffer.length

section Room

variable {env : UpdateEnvironment} {u : RdpUpdate} {estimate : Int} {size : Nat}

/-- A writer that ensures its estimate and then only puts bytes stays inside if there is room for
them. -/
lemma staysInside_iff (hu : u.Ready) {steps : List WriteStep} (hplain : ∀ step ∈ steps, step.Plain)
    (hreject : .reject ∉ steps) (orderType extraFlags : Nat) (size : Int) :
    (secondarySend orderType extraFlags size (ensureInt estimate :: steps)).StaysInside env u ↔
      u.HasRoom env estimate (6 + (putBytes steps).length) := by
  have hputs : ∀ s s' t, u.us = some s → s.ensureRemainingCapacity env.realloc 6 = .ready s' →
      (s'.seek 6).ensureRemainingCapacity env.realloc (sizeOfInt estimate) = .ready t →
      s'.pos + 6 ≤ s'.buffer.length ∧ (PutsInside env.realloc steps t ↔
        s.pos + (6 + (putBytes steps).length) ≤ t.buffer.length) := by
    intro s s' t hus hheader hbody
    obtain ⟨hwithin, hcapacity⟩ := hu s hus
    have hroom := hwithin.room_of_ready (by rw [SSIZE_MAX] at hcapacity; omega) hheader
    obtain ⟨-, hpos, -⟩ := hwithin.ensured hheader
    rw [← hpos] at hroom ⊢
    obtain ⟨htwithin, htpos, -⟩ := (Within.seek hroom).ensured hbody
    rw [putsInside_plain_iff hplain hreject htwithin, htpos, pos_seek, Nat.add_assoc]
    exact ⟨hroom, Iff.rfl⟩
  constructor
  · intro hinside s s' t hus hheader hbody
    obtain ⟨-, hall⟩ := hinside s s' hus hheader
    exact (hputs s s' t hus hheader hbody).2.mp (hall t hbody)
  · intro hroom s s' hus hheader
    obtain ⟨hwithin, hcapacity⟩ := hu s hus
    refine ⟨?_, fun t hbody => ?_⟩
    · obtain ⟨-, hpos, -⟩ := hwithin.ensured hheader
      rw [hpos]
      show s.pos + 6 ≤ s'.buffer.length
      exact hwithin.room_of_ready (by rw [SSIZE_MAX] at hcapacity; omega) hheader
    · exact (hputs s s' t hus hheader hbody).2.mpr (hroom s s' t hus hheader hbody)

/-- Where the estimate fits into the stream as it is, nothing grows. -/
lemma hasRoom_iff {s : WStream} (hus : u.us = some s)
    (hfits : s.pos + 6 + sizeOfInt estimate ≤ s.buffer.length) :
    u.HasRoom env estimate size ↔ s.pos + size ≤ s.buffer.length := by
  have hheader : s.ensureRemainingCapacity env.realloc 6 = .ready s :=
    ensureRemainingCapacity_of_room (by omega)
  have hbody : (s.seek 6).ensureRemainingCapacity env.realloc (sizeOfInt estimate) =
      .ready (s.seek 6) := ensureRemainingCapacity_of_room hfits
  constructor
  · intro hroom
    exact hroom s s (s.seek 6) hus hheader hbody
  · intro hroom s' s'' t hus' hheader' hbody'
    rw [hus] at hus'
    cases hus'
    rw [hheader] at hheader'
    cases hheader'
    rw [hbody] at hbody'
    cases hbody'
    exact hroom

end Room

/-! ### Orders that are received -/

/-- The length of a brush of 8 rows of 8 pixels. -/
def CacheBrushOrder.size (o : CacheBrushOrder) : Nat := 12 + 8 * brushScanline o.bpp

/-- The order fits into its header, and into the room that is ensured after `update_check_flush`. -/
def SecondaryOrder.FitsIn (env : UpdateEnvironment) (u : RdpUpdate) : SecondaryOrder → Prop
  | .cacheGlyph o => o.Fits ∧
    (updateCheckFlush env u (toInt32 (6 + updateApproximateCacheGlyphOrder o))).HasRoom env
      (updateApproximateCacheGlyphOrder o) o.size
  | .cacheGlyphV2 o => o.Fits ∧
    (updateCheckFlush env u (toInt32 (6 + updateApproximateCacheGlyphV2Order o))).HasRoom env
      (updateApproximateCacheGlyphV2Order o) o.size
  | .cacheBrush o => o.Fits ∧
    (updateCheckFlush env u (toInt32 (6 + updateApproximateCacheBrushOrder o))).HasRoom env
      (updateApproximateCacheBrushOrder o) o.size
  | _ => False

/-- The order that has been sent is within the capacity of the stream, and wherever the bytes that
have been added stand, the client accepts them and gets the content of the order. -/
structure SecondaryDelivered (settings : SecondarySettings) (callbacks : SecondaryCallbacks)
    (env : UpdateEnvironment) (order : SecondaryOrder) (u u' : RdpUpdate) : Prop where
  inside : (order.toServer.sender env u).StaysInside env
    (updateCheckFlush env u (order.toServer.sender env u).size)
  received : ∃ s s' bytes, (updateCheckFlush env u (order.toServer.sender env u).size).us = some s ∧
    u'.us = some s' ∧ s'.front = s.front ++ bytes ∧
    SecondaryRoundTrips settings callbacks bytes order

section Delivered

variable {settings : SecondarySettings} {callbacks : SecondaryCallbacks} {env : UpdateEnvironment}
  {u u' : RdpUpdate} {order : SecondaryOrder}

/-- Data of the length that is written need not be padded. -/
lemma padded_of_wellFormed (hwf : order.WellFormed) (noBitmapCompressionHeader : Bool) :
    order.padded noBitmapCompressionHeader = order := by
  have hglyph : ∀ {width : Nat} {g : GlyphDataV2}, g.WellFormed width → g.padded = g := by
    intro width g hg
    rw [GlyphDataV2.padded, pointerBytes, ← hg.aj, List.take_length, Nat.sub_self,
      List.replicate_zero, List.append_nil]
  cases order with
  | cacheBitmap o => exact absurd hwf id
  | cacheBitmapV2 o => exact absurd hwf id
  | cacheBitmapV3 o => exact absurd hwf id
  | cacheColorTable o => rfl
  | cacheBrush o => rfl
  | cacheGlyph o =>
    rw [SecondaryOrder.padded, List.map_congr_left fun g hg => hglyph (hwf g hg), List.map_id']
  | cacheGlyphV2 o =>
    rw [SecondaryOrder.padded, List.map_congr_left fun g hg => hglyph (hwf g hg), List.map_id']

/-- The bytes that have been added to the update are those of the order. -/
lemma send_toServer (hu : u.Ready) (hwf : order.WellFormed)
    (hsend : order.toServer.send env u = some (true, u')) :
    ∃ s s' bytes, (updateCheckFlush env u (order.toServer.sender env u).size).us = some s ∧
      u'.us = some s' ∧ s'.front = s.front ++ bytes ∧
      updateSendCache env.noBitmapCompressionHeader order = some bytes ∧
      .reject ∉ (order.toServer.sender env u).steps := by
  obtain ⟨orderType, extraFlags, estimate, steps, hsender, hbytes⟩ := sender_toServer env u order
  rw [ServerOrder.send, hsender] at hsend
  obtain ⟨s, s', hus, hus', hfront, hreject⟩ := sendOrder_secondary hu hsend
  have hsent := hbytes hreject
  rw [padded_of_wellFormed hwf] at hsent
  rw [hsender]
  exact ⟨s, s', _, hus, hus', hfront, hsent, hreject⟩

/-- An order whose writer ensures its estimate and then only puts bytes stays inside if there is room
for the bytes of the order. -/
lemma toServer_staysInside_iff {flushed : RdpUpdate} (hflushed : flushed.Ready)
    (hwf : order.WellFormed) {bytes : List UInt8}
    (hsent : updateSendCache env.noBitmapCompressionHeader order = some bytes) {estimate : Int}
    {steps : List WriteStep}
    (hsteps : (order.toServer.sender env u).steps = ensureInt estimate :: steps)
    (hplain : ∀ step ∈ steps, step.Plain)
    (hreject : .reject ∉ (order.toServer.sender env u).steps) :
    (order.toServer.sender env u).StaysInside env flushed ↔
      flushed.HasRoom env estimate bytes.length := by
  obtain ⟨orderType, extraFlags, size, all, hsender, hbytes⟩ := sender_toServer env u order
  rw [hsender] at hsteps hreject ⊢
  have hall : all = ensureInt estimate :: steps := hsteps
  have hwritten := hbytes hreject
  rw [padded_of_wellFormed hwf, hsent, Option.some.injEq, hall] at hwritten
  rw [hall] at hreject ⊢
  rw [staysInside_iff hflushed hplain (fun hmem => hreject (List.mem_cons_of_mem _ hmem)),
    hwritten, length_updateSendSecondary]
  rfl

lemma plain_putOrReject (xs : Option (List UInt8)) : ∀ step ∈ putOrReject xs, step.Plain := by
  intro step hstep
  cases xs <;> cases List.mem_singleton.mp hstep <;> trivial

lemma plain_glyphV2Steps (g : GlyphDataV2) : ∀ step ∈ glyphV2Steps g, step.Plain := by
  intro step hstep
  simp only [glyphV2Steps, List.mem_cons, List.mem_append, List.not_mem_nil, or_false] at hstep
  rcases hstep with rfl | hstep | hstep | hstep | hstep | rfl
  · trivial
  · exact plain_putOrReject _ step hstep
  · exact plain_putOrReject _ step hstep
  · exact plain_putOrReject _ step hstep
  · exact plain_putOrReject _ step hstep
  · trivial

lemma length_cacheGlyph_sent {o : CacheGlyphOrder} (hwf : ∀ g ∈ o.glyphData, g.WellFormed 16) :
    (updateSendCacheGlyph o).length = o.size := by
  rw [updateSendCacheGlyph, length_updateSendSecondary, length_updateWriteCacheGlyphOrder hwf]

lemma length_cacheGlyphV2_sent {o : CacheGlyphV2Order} (hwf : ∀ g ∈ o.glyphData, g.WellFormed 32)
    (hfits : o.Fits) {bytes : List UInt8} (hsent : updateSendCacheGlyphV2 o = some bytes) :
    bytes.length = o.size := by
  simp only [updateSendCacheGlyphV2, Option.bind_eq_bind, Option.bind_eq_some_iff,
    Option.some.injEq] at hsent
  obtain ⟨⟨extraFlags, body⟩, hwrite, rfl⟩ := hsent
  rw [length_updateSendSecondary, length_updateWriteCacheGlyphV2Order hwf hwrite hfits.glyphs]

lemma length_cacheBrush_sent {o : CacheBrushOrder} (hfits : o.Fits) {bytes : List UInt8}
    (hsent : updateSendCacheBrush o = some bytes) : bytes.length = o.size := by
  simp only [updateSendCacheBrush, updateWriteCacheBrushOrder, Option.bind_eq_bind,
    Option.bind_eq_some_iff, Option.some.injEq] at hsent
  obtain ⟨_, ⟨iBitmapFormat, hbmf, data, hdata, rfl⟩, rfl⟩ := hsent
  obtain ⟨-, -, hlength, -⟩ := gets_readBrushData hbmf hfits.cx hfits.cy hdata
  simp only [length_updateSendSecondary, bytesUInt8, List.length_append, List.length_cons,
    List.length_nil, hlength, CacheBrushOrder.size]
  omega

/-- An order is delivered if its bytes are received as they are sent and nothing is written outside
of the stream. -/
lemma secondaryDelivered_iff_staysInside (hclient : SecondaryAccepts settings callbacks)
    (hu : u.Ready) (hwf : order.WellFormed) (hlevel : order.LevelFits settings.glyphSupportLevel)
    (hsend : order.toServer.send env u = some (true, u')) :
    SecondaryDelivered settings callbacks env order u u' ↔
      order.Fits ∧ (order.toServer.sender env u).StaysInside env
        (updateCheckFlush env u (order.toServer.sender env u).size) := by
  obtain ⟨s, s', bytes, hus, hus', hfront, hsent, -⟩ := send_toServer hu hwf hsend
  rw [← secondaryRoundTrips_iff hclient _ hwf hlevel hsent]
  constructor
  · intro h
    obtain ⟨t, t', bytes', ht, ht', hfront', htrips⟩ := h.received
    rw [hus] at ht
    rw [hus'] at ht'
    cases ht
    cases ht'
    rw [hfront, List.append_cancel_left_eq] at hfront'
    exact ⟨hfront' ▸ htrips, h.inside⟩
  · intro h
    exact ⟨h.2, s, s', bytes, hus, hus', hfront, h.1⟩

lemma cacheGlyph_delivered_iff (hclient : SecondaryAccepts settings callbacks) (hu : u.Ready)
    {o : CacheGlyphOrder} (hwf : (SecondaryOrder.cacheGlyph o).WellFormed)
    (hlevel : (SecondaryOrder.cacheGlyph o).LevelFits settings.glyphSupportLevel)
    (hsend : (SecondaryOrder.cacheGlyph o).toServer.send env u = some (true, u')) :
    SecondaryDelivered settings callbacks env (.cacheGlyph o) u u' ↔
      (SecondaryOrder.cacheGlyph o).FitsIn env u := by
  obtain ⟨-, -, bytes, -, -, -, hsent, hreject⟩ := send_toServer hu hwf hsend
  rw [secondaryDelivered_iff_staysInside hclient hu hwf hlevel hsend]
  refine and_congr_right fun hfits => ?_
  rw [toServer_staysInside_iff (hu.checkFlush env _) hwf hsent rfl (by simp [WriteStep.Plain])
    hreject]
  cases hsent
  rw [length_cacheGlyph_sent hwf]
  simp only [SecondaryOrder.toServer, ServerOrder.sender, updateSendCacheGlyphOrder, secondarySend]

lemma cacheGlyphV2_delivered_iff (hclient : SecondaryAccepts settings callbacks) (hu : u.Ready)
    {o : CacheGlyphV2Order} (hwf : (SecondaryOrder.cacheGlyphV2 o).WellFormed)
    (hlevel : (SecondaryOrder.cacheGlyphV2 o).LevelFits settings.glyphSupportLevel)
    (hsend : (SecondaryOrder.cacheGlyphV2 o).toServer.send env u = some (true, u')) :
    SecondaryDelivered settings callbacks env (.cacheGlyphV2 o) u u' ↔
      (SecondaryOrder.cacheGlyphV2 o).FitsIn env u := by
  obtain ⟨-, -, bytes, -, -, -, hsent, hreject⟩ := send_toServer hu hwf hsend
  have hplain : ∀ step ∈ o.glyphData.flatMap glyphV2Steps ++
      [.put (writeUnicode o.extraFlags o.glyphData.length)], step.Plain := by
    intro step hstep
    rcases List.mem_append.mp hstep with hglyph | hunicode
    · obtain ⟨g, -, hg⟩ := List.mem_flatMap.mp hglyph
      exact plain_glyphV2Steps g step hg
    · cases List.mem_singleton.mp hunicode
      trivial
  rw [secondaryDelivered_iff_staysInside hclient hu hwf hlevel hsend]
  refine and_congr_right fun hfits => ?_
  rw [toServer_staysInside_iff (hu.checkFlush env _) hwf hsent rfl hplain hreject,
    length_cacheGlyphV2_sent hwf hfits hsent]
  simp only [SecondaryOrder.toServer, ServerOrder.sender, updateSendCacheGlyphV2Order,
    secondarySend]

lemma cacheBrush_delivered_iff (hclient : SecondaryAccepts settings callbacks) (hu : u.Ready)
    {o : CacheBrushOrder}
    (hsend : (SecondaryOrder.cacheBrush o).toServer.send env u = some (true, u')) :
    SecondaryDelivered settings callbacks env (.cacheBrush o) u u' ↔
      (SecondaryOrder.cacheBrush o).FitsIn env u := by
  have hwf : (SecondaryOrder.cacheBrush o).WellFormed := trivial
  obtain ⟨-, -, bytes, -, -, -, hsent, hreject⟩ := send_toServer hu hwf hsend
  rw [secondaryDelivered_iff_staysInside hclient hu hwf trivial hsend]
  refine and_congr_right fun hfits => ?_
  rw [toServer_staysInside_iff (hu.checkFlush env _) hwf hsent rfl ?_ hreject,
    length_cacheBrush_sent hfits hsent]
  · simp only [SecondaryOrder.toServer, ServerOrder.sender, updateSendCacheBrushOrder,
      secondarySend]
  · intro step hstep
    split at hstep
    · cases List.mem_singleton.mp hstep
      trivial
    · rcases List.mem_cons.mp hstep with rfl | hdata
      · trivial
      · exact plain_putOrReject _ step hdata

/-- A color table, glyphs or a brush that has been sent is within the capacity of the stream and is
received as it is sent, if and only if it fits into its header and into the room that is ensured. -/
theorem secondaryDelivered_iff (hclient : SecondaryAccepts settings callbacks) (hu : u.Ready)
    (hwf : order.WellFormed) (hlevel : order.LevelFits settings.glyphSupportLevel)
    (hsend : order.toServer.send env u = some (true, u')) :
    SecondaryDelivered settings callbacks env order u u' ↔ order.FitsIn env u := by
  cases order with
  | cacheBitmap o => exact absurd hwf id
  | cacheBitmapV2 o => exact absurd hwf id
  | cacheBitmapV3 o => exact absurd hwf id
  | cacheColorTable o =>
    rw [secondaryDelivered_iff_staysInside hclient hu hwf hlevel hsend]
    exact iff_of_false (fun h => h.1) id
  | cacheGlyph o => exact cacheGlyph_delivered_iff hclient hu hwf hlevel hsend
  | cacheGlyphV2 o => exact cacheGlyphV2_delivered_iff hclient hu hwf hlevel hsend
  | cacheBrush o => exact cacheBrush_delivered_iff hclient hu hsend

end Delivered

/-! ### An update that has just begun -/

lemma begunUpdate_ready : begunUpdate.Ready := by
  intro s hs
  cases hs
  exact ⟨newUpdateStream_within, by rw [length_newUpdateStream]; decide⟩

lemma updateCheckFlush_begunUpdate (size : Int) :
    updateCheckFlush serverEnvironment begunUpdate size = begunUpdate := by
  refine updateCheckFlush_of_not_flushes (by simp [begunUpdate]) ?_
  rintro ⟨s, hs, horders, hpos⟩
  exact absurd hpos (by decide)

/-- There is room for the estimate of an order, and what only puts bytes is sent. -/
lemma sendOrder_begunUpdate {estimate : Int} (hestimate : sizeOfInt estimate ≤ 16000)
    {steps : List WriteStep} (hplain : ∀ step ∈ steps, step.Plain) (hreject : .reject ∉ steps)
    (orderType extraFlags : Nat) : ∃ u', sendOrder serverEnvironment
      (secondarySend orderType extraFlags estimate (ensureInt estimate :: steps)) begunUpdate =
        some (true, u') := by
  have hlength : newUpdateStream.buffer.length = 16383 := length_newUpdateStream
  have hpos : newUpdateStream.pos = 2 := rfl
  have hheader : newUpdateStream.ensureRemainingCapacity serverEnvironment.realloc 6 =
      .ready newUpdateStream := ensureRemainingCapacity_of_room (by omega)
  have hbody : (newUpdateStream.seek 6).ensureRemainingCapacity serverEnvironment.realloc
      (sizeOfInt estimate) = .ready (newUpdateStream.seek 6) :=
    ensureRemainingCapacity_of_room (by
      show newUpdateStream.pos + 6 + sizeOfInt estimate ≤ newUpdateStream.buffer.length
      omega)
  obtain ⟨s', hrun⟩ := @runSteps_plain serverEnvironment.realloc (newUpdateStream.seek 6) steps
    hplain hreject
  have hsent : sendOrder serverEnvironment
      (secondarySend orderType extraFlags estimate (ensureInt estimate :: steps)) begunUpdate =
        some (true, (secondarySend orderType extraFlags estimate
          (ensureInt estimate :: steps)).complete begunUpdate newUpdateStream.pos true s') := by
    rw [sendOrder, updateCheckFlush_begunUpdate]
    simp only [begunUpdate, OrderSend.ensure, secondarySend, hheader, ensureInt, runSteps, hbody,
      hrun]
  exact ⟨_, hsent⟩

/-- One glyph of eight rows of eight pixels. -/
def oneGlyph : CacheGlyphOrder where
  cacheId := 1
  glyphData := [{ cacheIndex := 7, x := -1, y := 2, cx := 8, cy := 8, cb := 8,
                  aj := [1, 2, 3, 4, 5, 6, 7, 8] }]
  unicodeCharacters := none

/-- The glyph is received as it is sent. -/
theorem secondaryDelivered_oneGlyph : ∃ u',
    (SecondaryOrder.cacheGlyph oneGlyph).toServer.send serverEnvironment begunUpdate =
      some (true, u') ∧
    SecondaryDelivered secondaryClient secondaryCallbacks serverEnvironment (.cacheGlyph oneGlyph)
      begunUpdate u' := by
  obtain ⟨u', hsend⟩ := @sendOrder_begunUpdate (updateApproximateCacheGlyphOrder oneGlyph)
    (by decide) [.put (updateWriteCacheGlyphOrder oneGlyph 0).2] (by simp [WriteStep.Plain])
    (by simp) ORDER_TYPE_CACHE_GLYPH 0
  refine ⟨u', hsend, ?_⟩
  refine (@secondaryDelivered_iff _ _ _ _ _ (.cacheGlyph oneGlyph) secondaryClient_accepts
    begunUpdate_ready ?_ (.inr rfl) hsend).mpr ⟨⟨by decide, fun g hg => ?_, by decide, by decide⟩, ?_⟩
  · intro g hg
    cases List.mem_singleton.mp hg
    exact ⟨by decide, by decide, by decide⟩
  · cases List.mem_singleton.mp hg
    decide
  · have hlength : newUpdateStream.buffer.length = 16383 := length_newUpdateStream
    rw [updateCheckFlush_begunUpdate, hasRoom_iff rfl (by rw [hlength]; decide), hlength]
    decide

/-- The palette of the numbers from zero on. -/
def grayTable : CacheColorTableOrder where
  cacheIndex := 0
  numberColors := 256
  colorTable := Vector.ofFn fun i => i * 0x010101

/-- One glyph of 256 rows of 512 pixels. -/
def largeGlyph : CacheGlyphOrder where
  cacheId := 1
  glyphData := [{ cacheIndex := 7, x := 0, y := 0, cx := 512, cy := 256, cb := 16384,
                  aj := List.replicate 16384 0 }]
  unicodeCharacters := none

lemma largeGlyph_wellFormed : ∀ g ∈ largeGlyph.glyphData, g.WellFormed 16 := by
  intro g hg
  cases List.mem_singleton.mp hg
  exact ⟨by decide, by decide, List.length_replicate⟩

/-- The client does not get the palette. A large glyph is written behind the stream, although its
length fits into the header. -/
theorem secondaryDelivered_fails :
    (∃ u', (SecondaryOrder.cacheColorTable grayTable).toServer.send serverEnvironment begunUpdate =
        some (true, u') ∧
      ¬SecondaryDelivered secondaryClient secondaryCallbacks serverEnvironment
        (.cacheColorTable grayTable) begunUpdate u') ∧
    ∃ u', (SecondaryOrder.cacheGlyph largeGlyph).toServer.send serverEnvironment begunUpdate =
        some (true, u') ∧ largeGlyph.size = 16402 ∧
      ¬SecondaryDelivered secondaryClient secondaryCallbacks serverEnvironment
        (.cacheGlyph largeGlyph) begunUpdate u' := by
  refine ⟨?_, ?_⟩
  · obtain ⟨u', hsend⟩ := @sendOrder_begunUpdate (updateApproximateCacheColorTableOrder grayTable)
      (by decide) [.put (bytesUInt8 0 ++ (bytesUInt16 256 ++
        grayTable.colorTable.toList.flatMap updateWriteColorQuad))]
      (by simp [WriteStep.Plain]) (by simp) ORDER_TYPE_CACHE_COLOR_TABLE 0
    refine ⟨u', hsend, fun h => ?_⟩
    exact ((@secondaryDelivered_iff_staysInside _ _ _ _ _ (.cacheColorTable grayTable)
      secondaryClient_accepts begunUpdate_ready trivial trivial hsend).mp h).1
  · obtain ⟨u', hsend⟩ := @sendOrder_begunUpdate (updateApproximateCacheGlyphOrder largeGlyph)
      (by decide) [.put (updateWriteCacheGlyphOrder
        { largeGlyph with glyphData := largeGlyph.glyphData.map GlyphDataV2.padded } 0).2]
      (by simp [WriteStep.Plain]) (by simp) ORDER_TYPE_CACHE_GLYPH 0
    have hlength : newUpdateStream.buffer.length = 16383 := length_newUpdateStream
    have hsize : largeGlyph.size = 16402 := by decide
    refine ⟨u', hsend, hsize, fun h => ?_⟩
    have hfits := (cacheGlyph_delivered_iff secondaryClient_accepts begunUpdate_ready
      largeGlyph_wellFormed (.inr rfl) hsend).mp h
    have hroom := hfits.2
    rw [updateCheckFlush_begunUpdate, hasRoom_iff rfl (by rw [hlength]; decide), hlength,
      hsize] at hroom
    exact absurd hroom (by decide)

end FreeRdp
