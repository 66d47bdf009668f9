import FreeRdp.Core.Orders.Secondary

/-!
# Orders for the bitmap caches

What the client gets of a bitmap that the server sends for one of its caches. The bytes do not carry
all of an order: `carried` is what they do.
-/

namespace FreeRdp

open WStream

/-! ### Ranges -/

/-- The members are in their ranges. -/
structure CacheBitmapOrder.InRange (o : CacheBitmapOrder) : Prop where
  cacheId : o.cacheId < 2 ^ 8
  bitmapBpp : o.bitmapBpp ∈ [8, 16, 24, 32]
  bitmapWidth : o.bitmapWidth < 2 ^ 8
  bitmapHeight : o.bitmapHeight < 2 ^ 8
  bitmapLength : o.bitmapLength < 2 ^ 16
  cacheIndex : o.cacheIndex < 2 ^ 16
  data : o.bitmapDataStream.length = o.bitmapLength
  nonempty : o.bitmapLength ≠ 0

/-- The order without its compression header, which is not sent. -/
def CacheBitmapOrder.carried (o : CacheBitmapOrder) : CacheBitmapOrder :=
  { o with bitmapComprHdr := List.replicate 8 0 }

namespace CacheBitmapV2Order

/-- The length of the data. -/
def dataLength (o : CacheBitmapV2Order) : Nat :=
  if o.withComprHdr o.compressed then o.cbCompMainBodySize else o.bitmapLength

/-- The members are in their ranges. -/
structure InRange (o : CacheBitmapV2Order) : Prop where
  cacheId : o.cacheId < 2 ^ 2
  flags : o.flags < 2 ^ 9
  key1 : o.key1 < 2 ^ 32
  key2 : o.key2 < 2 ^ 32
  bitmapBpp : o.bitmapBpp ∈ [8, 16, 24, 32]
  bitmapWidth : o.bitmapWidth ≤ 0x7FFF
  bitmapHeight : o.bitmapHeight ≤ 0x7FFF
  sameHeight : o.flags &&& CBR2_HEIGHT_SAME_AS_WIDTH ≠ 0 → o.bitmapHeight = o.bitmapWidth
  bitmapLength : o.bitmapLength ≤ 0x3FFFFFFF
  cacheIndex : o.cacheIndex ≤ 0x7FFF
  cbCompFirstRowSize : o.cbCompFirstRowSize < 2 ^ 16
  cbCompMainBodySize : o.cbCompMainBodySize < 2 ^ 16
  cbScanWidth : o.cbScanWidth < 2 ^ 16
  cbUncompressedSize : o.cbUncompressedSize < 2 ^ 16
  data : o.bitmapDataStream.length = o.dataLength
  nonempty : o.dataLength ≠ 0

/-- The order without the members that are not sent. -/
def carried (o : CacheBitmapV2Order) : CacheBitmapV2Order :=
  let withKey := o.flags &&& CBR2_PERSISTENT_KEY_PRESENT ≠ 0
  let withHdr := o.withComprHdr o.compressed
  { o with
    key1 := if withKey then o.key1 else 0
    key2 := if withKey then o.key2 else 0
    bitmapLength := o.dataLength
    cacheIndex := if o.flags &&& CBR2_DO_NOT_CACHE ≠ 0 then BITMAP_CACHE_WAITING_LIST_INDEX
      else o.cacheIndex
    cbCompFirstRowSize := if withHdr then o.cbCompFirstRowSize else 0
    cbCompMainBodySize := if withHdr then o.cbCompMainBodySize else 0
    cbScanWidth := if withHdr then o.cbScanWidth else 0
    cbUncompressedSize := if withHdr then o.cbUncompressedSize else 0 }

end CacheBitmapV2Order

/-- The members are in their ranges. -/
structure CacheBitmapV3Order.InRange (o : CacheBitmapV3Order) : Prop where
  cacheId : o.cacheId < 2 ^ 2
  bpp : o.bpp ∈ [8, 16, 24, 32]
  flags : o.flags < 2 ^ 9
  cacheIndex : o.cacheIndex < 2 ^ 16
  key1 : o.key1 < 2 ^ 32
  key2 : o.key2 < 2 ^ 32
  dataBpp : 1 ≤ o.dataBpp ∧ o.dataBpp ≤ 32
  codecID : o.codecID < 2 ^ 8
  width : o.width < 2 ^ 16
  height : o.height < 2 ^ 16
  nonempty : o.data ≠ []

/-! ### The first revision -/

lemma reads_updateReadCacheBitmapOrder {o : CacheBitmapOrder} (h : o.InRange) :
    (updateReadCacheBitmapOrder o.compressed NO_BITMAP_COMPRESSION_HDR).Reads
      (updateWriteCacheBitmapOrder o o.compressed).2 o.carried := by
  have hbpp := h.bitmapBpp
  simp only [List.mem_cons, List.not_mem_nil, or_false] at hbpp
  have hflag : NO_BITMAP_COMPRESSION_HDR &&& NO_BITMAP_COMPRESSION_HDR ≠ 0 := by decide
  rw [updateWriteCacheBitmapOrder]
  simp only [hflag, and_false, if_false]
  rw [← h.data, List.take_length]
  refine Attempt.reads_need_bind (by simp [bytesUInt8, bytesUInt16]) ?_
  refine (Attempt.reads_takeUInt8 h.cacheId).bind ?_
  refine (Attempt.reads_takeUInt8 (by decide)).bind ?_
  refine (Attempt.reads_takeUInt8 h.bitmapWidth).bind ?_
  refine (Attempt.reads_takeUInt8 h.bitmapHeight).bind ?_
  refine (Attempt.reads_takeUInt8 (by omega)).bind ?_
  refine Attempt.reads_require_bind (by simp; omega) ?_
  refine (Attempt.reads_takeUInt16 (h.data ▸ h.bitmapLength)).bind ?_
  refine (Attempt.reads_takeUInt16 h.cacheIndex).bind ?_
  refine Attempt.Reads.bind (a := (List.replicate 8 0, o.bitmapDataStream.length)) ?_ ?_
  · rw [readBitmapComprHdr, if_neg fun hc => hflag hc.2]
    exact Attempt.reads_pure _
  refine Attempt.reads_require_bind (by simpa [h.data] using h.nonempty) ?_
  refine Attempt.reads_need_bind le_rfl ?_
  rw [← List.append_nil o.bitmapDataStream]
  refine (Attempt.reads_takeBytes (by simp)).bind ?_
  rw [List.append_nil, h.data]
  exact Attempt.reads_pure o.carried

/-! ### The second revision -/

lemma and_03 (v : Nat) : v &&& 0x03 = v % 4 := and_mask_eq_mod v 2

lemma and_1FF (v : Nat) : v &&& 0x1FF = v % 512 := and_mask_eq_mod v 9

/-- The parts of the flags of an order. -/
lemma extraFlags_parts {cacheId bitsPerPixelId flags : Nat} (hcacheId : cacheId < 2 ^ 2)
    (hid : bitsPerPixelId < 2 ^ 4) (hflags : flags < 2 ^ 9) :
    let extraFlags := flags * 2 ^ 7 + (bitsPerPixelId * 2 ^ 3 + cacheId)
    extraFlags < 2 ^ 16 ∧ extraFlags &&& 0x0003 = cacheId ∧
      (extraFlags &&& 0x0078) >>> 3 = bitsPerPixelId ∧ (extraFlags &&& 0xFF80) >>> 7 = flags := by
  intro extraFlags
  have hmask : ∀ m n k : Nat, (m &&& n) >>> k = m / 2 ^ k &&& n >>> k := fun m n k => by
    rw [Nat.shiftRight_and_distrib, Nat.shiftRight_eq_div_pow]
  refine ⟨by omega, ?_, ?_, ?_⟩
  · rw [and_03]
    omega
  · rw [hmask]
    exact (and_mask_eq_mod (extraFlags / 2 ^ 3) 4).trans (by omega)
  · rw [hmask]
    exact (and_mask_eq_mod (extraFlags / 2 ^ 7) 9).trans (by omega)

/-- The flags of an order as they are put together. -/
lemma extraFlags_eq {cacheId bitsPerPixelId flags : Nat} (hcacheId : cacheId < 2 ^ 2)
    (hid : bitsPerPixelId < 2 ^ 4) (hflags : flags < 2 ^ 9) :
    (cacheId &&& 0x0003) ||| bitsPerPixelId <<< 3 ||| (flags <<< 7 &&& 0xFF80) =
      flags * 2 ^ 7 + (bitsPerPixelId * 2 ^ 3 + cacheId) := by
  have hflags' : flags <<< 7 &&& 0xFF80 = flags <<< 7 := by
    have h : flags <<< 7 &&& 0x1FF <<< 7 = (flags &&& 0x1FF) <<< 7 := Nat.shiftLeft_and_distrib.symm
    rw [show (0xFF80 : Nat) = 0x1FF <<< 7 by decide, h, and_1FF,
      Nat.mod_eq_of_lt (by omega)]
  rw [hflags', and_03, Nat.mod_eq_of_lt (by omega), Nat.or_comm cacheId,
    shiftLeft_or_eq_add (i := 3) (by omega), Nat.or_comm,
    shiftLeft_or_eq_add (i := 7) (by omega)]

/-- A depth and its number in the flags. -/
lemma getCbr2Bpp_of_getBppBmf {bpp : Nat} (h : bpp ∈ [8, 16, 24, 32]) :
    ∃ id, getBppBmf bpp = some id ∧ id < 2 ^ 4 ∧ getCbr2Bpp id = some bpp := by
  simp only [List.mem_cons, List.not_mem_nil, or_false] at h
  obtain rfl | rfl | rfl | rfl := h
  · exact ⟨3, rfl, by decide, rfl⟩
  · exact ⟨4, rfl, by decide, rfl⟩
  · exact ⟨5, rfl, by decide, rfl⟩
  · exact ⟨6, rfl, by decide, rfl⟩

lemma updateWrite2byteUnsigned_of_le {value : Nat} (h : value ≤ 0x7FFF) :
    ∃ bytes, updateWrite2byteUnsigned value = some bytes := by
  rw [updateWrite2byteUnsigned, if_neg (by omega)]
  split
  · exact ⟨_, rfl⟩
  · exact ⟨_, rfl⟩

lemma updateWrite4byteUnsigned_of_le {value : Nat} (h : value ≤ 0x3FFFFFFF) :
    ∃ bytes, updateWrite4byteUnsigned value = some bytes := by
  rw [updateWrite4byteUnsigned, if_pos h]
  repeat' split
  all_goals exact ⟨_, rfl⟩

namespace CacheBitmapV2Order

variable {o : CacheBitmapV2Order}

/-- The key as it is written. -/
def keyBytes (o : CacheBitmapV2Order) : List UInt8 :=
  if o.flags &&& CBR2_PERSISTENT_KEY_PRESENT ≠ 0 then bytesUInt32 o.key1 ++ bytesUInt32 o.key2 else []

lemma reads_key (h : o.InRange) :
    (readPersistentKey o.flags).Reads o.keyBytes (o.carried.key1, o.carried.key2) := by
  unfold readPersistentKey keyBytes carried
  by_cases hkey : o.flags &&& CBR2_PERSISTENT_KEY_PRESENT ≠ 0
  · simp only [if_pos hkey]
    refine Attempt.reads_need_bind (by simp [bytesUInt32]) ?_
    rw [← List.append_nil (bytesUInt32 o.key2)]
    refine (Attempt.reads_takeUInt32 h.key1).bind ((Attempt.reads_takeUInt32 h.key2).bind ?_)
    exact Attempt.reads_pure _
  · simp only [if_neg hkey]
    exact Attempt.reads_pure _

/-- The width and the height can be written, and are read back. -/
lemma reads_size (h : o.InRange) : ∃ bytes, writeBitmapSize o = some bytes ∧
    (readBitmapSize o.flags).Reads bytes (o.bitmapWidth, o.bitmapHeight) := by
  obtain ⟨width, hwidth⟩ := updateWrite2byteUnsigned_of_le h.bitmapWidth
  obtain ⟨height, hheight⟩ := updateWrite2byteUnsigned_of_le h.bitmapHeight
  have hreadsWidth := (reads_updateRead2byteUnsigned 0 hwidth).toAttempt
  have hreadsHeight := (reads_updateRead2byteUnsigned 0 hheight).toAttempt
  unfold writeBitmapSize readBitmapSize
  by_cases hsame : o.flags &&& CBR2_HEIGHT_SAME_AS_WIDTH ≠ 0
  · simp only [if_pos hsame]
    refine ⟨width, hwidth, ?_⟩
    rw [← List.append_nil width, h.sameHeight hsame]
    exact hreadsWidth.bind (Attempt.reads_pure _)
  · simp only [if_neg hsame]
    refine ⟨width ++ height, by rw [hwidth, hheight]; rfl, ?_⟩
    rw [← List.append_nil height]
    exact hreadsWidth.bind (hreadsHeight.bind (Attempt.reads_pure _))

/-- The compression header as it is written. -/
def comprHdrBytes (o : CacheBitmapV2Order) : List UInt8 :=
  if o.withComprHdr o.compressed then
    bytesUInt16 o.cbCompFirstRowSize ++ (bytesUInt16 o.cbCompMainBodySize ++
      (bytesUInt16 o.cbScanWidth ++ bytesUInt16 o.cbUncompressedSize)) else []

lemma reads_comprHdr (h : o.InRange) :
    (readBitmapComprSizes o.compressed o.flags o.bitmapLength).Reads o.comprHdrBytes
      (⟨o.carried.cbCompFirstRowSize, o.carried.cbCompMainBodySize, o.carried.cbScanWidth,
        o.carried.cbUncompressedSize⟩, o.dataLength) := by
  have hiff : o.compressed = true ∧ o.flags &&& CBR2_NO_BITMAP_COMPRESSION_HDR = 0 ↔
      o.withComprHdr o.compressed = true := by
    simp [withComprHdr]
  unfold readBitmapComprSizes comprHdrBytes carried dataLength
  simp only [hiff]
  by_cases hhdr : o.withComprHdr o.compressed = true
  · simp only [if_pos hhdr]
    refine Attempt.reads_need_bind (by simp [bytesUInt16]) ?_
    rw [← List.append_nil (bytesUInt16 o.cbUncompressedSize)]
    refine (Attempt.reads_takeUInt16 h.cbCompFirstRowSize).bind ?_
    refine (Attempt.reads_takeUInt16 h.cbCompMainBodySize).bind ?_
    refine (Attempt.reads_takeUInt16 h.cbScanWidth).bind ?_
    refine (Attempt.reads_takeUInt16 h.cbUncompressedSize).bind ?_
    exact Attempt.reads_pure _
  · simp only [if_neg hhdr]
    exact Attempt.reads_pure _

/-- The order can be written, with flags that the client takes apart, and is read back. -/
lemma reads_updateReadCacheBitmapV2Order (h : o.InRange) : ∃ extraFlags bytes,
    updateWriteCacheBitmapV2Order o o.compressed =
      some ({ o with cacheIndex := o.carried.cacheIndex, bitmapLength := o.dataLength },
        extraFlags, bytes) ∧ extraFlags < 2 ^ 16 ∧
      (updateReadCacheBitmapV2Order o.compressed extraFlags).Reads bytes o.carried := by
  obtain ⟨id, hbmf, hid, hbpp⟩ := getCbr2Bpp_of_getBppBmf h.bitmapBpp
  obtain ⟨hlt, hcacheId, hdepth, hflags⟩ := extraFlags_parts h.cacheId hid h.flags
  obtain ⟨size, hsize, hreadsSize⟩ := reads_size h
  obtain ⟨length, hlength⟩ := updateWrite4byteUnsigned_of_le h.bitmapLength
  obtain ⟨index, hindex⟩ : ∃ bytes, updateWrite2byteUnsigned
      (if o.flags &&& CBR2_DO_NOT_CACHE ≠ 0 then BITMAP_CACHE_WAITING_LIST_INDEX
        else o.cacheIndex) = some bytes := by
    refine updateWrite2byteUnsigned_of_le ?_
    split
    · decide
    · exact h.cacheIndex
  have hdata : o.bitmapDataStream.take o.dataLength = o.bitmapDataStream := by
    rw [← h.data, List.take_length]
  refine ⟨o.flags * 2 ^ 7 + (id * 2 ^ 3 + o.cacheId), o.keyBytes ++ (size ++ (length ++ (index ++
    (o.comprHdrBytes ++ o.bitmapDataStream)))), ?_, hlt, ?_⟩
  · rw [updateWriteCacheBitmapV2Order, hbmf, hsize, hlength]
    dsimp only
    rw [hindex]
    simp only [Option.bind_eq_bind, Option.bind_some, extraFlags_eq h.cacheId hid h.flags]
    exact congrArg (fun d => some (_, _, o.keyBytes ++ (size ++ (length ++ (index ++
      (o.comprHdrBytes ++ d)))))) hdata
  · unfold updateReadCacheBitmapV2Order
    rw [hcacheId, hdepth, hflags, hbpp]
    refine (reads_key h).bind (hreadsSize.bind ((reads_updateRead4byteUnsigned hlength).bind ?_))
    refine (reads_updateRead2byteUnsigned 0 hindex).toAttempt.bind ((reads_comprHdr h).bind ?_)
    refine Attempt.reads_require_bind (by simpa using h.nonempty) ?_
    refine Attempt.reads_need_bind h.data.ge ?_
    rw [← List.append_nil o.bitmapDataStream]
    refine (Attempt.reads_takeBytes (by simpa using h.data)).bind ?_
    have hindex' : (if o.flags &&& CBR2_DO_NOT_CACHE ≠ 0 then BITMAP_CACHE_WAITING_LIST_INDEX
        else if o.flags &&& CBR2_DO_NOT_CACHE ≠ 0 then BITMAP_CACHE_WAITING_LIST_INDEX
        else o.cacheIndex) = o.carried.cacheIndex := by
      simp only [carried]
      split_ifs
      · rfl
      · rfl
    rw [hindex']
    exact Attempt.reads_pure o.carried

end CacheBitmapV2Order

/-! ### The third revision -/

lemma extraFlags_eq' {cacheId bitsPerPixelId flags : Nat} (hcacheId : cacheId < 2 ^ 2)
    (hid : bitsPerPixelId < 2 ^ 4) (hflags : flags < 2 ^ 9) :
    (cacheId &&& 0x0003) ||| (flags <<< 7 &&& 0xFF80) ||| (bitsPerPixelId <<< 3 &&& 0x0078) =
      flags * 2 ^ 7 + (bitsPerPixelId * 2 ^ 3 + cacheId) := by
  have hid' : bitsPerPixelId <<< 3 &&& 0x0078 = bitsPerPixelId <<< 3 := by
    have h : bitsPerPixelId <<< 3 &&& 0xF <<< 3 = (bitsPerPixelId &&& 0xF) <<< 3 :=
      Nat.shiftLeft_and_distrib.symm
    have hmod : bitsPerPixelId &&& 0xF = bitsPerPixelId % 16 := and_mask_eq_mod bitsPerPixelId 4
    rw [show (0x0078 : Nat) = 0xF <<< 3 by decide, h, hmod, Nat.mod_eq_of_lt (by omega)]
  rw [hid', Nat.or_right_comm, extraFlags_eq hcacheId hid hflags]

/-- The order can be written, with flags that the client takes apart, and is read back. -/
lemma reads_updateReadCacheBitmapV3Order {o : CacheBitmapV3Order} (h : o.InRange) :
    ∃ extraFlags bytes, updateWriteCacheBitmapV3Order o = some (extraFlags, bytes) ∧
      extraFlags < 2 ^ 16 ∧ o.data.length ≤ bytes.length ∧ (o.data.length < 2 ^ 32 →
        (updateReadCacheBitmapV3Order extraFlags).Reads bytes o) := by
  obtain ⟨id, hbmf, hid, hbpp⟩ := getCbr2Bpp_of_getBppBmf h.bpp
  obtain ⟨hlt, hcacheId, hdepth, hflags⟩ := extraFlags_parts h.cacheId hid h.flags
  rw [updateWriteCacheBitmapV3Order, hbmf]
  simp only [Option.bind_eq_bind, Option.bind_some, extraFlags_eq' h.cacheId hid h.flags]
  refine ⟨_, _, rfl, hlt, ?_, fun hlength => ?_⟩
  · simp only [List.length_append]
    omega
  · unfold updateReadCacheBitmapV3Order
    rw [hcacheId, hdepth, hflags, hbpp]
    refine Attempt.reads_need_bind (by simp [bytesUInt8, bytesUInt16, bytesUInt32]) ?_
    refine (Attempt.reads_takeUInt16 h.cacheIndex).bind ?_
    refine (Attempt.reads_takeUInt32 h.key1).bind ?_
    refine (Attempt.reads_takeUInt32 h.key2).bind ?_
    refine (Attempt.reads_takeUInt8 (lt_of_le_of_lt h.dataBpp.2 (by decide))).bind ?_
    refine Attempt.reads_require_bind (by simpa using h.dataBpp) ?_
    refine (Attempt.reads_takeUInt8 (by decide)).bind ?_
    refine (Attempt.reads_takeUInt8 (by decide)).bind ?_
    refine (Attempt.reads_takeUInt8 h.codecID).bind ?_
    refine (Attempt.reads_takeUInt16 h.width).bind ?_
    refine (Attempt.reads_takeUInt16 h.height).bind ?_
    refine (Attempt.reads_takeUInt32 hlength).bind ?_
    refine Attempt.reads_require_bind (by simpa using h.nonempty) ?_
    refine Attempt.reads_need_bind le_rfl ?_
    rw [← List.append_nil o.data]
    refine (Attempt.reads_takeBytes (by simp)).bind ?_
    exact Attempt.reads_pure o

/-! ### What the client gets -/

/-- A bitmap with members in their ranges. -/
def SecondaryOrder.BitmapInRange (noBitmapCompressionHeader : Bool) : SecondaryOrder → Prop
  | .cacheBitmap o => o.InRange
  | .cacheBitmapV2 o => (o.withSettings noBitmapCompressionHeader).InRange
  | .cacheBitmapV3 o => o.InRange
  | _ => False

/-- What the client gets of a bitmap. -/
def SecondaryOrder.carried (noBitmapCompressionHeader : Bool) : SecondaryOrder → SecondaryOrder
  | .cacheBitmap o => .cacheBitmap o.carried
  | .cacheBitmapV2 o => .cacheBitmapV2 (o.withSettings noBitmapCompressionHeader).carried
  | o => o

section Client

variable {settings : SecondarySettings} {callbacks : SecondaryCallbacks}

lemma cacheBitmap_received (hclient : SecondaryAccepts settings callbacks) {o : CacheBitmapOrder}
    (h : o.InRange) (hmin : 13 ≤ (updateSendCacheBitmap o).length)
    (hmax : (updateSendCacheBitmap o).length < 2 ^ 16 + 13) :
    SecondaryReceives settings callbacks (updateSendCacheBitmap o) (.cacheBitmap o.carried) := by
  have hreads := (reads_updateReadCacheBitmapOrder h).map SecondaryOrder.cacheBitmap
  simp only [updateSendCacheBitmap, length_updateSendSecondary] at hmin hmax ⊢
  refine @secondaryReceives_of_reads _ _ _ _ _ _
    (do pure (.cacheBitmap (← updateReadCacheBitmapOrder o.compressed NO_BITMAP_COMPRESSION_HDR)))
    ?_ ?_ hclient ?_ (by omega) (by omega) hreads
  · exact (by decide : NO_BITMAP_COMPRESSION_HDR < 2 ^ 16)
  · cases o.compressed <;> rfl
  · cases o.compressed <;> decide

lemma cacheBitmapV2_received (hclient : SecondaryAccepts settings callbacks)
    (noBitmapCompressionHeader : Bool) {o : CacheBitmapV2Order}
    (h : (o.withSettings noBitmapCompressionHeader).InRange) :
    ∃ o' bytes, updateSendCacheBitmapV2 noBitmapCompressionHeader o = some (o', bytes) ∧
      (13 ≤ bytes.length → bytes.length < 2 ^ 16 + 13 →
        SecondaryReceives settings callbacks bytes
          (.cacheBitmapV2 (o.withSettings noBitmapCompressionHeader).carried)) := by
  obtain ⟨extraFlags, bytes, hwrite, hflags, hreads⟩ :=
    CacheBitmapV2Order.reads_updateReadCacheBitmapV2Order h
  generalize hset : o.withSettings noBitmapCompressionHeader = o' at *
  refine ⟨_, _, by rw [updateSendCacheBitmapV2, hset, hwrite]; rfl, fun hmin hmax => ?_⟩
  rw [length_updateSendSecondary] at hmin hmax
  refine @secondaryReceives_of_reads _ _ _ _ _ _
    (do pure (.cacheBitmapV2 (← updateReadCacheBitmapV2Order o'.compressed extraFlags)))
    hflags ?_ hclient ?_ (by omega) (by omega) (hreads.map SecondaryOrder.cacheBitmapV2)
  · cases o'.compressed <;> rfl
  · cases o'.compressed <;> decide

lemma cacheBitmapV3_received (hclient : SecondaryAccepts settings callbacks)
    {o : CacheBitmapV3Order} (h : o.InRange) : ∃ bytes, updateSendCacheBitmapV3 o = some bytes ∧
      (13 ≤ bytes.length → bytes.length < 2 ^ 16 + 13 →
        SecondaryReceives settings callbacks bytes (.cacheBitmapV3 o)) := by
  obtain ⟨extraFlags, bytes, hwrite, hflags, hlength, hreads⟩ :=
    reads_updateReadCacheBitmapV3Order h
  refine ⟨_, by rw [updateSendCacheBitmapV3, hwrite]; rfl, fun hmin hmax => ?_⟩
  rw [length_updateSendSecondary] at hmin hmax
  exact secondaryReceives_of_reads hflags rfl hclient (by decide) (by omega) (by omega)
    ((hreads (by omega)).map SecondaryOrder.cacheBitmapV3)

/-- A bitmap for a cache with members in their ranges is sent, and the client gets what the bytes
carry of it, if its length fits into the header. -/
theorem cacheBitmap_recovers (hclient : SecondaryAccepts settings callbacks)
    (noBitmapCompressionHeader : Bool) (order : SecondaryOrder)
    (h : order.BitmapInRange noBitmapCompressionHeader) :
    ∃ bytes, updateSendCache noBitmapCompressionHeader order = some bytes ∧
      (13 ≤ bytes.length → bytes.length < 2 ^ 16 + 13 →
        SecondaryReceives settings callbacks bytes (order.carried noBitmapCompressionHeader)) := by
  cases order with
  | cacheBitmap o => exact ⟨_, rfl, cacheBitmap_received hclient h⟩
  | cacheBitmapV2 o =>
    obtain ⟨o', bytes, hsend, hreceived⟩ :=
      cacheBitmapV2_received hclient noBitmapCompressionHeader h
    exact ⟨bytes, by rw [updateSendCache, hsend]; rfl, hreceived⟩
  | cacheBitmapV3 o => exact cacheBitmapV3_received hclient h
  | cacheColorTable o => exact absurd h id
  | cacheGlyph o => exact absurd h id
  | cacheGlyphV2 o => exact absurd h id
  | cacheBrush o => exact absurd h id

end Client

/-- A client that has all the orders. -/
def secondaryClient : SecondarySettings where
  orderSupport _ := true
  allowUnanouncedOrdersFromServer := true
  bitmapCacheEnabled := true
  bitmapCacheV3Enabled := true
  glyphSupportLevel := GLYPH_SUPPORT_FULL

/-- Callbacks that always succeed. -/
def secondaryCallbacks : SecondaryCallbacks where
  cacheOrderInfo _ _ _ := true
  cache _ := true

lemma secondaryClient_accepts : SecondaryAccepts secondaryClient secondaryCallbacks where
  supported := by decide
  cacheOrderInfo _ _ _ := rfl
  cache _ := rfl

/-- A compressed bitmap of one pixel with a compression header. -/
def comprHdrBitmap : CacheBitmapOrder where
  cacheId := 0
  bitmapBpp := 8
  bitmapWidth := 1
  bitmapHeight := 1
  bitmapLength := 4
  cacheIndex := 5
  compressed := true
  bitmapComprHdr := [0, 0, 4, 0, 4, 0, 4, 0]
  bitmapDataStream := [1, 2, 3, 4]

lemma comprHdrBitmap_inRange : comprHdrBitmap.InRange := by
  constructor <;> decide

theorem cacheBitmap_recovers_comprHdrBitmap :
    13 ≤ (updateSendCacheBitmap comprHdrBitmap).length ∧
      SecondaryReceives secondaryClient secondaryCallbacks (updateSendCacheBitmap comprHdrBitmap)
        (.cacheBitmap comprHdrBitmap.carried) := by
  obtain ⟨bytes, hsend, hreceives⟩ := cacheBitmap_recovers secondaryClient_accepts false
    (.cacheBitmap comprHdrBitmap) comprHdrBitmap_inRange
  cases hsend
  exact ⟨by decide, hreceives (by decide) (by decide)⟩

/-- The client does not get the compression header. -/
theorem cacheBitmap_drops_comprHdr : comprHdrBitmap.InRange ∧
    (updateSendCacheBitmap comprHdrBitmap).length = 19 ∧
    ¬SecondaryReceives secondaryClient secondaryCallbacks (updateSendCacheBitmap comprHdrBitmap)
      (.cacheBitmap comprHdrBitmap) := by
  refine ⟨comprHdrBitmap_inRange, by decide, fun h => ?_⟩
  have hreceived := h (WStream.ofBytes (updateSendCacheBitmap comprHdrBitmap)) [] (by simp)
  revert hreceived
  decide

end FreeRdp
