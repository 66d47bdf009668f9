import FreeRdp.Winpr.Writing
import FreeRdp.Core.Orders.Secondary

/-!
# Writing orders

The functions `update_approximate_*` and `update_write_*` of `orders.c`: how much capacity a writer
ensures, and what it puts into the update. Data behind a pointer is read as far as the order says;
where there is less of it, zeros stand for what is read.
-/

namespace FreeRdp

/-- `Stream_Write` of bytes behind a pointer. -/
def pointerBytes (data : List UInt8) (n : Nat) : List UInt8 :=
  data.take n ++ List.replicate (n - data.length) 0

/-- `Stream_EnsureRemainingCapacity` for an estimate, an `int`. -/
def ensureInt (estimate : Int) : WriteStep := .ensure (sizeOfInt estimate)

/-- What a writer puts that may give up instead. -/
def putOrReject : Option (List UInt8) → List WriteStep
  | some bytes => [.put bytes]
  | none => [.reject]

/-- The flags of the first `n` fields. -/
def orderFields (n : Nat) : Nat := 2 ^ n - 1

/-! ### Primary orders -/

/-- `update_write_coord`. -/
def updateWriteCoord (coord : Int) : List UInt8 := bytesInt16 coord

/-- `update_write_color`. -/
def updateWriteColor (color : Nat) : List UInt8 :=
  bytesUInt8 (color &&& 0xFF) ++ (bytesUInt8 ((color >>> 8) &&& 0xFF) ++
    bytesUInt8 ((color >>> 16) &&& 0xFF))

/-- The hatch and the pattern of a brush; the last row of the pattern becomes the hatch. -/
def writeBrushPattern (brush : Brush) (fieldFlags : Nat) : Brush × List UInt8 :=
  let hatch := if orderFieldFlagIsSet fieldFlags 4 then bytesUInt8 brush.hatch else []
  if orderFieldFlagIsSet fieldFlags 5 then
    ({ brush with data := true, p8x8 := brush.p8x8.set 0 (UInt8.ofNat brush.hatch) },
      hatch ++ brush.p8x8.toList.tail.reverse)
  else (brush, hatch)

/-- `update_write_brush`: the brush as it is left, and the bytes. A cached brush of a style that is
not valid has neither hatch nor pattern. -/
def updateWriteBrush (brush : Brush) (fieldFlags : Nat) : Brush × List UInt8 :=
  let x := if orderFieldFlagIsSet fieldFlags 1 then bytesUInt8 brush.x else []
  let y := if orderFieldFlagIsSet fieldFlags 2 then bytesUInt8 brush.y else []
  let style := if orderFieldFlagIsSet fieldFlags 3 then bytesUInt8 brush.style else []
  let head := x ++ (y ++ style)
  if brush.style &&& CACHED_BRUSH ≠ 0 then
    match getBmfBpp brush.style with
    | none => ({ brush with hatch := brush.index, bpp := 0 }, head)
    | some bpp =>
      let (brush, tail) := writeBrushPattern { brush with hatch := brush.index, bpp := bpp }
        fieldFlags
      (brush, head ++ tail)
  else
    let (brush, tail) := writeBrushPattern brush fieldFlags
    (brush, head ++ tail)

/-- `update_approximate_dstblt_order`. -/
def updateApproximateDstbltOrder (_ : DstbltOrder) : Int := 32

/-- `update_write_dstblt_order`. -/
def updateWriteDstbltOrder (o : DstbltOrder) : List WriteStep :=
  [ensureInt (updateApproximateDstbltOrder o),
    .put (updateWriteCoord o.nLeftRect ++ (updateWriteCoord o.nTopRect ++
      (updateWriteCoord o.nWidth ++ (updateWriteCoord o.nHeight ++ bytesUInt8 o.bRop))))]

/-- `update_approximate_patblt_order`. -/
def updateApproximatePatbltOrder (_ : PatbltOrder) : Int := 32

/-- `update_write_patblt_order`. What the writer of the brush returns is ignored. -/
def updateWritePatbltOrder (o : PatbltOrder) : List WriteStep :=
  [ensureInt (updateApproximatePatbltOrder o),
    .put (updateWriteCoord o.nLeftRect ++ (updateWriteCoord o.nTopRect ++
      (updateWriteCoord o.nWidth ++ (updateWriteCoord o.nHeight ++ (bytesUInt8 o.bRop ++
        (updateWriteColor o.backColor ++ (updateWriteColor o.foreColor ++
          (updateWriteBrush o.brush (orderFields 12 >>> 7)).2)))))))]

/-- `update_approximate_scrblt_order`. -/
def updateApproximateScrbltOrder (_ : ScrbltOrder) : Int := 32

/-- `update_write_scrblt_order`. -/
def updateWriteScrbltOrder (o : ScrbltOrder) : List WriteStep :=
  [ensureInt (updateApproximateScrbltOrder o),
    .put (updateWriteCoord o.nLeftRect ++ (updateWriteCoord o.nTopRect ++
      (updateWriteCoord o.nWidth ++ (updateWriteCoord o.nHeight ++ (bytesUInt8 o.bRop ++
        (updateWriteCoord o.nXSrc ++ updateWriteCoord o.nYSrc))))))]

/-- `update_approximate_opaque_rect_order`. -/
def updateApproximateOpaqueRectOrder (_ : OpaqueRectOrder) : Int := 32

/-- `update_write_opaque_rect_order`. -/
def updateWriteOpaqueRectOrder (o : OpaqueRectOrder) : List WriteStep :=
  [ensureInt (updateApproximateOpaqueRectOrder o),
    .put (updateWriteCoord o.nLeftRect ++ (updateWriteCoord o.nTopRect ++
      (updateWriteCoord o.nWidth ++ (updateWriteCoord o.nHeight ++
        (bytesUInt8 (o.color &&& 0x000000FF) ++ (bytesUInt8 ((o.color &&& 0x0000FF00) >>> 8) ++
          bytesUInt8 ((o.color &&& 0x00FF0000) >>> 16)))))))]

/-- `update_approximate_line_to_order`. -/
def updateApproximateLineToOrder (_ : LineToOrder) : Int := 32

/-- `update_write_line_to_order`. -/
def updateWriteLineToOrder (o : LineToOrder) : List WriteStep :=
  [ensureInt (updateApproximateLineToOrder o),
    .put (bytesUInt16 o.backMode ++ (updateWriteCoord o.nXStart ++ (updateWriteCoord o.nYStart ++
      (updateWriteCoord o.nXEnd ++ (updateWriteCoord o.nYEnd ++ (updateWriteColor o.backColor ++
        (bytesUInt8 o.bRop2 ++ (bytesUInt8 o.penStyle ++ (bytesUInt8 o.penWidth ++
          updateWriteColor o.penColor)))))))))]

/-- `update_approximate_memblt_order`. -/
def updateApproximateMembltOrder (_ : MembltOrder) : Int := 64

/-- `update_write_memblt_order`. -/
def updateWriteMembltOrder (o : MembltOrder) : List WriteStep :=
  [ensureInt (updateApproximateMembltOrder o),
    .put (bytesUInt16 ((o.cacheId &&& 0xFF) ||| (o.colorIndex &&& 0xFF) <<< 8) ++
      (updateWriteCoord o.nLeftRect ++ (updateWriteCoord o.nTopRect ++ (updateWriteCoord o.nWidth ++
        (updateWriteCoord o.nHeight ++ (bytesUInt8 o.bRop ++ (updateWriteCoord o.nXSrc ++
          (updateWriteCoord o.nYSrc ++ bytesUInt16 o.cacheIndex))))))))]

/-- `update_approximate_glyph_index_order`. -/
def updateApproximateGlyphIndexOrder (_ : GlyphIndexOrder) : Int := 64

/-- `update_write_glyph_index_order`. What the writer of the brush returns is ignored. -/
def updateWriteGlyphIndexOrder (o : GlyphIndexOrder) : List WriteStep :=
  [ensureInt (updateApproximateGlyphIndexOrder o),
    .put (bytesUInt8 o.cacheId ++ (bytesUInt8 o.flAccel ++ (bytesUInt8 o.ulCharInc ++
      (bytesUInt8 o.fOpRedundant ++ (updateWriteColor o.backColor ++ (updateWriteColor o.foreColor ++
        (bytesInt16 o.bkLeft ++ (bytesInt16 o.bkTop ++ (bytesInt16 o.bkRight ++
          (bytesInt16 o.bkBottom ++ (bytesInt16 o.opLeft ++ (bytesInt16 o.opTop ++
            (bytesInt16 o.opRight ++ (bytesInt16 o.opBottom ++
              ((updateWriteBrush o.brush (orderFields 19 >>> 14)).2 ++ (bytesInt16 o.x ++
                (bytesInt16 o.y ++ (bytesUInt8 o.cbData ++
                  pointerBytes o.data o.cbData))))))))))))))))))]

/-! ### Secondary orders -/

/-- `update_approximate_cache_bitmap_order`. -/
def updateApproximateCacheBitmapOrder (o : CacheBitmapOrder) : Int := toInt32 (64 + o.bitmapLength)

/-- The steps of `update_write_cache_bitmap_order`. -/
def cacheBitmapSteps (o : CacheBitmapOrder) : List WriteStep :=
  [ensureInt (updateApproximateCacheBitmapOrder o),
    .put (updateWriteCacheBitmapOrder
      { o with bitmapDataStream := pointerBytes o.bitmapDataStream o.bitmapLength } o.compressed).2]

/-- `update_approximate_cache_bitmap_v2_order`. -/
def updateApproximateCacheBitmapV2Order (o : CacheBitmapV2Order) : Int :=
  toInt32 (64 + o.bitmapLength)

/-- The steps of `update_write_cache_bitmap_v2_order`. More capacity is ensured for the data, whose
length is another one where there is a compression header. -/
def cacheBitmapV2Steps (o : CacheBitmapV2Order) : List WriteStep :=
  let key := if o.flags &&& CBR2_PERSISTENT_KEY_PRESENT ≠ 0 then
    [WriteStep.put (bytesUInt32 o.key1), .put (bytesUInt32 o.key2)] else []
  let height := if o.flags &&& CBR2_HEIGHT_SAME_AS_WIDTH ≠ 0 then []
    else putOrReject (updateWrite2byteUnsigned o.bitmapHeight)
  let cacheIndex := if o.flags &&& CBR2_DO_NOT_CACHE ≠ 0 then BITMAP_CACHE_WAITING_LIST_INDEX
    else o.cacheIndex
  let hdr := if o.withComprHdr o.compressed then
    [WriteStep.put (bytesUInt16 o.cbCompFirstRowSize), .put (bytesUInt16 o.cbCompMainBodySize),
      .put (bytesUInt16 o.cbScanWidth), .put (bytesUInt16 o.cbUncompressedSize)] else []
  let bitmapLength := if o.withComprHdr o.compressed then o.cbCompMainBodySize else o.bitmapLength
  ensureInt (updateApproximateCacheBitmapV2Order o) ::
    match getBppBmf o.bitmapBpp with
    | none => [.reject]
    | some _ => key ++ (putOrReject (updateWrite2byteUnsigned o.bitmapWidth) ++ (height ++
        (putOrReject (updateWrite4byteUnsigned o.bitmapLength) ++
          (putOrReject (updateWrite2byteUnsigned cacheIndex) ++ (hdr ++
            [.ensure bitmapLength, .put (pointerBytes o.bitmapDataStream bitmapLength)])))))

/-- `update_approximate_cache_bitmap_v3_order`. -/
def updateApproximateCacheBitmapV3Order (o : CacheBitmapV3Order) : Int :=
  toInt32 (64 + o.data.length)

/-- The steps of `update_write_cache_bitmap_v3_order`. -/
def cacheBitmapV3Steps (o : CacheBitmapV3Order) : List WriteStep :=
  ensureInt (updateApproximateCacheBitmapV3Order o) ::
    putOrReject ((updateWriteCacheBitmapV3Order o).map Prod.snd)

/-- `update_approximate_cache_color_table_order`. -/
def updateApproximateCacheColorTableOrder (_ : CacheColorTableOrder) : Int := 16 + 256 * 4

/-- The steps of `update_write_cache_color_table_order`, which checks the order before it ensures
any capacity. -/
def cacheColorTableSteps (o : CacheColorTableOrder) : List WriteStep :=
  match updateWriteCacheColorTableOrder o with
  | none => [.reject]
  | some (_, bytes) => [ensureInt (updateApproximateCacheColorTableOrder o), .put bytes]

/-- A glyph with all the bytes that are written of it. -/
def GlyphDataV2.padded (g : GlyphDataV2) : GlyphDataV2 :=
  { g with aj := pointerBytes g.aj (glyphBytes g.cx g.cy) }

/-- `update_approximate_cache_glyph_order`; there are 256 glyphs at most. -/
def updateApproximateCacheGlyphOrder (o : CacheGlyphOrder) : Int := 2 + o.glyphData.length * 32

/-- The steps of `update_write_cache_glyph_order`. -/
def cacheGlyphSteps (o : CacheGlyphOrder) (flags : Nat) : List WriteStep :=
  [ensureInt (updateApproximateCacheGlyphOrder o),
    .put (updateWriteCacheGlyphOrder
      { o with glyphData := o.glyphData.map GlyphDataV2.padded } flags).2]

/-- `update_approximate_cache_glyph_v2_order`; there are 256 glyphs at most. -/
def updateApproximateCacheGlyphV2Order (o : CacheGlyphV2Order) : Int := 8 + o.glyphData.length * 32

/-- A glyph of `update_write_cache_glyph_v2_order`, number by number. -/
def glyphV2Steps (g : GlyphDataV2) : List WriteStep :=
  .put (bytesUInt8 g.cacheIndex) :: (putOrReject (updateWrite2byteSigned g.x) ++
    (putOrReject (updateWrite2byteSigned g.y) ++ (putOrReject (updateWrite2byteUnsigned g.cx) ++
      (putOrReject (updateWrite2byteUnsigned g.cy) ++
        [.put (pointerBytes g.aj (glyphBytes g.cx g.cy))]))))

/-- The `extraFlags` of a version 2 glyph order. -/
def CacheGlyphV2Order.extraFlags (o : CacheGlyphV2Order) : Nat :=
  (o.cacheId &&& 0x000F) ||| (o.flags &&& 0x000F) <<< 4 ||| (o.glyphData.length &&& 0x00FF) <<< 8

/-- The steps of `update_write_cache_glyph_v2_order`. -/
def cacheGlyphV2Steps (o : CacheGlyphV2Order) : List WriteStep :=
  ensureInt (updateApproximateCacheGlyphV2Order o) :: (o.glyphData.flatMap glyphV2Steps ++
    [.put (writeUnicode o.extraFlags o.glyphData.length)])

/-- `update_approximate_cache_brush_order`. -/
def updateApproximateCacheBrushOrder (_ : CacheBrushOrder) : Int := 64

/-- The steps of `update_write_cache_brush_order`. The data comes behind the other members, or it
is not written. -/
def cacheBrushSteps (o : CacheBrushOrder) : List WriteStep :=
  ensureInt (updateApproximateCacheBrushOrder o) ::
    match getBppBmf o.bpp with
    | none => [.reject]
    | some iBitmapFormat =>
      .put (bytesUInt8 o.index ++ (bytesUInt8 iBitmapFormat ++ (bytesUInt8 o.cx ++
        (bytesUInt8 o.cy ++ (bytesUInt8 o.style ++ bytesUInt8 o.length))))) ::
          putOrReject (writeBrushData o)

/-! ### Alternate secondary orders -/

/-- `CREATE_OFFSCREEN_BITMAP_ORDER`; `cIndices` is the number of indices of the delete list. -/
structure CreateOffscreenBitmapOrder where
  id : Nat
  cx : Nat
  cy : Nat
  indices : List Nat
  deriving DecidableEq, Repr

/-- `SWITCH_SURFACE_ORDER`. -/
structure SwitchSurfaceOrder where
  bitmapId : Nat
  deriving DecidableEq, Repr

/-- `update_approximate_create_offscreen_bitmap_order`. -/
def updateApproximateCreateOffscreenBitmapOrder (o : CreateOffscreenBitmapOrder) : Int :=
  toInt32 (32 + o.indices.length * 2)

/-- The delete list, whose length is compared as an `int`. -/
def writeDeleteList (indices : List Nat) : List UInt8 :=
  if 0 < indices.length then
    bytesUInt16 indices.length ++
      (indices.take (toInt32 indices.length).toNat).flatMap bytesUInt16
  else []

/-- `update_write_create_offscreen_bitmap_order`. -/
def updateWriteCreateOffscreenBitmapOrder (o : CreateOffscreenBitmapOrder) : List WriteStep :=
  let flags := (o.id &&& 0x7FFF) ||| if 0 < o.indices.length then 0x8000 else 0
  [ensureInt (updateApproximateCreateOffscreenBitmapOrder o),
    .put (bytesUInt16 flags ++ (bytesUInt16 o.cx ++ (bytesUInt16 o.cy ++
      writeDeleteList o.indices)))]

/-- `update_approximate_switch_surface_order`. -/
def updateApproximateSwitchSurfaceOrder (_ : SwitchSurfaceOrder) : Int := 2

/-- `update_write_switch_surface_order`. -/
def updateWriteSwitchSurfaceOrder (o : SwitchSurfaceOrder) : List WriteStep :=
  [ensureInt (updateApproximateSwitchSurfaceOrder o), .put (bytesUInt16 o.bitmapId)]

end FreeRdp
