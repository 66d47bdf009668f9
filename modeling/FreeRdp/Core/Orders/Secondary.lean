import FreeRdp.Core.Orders.Primary
import FreeRdp.Core.Orders.Numbers

/-!
# Secondary drawing orders

The caches of `orders.c`: each order has a reader and a writer of its own. A reader is an attempt on
the stream, since where it fails the order is skipped from where it has got to. A writer gives the
`extraFlags` of the order and its bytes, `none` where it returns `FALSE`. Data that an order points
to is a list.
-/

namespace FreeRdp

def ORDER_TYPE_BITMAP_UNCOMPRESSED : Nat := 0x00
def ORDER_TYPE_CACHE_COLOR_TABLE : Nat := 0x01
def ORDER_TYPE_CACHE_BITMAP_COMPRESSED : Nat := 0x02
def ORDER_TYPE_CACHE_GLYPH : Nat := 0x03
def ORDER_TYPE_BITMAP_UNCOMPRESSED_V2 : Nat := 0x04
def ORDER_TYPE_BITMAP_COMPRESSED_V2 : Nat := 0x05
def ORDER_TYPE_CACHE_BRUSH : Nat := 0x07
def ORDER_TYPE_BITMAP_COMPRESSED_V3 : Nat := 0x08

def NO_BITMAP_COMPRESSION_HDR : Nat := 0x0400
def CBR2_HEIGHT_SAME_AS_WIDTH : Nat := 0x01
def CBR2_PERSISTENT_KEY_PRESENT : Nat := 0x02
def CBR2_NO_BITMAP_COMPRESSION_HDR : Nat := 0x08
def CBR2_DO_NOT_CACHE : Nat := 0x10
def BITMAP_CACHE_WAITING_LIST_INDEX : Nat := 0x7FFF
def CG_GLYPH_UNICODE_PRESENT : Nat := 0x0010

def GLYPH_SUPPORT_PARTIAL : Nat := 1
def GLYPH_SUPPORT_FULL : Nat := 2
def GLYPH_SUPPORT_ENCODE : Nat := 3

/-! ### Orders -/

/-- `CACHE_BITMAP_ORDER`. -/
structure CacheBitmapOrder where
  cacheId : Nat
  bitmapBpp : Nat
  bitmapWidth : Nat
  bitmapHeight : Nat
  bitmapLength : Nat
  cacheIndex : Nat
  compressed : Bool
  bitmapComprHdr : List UInt8
  bitmapDataStream : List UInt8
  deriving DecidableEq, Repr

/-- `CACHE_BITMAP_V2_ORDER`. -/
structure CacheBitmapV2Order where
  cacheId : Nat
  flags : Nat
  key1 : Nat
  key2 : Nat
  bitmapBpp : Nat
  bitmapWidth : Nat
  bitmapHeight : Nat
  bitmapLength : Nat
  cacheIndex : Nat
  compressed : Bool
  cbCompFirstRowSize : Nat
  cbCompMainBodySize : Nat
  cbScanWidth : Nat
  cbUncompressedSize : Nat
  bitmapDataStream : List UInt8
  deriving DecidableEq, Repr

/-- `CACHE_BITMAP_V3_ORDER`, with the members of its `BITMAP_DATA_EX`; `length` is the length of
`data`. -/
structure CacheBitmapV3Order where
  cacheId : Nat
  bpp : Nat
  flags : Nat
  cacheIndex : Nat
  key1 : Nat
  key2 : Nat
  dataBpp : Nat
  codecID : Nat
  width : Nat
  height : Nat
  data : List UInt8
  deriving DecidableEq, Repr

/-- `CACHE_COLOR_TABLE_ORDER`; `numberColors` is a member of its own. -/
structure CacheColorTableOrder where
  cacheIndex : Nat
  numberColors : Nat
  colorTable : Vector Nat 256
  deriving DecidableEq, Repr

/-- `GLYPH_DATA`, which has the members of `GLYPH_DATA_V2`. -/
abbrev GlyphData := GlyphDataV2

/-- `CACHE_GLYPH_ORDER`; `cGlyphs` is the number of glyphs. -/
structure CacheGlyphOrder where
  cacheId : Nat
  glyphData : List GlyphData
  unicodeCharacters : Option (List UInt8)
  deriving DecidableEq, Repr

/-- `CACHE_GLYPH_V2_ORDER`; `cGlyphs` is the number of glyphs. -/
structure CacheGlyphV2Order where
  cacheId : Nat
  flags : Nat
  glyphData : List GlyphDataV2
  unicodeCharacters : Option (List UInt8)
  deriving DecidableEq, Repr

/-- `CACHE_BRUSH_ORDER`. -/
structure CacheBrushOrder where
  index : Nat
  bpp : Nat
  cx : Nat
  cy : Nat
  style : Nat
  length : Nat
  data : Vector UInt8 256
  deriving DecidableEq, Repr

/-! ### Depths -/

/-- `get_cbr2_bpp`, `none` where it is not valid. -/
def getCbr2Bpp : Nat → Option Nat
  | 3 => some 8
  | 4 => some 16
  | 5 => some 24
  | 6 => some 32
  | _ => none

/-- `get_bpp_bmf`, `none` where it is not valid. -/
def getBppBmf : Nat → Option Nat
  | 1 => some 1
  | 8 => some 3
  | 16 => some 4
  | 24 => some 5
  | 32 => some 6
  | _ => none

/-! ### Bitmaps -/

/-- The compression header of a bitmap, and the length without it. -/
def readBitmapComprHdr (compressed : Bool) (flags bitmapLength : Nat) :
    Attempt WStream (List UInt8 × Nat) :=
  if compressed ∧ flags &&& NO_BITMAP_COMPRESSION_HDR = 0 then do
    .need 8
    let bitmapComprHdr ← .takeBytes 8
    pure (bitmapComprHdr, (bitmapLength + 2 ^ 32 - 8) % 2 ^ 32)
  else pure (List.replicate 8 0, bitmapLength)

/-- `update_read_cache_bitmap_order`. -/
def updateReadCacheBitmapOrder (compressed : Bool) (flags : Nat) :
    Attempt WStream CacheBitmapOrder := do
  .need 9
  let cacheId ← .takeUInt8
  let _pad1Octet ← .takeUInt8
  let bitmapWidth ← .takeUInt8
  let bitmapHeight ← .takeUInt8
  let bitmapBpp ← .takeUInt8
  .require (1 ≤ bitmapBpp && bitmapBpp ≤ 32)
  let bitmapLength ← .takeUInt16
  let cacheIndex ← .takeUInt16
  let hdr ← readBitmapComprHdr compressed flags bitmapLength
  .require (hdr.2 != 0)
  .need hdr.2
  let bitmapDataStream ← .takeBytes hdr.2
  pure {
    cacheId, bitmapBpp, bitmapWidth, bitmapHeight, bitmapLength := hdr.2, cacheIndex, compressed
    bitmapComprHdr := hdr.1, bitmapDataStream }

/-- `update_write_cache_bitmap_order`. The flag leaves the compression header out. -/
def updateWriteCacheBitmapOrder (o : CacheBitmapOrder) (compressed : Bool) :
    Nat × List UInt8 :=
  let flags := NO_BITMAP_COMPRESSION_HDR
  let withHdr := flags &&& NO_BITMAP_COMPRESSION_HDR = 0
  let bitmapLength := if withHdr then o.bitmapLength + 8 else o.bitmapLength
  (flags,
    bytesUInt8 o.cacheId ++ (bytesUInt8 0 ++ (bytesUInt8 o.bitmapWidth ++
      (bytesUInt8 o.bitmapHeight ++ (bytesUInt8 o.bitmapBpp ++ (bytesUInt16 bitmapLength ++
        (bytesUInt16 o.cacheIndex ++
          ((if compressed ∧ withHdr then o.bitmapComprHdr else []) ++
            o.bitmapDataStream.take o.bitmapLength))))))))

/-- The persistent key of a bitmap, where it is present. -/
def readPersistentKey (flags : Nat) : Attempt WStream (Nat × Nat) :=
  if flags &&& CBR2_PERSISTENT_KEY_PRESENT ≠ 0 then do
    .need 8
    let key1 ← .takeUInt32
    let key2 ← .takeUInt32
    pure (key1, key2)
  else pure (0, 0)

/-- The width and height of a bitmap. -/
def readBitmapSize (flags : Nat) : Attempt WStream (Nat × Nat) :=
  if flags &&& CBR2_HEIGHT_SAME_AS_WIDTH ≠ 0 then do
    let bitmapWidth ← .ofReader updateRead2byteUnsigned 0
    pure (bitmapWidth, bitmapWidth)
  else do
    let bitmapWidth ← .ofReader updateRead2byteUnsigned 0
    let bitmapHeight ← .ofReader updateRead2byteUnsigned 0
    pure (bitmapWidth, bitmapHeight)

/-- The four sizes of a compression header. -/
structure BitmapComprSizes where
  cbCompFirstRowSize : Nat
  cbCompMainBodySize : Nat
  cbScanWidth : Nat
  cbUncompressedSize : Nat
  deriving DecidableEq, Repr

/-- The compression header of a bitmap, where there is one, and the length of the data. -/
def readBitmapComprSizes (compressed : Bool) (flags bitmapLength : Nat) :
    Attempt WStream (BitmapComprSizes × Nat) :=
  if compressed ∧ flags &&& CBR2_NO_BITMAP_COMPRESSION_HDR = 0 then do
    .need 8
    let cbCompFirstRowSize ← .takeUInt16
    let cbCompMainBodySize ← .takeUInt16
    let cbScanWidth ← .takeUInt16
    let cbUncompressedSize ← .takeUInt16
    pure (⟨cbCompFirstRowSize, cbCompMainBodySize, cbScanWidth, cbUncompressedSize⟩,
      cbCompMainBodySize)
  else pure (⟨0, 0, 0, 0⟩, bitmapLength)

/-- `update_read_cache_bitmap_v2_order`. -/
def updateReadCacheBitmapV2Order (compressed : Bool) (extraFlags : Nat) :
    Attempt WStream CacheBitmapV2Order := do
  let cacheId := extraFlags &&& 0x0003
  let flags := (extraFlags &&& 0xFF80) >>> 7
  let bitmapBpp ← .lift (getCbr2Bpp ((extraFlags &&& 0x0078) >>> 3))
  let key ← readPersistentKey flags
  let size ← readBitmapSize flags
  let bitmapLength ← updateRead4byteUnsigned
  let cacheIndex ← .ofReader updateRead2byteUnsigned 0
  let hdr ← readBitmapComprSizes compressed flags bitmapLength
  .require (hdr.2 != 0)
  .need hdr.2
  let bitmapDataStream ← .takeBytes hdr.2
  pure {
    cacheId, flags, key1 := key.1, key2 := key.2, bitmapBpp, bitmapWidth := size.1
    bitmapHeight := size.2, bitmapLength := hdr.2
    cacheIndex := if flags &&& CBR2_DO_NOT_CACHE ≠ 0 then BITMAP_CACHE_WAITING_LIST_INDEX
      else cacheIndex
    compressed, cbCompFirstRowSize := hdr.1.cbCompFirstRowSize
    cbCompMainBodySize := hdr.1.cbCompMainBodySize, cbScanWidth := hdr.1.cbScanWidth
    cbUncompressedSize := hdr.1.cbUncompressedSize, bitmapDataStream }

/-- The width and height of a bitmap as they are written. -/
def writeBitmapSize (o : CacheBitmapV2Order) : Option (List UInt8) :=
  if o.flags &&& CBR2_HEIGHT_SAME_AS_WIDTH ≠ 0 then updateWrite2byteUnsigned o.bitmapWidth
  else do
    let width ← updateWrite2byteUnsigned o.bitmapWidth
    let height ← updateWrite2byteUnsigned o.bitmapHeight
    some (width ++ height)

/-- A bitmap has a compression header. -/
def CacheBitmapV2Order.withComprHdr (o : CacheBitmapV2Order) (compressed : Bool) : Bool :=
  compressed && o.flags &&& CBR2_NO_BITMAP_COMPRESSION_HDR == 0

/-- `update_write_cache_bitmap_v2_order`: the order as it is left, the flags and the bytes. -/
def updateWriteCacheBitmapV2Order (o : CacheBitmapV2Order) (compressed : Bool) :
    Option (CacheBitmapV2Order × Nat × List UInt8) := do
  let bitsPerPixelId ← getBppBmf o.bitmapBpp
  let extraFlags := (o.cacheId &&& 0x0003) ||| (bitsPerPixelId <<< 3) ||| ((o.flags <<< 7) &&& 0xFF80)
  let key := if o.flags &&& CBR2_PERSISTENT_KEY_PRESENT ≠ 0 then
    bytesUInt32 o.key1 ++ bytesUInt32 o.key2 else []
  let size ← writeBitmapSize o
  let cacheIndex := if o.flags &&& CBR2_DO_NOT_CACHE ≠ 0 then BITMAP_CACHE_WAITING_LIST_INDEX
    else o.cacheIndex
  let length ← updateWrite4byteUnsigned o.bitmapLength
  let index ← updateWrite2byteUnsigned cacheIndex
  let hdr := if o.withComprHdr compressed then
    bytesUInt16 o.cbCompFirstRowSize ++ (bytesUInt16 o.cbCompMainBodySize ++
      (bytesUInt16 o.cbScanWidth ++ bytesUInt16 o.cbUncompressedSize)) else []
  let bitmapLength := if o.withComprHdr compressed then o.cbCompMainBodySize else o.bitmapLength
  some ({ o with cacheIndex, bitmapLength, compressed }, extraFlags,
    key ++ (size ++ (length ++ (index ++ (hdr ++ o.bitmapDataStream.take bitmapLength)))))

/-- `update_read_cache_bitmap_v3_order`. -/
def updateReadCacheBitmapV3Order (extraFlags : Nat) : Attempt WStream CacheBitmapV3Order := do
  let cacheId := extraFlags &&& 0x0003
  let flags := (extraFlags &&& 0xFF80) >>> 7
  let bpp ← .lift (getCbr2Bpp ((extraFlags &&& 0x0078) >>> 3))
  .need 21
  let cacheIndex ← .takeUInt16
  let key1 ← .takeUInt32
  let key2 ← .takeUInt32
  let dataBpp ← .takeUInt8
  .require (1 ≤ dataBpp && dataBpp ≤ 32)
  let _reserved1 ← .takeUInt8
  let _reserved2 ← .takeUInt8
  let codecID ← .takeUInt8
  let width ← .takeUInt16
  let height ← .takeUInt16
  let length ← .takeUInt32
  .require (length != 0)
  .need length
  let data ← .takeBytes length
  pure { cacheId, bpp, flags, cacheIndex, key1, key2, dataBpp, codecID, width, height, data }

/-- `update_write_cache_bitmap_v3_order`. -/
def updateWriteCacheBitmapV3Order (o : CacheBitmapV3Order) : Option (Nat × List UInt8) := do
  let bitsPerPixelId ← getBppBmf o.bpp
  let extraFlags := (o.cacheId &&& 0x0003) ||| ((o.flags <<< 7) &&& 0xFF80) |||
    ((bitsPerPixelId <<< 3) &&& 0x0078)
  some (extraFlags,
    bytesUInt16 o.cacheIndex ++ (bytesUInt32 o.key1 ++ (bytesUInt32 o.key2 ++
      (bytesUInt8 o.dataBpp ++ (bytesUInt8 0 ++ (bytesUInt8 0 ++ (bytesUInt8 o.codecID ++
        (bytesUInt16 o.width ++ (bytesUInt16 o.height ++ (bytesUInt32 o.data.length ++
          o.data))))))))))

/-! ### Color tables -/

/-- `update_read_color_quad`, where the bytes are there. -/
def updateReadColorQuad : Attempt WStream Nat := do
  let b ← .takeUInt8
  let b' ← .takeUInt8
  let b'' ← .takeUInt8
  let _ ← .takeUInt8
  pure (b ||| b' <<< 8 ||| b'' <<< 16)

/-- `update_write_color_quad`. -/
def updateWriteColorQuad (color : Nat) : List UInt8 :=
  bytesUInt8 ((color >>> 16) &&& 0xFF) ++ bytesUInt8 ((color >>> 8) &&& 0xFF) ++
    bytesUInt8 (color &&& 0xFF)

/-- `update_read_cache_color_table_order`. -/
def updateReadCacheColorTableOrder : Attempt WStream CacheColorTableOrder := do
  .need 3
  let cacheIndex ← .takeUInt8
  let numberColors ← .takeUInt16
  .require (numberColors == 256)
  .need (numberColors * 4)
  let colors ← updateReadColorQuad.times numberColors
  pure { cacheIndex, numberColors, colorTable := Vector.ofFn fun i => colors.getD i 0 }

/-- `update_write_cache_color_table_order`. -/
def updateWriteCacheColorTableOrder (o : CacheColorTableOrder) : Option (Nat × List UInt8) :=
  if o.numberColors ≠ 256 then none
  else
    some (0, bytesUInt8 o.cacheIndex ++ (bytesUInt16 o.numberColors ++
      o.colorTable.toList.flatMap updateWriteColorQuad))

/-! ### Glyphs -/

/-- `cb` of a glyph: the rows in bytes, rounded up to a multiple of four. -/
def glyphBytes (cx cy : Nat) : Nat :=
  let cb := (cx + 7) % 2 ^ 32 / 8 * cy % 2 ^ 32
  (cb + if cb % 4 > 0 then 4 - cb % 4 else 0) % 2 ^ 32

/-- The bytes `Stream_Write_UINT16` writes of a signed number. -/
def bytesInt16 (v : Int) : List UInt8 := bytesUInt16 (v % 2 ^ 16).toNat

/-- A glyph of `update_read_cache_glyph_order`. -/
def readGlyph : Attempt WStream GlyphData := do
  .need 10
  let cacheIndex ← .takeUInt16
  let x ← .takeUInt16
  let y ← .takeUInt16
  let cx ← .takeUInt16
  let cy ← .takeUInt16
  let cb := glyphBytes cx cy
  .need cb
  let aj ← .takeBytes cb
  pure { cacheIndex, x := toSigned 16 x, y := toSigned 16 y, cx, cy, cb, aj }

/-- A glyph of `update_write_cache_glyph_order`. -/
def writeGlyph (g : GlyphData) : List UInt8 :=
  bytesUInt16 g.cacheIndex ++ (bytesInt16 g.x ++ (bytesInt16 g.y ++ (bytesUInt16 g.cx ++
    (bytesUInt16 g.cy ++ g.aj.take (glyphBytes g.cx g.cy)))))

/-- The characters behind the glyphs. -/
def readUnicode (flags cGlyphs : Nat) : Attempt WStream (Option (List UInt8)) :=
  if flags &&& CG_GLYPH_UNICODE_PRESENT ≠ 0 ∧ 0 < cGlyphs then do
    .need (2 * cGlyphs)
    let characters ← .takeBytes (2 * cGlyphs)
    pure (some characters)
  else pure none

/-- The characters as they are written. -/
def writeUnicode (flags cGlyphs : Nat) : List UInt8 :=
  if flags &&& CG_GLYPH_UNICODE_PRESENT ≠ 0 then List.replicate (cGlyphs * 2) 0 else []

/-- `update_read_cache_glyph_order`. -/
def updateReadCacheGlyphOrder (flags : Nat) : Attempt WStream CacheGlyphOrder := do
  .need 2
  let cacheId ← .takeUInt8
  let cGlyphs ← .takeUInt8
  let glyphData ← readGlyph.times cGlyphs
  let unicodeCharacters ← readUnicode flags cGlyphs
  pure { cacheId, glyphData, unicodeCharacters }

/-- `update_write_cache_glyph_order`, which leaves the flags as they are. -/
def updateWriteCacheGlyphOrder (o : CacheGlyphOrder) (flags : Nat) : Nat × List UInt8 :=
  (flags, bytesUInt8 o.cacheId ++ (bytesUInt8 o.glyphData.length ++
    (o.glyphData.flatMap writeGlyph ++ writeUnicode flags o.glyphData.length)))

/-- A glyph of `update_read_cache_glyph_v2_order`. -/
def readGlyphV2 : Attempt WStream GlyphDataV2 := do
  .need 1
  let cacheIndex ← .takeUInt8
  let x ← .ofReader updateRead2byteSigned 0
  let y ← .ofReader updateRead2byteSigned 0
  let cx ← .ofReader updateRead2byteUnsigned 0
  let cy ← .ofReader updateRead2byteUnsigned 0
  let cb := glyphBytes cx cy
  .need cb
  let aj ← .takeBytes cb
  pure { cacheIndex, x, y, cx, cy, cb, aj }

/-- A glyph of `update_write_cache_glyph_v2_order`. -/
def writeGlyphV2 (g : GlyphDataV2) : Option (List UInt8) := do
  let x ← updateWrite2byteSigned g.x
  let y ← updateWrite2byteSigned g.y
  let cx ← updateWrite2byteUnsigned g.cx
  let cy ← updateWrite2byteUnsigned g.cy
  some (bytesUInt8 g.cacheIndex ++ (x ++ (y ++ (cx ++ (cy ++
    g.aj.take (glyphBytes g.cx g.cy))))))

/-- `update_read_cache_glyph_v2_order`. -/
def updateReadCacheGlyphV2Order (extraFlags : Nat) : Attempt WStream CacheGlyphV2Order := do
  let cacheId := extraFlags &&& 0x000F
  let flags := (extraFlags &&& 0x00F0) >>> 4
  let cGlyphs := (extraFlags &&& 0xFF00) >>> 8
  let glyphData ← readGlyphV2.times cGlyphs
  let unicodeCharacters ← readUnicode extraFlags cGlyphs
  pure { cacheId, flags, glyphData, unicodeCharacters }

/-- `update_write_cache_glyph_v2_order`. -/
def updateWriteCacheGlyphV2Order (o : CacheGlyphV2Order) : Option (Nat × List UInt8) := do
  let extraFlags := (o.cacheId &&& 0x000F) ||| (o.flags &&& 0x000F) <<< 4 |||
    (o.glyphData.length &&& 0x00FF) <<< 8
  let glyphs ← o.glyphData.mapM writeGlyphV2
  some (extraFlags, glyphs.flatten ++ writeUnicode extraFlags o.glyphData.length)

/-! ### Brushes -/

/-- The length of a row of a brush. -/
def brushScanline (bpp : Nat) : Nat := if bpp = 1 then 1 else bpp / 8 * 8

/-- The rows of a brush the other way round. -/
def brushRows (scanline : Nat) (bytes : List UInt8) : List UInt8 :=
  (List.range 8).flatMap fun i => (bytes.drop ((7 - i) * scanline)).take scanline

/-- The data of a brush that starts with some bytes. -/
def brushData (bytes : List UInt8) : Vector UInt8 256 := Vector.ofFn fun i => bytes.getD i 0

/-- A byte of a pixel in `update_decompress_brush`: two bits for each pixel, 16 bytes of them, and
four colors behind. -/
def brushPixelByte (bytes : List UInt8) (bytesPerPixel i : Nat) : UInt8 :=
  let y := i / bytesPerPixel / 8
  let x := i / bytesPerPixel % 8
  let byte := bytes.getD ((7 - y) * 2 + x / 4) 0
  let index := (byte.toNat >>> ((3 - x % 4) * 2)) &&& 0x03
  bytes.getD (16 + (index * bytesPerPixel + i % bytesPerPixel)) 0

/-- `update_decompress_brush`. Only the two bits for each pixel are passed over. -/
def updateDecompressBrush (bpp : Nat) : Attempt WStream (Vector UInt8 256) := do
  let bytesPerPixel := (bpp + 1) / 8
  .need (16 + bytesPerPixel * 4)
  let bytes ← .gets WStream.unread
  let _ ← .takeBytes 16
  pure (Vector.ofFn fun i => if i < 64 * bytesPerPixel then brushPixelByte bytes bytesPerPixel i
    else 0)

/-- A brush of this format and length is compressed. -/
def brushCompressed (iBitmapFormat length : Nat) : Bool :=
  (iBitmapFormat = 3 ∧ length = 20) ∨ (iBitmapFormat = 4 ∧ length = 24) ∨
    (iBitmapFormat = 5 ∧ length = 28) ∨ (iBitmapFormat = 6 ∧ length = 32)

/-- The data of a brush. -/
def readBrushData (iBitmapFormat bpp cx cy length : Nat) : Attempt WStream (Vector UInt8 256) :=
  if cx = 8 ∧ cy = 8 then
    if bpp = 1 then do
      .require (length == 8)
      .need 8
      let bytes ← .takeBytes 8
      pure (brushData (brushRows 1 bytes))
    else if brushCompressed iBitmapFormat length then updateDecompressBrush bpp
    else do
      let scanline := brushScanline bpp
      .need (scanline * 8)
      let bytes ← .takeBytes (scanline * 8)
      pure (brushData (brushRows scanline bytes))
  else pure (brushData [])

/-- `update_read_cache_brush_order`. -/
def updateReadCacheBrushOrder : Attempt WStream CacheBrushOrder := do
  .need 6
  let index ← .takeUInt8
  let iBitmapFormat ← .takeUInt8
  let bpp ← .lift (getBmfBpp iBitmapFormat)
  let cx ← .takeUInt8
  let cy ← .takeUInt8
  let style ← .takeUInt8
  let length ← .takeUInt8
  let data ← readBrushData iBitmapFormat bpp cx cy length
  pure { index, bpp, cx, cy, style, length, data }

/-- The data of a brush as it is written. A brush that should be compressed is not written, since
`update_compress_brush` fails; the check for that leaves out 24 bits per pixel. -/
def writeBrushData (o : CacheBrushOrder) : Option (List UInt8) :=
  if o.cx = 8 ∧ o.cy = 8 then
    if o.bpp = 1 then if o.length ≠ 8 then none else some (brushRows 1 o.data.toList)
    else if (o.bpp = 8 ∧ o.length = 20) ∨ (o.bpp = 16 ∧ o.length = 24) ∨
        (o.bpp = 32 ∧ o.length = 32) then none
    else some (brushRows (brushScanline o.bpp) o.data.toList)
  else some []

/-- `update_write_cache_brush_order`. -/
def updateWriteCacheBrushOrder (o : CacheBrushOrder) : Option (Nat × List UInt8) := do
  let iBitmapFormat ← getBppBmf o.bpp
  let data ← writeBrushData o
  some (0, bytesUInt8 o.index ++ (bytesUInt8 iBitmapFormat ++ (bytesUInt8 o.cx ++
    (bytesUInt8 o.cy ++ (bytesUInt8 o.style ++ (bytesUInt8 o.length ++ data))))))

/-! ### Sending -/

/-- The header of a secondary order of the given length. -/
def secondaryHeader (orderType extraFlags length : Nat) : List UInt8 :=
  bytesUInt8 (ORDER_STANDARD ||| ORDER_SECONDARY) ++
    (bytesUInt16 ((length + 2 ^ 16 - 13) % 2 ^ 16) ++
      (bytesUInt16 extraFlags ++ bytesUInt8 orderType))

/-- What the `update_send_cache_*` functions put into the update: the header, filled in at the end,
and the order. -/
def updateSendSecondary (orderType extraFlags : Nat) (body : List UInt8) : List UInt8 :=
  secondaryHeader orderType extraFlags (6 + body.length) ++ body

/-- `update_send_cache_bitmap`. -/
def updateSendCacheBitmap (o : CacheBitmapOrder) : List UInt8 :=
  let (extraFlags, body) := updateWriteCacheBitmapOrder o o.compressed
  updateSendSecondary (if o.compressed then ORDER_TYPE_CACHE_BITMAP_COMPRESSED
    else ORDER_TYPE_BITMAP_UNCOMPRESSED) extraFlags body

/-- The order with the flag of the settings. -/
def CacheBitmapV2Order.withSettings (noBitmapCompressionHeader : Bool) (o : CacheBitmapV2Order) :
    CacheBitmapV2Order :=
  if noBitmapCompressionHeader then
    { o with flags := o.flags ||| CBR2_NO_BITMAP_COMPRESSION_HDR } else o

/-- `update_send_cache_bitmap_v2`: the order as it is left, and the bytes. -/
def updateSendCacheBitmapV2 (noBitmapCompressionHeader : Bool) (o : CacheBitmapV2Order) :
    Option (CacheBitmapV2Order × List UInt8) := do
  let o := o.withSettings noBitmapCompressionHeader
  let (o, extraFlags, body) ← updateWriteCacheBitmapV2Order o o.compressed
  some (o, updateSendSecondary (if o.compressed then ORDER_TYPE_BITMAP_COMPRESSED_V2
    else ORDER_TYPE_BITMAP_UNCOMPRESSED_V2) extraFlags body)

/-- `update_send_cache_bitmap_v3`. -/
def updateSendCacheBitmapV3 (o : CacheBitmapV3Order) : Option (List UInt8) := do
  let (extraFlags, body) ← updateWriteCacheBitmapV3Order o
  some (updateSendSecondary ORDER_TYPE_BITMAP_COMPRESSED_V3 extraFlags body)

/-- `update_send_cache_color_table`. -/
def updateSendCacheColorTable (o : CacheColorTableOrder) : Option (List UInt8) := do
  let (flags, body) ← updateWriteCacheColorTableOrder o
  some (updateSendSecondary ORDER_TYPE_CACHE_COLOR_TABLE flags body)

/-- `update_send_cache_glyph`. -/
def updateSendCacheGlyph (o : CacheGlyphOrder) : List UInt8 :=
  let (flags, body) := updateWriteCacheGlyphOrder o 0
  updateSendSecondary ORDER_TYPE_CACHE_GLYPH flags body

/-- `update_send_cache_glyph_v2`. -/
def updateSendCacheGlyphV2 (o : CacheGlyphV2Order) : Option (List UInt8) := do
  let (flags, body) ← updateWriteCacheGlyphV2Order o
  some (updateSendSecondary ORDER_TYPE_CACHE_GLYPH flags body)

/-- `update_send_cache_brush`. -/
def updateSendCacheBrush (o : CacheBrushOrder) : Option (List UInt8) := do
  let (flags, body) ← updateWriteCacheBrushOrder o
  some (updateSendSecondary ORDER_TYPE_CACHE_BRUSH flags body)

/-! ### Receiving -/

/-- A secondary order as the callbacks get it. -/
inductive SecondaryOrder
  | cacheBitmap (o : CacheBitmapOrder)
  | cacheBitmapV2 (o : CacheBitmapV2Order)
  | cacheBitmapV3 (o : CacheBitmapV3Order)
  | cacheColorTable (o : CacheColorTableOrder)
  | cacheGlyph (o : CacheGlyphOrder)
  | cacheGlyphV2 (o : CacheGlyphV2Order)
  | cacheBrush (o : CacheBrushOrder)
  deriving DecidableEq, Repr

/-- What `rdpSettings` says about secondary orders. -/
structure SecondarySettings extends OrderSettings where
  bitmapCacheEnabled : Bool
  bitmapCacheV3Enabled : Bool
  glyphSupportLevel : Nat

/-- Whether a callback succeeds; one that is not set fails, except for `CacheOrderInfo`, which gets
the length, the flags and the type. -/
structure SecondaryCallbacks where
  cacheOrderInfo : Nat → Nat → Nat → Bool
  cache : SecondaryOrder → Bool

/-- `check_secondary_order_supported`. -/
def checkSecondaryOrderSupported (settings : SecondarySettings) (orderType : Nat) : Bool :=
  let condition := match orderType with
    | 0x00 | 0x02 | 0x04 | 0x05 => settings.bitmapCacheEnabled
    | 0x08 => settings.bitmapCacheV3Enabled
    | 0x01 => settings.orderSupport 0x03 || settings.orderSupport 0x04
    | 0x03 => decide (1 ≤ settings.glyphSupportLevel ∧ settings.glyphSupportLevel ≤ 3)
    | 0x07 => true
    | _ => false
  condition || settings.allowUnanouncedOrdersFromServer

/-- The reader for an order type, if there is one. -/
def readSecondaryOrder (settings : SecondarySettings) (orderType extraFlags : Nat) :
    Option (Attempt WStream SecondaryOrder) :=
  match orderType with
  | 0x00 => some (do pure (.cacheBitmap (← updateReadCacheBitmapOrder false extraFlags)))
  | 0x02 => some (do pure (.cacheBitmap (← updateReadCacheBitmapOrder true extraFlags)))
  | 0x04 => some (do pure (.cacheBitmapV2 (← updateReadCacheBitmapV2Order false extraFlags)))
  | 0x05 => some (do pure (.cacheBitmapV2 (← updateReadCacheBitmapV2Order true extraFlags)))
  | 0x08 => some (do pure (.cacheBitmapV3 (← updateReadCacheBitmapV3Order extraFlags)))
  | 0x01 => some (do pure (.cacheColorTable (← updateReadCacheColorTableOrder)))
  | 0x03 =>
    if settings.glyphSupportLevel = GLYPH_SUPPORT_PARTIAL ∨
        settings.glyphSupportLevel = GLYPH_SUPPORT_FULL then
      some (do pure (.cacheGlyph (← updateReadCacheGlyphOrder extraFlags)))
    else if settings.glyphSupportLevel = GLYPH_SUPPORT_ENCODE then
      some (do pure (.cacheGlyphV2 (← updateReadCacheGlyphV2Order extraFlags)))
    else none
  | 0x07 => some (do pure (.cacheBrush (← updateReadCacheBrushOrder)))
  | _ => none

/-- The result of `update_recv_secondary_order`: the order that was handed to a callback, the return
value and the stream. -/
structure SecondaryResult where
  order : Option SecondaryOrder
  rc : Bool
  rest : WStream
  deriving DecidableEq

/-- The end of `update_recv_secondary_order`: what is left of the order is skipped. -/
def skipSecondaryOrder (order : Option SecondaryOrder) (rc : Bool) (endPos : Nat) (s : WStream) :
    SecondaryResult :=
  if s.pos > endPos then ⟨order, false, s⟩
  else
    match s.safeSeek (endPos - s.pos) with
    | none => ⟨order, false, s⟩
    | some s => ⟨order, rc, s⟩

/-- `update_recv_secondary_order` behind the header. An order that cannot be read is skipped. -/
def recvSecondaryBody (settings : SecondarySettings) (callbacks : SecondaryCallbacks)
    (orderLength extraFlags orderType : Nat) (s : WStream) : SecondaryResult :=
  if !callbacks.cacheOrderInfo orderLength extraFlags orderType then ⟨none, false, s⟩
  else if s.remainingLength < orderLength + 7 then ⟨none, false, s⟩
  else if !checkSecondaryOrderSupported settings orderType then ⟨none, false, s⟩
  else
    let endPos := s.pos + orderLength + 7
    match readSecondaryOrder settings orderType extraFlags with
    | none => skipSecondaryOrder none true endPos s
    | some read =>
      match read s with
      | (none, s) => skipSecondaryOrder none true endPos s
      | (some order, s) => skipSecondaryOrder (some order) (callbacks.cache order) endPos s

/-- `update_recv_secondary_order`. -/
def updateRecvSecondaryOrder (settings : SecondarySettings) (callbacks : SecondaryCallbacks)
    (s : WStream) : SecondaryResult :=
  if s.remainingLength < 5 then ⟨none, false, s⟩
  else
    let (orderLength, s) := s.readUInt16
    let (extraFlags, s) := s.readUInt16
    let (orderType, s) := s.readUInt8
    recvSecondaryBody settings callbacks orderLength extraFlags orderType s

/-- The part of `update_recv_order` for secondary orders. -/
def updateRecvOrderSecondary (settings : SecondarySettings) (callbacks : SecondaryCallbacks)
    (s : WStream) : Option SecondaryResult :=
  if s.remainingLength < 1 then none
  else
    let (controlFlags, s) := s.readUInt8
    if controlFlags &&& ORDER_STANDARD = 0 ∨ controlFlags &&& ORDER_SECONDARY = 0 then none
    else some (updateRecvSecondaryOrder settings callbacks s)

/-! ### Receiving what has been sent -/

/-- `update_send_cache_*`, by the order. -/
def updateSendCache (noBitmapCompressionHeader : Bool) : SecondaryOrder → Option (List UInt8)
  | .cacheBitmap o => some (updateSendCacheBitmap o)
  | .cacheBitmapV2 o => (updateSendCacheBitmapV2 noBitmapCompressionHeader o).map Prod.snd
  | .cacheBitmapV3 o => updateSendCacheBitmapV3 o
  | .cacheColorTable o => updateSendCacheColorTable o
  | .cacheGlyph o => some (updateSendCacheGlyph o)
  | .cacheGlyphV2 o => updateSendCacheGlyphV2 o
  | .cacheBrush o => updateSendCacheBrush o

/-- Wherever the bytes stand, the client hands the order to its callback and ends behind them. -/
def SecondaryReceives (settings : SecondarySettings) (callbacks : SecondaryCallbacks)
    (bytes : List UInt8) (order : SecondaryOrder) : Prop :=
  ∀ s rest, s.unread = bytes ++ rest →
    updateRecvOrderSecondary settings callbacks s = some ⟨some order, true, s.seek bytes.length⟩

/-- The client supports the orders, and its callbacks succeed. -/
structure SecondaryAccepts (settings : SecondarySettings) (callbacks : SecondaryCallbacks) :
    Prop where
  supported : ∀ orderType ∈ [0x00, 0x01, 0x02, 0x03, 0x04, 0x05, 0x07, 0x08],
    checkSecondaryOrderSupported settings orderType = true
  cacheOrderInfo : ∀ orderLength extraFlags orderType,
    callbacks.cacheOrderInfo orderLength extraFlags orderType = true
  cache : ∀ order, callbacks.cache order = true

section Sent

open WStream

variable {settings : SecondarySettings} {callbacks : SecondaryCallbacks} {orderType extraFlags : Nat}
  {body rest : List UInt8} {s : WStream} {order : SecondaryOrder}

lemma length_updateSendSecondary (orderType extraFlags : Nat) (body : List UInt8) :
    (updateSendSecondary orderType extraFlags body).length = 6 + body.length := by
  simp only [updateSendSecondary, secondaryHeader, bytesUInt8, bytesUInt16, List.length_append,
    List.length_cons, List.length_nil]

/-- The header of an order that has been sent is read back. -/
lemma updateRecvOrderSecondary_sent (htype : orderType < 2 ^ 8) (hflags : extraFlags < 2 ^ 16)
    (hs : s.unread = updateSendSecondary orderType extraFlags body ++ rest) :
    updateRecvOrderSecondary settings callbacks s = some (recvSecondaryBody settings callbacks
      ((6 + body.length + 2 ^ 16 - 13) % 2 ^ 16) extraFlags orderType (s.seek 6)) := by
  have hremaining := remainingLength_of_unread hs
  rw [length_updateSendSecondary] at hremaining
  simp only [updateSendSecondary, secondaryHeader, List.append_assoc] at hs
  have hlength := unread_seek_append hs (n := 1) rfl
  have hextra := unread_seek_append hlength (n := 2) rfl
  have horder := unread_seek_append hextra (n := 2) rfl
  rw [updateRecvOrderSecondary, if_neg (by omega), readUInt8_bytes hs (by decide)]
  dsimp only
  rw [if_neg (by decide), updateRecvSecondaryOrder, remainingLength_seek, if_neg (by omega),
    readUInt16_bytes hlength (by omega)]
  dsimp only
  rw [readUInt16_bytes hextra hflags]
  dsimp only
  rw [readUInt8_bytes horder htype]
  rfl

lemma unread_sent (hs : s.unread = updateSendSecondary orderType extraFlags body ++ rest) :
    (s.seek 6).unread = body ++ rest := by
  simp only [updateSendSecondary, secondaryHeader, List.append_assoc] at hs
  simp [hs, bytesUInt8, bytesUInt16]

lemma lt_of_mem_secondaryTypes
    (h : orderType ∈ [0x00, 0x01, 0x02, 0x03, 0x04, 0x05, 0x07, 0x08]) : orderType < 2 ^ 8 := by
  simp only [List.mem_cons, List.not_mem_nil, or_false] at h
  omega

/-- An order is received if its reader gets it within the bytes of the order. -/
lemma secondaryReceives_of_gets {read : Attempt WStream SecondaryOrder}
    (hflags : extraFlags < 2 ^ 16)
    (hread : readSecondaryOrder settings orderType extraFlags = some read)
    (hclient : SecondaryAccepts settings callbacks)
    (hknown : orderType ∈ [0x00, 0x01, 0x02, 0x03, 0x04, 0x05, 0x07, 0x08])
    (hmin : 7 ≤ body.length) (hmax : body.length < 2 ^ 16 + 7)
    (hgets : read.Gets body order) :
    SecondaryReceives settings callbacks (updateSendSecondary orderType extraFlags body) order := by
  intro s rest hs
  have hremaining := remainingLength_of_unread hs
  rw [length_updateSendSecondary] at hremaining
  have hlength : (6 + body.length + 2 ^ 16 - 13) % 2 ^ 16 + 7 = body.length := by omega
  obtain ⟨n, hn, hgot⟩ := hgets _ rest (unread_sent hs)
  rw [updateRecvOrderSecondary_sent (lt_of_mem_secondaryTypes hknown) hflags hs, recvSecondaryBody,
    hclient.cacheOrderInfo, hclient.supported _ hknown, if_neg (by decide), remainingLength_seek,
    if_neg (by omega), if_neg (by decide), Nat.add_assoc, hlength, hread]
  dsimp only
  rw [hgot]
  dsimp only
  rw [skipSecondaryOrder, hclient.cache, pos_seek, pos_seek, if_neg (by omega), safeSeek,
    remainingLength_seek, remainingLength_seek, if_neg (by omega), seek_seek, seek_seek,
    length_updateSendSecondary]
  have hend : 6 + (n + (s.pos + 6 + body.length - (s.pos + 6 + n))) = 6 + body.length := by omega
  rw [hend]

/-- An order is received if its reader gets it from the bytes of the order. -/
lemma secondaryReceives_of_reads {read : Attempt WStream SecondaryOrder}
    (hflags : extraFlags < 2 ^ 16)
    (hread : readSecondaryOrder settings orderType extraFlags = some read)
    (hclient : SecondaryAccepts settings callbacks)
    (hknown : orderType ∈ [0x00, 0x01, 0x02, 0x03, 0x04, 0x05, 0x07, 0x08])
    (hmin : 7 ≤ body.length) (hmax : body.length < 2 ^ 16 + 7) (hreads : read.Reads body order) :
    SecondaryReceives settings callbacks (updateSendSecondary orderType extraFlags body) order :=
  secondaryReceives_of_gets hflags hread hclient hknown hmin hmax hreads.gets

/-- An order that is received with nothing behind it is not too short, and its reader has got it
within the length of the header. -/
lemma sent_of_received {read : Attempt WStream SecondaryOrder} {rest' : WStream}
    (hflags : extraFlags < 2 ^ 16)
    (hread : readSecondaryOrder settings orderType extraFlags = some read)
    (hknown : orderType ∈ [0x00, 0x01, 0x02, 0x03, 0x04, 0x05, 0x07, 0x08])
    (hs : s.unread = updateSendSecondary orderType extraFlags body ++ [])
    (h : updateRecvOrderSecondary settings callbacks s = some ⟨some order, true, rest'⟩) :
    7 ≤ body.length ∧ ∃ s', read (s.seek 6) = (some order, s') ∧
      s'.pos ≤ s.pos + 6 + ((6 + body.length + 2 ^ 16 - 13) % 2 ^ 16 + 7) := by
  have hremaining := remainingLength_of_unread hs
  rw [length_updateSendSecondary] at hremaining
  rw [updateRecvOrderSecondary_sent (lt_of_mem_secondaryTypes hknown) hflags hs, recvSecondaryBody,
    remainingLength_seek, hread, hremaining] at h
  split at h
  · exact absurd h (by simp)
  split at h
  · exact absurd h (by simp)
  rename_i hlong
  split at h
  · exact absurd h (by simp)
  simp only [List.length_nil] at hlong
  refine ⟨by omega, ?_⟩
  dsimp only at h
  rcases hgot : read (s.seek 6) with ⟨_ | order', s'⟩ <;> rw [hgot] at h
  · unfold skipSecondaryOrder at h
    dsimp only at h
    split at h
    · exact absurd h (by simp)
    · split at h <;> exact absurd h (by simp)
  · unfold skipSecondaryOrder at h
    dsimp only at h
    split at h
    · exact absurd h (by simp)
    rename_i hpos
    rw [pos_seek] at hpos
    have horder : order' = order := by
      split at h
      · exact absurd h (by simp)
      · simp only [Option.some.injEq, SecondaryResult.mk.injEq] at h
        exact h.1
    exact ⟨s', by rw [horder], by omega⟩

end Sent

end FreeRdp
