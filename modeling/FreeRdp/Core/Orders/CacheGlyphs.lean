import FreeRdp.Core.Orders.CacheBitmaps

/-!
# Orders for the caches of color tables, glyphs and brushes

When the client gets the palette, the glyphs or the pattern that the server sends. A color table is
written with three bytes for a color and read with four.
-/

namespace FreeRdp

open WStream

/-! ### What is sent -/

/-- The index, the offsets, the size and the bitmap of a glyph. -/
def GlyphDataV2.content (g : GlyphDataV2) : Nat × Int × Int × Nat × Nat × List UInt8 :=
  (g.cacheIndex, g.x, g.y, g.cx, g.cy, g.aj)

/-- The rows of a brush. -/
def CacheBrushOrder.pattern (o : CacheBrushOrder) : List UInt8 :=
  o.data.toList.take (8 * brushScanline o.bpp)

/-- The two orders have the same palette, glyphs or pattern. -/
def SecondaryOrder.SameContent : SecondaryOrder → SecondaryOrder → Prop
  | .cacheColorTable o, .cacheColorTable o' => o.colorTable = o'.colorTable
  | .cacheGlyph o, .cacheGlyph o' =>
    o.glyphData.map GlyphDataV2.content = o'.glyphData.map GlyphDataV2.content
  | .cacheGlyphV2 o, .cacheGlyphV2 o' =>
    o.glyphData.map GlyphDataV2.content = o'.glyphData.map GlyphDataV2.content
  | .cacheBrush o, .cacheBrush o' =>
    o.bpp = o'.bpp ∧ o.cx = o'.cx ∧ o.cy = o'.cy ∧ o.pattern = o'.pattern
  | _, _ => False

/-- Wherever the bytes stand, the client accepts them and gets the content of the order. -/
def SecondaryRoundTrips (settings : SecondarySettings) (callbacks : SecondaryCallbacks)
    (bytes : List UInt8) (order : SecondaryOrder) : Prop :=
  ∀ s rest, s.unread = bytes ++ rest → ∃ order' rest',
    updateRecvOrderSecondary settings callbacks s = some ⟨some order', true, rest'⟩ ∧
      order'.SameContent order

/-- The offsets of a glyph are of their types, and its bitmap has its size. -/
structure GlyphDataV2.WellFormed (width : Nat) (g : GlyphDataV2) : Prop where
  x : -2 ^ (width - 1) ≤ g.x ∧ g.x < 2 ^ (width - 1)
  y : -2 ^ (width - 1) ≤ g.y ∧ g.y < 2 ^ (width - 1)
  aj : g.aj.length = glyphBytes g.cx g.cy

/-- A color table, glyphs or a brush. The first revision of glyphs has offsets of 16 bits. -/
def SecondaryOrder.WellFormed : SecondaryOrder → Prop
  | .cacheGlyph o => ∀ g ∈ o.glyphData, g.WellFormed 16
  | .cacheGlyphV2 o => ∀ g ∈ o.glyphData, g.WellFormed 32
  | .cacheColorTable _ => True
  | .cacheBrush _ => True
  | _ => False

/-- The client has the revision of glyphs that is sent. -/
def SecondaryOrder.LevelFits (glyphSupportLevel : Nat) : SecondaryOrder → Prop
  | .cacheGlyph _ =>
    glyphSupportLevel = GLYPH_SUPPORT_PARTIAL ∨ glyphSupportLevel = GLYPH_SUPPORT_FULL
  | .cacheGlyphV2 _ => glyphSupportLevel = GLYPH_SUPPORT_ENCODE
  | _ => True

/-! ### When it is received -/

/-- The length of the order. -/
def CacheGlyphOrder.size (o : CacheGlyphOrder) : Nat :=
  8 + (o.glyphData.map fun g => 10 + glyphBytes g.cx g.cy).sum

/-- The glyphs fit into the order. -/
structure CacheGlyphOrder.Fits (o : CacheGlyphOrder) : Prop where
  cGlyphs : o.glyphData.length < 2 ^ 8
  glyphs : ∀ g ∈ o.glyphData, g.cacheIndex < 2 ^ 16 ∧ g.cx < 2 ^ 16 ∧ g.cy < 2 ^ 16
  min : 13 ≤ o.size
  max : o.size < 2 ^ 16 + 13

/-- The length of a glyph of the second revision. -/
def glyphV2Size (g : GlyphDataV2) : Nat :=
  1 + (if g.x.natAbs < 0x3F then 1 else 2) + (if g.y.natAbs < 0x3F then 1 else 2) +
    (if g.cx < 0x7F then 1 else 2) + (if g.cy < 0x7F then 1 else 2) + glyphBytes g.cx g.cy

/-- The length of the order. The lowest flag is for the characters. -/
def CacheGlyphV2Order.size (o : CacheGlyphV2Order) : Nat :=
  6 + (o.glyphData.map glyphV2Size).sum + if o.flags % 2 = 1 then 2 * o.glyphData.length else 0

/-- The glyphs fit into the order, and the offsets have an opposite. -/
structure CacheGlyphV2Order.Fits (o : CacheGlyphV2Order) : Prop where
  cGlyphs : o.glyphData.length < 2 ^ 8
  glyphs : ∀ g ∈ o.glyphData, g.cacheIndex < 2 ^ 8 ∧ g.x ≠ -2 ^ 31 ∧ g.y ≠ -2 ^ 31
  min : 13 ≤ o.size
  max : o.size < 2 ^ 16 + 13

/-- The rows of the brush, taken as compressed, are the rows of the brush. -/
def CacheBrushOrder.SelfCompressed (o : CacheBrushOrder) : Prop :=
  ∀ i < 8 * brushScanline o.bpp,
    brushPixelByte (brushRows (brushScanline o.bpp) o.data.toList) (o.bpp / 8) i =
      o.data.toList.getD i 0

/-- The brush has 8 rows of 8 pixels, and its length does not say that it is compressed. -/
structure CacheBrushOrder.Fits (o : CacheBrushOrder) : Prop where
  cx : o.cx = 8
  cy : o.cy = 8
  length : o.bpp = 1 ∨ o.length % 2 ^ 8 ≠ 16 + o.bpp / 2 ∨ o.SelfCompressed

/-- The bytes of the order are received as they are sent. -/
def SecondaryOrder.Fits : SecondaryOrder → Prop
  | .cacheGlyph o => o.Fits
  | .cacheGlyphV2 o => o.Fits
  | .cacheBrush o => o.Fits
  | _ => False

/-! ### Orders that are read -/

section Client

variable {settings : SecondarySettings} {callbacks : SecondaryCallbacks} {orderType extraFlags : Nat}
  {body : List UInt8} {order order' : SecondaryOrder} {read : Attempt WStream SecondaryOrder}

/-- The reader of an order that is received gets the content of the order. -/
lemma SecondaryRoundTrips.gets (hflags : extraFlags < 2 ^ 16)
    (hread : readSecondaryOrder settings orderType extraFlags = some read)
    (hknown : orderType ∈ [0x00, 0x01, 0x02, 0x03, 0x04, 0x05, 0x07, 0x08])
    (h : SecondaryRoundTrips settings callbacks (updateSendSecondary orderType extraFlags body)
      order) :
    7 ≤ body.length ∧ ∃ s order' s', s.unread = body ++ [] ∧ read s = (some order', s') ∧
      s'.pos ≤ s.pos + ((6 + body.length + 2 ^ 16 - 13) % 2 ^ 16 + 7) ∧
      order'.SameContent order := by
  have hs : (WStream.ofBytes (updateSendSecondary orderType extraFlags body)).unread =
      updateSendSecondary orderType extraFlags body ++ [] := by
    rw [unread_ofBytes, List.append_nil]
  obtain ⟨order', rest', hrecv, hsame⟩ := h _ [] hs
  obtain ⟨hmin, s', hgot, hpos⟩ := sent_of_received hflags hread hknown hs hrecv
  exact ⟨hmin, _, order', s', unread_sent hs, hgot, hpos, hsame⟩

/-- An order whose reader gets the content from all its bytes is received if its length fits into
the header. -/
lemma secondaryRoundTrips_iff_of_reads (hflags : extraFlags < 2 ^ 16)
    (hread : readSecondaryOrder settings orderType extraFlags = some read)
    (hclient : SecondaryAccepts settings callbacks)
    (hknown : orderType ∈ [0x00, 0x01, 0x02, 0x03, 0x04, 0x05, 0x07, 0x08])
    (hreads : read.Reads body order') (hsame : order'.SameContent order) :
    SecondaryRoundTrips settings callbacks (updateSendSecondary orderType extraFlags body) order ↔
      7 ≤ body.length ∧ body.length < 2 ^ 16 + 7 := by
  constructor
  · intro h
    obtain ⟨hmin, s, order'', s', hs, hgot, hpos, -⟩ := h.gets hflags hread hknown
    rw [hreads s [] hs] at hgot
    cases hgot
    rw [pos_seek] at hpos
    omega
  · rintro ⟨hmin, hmax⟩ s rest hs
    have hreceives := secondaryReceives_of_reads hflags hread hclient hknown hmin hmax hreads
    exact ⟨order', _, hreceives s rest hs, hsame⟩

/-- An order whose length fits into the header is received if its reader gets the content. -/
lemma secondaryRoundTrips_iff_of_gets (hflags : extraFlags < 2 ^ 16)
    (hread : readSecondaryOrder settings orderType extraFlags = some read)
    (hclient : SecondaryAccepts settings callbacks)
    (hknown : orderType ∈ [0x00, 0x01, 0x02, 0x03, 0x04, 0x05, 0x07, 0x08])
    (hmin : 7 ≤ body.length) (hmax : body.length < 2 ^ 16 + 7) (hgets : read.Gets body order') :
    SecondaryRoundTrips settings callbacks (updateSendSecondary orderType extraFlags body) order ↔
      order'.SameContent order := by
  constructor
  · intro h
    obtain ⟨-, s, order'', s', hs, hgot, -, hsame⟩ := h.gets hflags hread hknown
    obtain ⟨n, -, hgot'⟩ := hgets s [] hs
    rw [hgot'] at hgot
    cases hgot
    exact hsame
  · intro hsame s rest hs
    have hreceives := secondaryReceives_of_gets hflags hread hclient hknown hmin hmax hgets
    exact ⟨order', _, hreceives s rest hs, hsame⟩

end Client

/-! ### Glyphs of the first revision -/

lemma toSigned_of_bytes {v : Int} (h : -2 ^ 15 ≤ v) (h' : v < 2 ^ 15) :
    toSigned 16 (v % 2 ^ 16).toNat = v := by
  have hcast : ((v % 2 ^ 16).toNat : Int) = v % 2 ^ 16 := by omega
  unfold toSigned
  rw [hcast]
  have hmod : (v % 2 ^ 16).bmod (2 ^ 16) = v.bmod (2 ^ 16) := Int.emod_bmod v (2 ^ 16)
  rw [hmod]
  exact Int.bmod_eq_of_le (by omega) (by omega)

/-- The glyph with the length of its bitmap. -/
def GlyphDataV2.withCb (g : GlyphDataV2) : GlyphDataV2 := { g with cb := glyphBytes g.cx g.cy }

lemma map_content_withCb (glyphs : List GlyphDataV2) :
    (glyphs.map GlyphDataV2.withCb).map GlyphDataV2.content = glyphs.map GlyphDataV2.content := by
  rw [List.map_map]
  rfl

lemma reads_readGlyph {g : GlyphData} (hwf : g.WellFormed 16) (hindex : g.cacheIndex < 2 ^ 16)
    (hcx : g.cx < 2 ^ 16) (hcy : g.cy < 2 ^ 16) : readGlyph.Reads (writeGlyph g) g.withCb := by
  rw [writeGlyph, List.take_of_length_le hwf.aj.le]
  refine Attempt.reads_need_bind (by simp [bytesUInt16, bytesInt16]) ?_
  refine (Attempt.reads_takeUInt16 hindex).bind ?_
  refine (Attempt.reads_takeUInt16 (by omega)).bind ?_
  refine (Attempt.reads_takeUInt16 (by omega)).bind ?_
  refine (Attempt.reads_takeUInt16 hcx).bind ((Attempt.reads_takeUInt16 hcy).bind ?_)
  refine Attempt.reads_need_bind hwf.aj.ge ?_
  rw [← List.append_nil g.aj, toSigned_of_bytes hwf.x.1 hwf.x.2, toSigned_of_bytes hwf.y.1 hwf.y.2]
  refine (Attempt.reads_takeBytes (by simpa using hwf.aj)).bind ?_
  exact Attempt.reads_pure g.withCb

lemma ensures_readGlyph :
    readGlyph.Ensures fun g => g.cacheIndex < 2 ^ 16 ∧ g.cx < 2 ^ 16 ∧ g.cy < 2 ^ 16 := by
  refine Attempt.ensures_bind_right fun _ => ?_
  refine Attempt.ensures_takeUInt16.bind fun cacheIndex hindex => ?_
  refine Attempt.ensures_bind_right fun x => Attempt.ensures_bind_right fun y => ?_
  refine Attempt.ensures_takeUInt16.bind fun cx hcx => ?_
  refine Attempt.ensures_takeUInt16.bind fun cy hcy => ?_
  refine Attempt.ensures_bind_right fun _ => Attempt.ensures_bind_right fun aj => ?_
  exact Attempt.ensures_pure ⟨hindex, hcx, hcy⟩

/-- What the client gets of the order. -/
def CacheGlyphOrder.carried (o : CacheGlyphOrder) : CacheGlyphOrder where
  cacheId := o.cacheId % 2 ^ 8
  glyphData := o.glyphData.map GlyphDataV2.withCb
  unicodeCharacters := none

lemma length_writeGlyph {g : GlyphData} (hwf : g.WellFormed 16) :
    (writeGlyph g).length = 10 + glyphBytes g.cx g.cy := by
  rw [writeGlyph, List.take_of_length_le hwf.aj.le]
  simp only [List.length_append, bytesUInt16, bytesInt16, List.length_cons, List.length_nil, hwf.aj]
  omega

lemma length_flatMap_of_eq {α : Type} {w : α → List UInt8} {size : α → Nat} {xs : List α}
    (h : ∀ x ∈ xs, (w x).length = size x) : (xs.flatMap w).length = (xs.map size).sum := by
  rw [List.length_flatMap, List.map_congr_left h]

/-- The bytes of the order behind the header. -/
lemma length_updateWriteCacheGlyphOrder {o : CacheGlyphOrder}
    (hwf : ∀ g ∈ o.glyphData, g.WellFormed 16) :
    6 + (updateWriteCacheGlyphOrder o 0).2.length = o.size := by
  have hglyphs := length_flatMap_of_eq fun g hg => length_writeGlyph (hwf g hg)
  simp only [updateWriteCacheGlyphOrder, List.length_append, bytesUInt8, List.length_cons,
    List.length_nil, hglyphs, writeUnicode, CacheGlyphOrder.size]
  simp
  omega

lemma reads_updateReadCacheGlyphOrder {o : CacheGlyphOrder}
    (hwf : ∀ g ∈ o.glyphData, g.WellFormed 16) (hcount : o.glyphData.length < 2 ^ 8)
    (hglyphs : ∀ g ∈ o.glyphData, g.cacheIndex < 2 ^ 16 ∧ g.cx < 2 ^ 16 ∧ g.cy < 2 ^ 16) :
    (updateReadCacheGlyphOrder 0).Reads (updateWriteCacheGlyphOrder o 0).2 o.carried := by
  have hread := Attempt.reads_times fun g hg =>
    reads_readGlyph (hwf g hg) (hglyphs g hg).1 (hglyphs g hg).2.1 (hglyphs g hg).2.2
  refine Attempt.reads_need_bind (by simp [updateWriteCacheGlyphOrder, bytesUInt8]) ?_
  refine (Attempt.reads_takeUInt8_mod o.cacheId).bind ?_
  refine (Attempt.reads_takeUInt8 hcount).bind (hread.bind ?_)
  exact Attempt.reads_pure o.carried

lemma ensures_updateReadCacheGlyphOrder (flags : Nat) : (updateReadCacheGlyphOrder flags).Ensures
    fun o => o.glyphData.length < 2 ^ 8 ∧
      ∀ g ∈ o.glyphData, g.cacheIndex < 2 ^ 16 ∧ g.cx < 2 ^ 16 ∧ g.cy < 2 ^ 16 := by
  refine Attempt.ensures_bind_right fun _ => Attempt.ensures_bind_right fun cacheId => ?_
  refine Attempt.ensures_takeUInt8.bind fun cGlyphs hcount => ?_
  refine (Attempt.ensures_times ensures_readGlyph cGlyphs).bind fun glyphData hglyphs => ?_
  refine Attempt.ensures_bind_right fun characters => Attempt.ensures_pure ⟨?_, hglyphs.2⟩
  rw [hglyphs.1]
  exact hcount

/-- A property of the content of glyphs goes over to glyphs with the same content. -/
lemma forall_of_content {P : Nat × Int × Int × Nat × Nat × List UInt8 → Prop}
    {glyphs glyphs' : List GlyphDataV2}
    (h : glyphs'.map GlyphDataV2.content = glyphs.map GlyphDataV2.content)
    (hP : ∀ g ∈ glyphs', P g.content) : ∀ g ∈ glyphs, P g.content := by
  intro g hg
  have hmem : g.content ∈ glyphs'.map GlyphDataV2.content := h ▸ List.mem_map_of_mem hg
  obtain ⟨g', hg', heq⟩ := List.mem_map.mp hmem
  exact heq ▸ hP g' hg'

section Client

variable {settings : SecondarySettings} {callbacks : SecondaryCallbacks}

/-- Glyphs of the first revision are received as they are sent if they fit. -/
lemma cacheGlyph_roundTrips_iff (hclient : SecondaryAccepts settings callbacks)
    {o : CacheGlyphOrder} (hwf : ∀ g ∈ o.glyphData, g.WellFormed 16)
    (hlevel : settings.glyphSupportLevel = GLYPH_SUPPORT_PARTIAL ∨
      settings.glyphSupportLevel = GLYPH_SUPPORT_FULL) :
    SecondaryRoundTrips settings callbacks (updateSendCacheGlyph o) (.cacheGlyph o) ↔ o.Fits := by
  have hread : readSecondaryOrder settings ORDER_TYPE_CACHE_GLYPH 0 =
      some (do pure (.cacheGlyph (← updateReadCacheGlyphOrder 0))) := if_pos hlevel
  have hlength := length_updateWriteCacheGlyphOrder hwf
  have hflags : (updateWriteCacheGlyphOrder o 0).1 < 2 ^ 16 := (by decide : 0 < 2 ^ 16)
  -- with the members in their ranges, the length is what is left
  have hiff := fun (hcount : o.glyphData.length < 2 ^ 8)
      (hglyphs : ∀ g ∈ o.glyphData, g.cacheIndex < 2 ^ 16 ∧ g.cx < 2 ^ 16 ∧ g.cy < 2 ^ 16) =>
    @secondaryRoundTrips_iff_of_reads _ _ _ _ _ (.cacheGlyph o) _ _ hflags hread hclient (by decide)
      ((reads_updateReadCacheGlyphOrder hwf hcount hglyphs).map SecondaryOrder.cacheGlyph)
      (map_content_withCb o.glyphData)
  constructor
  · intro h
    obtain ⟨-, s, order', s', -, hgot, -, hsame⟩ := h.gets hflags hread (by decide)
    obtain ⟨o', rfl, hcount, hglyphs⟩ :=
      (ensures_updateReadCacheGlyphOrder 0).map SecondaryOrder.cacheGlyph s order' s' hgot
    have hlen := congrArg List.length hsame
    rw [List.length_map, List.length_map] at hlen
    have hglyphs' := forall_of_content hsame
      (P := fun c => c.1 < 2 ^ 16 ∧ c.2.2.2.1 < 2 ^ 16 ∧ c.2.2.2.2.1 < 2 ^ 16) hglyphs
    obtain ⟨hmin, hmax⟩ := (hiff (hlen ▸ hcount) hglyphs').mp h
    exact ⟨hlen ▸ hcount, hglyphs', by omega, by omega⟩
  · intro h
    have hmin := h.min
    have hmax := h.max
    exact (hiff h.cGlyphs h.glyphs).mpr ⟨by omega, by omega⟩

end Client

/-! ### Glyphs of the second revision -/

/-- The bytes of a glyph that can be written. -/
lemma writeGlyphV2_eq_some {g : GlyphDataV2} {bytes : List UInt8} (h : writeGlyphV2 g = some bytes) :
    ∃ x y cx cy, updateWrite2byteSigned g.x = some x ∧ updateWrite2byteSigned g.y = some y ∧
      updateWrite2byteUnsigned g.cx = some cx ∧ updateWrite2byteUnsigned g.cy = some cy ∧
      bytes = bytesUInt8 g.cacheIndex ++ (x ++ (y ++ (cx ++ (cy ++
        g.aj.take (glyphBytes g.cx g.cy))))) := by
  simp only [writeGlyphV2, Option.bind_eq_bind, Option.bind_eq_some_iff, Option.some.injEq] at h
  obtain ⟨x, hx, y, hy, cx, hcx, cy, hcy, hbytes⟩ := h
  exact ⟨x, y, cx, cy, hx, hy, hcx, hcy, hbytes.symm⟩

lemma length_updateWrite2byteUnsigned {value : Nat} {bytes : List UInt8}
    (h : updateWrite2byteUnsigned value = some bytes) :
    bytes.length = if value < 0x7F then 1 else 2 := by
  unfold updateWrite2byteUnsigned at h
  split at h
  · exact absurd h nofun
  split at h <;> cases h
  · rw [if_neg (by omega)]
    rfl
  · rw [if_pos (by omega)]
    rfl

lemma length_updateWrite2byteSigned {value : Int} {bytes : List UInt8} (hmin : -2 ^ 31 < value)
    (h : updateWrite2byteSigned value = some bytes) :
    bytes.length = if value.natAbs < 0x3F then 1 else 2 := by
  have habs : (if value < 0 then toInt32 (-value) else value) = value.natAbs := by
    split
    · rename_i hneg
      rw [toInt32_neg hneg hmin]
      omega
    · omega
  unfold updateWrite2byteSigned at h
  simp only [habs] at h
  clear habs
  generalize (if value < 0 then 0x40 else 0) = sign at h
  split at h
  · exact absurd h nofun
  split at h <;> cases h
  · rw [if_neg (by omega)]
    rfl
  · rw [if_pos (by omega)]
    rfl

lemma length_writeGlyphV2 {g : GlyphDataV2} {bytes : List UInt8} (hwf : g.WellFormed 32)
    (hx : g.x ≠ -2 ^ 31) (hy : g.y ≠ -2 ^ 31) (h : writeGlyphV2 g = some bytes) :
    bytes.length = glyphV2Size g := by
  obtain ⟨x, y, cx, cy, hwx, hwy, hwcx, hwcy, rfl⟩ := writeGlyphV2_eq_some h
  have hminx := hwf.x.1
  have hminy := hwf.y.1
  rw [List.take_of_length_le hwf.aj.le]
  simp only [List.length_append, length_updateWrite2byteSigned (by omega) hwx,
    length_updateWrite2byteSigned (by omega) hwy, length_updateWrite2byteUnsigned hwcx,
    length_updateWrite2byteUnsigned hwcy, hwf.aj, bytesUInt8, List.length_cons, List.length_nil,
    glyphV2Size]
  omega

lemma reads_readGlyphV2 {g : GlyphDataV2} {bytes : List UInt8} (hwf : g.WellFormed 32)
    (hindex : g.cacheIndex < 2 ^ 8) (hx : g.x ≠ -2 ^ 31) (hy : g.y ≠ -2 ^ 31)
    (h : writeGlyphV2 g = some bytes) : readGlyphV2.Reads bytes g.withCb := by
  obtain ⟨x, y, cx, cy, hwx, hwy, hwcx, hwcy, rfl⟩ := writeGlyphV2_eq_some h
  have hminx := hwf.x.1
  have hminy := hwf.y.1
  rw [List.take_of_length_le hwf.aj.le]
  refine Attempt.reads_need_bind (by simp [bytesUInt8]) ?_
  refine (Attempt.reads_takeUInt8 hindex).bind ?_
  refine (reads_updateRead2byteSigned 0 (by omega) hwx).toAttempt.bind ?_
  refine (reads_updateRead2byteSigned 0 (by omega) hwy).toAttempt.bind ?_
  refine (reads_updateRead2byteUnsigned 0 hwcx).toAttempt.bind ?_
  refine (reads_updateRead2byteUnsigned 0 hwcy).toAttempt.bind ?_
  refine Attempt.reads_need_bind hwf.aj.ge ?_
  rw [← List.append_nil g.aj]
  refine (Attempt.reads_takeBytes (by simpa using hwf.aj)).bind ?_
  exact Attempt.reads_pure g.withCb

lemma byteAt_lt (s : WStream) (i : Nat) : s.byteAt i < 2 ^ 8 := UInt8.toNat_lt _

/-- No number that is read is the smallest one. -/
lemma ensures_updateRead2byteSigned :
    (Attempt.ofReader updateRead2byteSigned 0).Ensures fun v => -2 ^ 31 < v := by
  intro s v s' hs
  have hbound : ∀ (c : Prop) [Decidable c] (n : Nat), n < 2 ^ 14 →
      -2 ^ 31 < (if c then (-1 : Int) else 1) * (n : Int) := by
    intro c _ n hn
    split <;> omega
  have hread : updateRead2byteSigned 0 s = (v, some s') := by
    unfold Attempt.ofReader at hs
    split at hs
    · cases hs
      assumption
    · exact absurd hs (by simp)
  unfold updateRead2byteSigned at hread
  split at hread
  · exact absurd hread (by simp)
  dsimp only at hread
  split at hread
  · split at hread
    · exact absurd hread (by simp)
    · cases hread
      refine hbound _ _ (Nat.or_lt_two_pow ?_ ?_)
      · rw [and_3F, Nat.shiftLeft_eq]
        omega
      · exact lt_trans (byteAt_lt _ 0) (by decide)
  · cases hread
    refine hbound _ _ ?_
    rw [and_3F]
    omega

lemma ensures_readGlyphV2 : readGlyphV2.Ensures
    fun g => g.cacheIndex < 2 ^ 8 ∧ g.x ≠ -2 ^ 31 ∧ g.y ≠ -2 ^ 31 := by
  refine Attempt.ensures_bind_right fun _ => ?_
  refine Attempt.ensures_takeUInt8.bind fun cacheIndex hindex => ?_
  refine ensures_updateRead2byteSigned.bind fun x hx => ?_
  refine ensures_updateRead2byteSigned.bind fun y hy => ?_
  refine Attempt.ensures_bind_right fun cx => Attempt.ensures_bind_right fun cy => ?_
  refine Attempt.ensures_bind_right fun _ => Attempt.ensures_bind_right fun aj => ?_
  exact Attempt.ensures_pure ⟨hindex, hx.ne', hy.ne'⟩

/-- The flags of the order and what the client takes from them. -/
lemma glyphFlags (cacheId flags count : Nat) :
    let extraFlags := (cacheId &&& 0x000F) ||| (flags &&& 0x000F) <<< 4 ||| (count &&& 0x00FF) <<< 8
    extraFlags < 2 ^ 16 ∧ (extraFlags &&& 0xFF00) >>> 8 = count % 2 ^ 8 ∧
      (extraFlags &&& CG_GLYPH_UNICODE_PRESENT ≠ 0 ↔ flags % 2 = 1) := by
  intro extraFlags
  have h0F : ∀ v, v &&& 0x0F = v % 16 := fun v => and_mask_eq_mod v 4
  have heq : extraFlags = count % 2 ^ 8 * 2 ^ 8 + (flags % 16 * 2 ^ 4 + cacheId % 16) := by
    show (cacheId &&& 0x0F) ||| (flags &&& 0x0F) <<< 4 ||| (count &&& 0xFF) <<< 8 = _
    rw [h0F, h0F, and_FF, Nat.or_comm (cacheId % 16), shiftLeft_or_eq_add (i := 4) (by omega),
      Nat.or_comm, shiftLeft_or_eq_add (i := 8) (by omega)]
    rfl
  refine ⟨by omega, ?_, ?_⟩
  · rw [Nat.shiftRight_and_distrib, Nat.shiftRight_eq_div_pow]
    exact (and_FF (extraFlags / 2 ^ 8)).trans (by omega)
  · have hbit : extraFlags &&& CG_GLYPH_UNICODE_PRESENT = (extraFlags.testBit 4).toNat * 2 ^ 4 :=
      Nat.and_two_pow extraFlags 4
    rw [hbit, Nat.testBit_eq_decide_div_mod_eq]
    have hdiv : extraFlags / 2 ^ 4 % 2 = flags % 2 := by omega
    rw [hdiv]
    by_cases hflag : flags % 2 = 1 <;> simp [hflag]

/-- A list of glyphs that can be written. -/
lemma mapM_writeGlyphV2 {glyphs : List GlyphDataV2} {bytes : List (List UInt8)}
    (h : glyphs.mapM writeGlyphV2 = some bytes) :
    bytes.flatten = glyphs.flatMap (fun g => (writeGlyphV2 g).getD []) ∧
      ∀ g ∈ glyphs, writeGlyphV2 g = some ((writeGlyphV2 g).getD []) := by
  induction glyphs generalizing bytes with
  | nil =>
    cases h
    exact ⟨rfl, nofun⟩
  | cons g glyphs ih =>
    simp only [List.mapM_cons, Option.bind_eq_bind, Option.bind_eq_some_iff, Option.pure_def,
      Option.some.injEq] at h
    obtain ⟨first, hfirst, others, hothers, rfl⟩ := h
    obtain ⟨hflatten, hall⟩ := ih hothers
    refine ⟨by simp [hfirst, hflatten], ?_⟩
    rintro g' (_ | ⟨_, hg'⟩)
    · rw [hfirst]
      rfl
    · exact hall g' hg'

/-- The characters are read back. -/
lemma reads_readUnicode (flags count : Nat) : ∃ characters,
    (readUnicode flags count).Reads (writeUnicode flags count) characters := by
  unfold readUnicode writeUnicode
  by_cases hflag : flags &&& CG_GLYPH_UNICODE_PRESENT ≠ 0
  · by_cases hcount : 0 < count
    · rw [if_pos ⟨hflag, hcount⟩, if_pos hflag]
      have hlength : (List.replicate (count * 2) (0 : UInt8)).length = 2 * count := by
        rw [List.length_replicate, Nat.mul_comm]
      exact ⟨_, Attempt.reads_need_bind hlength.ge ((Attempt.reads_takeBytes hlength).map some)⟩
    · rw [if_neg fun h => hcount h.2, if_pos hflag, Nat.eq_zero_of_not_pos hcount]
      exact ⟨none, Attempt.reads_pure none⟩
  · rw [if_neg fun h => hflag h.1, if_neg hflag]
    exact ⟨none, Attempt.reads_pure none⟩

section Written

variable {o : CacheGlyphV2Order} {extraFlags : Nat} {body : List UInt8}

/-- The flags and bytes of an order that can be written. -/
lemma updateWriteCacheGlyphV2Order_eq_some
    (h : updateWriteCacheGlyphV2Order o = some (extraFlags, body)) :
    extraFlags < 2 ^ 16 ∧ (extraFlags &&& 0xFF00) >>> 8 = o.glyphData.length % 2 ^ 8 ∧
      (extraFlags &&& CG_GLYPH_UNICODE_PRESENT ≠ 0 ↔ o.flags % 2 = 1) ∧
      body = o.glyphData.flatMap (fun g => (writeGlyphV2 g).getD []) ++
        writeUnicode extraFlags o.glyphData.length ∧
      ∀ g ∈ o.glyphData, writeGlyphV2 g = some ((writeGlyphV2 g).getD []) := by
  obtain ⟨hlt, hcount, hunicode⟩ := glyphFlags o.cacheId o.flags o.glyphData.length
  simp only [updateWriteCacheGlyphV2Order, Option.bind_eq_bind, Option.bind_eq_some_iff,
    Option.some.injEq, Prod.mk.injEq] at h
  obtain ⟨glyphs, hglyphs, rfl, rfl⟩ := h
  obtain ⟨hflatten, hall⟩ := mapM_writeGlyphV2 hglyphs
  exact ⟨hlt, hcount, hunicode, by rw [hflatten], hall⟩

lemma length_updateWriteCacheGlyphV2Order (hwf : ∀ g ∈ o.glyphData, g.WellFormed 32)
    (h : updateWriteCacheGlyphV2Order o = some (extraFlags, body))
    (hglyphs : ∀ g ∈ o.glyphData, g.cacheIndex < 2 ^ 8 ∧ g.x ≠ -2 ^ 31 ∧ g.y ≠ -2 ^ 31) :
    6 + body.length = o.size := by
  obtain ⟨-, -, hunicode, rfl, hall⟩ := updateWriteCacheGlyphV2Order_eq_some h
  have hsum := @length_flatMap_of_eq _ _ glyphV2Size _ fun g hg =>
    length_writeGlyphV2 (hwf g hg) (hglyphs g hg).2.1 (hglyphs g hg).2.2 (hall g hg)
  rw [List.length_append, hsum, CacheGlyphV2Order.size, writeUnicode]
  by_cases hflag : o.flags % 2 = 1
  · rw [if_pos (hunicode.mpr hflag), if_pos hflag, List.length_replicate]
    omega
  · rw [if_neg fun h => hflag (hunicode.mp h), if_neg hflag, List.length_nil]
    rfl

lemma reads_updateReadCacheGlyphV2Order (hwf : ∀ g ∈ o.glyphData, g.WellFormed 32)
    (h : updateWriteCacheGlyphV2Order o = some (extraFlags, body))
    (hlength : o.glyphData.length < 2 ^ 8)
    (hglyphs : ∀ g ∈ o.glyphData, g.cacheIndex < 2 ^ 8 ∧ g.x ≠ -2 ^ 31 ∧ g.y ≠ -2 ^ 31) :
    ∃ o', (updateReadCacheGlyphV2Order extraFlags).Reads body o' ∧
      o'.glyphData = o.glyphData.map GlyphDataV2.withCb := by
  obtain ⟨-, hcount, -, rfl, hall⟩ := updateWriteCacheGlyphV2Order_eq_some h
  obtain ⟨characters, hcharacters⟩ := reads_readUnicode extraFlags o.glyphData.length
  have hread := Attempt.reads_times fun g hg => reads_readGlyphV2 (hwf g hg) (hglyphs g hg).1
    (hglyphs g hg).2.1 (hglyphs g hg).2.2 (hall g hg)
  unfold updateReadCacheGlyphV2Order
  rw [hcount, Nat.mod_eq_of_lt hlength, ← List.append_nil (writeUnicode _ _)]
  exact ⟨_, hread.bind (hcharacters.bind (Attempt.reads_pure _)), rfl⟩

lemma ensures_updateReadCacheGlyphV2Order :
    (updateReadCacheGlyphV2Order extraFlags).Ensures fun o => o.glyphData.length < 2 ^ 8 ∧
      ∀ g ∈ o.glyphData, g.cacheIndex < 2 ^ 8 ∧ g.x ≠ -2 ^ 31 ∧ g.y ≠ -2 ^ 31 := by
  refine (Attempt.ensures_times ensures_readGlyphV2 _).bind fun glyphData hglyphs => ?_
  refine Attempt.ensures_bind_right fun characters => Attempt.ensures_pure ⟨?_, hglyphs.2⟩
  rw [hglyphs.1, Nat.shiftRight_and_distrib, Nat.shiftRight_eq_div_pow]
  exact lt_of_le_of_lt Nat.and_le_right (by decide)

end Written

section Client

variable {settings : SecondarySettings} {callbacks : SecondaryCallbacks}

/-- Glyphs of the second revision are received as they are sent if they fit. -/
lemma cacheGlyphV2_roundTrips_iff (hclient : SecondaryAccepts settings callbacks)
    {o : CacheGlyphV2Order} {bytes : List UInt8} (hwf : ∀ g ∈ o.glyphData, g.WellFormed 32)
    (hlevel : settings.glyphSupportLevel = GLYPH_SUPPORT_ENCODE)
    (hsend : updateSendCacheGlyphV2 o = some bytes) :
    SecondaryRoundTrips settings callbacks bytes (.cacheGlyphV2 o) ↔ o.Fits := by
  simp only [updateSendCacheGlyphV2, Option.bind_eq_bind, Option.bind_eq_some_iff,
    Option.some.injEq] at hsend
  obtain ⟨⟨extraFlags, body⟩, hwrite, rfl⟩ := hsend
  have hread : readSecondaryOrder settings ORDER_TYPE_CACHE_GLYPH extraFlags =
      some (do pure (.cacheGlyphV2 (← updateReadCacheGlyphV2Order extraFlags))) := by
    show (if _ then _ else _) = _
    rw [hlevel]
    rfl
  have hflags := (updateWriteCacheGlyphV2Order_eq_some hwrite).1
  have hiff : o.glyphData.length < 2 ^ 8 →
      (∀ g ∈ o.glyphData, g.cacheIndex < 2 ^ 8 ∧ g.x ≠ -2 ^ 31 ∧ g.y ≠ -2 ^ 31) →
      (SecondaryRoundTrips settings callbacks (updateSendSecondary ORDER_TYPE_CACHE_GLYPH extraFlags
        body) (.cacheGlyphV2 o) ↔ 13 ≤ o.size ∧ o.size < 2 ^ 16 + 13) := by
    intro hcount hglyphs
    obtain ⟨o', hreads, hdata⟩ := reads_updateReadCacheGlyphV2Order hwf hwrite hcount hglyphs
    have hsame : (SecondaryOrder.cacheGlyphV2 o').SameContent (.cacheGlyphV2 o) := by
      show o'.glyphData.map _ = _
      rw [hdata, map_content_withCb]
    rw [secondaryRoundTrips_iff_of_reads hflags hread hclient (by decide)
      (hreads.map SecondaryOrder.cacheGlyphV2) hsame]
    have hlength := length_updateWriteCacheGlyphV2Order hwf hwrite hglyphs
    omega
  constructor
  · intro h
    obtain ⟨-, s, order', s', -, hgot, -, hsame⟩ := h.gets hflags hread (by decide)
    obtain ⟨o', rfl, hcount, hglyphs⟩ := ensures_updateReadCacheGlyphV2Order.map
      SecondaryOrder.cacheGlyphV2 s order' s' hgot
    have hlen := congrArg List.length hsame
    rw [List.length_map, List.length_map] at hlen
    have hglyphs' := forall_of_content hsame
      (P := fun c => c.1 < 2 ^ 8 ∧ c.2.1 ≠ -2 ^ 31 ∧ c.2.2.1 ≠ -2 ^ 31) hglyphs
    obtain ⟨hmin, hmax⟩ := (hiff (hlen ▸ hcount) hglyphs').mp h
    exact ⟨hlen ▸ hcount, hglyphs', hmin, hmax⟩
  · intro h
    exact (hiff h.cGlyphs h.glyphs).mpr ⟨h.min, h.max⟩

/-! ### Color tables -/

/-- There are too few bytes for the color table. -/
lemma updateReadCacheColorTableOrder_fails {o : CacheColorTableOrder} {s : WStream}
    (hcolors : o.numberColors = 256)
    (hs : s.unread = bytesUInt8 o.cacheIndex ++ (bytesUInt16 o.numberColors ++
      o.colorTable.toList.flatMap updateWriteColorQuad)) :
    (updateReadCacheColorTableOrder s).1 = none := by
  have hquads : (o.colorTable.toList.flatMap updateWriteColorQuad).length = 768 := by
    have hsum := @length_flatMap_of_eq _ updateWriteColorQuad (fun _ => 3)
      o.colorTable.toList fun _ _ => rfl
    rw [hsum, List.map_const', List.sum_replicate, Vector.length_toList]
    rfl
  have hremaining : s.remainingLength = 771 := by
    rw [remainingLength_eq, hs]
    simp only [List.length_append, hquads, bytesUInt8, bytesUInt16, List.length_cons,
      List.length_nil]
  have hcount := unread_seek_append hs (n := 1) rfl
  have hcolors' : o.numberColors < 2 ^ 16 := by omega
  unfold updateReadCacheColorTableOrder
  rw [Attempt.need_bind_apply (by omega), (Attempt.reads_takeUInt8_mod _).bind_apply hs]
  change ((Attempt.takeUInt16 >>= _) (s.seek 1)).1 = none
  rw [(Attempt.reads_takeUInt16 hcolors').bind_apply hcount, hcolors]
  change ((Attempt.need (256 * 4) >>= _) ((s.seek 1).seek 2)).1 = none
  rw [Attempt.need_bind_fails]
  rw [remainingLength_seek, remainingLength_seek, hremaining]
  decide

/-- A color table is never received as it is sent. -/
lemma cacheColorTable_not_roundTrips {o : CacheColorTableOrder} {bytes : List UInt8}
    (hsend : updateSendCacheColorTable o = some bytes) :
    ¬SecondaryRoundTrips settings callbacks bytes (.cacheColorTable o) := by
  simp only [updateSendCacheColorTable, updateWriteCacheColorTableOrder, Option.bind_eq_bind,
    Option.bind_eq_some_iff, Option.some.injEq] at hsend
  obtain ⟨⟨flags, body⟩, hwrite, rfl⟩ := hsend
  split at hwrite
  · exact absurd hwrite nofun
  rename_i hcolors
  cases hwrite
  intro h
  obtain ⟨-, s, order', s', hs, hgot, -, -⟩ := h.gets (Nat.zero_lt_succ _) rfl (by decide)
  have hfails := updateReadCacheColorTableOrder_fails (not_not.mp hcolors)
    (hs.trans (List.append_nil _))
  change Attempt.andThen updateReadCacheColorTableOrder _ s = _ at hgot
  unfold Attempt.andThen at hgot
  rcases hread : updateReadCacheColorTableOrder s with ⟨_ | o', s''⟩ <;> rw [hread] at hgot hfails
  · exact absurd hgot (by simp)
  · exact absurd hfails (by simp)

end Client

/-! ### Brushes -/

/-- Rows one after the other. -/
lemma flatMap_rows (n : Nat) (bytes : List UInt8) (k : Nat) :
    (List.range k).flatMap (fun i => (bytes.drop (i * n)).take n) = bytes.take (k * n) := by
  induction k with
  | zero => simp
  | succ k ih =>
    rw [List.range_succ, List.flatMap_append, ih, Nat.succ_mul, List.take_add]
    simp

/-- A row of rows of the same length. -/
lemma row_flatten {n : Nat} {rows : List (List UInt8)} (h : ∀ row ∈ rows, row.length = n) (i : Nat) :
    (rows.flatten.drop (i * n)).take n = rows.getD i [] := by
  induction rows generalizing i with
  | nil => simp
  | cons row rows ih =>
    have hrow := h row List.mem_cons_self
    cases i with
    | zero => simp [← hrow]
    | succ i =>
      have hdrop : (row :: rows).flatten.drop ((i + 1) * n) = rows.flatten.drop (i * n) := by
        rw [List.flatten_cons, Nat.succ_mul, Nat.add_comm, ← List.drop_drop, ← hrow,
          List.drop_left]
      rw [hdrop, ih fun r hr => h r (List.mem_cons_of_mem _ hr)]
      rfl

/-- The rows the other way round twice are the rows. -/
lemma brushRows_brushRows {n : Nat} {bytes : List UInt8} (h : 8 * n ≤ bytes.length) :
    brushRows n (brushRows n bytes) = bytes.take (8 * n) := by
  have hlength : ∀ row ∈ (List.range 8).map (fun i => (bytes.drop ((7 - i) * n)).take n),
      row.length = n := by
    intro row hrow
    obtain ⟨i, hi, rfl⟩ := List.mem_map.mp hrow
    have hbound : (7 - i) * n ≤ 7 * n := Nat.mul_le_mul_right n (Nat.sub_le 7 i)
    rw [List.length_take, List.length_drop]
    omega
  have hrow : ∀ i ∈ List.range 8, ((brushRows n bytes).drop ((7 - i) * n)).take n =
      (bytes.drop (i * n)).take n := by
    intro i hi
    have hi8 : i < 8 := List.mem_range.mp hi
    have h7 : 7 - (7 - i) = i := by omega
    have hlt : 7 - i < 8 := by omega
    rw [brushRows, List.flatMap_def, row_flatten hlength]
    simp [List.getD_eq_getElem?_getD, List.getElem?_range hlt, h7]
  rw [← flatMap_rows n bytes 8]
  exact List.flatMap_congr hrow

lemma length_brushRows {n : Nat} {bytes : List UInt8} (h : 8 * n ≤ bytes.length) :
    (brushRows n bytes).length = 8 * n := by
  have hlength : ∀ i ∈ List.range 8, ((bytes.drop ((7 - i) * n)).take n).length = n := by
    intro i hi
    have hbound : (7 - i) * n ≤ 7 * n := Nat.mul_le_mul_right n (Nat.sub_le 7 i)
    rw [List.length_take, List.length_drop]
    omega
  rw [brushRows, length_flatMap_of_eq hlength, List.map_const', List.sum_replicate,
    List.length_range, smul_eq_mul]

lemma take_brushData {bytes : List UInt8} (h : bytes.length ≤ 256) :
    (brushData bytes).toList.take bytes.length = bytes := by
  refine List.ext_getElem (by simp [h]) fun i hi hi' => ?_
  simp [brushData, List.getD_eq_getElem?_getD, List.getElem?_eq_getElem hi']

lemma take_ofFn_eq_iff {f : Nat → UInt8} {v : Vector UInt8 256} {n : Nat} (hn : n ≤ 256) :
    (Vector.ofFn fun i : Fin 256 => f i).toList.take n = v.toList.take n ↔
      ∀ i < n, f i = v.toList.getD i 0 := by
  have hv : v.toList.length = 256 := v.size_toArray
  constructor
  · intro h i hi
    have hget := congrArg (fun l => l.getD i 0) h
    simpa [List.getD_eq_getElem?_getD, List.getElem?_take, hi, show i < 256 by omega] using hget
  · intro h
    refine List.ext_getElem (by simp) fun i hi hi' => ?_
    simp only [List.length_take] at hi'
    have hget := h i (by omega)
    simpa [List.getD_eq_getElem?_getD, show i < 256 by omega] using hget

/-- The rows of a brush that has been read back. -/
lemma take_brushData_brushRows {n : Nat} {bytes : List UInt8} (hbytes : bytes.length = 256)
    (hn : 8 * n ≤ 256) :
    (brushData (brushRows n (brushRows n bytes))).toList.take (8 * n) = bytes.take (8 * n) := by
  have hlength : (bytes.take (8 * n)).length = 8 * n := by
    rw [List.length_take]
    omega
  rw [brushRows_brushRows (by omega)]
  have htake := @take_brushData (bytes.take (8 * n)) (by omega)
  rwa [hlength] at htake

/-- What holds of the depths with more than one bit. -/
lemma depth_facts {bpp iBitmapFormat : Nat} (h : getBppBmf bpp = some iBitmapFormat)
    (h1 : bpp ≠ 1) : iBitmapFormat < 2 ^ 8 ∧ getBmfBpp iBitmapFormat = some bpp ∧
      (bpp + 1) / 8 = bpp / 8 ∧ brushScanline bpp = bpp / 8 * 8 ∧ 1 ≤ bpp / 8 ∧ bpp / 8 ≤ 4 ∧
      ∀ length, brushCompressed iBitmapFormat length = decide (length = 16 + bpp / 2) := by
  unfold getBppBmf at h
  split at h <;> cases h
  · exact absurd rfl h1
  all_goals
    refine ⟨by decide, by decide, by decide, by decide, by decide, by decide, fun length => ?_⟩
    simp [brushCompressed]

/-- The bytes of a compressed brush decide its pixels. -/
lemma brushPixelByte_append {bytes rest : List UInt8} {bytesPerPixel i : Nat}
    (hi : i < 64 * bytesPerPixel) (hbytes : 16 + 4 * bytesPerPixel ≤ bytes.length) :
    brushPixelByte (bytes ++ rest) bytesPerPixel i = brushPixelByte bytes bytesPerPixel i := by
  have hpos : 0 < bytesPerPixel := by omega
  have hget : ∀ n < bytes.length, (bytes ++ rest).getD n 0 = bytes.getD n 0 := by
    intro n hn
    simp [List.getD_eq_getElem?_getD, List.getElem?_append_left hn]
  have hpixel : i / bytesPerPixel < 64 := Nat.div_lt_of_lt_mul (by rwa [Nat.mul_comm])
  have hmod : i % bytesPerPixel < bytesPerPixel := Nat.mod_lt i hpos
  have hindex : ∀ b : UInt8, ∀ k, b.toNat >>> k &&& 0x03 ≤ 3 := fun b k => Nat.and_le_right
  have hposition : ∀ p < 64, (7 - p / 8) * 2 + p % 8 / 4 < 16 := by
    intro p hp
    omega
  have hbyte := hget _ (lt_of_lt_of_le (hposition _ hpixel) (by omega : 16 ≤ bytes.length))
  have hmul := Nat.mul_le_mul_right bytesPerPixel (hindex (bytes.getD
    ((7 - i / bytesPerPixel / 8) * 2 + i / bytesPerPixel % 8 / 4) 0)
    ((3 - i / bytesPerPixel % 8 % 4) * 2))
  unfold brushPixelByte
  dsimp only
  rw [hbyte, hget _ (by omega)]

/-- The data of a brush is read back, or what it is if it is taken as compressed. -/
lemma gets_readBrushData {o : CacheBrushOrder} {iBitmapFormat : Nat} {bytes : List UInt8}
    (hbmf : getBppBmf o.bpp = some iBitmapFormat) (hcx : o.cx = 8) (hcy : o.cy = 8)
    (hwrite : writeBrushData o = some bytes) : ∃ data,
      (readBrushData iBitmapFormat o.bpp 8 8 (o.length % 2 ^ 8)).Gets bytes data ∧
        bytes.length = 8 * brushScanline o.bpp ∧ 1 ≤ bytes.length ∧ bytes.length ≤ 256 ∧
        (data.toList.take (8 * brushScanline o.bpp) = o.pattern ↔
          o.bpp = 1 ∨ o.length % 2 ^ 8 ≠ 16 + o.bpp / 2 ∨ o.SelfCompressed) := by
  rw [writeBrushData, if_pos ⟨hcx, hcy⟩] at hwrite
  rw [readBrushData, if_pos ⟨rfl, rfl⟩]
  have hdata : o.data.toList.length = 256 := o.data.size_toArray
  by_cases h1 : o.bpp = 1
  · rw [if_pos h1] at hwrite
    split at hwrite
    · exact absurd hwrite nofun
    rename_i hlength
    cases hwrite
    have hscan : brushScanline o.bpp = 1 := if_pos h1
    have hbytes := @length_brushRows 1 o.data.toList (by omega)
    refine ⟨brushData (brushRows 1 (brushRows 1 o.data.toList)), ?_, by rw [hscan, hbytes],
      by omega, by omega, fun _ => .inl h1, fun _ => ?_⟩
    · rw [if_pos h1]
      refine Attempt.Reads.gets (Attempt.reads_require_bind ?_ (Attempt.reads_need_bind hbytes.ge ?_))
      · simp [not_not.mp hlength]
      · exact (Attempt.reads_takeBytes hbytes).map fun bytes => brushData (brushRows 1 bytes)
    · rw [CacheBrushOrder.pattern, hscan]
      exact take_brushData_brushRows hdata (by omega)
  rw [if_neg h1] at hwrite ⊢
  obtain ⟨-, -, hpixel, hscan, hmin, hmax, hcompressed⟩ := depth_facts hbmf h1
  split at hwrite
  · exact absurd hwrite nofun
  cases hwrite
  have hbytes := @length_brushRows (brushScanline o.bpp) o.data.toList (by omega)
  by_cases hc : o.length % 2 ^ 8 = 16 + o.bpp / 2
  · refine ⟨Vector.ofFn fun i => if i < 64 * (o.bpp / 8) then
      brushPixelByte (brushRows (brushScanline o.bpp) o.data.toList) (o.bpp / 8) i else 0, ?_, hbytes,
      by omega, by omega, ?_⟩
    · rw [if_pos (by rw [hcompressed, hc]; simp)]
      intro s rest hs
      refine ⟨16, by omega, ?_⟩
      unfold updateDecompressBrush
      rw [hpixel]
      have hremaining := remainingLength_of_unread hs
      rw [Attempt.need_bind_apply (by omega)]
      show (some _, s.seek 16) = _
      refine congrArg (fun v => (some (Vector.ofFn v), s.seek 16)) (funext fun i => ?_)
      by_cases hi : i < 64 * (o.bpp / 8)
      · rw [if_pos hi, if_pos hi, hs, brushPixelByte_append hi (by omega)]
      · rw [if_neg hi, if_neg hi]
    · rw [CacheBrushOrder.pattern]
      refine (take_ofFn_eq_iff (f := fun i => if i < 64 * (o.bpp / 8) then brushPixelByte
        (brushRows (brushScanline o.bpp) o.data.toList) (o.bpp / 8) i else 0) (by omega)).trans ?_
      constructor
      · intro h
        refine .inr (.inr fun i hi => ?_)
        rw [← h i hi, if_pos (by omega)]
      · rintro (h | h | h) i hi
        · exact absurd h h1
        · exact absurd hc h
        · rw [← h i hi, if_pos (by omega)]
  · refine ⟨brushData (brushRows (brushScanline o.bpp) (brushRows (brushScanline o.bpp)
      o.data.toList)), ?_, hbytes, by omega, by omega, fun _ => .inr (.inl hc), fun _ => ?_⟩
    · rw [if_neg (by rw [hcompressed]; simpa using hc)]
      refine Attempt.Reads.gets (Attempt.reads_need_bind (by omega) ?_)
      exact (Attempt.reads_takeBytes (by omega)).map fun bytes =>
        brushData (brushRows (brushScanline o.bpp) bytes)
    · rw [CacheBrushOrder.pattern]
      exact take_brushData_brushRows hdata (by omega)

section Client

variable {settings : SecondarySettings} {callbacks : SecondaryCallbacks}

/-- A brush is received as it is sent if it fits. -/
lemma cacheBrush_roundTrips_iff (hclient : SecondaryAccepts settings callbacks)
    {o : CacheBrushOrder} {bytes : List UInt8} (hsend : updateSendCacheBrush o = some bytes) :
    SecondaryRoundTrips settings callbacks bytes (.cacheBrush o) ↔ o.Fits := by
  simp only [updateSendCacheBrush, updateWriteCacheBrushOrder, Option.bind_eq_bind,
    Option.bind_eq_some_iff, Option.some.injEq] at hsend
  obtain ⟨_, ⟨iBitmapFormat, hbmf, data, hdata, rfl⟩, rfl⟩ := hsend
  by_cases h8 : o.cx = 8 ∧ o.cy = 8
  · obtain ⟨data', hgets, -, hmin, hmax, hsame⟩ := gets_readBrushData hbmf h8.1 h8.2 hdata
    have hformat : iBitmapFormat < 2 ^ 8 ∧ getBmfBpp iBitmapFormat = some o.bpp := by
      by_cases h1 : o.bpp = 1
      · rw [h1] at hbmf ⊢
        cases hbmf
        exact ⟨by decide, rfl⟩
      · exact ⟨(depth_facts hbmf h1).1, (depth_facts hbmf h1).2.1⟩
    have hread : updateReadCacheBrushOrder.Gets (bytesUInt8 o.index ++ (bytesUInt8 iBitmapFormat ++
        (bytesUInt8 o.cx ++ (bytesUInt8 o.cy ++ (bytesUInt8 o.style ++ (bytesUInt8 o.length ++
          data)))))) { o with index := o.index % 2 ^ 8, style := o.style % 2 ^ 8, cx := 8, cy := 8,
                              length := o.length % 2 ^ 8, data := data' } := by
      refine Attempt.gets_need_bind (by simp [bytesUInt8]) ?_
      refine (Attempt.reads_takeUInt8_mod o.index).bind_gets ?_
      refine (Attempt.reads_takeUInt8 hformat.1).bind_gets ?_
      rw [hformat.2, h8.1, h8.2, Attempt.lift_some_bind]
      refine (Attempt.reads_takeUInt8 (v := 8) (by decide)).bind_gets ?_
      refine (Attempt.reads_takeUInt8 (v := 8) (by decide)).bind_gets ?_
      refine (Attempt.reads_takeUInt8_mod o.style).bind_gets ?_
      refine (Attempt.reads_takeUInt8_mod o.length).bind_gets ?_
      exact hgets.map _
    rw [secondaryRoundTrips_iff_of_gets (Nat.zero_lt_succ _) rfl hclient (by decide)
      (by simp [bytesUInt8]; omega) (by simp [bytesUInt8]; omega)
      (hread.map SecondaryOrder.cacheBrush)]
    constructor
    · rintro ⟨-, -, -, hpattern⟩
      exact ⟨h8.1, h8.2, hsame.mp hpattern⟩
    · intro h
      exact ⟨rfl, h8.1.symm, h8.2.symm, hsame.mpr h.length⟩
  · -- there is no pattern, and the order is too short for the header
    rw [writeBrushData, if_neg h8] at hdata
    cases hdata
    refine ⟨fun h => ?_, fun h => absurd ⟨h.cx, h.cy⟩ h8⟩
    obtain ⟨hmin, -⟩ := h.gets (Nat.zero_lt_succ _) rfl (by decide)
    simp [bytesUInt8] at hmin

/-- The bytes of a color table, glyphs or a brush are received as they are sent if and only if the
order fits. -/
lemma secondaryRoundTrips_iff (hclient : SecondaryAccepts settings callbacks)
    (noBitmapCompressionHeader : Bool) {order : SecondaryOrder} {bytes : List UInt8}
    (hwf : order.WellFormed) (hlevel : order.LevelFits settings.glyphSupportLevel)
    (hsend : updateSendCache noBitmapCompressionHeader order = some bytes) :
    SecondaryRoundTrips settings callbacks bytes order ↔ order.Fits := by
  cases order with
  | cacheBitmap o => exact absurd hwf id
  | cacheBitmapV2 o => exact absurd hwf id
  | cacheBitmapV3 o => exact absurd hwf id
  | cacheColorTable o => exact iff_of_false (cacheColorTable_not_roundTrips hsend) id
  | cacheGlyph o =>
    cases hsend
    exact cacheGlyph_roundTrips_iff hclient hwf hlevel
  | cacheGlyphV2 o => exact cacheGlyphV2_roundTrips_iff hclient hwf hlevel hsend
  | cacheBrush o => exact cacheBrush_roundTrips_iff hclient hsend

end Client

end FreeRdp
