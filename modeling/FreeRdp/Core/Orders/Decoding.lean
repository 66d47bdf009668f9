import FreeRdp.Core.Orders.Incremental

/-!
# The readers and the meaning of orders

An order that a reader accepts leaves the record its meaning asks for. For most order types this is
so in every state. Where a reader works on a field again after it has been read, it is so in the
states accepted orders leave, and for a MemBlt, Mem3Blt or PolygonCB order without this field only
if the value that was split off has not been lost.
-/

namespace FreeRdp

section Fields

variable {α β : Type} {info : OrderInfo} {number : Nat}

lemma accepted_readOrderField (m : Member α β) (r : Reader WStream β)
    (rs : List (Reader WStream α)) (a : α) (s : WStream) :
    (Reader.all (readOrderField info number m r :: rs)).accepted a s =
      (orderValue info number r (m.get a) s).bind
        (fun p => (Reader.all rs).accepted (m.set a p.1) p.2) := by
  rw [Reader.accepted_all_cons, readOrderField, Reader.accepted_when]
  unfold orderValue
  split
  · rw [Reader.accepted_into, Option.bind_map]
    rfl
  · exact congrArg (fun a => (Reader.all rs).accepted a s) (m.set_get a).symm

/-- A field that is several members of the record: it is enough to know what its reader does. -/
lemma accepted_when_cons {r : Reader WStream α} {r' : Reader WStream β} (set : α → β → α)
    (rs : List (Reader WStream α)) (a : α) (s : WStream) (old : β) (hold : set a old = a)
    (hr : r.accepted a s = (r'.accepted old s).map (fun p => (set a p.1, p.2))) :
    (Reader.all (.when (orderFieldFlagIsSet info.fieldFlags number) r :: rs)).accepted a s =
      (orderValue info number r' old s).bind
        (fun p => (Reader.all rs).accepted (set a p.1) p.2) := by
  rw [Reader.accepted_all_cons, Reader.accepted_when]
  unfold orderValue
  split
  · rw [hr, Option.bind_map]
    rfl
  · exact congrArg (fun a => (Reader.all rs).accepted a s) hold.symm

lemma accepted_choose_cons (r : α → Reader WStream α) (rs : List (Reader WStream α)) (a : α)
    (s : WStream) :
    (Reader.all (.choose r :: rs)).accepted a s = (Reader.all (r a :: rs)).accepted a s := rfl

/-- The length and the rectangles of a multi order. -/
lemma accepted_readRects {count cbData : Member α Nat}
    {rectangles : Member α (Vector DeltaRect 45)} (rs : List (Reader WStream α)) (a : α)
    (s : WStream) (hcount : ∀ v, count.get (cbData.set a v) = count.get a)
    (hrects : ∀ v, rectangles.get (cbData.set a v) = rectangles.get a) :
    (Reader.all (readRects info number count cbData rectangles :: rs)).accepted a s =
      (orderValue info number (rectsReader (count.get a)) (cbData.get a, rectangles.get a) s).bind
        (fun p => (Reader.all rs).accepted (rectangles.set (cbData.set a p.1.1) p.1.2) p.2) := by
  refine accepted_when_cons (fun a (p : Nat × Vector DeltaRect 45) =>
    rectangles.set (cbData.set a p.1) p.2) rs a s _ ?_ ?_
  · simp only [cbData.set_get, rectangles.set_get]
  · rw [rectsReader, Reader.accepted_into_cons, Reader.accepted_into_cons, Option.map_bind]
    refine Option.bind_congr (fun p _ => ?_)
    simp only [Function.comp_apply, accepted_choose_cons, hcount, Reader.accepted_into_cons, hrects,
      Reader.accepted_all_nil, Option.map_bind]
    rfl

/-- The length and the data of a glyph order. -/
lemma accepted_readGlyphData {cbData : Member α Nat} {data : Member α (List UInt8)}
    (rs : List (Reader WStream α)) (a : α) (s : WStream)
    (hdata : ∀ v, data.get (cbData.set a v) = data.get a) :
    (Reader.all (readGlyphData info number cbData data :: rs)).accepted a s =
      (orderValue info number glyphDataReader (cbData.get a, data.get a) s).bind
        (fun p => (Reader.all rs).accepted (data.set (cbData.set a p.1.1) p.1.2) p.2) := by
  refine accepted_when_cons (fun a (p : Nat × List UInt8) =>
    data.set (cbData.set a p.1) p.2) rs a s _ ?_ ?_
  · simp only [cbData.set_get, data.set_get]
  · rw [glyphDataReader, Reader.accepted_into_cons, Reader.accepted_into_cons, Option.map_bind]
    refine Option.bind_congr (fun p _ => ?_)
    simp only [Function.comp_apply, accepted_choose_cons, cbData.get_set, Reader.accepted_into_cons,
      hdata, Reader.accepted_all_nil, Option.map_bind]
    rfl

lemma accepted_updateReadDeltaPoints (num : Nat) (points points' : List DeltaPoint) (s : WStream) :
    (updateReadDeltaPoints num).accepted points s =
      (updateReadDeltaPoints num).accepted points' s := by
  unfold Reader.accepted updateReadDeltaPoints
  simp only
  split <;> rfl

/-- The points of a polygon or line: the count is only stored with them. -/
lemma accepted_readPoints {num : Nat} {count cbData : Member α Nat}
    {points : Member α (List DeltaPoint)} (a : α) (s : WStream)
    (hcount : ∀ a v w, points.set (count.set (points.set a v) num) w =
      count.set (points.set a w) num) :
    (readPoints info number num count cbData points).accepted a s =
      (orderValue info number (pointsReader num) (cbData.get a, points.get a) s).map
        (fun p => (if orderFieldFlagIsSet info.fieldFlags number then
          count.set (points.set (cbData.set a p.1.1) p.1.2) num else a, p.2)) := by
  rw [readPoints, Reader.accepted_when]
  unfold orderValue
  split
  · rw [Reader.parse, pointsReader, Reader.accepted_check_cons, Reader.accepted_check_cons,
      Option.map_bind]
    refine Option.bind_congr (fun p _ => ?_)
    rw [Reader.accepted_into_cons, Function.comp_apply, Reader.accepted_into_cons, Option.map_bind]
    refine Option.bind_congr (fun p _ => ?_)
    rw [Reader.accepted_all_cons, Function.comp_apply, Reader.accepted_assign, Option.bind_some,
      Reader.accepted_into_cons, Reader.accepted_into_cons, Option.map_bind,
      accepted_updateReadDeltaPoints num _ (points.get a)]
    refine Option.bind_congr (fun q _ => ?_)
    simp only [Reader.accepted_all_nil, Function.comp_apply, Option.map_some, hcount]
  · rfl

lemma accepted_withLocal (count : Member α Nat) (r : Reader WStream (α × Nat)) (a : α)
    (s : WStream) :
    (withLocal count r).accepted a s =
      (r.accepted (a, count.get a) s).map (fun p => (p.1.1, p.2)) := by
  unfold withLocal Reader.accepted
  cases (r (a, count.get a) s).2 <;> rfl

/-- The data of a FastGlyph order. -/
lemma accepted_readFastGlyph (rs : List (Reader WStream FastGlyphOrder)) (o : FastGlyphOrder)
    (s : WStream) :
    (Reader.all (readFastGlyph info :: rs)).accepted o s =
      (orderValue info 15 fastGlyphReader (o.cbData, o.data, o.glyphData) s).bind
        (fun p => (Reader.all rs).accepted
          { o with cbData := p.1.1, data := p.1.2.1, glyphData := p.1.2.2 } p.2) := by
  refine accepted_when_cons (fun (o : FastGlyphOrder) (p : Nat × List UInt8 × GlyphDataV2) =>
    { o with cbData := p.1, data := p.2.1, glyphData := p.2.2 }) rs o s _ rfl ?_
  rw [fastGlyphReader, Reader.accepted_into_cons, Reader.accepted_into_cons, Option.map_bind]
  refine Option.bind_congr (fun p _ => ?_)
  rw [Reader.accepted_check_cons, Function.comp_apply, Reader.accepted_check_cons, Option.map_bind]
  refine Option.bind_congr (fun q _ => ?_)
  rw [accepted_choose_cons, Function.comp_apply, accepted_choose_cons, Reader.accepted_into_cons,
    Reader.accepted_into_cons, Option.map_bind]
  refine Option.bind_congr (fun q _ => ?_)
  rcases hglyph : readFastGlyphData p.1 q.1 o.glyphData with ⟨glyph, _ | _⟩ <;>
    simp [Reader.all, Reader.andThen, Reader.accepted, Reader.skip, hglyph]

end Fields

/-! ### Brushes -/

/-- The index and the depth of a cached brush are those of its hatch and style. -/
def Brush.Valid (b : Brush) : Prop :=
  b.style &&& CACHED_BRUSH ≠ 0 → b.index = b.hatch ∧ getBmfBpp b.style = some b.bpp

lemma accepted_updateReadCachedBrush {changed : Bool} {b : Brush} (s : WStream)
    (hb : changed = false → b.Valid) :
    updateReadCachedBrush.accepted b s =
      (cachedBrushValue changed b.style b.hatch (b.index, b.bpp) s).map
        (fun p => ({ b with index := p.1.1, bpp := p.1.2 }, p.2)) := by
  unfold updateReadCachedBrush cachedBrushValue Reader.accepted
  by_cases hcached : b.style &&& CACHED_BRUSH = 0
  · simp [hcached]
  cases changed with
  | true =>
    cases hbpp : getBmfBpp b.style <;> simp [hcached, hbpp]
  | false =>
    obtain ⟨hindex, hbpp⟩ := hb rfl hcached
    simp [hcached, hbpp, ← hindex]

lemma orderValue_unset {β : Type} {info : OrderInfo} {number : Nat} (r : Reader WStream β) (old : β)
    (s : WStream) (h : orderFieldFlagIsSet info.fieldFlags number = false) :
    orderValue info number r old s = some (old, s) := by
  simp [orderValue, h]
  rfl

lemma accepted_updateReadPattern (b : Brush) (s : WStream) :
    updateReadPattern.accepted b s = ((patternReader b.hatch).accepted (b.data, b.p8x8) s).map
      (fun p => ({ b with data := p.1.1, p8x8 := p.1.2 }, p.2)) := by
  unfold updateReadPattern patternReader readValue Reader.accepted
  simp only
  split <;> rfl

theorem accepted_updateReadBrush (fieldFlags : Nat) {b : Brush} (s : WStream) (hb : b.Valid) :
    (updateReadBrush fieldFlags).accepted b s = brushUpdated fieldFlags b s := by
  have hfields : updateReadBrush fieldFlags = .all [
      readOrderField (brushInfo fieldFlags) 1 (.mk (·.x) fun brush v => { brush with x := v })
        (readValue 1 (fun s => s.readUInt8.1)),
      readOrderField (brushInfo fieldFlags) 2 (.mk (·.y) fun brush v => { brush with y := v })
        (readValue 1 (fun s => s.readUInt8.1)),
      readOrderField (brushInfo fieldFlags) 3
        (.mk (·.style) fun brush v => { brush with style := v })
        (readValue 1 (fun s => s.readUInt8.1)),
      readOrderField (brushInfo fieldFlags) 4
        (.mk (·.hatch) fun brush v => { brush with hatch := v })
        (readValue 1 (fun s => s.readUInt8.1)),
      updateReadCachedBrush,
      .when (orderFieldFlagIsSet (brushInfo fieldFlags).fieldFlags 5) updateReadPattern] := rfl
  rw [hfields]
  simp only [accepted_readOrderField]
  refine Option.bind_congr (fun x _ => Option.bind_congr (fun y _ => Option.bind_congr
    (fun style hstyle => Option.bind_congr (fun hatch hhatch => ?_))))
  -- style and hatch have not changed if neither flag is set
  have hvalid : (orderFieldFlagIsSet fieldFlags 3 || orderFieldFlagIsSet fieldFlags 4) = false →
      { b with x := x.1, y := y.1, style := style.1, hatch := hatch.1 }.Valid := by
    intro hflags
    obtain ⟨h3, h4⟩ := Bool.or_eq_false_iff.mp hflags
    rw [orderValue_unset _ _ _ h3, Option.some.injEq] at hstyle
    rw [orderValue_unset _ _ _ h4, Option.some.injEq] at hhatch
    rw [← hstyle, ← hhatch]
    exact hb
  rw [Reader.accepted_all_cons]
  simp only
  rw [accepted_updateReadCachedBrush hatch.2 hvalid, Option.bind_map]
  refine Option.bind_congr (fun cached _ => ?_)
  exact accepted_when_cons (fun (b : Brush) (p : Bool × Vector UInt8 8) =>
    { b with data := p.1, p8x8 := p.2 }) [] _ _ _ rfl (accepted_updateReadPattern _ _)

/-! ### The color of opaque rectangles -/

section Color

variable {color : Nat} {byte : Nat}

private lemma red_stored (hcolor : color < 2 ^ 24) (hbyte : byte < 256) :
    color &&& 0x00FFFF00 ||| byte <<< 0 = byte + 256 * (color / 256) := by
  have hmask : (0x00FFFF00 : Nat) = (2 ^ 16 - 1) * 2 ^ 8 := by norm_num
  have hmod : color / 2 ^ 8 % 2 ^ 16 = color / 256 := Nat.mod_eq_of_lt (by omega)
  rw [hmask, and_mask_shiftLeft, hmod, ← Nat.shiftLeft_eq, Nat.shiftLeft_zero,
    shiftLeft_or_eq_add hbyte]
  omega

private lemma green_stored (hcolor : color < 2 ^ 24) (hbyte : byte < 256) :
    color &&& 0x00FF00FF ||| byte <<< 8 = color % 256 + 256 * byte + 65536 * (color / 65536) := by
  have hmask : (0x00FF00FF : Nat) = (2 ^ 8 - 1) ||| (2 ^ 8 - 1) * 2 ^ 16 := by
    rw [← Nat.shiftLeft_eq, or_shiftLeft_eq_add (by norm_num)]
    norm_num
  have hmod : color / 2 ^ 16 % 2 ^ 8 = color / 65536 := Nat.mod_eq_of_lt (by omega)
  have hlow : color % 2 ^ 8 < 2 ^ 8 := Nat.mod_lt _ (by norm_num)
  rw [hmask, Nat.and_or_distrib_left, and_mask_eq_mod, and_mask_shiftLeft, hmod, Nat.or_right_comm,
    or_shiftLeft_eq_add hlow, ← Nat.shiftLeft_eq (color / 65536),
    or_shiftLeft_eq_add (by omega)]
  omega

private lemma blue_stored :
    color &&& 0x0000FFFF ||| byte <<< 16 = color % 65536 + 65536 * byte := by
  have hlow : color % 2 ^ 16 < 2 ^ 16 := Nat.mod_lt _ (by norm_num)
  have hmask : color &&& 0x0000FFFF = color % 2 ^ 16 := and_mask_eq_mod color 16
  rw [hmask, or_shiftLeft_eq_add hlow]
  omega

/-- A byte of the color is stored with a mask; `place` puts it among the other two. -/
private lemma orderValue_colorByte {info : OrderInfo} {number mask shift : Nat} (old : Nat)
    (place : Nat → Nat) (s : WStream) (hold : place old = color)
    (hplace : ∀ b < 256, color &&& mask ||| b <<< shift = place b) :
    orderValue info number (readColorByte mask shift) color s =
      (byteValue info number old s).map (fun p => (place p.1, p.2)) := by
  unfold byteValue orderValue
  split
  · unfold Reader.parse Reader.accepted readColorByte readValue
    split
    · rfl
    · have hbyte : s.readUInt8.1 < 256 := (s.buffer.getD (s.pos + 0) 0).toNat_lt
      simp only [Option.map_some, hplace _ hbyte]
  · exact congrArg (fun c => some (c, s)) hold.symm

lemma byteValue_lt {info : OrderInfo} {number old : Nat} {s : WStream} {p : Nat × WStream}
    (h : byteValue info number old s = some p) (hold : old < 256) : p.1 < 256 := by
  unfold byteValue orderValue at h
  split at h
  · unfold Reader.parse Reader.accepted readValue at h
    split at h
    · cases h
    · rw [Option.map_some, Option.some.injEq] at h
      rw [← h]
      exact (s.buffer.getD (s.pos + 0) 0).toNat_lt
  · rw [← Option.some.inj h]
    exact hold

lemma accepted_readColorBytes {α : Type} {info : OrderInfo} (m : Member α Nat)
    (rs : List (Reader WStream α)) (a : α) (s : WStream) (hcolor : m.get a < 2 ^ 24) :
    (Reader.all (readOrderField info 5 m (readColorByte 0x00FFFF00 0) ::
        readOrderField info 6 m (readColorByte 0x00FF00FF 8) ::
        readOrderField info 7 m (readColorByte 0x0000FFFF 16) :: rs)).accepted a s =
      (opaqueColorUpdated info (m.get a) s).bind
        (fun p => (Reader.all rs).accepted (m.set a p.1) p.2) := by
  have hbytes : opaqueColorUpdated info (m.get a) s =
      (byteValue info 5 (m.get a % 256) s).bind (fun red =>
        (byteValue info 6 (m.get a / 256 % 256) red.2).bind (fun green =>
          (byteValue info 7 (m.get a / 65536) green.2).bind (fun blue =>
            some (red.1 + 256 * green.1 + 65536 * blue.1, blue.2)))) := rfl
  rw [hbytes, Option.bind_assoc, accepted_readOrderField,
    orderValue_colorByte (m.get a % 256) (fun b => b + 256 * (m.get a / 256)) s (by omega)
      (fun b hb => red_stored hcolor hb), Option.bind_map]
  refine Option.bind_congr (fun red hred => ?_)
  have hred : red.1 < 256 := byteValue_lt hred (by omega)
  rw [Function.comp_apply, Option.bind_assoc, accepted_readOrderField, m.get_set,
    orderValue_colorByte (m.get a / 256 % 256)
      (fun b => red.1 + 256 * b + 65536 * (m.get a / 65536)) red.2 (by omega)
      (fun b hb => by rw [green_stored (by omega) hb]; omega), Option.bind_map]
  refine Option.bind_congr (fun green hgreen => ?_)
  have hgreen : green.1 < 256 := byteValue_lt hgreen (by omega)
  rw [Function.comp_apply, Option.bind_assoc, accepted_readOrderField, m.get_set,
    orderValue_colorByte (m.get a / 65536) (fun b => red.1 + 256 * green.1 + 65536 * b) green.2
      (by omega) (fun b _ => by rw [blue_stored]; omega), Option.bind_map]
  refine Option.bind_congr (fun blue _ => ?_)
  simp only [Function.comp_apply, m.set_set, Option.bind_some]

end Color

/-! ### Order types -/

section Orders

variable {α β γ : Type} {info : OrderInfo} {s : WStream}

/-- A field at the front of a reader and of the meaning of an order. -/
lemma accepted_field {number : Nat} {m : Member α β} {r : Reader WStream β}
    {rs : List (Reader WStream α)} {a : α} {k : β × WStream → Option (α × WStream)}
    (h : ∀ p, orderValue info number r (m.get a) s = some p →
      (Reader.all rs).accepted (m.set a p.1) p.2 = k p) :
    (Reader.all (readOrderField info number m r :: rs)).accepted a s =
      (orderValue info number r (m.get a) s).bind k :=
  (accepted_readOrderField m r rs a s).trans (Option.bind_congr h)

/-- A brush at the front. -/
lemma accepted_brush {fieldFlags : Nat} {m : Member α Brush} {rs : List (Reader WStream α)} {a : α}
    {k : Brush × WStream → Option (α × WStream)} (hbrush : (m.get a).Valid)
    (h : ∀ p, (Reader.all rs).accepted (m.set a p.1) p.2 = k p) :
    (Reader.all (.into m (updateReadBrush fieldFlags) :: rs)).accepted a s =
      (brushUpdated fieldFlags (m.get a) s).bind k := by
  rw [Reader.accepted_into_cons, accepted_updateReadBrush fieldFlags s hbrush]
  exact Option.bind_congr (fun p _ => h p)

variable (info s)

lemma accepted_dstblt (o : DstbltOrder) :
    (updateReadDstbltOrder info).accepted o s = dstbltUpdated info o s := by
  repeat refine accepted_field fun _ _ => ?_
  rfl

lemma accepted_patblt {o : PatbltOrder} (hbrush : o.brush.Valid) :
    (updateReadPatbltOrder info).accepted o s = patbltUpdated info o s := by
  repeat refine accepted_field fun _ _ => ?_
  refine accepted_brush hbrush fun _ => ?_
  rfl

lemma accepted_scrblt (o : ScrbltOrder) :
    (updateReadScrbltOrder info).accepted o s = scrbltUpdated info o s := by
  repeat refine accepted_field fun _ _ => ?_
  rfl

lemma accepted_opaqueRect {o : OpaqueRectOrder} (hcolor : o.color < 2 ^ 24) :
    (updateReadOpaqueRectOrder info).accepted o s = opaqueRectUpdated info o s := by
  refine accepted_field fun _ _ => accepted_field fun _ _ => accepted_field fun _ _ =>
    accepted_field fun _ _ => ?_
  exact accepted_readColorBytes _ _ _ _ hcolor

lemma accepted_drawNineGrid (o : DrawNineGridOrder) :
    (updateReadDrawNineGridOrder info).accepted o s = drawNineGridUpdated info o s := by
  repeat refine accepted_field fun _ _ => ?_
  rfl

lemma accepted_multiDstblt (o : MultiDstbltOrder) :
    (updateReadMultiDstbltOrder info).accepted o s = multiDstbltUpdated info o s := by
  repeat refine accepted_field fun _ _ => ?_
  exact accepted_readRects _ _ _ (fun _ => rfl) (fun _ => rfl)

lemma accepted_multiPatblt {o : MultiPatbltOrder} (hbrush : o.brush.Valid) :
    (updateReadMultiPatbltOrder info).accepted o s = multiPatbltUpdated info o s := by
  repeat refine accepted_field fun _ _ => ?_
  refine accepted_brush hbrush fun _ => ?_
  repeat refine accepted_field fun _ _ => ?_
  exact accepted_readRects _ _ _ (fun _ => rfl) (fun _ => rfl)

lemma accepted_multiScrblt (o : MultiScrbltOrder) :
    (updateReadMultiScrbltOrder info).accepted o s = multiScrbltUpdated info o s := by
  repeat refine accepted_field fun _ _ => ?_
  exact accepted_readRects _ _ _ (fun _ => rfl) (fun _ => rfl)

lemma accepted_multiOpaqueRect {o : MultiOpaqueRectOrder} (hcolor : o.color < 2 ^ 24) :
    (updateReadMultiOpaqueRectOrder info).accepted o s = multiOpaqueRectUpdated info o s := by
  refine accepted_field fun _ _ => accepted_field fun _ _ => accepted_field fun _ _ =>
    accepted_field fun _ _ => ?_
  refine (accepted_readColorBytes _ _ _ _ hcolor).trans (Option.bind_congr fun _ _ => ?_)
  refine accepted_field fun _ _ => ?_
  exact accepted_readRects _ _ _ (fun _ => rfl) (fun _ => rfl)

lemma accepted_multiDrawNineGrid (o : MultiDrawNineGridOrder) :
    (updateReadMultiDrawNineGridOrder info).accepted o s = multiDrawNineGridUpdated info o s := by
  repeat refine accepted_field fun _ _ => ?_
  exact accepted_readRects _ _ _ (fun _ => rfl) (fun _ => rfl)

lemma accepted_lineTo (o : LineToOrder) :
    (updateReadLineToOrder info).accepted o s = lineToUpdated info o s := by
  repeat refine accepted_field fun _ _ => ?_
  rfl

lemma accepted_saveBitmap (o : SaveBitmapOrder) :
    (updateReadSaveBitmapOrder info).accepted o s = saveBitmapUpdated info o s := by
  repeat refine accepted_field fun _ _ => ?_
  rfl

lemma accepted_glyphIndex {o : GlyphIndexOrder} (hbrush : o.brush.Valid) :
    (updateReadGlyphIndexOrder info).accepted o s = glyphIndexUpdated info o s := by
  repeat refine accepted_field fun _ _ => ?_
  refine accepted_brush hbrush fun _ => ?_
  repeat refine accepted_field fun _ _ => ?_
  exact accepted_readGlyphData _ _ _ (fun _ => rfl)

lemma accepted_fastIndex (o : FastIndexOrder) :
    (updateReadFastIndexOrder info).accepted o s = fastIndexUpdated info o s := by
  repeat refine accepted_field fun _ _ => ?_
  exact accepted_readGlyphData _ _ _ (fun _ => rfl)

lemma accepted_fastGlyph (o : FastGlyphOrder) :
    (updateReadFastGlyphOrder info).accepted o s = fastGlyphUpdated info o s := by
  refine accepted_field fun _ _ => ?_
  refine (Reader.accepted_check_cons _ _ _ _).trans (Option.bind_congr fun _ _ => ?_)
  repeat refine accepted_field fun _ _ => ?_
  exact accepted_readFastGlyph _ _ _

lemma accepted_ellipseSc (o : EllipseScOrder) :
    (updateReadEllipseScOrder info).accepted o s = ellipseScUpdated info o s := by
  repeat refine accepted_field fun _ _ => ?_
  rfl

lemma accepted_ellipseCb {o : EllipseCbOrder} (hbrush : o.brush.Valid) :
    (updateReadEllipseCbOrder info).accepted o s = ellipseCbUpdated info o s := by
  repeat refine accepted_field fun _ _ => ?_
  refine accepted_brush hbrush fun _ => ?_
  rfl

/-! ### Fields that are worked on again -/

/-- A field of which the reader takes two parts after it has been read. If the field is not there,
it takes the parts of what the record has kept. -/
private lemma orderValue_split (number n : Nat) (value : WStream → Nat) (split : Nat → Nat × Nat)
    {old : Nat} {parts : Nat × Nat}
    (h : orderFieldFlagIsSet info.fieldFlags number = false → split old = parts) :
    orderValue info number (readValue n (fun s => split (value s))) parts s =
      (orderValue info number (readValue n value) old s).map (fun p => (split p.1, p.2)) := by
  cases hflag : orderFieldFlagIsSet info.fieldFlags number with
  | false =>
    rw [orderValue_unset _ _ _ hflag, orderValue_unset _ _ _ hflag, Option.map_some, h hflag]
  | true =>
    simp only [orderValue, hflag, if_true, Reader.parse, Reader.accepted, readValue]
    split <;> rfl

private lemma cacheId_split {cacheId : Nat} (h : cacheId < 2 ^ 8) :
    (cacheId &&& 0xFF, cacheId >>> 8) = (cacheId, 0) := by
  have hmask : cacheId &&& 0xFF = cacheId % 2 ^ 8 := and_mask_eq_mod cacheId 8
  rw [hmask, Nat.mod_eq_of_lt h, Nat.shiftRight_eq_div_pow, Nat.div_eq_of_lt h]

/-- The cache id and the color index, in a state where they are kept. -/
private lemma orderValue_cacheId {cacheId colorIndex : Nat} (hcacheId : cacheId < 2 ^ 8)
    (hcolorIndex : orderFieldFlagIsSet info.fieldFlags 1 = false → colorIndex = 0) :
    orderValue info 1 cacheIdReader (cacheId, colorIndex) s =
      (orderValue info 1 (readValue 2 (fun s => s.readUInt16.1)) cacheId s).map
        (fun p => ((p.1 &&& 0xFF, p.1 >>> 8), p.2)) :=
  orderValue_split info s 1 2 (fun s => s.readUInt16.1) (fun w => (w &&& 0xFF, w >>> 8))
    (fun hflag => by rw [cacheId_split hcacheId, hcolorIndex hflag])

/-- A MemBlt order without the cache id loses the color index. -/
lemma accepted_memblt {o : MembltOrder} (hcacheId : o.cacheId < 2 ^ 8)
    (hcolorIndex : orderFieldFlagIsSet info.fieldFlags 1 = false → o.colorIndex = 0) :
    (updateReadMembltOrder info).accepted o s = membltUpdated info o s := by
  refine (accepted_readOrderField _ _ _ _ _).trans (Eq.trans ?_ (congrArg (fun x => Option.bind x _)
    (orderValue_cacheId info s hcacheId hcolorIndex)).symm)
  rw [Option.bind_map]
  refine Option.bind_congr fun _ _ => ?_
  repeat refine accepted_field fun _ _ => ?_
  rfl

/-- A Mem3Blt order without the cache id loses the color index. -/
lemma accepted_mem3blt {o : Mem3bltOrder} (hbrush : o.brush.Valid) (hcacheId : o.cacheId < 2 ^ 8)
    (hcolorIndex : orderFieldFlagIsSet info.fieldFlags 1 = false → o.colorIndex = 0) :
    (updateReadMem3bltOrder info).accepted o s = mem3bltUpdated info o s := by
  refine (accepted_readOrderField _ _ _ _ _).trans (Eq.trans ?_ (congrArg (fun x => Option.bind x _)
    (orderValue_cacheId info s hcacheId hcolorIndex)).symm)
  rw [Option.bind_map]
  refine Option.bind_congr fun _ _ => ?_
  repeat refine accepted_field fun _ _ => ?_
  refine accepted_brush hbrush fun _ => ?_
  repeat refine accepted_field fun _ _ => ?_
  rfl

/-! ### Counts and points -/

section Points

variable {α β γ : Type} {info s} {rs : List (Reader WStream α)} {a : α}
  {f : α × WStream → γ × WStream}

private lemma map_accepted_field {number : Nat} {m : Member α β} {r : Reader WStream β}
    {k : β × WStream → Option (γ × WStream)}
    (h : ∀ p, ((Reader.all rs).accepted (m.set a p.1) p.2).map f = k p) :
    ((Reader.all (readOrderField info number m r :: rs)).accepted a s).map f =
      (orderValue info number r (m.get a) s).bind k := by
  rw [accepted_readOrderField, Option.map_bind]
  exact Option.bind_congr fun p _ => h p

/-- A word that is not kept. -/
private lemma map_accepted_word {number : Nat} {k : Nat × WStream → Option (γ × WStream)}
    (h : ∀ p : Nat × WStream, ((Reader.all rs).accepted a p.2).map f = k p) :
    ((Reader.all (.when (orderFieldFlagIsSet info.fieldFlags number)
        (fun p s => readValue 2 (fun _ => p) p s) :: rs)).accepted a s).map f =
      (uint16Value info number 0 s).bind k := by
  have hword : Reader.accepted (fun p s => readValue 2 (fun _ => p) p s) a s =
      ((readValue 2 (fun s => s.readUInt16.1)).accepted 0 s).map (fun p => (a, p.2)) := by
    unfold Reader.accepted readValue
    beta_reduce
    split <;> rfl
  rw [accepted_when_cons (fun a _ => a) rs a s 0 rfl hword, Option.map_bind]
  exact Option.bind_congr fun p _ => h p

private lemma map_accepted_brush {fieldFlags : Nat} {m : Member α Brush}
    {k : Brush × WStream → Option (γ × WStream)} (hbrush : (m.get a).Valid)
    (h : ∀ p, ((Reader.all rs).accepted (m.set a p.1) p.2).map f = k p) :
    ((Reader.all (.into m (updateReadBrush fieldFlags) :: rs)).accepted a s).map f =
      (brushUpdated fieldFlags (m.get a) s).bind k := by
  rw [Reader.accepted_into_cons, accepted_updateReadBrush fieldFlags s hbrush, Option.map_bind]
  exact Option.bind_congr fun p _ => h p

/-- The count of the points and the points, at the end of a reader or before a change of the record.
If the count comes only with points, it is the one of the order. -/
private lemma map_accepted_points {countNumber number : Nat} {count cbData : Member α Nat}
    {points : Member α (List DeltaPoint)} {rs : List (Reader WStream (α × Nat))}
    {f : (α × Nat) × WStream → γ × WStream} {k : Nat × WStream → Option (γ × WStream)}
    (hcount : ∀ a v w num, points.set (count.set (points.set a v) num) w =
      count.set (points.set a w) num)
    (hboth : orderFieldFlagIsSet info.fieldFlags countNumber = true →
      orderFieldFlagIsSet info.fieldFlags number = true)
    (h : ∀ num,
      (orderValue info number (pointsReader num.1) (cbData.get a, points.get a) num.2).bind
      (fun p => ((Reader.all rs).accepted
        (count.set (points.set (cbData.set a p.1.1) p.1.2) num.1, num.1) p.2).map f) = k num) :
    ((Reader.all (readOrderFieldByte info countNumber (.mk (·.2) fun p v => (p.1, v)) ::
        .choose (fun p => .into (.mk (·.1) fun p v => (v, p.2))
          (readPoints info number p.2 count cbData points)) :: rs)).accepted
        (a, count.get a) s).map f =
      (byteValue info countNumber (count.get a) s).bind k := by
  rw [accepted_readOrderField, Option.map_bind]
  refine Option.bind_congr fun num hnum => ?_
  rw [Function.comp_apply, accepted_choose_cons, Reader.accepted_into_cons,
    accepted_readPoints _ _ (fun a v w => hcount a v w _), Option.bind_map, Option.map_bind, ← h]
  refine Option.bind_congr fun p hp => ?_
  cases hflag : orderFieldFlagIsSet info.fieldFlags number with
  | true => simp
  | false =>
    -- without points the count is the old one too
    have hunset : orderFieldFlagIsSet info.fieldFlags countNumber = false := by
      by_contra hset
      rw [hboth (Bool.of_not_eq_false hset)] at hflag
      cases hflag
    rw [orderValue_unset _ _ _ hunset, Option.some.injEq] at hnum
    rw [orderValue_unset _ _ _ hflag, Option.some.injEq] at hp
    simp [← hp, ← hnum, cbData.set_get, points.set_get, count.set_get]

end Points

/-- A polyline with a count but no points keeps its old count. -/
lemma accepted_polyline (o : PolylineOrder)
    (hboth : orderFieldFlagIsSet info.fieldFlags 6 = true →
      orderFieldFlagIsSet info.fieldFlags 7 = true) :
    (updateReadPolylineOrder info).accepted o s = polylineUpdated info o s := by
  rw [updateReadPolylineOrder, accepted_withLocal]
  refine map_accepted_field fun _ => map_accepted_field fun _ => map_accepted_field fun _ => ?_
  refine map_accepted_word fun _ => map_accepted_field fun _ => ?_
  exact map_accepted_points (fun _ _ _ _ => rfl) hboth fun _ => rfl

/-- A polygon with a count but no points keeps its old count. -/
lemma accepted_polygonSc (o : PolygonScOrder)
    (hboth : orderFieldFlagIsSet info.fieldFlags 6 = true →
      orderFieldFlagIsSet info.fieldFlags 7 = true) :
    (updateReadPolygonScOrder info).accepted o s = polygonScUpdated info o s := by
  rw [updateReadPolygonScOrder, accepted_withLocal]
  refine map_accepted_field fun _ => map_accepted_field fun _ => map_accepted_field fun _ =>
    map_accepted_field fun _ => map_accepted_field fun _ => ?_
  exact map_accepted_points (fun _ _ _ _ => rfl) hboth fun _ => rfl

private lemma bRop2_split {bRop2 : Nat} (h : bRop2 < 2 ^ 5) :
    (bRop2 &&& 0x1F, if bRop2 &&& 0x80 ≠ 0 then BACKMODE_TRANSPARENT else BACKMODE_OPAQUE) =
      (bRop2, BACKMODE_OPAQUE) := by
  have hmask : bRop2 &&& 0x1F = bRop2 % 2 ^ 5 := and_mask_eq_mod bRop2 5
  have htop : bRop2 &&& 0x80 = 0 := by
    have hbit : bRop2.testBit 7 = false := Nat.testBit_lt_two_pow (by omega)
    have htwo : bRop2 &&& 2 ^ 7 = 0 := by rw [Nat.and_two_pow, hbit]; rfl
    exact htwo
  rw [hmask, Nat.mod_eq_of_lt h, htop]
  rfl

/-- A PolygonCB order without the raster operation loses a transparent background, and one with a
count but no points keeps its old count. -/
lemma accepted_polygonCb {o : PolygonCbOrder} (hbrush : o.brush.Valid) (hbRop2 : o.bRop2 < 2 ^ 5)
    (hbackMode : orderFieldFlagIsSet info.fieldFlags 3 = false →
      polygonBackMode o = BACKMODE_OPAQUE)
    (hboth : orderFieldFlagIsSet info.fieldFlags 12 = true →
      orderFieldFlagIsSet info.fieldFlags 13 = true) :
    (updateReadPolygonCbOrder info).accepted o s = polygonCbUpdated info o s := by
  rw [updateReadPolygonCbOrder, accepted_withLocal]
  refine map_accepted_field fun _ => map_accepted_field fun p => ?_
  have hsplit := orderValue_split info p.2 3 1 (fun s => s.readUInt8.1)
    (fun b => (b &&& 0x1F, if b &&& 0x80 ≠ 0 then BACKMODE_TRANSPARENT else BACKMODE_OPAQUE))
    (fun hflag => (bRop2_split hbRop2).trans (congrArg (Prod.mk o.bRop2) (hbackMode hflag).symm))
  refine Eq.trans ?_ (congrArg (fun x => Option.bind x _) hsplit).symm
  rw [Option.bind_map]
  refine map_accepted_field fun _ => map_accepted_field fun _ => map_accepted_field fun _ =>
    map_accepted_field fun _ => ?_
  refine map_accepted_brush hbrush fun _ => ?_
  exact map_accepted_points (fun _ _ _ _ => rfl) hboth fun _ => rfl

end Orders

end FreeRdp
