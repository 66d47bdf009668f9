import FreeRdp.Codec.Planar.Image

/-!
# The planes of an image are decoded

From planes that stand for the channels of an image, `planar_decompress` writes the colours of the
image to the destination: straight to it, or through the temporary buffer of the context.
-/

namespace FreeRdp

/-! ### Pixels in memory -/

/-- The four channels of the pixels of a rectangle are different cells. -/
lemma planarIndex_ne {step nX nY w c c' y y' x x' : Nat} (hrow : (nX + w) * 4 ≤ step) (hc : c < 4)
    (hc' : c' < 4) (hx : x < w) (hx' : x' < w) (hne : c ≠ c' ∨ y ≠ y' ∨ x ≠ x') :
    planarIndex step nX nY c y x ≠ planarIndex step nX nY c' y' x' := by
  intro heq
  have hlt : ∀ {c c' y y' x x' : Nat}, y < y' → c < 4 → x < w →
      planarIndex step nX nY c y x ≠ planarIndex step nX nY c' y' x' := by
    intro c c' y y' x x' hy hc hx heq
    have hmul : (nY + y + 1) * step ≤ (nY + y') * step := Nat.mul_le_mul_right _ (by omega)
    rw [Nat.add_mul _ 1, Nat.one_mul] at hmul
    rw [planarIndex, planarIndex] at heq
    omega
  rcases Nat.lt_trichotomy y y' with hy | rfl | hy
  · exact hlt hy hc hx heq
  · rw [planarIndex, planarIndex] at heq
    omega
  · exact hlt hy hc' hx' heq.symm

/-- The cells of a rectangle hold the colours of an image, blue first; without alpha the fourth
channel is full. -/
def HoldsColors (dst : Nat → UInt8) (step nX nY w h : Nat) (vFlip alpha : Bool)
    (color : Nat → Nat → Color) : Prop :=
  ∀ y < h, ∀ x < w,
    dst (planarIndex step nX nY 0 (planarFlip vFlip h y) x) = (color y x).b ∧
    dst (planarIndex step nX nY 1 (planarFlip vFlip h y) x) = (color y x).g ∧
    dst (planarIndex step nX nY 2 (planarFlip vFlip h y) x) = (color y x).r ∧
    dst (planarIndex step nX nY 3 (planarFlip vFlip h y) x) = if alpha then (color y x).a else 0xFF

section Rle

variable {step nX nY w h : Nat} {vFlip : Bool}

lemma PlanarFits.of_channel {c c' : Nat} (hfits : PlanarFits step nX nY w h c) (hc : c' < 4) :
    PlanarFits step nX nY w h c' := ⟨hc, hfits.row, hfits.step, hfits.rows⟩

/-- A plane that was decoded. -/
lemma PlanarDecodes.status {outcome : Except PlanarError (Int × (Nat → UInt8))} {used : Nat}
    {dst : Nat → UInt8} {index : Nat → Nat → Nat} {plane : Nat → Nat → UInt8}
    (hdecodes : PlanarDecodes outcome used dst index w h plane) :
    ∃ dst', planarStatus outcome = .ok dst' ∧
      (∀ y < h, ∀ x < w, dst' (index y x) = plane y x) ∧
      ∀ i, (∀ y < h, ∀ x < w, i ≠ index y x) → dst' i = dst i := by
  obtain ⟨dst', rfl, hread, hframe⟩ := hdecodes
  refine ⟨dst', ?_, hread, hframe⟩
  rw [planarStatus]
  exact if_neg (by omega)

/-- `planar_set_plane` fills a channel. -/
lemma planarSetPlane_decodes {c : Nat} (hfits : PlanarFits step nX nY w h c) (hw : w ≤ INT32_MAX)
    (hh : h ≤ INT32_MAX) (value : UInt8) (dst : Nat → UInt8) :
    PlanarDecodes (planarSetPlane value dst step nX nY w h c vFlip) 0 dst
      (fun y => planarIndex step nX nY c (planarFlip vFlip h y)) w h (fun _ _ => value) := by
  have hlength : (List.replicate h (List.replicate w value)).length =
      (planarRows h vFlip).length := by
    rw [List.length_replicate, planarRows_length]
  obtain ⟨hread, hframe⟩ := writeRows_planarPlaced dst (by omega) (hfits.apart vFlip) hlength
    (fun row hrow => by rw [List.eq_of_mem_replicate hrow, List.length_replicate])
  refine ⟨_, if_neg (by omega), fun y hy x hx => ?_, fun i hi => hframe i fun y hy x hx => ?_⟩
  · have hrow := planarRows_getElem? vFlip hy
    dsimp only
    rw [← hfits.planarRleStart_add (planarFlip_lt hy) hx, hread y _ hrow x hx,
      List.getD_replicate _ hy, List.getD_replicate _ hx]
  · have hlt := mem_planarRows.mp hy
    have hne := hi (planarFlip vFlip h y) (planarFlip_lt hlt) x hx
    dsimp only at hne
    rwa [planarFlip_planarFlip hlt, ← hfits.planarRleStart_add hlt hx] at hne

/-- A plane in the source: its rows stand for the values, and its code has the given size. -/
structure PlaneCode (w h : Nat) (src : List UInt8) (size : Nat) (plane : List UInt8) : Prop where
  rows : ∃ rows rest, RowsOf w h src rows rest ∧ src.length = size + rest.length ∧
    planeValues none rows = planarChunks w h plane
  size_le : size ≤ INT32_MAX

/-- A plane of the source is decoded into its channel. -/
lemma PlaneCode.decodes {src plane : List UInt8} {size c : Nat} (hcode : PlaneCode w h src size plane)
    (hfits : PlanarFits step nX nY w h c) (hh : h ≤ INT32_MAX) (vFlip : Bool) (dst : Nat → UInt8) :
    PlanarDecodes (planarDecompressPlaneRle src size dst step nX nY w h c vFlip) size dst
      (fun y => planarIndex step nX nY c (planarFlip vFlip h y)) w h
      (fun y x => plane.getD (planarPlaneIndex w y x) 0) := by
  obtain ⟨rows, rest, hrows, hlength, hvalues⟩ := hcode.rows
  obtain ⟨dst', hdecode, hread, hframe⟩ := hrows.decodes hh hlength hcode.size_le hfits vFlip dst
  refine ⟨dst', hdecode, fun y hy x hx => ?_, hframe⟩
  rw [hread y hy x hx, hvalues, planeAt_planarChunks hy hx]

/-- Cells of one channel are not those of another. -/
lemma planarIndex_ne_channel {c c' : Nat} (hfits : PlanarFits step nX nY w h c) (hc' : c' < 4)
    (hne : c ≠ c') {x : Nat} (hx : x < w) (row : Nat) :
    ∀ y' < h, ∀ x' < w, planarIndex step nX nY c row x ≠
      planarIndex step nX nY c' (planarFlip vFlip h y') x' := by
  intro y' _ x' hx'
  exact planarIndex_ne hfits.row hfits.channel hc' hx hx' (.inl hne)

/-- The planes of an image are decoded one after the other. -/
lemma planarDecompressRgb_rle {planes : PlanarPlanes} {color : Nat → Nat → Color}
    {red green blue alpha : List UInt8} {useAlpha : Bool} {total : Nat}
    (hred : PlaneCode w h planes.red planes.redSize red)
    (hgreen : PlaneCode w h planes.green planes.greenSize green)
    (hblue : PlaneCode w h planes.blue planes.blueSize blue)
    (halpha : useAlpha = true → PlaneCode w h planes.alpha planes.alphaSize alpha)
    (hcolor : ∀ y < h, ∀ x < w, color y x = ⟨red.getD (planarPlaneIndex w y x) 0,
      green.getD (planarPlaneIndex w y x) 0, blue.getD (planarPlaneIndex w y x) 0,
      alpha.getD (planarPlaneIndex w y x) 0⟩)
    (hfits : PlanarFits step nX nY w h 0) (hw : w ≤ INT32_MAX) (hh : h ≤ INT32_MAX)
    (dst : Nat → UInt8) :
    ∃ dst', planarDecompressRgb planes true useAlpha dst step nX nY w h vFlip total = .ok dst' ∧
      HoldsColors dst' step nX nY w h vFlip useAlpha color := by
  have hfits1 : PlanarFits step nX nY w h 1 := hfits.of_channel (by omega)
  have hfits2 : PlanarFits step nX nY w h 2 := hfits.of_channel (by omega)
  have hfits3 : PlanarFits step nX nY w h 3 := hfits.of_channel (by omega)
  obtain ⟨dst₁, hdst₁, hread₁, hframe₁⟩ := (hred.decodes hfits2 hh vFlip dst).status
  obtain ⟨dst₂, hdst₂, hread₂, hframe₂⟩ := (hgreen.decodes hfits1 hh vFlip dst₁).status
  obtain ⟨dst₃, hdst₃, hread₃, hframe₃⟩ := (hblue.decodes hfits hh vFlip dst₂).status
  -- the fourth channel is alpha, or it is filled
  have hlast : ∃ dst₄, (if useAlpha then planarStatus (planarDecompressPlaneRle planes.alpha
      planes.alphaSize dst₃ step nX nY w h 3 vFlip)
      else planarStatus (planarSetPlane 0xFF dst₃ step nX nY w h 3 vFlip)) = .ok dst₄ ∧
      (∀ y < h, ∀ x < w, dst₄ (planarIndex step nX nY 3 (planarFlip vFlip h y) x) =
        if useAlpha then alpha.getD (planarPlaneIndex w y x) 0 else 0xFF) ∧
      ∀ i, (∀ y < h, ∀ x < w, i ≠ planarIndex step nX nY 3 (planarFlip vFlip h y) x) →
        dst₄ i = dst₃ i := by
    cases useAlpha with
    | false => exact (planarSetPlane_decodes hfits3 hw hh 0xFF dst₃).status
    | true => exact ((halpha rfl).decodes hfits3 hh vFlip dst₃).status
  obtain ⟨dst₄, hdst₄, hread₄, hframe₄⟩ := hlast
  refine ⟨dst₄, ?_, fun y hy x hx => ?_⟩
  · simp only [planarDecompressRgb, Bool.not_true, Bool.false_eq_true, if_false, bind, Except.bind,
      hdst₁, hdst₂, hdst₃]
    exact hdst₄
  · rw [hcolor y hy x hx]
    refine ⟨?_, ?_, ?_, hread₄ y hy x hx⟩
    · rw [hframe₄ _ (planarIndex_ne_channel hfits (by omega) (by omega) hx _)]
      exact hread₃ y hy x hx
    · rw [hframe₄ _ (planarIndex_ne_channel hfits1 (by omega) (by omega) hx _),
        hframe₃ _ (planarIndex_ne_channel hfits1 (by omega) (by omega) hx _)]
      exact hread₂ y hy x hx
    · rw [hframe₄ _ (planarIndex_ne_channel hfits2 (by omega) (by omega) hx _),
        hframe₃ _ (planarIndex_ne_channel hfits2 (by omega) (by omega) hx _),
        hframe₂ _ (planarIndex_ne_channel hfits2 (by omega) (by omega) hx _)]
      exact hread₁ y hy x hx

end Rle

/-! ### Rows of pixels -/

section Pixels

variable {f : Nat → List UInt8} {w : Nat}

lemma length_flatMap_range (hf : ∀ x, (f x).length = 4) (w : Nat) :
    ((List.range w).flatMap f).length = 4 * w := by
  induction w with
  | zero => rfl
  | succ w ih =>
    rw [List.range_succ, List.flatMap_append, List.length_append, ih, List.flatMap_singleton, hf]
    omega

/-- The bytes of a pixel in a row. -/
lemma getD_flatMap_range (hf : ∀ x, (f x).length = 4) {x c : Nat} (hx : x < w) (hc : c < 4) :
    ((List.range w).flatMap f).getD (4 * x + c) 0 = (f x).getD c 0 := by
  induction w with
  | zero => exact absurd hx (Nat.not_lt_zero x)
  | succ w ih =>
    have hlength := length_flatMap_range hf w
    rw [List.range_succ, List.flatMap_append, List.flatMap_singleton]
    by_cases hlast : x = w
    · rw [List.getD_append_right _ _ _ _ (by omega), hlength, hlast, Nat.add_sub_cancel_left]
    · rw [List.getD_append _ _ _ _ (by omega)]
      exact ih (by omega)

/-- Rows of pixels, written to their places. -/
lemma writeRows_pixels {step nX nY h c' : Nat} (hfits : PlanarFits step nX nY w h c')
    {start : Nat → Nat} {ys : List Nat} {rows : List (List UInt8)} (dst : Nat → UInt8)
    (hstart : ∀ y ∈ ys, start y = planarIndex step nX nY 0 y 0) (hys : ys.Pairwise (· ≠ ·))
    (hlength : rows.length = ys.length) (hwidth : ∀ row ∈ rows, row.length = 4 * w) {k y x c : Nat}
    (hk : ys[k]? = some y) (hx : x < w) (hc : c < 4) :
    writeRows dst 1 (planarPlaced start ys rows) (planarIndex step nX nY c y x) =
      (rows.getD k []).getD (4 * x + c) 0 := by
  have hrow := hfits.row
  have hapart : ys.Pairwise fun y y' => StridesApart 1 (4 * w) (start y) (start y') := by
    refine hys.imp_of_mem fun {y y'} hy hy' hne => ?_
    have hindex : ∀ y, planarIndex step nX nY 0 y 0 = nY * step + nX * 4 + step * y := by
      intro y
      rw [planarIndex, Nat.add_mul, Nat.mul_comm step]
      omega
    rw [hstart y hy, hstart y' hy', hindex, hindex]
    exact stridesApart_of_le (by omega) Nat.one_pos hne
  have hread := (writeRows_planarPlaced dst Nat.one_pos hapart hlength hwidth).1 k y hk (4 * x + c)
    (by omega)
  rw [← hread, hstart y (List.mem_of_getElem? hk), planarIndex, planarIndex]
  congr 1
  omega

end Pixels

/-! ### Raw planes -/

section Raw

variable (red green blue : Nat → UInt8) (alpha : Option (Nat → UInt8))

lemma length_writeLine (w k : Nat) : (writeLine red green blue alpha w k).length = 4 * w :=
  length_flatMap_range (fun _ => rfl) w

/-- The bytes of a pixel that `writeLine` has written. -/
lemma getD_writeLine {w k x c : Nat} (hx : x < w) (hc : c < 4) :
    (writeLine red green blue alpha w k).getD (4 * x + c) 0 =
      [blue (k + x), green (k + x), red (k + x), match alpha with
        | none => 0xFF
        | some alpha => alpha (k + x)].getD c 0 :=
  getD_flatMap_range (fun _ => rfl) hx hc

end Raw

section Images

variable {step nX nY w h : Nat}

/-- `planar_decompress_planes_raw` writes the colours of raw planes. -/
lemma planarDecompressPlanesRaw_holds {red green blue : Nat → UInt8} {alpha : Option (Nat → UInt8)}
    {color : Nat → Nat → Color} {useAlpha : Bool} {total : Nat} (hfits : PlanarFits step nX nY w h 0)
    (hw : 0 < w) (hh : h ≤ INT32_MAX) (htotal : (nY + h) % 2 ^ 32 ≤ total)
    (hcolor : ∀ y < h, ∀ x < w, (color y x).r = red (planarPlaneIndex w y x) ∧
      (color y x).g = green (planarPlaneIndex w y x) ∧
      (color y x).b = blue (planarPlaneIndex w y x) ∧
      (if useAlpha then (color y x).a else 0xFF) =
        match alpha with
        | none => 0xFF
        | some alpha => alpha (planarPlaneIndex w y x))
    (vFlip : Bool) (dst : Nat → UInt8) :
    ∃ dst', planarDecompressPlanesRaw red green blue alpha dst step nX nY w h vFlip total =
        .ok dst' ∧ HoldsColors dst' step nX nY w h vFlip useAlpha color := by
  have hwidth : (nX + w) * 4 % 2 ^ 32 ≤ step := (Nat.mod_le _ _).trans hfits.row
  refine ⟨_, by rw [planarDecompressPlanesRaw, if_neg (by omega), if_neg (by omega),
    if_neg (by omega)], fun y hy x hx => ?_⟩
  have hstart : ∀ y ∈ planarRows h vFlip,
      planarRleStart step nX nY 0 y = planarIndex step nX nY 0 y 0 := by
    intro y hy
    rw [← hfits.planarRleStart_add (mem_planarRows.mp hy) hw, Nat.mul_zero, Nat.add_zero]
  have hlines : ∀ row ∈ (List.range h).map fun y => writeLine red green blue alpha w (y * w),
      row.length = 4 * w := by
    intro row hrow
    obtain ⟨y, -, rfl⟩ := List.mem_map.mp hrow
    exact length_writeLine red green blue alpha w _
  have hcell : ∀ c, c < 4 → _ := fun c hc => writeRows_pixels hfits dst hstart
    (planarRows_pairwise_ne h vFlip) (by rw [List.length_map, List.length_range, planarRows_length])
    hlines (planarRows_getElem? vFlip hy) hx hc
  have hline : ((List.range h).map fun y => writeLine red green blue alpha w (y * w)).getD y [] =
      writeLine red green blue alpha w (y * w) := by
    rw [List.getD_eq_getElem _ _ (by simpa using hy)]
    simp
  rw [hline] at hcell
  obtain ⟨hr, hg, hb, ha⟩ := hcolor y hy x hx
  rw [hr, hg, hb, ha, hcell 0 (by omega), hcell 1 (by omega), hcell 2 (by omega),
    hcell 3 (by omega), getD_writeLine _ _ _ _ hx (by omega), getD_writeLine _ _ _ _ hx (by omega),
    getD_writeLine _ _ _ _ hx (by omega), getD_writeLine _ _ _ _ hx (by omega)]
  exact ⟨rfl, rfl, rfl, rfl⟩

/-! ### Copies of images -/

/-- The pixels of a rectangle show the colours of an image, with alpha or without it. -/
def ShowsColors (dst : Nat → UInt8) (format : PixelFormat) (step nX nY w h : Nat)
    (vFlip alpha : Bool) (color : Nat → Nat → Color) : Prop :=
  ∀ y < h, ∀ x < w,
    (splitColor (readColor dst (planarIndex step nX nY 0 (planarFlip vFlip h y) x)) format).Agree
      alpha (color y x)

/-- The format of the temporary buffer. -/
def planarTempFormat (useAlpha : Bool) : PixelFormat := if useAlpha then .bgra32 else .bgrx32

/-- Cells with the colours show them in the format of the temporary buffer. -/
lemma HoldsColors.shows {dst : Nat → UInt8} {vFlip useAlpha : Bool} {color : Nat → Nat → Color}
    (hcolors : HoldsColors dst step nX nY w h vFlip useAlpha color) :
    ShowsColors dst (planarTempFormat useAlpha) step nX nY w h vFlip useAlpha color := by
  intro y hy x hx
  obtain ⟨hb, hg, hr, ha⟩ := hcolors y hy x hx
  have hread : readColor dst (planarIndex step nX nY 0 (planarFlip vFlip h y) x) =
      colorWord (color y x).b (color y x).g (color y x).r
        (if useAlpha then (color y x).a else 0xFF) := by
    rw [← hb, ← hg, ← hr, ← ha]
    rfl
  rw [hread]
  cases useAlpha
  · exact ⟨by simp [splitColor, planarTempFormat], by simp [splitColor, planarTempFormat],
      by simp [splitColor, planarTempFormat], nofun⟩
  · exact ⟨by simp [splitColor, planarTempFormat], by simp [splitColor, planarTempFormat],
      by simp [splitColor, planarTempFormat], by simp [splitColor, planarTempFormat]⟩

/-- A copied pixel keeps its channels, and alpha if both formats have it. -/
lemma splitColor_freerdpCopyPixel (src : Nat → UInt8) (srcFormat dstFormat : PixelFormat) (i : Nat) :
    ∃ b0 b1 b2 b3, freerdpCopyPixel src srcFormat dstFormat i = [b0, b1, b2, b3] ∧
      (splitColor (colorWord b0 b1 b2 b3) dstFormat).Agree
        (colorHasAlpha srcFormat && colorHasAlpha dstFormat)
        (splitColor (readColor src i) srcFormat) := by
  rw [freerdpCopyPixel]
  split
  · rename_i heq
    refine ⟨_, _, _, _, rfl, ?_⟩
    cases srcFormat <;> cases dstFormat <;>
      first
      | exact absurd heq (by decide)
      | exact ⟨rfl, rfl, rfl, fun _ => rfl⟩
      | exact ⟨rfl, rfl, rfl, nofun⟩
  · have hsplit := splitColor_freeRDPGetColor (splitColor (readColor src i) srcFormat) dstFormat
    have hword : ∃ b0 b1 b2 b3,
        freeRDPConvertColor (readColor src i) srcFormat dstFormat = colorWord b0 b1 b2 b3 := by
      rw [freeRDPConvertColor]
      cases dstFormat <;> exact ⟨_, _, _, _, rfl⟩
    obtain ⟨b0, b1, b2, b3, hword⟩ := hword
    refine ⟨b0, b1, b2, b3, ?_, ?_⟩
    · rw [hword, colorWord_writeColor_colorWord]
    · rw [← hword, freeRDPConvertColor]
      exact ⟨hsplit.r, hsplit.g, hsplit.b, fun h => hsplit.a (Bool.and_eq_true_iff.mp h).2⟩

lemma length_freerdpCopyPixel (src : Nat → UInt8) (srcFormat dstFormat : PixelFormat) (i : Nat) :
    (freerdpCopyPixel src srcFormat dstFormat i).length = 4 := by
  obtain ⟨b0, b1, b2, b3, hpixel, -⟩ := splitColor_freerdpCopyPixel src srcFormat dstFormat i
  rw [hpixel]
  rfl

lemma Color.Agree.trans {alpha beta gamma : Bool} {c d e : Color} (hcd : c.Agree alpha d)
    (hde : d.Agree beta e) (halpha : gamma = true → alpha = true ∧ beta = true) :
    c.Agree gamma e where
  r := hcd.r.trans hde.r
  g := hcd.g.trans hde.g
  b := hcd.b.trans hde.b
  a h := (hcd.a (halpha h).1).trans (hde.a (halpha h).2)

lemma readColor_of_bytes {src : Nat → UInt8} {i : Nat} {b0 b1 b2 b3 : UInt8}
    (hbytes : ∀ c, c < 4 → src (i + c) = [b0, b1, b2, b3].getD c 0) :
    readColor src i = colorWord b0 b1 b2 b3 := by
  have h0 : src i = b0 := hbytes 0 (by omega)
  have h1 : src (i + 1) = b1 := hbytes 1 (by omega)
  have h2 : src (i + 2) = b2 := hbytes 2 (by omega)
  have h3 : src (i + 3) = b3 := hbytes 3 (by omega)
  rw [readColor, h0, h1, h2, h3]

/-- The index of a row of `freerdp_image_copy` does not wrap. -/
lemma PlanarFits.imageStart {c : Nat} (hfits : PlanarFits step nX nY w h c) (hw : 0 < w) {y : Nat}
    (hy : y < h) :
    (y + nY) * step % 2 ^ 32 + nX * 4 % 2 ^ 32 = planarIndex step nX nY 0 y 0 := by
  have hlast : (nY + y + 1) * step ≤ (nY + h) * step := Nat.mul_le_mul_right _ (by omega)
  have hrow := hfits.row
  have hrows := hfits.rows
  rw [Nat.add_mul, Nat.one_mul] at hlast
  rw [planarIndex, Nat.add_comm y, Nat.mod_eq_of_lt (by omega), Nat.mod_eq_of_lt (by omega)]
  omega

/-- `freerdp_image_copy` shows the colours of its source. -/
lemma freerdpImageCopy_shows {src : Nat → UInt8} {srcFormat : PixelFormat} {srcStep : Nat}
    {vFlip alpha : Bool} {color : Nat → Nat → Color}
    (hshows : ShowsColors src srcFormat srcStep nX nY w h vFlip alpha color)
    (hsrc : PlanarFits srcStep nX nY w h 0) (hdst : PlanarFits step nX nY w h 0) (hw : 0 < w)
    (hw' : w ≤ INT32_MAX) (hh : h ≤ INT32_MAX) (halpha : alpha = true → colorHasAlpha srcFormat)
    (dst : Nat → UInt8) (dstFormat : PixelFormat) :
    ∃ dst', freerdpImageCopy false dst dstFormat step nX nY w h src srcFormat srcStep = .ok dst' ∧
      ShowsColors dst' dstFormat step nX nY w h vFlip (alpha && colorHasAlpha dstFormat) color := by
  have hrow := hdst.row
  have hrow' := hsrc.row
  refine ⟨_, by rw [freerdpImageCopy, if_neg (by omega), if_neg (by omega : ¬step = 0),
    if_neg (by omega : ¬srcStep = 0), Bool.and_false, if_neg Bool.false_ne_true],
    fun y hy x hx => ?_⟩
  have hflip : planarFlip vFlip h y < h := planarFlip_lt hy
  obtain ⟨b0, b1, b2, b3, hpixel, hagree⟩ := splitColor_freerdpCopyPixel src srcFormat dstFormat
    (planarIndex srcStep nX nY 0 (planarFlip vFlip h y) x)
  have hlines : ∀ row ∈ (List.range h).map fun y => (List.range w).flatMap fun x =>
      freerdpCopyPixel src srcFormat dstFormat
        ((y + nY) * srcStep % 2 ^ 32 + nX * 4 % 2 ^ 32 + 4 * x), row.length = 4 * w := by
    intro row hrow
    obtain ⟨y, -, rfl⟩ := List.mem_map.mp hrow
    exact length_flatMap_range (fun x => length_freerdpCopyPixel _ _ _ _) w
  have hcell : ∀ c, c < 4 → _ := fun c hc => writeRows_pixels hdst dst
    (fun y hy => hdst.imageStart hw (List.mem_range.mp hy)) List.nodup_range (by simp) hlines
    (List.getElem?_range hflip) hx hc
  have hline : ((List.range h).map fun y => (List.range w).flatMap fun x =>
      freerdpCopyPixel src srcFormat dstFormat
        ((y + nY) * srcStep % 2 ^ 32 + nX * 4 % 2 ^ 32 + 4 * x)).getD (planarFlip vFlip h y) [] =
      (List.range w).flatMap fun x => freerdpCopyPixel src srcFormat dstFormat
        (planarIndex srcStep nX nY 0 (planarFlip vFlip h y) 0 + 4 * x) := by
    rw [List.getD_eq_getElem _ _ (by simpa using hflip), List.getElem_map, List.getElem_range,
      hsrc.imageStart hw hflip]
  have hindex : planarIndex srcStep nX nY 0 (planarFlip vFlip h y) 0 + 4 * x =
      planarIndex srcStep nX nY 0 (planarFlip vFlip h y) x := by
    rw [planarIndex, planarIndex]
    omega
  rw [hline] at hcell
  have hbyte : ∀ c, c < 4 → _ := fun c hc => (hcell c hc).trans
    (getD_flatMap_range (fun x => length_freerdpCopyPixel _ _ _ _) hx hc)
  rw [hindex, hpixel] at hbyte
  have hread : readColor _ (planarIndex step nX nY 0 (planarFlip vFlip h y) x) =
      colorWord b0 b1 b2 b3 := readColor_of_bytes hbyte
  dsimp only
  rw [hread]
  refine hagree.trans (hshows y hy x hx) fun h => ?_
  obtain ⟨hkeep, hdstAlpha⟩ := Bool.and_eq_true_iff.mp h
  exact ⟨Bool.and_eq_true_iff.mpr ⟨halpha hkeep, hdstAlpha⟩, hkeep⟩

/-! ### The decompressor on planes -/

@[simp] lemma colorHasAlpha_planarInvertFormat (planar : PlanarContext) (alpha : Bool)
    (format : PixelFormat) :
    colorHasAlpha (planarInvertFormat planar alpha format) = colorHasAlpha format := by
  unfold planarInvertFormat
  split
  · cases format <;> rfl
  · rfl

/-- The fields of the header. -/
lemma planarFormatHeader_fields (skipAlpha rle : Bool) :
    (planarFormatHeader skipAlpha rle &&& PLANAR_FORMAT_HEADER_CLL_MASK).toNat = 0 ∧
    decide (planarFormatHeader skipAlpha rle &&& PLANAR_FORMAT_HEADER_CS ≠ 0) = false ∧
    decide (planarFormatHeader skipAlpha rle &&& PLANAR_FORMAT_HEADER_RLE ≠ 0) = rle ∧
    decide (planarFormatHeader skipAlpha rle &&& PLANAR_FORMAT_HEADER_NA = 0) = !skipAlpha := by
  cases skipAlpha <;> cases rle <;> decide

/-- The distance of the rows of an image; 0 stands for rows without a gap. -/
def planarStep (step width : Nat) : Nat := if step = 0 then width * 4 % 2 ^ 32 else step

/-- The planes after a header of the compressor. -/
def planarPlanes (rle : Bool) (srcp : List UInt8) (alpha : Bool) (w h : Nat) :
    Except PlanarError PlanarPlanes :=
  if rle then planarRlePlanes srcp alpha false w h else planarRawPlanes srcp alpha false w h

/-- The decompressor on the header of the compressor. -/
lemma planarDecompress_header (env : PlanarEnv) (planar : PlanarContext) (skipAlpha rle : Bool)
    (srcp : List UInt8) (w h : Nat) (dst : Nat → UInt8) (dstFormat : PixelFormat)
    (nDstStep nX nY : Nat) (vFlip : Bool) :
    planarDecompress env planar (planarFormatHeader skipAlpha rle :: srcp) w h dst dstFormat nDstStep
        nX nY w h vFlip =
      match planarPlanes rle srcp (!skipAlpha) w h with
      | .error e => .error e
      | .ok planes =>
        let format := planarInvertFormat planar (!skipAlpha) dstFormat
        let useAlpha := !skipAlpha && colorHasAlpha dstFormat
        if planarTempFormat useAlpha ≠ format then
          match planarDecompressRgb planes rle useAlpha planar.pTempData planar.nTempStep nX nY w h
            vFlip planar.maxHeight with
          | .error e => .error e
          | .ok temp => freerdpImageCopy env.overlapping dst format (planarStep nDstStep w) nX nY w
              h temp (planarTempFormat useAlpha) planar.nTempStep
        else
          planarDecompressRgb planes rle useAlpha dst (planarStep nDstStep w) nX nY w h vFlip
            ((nY + h) % 2 ^ 32) := by
  obtain ⟨hcll, hcs, hrle, halpha⟩ := planarFormatHeader_fields skipAlpha rle
  rw [planarDecompress]
  simp only [hcll, hcs, hrle, halpha, Bool.false_eq_true, and_false, if_false, Nat.min_self,
    colorHasAlpha_planarInvertFormat, not_true_eq_false, ne_eq, or_false, if_true, planarPlanes,
    planarStep, planarTempFormat]
  rfl

/-- Planes that are decoded to the colours of an image wherever they fit show the image. -/
lemma planarDecompress_shows {env : PlanarEnv} {planar : PlanarContext} {skipAlpha rle : Bool}
    {srcp : List UInt8} {planes : PlanarPlanes} {color : Nat → Nat → Color} {nDstStep : Nat}
    {vFlip : Bool} (hoverlap : env.overlapping = false)
    (hplanes : planarPlanes rle srcp (!skipAlpha) w h = .ok planes)
    (hrgb : ∀ (useAlpha : Bool) (dst : Nat → UInt8) (step total : Nat),
      (useAlpha = true → skipAlpha = false) → PlanarFits step nX nY w h 0 →
      (nY + h) % 2 ^ 32 ≤ total →
      ∃ dst', planarDecompressRgb planes rle useAlpha dst step nX nY w h vFlip total = .ok dst' ∧
        HoldsColors dst' step nX nY w h vFlip useAlpha color)
    (hw : 0 < w) (hw' : w ≤ INT32_MAX) (hh : h ≤ INT32_MAX)
    (hdst : PlanarFits (planarStep nDstStep w) nX nY w h 0)
    (htemp : PlanarFits planar.nTempStep nX nY w h 0) (hheight : nY + h ≤ planar.maxHeight)
    (dst : Nat → UInt8) (dstFormat : PixelFormat) :
    ∃ dst', planarDecompress env planar (planarFormatHeader skipAlpha rle :: srcp) w h dst dstFormat
        nDstStep nX nY w h vFlip = .ok dst' ∧
      ShowsColors dst' (planarInvertFormat planar (!skipAlpha) dstFormat) (planarStep nDstStep w)
        nX nY w h vFlip (!skipAlpha && colorHasAlpha dstFormat) color := by
  obtain ⟨useAlpha, huse⟩ : ∃ useAlpha, useAlpha = (!skipAlpha && colorHasAlpha dstFormat) :=
    ⟨_, rfl⟩
  have hkeep : useAlpha = true → skipAlpha = false ∧ colorHasAlpha dstFormat := by
    intro h
    rw [huse] at h
    simpa using h
  rw [planarDecompress_header, hplanes, ← huse]
  dsimp only
  by_cases hformat : planarTempFormat useAlpha = planarInvertFormat planar (!skipAlpha) dstFormat
  · obtain ⟨dst', hdst', hcolors⟩ := hrgb useAlpha dst _ _ (fun h => (hkeep h).1) hdst le_rfl
    rw [if_neg (not_not_intro hformat), ← hformat]
    exact ⟨dst', hdst', hcolors.shows⟩
  · obtain ⟨temp, htemp', hcolors⟩ := hrgb useAlpha planar.pTempData _ planar.maxHeight
      (fun h => (hkeep h).1) htemp ((Nat.mod_le _ _).trans hheight)
    rw [if_pos hformat, htemp', hoverlap]
    dsimp only
    obtain ⟨dst', hdst', hshows⟩ := freerdpImageCopy_shows hcolors.shows htemp hdst hw hw' hh
      (fun h => by rw [h]; rfl) dst (planarInvertFormat planar (!skipAlpha) dstFormat)
    have hsame : (useAlpha && colorHasAlpha dstFormat) = useAlpha := by
      cases useAlpha with
      | false => rfl
      | true => exact (hkeep rfl).2
    rw [colorHasAlpha_planarInvertFormat, hsame] at hshows
    exact ⟨dst', hdst', hshows⟩

end Images

end FreeRdp
