import FreeRdp.Codec.Planar.ImageDecoding

/-!
# Images round-trip

What `freerdp_bitmap_compress_planar` returns is decompressed to the same colours, unless the codes
of some rows fill the shared buffer exactly and the rows after them are dropped: then the
decompressor finds a plane with too few rows.
-/

namespace FreeRdp

/-! ### Counting rows -/

/-- The segments of a row end at one place only. -/
lemma SegmentsOf.rest_unique {w : Nat} {src rest rest' : List UInt8}
    {segments segments' : List PlanarSegment} (h : SegmentsOf w src segments rest)
    (h' : SegmentsOf w src segments' rest') : rest = rest' := by
  induction h generalizing segments' with
  | done src =>
    cases h' with
    | done => rfl
    | segment hw => exact absurd hw (lt_irrefl 0)
  | @segment w controlByte s segments src rest hw hcontrol hwidth _ ih =>
    generalize hsrc : controlByte :: s.raw ++ src = src₀ at h'
    cases h' with
    | done => exact absurd hw (lt_irrefl 0)
    | @segment _ controlByte' s' segments' src' _ _ hcontrol' _ hrest' =>
      rw [List.cons_append, List.cons_append, List.cons.injEq] at hsrc
      obtain ⟨rfl, hsrc⟩ := hsrc
      rw [hcontrol, Prod.mk.injEq] at hcontrol'
      obtain ⟨hraw, hrun⟩ := hcontrol'
      obtain ⟨-, rfl⟩ := List.append_inj hsrc hraw
      rw [show s'.width = s.width by rw [PlanarSegment.width, PlanarSegment.width, hraw, hrun]]
        at hrest'
      exact ih hrest'

/-- Rows after rows. -/
lemma RowsOf.trans {w m n : Nat} {src mid rest : List UInt8} {rows rows' : List (List UInt8)}
    (h : RowsOf w m src rows mid) (h' : RowsOf w n mid rows' rest) :
    RowsOf w (m + n) src (rows ++ rows') rest := by
  induction h with
  | nil => rwa [Nat.zero_add]
  | cons hrow _ ih =>
    rw [Nat.add_right_comm]
    exact .cons hrow (ih h')

/-- There are no more rows in a source than codes in it. -/
lemma RowCodes.le_length {w n : Nat} {rows codes rows' : List (List UInt8)} {rest : List UInt8}
    (h : RowCodes rows codes) (hwidth : ∀ row ∈ rows, row.length = w) (hw : 0 < w)
    (hrows : RowsOf w n codes.flatten rows' rest) : n ≤ codes.length := by
  induction h generalizing n rows' with
  | nil =>
    cases hrows with
    | nil => exact le_rfl
    | cons hrow _ =>
      cases hrow
      exact absurd hw (lt_irrefl 0)
  | @cons row code rows codes hcode _ ih =>
    obtain ⟨hrow, hwidth⟩ := List.forall_mem_cons.mp hwidth
    obtain ⟨segments, hsegments, -⟩ := hcode.1.segmentsOf
    have hfirst := hsegments.append codes.flatten
    rw [hrow, List.nil_append] at hfirst
    cases hrows with
    | nil => exact Nat.zero_le _
    | cons hrow' hrows' =>
      rw [List.flatten_cons] at hrow'
      rw [hrow'.rest_unique hfirst] at hrows'
      exact Nat.succ_le_succ (ih hwidth hrows')

/-! ### A full buffer -/

/-- The codes of planes one after the other. -/
lemma fillRows_append (xs ys : List (List UInt8)) (size : Nat) :
    fillRows (xs ++ ys) size =
      (fillRows xs size).bind fun out => (fillRows ys (size - out.length)).map (out ++ ·) := by
  induction xs generalizing size with
  | nil => simp [fillRows]
  | cons code codes ih =>
    rw [List.cons_append, fillRows, fillRows]
    by_cases hzero : size = 0
    · subst hzero
      cases ys <;> simp [fillRows]
    · rw [if_neg hzero, if_neg hzero]
      by_cases hle : code.length ≤ size
      · rw [if_pos hle, if_pos hle, ih]
        rcases fillRows codes (size - code.length) with _ | out
        · rfl
        · simp only [Option.bind_some, Option.map_some, List.length_append, Nat.sub_sub]
          rcases fillRows ys _ with _ | out' <;> simp
      · rw [if_neg hle, if_neg hle]
        rfl

/-- Four lists of codes. -/
lemma fillRows_planes (as rs gs bs : List (List UInt8)) (size : Nat) :
    ((fillRows as size).bind fun a => (fillRows rs (size - a.length)).bind fun r =>
        (fillRows gs (size - a.length - r.length)).bind fun g =>
        (fillRows bs (size - a.length - r.length - g.length)).bind fun b => some (a, r, g, b)).map
        (fun (a, r, g, b) => a ++ r ++ g ++ b) =
      fillRows (as ++ (rs ++ (gs ++ bs))) size := by
  simp only [fillRows_append]
  rcases fillRows as size with _ | a
  · rfl
  · simp only [Option.bind_some]
    rcases fillRows rs (size - a.length) with _ | r
    · rfl
    · simp only [Option.bind_some]
      rcases fillRows gs (size - a.length - r.length) with _ | g
      · rfl
      · simp only [Option.bind_some]
        rcases fillRows bs (size - a.length - r.length - g.length) with _ | b
        · rfl
        · simp

/-- What is in the buffer: all codes, or some of them that fill it. -/
lemma fillRows_eq_some {codes : List (List UInt8)} {size : Nat} {out : List UInt8}
    (h : fillRows codes size = some out) :
    out = codes.flatten ∧ out.length ≤ size ∨
      ∃ k < codes.length, out = (codes.take k).flatten ∧ out.length = size := by
  induction codes generalizing size out with
  | nil =>
    cases h
    exact .inl ⟨rfl, Nat.zero_le _⟩
  | cons code codes ih =>
    rw [fillRows] at h
    split at h
    · cases h
      exact .inr ⟨0, Nat.succ_pos _, rfl, by simp [*]⟩
    · split at h
      · rename_i hle
        obtain ⟨out, hout, rfl⟩ := Option.map_eq_some_iff.mp h
        rcases ih hout with ⟨rfl, hlength⟩ | ⟨k, hk, rfl, hlength⟩
        · refine .inl ⟨rfl, ?_⟩
          rw [List.length_append]
          omega
        · refine .inr ⟨k + 1, Nat.succ_lt_succ hk, rfl, ?_⟩
          rw [List.length_append]
          omega
      · cases h

lemma RowCodes.ne_nil {rows codes : List (List UInt8)} (h : RowCodes rows codes) :
    ∀ code ∈ codes, code ≠ [] := by
  induction h with
  | nil => exact fun code hcode => absurd hcode List.not_mem_nil
  | cons hcode _ ih => exact List.forall_mem_cons.mpr ⟨hcode.2, ih⟩

/-- Codes that fill the buffer are all that is in it. -/
lemma fillRows_take {codes : List (List UInt8)} (hne : ∀ code ∈ codes, code ≠ []) {k size : Nat}
    (hk : k < codes.length) (hsize : (codes.take k).flatten.length = size) :
    fillRows codes size = some (codes.take k).flatten := by
  induction codes generalizing k size with
  | nil => exact absurd hk (Nat.not_lt_zero k)
  | cons code codes ih =>
    obtain ⟨hcode, hcodes⟩ := List.forall_mem_cons.mp hne
    have hpos : 0 < code.length := List.length_pos_iff.mpr hcode
    cases k with
    | zero =>
      rw [← hsize, fillRows]
      rfl
    | succ k =>
      rw [List.take_succ_cons, List.flatten_cons, List.length_append] at hsize
      rw [fillRows, if_neg (by omega), if_pos (by omega), List.take_succ_cons, List.flatten_cons,
        ih hcodes (Nat.lt_of_succ_lt_succ hk) (by omega : _ = size - code.length)]
      rfl

/-! ### The planes of the source -/

/-- A pixel of the source. -/
def planarPixel (data : Nat → UInt8) (format : PixelFormat) (step y x : Nat) : Color :=
  splitColor (readColor data (step * y + 4 * x)) format

/-- The pixels in the order of the planes, the bottom row first. -/
def planarColors (data : Nat → UInt8) (format : PixelFormat) (step w h : Nat) : List Color :=
  (List.range h).reverse.flatMap fun i => splitColorRow data format w (step * i)

section Source

variable {data : Nat → UInt8} {format : PixelFormat} {step w h : Nat}

lemma length_splitColorRow (row : Nat) : (splitColorRow data format w row).length = w := by
  rw [splitColorRow, List.length_map, List.length_range]

lemma planarColors_succ :
    planarColors data format step w (h + 1) =
      splitColorRow data format w (step * h) ++ planarColors data format step w h := by
  rw [planarColors, List.range_succ, List.reverse_append]
  rfl

lemma length_planarColors : (planarColors data format step w h).length = w * h := by
  induction h with
  | zero => rfl
  | succ h ih =>
    rw [planarColors_succ, List.length_append, length_splitColorRow, ih, Nat.mul_succ, Nat.add_comm]

lemma getElem?_planarColors {y x : Nat} (hy : y < h) (hx : x < w) :
    (planarColors data format step w h)[planarPlaneIndex w y x]? =
      some (planarPixel data format step (h - 1 - y) x) := by
  induction h generalizing y with
  | zero => exact absurd hy (Nat.not_lt_zero y)
  | succ h ih =>
    rw [planarColors_succ, planarPlaneIndex]
    cases y with
    | zero =>
      rw [Nat.zero_mul, Nat.zero_add, List.getElem?_append_left (by rwa [length_splitColorRow]),
        splitColorRow, List.getElem?_map, List.getElem?_range hx]
      rfl
    | succ y =>
      have hrest := ih (Nat.lt_of_succ_lt_succ hy)
      rw [planarPlaneIndex] at hrest
      rw [List.getElem?_append_right (by rw [length_splitColorRow, Nat.succ_mul]; omega),
        length_splitColorRow, Nat.succ_mul, show y * w + w + x - w = y * w + x by omega, hrest]
      congr 2
      omega

/-- The channel of a pixel in its plane. -/
lemma getD_map_planarColors (channel : Color → UInt8) {y x : Nat} (hy : y < h) (hx : x < w) :
    ((planarColors data format step w h).map channel).getD (planarPlaneIndex w y x) 0 =
      channel (planarPixel data format step (h - 1 - y) x) := by
  rw [List.getD_eq_getElem?_getD, List.getElem?_map, getElem?_planarColors hy hx]
  rfl

/-- `freerdp_split_color_planes` takes an image whose rows have signed indices. -/
lemma freerdpSplitColorPlanes_ok {scanline : Nat} (hw : w ≤ INT32_MAX) (hh : h ≤ INT32_MAX)
    (hscanline : scanline ≤ INT32_MAX) (hrows : planarStep scanline w * (h - 1) ≤ INT32_MAX) :
    freerdpSplitColorPlanes data format w h scanline =
      .ok (planarColors data format (planarStep scanline w) w h) := by
  rw [freerdpSplitColorPlanes, if_neg (by omega), ← planarStep, if_neg (by omega), planarColors]

end Source

/-! ### The codes of an image -/

/-- The planes that are sent. -/
def planarKeptPlanes (skipAlpha : Bool) (colors : List Color) : List (List UInt8) :=
  (if skipAlpha then [] else [colors.map Color.a]) ++
    [colors.map Color.r, colors.map Color.g, colors.map Color.b]

/-- The codes of a plane, row by row. -/
def planarPlaneCodes (w h : Nat) (plane : List UInt8) : List (List UInt8) :=
  planarRowCodes w h (planarDeltaEncodePlane plane w)

/-- The codes of the rows of all planes that are sent. -/
def planarImageCodes (skipAlpha : Bool) (w h : Nat) (colors : List Color) : List (List UInt8) :=
  (planarKeptPlanes skipAlpha colors).flatMap (planarPlaneCodes w h)

section Codes

variable {w h : Nat} {alpha red green blue : List UInt8}

/-- The four planes share a buffer. -/
lemma planarCompressPlanesRle_fill (hw : 0 < w) (hh : 0 < h) (halpha : alpha.length = w * h)
    (hred : red.length = w * h) (hgreen : green.length = w * h) (hblue : blue.length = w * h)
    (skipAlpha : Bool) :
    (planarCompressPlanesRle (planarDeltaEncodePlane alpha w) (planarDeltaEncodePlane red w)
        (planarDeltaEncodePlane green w) (planarDeltaEncodePlane blue w) w h skipAlpha).map
        (fun (alpha, red, green, blue) => alpha ++ red ++ green ++ blue) =
      fillRows ((if skipAlpha then [] else planarPlaneCodes w h alpha) ++
        (planarPlaneCodes w h red ++ (planarPlaneCodes w h green ++ planarPlaneCodes w h blue)))
        (w * h * 4 % 2 ^ 32) := by
  obtain ⟨-, -, -, -, halpha⟩ := planarCompressPlaneRle_spec hw hh halpha
  obtain ⟨-, -, -, -, hred⟩ := planarCompressPlaneRle_spec hw hh hred
  obtain ⟨-, -, -, -, hgreen⟩ := planarCompressPlaneRle_spec hw hh hgreen
  obtain ⟨-, -, -, -, hblue⟩ := planarCompressPlaneRle_spec hw hh hblue
  rw [planarCompressPlanesRle]
  cases skipAlpha with
  | false =>
    simp only [Bool.false_eq_true, if_false, halpha, hred, hgreen, hblue]
    exact fillRows_planes _ _ _ _ _
  | true =>
    simp only [if_true, hred, hgreen, hblue]
    exact fillRows_planes [] _ _ _ _

lemma length_planarPlaneCodes (plane : List UInt8) : (planarPlaneCodes w h plane).length = h := by
  rw [planarPlaneCodes, planarRowCodes, List.length_map, length_planarChunks]

/-- The codes of a plane are never empty. -/
lemma RowCodes.flatten_ne_nil {rows codes : List (List UInt8)} (hcodes : RowCodes rows codes)
    (hne : codes ≠ []) : codes.flatten ≠ [] := by
  cases hcodes with
  | nil => exact absurd rfl hne
  | cons hcode _ => exact List.append_ne_nil_of_left_ne_nil hcode.2 _

/-- Rows at the start of the source are measured. -/
lemma planarSkipPlaneRle_append {bytes : List UInt8} {rows : List (List UInt8)}
    (hrows : RowsOf w h bytes rows []) (tail : List UInt8)
    (hlength : (bytes ++ tail).length ≤ INT32_MAX) (hw : w ≤ INT32_MAX) :
    planarSkipPlaneRle ((bytes ++ tail).length + 1) (bytes ++ tail) w h = .ok bytes.length := by
  rw [INT32_MAX] at hlength hw
  have hskip := RowsOf.planarSkipRows (by omega : (bytes ++ tail).length + 16 ≤ 2 ^ 32) (by omega)
    (hrows.append tail) List.drop_zero.symm (Nat.zero_le _) (Nat.lt_succ_self _)
  rw [List.nil_append, List.length_append, Nat.add_sub_cancel, ← List.length_append] at hskip
  rw [List.length_append] at hlength
  rw [planarSkipPlaneRle, hskip]
  exact if_neg (by rw [INT32_MAX]; omega)

/-- The planes after the header are found. -/
lemma planarRlePlanes_append {a r g b : List UInt8} {as rs gs bs : List (List UInt8)} {keep : Bool}
    (ha : if keep then RowsOf w h a as [] else a = []) (hr : RowsOf w h r rs [])
    (hg : RowsOf w h g gs []) (hb : RowsOf w h b bs []) (hgne : g ≠ []) (hbne : b ≠ [])
    (hlength : (a ++ (r ++ (g ++ b))).length ≤ INT32_MAX) (hw : w ≤ INT32_MAX) :
    planarRlePlanes (a ++ (r ++ (g ++ b))) keep false w h =
      .ok ⟨a ++ (r ++ (g ++ b)), r ++ (g ++ b), g ++ b, b,
        a.length, r.length, g.length, b.length⟩ := by
  have hgpos := List.length_pos_iff.mpr hgne
  have hbpos := List.length_pos_iff.mpr hbne
  have hparts := hlength
  simp only [List.length_append] at hparts
  have hfirst : (if keep then planarSkipPlaneRle ((a ++ (r ++ (g ++ b))).length + 1)
      (a ++ (r ++ (g ++ b))) w h else .ok 0) = .ok a.length := by
    cases keep with
    | false => rw [show a = [] from ha]; rfl
    | true => exact planarSkipPlaneRle_append ha _ hlength hw
  have hred := planarSkipPlaneRle_append hr (g ++ b) (by simp only [List.length_append]; omega) hw
  have hgreen := planarSkipPlaneRle_append hg b (by simp only [List.length_append]; omega) hw
  have hblue := planarSkipPlaneRle_append hb [] (by rw [List.append_nil]; omega) hw
  rw [List.append_nil] at hblue
  simp only [planarRlePlanes, planarSubsampled, Bool.false_eq_true, if_false, hfirst, List.drop_left,
    hred, hgreen, hblue, if_neg (by omega : ¬g.length < 1), if_neg (by omega : ¬b.length < 1)]

/-- A plane that was measured consists of rows. -/
lemma planarSkipPlaneRle_rowsOf {src : List UInt8} {size : Nat} (hsrc : src.length ≤ INT32_MAX)
    (hw : w ≤ INT32_MAX) (hskip : planarSkipPlaneRle (src.length + 1) src w h = .ok size) :
    ∃ rows, RowsOf w h src rows (src.drop size) := by
  rw [INT32_MAX] at hsrc
  obtain ⟨-, -, rows, hrows⟩ := planarSkipPlaneRle_ok (by omega) hw hskip
  have happend := hrows.append (src.drop size)
  rw [List.take_append_drop, List.nil_append] at happend
  exact ⟨rows, happend⟩

/-- Planes that were found consist of rows. -/
lemma planarRlePlanes_rowsOf {srcp : List UInt8} {keep : Bool} {planes : PlanarPlanes}
    (hsrc : srcp.length ≤ INT32_MAX) (hw : w ≤ INT32_MAX)
    (hplanes : planarRlePlanes srcp keep false w h = .ok planes) :
    ∃ rows rest, RowsOf w ((if keep then h else 0) + (h + (h + h))) srcp rows rest := by
  have hdrop : ∀ (src : List UInt8) n, src.length ≤ INT32_MAX → (src.drop n).length ≤ INT32_MAX := by
    intro src n hle
    rw [List.length_drop]
    omega
  simp only [planarRlePlanes, planarSubsampled, Bool.false_eq_true, if_false] at hplanes
  split at hplanes
  · cases hplanes
  · rename_i alphaSize halpha
    have hred := hdrop srcp alphaSize hsrc
    split at hplanes
    · cases hplanes
    · rename_i redSize hredSkip
      have hgreen := hdrop _ redSize hred
      split at hplanes
      · cases hplanes
      · rename_i greenSize hgreenSkip
        have hblue := hdrop _ greenSize hgreen
        split at hplanes
        · cases hplanes
        · split at hplanes
          · cases hplanes
          · rename_i blueSize hblueSkip
            obtain ⟨rs, hrs⟩ := planarSkipPlaneRle_rowsOf hred hw hredSkip
            obtain ⟨gs, hgs⟩ := planarSkipPlaneRle_rowsOf hgreen hw hgreenSkip
            obtain ⟨bs, hbs⟩ := planarSkipPlaneRle_rowsOf hblue hw hblueSkip
            have hcolors := hrs.trans (hgs.trans hbs)
            cases keep with
            | false =>
              cases halpha
              rw [List.drop_zero] at hcolors
              exact ⟨_, _, by rw [if_neg Bool.false_ne_true, Nat.zero_add]; exact hcolors⟩
            | true =>
              obtain ⟨as, has⟩ := planarSkipPlaneRle_rowsOf hsrc hw halpha
              exact ⟨_, _, has.trans hcolors⟩

end Codes

/-! ### Raw planes -/

section Raw

variable {w h : Nat} {a r g b : List UInt8}

lemma planarPlaneIndex_lt {y x : Nat} (hy : y < h) (hx : x < w) : planarPlaneIndex w y x < w * h := by
  have hrow : (y + 1) * w ≤ h * w := Nat.mul_le_mul_right w hy
  rw [Nat.succ_mul, Nat.mul_comm h] at hrow
  rw [planarPlaneIndex]
  omega

/-- Raw planes after the header are found. -/
lemma planarRawPlanes_append {keep : Bool} (ha : a.length = if keep then w * h else 0)
    (hr : r.length = w * h) (hg : g.length = w * h) (hmax : w * h * 4 ≤ INT32_MAX)
    (hb : w * h ≤ b.length) :
    planarRawPlanes (a ++ (r ++ (g ++ b))) keep false w h =
      .ok ⟨a ++ (r ++ (g ++ b)), r ++ (g ++ b), g ++ b, b, a.length, w * h, w * h, w * h⟩ := by
  rw [INT32_MAX] at hmax
  have hlength : a.length ≤ w * h := by
    rw [ha]
    split <;> omega
  have hsize : (if keep then w * h else 0) = a.length := ha.symm
  simp only [planarRawPlanes, planarSubsampled, Bool.false_eq_true, if_false,
    Nat.mod_eq_of_lt (by omega : w * h < 2 ^ 32), hsize, List.drop_left, List.drop_left' hr,
    List.drop_left' hg]
  rw [if_neg, if_neg (by omega)]
  simp only [List.length_append]
  omega

/-- The bytes of a plane at the start of a list. -/
lemma getD_append_planarPlaneIndex (hr : r.length = w * h) (tail : List UInt8) {y x : Nat}
    (hy : y < h) (hx : x < w) :
    (r ++ tail).getD (planarPlaneIndex w y x) 0 = r.getD (planarPlaneIndex w y x) 0 := by
  have hlt := planarPlaneIndex_lt hy hx
  rw [List.getD_append _ _ _ _ (by omega)]

lemma planarReadPlane_ok {plane : List UInt8} {n : Nat} (h : n ≤ plane.length) :
    planarReadPlane plane n = .ok fun i => plane.getD i 0 := if_neg (by omega)

/-- Raw planes are written as the colours of the image. -/
lemma planarDecompressRgb_raw {keep useAlpha vFlip : Bool} {step nX nY total : Nat}
    {color : Nat → Nat → Color} (ha : a.length = if keep then w * h else 0) (hr : r.length = w * h)
    (hg : g.length = w * h) (hb : b.length = w * h)
    (hcolor : ∀ y < h, ∀ x < w, (color y x).r = r.getD (planarPlaneIndex w y x) 0 ∧
      (color y x).g = g.getD (planarPlaneIndex w y x) 0 ∧
      (color y x).b = b.getD (planarPlaneIndex w y x) 0 ∧
      (keep = true → (color y x).a = a.getD (planarPlaneIndex w y x) 0))
    (huse : useAlpha = true → keep = true) (hfits : PlanarFits step nX nY w h 0) (hw : 0 < w)
    (hh : h ≤ INT32_MAX) (htotal : (nY + h) % 2 ^ 32 ≤ total) (tail : List UInt8)
    (aSize rSize gSize bSize : Nat) (dst : Nat → UInt8) :
    ∃ dst', planarDecompressRgb ⟨a ++ (r ++ (g ++ (b ++ tail))), r ++ (g ++ (b ++ tail)),
        g ++ (b ++ tail), b ++ tail, aSize, rSize, gSize, bSize⟩ false useAlpha dst step nX nY w h
        vFlip total = .ok dst' ∧ HoldsColors dst' step nX nY w h vFlip useAlpha color := by
  obtain ⟨dst', hdst', hcolors⟩ : ∃ dst', planarDecompressPlanesRaw
      (fun i => (r ++ (g ++ (b ++ tail))).getD i 0) (fun i => (g ++ (b ++ tail)).getD i 0)
      (fun i => (b ++ tail).getD i 0)
      (if useAlpha then some fun i => (a ++ (r ++ (g ++ (b ++ tail)))).getD i 0 else none)
      dst step nX nY w h vFlip total = .ok dst' ∧
      HoldsColors dst' step nX nY w h vFlip useAlpha color := by
    refine planarDecompressPlanesRaw_holds hfits hw hh htotal (fun y hy x hx => ?_) vFlip dst
    obtain ⟨hcr, hcg, hcb, hca⟩ := hcolor y hy x hx
    refine ⟨hcr.trans (getD_append_planarPlaneIndex hr _ hy hx).symm,
      hcg.trans (getD_append_planarPlaneIndex hg _ hy hx).symm,
      hcb.trans (getD_append_planarPlaneIndex hb _ hy hx).symm, ?_⟩
    cases useAlpha with
    | false => rfl
    | true =>
      have hkeep := huse rfl
      rw [hkeep] at ha
      exact (hca hkeep).trans (getD_append_planarPlaneIndex ha _ hy hx).symm
  refine ⟨dst', ?_, hcolors⟩
  rw [← hdst']
  simp only [planarDecompressRgb, Bool.not_false, if_true, bind, Except.bind]
  rw [planarReadPlane_ok (by simp only [List.length_append]; omega),
    planarReadPlane_ok (by simp only [List.length_append]; omega),
    planarReadPlane_ok (by simp only [List.length_append]; omega)]
  cases useAlpha with
  | false => rfl
  | true =>
    have hkeep := huse rfl
    rw [hkeep] at ha
    rw [planarReadPlane_ok (by rw [List.length_append, ha]; exact Nat.le_add_right _ _)]
    rfl

end Raw

/-! ### Whole images -/

/-- The buffers of a context that was created or reset with these dimensions. -/
structure PlanarContext.Sized (planar : PlanarContext) (width height : Nat) : Prop where
  maxHeight : planar.maxHeight = planarAlign height
  nTempStep : planar.nTempStep = planarAlign width * 4 % 2 ^ 32

lemma planarContextReset_sized (context : PlanarContext) (width height : Nat) :
    (planarContextReset context width height).Sized width height := ⟨rfl, rfl⟩

lemma planarContextNew_sized (flags : UInt8) (width height : Nat) :
    (planarContextNew flags width height).Sized width height := planarContextReset_sized _ _ _

/-- An image of `w * h` pixels that is compressed and decompressed: it lies inside of the dimensions
of the context, the destination holds it, and signed numbers count the bytes of the buffers. -/
structure PlanarCall (planar : PlanarContext) (maxWidth maxHeight scanline nDstStep nX nY w h : Nat) :
    Prop where
  width_pos : 0 < w
  height_pos : 0 < h
  width : nX + w ≤ maxWidth
  height : nY + h ≤ maxHeight
  context : planar.Sized maxWidth maxHeight
  size : (maxWidth + 3) * 4 * (maxHeight + 3) ≤ INT32_MAX
  scanline_le : scanline ≤ INT32_MAX
  rows : planarStep scanline w * (h - 1) ≤ INT32_MAX
  dst : PlanarFits (planarStep nDstStep w) nX nY w h 0

namespace PlanarCall

variable {planar : PlanarContext} {maxWidth maxHeight scanline nDstStep nX nY w h : Nat}

lemma area_le (call : PlanarCall planar maxWidth maxHeight scanline nDstStep nX nY w h) :
    w * h * 4 ≤ INT32_MAX := by
  have hwidth := call.width
  have hheight := call.height
  calc w * h * 4 = w * 4 * h := Nat.mul_right_comm _ _ _
    _ ≤ (maxWidth + 3) * 4 * (maxHeight + 3) :=
      Nat.mul_le_mul (Nat.mul_le_mul_right 4 (by omega)) (by omega)
    _ ≤ INT32_MAX := call.size

lemma width_le (call : PlanarCall planar maxWidth maxHeight scanline nDstStep nX nY w h) :
    w ≤ INT32_MAX := by
  have harea := call.area_le
  have hmul := Nat.le_mul_of_pos_right w call.height_pos
  omega

lemma height_le (call : PlanarCall planar maxWidth maxHeight scanline nDstStep nX nY w h) :
    h ≤ INT32_MAX := by
  have harea := call.area_le
  have hmul := Nat.le_mul_of_pos_left h call.width_pos
  omega

/-- The temporary buffer holds the image. -/
lemma temp (call : PlanarCall planar maxWidth maxHeight scanline nDstStep nX nY w h) :
    PlanarFits planar.nTempStep nX nY w h 0 ∧ nY + h ≤ planar.maxHeight := by
  have hwidth := call.width
  have hheight := call.height
  have hsize := call.size
  have hw : (maxWidth + 3) * 4 ≤ INT32_MAX := (Nat.le_mul_of_pos_right _ (Nat.succ_pos _)).trans hsize
  have hh : maxHeight + 3 ≤ INT32_MAX := (Nat.le_mul_of_pos_left _ (by omega)).trans hsize
  have halign : ∀ n, n + 3 ≤ INT32_MAX → n ≤ planarAlign n ∧ planarAlign n ≤ n + 3 := by
    intro n hn
    rw [INT32_MAX] at hn
    rw [planarAlign]
    split
    · omega
    · rw [Nat.mod_eq_of_lt (by omega)]
      omega
  obtain ⟨halignw, halignw'⟩ := halign maxWidth (by omega)
  obtain ⟨halignh, -⟩ := halign maxHeight hh
  rw [INT32_MAX] at hw hsize
  have hstep : planar.nTempStep = planarAlign maxWidth * 4 := by
    rw [call.context.nTempStep, Nat.mod_eq_of_lt (by omega)]
  refine ⟨⟨by omega, ?_, ?_, ?_⟩, by rw [call.context.maxHeight]; omega⟩
  · rw [hstep]
    omega
  · rw [hstep, INT32_MAX]
    omega
  · calc (nY + h) * planar.nTempStep ≤ (maxHeight + 3) * ((maxWidth + 3) * 4) := by
          rw [hstep]
          exact Nat.mul_le_mul (by omega) (by omega)
      _ = (maxWidth + 3) * 4 * (maxHeight + 3) := Nat.mul_comm _ _
      _ ≤ 2 ^ 32 := by omega

end PlanarCall

/-- The formats of the source and the destination are inverted together. -/
lemma agree_of_planarInvertFormat {context planar : PlanarContext} (hbgr : planar.bgr = context.bgr)
    {keep alpha : Bool} {u v : Nat} {dstFormat srcFormat : PixelFormat}
    (hagree : (splitColor u (planarInvertFormat planar keep dstFormat)).Agree alpha
      (splitColor v (planarInvertFormat context keep srcFormat))) :
    (splitColor u dstFormat).Agree alpha (splitColor v srcFormat) := by
  have hinvert : ∀ (context : PlanarContext) (color : Nat) (format : PixelFormat),
      splitColor color (planarInvertFormat context keep format) =
        if context.bgr && keep then ⟨(splitColor color format).b, (splitColor color format).g,
          (splitColor color format).r, (splitColor color format).a⟩
        else splitColor color format := by
    intro context color format
    unfold planarInvertFormat
    split
    · cases format <;> rfl
    · rfl
  rw [hinvert, hinvert, hbgr] at hagree
  split at hagree
  · exact ⟨hagree.b, hagree.g, hagree.r, hagree.a⟩
  · exact hagree

lemma planarImageCodes_eq (skipAlpha : Bool) (w h : Nat) (colors : List Color) :
    planarImageCodes skipAlpha w h colors =
      (if skipAlpha then [] else planarPlaneCodes w h (colors.map Color.a)) ++
        (planarPlaneCodes w h (colors.map Color.r) ++ (planarPlaneCodes w h (colors.map Color.g) ++
          planarPlaneCodes w h (colors.map Color.b))) := by
  cases skipAlpha <;> simp [planarImageCodes, planarKeptPlanes]

lemma length_planarImageCodes (skipAlpha : Bool) (w h : Nat) (colors : List Color) :
    (planarImageCodes skipAlpha w h colors).length =
      (if !skipAlpha then h else 0) + (h + (h + h)) := by
  rw [planarImageCodes_eq]
  simp only [List.length_append, length_planarPlaneCodes]
  cases skipAlpha
  · simp [length_planarPlaneCodes]
  · simp

section Image

variable {w h : Nat}

/-- The codes of planes stand for rows. -/
lemma rowCodes_planes (hw : 0 < w) (hh : 0 < h) {planes : List (List UInt8)}
    (hplanes : ∀ plane ∈ planes, plane.length = w * h) :
    ∃ rows, RowCodes rows (planes.flatMap (planarPlaneCodes w h)) ∧ ∀ row ∈ rows, row.length = w := by
  induction planes with
  | nil => exact ⟨[], .nil, fun row hrow => absurd hrow List.not_mem_nil⟩
  | cons plane planes ih =>
    obtain ⟨hplane, hplanes⟩ := List.forall_mem_cons.mp hplanes
    obtain ⟨rows, hcodes, hrows, -⟩ := planarCompressPlaneRle_spec hw hh hplane
    obtain ⟨rows', hcodes', hwidth⟩ := ih hplanes
    refine ⟨rows ++ rows', List.rel_append hcodes hcodes', fun row hrow => ?_⟩
    rcases List.mem_append.mp hrow with hrow | hrow
    · exact hrows.length_row row hrow
    · exact hwidth row hrow

lemma rowCodes_planarImageCodes (hw : 0 < w) (hh : 0 < h) {colors : List Color}
    (hcolors : colors.length = w * h) (skipAlpha : Bool) :
    ∃ rows, RowCodes rows (planarImageCodes skipAlpha w h colors) ∧ ∀ row ∈ rows, row.length = w := by
  refine rowCodes_planes hw hh fun plane hplane => ?_
  have hmap : ∃ channel : Color → UInt8, plane = colors.map channel := by
    rw [planarKeptPlanes] at hplane
    cases skipAlpha <;> simp at hplane <;> aesop
  obtain ⟨channel, rfl⟩ := hmap
  rw [List.length_map, hcolors]

/-- Codes without those of the last rows are not taken for planes. -/
lemma planarRlePlanes_take (hw : 0 < w) (hw' : w ≤ INT32_MAX) (hh : 0 < h) {colors : List Color}
    (hcolors : colors.length = w * h) {skipAlpha : Bool} {k : Nat}
    (hk : k < (planarImageCodes skipAlpha w h colors).length)
    (hlength : ((planarImageCodes skipAlpha w h colors).take k).flatten.length ≤ INT32_MAX)
    (planes : PlanarPlanes) :
    planarRlePlanes ((planarImageCodes skipAlpha w h colors).take k).flatten (!skipAlpha) false w h ≠
      .ok planes := by
  intro hplanes
  obtain ⟨rows, hcodes, hwidth⟩ := rowCodes_planarImageCodes hw hh hcolors skipAlpha
  obtain ⟨rows', rest, hrows⟩ := planarRlePlanes_rowsOf hlength hw' hplanes
  have htake : RowCodes (rows.take k) ((planarImageCodes skipAlpha w h colors).take k) :=
    List.forall₂_take k hcodes
  have hle := htake.le_length (fun row hrow => hwidth row (List.mem_of_mem_take hrow)) hw hrows
  rw [List.length_take, ← length_planarImageCodes skipAlpha w h colors] at hle
  omega

lemma planarPlaneCodes_rowsOf (hw : 0 < w) (hh : 0 < h) {plane : List UInt8}
    (hplane : plane.length = w * h) :
    ∃ rows, RowsOf w h (planarPlaneCodes w h plane).flatten rows [] := by
  obtain ⟨rows, -, hrows, -⟩ := planarCompressPlaneRle_spec hw hh hplane
  exact ⟨rows, hrows⟩

/-- A plane is found at the start of the source. -/
lemma planeCode_append (hw : 0 < w) (hh : 0 < h) {plane : List UInt8} (hplane : plane.length = w * h)
    (tail : List UInt8)
    (hlength : ((planarPlaneCodes w h plane).flatten ++ tail).length ≤ INT32_MAX) :
    PlaneCode w h ((planarPlaneCodes w h plane).flatten ++ tail)
      (planarPlaneCodes w h plane).flatten.length plane := by
  obtain ⟨rows, -, hrows, hvalues, -⟩ := planarCompressPlaneRle_spec hw hh hplane
  rw [List.length_append] at hlength
  exact ⟨⟨rows, tail, hrows.append tail, List.length_append, hvalues⟩, by omega⟩

end Image

/-- The colours of the source in the order of the planes, as `freerdp_bitmap_compress_planar` takes
them. -/
def planarSourceColors (context : PlanarContext) (data : Nat → UInt8) (format : PixelFormat)
    (w h scanline : Nat) : List Color :=
  planarColors data (planarInvertFormat context (!context.allowSkipAlpha) format)
    (planarStep scanline w) w h

section RoundTrip

variable {context planar : PlanarContext} {maxWidth maxHeight scanline nDstStep nX nY w h : Nat}

lemma planarInvertFormat_skipAlpha (context : PlanarContext) (format : PixelFormat) :
    (if !context.allowSkipAlpha then planarInvertFormat context true format else format) =
      planarInvertFormat context (!context.allowSkipAlpha) format := by
  unfold planarInvertFormat
  cases context.allowSkipAlpha <;> simp

/-- The compressor with run-length encoding. -/
lemma freerdpBitmapCompressPlanar_rle
    (call : PlanarCall planar maxWidth maxHeight scanline nDstStep nX nY w h)
    (hrle : context.allowRunLengthEncoding = true) (data : Nat → UInt8) (format : PixelFormat) :
    freerdpBitmapCompressPlanar context data format w h scanline =
      match fillRows (planarImageCodes context.allowSkipAlpha w h
        (planarSourceColors context data format w h scanline)) (w * h * 4) with
      | none => .error .failed
      | some out => .ok (planarFormatHeader context.allowSkipAlpha true :: out) := by
  have harea := call.area_le
  have hlength : ∀ channel : Color → UInt8,
      ((planarSourceColors context data format w h scanline).map channel).length = w * h := by
    intro channel
    rw [List.length_map, planarSourceColors, length_planarColors]
  have hfill := planarCompressPlanesRle_fill call.width_pos call.height_pos (hlength Color.a)
    (hlength Color.r) (hlength Color.g) (hlength Color.b) context.allowSkipAlpha
  rw [INT32_MAX] at harea
  rw [← planarImageCodes_eq, Nat.mod_eq_of_lt (by omega)] at hfill
  rw [freerdpBitmapCompressPlanar, planarInvertFormat_skipAlpha]
  dsimp only
  rw [freerdpSplitColorPlanes_ok call.width_le call.height_le call.scanline_le call.rows,
    ← planarSourceColors, ← hfill]
  dsimp only
  rw [if_pos hrle]
  rcases planarCompressPlanesRle _ _ _ _ w h context.allowSkipAlpha with _ | ⟨a, r, g, b⟩ <;> rfl

/-- The compressor without it. -/
lemma freerdpBitmapCompressPlanar_raw
    (call : PlanarCall planar maxWidth maxHeight scanline nDstStep nX nY w h)
    (hrle : context.allowRunLengthEncoding = false) (data : Nat → UInt8) (format : PixelFormat) :
    freerdpBitmapCompressPlanar context data format w h scanline =
      .ok (planarFormatHeader context.allowSkipAlpha false ::
        ((if context.allowSkipAlpha then []
          else (planarSourceColors context data format w h scanline).map Color.a) ++
        ((planarSourceColors context data format w h scanline).map Color.r ++
        ((planarSourceColors context data format w h scanline).map Color.g ++
        ((planarSourceColors context data format w h scanline).map Color.b ++ [0]))))) := by
  have harea := call.area_le
  have hlength : ∀ channel : Color → UInt8,
      ((planarSourceColors context data format w h scanline).map channel).length = w * h := by
    intro channel
    rw [List.length_map, planarSourceColors, length_planarColors]
  rw [INT32_MAX] at harea
  have htake : ∀ channel : Color → UInt8,
      ((planarSourceColors context data format w h scanline).map channel).take (w * h % 2 ^ 32) =
        (planarSourceColors context data format w h scanline).map channel := by
    intro channel
    exact List.take_of_length_le (by rw [hlength, Nat.mod_eq_of_lt (by omega)])
  rw [freerdpBitmapCompressPlanar, planarInvertFormat_skipAlpha]
  dsimp only
  rw [freerdpSplitColorPlanes_ok call.width_le call.height_le call.scanline_le call.rows,
    ← planarSourceColors]
  dsimp only
  rw [if_neg (by rw [hrle]; exact Bool.false_ne_true), htake, htake, htake, htake]
  simp only [List.append_assoc]

/-- The colours that the pixels of the destination show. -/
lemma planarSourceColors_shows {dst : Nat → UInt8} {step : Nat} {vFlip alpha : Bool}
    {data : Nat → UInt8} {srcFormat dstFormat : PixelFormat} (hbgr : planar.bgr = context.bgr)
    (hshows : ShowsColors dst (planarInvertFormat planar (!context.allowSkipAlpha) dstFormat) step nX
      nY w h vFlip alpha fun y x => planarPixel data
        (planarInvertFormat context (!context.allowSkipAlpha) srcFormat) (planarStep scanline w)
        (h - 1 - y) x) :
    ShowsColors dst dstFormat step nX nY w h vFlip alpha fun y x =>
      planarPixel data srcFormat (planarStep scanline w) (h - 1 - y) x :=
  fun y hy x hx => agree_of_planarInvertFormat hbgr (hshows y hy x hx)

/-- All planes of the source, run-length encoded. -/
lemma planarDecompress_rle {env : PlanarEnv} (hoverlap : env.overlapping = false)
    (call : PlanarCall planar maxWidth maxHeight scanline nDstStep nX nY w h)
    (hbgr : planar.bgr = context.bgr) (data dst : Nat → UInt8) (srcFormat dstFormat : PixelFormat)
    (vFlip : Bool)
    (hsize : (planarImageCodes context.allowSkipAlpha w h
      (planarSourceColors context data srcFormat w h scanline)).flatten.length ≤ INT32_MAX) :
    ∃ dst', planarDecompress env planar (planarFormatHeader context.allowSkipAlpha true ::
        (planarImageCodes context.allowSkipAlpha w h
          (planarSourceColors context data srcFormat w h scanline)).flatten) w h dst dstFormat
        nDstStep nX nY w h vFlip = .ok dst' ∧
      ShowsColors dst' dstFormat (planarStep nDstStep w) nX nY w h vFlip
        (!context.allowSkipAlpha && colorHasAlpha dstFormat)
        fun y x => planarPixel data srcFormat (planarStep scanline w) (h - 1 - y) x := by
  obtain ⟨colors, hcolors⟩ :
      ∃ colors, colors = planarSourceColors context data srcFormat w h scanline := ⟨_, rfl⟩
  have hlength : ∀ channel : Color → UInt8, (colors.map channel).length = w * h := by
    intro channel
    rw [hcolors, List.length_map, planarSourceColors, length_planarColors]
  have hpixel : ∀ (channel : Color → UInt8), ∀ y < h, ∀ x < w,
      (colors.map channel).getD (planarPlaneIndex w y x) 0 = channel (planarPixel data
        (planarInvertFormat context (!context.allowSkipAlpha) srcFormat) (planarStep scanline w)
        (h - 1 - y) x) := by
    intro channel y hy x hx
    rw [hcolors, planarSourceColors, getD_map_planarColors channel hy hx]
  have hw := call.width_pos
  have hh := call.height_pos
  have hne : ∀ channel : Color → UInt8, (planarPlaneCodes w h (colors.map channel)).flatten ≠ [] := by
    intro channel
    obtain ⟨rows, hcodes, -⟩ := planarCompressPlaneRle_spec hw hh (hlength channel)
    refine RowCodes.flatten_ne_nil hcodes (List.ne_nil_of_length_pos ?_)
    exact (length_planarPlaneCodes (colors.map channel)).symm ▸ hh
  obtain ⟨as, has⟩ := planarPlaneCodes_rowsOf hw hh (hlength Color.a)
  obtain ⟨rs, hrs⟩ := planarPlaneCodes_rowsOf hw hh (hlength Color.r)
  obtain ⟨gs, hgs⟩ := planarPlaneCodes_rowsOf hw hh (hlength Color.g)
  obtain ⟨bs, hbs⟩ := planarPlaneCodes_rowsOf hw hh (hlength Color.b)
  rw [← hcolors, planarImageCodes_eq] at hsize ⊢
  simp only [List.flatten_append] at hsize ⊢
  obtain ⟨first, hfirst⟩ : ∃ first, first =
      (if context.allowSkipAlpha then [] else planarPlaneCodes w h (colors.map Color.a)).flatten :=
    ⟨_, rfl⟩
  rw [← hfirst] at hsize ⊢
  have halpha : if !context.allowSkipAlpha then RowsOf w h first as [] else first = [] := by
    rw [hfirst]
    cases context.allowSkipAlpha
    · exact has
    · rfl
  have hplanes : planarPlanes true _ (!context.allowSkipAlpha) w h = .ok _ :=
    planarRlePlanes_append halpha hrs hgs hbs (hne Color.g) (hne Color.b) hsize call.width_le
  have hparts := hsize
  simp only [List.length_append] at hparts
  obtain ⟨htemp, hheight⟩ := call.temp
  refine (planarDecompress_shows hoverlap hplanes (fun useAlpha dst step total huse hfits _ => ?_) hw
    call.width_le call.height_le call.dst htemp hheight dst dstFormat).imp
    fun dst' h => ⟨h.1, planarSourceColors_shows hbgr h.2⟩
  have hred := planeCode_append hw hh (hlength Color.r)
    ((planarPlaneCodes w h (colors.map Color.g)).flatten ++
      (planarPlaneCodes w h (colors.map Color.b)).flatten) (by simp only [List.length_append]; omega)
  have hgreen := planeCode_append hw hh (hlength Color.g)
    (planarPlaneCodes w h (colors.map Color.b)).flatten (by simp only [List.length_append]; omega)
  have hblue := planeCode_append hw hh (hlength Color.b) [] (by rw [List.append_nil]; omega)
  rw [List.append_nil] at hblue
  have hkept : useAlpha = true → PlaneCode w h
      (first ++ ((planarPlaneCodes w h (colors.map Color.r)).flatten ++
        ((planarPlaneCodes w h (colors.map Color.g)).flatten ++
          (planarPlaneCodes w h (colors.map Color.b)).flatten))) first.length
      (colors.map Color.a) := by
    intro halpha
    have hkeep : first = (planarPlaneCodes w h (colors.map Color.a)).flatten := by
      rw [hfirst, huse halpha]
      rfl
    rw [hkeep] at hsize ⊢
    exact planeCode_append hw hh (hlength Color.a) _ hsize
  refine planarDecompressRgb_rle hred hgreen hblue hkept (fun y hy x hx => ?_) hfits
    call.width_le call.height_le dst
  rw [hpixel Color.r y hy x hx, hpixel Color.g y hy x hx, hpixel Color.b y hy x hx,
    hpixel Color.a y hy x hx]

/-- All planes of the source, raw. -/
lemma planarDecompress_raw {env : PlanarEnv} (hoverlap : env.overlapping = false)
    (call : PlanarCall planar maxWidth maxHeight scanline nDstStep nX nY w h)
    (hbgr : planar.bgr = context.bgr) (data dst : Nat → UInt8) (srcFormat dstFormat : PixelFormat)
    (vFlip : Bool) :
    ∃ dst', planarDecompress env planar (planarFormatHeader context.allowSkipAlpha false ::
        ((if context.allowSkipAlpha then []
          else (planarSourceColors context data srcFormat w h scanline).map Color.a) ++
        ((planarSourceColors context data srcFormat w h scanline).map Color.r ++
        ((planarSourceColors context data srcFormat w h scanline).map Color.g ++
        ((planarSourceColors context data srcFormat w h scanline).map Color.b ++ [0]))))) w h dst
        dstFormat nDstStep nX nY w h vFlip = .ok dst' ∧
      ShowsColors dst' dstFormat (planarStep nDstStep w) nX nY w h vFlip
        (!context.allowSkipAlpha && colorHasAlpha dstFormat)
        fun y x => planarPixel data srcFormat (planarStep scanline w) (h - 1 - y) x := by
  obtain ⟨colors, hcolors⟩ :
      ∃ colors, colors = planarSourceColors context data srcFormat w h scanline := ⟨_, rfl⟩
  have hlength : ∀ channel : Color → UInt8, (colors.map channel).length = w * h := by
    intro channel
    rw [hcolors, List.length_map, planarSourceColors, length_planarColors]
  have hpixel : ∀ (channel : Color → UInt8), ∀ y < h, ∀ x < w,
      (colors.map channel).getD (planarPlaneIndex w y x) 0 = channel (planarPixel data
        (planarInvertFormat context (!context.allowSkipAlpha) srcFormat) (planarStep scanline w)
        (h - 1 - y) x) := by
    intro channel y hy x hx
    rw [hcolors, planarSourceColors, getD_map_planarColors channel hy hx]
  rw [← hcolors]
  have halpha : (if context.allowSkipAlpha then [] else colors.map Color.a).length =
      if !context.allowSkipAlpha then w * h else 0 := by
    cases context.allowSkipAlpha
    · exact hlength Color.a
    · rfl
  have hblue : w * h ≤ (colors.map Color.b ++ [0]).length := by
    rw [List.length_append, hlength]
    exact Nat.le_add_right _ _
  have hplanes : planarPlanes false _ (!context.allowSkipAlpha) w h = .ok _ :=
    planarRawPlanes_append halpha (hlength Color.r) (hlength Color.g) call.area_le hblue
  obtain ⟨htemp, hheight⟩ := call.temp
  refine (planarDecompress_shows hoverlap hplanes
    (fun useAlpha dst step total huse hfits htotal => ?_)
    call.width_pos call.width_le call.height_le call.dst htemp hheight dst dstFormat).imp
    fun dst' h => ⟨h.1, planarSourceColors_shows hbgr h.2⟩
  refine planarDecompressRgb_raw halpha (hlength Color.r) (hlength Color.g) (hlength Color.b)
    (fun y hy x hx => ⟨(hpixel Color.r y hy x hx).symm, (hpixel Color.g y hy x hx).symm,
      (hpixel Color.b y hy x hx).symm, fun hkeep => ?_⟩) (fun h => by rw [huse h]; rfl) hfits
    call.width_pos call.height_le htotal [0] _ _ _ _ dst
  rw [if_neg (by simpa using hkeep)]
  exact (hpixel Color.a y hy x hx).symm

/-- Whole images round-trip unless rows are dropped. With run-length encoding, the codes of the rows
share a buffer with as many bytes as the image has; whatever was compressed is decompressed to the
same colours (and alpha, if it was sent and the destination has it) if and only if the codes of no
proper part of the rows fill it exactly. -/
theorem planarImage_roundTrips_iff {env : PlanarEnv} (hoverlap : env.overlapping = false)
    (call : PlanarCall planar maxWidth maxHeight scanline nDstStep nX nY w h)
    (hbgr : planar.bgr = context.bgr) (data dst : Nat → UInt8) (srcFormat dstFormat : PixelFormat)
    (vFlip : Bool) :
    (∀ bytes, freerdpBitmapCompressPlanar context data srcFormat w h scanline = .ok bytes →
      ∃ dst', planarDecompress env planar bytes w h dst dstFormat nDstStep nX nY w h vFlip =
          .ok dst' ∧
        ShowsColors dst' dstFormat (planarStep nDstStep w) nX nY w h vFlip
          (!context.allowSkipAlpha && colorHasAlpha dstFormat)
          fun y x => planarPixel data srcFormat (planarStep scanline w) (h - 1 - y) x) ↔
    (context.allowRunLengthEncoding = true →
      ∀ k < (planarImageCodes context.allowSkipAlpha w h
        (planarSourceColors context data srcFormat w h scanline)).length,
        ((planarImageCodes context.allowSkipAlpha w h
          (planarSourceColors context data srcFormat w h scanline)).take k).flatten.length ≠
          w * h * 4) := by
  have hcolors : (planarSourceColors context data srcFormat w h scanline).length = w * h := by
    rw [planarSourceColors, length_planarColors]
  have harea := call.area_le
  constructor
  · intro hroundTrip hrle k hk hfull
    obtain ⟨rows, hcodes, -⟩ := rowCodes_planarImageCodes call.width_pos call.height_pos hcolors
      context.allowSkipAlpha
    have hcompress := freerdpBitmapCompressPlanar_rle call hrle data srcFormat
    rw [fillRows_take hcodes.ne_nil hk hfull] at hcompress
    obtain ⟨dst', hdecompress, -⟩ := hroundTrip _ hcompress
    rw [planarDecompress_header] at hdecompress
    rcases hplanes : planarPlanes true _ (!context.allowSkipAlpha) w h with e | planes
    · rw [hplanes] at hdecompress
      cases hdecompress
    · exact planarRlePlanes_take call.width_pos call.width_le call.height_pos hcolors hk
        (by omega) planes hplanes
  · intro hcondition bytes hcompress
    rcases hrle : context.allowRunLengthEncoding with _ | _
    · rw [freerdpBitmapCompressPlanar_raw call hrle] at hcompress
      cases hcompress
      exact planarDecompress_raw hoverlap call hbgr data dst srcFormat dstFormat vFlip
    · rw [freerdpBitmapCompressPlanar_rle call hrle] at hcompress
      split at hcompress
      · cases hcompress
      · rename_i out hfill
        cases hcompress
        rcases fillRows_eq_some hfill with ⟨rfl, hle⟩ | ⟨k, hk, rfl, hfull⟩
        · exact planarDecompress_rle hoverlap call hbgr data dst srcFormat dstFormat vFlip
            (by omega)
        · exact absurd hfull (hcondition hrle k hk)

end RoundTrip

/-- An image of four equal pixels fits into the dimensions of a context of 4 by 1. -/
lemma planarCall_four : PlanarCall (planarContextNew 0x30 4 1) 4 1 0 0 0 0 4 1 where
  width_pos := by norm_num
  height_pos := by norm_num
  width := by norm_num
  height := by norm_num
  context := planarContextNew_sized 0x30 4 1
  size := by norm_num [INT32_MAX]
  scanline_le := by norm_num
  rows := by norm_num
  dst := ⟨by norm_num, by norm_num [planarStep], by norm_num [planarStep, INT32_MAX],
    by norm_num [planarStep]⟩

/-- The image is compressed to two bytes for each plane, and shown again. -/
theorem planarImage_roundTrips_four :
    freerdpBitmapCompressPlanar (planarContextNew 0x30 4 1) (fun _ => 7) .bgrx32 4 1 0 =
      .ok [0x30, 0x13, 7, 0x13, 7, 0x13, 7] ∧
    ∃ dst', planarDecompress ⟨false, fun _ _ _ _ _ _ _ _ _ => none⟩ (planarContextNew 0x30 4 1)
        [0x30, 0x13, 7, 0x13, 7, 0x13, 7] 4 1 (fun _ => 0) .xrgb32 0 0 0 4 1 true = .ok dst' ∧
      ShowsColors dst' .xrgb32 16 0 0 4 1 true false
        fun y x => planarPixel (fun _ => 7) .bgrx32 16 (1 - 1 - y) x :=
  ⟨by decide, (planarImage_roundTrips_iff rfl planarCall_four rfl (fun _ => 7) (fun _ => 0) .bgrx32
    .xrgb32 true).mpr (by decide) _ (by decide)⟩

/-- An image of one pixel: the codes of red and green fill the buffer, the code of blue is dropped,
and the decompressor refuses what the compressor has returned. -/
theorem planarImage_not_roundTrips :
    ¬∀ (env : PlanarEnv) (planar : PlanarContext) (data dst : Nat → UInt8), env.overlapping = false →
      PlanarCall planar 1 1 0 0 0 0 1 1 →
      ∀ bytes, freerdpBitmapCompressPlanar planar data .bgrx32 1 1 0 = .ok bytes →
      ∃ dst', planarDecompress env planar bytes 1 1 dst .bgrx32 0 0 0 1 1 true = .ok dst' ∧
        ShowsColors dst' .bgrx32 4 0 0 1 1 true false
          fun y x => planarPixel data .bgrx32 4 (1 - 1 - y) x := by
  intro hclaim
  have hcall : PlanarCall (planarContextNew 0x30 1 1) 1 1 0 0 0 0 1 1 :=
    { width_pos := by norm_num
      height_pos := by norm_num
      width := by norm_num
      height := by norm_num
      context := planarContextNew_sized 0x30 1 1
      size := by norm_num [INT32_MAX]
      scanline_le := by norm_num
      rows := by norm_num
      dst := ⟨by norm_num, by norm_num [planarStep], by norm_num [planarStep, INT32_MAX],
        by norm_num [planarStep]⟩ }
  obtain ⟨dst', hdecompress, -⟩ := hclaim ⟨false, fun _ _ _ _ _ _ _ _ _ => none⟩
    (planarContextNew 0x30 1 1) (fun _ => 7) (fun _ => 0) rfl hcall [0x30, 0x10, 7, 0x10, 7]
    (by decide)
  have hfailed : planarDecompress ⟨false, fun _ _ _ _ _ _ _ _ _ => none⟩ (planarContextNew 0x30 1 1)
      [0x30, 0x10, 7, 0x10, 7] 1 1 (fun _ => 0) .bgrx32 0 0 0 1 1 true = .error .failed := rfl
  rw [hfailed] at hdecompress
  cases hdecompress

end FreeRdp
