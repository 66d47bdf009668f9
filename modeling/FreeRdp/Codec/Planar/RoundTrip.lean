import FreeRdp.Codec.Planar.Encoding

/-!
# Planes round-trip

A plane that is delta-encoded and run-length encoded into a buffer that holds the result is decoded
to the same plane by both decoders, which take exactly the bytes of the result.
-/

namespace FreeRdp

/-! ### Differences -/

lemma planarDelta_planarDeltaEncode (src prev : UInt8) :
    prev + planarDelta (planarDeltaEncode src prev) = src := by
  have hfold : ∀ n < 256, planarDelta (if (UInt8.ofNat n).toNat < 128 then UInt8.ofNat n <<< 1
      else (~~~UInt8.ofNat n + 1) <<< 1 - 1) = UInt8.ofNat n := by
    decide +kernel
  have hbyte := hfold (src - prev).toNat (src - prev).toNat_lt
  rw [UInt8.ofNat_toNat] at hbyte
  rw [planarDeltaEncode, hbyte, UInt8.add_comm, UInt8.sub_add_cancel]

lemma getElem_planarValues (above : Option (Nat → UInt8)) (x : Nat) (symbols : List UInt8) {i : Nat}
    (hi : i < (planarValues above x symbols).length) (hi' : i < symbols.length) :
    (planarValues above x symbols)[i] = planarValue above (x + i) symbols[i] := by
  induction symbols generalizing x i with
  | nil => exact absurd hi (Nat.not_lt_zero i)
  | cons symbol symbols ih =>
    cases i with
    | zero => rfl
    | succ i =>
      simp only [planarValues, List.getElem_cons_succ]
      rw [ih (x + 1) _ (by simpa using hi'), Nat.add_right_comm, Nat.add_assoc]

/-- A row of differences below its row. -/
lemma planarValues_zipWith {row prev : List UInt8} (hlength : row.length = prev.length) :
    planarValues (some fun x => prev.getD x 0) 0 (List.zipWith planarDeltaEncode row prev) =
      row := by
  refine List.ext_getElem (by simp [hlength]) fun i hi hi' => ?_
  rw [getElem_planarValues _ _ _ _ (by simpa using hi), List.getElem_zipWith]
  simp only [planarValue, Nat.zero_add]
  rw [List.getD_eq_getElem _ _ (hlength ▸ hi'), planarDelta_planarDeltaEncode]

/-- The rows of a plane. -/
def planarChunks (w : Nat) : Nat → List UInt8 → List (List UInt8)
  | 0, _ => []
  | h + 1, plane => plane.take w :: planarChunks w h (plane.drop w)

lemma length_of_mem_planarChunks {w h : Nat} {plane : List UInt8} (hplane : plane.length = w * h) :
    ∀ row ∈ planarChunks w h plane, row.length = w := by
  induction h generalizing plane with
  | zero => exact fun row hrow => absurd hrow List.not_mem_nil
  | succ h ih =>
    rw [Nat.mul_succ] at hplane
    refine List.forall_mem_cons.mpr ⟨List.length_take_of_le (by omega), ih ?_⟩
    rw [List.length_drop]
    omega

lemma length_planarChunks (w h : Nat) (plane : List UInt8) :
    (planarChunks w h plane).length = h := by
  induction h generalizing plane with
  | zero => rfl
  | succ h ih => rw [planarChunks, List.length_cons, ih]

/-- The pixels of a plane in its rows. -/
lemma planeAt_planarChunks {w h : Nat} {plane : List UInt8} {y x : Nat}
    (hy : y < h) (hx : x < w) :
    planeAt (planarChunks w h plane) y x = plane.getD (planarPlaneIndex w y x) 0 := by
  induction h generalizing plane y with
  | zero => exact absurd hy (Nat.not_lt_zero y)
  | succ h ih =>
    cases y with
    | zero =>
      rw [planarPlaneIndex, Nat.zero_mul, Nat.zero_add, planeAt, planarChunks, List.getD_cons_zero,
        List.getD_eq_getElem?_getD, List.getD_eq_getElem?_getD, List.getElem?_take_of_lt hx]
    | succ y =>
      have hrest := @ih (plane.drop w) y (by omega)
      rw [planeAt] at hrest ⊢
      rw [planarChunks, List.getD_cons_succ, hrest]
      simp only [planarPlaneIndex, List.getD_eq_getElem?_getD, List.getElem?_drop]
      rw [Nat.succ_mul, show w + (y * w + x) = y * w + w + x by omega]

/-- Rows of differences below a row. -/
lemma planeValues_zipWith {w h : Nat} {prev plane : List UInt8} (hprev : prev.length = w)
    (hplane : plane.length = w * h) :
    planeValues (some prev)
        (planarChunks w h (List.zipWith planarDeltaEncode plane (prev ++ plane))) =
      planarChunks w h plane := by
  induction h generalizing prev plane with
  | zero => rfl
  | succ h ih =>
    rw [Nat.mul_succ] at hplane
    have hwidth : (plane.take w).length = w := List.length_take_of_le (by omega)
    have hrow : (List.zipWith planarDeltaEncode plane (prev ++ plane)).take w =
        List.zipWith planarDeltaEncode (plane.take w) prev := by
      rw [List.take_zipWith, List.take_left' hprev]
    have hrest : (List.zipWith planarDeltaEncode plane (prev ++ plane)).drop w =
        List.zipWith planarDeltaEncode (plane.drop w) (plane.take w ++ plane.drop w) := by
      rw [List.drop_zipWith, List.drop_left' hprev, List.take_append_drop]
    rw [planarChunks, planeValues, hrow, hrest]
    dsimp only [Option.map]
    rw [planarValues_zipWith (hwidth.trans hprev.symm), ih hwidth (by rw [List.length_drop]; omega),
      planarChunks]

lemma planarValues_none (x : Nat) (symbols : List UInt8) : planarValues none x symbols = symbols := by
  induction symbols generalizing x with
  | nil => rfl
  | cons symbol symbols ih => rw [planarValues, ih]; rfl

/-- The differences of a plane stand for the plane. -/
lemma planeValues_planarDeltaEncodePlane {w h : Nat} {plane : List UInt8}
    (hplane : plane.length = w * h) :
    planeValues none (planarChunks w h (planarDeltaEncodePlane plane w)) =
      planarChunks w h plane := by
  cases h with
  | zero => rfl
  | succ h =>
    rw [Nat.mul_succ] at hplane
    have hwidth : (plane.take w).length = w := List.length_take_of_le (by omega)
    rw [planarChunks, planeValues, planarDeltaEncodePlane, List.take_left' hwidth,
      List.drop_left' hwidth, planarChunks]
    dsimp only [Option.map]
    have hrest := planeValues_zipWith hwidth
      (by rw [List.length_drop]; omega : (plane.drop w).length = w * h)
    rw [List.take_append_drop] at hrest
    rw [planarValues_none, hrest]

lemma length_planarDeltaEncodePlane (plane : List UInt8) (w : Nat) :
    (planarDeltaEncodePlane plane w).length = plane.length := by
  rw [planarDeltaEncodePlane, List.length_append, List.length_take, List.length_zipWith,
    List.length_drop]
  omega

/-! ### Rows of codes -/

/-- The codes of rows, in a buffer of some size: a row that does not fit is an error, but the rows
after a full buffer are left out. -/
def fillRows : List (List UInt8) → Nat → Option (List UInt8)
  | [], _ => some []
  | code :: codes, size =>
    if size = 0 then some []
    else if code.length ≤ size then (fillRows codes (size - code.length)).map (code ++ ·)
    else none

/-- The codes stand for the rows. -/
def RowCodes (rows codes : List (List UInt8)) : Prop :=
  List.Forall₂ (fun row code => Encodes 0 row code ∧ code ≠ []) rows codes

/-- The code of a row, in a buffer that is always large enough. -/
def planarRowCode (row : List UInt8) : List UInt8 := planarEncodeRleBytes row (2 * row.length)

/-- The code of a row does not depend on the size of the buffer. -/
lemma planarRowCode_spec {row : List UInt8} (hrow : row ≠ []) :
    Encodes 0 row (planarRowCode row) ∧ planarRowCode row ≠ [] ∧
      ∀ size, planarEncodeRleBytes row size =
        if (planarRowCode row).length ≤ size then planarRowCode row else [] := by
  obtain ⟨code, hcode, hne, hencode⟩ := planarEncodeRleBytes_spec hrow
  have hrowCode : planarRowCode row = code := by
    rw [planarRowCode, hencode, if_pos hcode.length_le]
  rw [hrowCode]
  exact ⟨hcode, hne, hencode⟩

/-- The codes of the rows of a plane. -/
def planarRowCodes (w h : Nat) (plane : List UInt8) : List (List UInt8) :=
  (planarChunks w h plane).map planarRowCode

/-- The bytes of a plane, in a buffer of any size. -/
lemma planarCompressRows_spec {w h : Nat} {plane : List UInt8} (hw : 0 < w)
    (hplane : plane.length = w * h) :
    RowCodes (planarChunks w h plane) (planarRowCodes w h plane) ∧
      ∀ size, planarCompressRows w h plane size = fillRows (planarRowCodes w h plane) size := by
  induction h generalizing plane with
  | zero => exact ⟨.nil, fun size => rfl⟩
  | succ h ih =>
    rw [Nat.mul_succ] at hplane
    have hwidth : (plane.take w).length = w := List.length_take_of_le (by omega)
    have hrow : plane.take w ≠ [] := List.ne_nil_of_length_pos (by omega)
    obtain ⟨hcode, hne, hencode⟩ := planarRowCode_spec hrow
    obtain ⟨hcodes, hcompress⟩ := ih (by rw [List.length_drop]; omega : (plane.drop w).length = w * h)
    refine ⟨.cons ⟨hcode, hne⟩ hcodes, fun size => ?_⟩
    rw [planarCompressRows, planarRowCodes, planarChunks, List.map_cons, fillRows]
    by_cases hzero : size = 0
    · rw [if_pos hzero, if_pos hzero]
    · rw [if_neg hzero, if_neg hzero]
      dsimp only
      rw [hencode]
      by_cases hle : (planarRowCode (plane.take w)).length ≤ size
      · rw [if_pos hle, if_neg (by simp only [hne, false_or, not_lt]; exact hle), if_pos hle,
          hcompress, planarRowCodes]
        rcases fillRows _ (size - (planarRowCode (plane.take w)).length) with _ | out <;> rfl
      · rw [if_neg hle, if_pos (.inl rfl), if_neg hle]

/-- A buffer that holds all codes takes all of them. -/
lemma RowCodes.fillRows_of_le {rows codes : List (List UInt8)} (h : RowCodes rows codes) {size : Nat}
    (hsize : codes.flatten.length ≤ size) : fillRows codes size = some codes.flatten := by
  induction h generalizing size with
  | nil => rfl
  | @cons row code rows codes hcode _ ih =>
    have hpos : 0 < code.length := List.length_pos_iff.mpr hcode.2
    rw [List.flatten_cons, List.length_append] at hsize
    rw [fillRows, if_neg (by omega), if_pos (by omega), ih (by omega), List.flatten_cons]
    rfl

/-- The decoders find the rows again. -/
lemma RowCodes.rowsOf {w : Nat} {rows codes : List (List UInt8)} (h : RowCodes rows codes)
    (hwidth : ∀ row ∈ rows, row.length = w) : RowsOf w rows.length codes.flatten rows [] := by
  induction h with
  | nil => exact .nil []
  | @cons row code rows codes hcode _ ih =>
    obtain ⟨hrow, hrows⟩ := List.forall_mem_cons.mp hwidth
    obtain ⟨segments, hsegments, hexpand⟩ := hcode.1.segmentsOf
    have hfirst := hsegments.append codes.flatten
    rw [hrow, List.nil_append] at hfirst
    rw [List.flatten_cons, ← hexpand]
    exact .cons hfirst (ih hrows)

/-- The bytes of a plane with its differences are rows that stand for it. -/
lemma planarCompressPlaneRle_spec {w h : Nat} {plane : List UInt8} (hw : 0 < w) (hh : 0 < h)
    (hplane : plane.length = w * h) :
    ∃ rows, RowCodes rows (planarRowCodes w h (planarDeltaEncodePlane plane w)) ∧
      RowsOf w h (planarRowCodes w h (planarDeltaEncodePlane plane w)).flatten rows [] ∧
      planeValues none rows = planarChunks w h plane ∧
      ∀ size, planarCompressPlaneRle (planarDeltaEncodePlane plane w) w h size =
        fillRows (planarRowCodes w h (planarDeltaEncodePlane plane w)) size := by
  have hdelta : (planarDeltaEncodePlane plane w).length = w * h := by
    rw [length_planarDeltaEncodePlane, hplane]
  obtain ⟨hcodes, hcompress⟩ := planarCompressRows_spec hw hdelta
  have hrows := hcodes.rowsOf (length_of_mem_planarChunks hdelta)
  rw [length_planarChunks] at hrows
  refine ⟨_, hcodes, hrows, planeValues_planarDeltaEncodePlane hplane, fun size => ?_⟩
  rw [planarCompressPlaneRle, Nat.max_eq_left hh, hcompress]

/-- A plane round-trips: its differences, run-length encoded into any buffer that is large enough,
are decoded to the plane by both decoders, from exactly the bytes that were written. The plane and
its code are small enough to be counted by a signed number, and the destination holds them. -/
theorem planarPlane_roundTrips {w h : Nat} {plane : List UInt8} (hw : 0 < w) (hh : 0 < h)
    (hplane : plane.length = w * h) (hmax : w * h ≤ INT32_MAX) :
    ∃ bytes, (∀ size, bytes.length ≤ size →
        planarCompressPlaneRle (planarDeltaEncodePlane plane w) w h size = some bytes) ∧
      (bytes.length ≤ INT32_MAX → ∀ dst : Nat → UInt8,
        PlanarDecodes (planarDecompressPlaneRleOnly bytes bytes.length dst w h) bytes.length dst
          (planarPlaneIndex w) w h (fun y x => plane.getD (planarPlaneIndex w y x) 0) ∧
        ∀ {nDstStep nXDst nYDst nChannel : Nat},
          PlanarFits nDstStep nXDst nYDst w h nChannel → ∀ vFlip,
          PlanarDecodes (planarDecompressPlaneRle bytes bytes.length dst nDstStep nXDst nYDst w h
            nChannel vFlip) bytes.length dst
            (fun y => planarIndex nDstStep nXDst nYDst nChannel (planarFlip vFlip h y)) w h
            (fun y x => plane.getD (planarPlaneIndex w y x) 0)) := by
  obtain ⟨rows, hcodes, hrows, hvalues, hcompress⟩ := planarCompressPlaneRle_spec hw hh hplane
  have hw' : w ≤ INT32_MAX := (Nat.le_mul_of_pos_right w hh).trans hmax
  have hh' : h ≤ INT32_MAX := (Nat.le_mul_of_pos_left h hw).trans hmax
  refine ⟨(planarRowCodes w h (planarDeltaEncodePlane plane w)).flatten, fun size hsize => ?_,
    fun hbytes dst => ⟨?_, fun hfits vFlip => ?_⟩⟩
  · rw [hcompress, hcodes.fillRows_of_le hsize]
  · obtain ⟨dst', hdecode, hread, hframe⟩ := hrows.decodesOnly hw' hh' hmax hbytes dst
    refine ⟨dst', hdecode, fun y hy x hx => ?_, hframe⟩
    rw [hread y hy x hx, hvalues, planeAt_planarChunks hy hx]
  · obtain ⟨dst', hdecode, hread, hframe⟩ := hrows.decodes hh' (Nat.add_zero _).symm hbytes hfits
      vFlip dst
    refine ⟨dst', hdecode, fun y hy x hx => ?_, hframe⟩
    rw [hread y hy x hx, hvalues, planeAt_planarChunks hy hx]

/-- A plane of two rows. -/
theorem planarPlane_roundTrips_small :
    ∃ bytes, (∀ size, bytes.length ≤ size →
        planarCompressPlaneRle (planarDeltaEncodePlane [7, 7, 9, 255] 2) 2 2 size = some bytes) ∧
      (bytes.length ≤ INT32_MAX → ∀ dst : Nat → UInt8,
        PlanarDecodes (planarDecompressPlaneRleOnly bytes bytes.length dst 2 2) bytes.length dst
          (planarPlaneIndex 2) 2 2 (fun y x => [7, 7, 9, 255].getD (planarPlaneIndex 2 y x) 0) ∧
        ∀ {nDstStep nXDst nYDst nChannel : Nat},
          PlanarFits nDstStep nXDst nYDst 2 2 nChannel → ∀ vFlip,
          PlanarDecodes (planarDecompressPlaneRle bytes bytes.length dst nDstStep nXDst nYDst 2 2
            nChannel vFlip) bytes.length dst
            (fun y => planarIndex nDstStep nXDst nYDst nChannel (planarFlip vFlip 2 y)) 2 2
            (fun y x => [7, 7, 9, 255].getD (planarPlaneIndex 2 y x) 0)) :=
  planarPlane_roundTrips (by norm_num) (by norm_num) rfl (by norm_num [INT32_MAX])

/-- The decoders refuse a row that is longer than a signed number can count. -/
theorem planarPlane_not_roundTrips :
    ¬∀ (w h : Nat) (plane : List UInt8) (dst : Nat → UInt8), 0 < w → 0 < h → w < 2 ^ 32 →
      h < 2 ^ 32 → plane.length = w * h →
      ∃ bytes, (∀ size, bytes.length ≤ size →
          planarCompressPlaneRle (planarDeltaEncodePlane plane w) w h size = some bytes) ∧
        PlanarDecodes (planarDecompressPlaneRleOnly bytes bytes.length dst w h) bytes.length dst
          (planarPlaneIndex w) w h (fun y x => plane.getD (planarPlaneIndex w y x) 0) := by
  intro hclaim
  obtain ⟨w, hw⟩ : ∃ w, w = 2 ^ 31 := ⟨_, rfl⟩
  obtain ⟨bytes, -, dst, hdecode, -⟩ := hclaim w 1 (List.replicate w 0) (fun _ => 0)
    (by rw [hw]; norm_num) Nat.one_pos (by rw [hw]; norm_num) (by norm_num)
    (by rw [List.length_replicate, Nat.mul_one])
  rw [planarDecompressPlaneRleOnly_large (.inr (by rw [hw, INT32_MAX]; norm_num))] at hdecode
  cases hdecode

end FreeRdp
