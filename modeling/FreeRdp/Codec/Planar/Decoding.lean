import FreeRdp.Codec.Planar.Segments

/-!
# Decoding planes

Rows of symbols are decoded by both decoders: each of them writes the rows of pixels with its own
distance of pixels and rows. What `planar_skip_plane_rle` accepts is such rows.
-/

namespace FreeRdp

/-- What a row finds in the memory above it: nothing for the first row, else the pixels of the row
before, in cells that the row itself does not write. -/
inductive LineAbove (w : Nat) :
    PlanarScanline → (Nat → UInt8) → Option (Nat → UInt8) → Prop
  | first {step currentScanline : Nat} {dst : Nat → UInt8} :
    LineAbove w ⟨step, currentScanline, none⟩ dst none
  | below {step currentScanline previousScanline : Nat} {dst above : Nat → UInt8}
    (hread : ∀ x < w, dst (previousScanline + step * x) = above x)
    (hapart : StridesApart step w currentScanline previousScanline)
    (hindex : ∀ x < w, step * x ≤ INT32_MAX) :
    LineAbove w ⟨step, currentScanline, some previousScanline⟩ dst (some above)

/-- The memory with pixels from `x` on in a row. -/
def PlanarScanline.write (line : PlanarScanline) (dst : Nat → UInt8) (x : Nat)
    (values : List UInt8) : Nat → UInt8 :=
  writeStrided dst (line.currentScanline + line.step * x) line.step values

lemma PlanarScanline.write_append (line : PlanarScanline) (dst : Nat → UInt8) (x : Nat)
    (xs ys : List UInt8) :
    line.write dst x (xs ++ ys) = line.write (line.write dst x xs) (x + xs.length) ys := by
  rw [write, write, write, writeStrided_append, Nat.mul_add, Nat.add_assoc]

lemma PlanarScanline.write_values_cons (line : PlanarScanline) (above : Option (Nat → UInt8))
    (dst : Nat → UInt8) (x : Nat) (symbol : UInt8) (symbols : List UInt8) :
    line.write dst x (planarValues above x (symbol :: symbols)) =
      line.write (line.write dst x (planarValues above x [symbol])) (x + 1)
        (planarValues above (x + 1) symbols) := by
  rw [← List.singleton_append, planarValues_append, write_append, length_planarValues,
    List.length_singleton]

section Rows

variable {w : Nat} {line : PlanarScanline} {above : Option (Nat → UInt8)} {src srcp : List UInt8}
  {used x : Nat} {dst : Nat → UInt8}

/-- Writing into the row leaves the row above. -/
lemma LineAbove.write (h : LineAbove w line dst above) {values : List UInt8}
    (hx : x + values.length ≤ w) : LineAbove w line (line.write dst x values) above := by
  cases h with
  | first => exact .first
  | below hread hapart hindex =>
    refine .below (fun i hi => ?_) hapart hindex
    rw [PlanarScanline.write, writeStrided_of_not_inStride, hread i hi]
    rintro ⟨k, hk, heq⟩
    refine hapart _ ⟨x + k, by omega, ?_⟩ ⟨i, hi, rfl⟩
    rw [heq, Nat.mul_add, Nat.add_assoc]

/-- One pixel. -/
lemma LineAbove.planarPut (h : LineAbove w line dst above) (hx : x < w) (symbol : UInt8) :
    planarPut line ⟨srcp, used, dst, x, line.pixel symbol⟩ =
      .ok ⟨srcp, used, line.write dst x (planarValues above x [symbol]), x + 1,
        line.pixel symbol⟩ := by
  cases h with
  | first => rfl
  | below hread hapart hindex =>
    rw [FreeRdp.planarPut]
    dsimp only
    rw [if_neg (not_lt.mpr (hindex x hx)), hread x hx]
    rfl

/-- A run. -/
lemma LineAbove.planarRunLength (h : LineAbove w line dst above) {n : Nat} (hx : x + n ≤ w)
    (symbol : UInt8) :
    planarRunLength line n ⟨srcp, used, dst, x, line.pixel symbol⟩ =
      .ok ⟨srcp, used, line.write dst x (planarValues above x (List.replicate n symbol)), x + n,
        line.pixel symbol⟩ := by
  induction n generalizing dst x with
  | zero => rfl
  | succ n ih =>
    have hnext : LineAbove w line (line.write dst x (planarValues above x [symbol])) above :=
      h.write (by rw [length_planarValues, List.length_singleton]; omega)
    rw [FreeRdp.planarRunLength, h.planarPut (by omega) symbol]
    dsimp only
    rw [ih hnext (by omega), List.replicate_succ,
      line.write_values_cons above dst x symbol (List.replicate n symbol),
      show x + 1 + n = x + (n + 1) by omega]

/-- The raw bytes, after a row that ends with the symbol `p`. -/
lemma LineAbove.planarRawBytes (h : LineAbove w line dst above) {raw : List UInt8}
    (hx : x + raw.length ≤ w) (p : UInt8) :
    planarRawBytes line raw.length ⟨raw ++ src, used, dst, x, line.pixel p⟩ =
      .ok ⟨src, used + raw.length, line.write dst x (planarValues above x raw), x + raw.length,
        line.pixel (raw.getLastD p)⟩ := by
  induction raw generalizing dst x used p with
  | nil => rfl
  | cons symbol raw ih =>
    rw [List.length_cons] at hx
    have hnext : LineAbove w line (line.write dst x (planarValues above x [symbol])) above :=
      h.write (by rw [length_planarValues, List.length_singleton]; omega)
    rw [List.length_cons, FreeRdp.planarRawBytes, List.cons_append]
    dsimp only
    rw [h.planarPut (by omega) symbol]
    dsimp only
    rw [ih hnext (by omega), List.getLastD_cons, line.write_values_cons above dst x symbol raw,
      show x + 1 + raw.length = x + (raw.length + 1) by omega,
      show used + 1 + raw.length = used + (raw.length + 1) by omega]

/-- A row of segments. -/
lemma SegmentsOf.planarSegments {v srcSize limit fuel : Nat} {segments : List PlanarSegment}
    {rest : List UInt8} (hsegments : SegmentsOf v src segments rest)
    (h : LineAbove w line dst above) (hv : x + v = w) (hstep : 0 < line.step)
    (hlimit : line.step * w ≤ limit) (hsize : used + src.length ≤ srcSize + rest.length)
    (hfuel : src.length < fuel) (p : UInt8) :
    ∃ pixel, planarSegments srcSize w limit line fuel ⟨src, used, dst, x, line.pixel p⟩ =
      .ok ⟨rest, used + (src.length - rest.length),
        line.write dst x (planarValues above x (expandSegments p segments)), w, pixel⟩ := by
  induction hsegments generalizing dst x used p fuel with
  | done src =>
    obtain ⟨fuel, rfl⟩ := Nat.exists_eq_add_of_le' (Nat.one_le_of_lt hfuel)
    refine ⟨line.pixel p, ?_⟩
    rw [FreeRdp.planarSegments, if_neg (by dsimp only; omega), Nat.sub_self]
    rw [Nat.add_zero] at hv
    rw [hv]
    rfl
  | @segment v controlByte s segments src rest hpos hcontrol hwidth hrest ih =>
    obtain ⟨fuel, rfl⟩ := Nat.exists_eq_add_of_le' (Nat.one_le_of_lt hfuel)
    obtain ⟨bytes, hbytes, -⟩ := hrest.exists_append
    have hlength := congrArg List.length hbytes
    rw [List.length_append] at hlength
    rw [PlanarSegment.width] at hwidth ih
    simp only [List.cons_append, List.length_cons, List.length_append] at hfuel hsize
    -- the check of the decoders counts pixels of the segment as bytes
    have hroom : line.step * x + (s.raw.length + s.run) ≤ limit := by
      have hmul : s.raw.length + s.run ≤ line.step * (s.raw.length + s.run) :=
        Nat.le_mul_of_pos_left _ hstep
      have hle : line.step * (x + (s.raw.length + s.run)) ≤ line.step * w :=
        Nat.mul_le_mul_left _ (by omega)
      rw [Nat.mul_add] at hle
      omega
    have hraw : LineAbove w line (line.write dst x (planarValues above x s.raw)) above :=
      h.write (by rw [length_planarValues]; omega)
    have hrun : LineAbove w line (line.write (line.write dst x (planarValues above x s.raw))
        (x + s.raw.length) (planarValues above (x + s.raw.length)
          (List.replicate s.run (s.last p)))) above :=
      hraw.write (by rw [length_planarValues, List.length_replicate]; omega)
    rw [List.cons_append, FreeRdp.planarSegments, if_pos (by dsimp only; omega)]
    dsimp only
    rw [if_neg (by omega), hcontrol]
    dsimp only
    rw [if_neg (not_lt.mpr hroom), h.planarRawBytes (by omega)]
    dsimp only
    rw [show s.raw.getLastD p = s.last p from rfl, hraw.planarRunLength (by omega)]
    dsimp only
    obtain ⟨pixel, hpixel⟩ := ih hrun (show x + s.raw.length + s.run + _ = w by omega)
      (show used + 1 + s.raw.length + _ ≤ _ by omega) (show src.length < fuel by omega) (s.last p)
    refine ⟨pixel, ?_⟩
    rw [hpixel, expandSegments, List.append_assoc, planarValues_append,
      PlanarScanline.write_append, planarValues_append, PlanarScanline.write_append,
      length_planarValues, length_planarValues, List.length_replicate]
    congr 2
    simp only [List.length_cons, List.length_append]
    omega

end Rows

/-! ### Planes -/

/-- Rows with their addresses. -/
def planarPlaced (address : Nat → Nat) (ys : List Nat) (values : List (List UInt8)) :
    List (Nat × List UInt8) :=
  (ys.map address).zip values

lemma planarPlaced_cons (address : Nat → Nat) (y : Nat) (ys : List Nat) (row : List UInt8)
    (values : List (List UInt8)) : planarPlaced address (y :: ys) (row :: values) =
      (address y, row) :: planarPlaced address ys values := rfl

/-- A plane of rows, from a row on. -/
lemma RowsOf.planarScanlines {w h srcSize limit step used x : Nat} {src rest : List UInt8}
    {rows : List (List UInt8)} {dst : Nat → UInt8} {pixel : UInt8} {start : Nat → Option Nat}
    {address : Nat → Nat} {ys : List Nat} {previousScanline : Option Nat}
    {above : Option (List UInt8)} (hrows : RowsOf w h src rows rest)
    (hstart : ∀ y ∈ ys, start y = some (address y))
    (hapart : ys.Pairwise fun y y' => StridesApart step w (address y) (address y'))
    (hindex : ∀ x < w, step * x ≤ INT32_MAX) (hys : ys.length = h)
    (habove : ∀ y ∈ ys, LineAbove w ⟨step, address y, previousScanline⟩ dst
      (above.map fun row x => row.getD x 0))
    (hstep : 0 < step) (hlimit : step * w ≤ limit)
    (hsize : used + src.length ≤ srcSize + rest.length) :
    ∃ x' pixel', planarScanlines srcSize w limit step start previousScanline ys
        ⟨src, used, dst, x, pixel⟩ =
      .ok ⟨rest, used + (src.length - rest.length),
        writeRows dst step (planarPlaced address ys (planeValues above rows)), x', pixel'⟩ := by
  induction hrows generalizing ys used x dst pixel previousScanline above with
  | nil src =>
    obtain rfl := List.eq_nil_of_length_eq_zero hys
    exact ⟨x, pixel, by rw [FreeRdp.planarScanlines, Nat.sub_self]; rfl⟩
  | @cons h src mid rest segments rows hrow hrows ih =>
    obtain ⟨y, ys, rfl⟩ := List.exists_cons_of_length_eq_add_one hys
    obtain ⟨hstarty, hstarts⟩ := List.forall_mem_cons.mp hstart
    obtain ⟨haparty, haparts⟩ := List.pairwise_cons.mp hapart
    obtain ⟨hline, -⟩ := List.forall_mem_cons.mp habove
    obtain ⟨bytes, hbytes, -⟩ := hrow.exists_append
    obtain ⟨bytes', hbytes', -⟩ := hrows.exists_append
    have hlength := congrArg List.length hbytes
    have hlength' := congrArg List.length hbytes'
    rw [List.length_append] at hlength hlength'
    obtain ⟨pixel₁, hpixel₁⟩ := hrow.planarSegments hline (Nat.zero_add w) hstep hlimit
      (show used + src.length ≤ srcSize + mid.length by omega) (Nat.lt_succ_self src.length) 0
    -- the pixels of this row, which the next one finds above it
    obtain ⟨values, hvalues⟩ : ∃ values, planarValues (above.map fun row x => row.getD x 0) 0
        (expandSegments 0 segments) = values := ⟨_, rfl⟩
    have hwidth : values.length = w := by
      rw [← hvalues, length_planarValues, hrow.length_expand]
    have hzero : PlanarScanline.pixel ⟨step, address y, previousScanline⟩ 0 = 0 := by
      cases previousScanline <;> rfl
    rw [hzero, hvalues, PlanarScanline.write, Nat.mul_zero, Nat.add_zero] at hpixel₁
    dsimp only at hpixel₁
    have hbelow : ∀ y' ∈ ys, LineAbove w ⟨step, address y', some (address y)⟩
        (writeStrided dst (address y) step values)
        ((some values).map fun row x => row.getD x 0) := by
      intro y' hy'
      refine .below (fun x hx => ?_) (haparty y' hy').symm hindex
      rw [writeStrided_add hstep (hwidth.symm ▸ hx)]
      exact (List.getD_eq_getElem _ _ _).symm
    obtain ⟨x', pixel', hrest⟩ := ih hstarts haparts (by simpa using hys) hbelow
      (show used + (src.length - mid.length) + mid.length ≤ srcSize + rest.length by omega)
    refine ⟨x', pixel', ?_⟩
    rw [FreeRdp.planarScanlines, hstarty]
    dsimp only
    rw [hpixel₁]
    dsimp only
    rw [hrest, planeValues, hvalues, planarPlaced_cons, writeRows,
      show used + (src.length - mid.length) + (mid.length - rest.length) =
        used + (src.length - rest.length) by omega]

/-- Rows at a distance that holds them lie apart. -/
lemma stridesApart_of_le {step w distance a y y' : Nat} (hdistance : step * w ≤ distance)
    (hstep : 0 < step) (hne : y ≠ y') :
    StridesApart step w (a + distance * y) (a + distance * y') := by
  have hlt : ∀ {y y' k k' : Nat}, y < y' → k < w →
      a + distance * y + step * k ≠ a + distance * y' + step * k' := by
    intro y y' k k' hy hk heq
    have hrow : distance * (y + 1) ≤ distance * y' := Nat.mul_le_mul_left _ hy
    have hcell : step * (k + 1) ≤ step * w := Nat.mul_le_mul_left _ hk
    rw [Nat.mul_add, Nat.mul_one] at hrow hcell
    omega
  rintro i ⟨k, hk, rfl⟩ ⟨k', hk', heq⟩
  rcases Nat.lt_or_gt_of_ne hne with hy | hy
  · exact hlt hy hk heq
  · exact hlt hy hk' heq.symm

lemma planarRows_length (h : Nat) (vFlip : Bool) : (planarRows h vFlip).length = h := by
  cases vFlip <;> simp [planarRows]

lemma planarRows_pairwise_ne (h : Nat) (vFlip : Bool) : (planarRows h vFlip).Pairwise (· ≠ ·) := by
  cases vFlip
  · exact List.nodup_range
  · exact List.nodup_reverse.mpr List.nodup_range

lemma mem_planarRows {h y : Nat} {vFlip : Bool} : y ∈ planarRows h vFlip ↔ y < h := by
  cases vFlip <;> simp [planarRows]

/-- The destination of `planar_decompress_plane_rle` holds the rectangle, and its indices do not
wrap. -/
structure PlanarFits (nDstStep nXDst nYDst nWidth nHeight nChannel : Nat) : Prop where
  channel : nChannel < 4
  row : (nXDst + nWidth) * 4 ≤ nDstStep
  step : nDstStep ≤ INT32_MAX
  rows : (nYDst + nHeight) * nDstStep ≤ 2 ^ 32

/-- The index of a pixel. -/
def planarIndex (nDstStep nXDst nYDst nChannel y x : Nat) : Nat :=
  (nYDst + y) * nDstStep + (nXDst + x) * 4 + nChannel

lemma PlanarFits.planarRleStart {nDstStep nXDst nYDst nWidth nHeight nChannel y : Nat}
    (h : PlanarFits nDstStep nXDst nYDst nWidth nHeight nChannel) (hy : y < nHeight)
    (hw : 0 < nWidth) :
    planarRleStart nDstStep nXDst nYDst nChannel y =
      nYDst * nDstStep + nXDst * 4 + nChannel + nDstStep * y := by
  have hlast : (nYDst + y + 1) * nDstStep ≤ (nYDst + nHeight) * nDstStep :=
    Nat.mul_le_mul_right _ (by omega)
  have hrow := h.row
  have hrows := h.rows
  have hchannel := h.channel
  rw [Nat.add_mul, Nat.one_mul] at hlast
  rw [FreeRdp.planarRleStart, Nat.mod_eq_of_lt (by omega), Nat.add_mul, Nat.mul_comm y]
  omega

lemma PlanarFits.planarRleStart_add {nDstStep nXDst nYDst nWidth nHeight nChannel y x : Nat}
    (h : PlanarFits nDstStep nXDst nYDst nWidth nHeight nChannel) (hy : y < nHeight)
    (hx : x < nWidth) :
    FreeRdp.planarRleStart nDstStep nXDst nYDst nChannel y + 4 * x =
      planarIndex nDstStep nXDst nYDst nChannel y x := by
  rw [h.planarRleStart hy (by omega), planarIndex, Nat.add_mul, Nat.add_mul, Nat.mul_comm nDstStep]
  omega

section Decoders

variable {w h : Nat} {src : List UInt8} {rows : List (List UInt8)}

/-- `planar_decompress_plane_rle_only` decodes rows. -/
lemma RowsOf.planarDecompressPlaneRleOnly (hrows : RowsOf w h src rows []) (hw : w ≤ INT32_MAX)
    (hh : h ≤ INT32_MAX) (hplane : w * h ≤ INT32_MAX) (hsrc : src.length ≤ INT32_MAX)
    (dst : Nat → UInt8) :
    planarDecompressPlaneRleOnly src src.length dst w h = .ok (src.length,
      writeRows dst 1 (planarPlaced (fun y => 0 + w * y) (List.range h)
        (planeValues none rows))) := by
  have hstart : ∀ y ∈ List.range h, planarRleOnlyStart w y = some (0 + w * y) := by
    intro y hy
    have hle : w * y ≤ w * h := Nat.mul_le_mul_left _ (List.mem_range.mp hy).le
    rw [planarRleOnlyStart, Nat.mul_comm, if_neg (by omega), Nat.zero_add]
  have hapart : (List.range h).Pairwise fun y y' =>
      StridesApart 1 w (0 + w * y) (0 + w * y') :=
    List.nodup_range.imp fun hne => stridesApart_of_le (by omega) Nat.one_pos hne
  have hscan : ∃ x pixel, FreeRdp.planarScanlines src.length w w 1 (planarRleOnlyStart w) none
      (List.range h) ⟨src, 0, dst, 0, 0⟩ = .ok ⟨[], 0 + (src.length - 0), writeRows dst 1
        (planarPlaced (fun y => 0 + w * y) (List.range h) (planeValues none rows)), x, pixel⟩ :=
    hrows.planarScanlines hstart hapart (fun x hx => by omega) List.length_range
      (fun y _ => .first) Nat.one_pos (by omega) (by rw [List.length_nil]; omega)
  obtain ⟨x, pixel, hscan⟩ := hscan
  rw [FreeRdp.planarDecompressPlaneRleOnly, if_neg (by omega), hscan, planarResult, Nat.zero_add,
    Nat.sub_zero, intOfSize_of_le (by exact hsrc)]

/-- The rows of `planar_decompress_plane_rle` lie apart. -/
lemma PlanarFits.apart {nDstStep nXDst nYDst nChannel : Nat}
    (hfits : PlanarFits nDstStep nXDst nYDst w h nChannel) (vFlip : Bool) :
    (planarRows h vFlip).Pairwise fun y y' =>
      StridesApart 4 w (FreeRdp.planarRleStart nDstStep nXDst nYDst nChannel y)
        (FreeRdp.planarRleStart nDstStep nXDst nYDst nChannel y') := by
  have hrow := hfits.row
  refine (planarRows_pairwise_ne h vFlip).imp_of_mem fun hy hy' hne => ?_
  rintro i ⟨k, hk, rfl⟩
  have hw : 0 < w := by omega
  rw [hfits.planarRleStart (mem_planarRows.mp hy) hw, hfits.planarRleStart (mem_planarRows.mp hy') hw]
  exact stridesApart_of_le (by omega) (by omega) hne _ ⟨k, hk, rfl⟩

/-- `planar_decompress_plane_rle` decodes rows. The memory may go on behind the source. -/
lemma RowsOf.planarDecompressPlaneRle {rest : List UInt8} (hrows : RowsOf w h src rows rest)
    (hh : h ≤ INT32_MAX) {used : Nat} (hused : src.length = used + rest.length)
    (hmax : used ≤ INT32_MAX) {nDstStep nXDst nYDst nChannel : Nat}
    (hfits : PlanarFits nDstStep nXDst nYDst w h nChannel) (vFlip : Bool) (dst : Nat → UInt8) :
    planarDecompressPlaneRle src used dst nDstStep nXDst nYDst w h nChannel vFlip =
      .ok (used, writeRows dst 4
        (planarPlaced (planarRleStart nDstStep nXDst nYDst nChannel) (planarRows h vFlip)
          (planeValues none rows))) := by
  have hrow := hfits.row
  have hstep := hfits.step
  rw [INT32_MAX] at hstep
  have hscan : ∃ x pixel, FreeRdp.planarScanlines used w (w * 4 % 2 ^ 32) 4
      (fun y => some (planarRleStart nDstStep nXDst nYDst nChannel y)) none
      (planarRows h vFlip) ⟨src, 0, dst, 0, 0⟩ = .ok ⟨rest, 0 + (src.length - rest.length),
        writeRows dst 4 (planarPlaced (planarRleStart nDstStep nXDst nYDst nChannel)
          (planarRows h vFlip) (planeValues none rows)), x, pixel⟩ :=
    hrows.planarScanlines (fun y _ => rfl) (hfits.apart vFlip)
      (fun x hx => by rw [INT32_MAX]; omega) (planarRows_length h vFlip) (fun y _ => .first)
      (by omega) (by omega) (by omega)
  obtain ⟨x, pixel, hscan⟩ := hscan
  rw [FreeRdp.planarDecompressPlaneRle, if_neg (by rw [INT32_MAX] at *; omega), hscan, planarResult]
  dsimp only
  rw [Nat.zero_add, hused, Nat.add_sub_cancel, intOfSize_of_le (by exact hmax)]

end Decoders

/-! ### What is decoded -/

/-- A decoder took `used` bytes and wrote the plane to the cells `index y x`, and no others. -/
def PlanarDecodes (outcome : Except PlanarError (Int × (Nat → UInt8))) (used : Nat)
    (dst : Nat → UInt8) (index : Nat → Nat → Nat) (w h : Nat) (plane : Nat → Nat → UInt8) : Prop :=
  ∃ dst', outcome = .ok (used, dst') ∧ (∀ y < h, ∀ x < w, dst' (index y x) = plane y x) ∧
    ∀ i, (∀ y < h, ∀ x < w, i ≠ index y x) → dst' i = dst i

/-- Placed rows are read back, and nothing else is changed. -/
lemma writeRows_planarPlaced {w step : Nat} {address : Nat → Nat} {ys : List Nat}
    {values : List (List UInt8)} (dst : Nat → UInt8) (hstep : 0 < step)
    (hapart : ys.Pairwise fun y y' => StridesApart step w (address y) (address y'))
    (hlength : values.length = ys.length) (hwidth : ∀ row ∈ values, row.length = w) :
    (∀ k y, ys[k]? = some y → ∀ x < w,
      writeRows dst step (planarPlaced address ys values) (address y + step * x) =
        (values.getD k []).getD x 0) ∧
      ∀ i, (∀ y ∈ ys, ∀ x < w, i ≠ address y + step * x) →
        writeRows dst step (planarPlaced address ys values) i = dst i := by
  have hrows : ∀ row ∈ planarPlaced address ys values, row.2.length = w := fun row hrow =>
    hwidth _ (List.of_mem_zip hrow).2
  have hpairs : (planarPlaced address ys values).Pairwise fun r r' =>
      StridesApart step w r.1 r'.1 := by
    have hmap : (planarPlaced address ys values).map Prod.fst = ys.map address :=
      List.map_fst_zip (by simp [hlength])
    rw [← List.pairwise_map (f := Prod.fst) (R := StridesApart step w), hmap, List.pairwise_map]
    exact hapart
  constructor
  · intro k y hk x hx
    obtain ⟨hlt, rfl⟩ := List.getElem?_eq_some_iff.mp hk
    have hlt' : k < values.length := hlength.symm ▸ hlt
    have hrow : (values[k]).length = w := hwidth _ (List.getElem_mem hlt')
    have hmem : (address ys[k], values[k]) ∈ planarPlaced address ys values := by
      refine List.mem_iff_getElem.mpr ⟨k, by simp [planarPlaced, hlt, hlt'], ?_⟩
      simp [planarPlaced]
    rw [List.getD_eq_getElem _ _ hlt', List.getD_eq_getElem _ _ (by omega)]
    exact writeRows_of_mem hstep hrows hpairs hmem (hrow.symm ▸ hx)
  · intro i hi
    refine writeRows_of_forall_not_inStride fun row hrow => ?_
    rintro ⟨x, hx, heq⟩
    obtain ⟨y, hy, haddress⟩ := List.mem_map.mp (List.of_mem_zip hrow).1
    refine hi y hy x (hrows row hrow ▸ hx) ?_
    rw [haddress, heq]

/-- The row of the destination for a row of the plane. -/
def planarFlip (vFlip : Bool) (h y : Nat) : Nat := if vFlip then h - 1 - y else y

lemma planarFlip_lt {vFlip : Bool} {h y : Nat} (hy : y < h) : planarFlip vFlip h y < h := by
  cases vFlip
  · exact hy
  · simp only [planarFlip, if_true]
    omega

/-- Flipping twice is no flip. -/
lemma planarFlip_planarFlip {vFlip : Bool} {h y : Nat} (hy : y < h) :
    planarFlip vFlip h (planarFlip vFlip h y) = y := by
  cases vFlip
  · rfl
  · simp only [planarFlip, if_true]
    omega

lemma planarRows_getElem? {h : Nat} (vFlip : Bool) {y : Nat} (hy : y < h) :
    (planarRows h vFlip)[y]? = some (planarFlip vFlip h y) := by
  cases vFlip
  · refine List.getElem?_eq_some_iff.mpr ⟨by simpa [planarRows] using hy, ?_⟩
    simp [planarRows, planarFlip]
  · refine List.getElem?_eq_some_iff.mpr ⟨by simpa [planarRows] using hy, ?_⟩
    simp [planarRows, planarFlip]

/-- The index of a pixel in a plane without gaps. -/
def planarPlaneIndex (w y x : Nat) : Nat := y * w + x

/-- The values of a plane of rows. -/
def planeAt (values : List (List UInt8)) (y x : Nat) : UInt8 := (values.getD y []).getD x 0

section Values

variable {w h : Nat} {src : List UInt8} {rows : List (List UInt8)}

/-- What `planar_decompress_plane_rle_only` makes of rows. -/
lemma RowsOf.decodesOnly (hrows : RowsOf w h src rows []) (hw : w ≤ INT32_MAX)
    (hh : h ≤ INT32_MAX) (hplane : w * h ≤ INT32_MAX) (hsrc : src.length ≤ INT32_MAX)
    (dst : Nat → UInt8) :
    PlanarDecodes (FreeRdp.planarDecompressPlaneRleOnly src src.length dst w h) src.length dst
      (planarPlaneIndex w) w h (planeAt (planeValues none rows)) := by
  have hlength : (planeValues none rows).length = (List.range h).length := by
    rw [length_planeValues, hrows.length_rows, List.length_range]
  have hapart : (List.range h).Pairwise fun y y' => StridesApart 1 w (0 + w * y) (0 + w * y') :=
    List.nodup_range.imp fun hne => stridesApart_of_le (by omega) Nat.one_pos hne
  obtain ⟨hread, hframe⟩ := writeRows_planarPlaced dst Nat.one_pos hapart hlength
    (length_of_mem_planeValues hrows.length_row)
  have hindex : ∀ y x, 0 + w * y + 1 * x = planarPlaneIndex w y x := by
    intro y x
    rw [planarPlaneIndex, Nat.mul_comm y]
    omega
  refine ⟨_, hrows.planarDecompressPlaneRleOnly hw hh hplane hsrc dst, fun y hy x hx => ?_,
    fun i hi => hframe i fun y hy x hx => ?_⟩
  · rw [← hindex]
    exact hread y y (List.getElem?_range hy) x hx
  · rw [hindex]
    exact hi y (List.mem_range.mp hy) x hx

/-- What `planar_decompress_plane_rle` makes of rows. -/
lemma RowsOf.decodes {rest : List UInt8} (hrows : RowsOf w h src rows rest) (hh : h ≤ INT32_MAX)
    {used : Nat} (hused : src.length = used + rest.length) (hmax : used ≤ INT32_MAX)
    {nDstStep nXDst nYDst nChannel : Nat}
    (hfits : PlanarFits nDstStep nXDst nYDst w h nChannel) (vFlip : Bool) (dst : Nat → UInt8) :
    PlanarDecodes
      (FreeRdp.planarDecompressPlaneRle src used dst nDstStep nXDst nYDst w h nChannel vFlip)
      used dst (fun y => planarIndex nDstStep nXDst nYDst nChannel (planarFlip vFlip h y)) w h
      (planeAt (planeValues none rows)) := by
  have hlength : (planeValues none rows).length = (planarRows h vFlip).length := by
    rw [length_planeValues, hrows.length_rows, planarRows_length]
  obtain ⟨hread, hframe⟩ := writeRows_planarPlaced dst (by omega) (hfits.apart vFlip) hlength
    (length_of_mem_planeValues hrows.length_row)
  refine ⟨_, hrows.planarDecompressPlaneRle hh hused hmax hfits vFlip dst, fun y hy x hx => ?_,
    fun i hi => hframe i fun y hy x hx => ?_⟩
  · have hrow := planarRows_getElem? vFlip hy
    dsimp only
    rw [← hfits.planarRleStart_add (planarFlip_lt hy) hx]
    exact hread y _ hrow x hx
  · have hlt := mem_planarRows.mp hy
    have hne := hi (planarFlip vFlip h y) (planarFlip_lt hlt) x hx
    dsimp only at hne
    rwa [planarFlip_planarFlip hlt, ← hfits.planarRleStart_add hlt hx] at hne

end Values

/-- What was accepted consists of rows. -/
lemma planarSkipPlaneRle_ok {src : List UInt8} {w h fuel rleSize : Nat}
    (hsrc : src.length + 16 ≤ 2 ^ 32) (hw : w ≤ INT32_MAX)
    (hskip : planarSkipPlaneRle fuel src w h = .ok rleSize) :
    rleSize ≤ INT32_MAX ∧ rleSize ≤ src.length ∧ ∃ rows, RowsOf w h (src.take rleSize) rows [] := by
  rw [planarSkipPlaneRle] at hskip
  rw [INT32_MAX] at hw
  rcases hrows : planarSkipRows src w fuel h 0 with e | used
  · rw [hrows] at hskip
    cases hskip
  · rw [hrows] at hskip
    dsimp only at hskip
    split at hskip
    · cases hskip
    · rename_i hle
      cases hskip
      obtain ⟨hused, rows, hrows⟩ :=
        planarSkipRows_ok hsrc (by omega) (Nat.zero_le _) hrows
      obtain ⟨bytes, hbytes, hrows⟩ := hrows.exists_append
      have hlength := congrArg List.length hbytes
      rw [List.drop_zero] at hbytes
      rw [List.drop_zero, List.length_append, List.length_drop] at hlength
      refine ⟨not_lt.mp hle, hused, rows, ?_⟩
      have htake : src.take rleSize = bytes := by
        rw [hbytes, List.take_left' (by omega)]
      rwa [htake]

/-- The scan licenses the decoders. On what it accepts, in a plane that a signed number can count
and a destination that holds the rectangle, both decoders succeed, take exactly the bytes that the
scan has counted, write nothing outside of the rectangle, and write the same plane. -/
theorem planarSkipPlaneRle_licenses {src : List UInt8} {w h fuel rleSize : Nat}
    (hsrc : src.length + 16 ≤ 2 ^ 32) (hw : w ≤ INT32_MAX) (hh : h ≤ INT32_MAX)
    (hplane : w * h ≤ INT32_MAX) (hskip : planarSkipPlaneRle fuel src w h = .ok rleSize)
    {nDstStep nXDst nYDst nChannel : Nat}
    (hfits : PlanarFits nDstStep nXDst nYDst w h nChannel) (vFlip : Bool)
    (dstOnly dst : Nat → UInt8) :
    ∃ plane,
      PlanarDecodes (planarDecompressPlaneRleOnly (src.take rleSize) rleSize dstOnly w h)
        rleSize dstOnly (planarPlaneIndex w) w h plane ∧
      PlanarDecodes (planarDecompressPlaneRle (src.take rleSize) rleSize dst nDstStep nXDst nYDst w h
        nChannel vFlip) rleSize dst
        (fun y => planarIndex nDstStep nXDst nYDst nChannel (planarFlip vFlip h y)) w h plane := by
  obtain ⟨hsize, hused, rows, hrows⟩ := planarSkipPlaneRle_ok hsrc hw hskip
  have hlength : (src.take rleSize).length = rleSize := List.length_take_of_le hused
  have honly := hrows.decodesOnly hw hh hplane (by rw [hlength]; exact hsize) dstOnly
  have hrle := hrows.decodes hh (Nat.add_zero _).symm (by rw [hlength]; exact hsize) hfits vFlip dst
  rw [hlength] at honly hrle
  exact ⟨_, honly, hrle⟩

/-- Two rows of two pixels, the second one above the first. -/
theorem planarSkipPlaneRle_licenses_small :
    planarSkipPlaneRle 5 [0x20, 1, 2, 0x20, 2, 1] 2 2 = .ok 6 ∧ ∃ plane,
      PlanarDecodes (planarDecompressPlaneRleOnly [0x20, 1, 2, 0x20, 2, 1] 6 (fun _ => 0) 2 2)
        6 (fun _ => 0) (planarPlaneIndex 2) 2 2 plane ∧
      PlanarDecodes (planarDecompressPlaneRle [0x20, 1, 2, 0x20, 2, 1] 6 (fun _ => 0) 8 0 0 2 2 1
        true) 6 (fun _ => 0) (fun y => planarIndex 8 0 0 1 (planarFlip true 2 y)) 2 2 plane := by
  have hskip : planarSkipPlaneRle 5 [0x20, 1, 2, 0x20, 2, 1] 2 2 = .ok 6 := by decide +kernel
  exact ⟨hskip, planarSkipPlaneRle_licenses (by norm_num) (by norm_num [INT32_MAX])
    (by norm_num [INT32_MAX]) (by norm_num [INT32_MAX]) hskip
    ⟨by norm_num, by norm_num, by norm_num [INT32_MAX], by norm_num⟩ true (fun _ => 0)
    (fun _ => 0)⟩

/-- A scan of empty rows takes nothing. -/
lemma planarSkipRows_zero (src : List UInt8) (fuel h used : Nat) :
    planarSkipRows src 0 (fuel + 1) h used = .ok used := by
  induction h with
  | zero => rfl
  | succ h ih =>
    rw [planarSkipRows, planarSkipRow, if_neg (Nat.lt_irrefl 0)]
    exact ih

lemma planarSkipPlaneRle_zero (h : Nat) : planarSkipPlaneRle 1 [] 0 h = .ok 0 := by
  rw [planarSkipPlaneRle, planarSkipRows_zero]
  rfl

lemma planarDecompressPlaneRleOnly_large {src : List UInt8} {srcSize w h : Nat}
    (hlarge : INT32_MAX < h ∨ INT32_MAX < w) (dst : Nat → UInt8) :
    planarDecompressPlaneRleOnly src srcSize dst w h = .error .failed :=
  if_pos hlarge

/-- The scan accepts more rows than a signed number can count; the decoders refuse them. -/
theorem planarSkipPlaneRle_not_licenses :
    ¬∀ (fuel : Nat) (src : List UInt8) (w h rleSize : Nat) (dst : Nat → UInt8),
      src.length < 2 ^ 32 → w < 2 ^ 32 → h < 2 ^ 32 →
      planarSkipPlaneRle fuel src w h = .ok rleSize →
      ∃ used dst', planarDecompressPlaneRleOnly (src.take rleSize) rleSize dst w h =
        .ok (used, dst') := by
  intro hclaim
  obtain ⟨h, hh⟩ : ∃ h, h = 2 ^ 31 := ⟨_, rfl⟩
  obtain ⟨used, dst, hdecode⟩ := hclaim 1 [] 0 h 0 (fun _ => 0) (by norm_num) (by norm_num)
    (by rw [hh]; norm_num) (planarSkipPlaneRle_zero h)
  rw [planarDecompressPlaneRleOnly_large (.inl (by rw [hh, INT32_MAX]; norm_num))] at hdecode
  cases hdecode

end FreeRdp
