import FreeRdp.Codec.ImageCopy.Basic

/-!
# Rectangles of images

Where the pixels of the two rectangles of a copy are, and what it means that one is copied to the
other: of all bytes only those of the source rectangle are read, and only those of the destination
rectangle are written.
-/

namespace FreeRdp

namespace ImageCopy

variable {c : ImageCopy} {a x y : Nat}

/-! ### Pixels -/

/-- The pixel `x`, `y` of the destination rectangle. -/
def dstPixel (c : ImageCopy) (x y : Nat) : Nat :=
  c.pDstData + (c.nYDst.toNat + y) * c.dstStep.toNat + (c.nXDst.toNat + x) * c.dstByte.toNat

/-- The pixel `x`, `y` of the source rectangle. -/
def srcPixel (c : ImageCopy) (x y : Nat) : Nat :=
  c.pSrcData + (c.nYSrc.toNat + y) * c.srcStep.toNat + (c.nXSrc.toNat + x) * c.srcByte.toNat

/-- The row of the source rectangle for a row of the destination rectangle. -/
def srcRow (c : ImageCopy) (y : Nat) : Nat := if c.vSrcVFlip then c.nHeight.toNat - 1 - y else y

/-- The byte belongs to the destination rectangle. -/
def InDst (c : ImageCopy) (a : Nat) : Prop :=
  ∃ y < c.nHeight.toNat, ∃ x < c.nWidth.toNat,
    c.dstPixel x y ≤ a ∧ a < c.dstPixel x y + c.dstByte.toNat

/-- The byte belongs to the source rectangle. -/
def InSrc (c : ImageCopy) (a : Nat) : Prop :=
  ∃ y < c.nHeight.toNat, ∃ x < c.nWidth.toNat,
    c.srcPixel x y ≤ a ∧ a < c.srcPixel x y + c.srcByte.toNat

instance (c : ImageCopy) : DecidablePred c.InDst := fun a =>
  inferInstanceAs (Decidable (∃ y < c.nHeight.toNat, ∃ x < c.nWidth.toNat,
    c.dstPixel x y ≤ a ∧ a < c.dstPixel x y + c.dstByte.toNat))

instance (c : ImageCopy) : DecidablePred c.InSrc := fun a =>
  inferInstanceAs (Decidable (∃ y < c.nHeight.toNat, ∃ x < c.nWidth.toNat,
    c.srcPixel x y ≤ a ∧ a < c.srcPixel x y + c.srcByte.toNat))

/-- The source rectangle may be read, the destination rectangle may be written. -/
def areas (c : ImageCopy) : Areas := ⟨fun a => decide (c.InSrc a), fun a => decide (c.InDst a)⟩

/-- The bytes of a pixel for the destination: those of the source for equal formats, else those that
`WriteColor` writes for the converted colour. -/
def targetPixel (c : ImageCopy) (convert : Nat → Nat) (bytes : List UInt8) : Option (List UInt8) :=
  if c.sameFormats then some bytes
  else writeColorBytes c.dstFormat.toNat (convert (readColorBytes c.srcFormat.toNat bytes))

/-- Whatever the conversion and the memory, the pixels of the source rectangle before the copy are
in the destination rectangle behind it; no byte outside of the rectangles is read or written. -/
def Copies (c : ImageCopy) : Prop :=
  ∀ (convert : Nat → Nat) (m : Memory), ∃ ok m',
    freerdpImageCopy c.areas convert c m = some (ok, m') ∧
      (∀ y < c.nHeight.toNat, ∀ x < c.nWidth.toNat,
        c.targetPixel convert (readList m (c.srcPixel x (c.srcRow y)) c.srcByte.toNat) =
          some (readList m' (c.dstPixel x y) c.dstByte.toNat)) ∧
      ∀ a, ¬c.InDst a → m' a = m a

/-! ### Offsets -/

/-- The offset of a row from the top. -/
lemma rowOffset_one (y : Nat) (nY step : UInt32) :
    (rowOffset (UInt32.ofNat y) nY step 1 0).toNat = (nY.toNat + y) * step.toNat % 2 ^ 32 := by
  have hone : (1 : UInt32).toNat = 1 := rfl
  have hzero : (0 : UInt32).toNat = 0 := rfl
  rw [rowOffset, UInt32.toNat_add, UInt32.toNat_mul, UInt32.toNat_mul, UInt32.toNat_add, hone,
    hzero, UInt32.toNat_ofNat', Nat.mul_one, Nat.add_zero, Nat.mod_mod, Nat.mod_mod,
    Nat.mod_add_mod, Nat.mod_mul_mod, Nat.add_comm y]

/-- The offset of a row from the bottom. -/
lemma rowOffset_neg (y : Nat) (nY step nHeight : UInt32) :
    ((rowOffset (UInt32.ofNat y) nY step (-1) ((nHeight - 1) * step)).toNat : Int) =
      (((nHeight.toNat : Int) - 1 - y - nY.toNat) * step.toNat) % 2 ^ 32 := by
  have hneg : (-1 : UInt32).toNat = 2 ^ 32 - 1 := rfl
  have hone : (1 : UInt32).toNat = 1 := rfl
  rw [rowOffset, UInt32.toNat_add, UInt32.toNat_mul, UInt32.toNat_mul, UInt32.toNat_add,
    UInt32.toNat_mul, UInt32.toNat_sub, UInt32.toNat_ofNat', hneg, hone, Int.natCast_mod]
  -- both sides are the same number modulo `2 ^ 32`
  refine (ZMod.intCast_eq_intCast_iff' _ _ (2 ^ 32)).mp ?_
  have hsize : ((2 ^ 32 : Nat) : ZMod (2 ^ 32)) = 0 := ZMod.natCast_self _
  have hminus : ((2 ^ 32 - 1 : Nat) : ZMod (2 ^ 32)) = -1 := by
    rw [Nat.cast_sub (by decide), hsize, Nat.cast_one, zero_sub]
  simp only [Int.cast_natCast, Nat.cast_add, Nat.cast_mul, ZMod.natCast_mod, hminus, Int.cast_add,
    Int.cast_mul, Int.cast_sub, Int.cast_one]
  ring

lemma toNat_mul_of_lt {n b : UInt32} (h : n.toNat * b.toNat < 2 ^ 32) :
    (n * b).toNat = n.toNat * b.toNat := by
  rw [UInt32.toNat_mul, Nat.mod_eq_of_lt h]

/-- The offset of a pixel in its row. -/
lemma pixelOffset {n b : UInt32} {x : Nat} (h : (n.toNat + x) * b.toNat < 2 ^ 32) :
    ((UInt32.ofNat x + n) * b).toNat = (n.toNat + x) * b.toNat := by
  rw [UInt32.toNat_mul, UInt32.toNat_add, UInt32.toNat_ofNat', Nat.mod_add_mod, Nat.mod_mul_mod,
    Nat.add_comm x, Nat.mod_eq_of_lt h]

lemma exists_pixel_iff {p b w : Nat} :
    (∃ x < w, p + x * b ≤ a ∧ a < p + x * b + b) ↔ p ≤ a ∧ a < p + w * b := by
  constructor
  · rintro ⟨x, hx, hle, hlt⟩
    have hend : x * b + b ≤ w * b := by
      rw [← Nat.succ_mul]
      exact Nat.mul_le_mul_right b hx
    omega
  · rintro ⟨hle, hlt⟩
    have hb : 0 < b := by
      by_contra hzero
      rw [Nat.eq_zero_of_not_pos hzero, Nat.mul_zero] at hlt
      omega
    have hdiv := Nat.div_add_mod (a - p) b
    have hmod := Nat.mod_lt (a - p) hb
    rw [Nat.mul_comm] at hdiv
    refine ⟨(a - p) / b, Nat.div_lt_of_lt_mul ?_, by omega, by omega⟩
    rw [Nat.mul_comm]
    omega

lemma dstPixel_eq (x y : Nat) : c.dstPixel x y = c.dstPixel 0 y + x * c.dstByte.toNat := by
  rw [dstPixel, dstPixel, Nat.add_zero, Nat.add_mul c.nXDst.toNat, Nat.add_assoc (_ + _)]

lemma srcPixel_eq (x y : Nat) : c.srcPixel x y = c.srcPixel 0 y + x * c.srcByte.toNat := by
  rw [srcPixel, srcPixel, Nat.add_zero, Nat.add_mul c.nXSrc.toNat, Nat.add_assoc (_ + _)]

/-- The destination rectangle by its rows. -/
lemma inDst_iff : c.InDst a ↔ ∃ y < c.nHeight.toNat,
    c.dstPixel 0 y ≤ a ∧ a < c.dstPixel 0 y + c.nWidth.toNat * c.dstByte.toNat := by
  refine exists_congr fun y => and_congr_right fun _ => ?_
  rw [← exists_pixel_iff]
  refine exists_congr fun x => and_congr_right fun _ => ?_
  rw [dstPixel_eq]

/-- The source rectangle by its rows. -/
lemma inSrc_iff : c.InSrc a ↔ ∃ y < c.nHeight.toNat,
    c.srcPixel 0 y ≤ a ∧ a < c.srcPixel 0 y + c.nWidth.toNat * c.srcByte.toNat := by
  refine exists_congr fun y => and_congr_right fun _ => ?_
  rw [← exists_pixel_iff]
  refine exists_congr fun x => and_congr_right fun _ => ?_
  rw [srcPixel_eq]

lemma writes_row (hy : y < c.nHeight.toNat) :
    c.areas.Writes (c.dstPixel 0 y) (c.nWidth.toNat * c.dstByte.toNat) := fun i hi =>
  decide_eq_true (inDst_iff.mpr ⟨y, hy, by omega, by omega⟩)

lemma reads_row (hy : y < c.nHeight.toNat) :
    c.areas.Reads (c.srcPixel 0 y) (c.nWidth.toNat * c.srcByte.toNat) := fun i hi =>
  decide_eq_true (inSrc_iff.mpr ⟨y, hy, by omega, by omega⟩)

lemma dstLine_eq (h : (c.nYDst.toNat + y) * c.dstStep.toNat < 2 ^ 32) :
    c.dstLine y = c.pDstData + (c.nYDst.toNat + y) * c.dstStep.toNat := by
  rw [dstLine, rowOffset_one, Nat.mod_eq_of_lt h]

lemma srcLine_eq (hflip : c.vSrcVFlip = false) (h : (c.nYSrc.toNat + y) * c.srcStep.toNat < 2 ^ 32) :
    c.srcLine y = c.pSrcData + (c.nYSrc.toNat + y) * c.srcStep.toNat := by
  rw [srcLine, hflip, if_neg Bool.false_ne_true, rowOffset_one, Nat.mod_eq_of_lt h]

/-- The rows of an image do not overlap. -/
lemma apart_rows {p s o o' n r r' : Nat} (ho : o + n ≤ s) (ho' : o' + n ≤ s) (hr : r ≠ r') :
    Apart (p + r * s + o) n (p + r' * s + o') n := by
  rcases Nat.lt_or_gt_of_ne hr with hlt | hgt
  · have hle := Nat.mul_le_mul_right s hlt
    rw [Nat.succ_mul] at hle
    exact Or.inr (Or.inr (Or.inl (by omega)))
  · have hle := Nat.mul_le_mul_right s hgt
    rw [Nat.succ_mul] at hle
    exact Or.inr (Or.inr (Or.inr (by omega)))

/-! ### Transfers -/

/-- A row between equal formats. -/
def rowTransfer (c : ImageCopy) (y : Nat) : Transfer UInt8 :=
  .copy (c.dstLine y + (c.nXDst * c.dstByte).toNat) (c.srcLine y + (c.nXSrc * c.srcByte).toNat)
    (c.nWidth * c.dstByte).toNat

lemma length_writeColorBytes (format color : Nat) :
    ((writeColorBytes format color).getD []).length = writeColorSize format := by
  unfold writeColorBytes writeColorSize getBytesPerPixel
  split <;> simp_all

/-- A pixel between other formats. -/
def pixelTransfer (c : ImageCopy) (convert : Nat → Nat) (y x : Nat) : Transfer UInt8 where
  src := c.srcLine y + ((UInt32.ofNat x + c.nXSrc) * c.srcByte).toNat
  srcLen := readColorSize c.srcFormat.toNat
  dst := c.dstLine y + ((UInt32.ofNat x + c.nXDst) * c.dstByte).toNat
  dstLen := writeColorSize c.dstFormat.toNat
  image := fun bytes => (writeColorBytes c.dstFormat.toNat
    (convert (readColorBytes c.srcFormat.toNat bytes))).getD []
  length_image := fun _ _ => length_writeColorBytes _ _

/-- The order in which the rows between equal formats are copied. -/
def rowOrder (c : ImageCopy) : List Nat :=
  let down := List.range c.nHeight.toNat
  if c.overlapping then
    if c.nYDst < c.nYSrc then down
    else if c.nYDst > c.nYSrc then down.reverse
    else if c.nXSrc > c.nXDst then down
    else if c.nXSrc < c.nXDst then down.reverse
    else []
  else down

/-- All rows are copied, unless source and destination are taken to be the same. -/
lemma mem_rowOrder
    (hequal : ¬(c.overlapping = true ∧ c.nYDst = c.nYSrc ∧ c.nXDst = c.nXSrc)) :
    y ∈ c.rowOrder ↔ y < c.nHeight.toNat := by
  have hdown : y ∈ List.range c.nHeight.toNat ↔ y < c.nHeight.toNat := List.mem_range
  have hup : y ∈ (List.range c.nHeight.toNat).reverse ↔ y < c.nHeight.toNat :=
    List.mem_reverse.trans hdown
  unfold rowOrder
  split
  · rename_i hover
    split
    · exact hdown
    split
    · exact hup
    split
    · exact hdown
    split
    · exact hup
    rename_i hnlt hngt hnright hnleft
    have hY := UInt32.le_antisymm (UInt32.not_lt.mp hngt) (UInt32.not_lt.mp hnlt)
    have hX := UInt32.le_antisymm (UInt32.not_lt.mp hnright) (UInt32.not_lt.mp hnleft)
    exact absurd ⟨hover, hY, hX.symm⟩ hequal
  · exact hdown

lemma rowOrder_of_equal (hequal : c.overlapping = true ∧ c.nYDst = c.nYSrc ∧ c.nXDst = c.nXSrc) :
    c.rowOrder = [] := by
  obtain ⟨hover, hY, hX⟩ := hequal
  simp [rowOrder, hover, hY, hX]

/-- The transfers of a copy. -/
def transfers (c : ImageCopy) (convert : Nat → Nat) : List (Transfer UInt8) :=
  if c.sameFormats then c.rowOrder.map c.rowTransfer
  else (List.range c.nHeight.toNat).flatMap fun y =>
    (List.range (max c.nWidth.toNat 1)).map (c.pixelTransfer convert y)

lemma memcpy_of_apart {areas : Areas} {dst src n : Nat} {m : Memory} (h : Apart dst n src n) :
    memcpy areas dst src n m = memmove areas dst src n m := if_pos h

/-- Between separate areas `memcpy` is no less than `memmove`. -/
lemma memcpy_of_separate {areas : Areas} (h : areas.Separate) (dst src n : Nat) (m : Memory) :
    memcpy areas dst src n m = memmove areas dst src n m := by
  by_cases hapart : Apart dst n src n
  · exact memcpy_of_apart hapart
  · rw [memcpy, if_neg hapart, memmove, Transfer.run, if_neg]
    intro hpossible
    exact hapart (h.apart hpossible.2 hpossible.1)

lemma foldlM_copyRow {areas : Areas} {copy : Nat → Nat → Nat → Memory → Option Memory}
    {ys : List Nat} (hcopy : ∀ y ∈ ys, ∀ m, c.copyRow copy m y = (c.rowTransfer y).run areas m)
    (m : Memory) : ys.foldlM (c.copyRow copy) m = Transfer.runAll areas (ys.map c.rowTransfer) m := by
  induction ys generalizing m with
  | nil => rfl
  | cons y ys ih =>
    rw [List.forall_mem_cons] at hcopy
    rw [List.foldlM_cons, List.map_cons, Transfer.runAll_cons, hcopy.1]
    exact Option.bind_congr fun m' _ => ih hcopy.2 m'

/-- The rows between equal formats, if those that are copied by `memcpy` do not overlap. -/
lemma copyRows_eq {areas : Areas}
    (hcopy : ¬(c.overlapping = true ∧ c.nYDst = c.nYSrc) → ∀ y < c.nHeight.toNat, ∀ m,
      c.copyRow (memcpy areas) m y = (c.rowTransfer y).run areas m) (m : Memory) :
    c.copyRows areas m = Transfer.runAll areas (c.rowOrder.map c.rowTransfer) m := by
  have hmove : ∀ ys : List Nat, ys.foldlM (c.copyRow (memmove areas)) m =
      Transfer.runAll areas (ys.map c.rowTransfer) m := fun ys =>
    foldlM_copyRow (fun _ _ _ => rfl) m
  unfold copyRows rowOrder
  split
  · rename_i hover
    split
    · rename_i hlt
      exact foldlM_copyRow (fun y hy => hcopy (fun h => by simp [h.2] at hlt) y
        (List.mem_range.mp hy)) m
    split
    · rename_i hgt
      exact foldlM_copyRow (fun y hy => hcopy (fun h => by simp [h.2] at hgt) y
        (List.mem_range.mp (List.mem_reverse.mp hy))) m
    split
    · exact hmove _
    split
    · exact hmove _
    · rfl
  · rename_i hover
    exact foldlM_copyRow (fun y hy => hcopy (fun h => hover h.1) y (List.mem_range.mp hy)) m

lemma run_pixelTransfer {areas : Areas} {convert : Nat → Nat} (x : Nat) (m : Memory) :
    (c.pixelTransfer convert y x).run areas m =
      (readColorAt areas m (c.srcLine y + ((UInt32.ofNat x + c.nXSrc) * c.srcByte).toNat)
        c.srcFormat.toNat).bind fun color =>
        writeColorAt areas (c.dstLine y + ((UInt32.ofNat x + c.nXDst) * c.dstByte).toNat)
          c.dstFormat.toNat (convert color) m := by
  unfold Transfer.run readColorAt
  by_cases hread : areas.Reads (c.srcLine y + ((UInt32.ofNat x + c.nXSrc) * c.srcByte).toNat)
      (readColorSize c.srcFormat.toNat)
  · rw [if_pos hread, Option.bind_some]
    exact if_congr (and_iff_right hread) rfl rfl
  · have hnot : ¬(c.pixelTransfer convert y x).Possible areas := fun h => hread h.1
    rw [if_neg hread, if_neg hnot, Option.bind_none]

/-- The pixels of a row; the kept colours are those of the pixel before. -/
lemma foldlM_convertPixel {areas : Areas} {convert : Nat → Nat} (xs : List Nat) (color : Nat)
    (m : Memory) :
    (xs.foldlM (c.convertPixel areas convert y) (color, convert color, m)).map (·.2.2) =
      Transfer.runAll areas (xs.map (c.pixelTransfer convert y)) m := by
  induction xs generalizing color m with
  | nil => rfl
  | cons x xs ih =>
    rw [List.foldlM_cons, List.map_cons, Transfer.runAll_cons, run_pixelTransfer]
    cases hread : readColorAt areas m
        (c.srcLine y + ((UInt32.ofNat x + c.nXSrc) * c.srcByte).toNat) c.srcFormat.toNat with
    | none =>
      simp only [convertPixel, hread, Option.bind_eq_bind, Option.bind_none, Option.map_none]
    | some color' =>
      have hcolor : (if color' = color then convert color else convert color') = convert color' := by
        split
        · rw [‹color' = color›]
        · rfl
      cases hwrite : writeColorAt areas
          (c.dstLine y + ((UInt32.ofNat x + c.nXDst) * c.dstByte).toNat) c.dstFormat.toNat
          (convert color') m with
      | none =>
        simp only [convertPixel, hread, hcolor, hwrite, Option.bind_eq_bind, Option.bind_some,
          Option.bind_none, Option.map_none]
      | some m' =>
        simp only [convertPixel, hread, hcolor, hwrite, Option.bind_eq_bind, Option.bind_some]
        exact ih color' m'

lemma convertRow_eq {areas : Areas} {convert : Nat → Nat} (m : Memory) :
    c.convertRow areas convert m y = Transfer.runAll areas
      ((List.range (max c.nWidth.toNat 1)).map (c.pixelTransfer convert y)) m := by
  have hrange : List.range (max c.nWidth.toNat 1) = 0 :: List.range' 1 (c.nWidth.toNat - 1) := by
    rw [List.range_eq_range', show max c.nWidth.toNat 1 = c.nWidth.toNat - 1 + 1 by omega,
      List.range'_succ]
  rw [hrange, List.map_cons, Transfer.runAll_cons, run_pixelTransfer]
  have hzero : UInt32.ofNat 0 = 0 := rfl
  rw [hzero, UInt32.zero_add, UInt32.zero_add]
  unfold convertRow
  cases readColorAt areas m (c.srcLine y + (c.nXSrc * c.srcByte).toNat) c.srcFormat.toNat with
  | none => rfl
  | some color =>
    simp only [Option.bind_eq_bind, Option.bind_some]
    refine Option.bind_congr fun m' _ => ?_
    rw [← foldlM_convertPixel _ color m', Option.map_eq_bind]
    rfl

/-- A copy is its transfers, if the rows that are copied by `memcpy` do not overlap. -/
lemma freerdpImageCopy_eq {areas : Areas} {convert : Nat → Nat}
    (hsize : c.nHeight.toNat ≤ INT32_MAX ∧ c.nWidth.toNat ≤ INT32_MAX)
    (hdata : c.pDstData ≠ 0 ∧ c.pSrcData ≠ 0)
    (hcopy : ¬(c.overlapping = true ∧ c.nYDst = c.nYSrc) → ∀ y < c.nHeight.toNat, ∀ m,
      c.copyRow (memcpy areas) m y = (c.rowTransfer y).run areas m) (m : Memory) :
    freerdpImageCopy areas convert c m =
      (Transfer.runAll areas (c.transfers convert) m).map (true, ·) := by
  rw [freerdpImageCopy, if_neg (by omega), if_neg (by omega), transfers]
  split
  · rw [copyRows_eq hcopy]
  · congr 1
    induction List.range c.nHeight.toNat generalizing m with
    | nil => rfl
    | cons y ys ih =>
      rw [List.foldlM_cons, List.flatMap_cons, Transfer.runAll_append, convertRow_eq]
      exact Option.bind_congr fun m' _ => ih m'

end ImageCopy

end FreeRdp
