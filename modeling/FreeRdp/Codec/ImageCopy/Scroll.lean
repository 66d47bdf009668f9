import FreeRdp.Codec.ImageCopy.Rectangles

/-!
# Scrolling

A copy between two rectangles of one image. Whatever their positions, the rows are copied in an
order in which none is overwritten before it is read.
-/

namespace FreeRdp

namespace ImageCopy

variable {c : ImageCopy} {x y : Nat} {convert : Nat → Nat} {m : Memory}

/-- The two rectangles belong to one image, each with its rows inside of the image's, and the image
is not flipped. -/
structure Scrolls (c : ImageCopy) : Prop where
  data : c.pDstData = c.pSrcData
  data_ne : c.pDstData ≠ 0
  format : c.dstFormat = c.srcFormat
  step : c.nDstStep = c.nSrcStep
  flip : c.vSrcVFlip = false
  dst_wide : (c.nXDst.toNat + c.nWidth.toNat) * c.dstByte.toNat ≤ c.dstStep.toNat
  src_wide : (c.nXSrc.toNat + c.nWidth.toNat) * c.srcByte.toNat ≤ c.srcStep.toNat

/-- The sizes are not refused, and the rectangles end below the offset `2 ^ 32`. -/
structure Small (c : ImageCopy) : Prop where
  height : c.nHeight.toNat ≤ INT32_MAX
  width : c.nWidth.toNat ≤ INT32_MAX
  dst : (c.nYDst.toNat + c.nHeight.toNat) * c.dstStep.toNat < 2 ^ 32
  src : (c.nYSrc.toNat + c.nHeight.toNat) * c.srcStep.toNat < 2 ^ 32

lemma Scrolls.srcByte_eq (h : c.Scrolls) : c.srcByte = c.dstByte := by
  rw [srcByte, dstByte, h.format]

lemma Scrolls.srcStep_eq (h : c.Scrolls) : c.srcStep = c.dstStep := by
  rw [srcStep, dstStep, h.srcByte_eq, h.step]

lemma Scrolls.sameFormats (h : c.Scrolls) : c.sameFormats = true := by
  rw [ImageCopy.sameFormats, formatsEqualNoAlpha, h.format]
  exact decide_eq_true rfl

/-- The bytes of a row. -/
def rowBytes (c : ImageCopy) : Nat := c.nWidth.toNat * c.dstByte.toNat

lemma Scrolls.dst_fits (h : c.Scrolls) :
    c.nXDst.toNat * c.dstByte.toNat + c.rowBytes ≤ c.dstStep.toNat := by
  rw [rowBytes, ← Nat.add_mul]
  exact h.dst_wide

lemma Scrolls.src_fits (h : c.Scrolls) :
    c.nXSrc.toNat * c.dstByte.toNat + c.rowBytes ≤ c.dstStep.toNat := by
  rw [rowBytes, ← Nat.add_mul, ← h.srcByte_eq, ← h.srcStep_eq]
  exact h.src_wide

lemma Scrolls.srcPixel_zero (h : c.Scrolls) (y : Nat) : c.srcPixel 0 y =
    c.pDstData + (c.nYSrc.toNat + y) * c.dstStep.toNat + c.nXSrc.toNat * c.dstByte.toNat := by
  rw [srcPixel, ← h.data, h.srcStep_eq, h.srcByte_eq]
  rfl

/-- A row is copied from its place to its place. -/
lemma Scrolls.rowTransfer_eq (h : c.Scrolls) (hs : c.Small) (hy : y < c.nHeight.toNat) :
    c.rowTransfer y = .copy (c.dstPixel 0 y) (c.srcPixel 0 y) c.rowBytes := by
  have hstep : c.dstStep.toNat < 2 ^ 32 := c.dstStep.toNat_lt
  have hrow : ∀ nY : Nat, (nY + c.nHeight.toNat) * c.dstStep.toNat < 2 ^ 32 →
      (nY + y) * c.dstStep.toNat < 2 ^ 32 := fun nY hlt =>
    lt_of_le_of_lt (Nat.mul_le_mul_right _ (by omega)) hlt
  have hsrc := hs.src
  rw [h.srcStep_eq] at hsrc
  have hdstFits := h.dst_fits
  have hsrcFits := h.src_fits
  rw [rowTransfer, dstLine_eq (hrow _ hs.dst),
    srcLine_eq h.flip (by rw [h.srcStep_eq]; exact hrow _ hsrc), h.srcByte_eq,
    toNat_mul_of_lt (n := c.nXDst) (by omega), toNat_mul_of_lt (n := c.nXSrc) (by omega),
    toNat_mul_of_lt (n := c.nWidth) (by rw [← rowBytes]; omega), h.srcPixel_zero, h.srcStep_eq,
    ← h.data]
  rfl

/-- The rows of the destination do not overlap. -/
lemma Scrolls.apart_dst (h : c.Scrolls) {y y' : Nat} (hne : y ≠ y') :
    Apart (c.dstPixel 0 y) c.rowBytes (c.dstPixel 0 y') c.rowBytes :=
  apart_rows h.dst_fits h.dst_fits (by omega)

/-- Rows at different heights do not overlap. -/
lemma Scrolls.apart_src (h : c.Scrolls) {y y' : Nat}
    (hne : c.nYDst.toNat + y ≠ c.nYSrc.toNat + y') :
    Apart (c.dstPixel 0 y) c.rowBytes (c.srcPixel 0 y') c.rowBytes := by
  rw [h.srcPixel_zero]
  exact apart_rows h.dst_fits h.src_fits hne

/-- The start of a rectangle, as the test computes it. -/
lemma start_toNat {nX nY b step : UInt32} {n h : Nat} (hwide : nX.toNat * b.toNat + n ≤ step.toNat)
    (hpos : 0 < h) (hend : (nY.toNat + h) * step.toNat < 2 ^ 32) :
    (nX * b + nY * step).toNat = nY.toNat * step.toNat + nX.toNat * b.toNat := by
  have hrow : (nY.toNat + 1) * step.toNat ≤ (nY.toNat + h) * step.toNat :=
    Nat.mul_le_mul_right _ (by omega)
  rw [Nat.succ_mul] at hrow
  rw [UInt32.toNat_add, toNat_mul_of_lt (by omega), toNat_mul_of_lt (by omega),
    Nat.mod_eq_of_lt (by omega), Nat.add_comm]

/-- If the test finds no overlap, no row of the destination overlaps one of the source. -/
lemma Scrolls.apart_of_not_overlapping (h : c.Scrolls) (hs : c.Small)
    (hover : c.overlapping = false) {y y' : Nat} (hy : y < c.nHeight.toNat)
    (hy' : y' < c.nHeight.toNat) :
    Apart (c.dstPixel 0 y) c.rowBytes (c.srcPixel 0 y') c.rowBytes := by
  have hpos : 0 < c.nHeight.toNat := by omega
  have hsrc := hs.src
  rw [h.srcStep_eq] at hsrc
  have hdstFits := h.dst_fits
  have hend : c.nHeight.toNat * c.dstStep.toNat < 2 ^ 32 :=
    lt_of_le_of_lt (Nat.mul_le_mul_right _ (Nat.le_add_left _ _)) hs.dst
  rw [overlapping, h.srcStep_eq, h.srcByte_eq, ← h.data, start_toNat h.dst_fits hpos hs.dst,
    start_toNat h.src_fits hpos hsrc, toNat_mul_of_lt hend, Bool.or_eq_false_iff,
    decide_eq_false_iff_not, decide_eq_false_iff_not] at hover
  obtain ⟨hstart, hstop⟩ := hover
  -- both rectangles begin more than their height apart
  have hrow : ∀ y < c.nHeight.toNat,
      y * c.dstStep.toNat + c.dstStep.toNat ≤ c.nHeight.toNat * c.dstStep.toNat := fun y hy => by
    rw [← Nat.succ_mul]
    exact Nat.mul_le_mul_right _ hy
  have hy := hrow y hy
  have hy' := hrow y' hy'
  rw [h.srcPixel_zero, dstPixel, Nat.add_zero, Nat.add_mul c.nYDst.toNat,
    Nat.add_mul c.nYSrc.toNat]
  unfold Apart
  omega

/-! ### The result -/

/-- The rows are copied in an order in which none is overwritten before it is read. -/
lemma Scrolls.independent (h : c.Scrolls) (hs : c.Small) :
    Transfer.Independent (c.rowOrder.map c.rowTransfer) := by
  have hpair : ∀ {y y'}, y < c.nHeight.toNat → y' < c.nHeight.toNat → y ≠ y' →
      Apart (c.dstPixel 0 y) c.rowBytes (c.srcPixel 0 y') c.rowBytes →
      Apart (c.rowTransfer y).dst (c.rowTransfer y).dstLen
          (c.rowTransfer y').src (c.rowTransfer y').srcLen ∧
        Apart (c.rowTransfer y).dst (c.rowTransfer y).dstLen
          (c.rowTransfer y').dst (c.rowTransfer y').dstLen := by
    intro y y' hy hy' hne hsrc
    rw [h.rowTransfer_eq hs hy, h.rowTransfer_eq hs hy']
    exact ⟨hsrc, h.apart_dst hne⟩
  have hdown := List.pairwise_lt_range (n := c.nHeight.toNat)
  have hup : (List.range c.nHeight.toNat).reverse.Pairwise (· > ·) :=
    List.pairwise_reverse.mpr hdown
  unfold Transfer.Independent rowOrder
  rw [List.pairwise_map]
  split
  · split
    · -- down: the source is below the destination
      rename_i hlt
      rw [UInt32.lt_iff_toNat_lt] at hlt
      refine hdown.imp_of_mem fun hy hy' hyy => ?_
      exact hpair (List.mem_range.mp hy) (List.mem_range.mp hy') (by omega)
        (h.apart_src (by omega))
    split
    · -- up: the source is above the destination
      rename_i hgt
      rw [gt_iff_lt, UInt32.lt_iff_toNat_lt] at hgt
      refine hup.imp_of_mem fun hy hy' hyy => ?_
      rw [List.mem_reverse, List.mem_range] at hy hy'
      exact hpair hy hy' (by omega) (h.apart_src (by omega))
    rename_i hnlt hngt
    rw [UInt32.lt_iff_toNat_lt] at hnlt
    rw [gt_iff_lt, UInt32.lt_iff_toNat_lt] at hngt
    split
    · refine hdown.imp_of_mem fun hy hy' hyy => ?_
      exact hpair (List.mem_range.mp hy) (List.mem_range.mp hy') (by omega)
        (h.apart_src (by omega))
    split
    · refine hup.imp_of_mem fun hy hy' hyy => ?_
      rw [List.mem_reverse, List.mem_range] at hy hy'
      exact hpair hy hy' (by omega) (h.apart_src (by omega))
    · exact List.Pairwise.nil
  · rename_i hover
    refine hdown.imp_of_mem fun hy hy' hyy => ?_
    rw [List.mem_range] at hy hy'
    exact hpair hy hy' (by omega)
      (h.apart_of_not_overlapping hs (Bool.eq_false_of_not_eq_true hover) hy hy')

lemma Scrolls.copyRow_memcpy (h : c.Scrolls) (hs : c.Small) {areas : Areas}
    (hmove : ¬(c.overlapping = true ∧ c.nYDst = c.nYSrc)) (hy : y < c.nHeight.toNat) :
    c.copyRow (memcpy areas) m y = (c.rowTransfer y).run areas m := by
  have hapart : Apart (c.rowTransfer y).dst (c.rowTransfer y).dstLen
      (c.rowTransfer y).src (c.rowTransfer y).dstLen := by
    rw [h.rowTransfer_eq hs hy]
    cases hover : c.overlapping with
    | true =>
      have hne : c.nYDst.toNat ≠ c.nYSrc.toNat := fun heq => hmove ⟨hover, UInt32.toNat_inj.mp heq⟩
      exact h.apart_src (by omega)
    | false => exact h.apart_of_not_overlapping hs hover hy hy
  exact memcpy_of_apart hapart

/-- Scrolling copies the pixels as they were before. -/
theorem scrolls_copies (h : c.Scrolls) (hs : c.Small) : c.Copies := by
  intro convert m
  have hbyte : c.srcByte.toNat = c.dstByte.toNat := by rw [h.srcByte_eq]
  have hrow : ∀ y, c.srcRow y = y := fun y => by
    rw [srcRow, h.flip, if_neg Bool.false_ne_true]
  simp only [freerdpImageCopy_eq ⟨hs.height, hs.width⟩ ⟨h.data_ne, h.data ▸ h.data_ne⟩
      (fun hmove y hy m => h.copyRow_memcpy hs hmove hy), transfers, targetPixel, h.sameFormats,
    if_true, hrow, hbyte, Option.some.injEq]
  by_cases hequal : c.overlapping = true ∧ c.nYDst = c.nYSrc ∧ c.nXDst = c.nXSrc
  · -- source and destination are the same
    refine ⟨true, m, ?_, fun y _ x _ => ?_, fun a _ => rfl⟩
    · rw [rowOrder_of_equal hequal]
      rfl
    · rw [srcPixel, ← h.data, h.srcStep_eq, h.srcByte_eq, ← hequal.2.1, ← hequal.2.2]
      rfl
  · refine ⟨true, Transfer.applyAll (c.rowOrder.map c.rowTransfer) m, ?_, fun y hy x hx => ?_,
      fun a ha => Transfer.applyAll_of_notMem ?_⟩
    · rw [Transfer.runAll_eq_some_iff.mpr ⟨?_, rfl⟩, Option.map_some]
      rw [List.forall_mem_map]
      intro y hy
      rw [mem_rowOrder hequal] at hy
      rw [h.rowTransfer_eq hs hy]
      refine ⟨?_, writes_row hy⟩
      rw [rowBytes, ← hbyte]
      exact reads_row hy
    · have hread := Transfer.readList_applyAll (m := m) (h.independent hs)
        (List.mem_map_of_mem ((mem_rowOrder hequal).mpr hy))
      rw [h.rowTransfer_eq hs hy] at hread
      have hend : x * c.dstByte.toNat + c.dstByte.toNat ≤ c.rowBytes := by
        rw [← Nat.succ_mul]
        exact Nat.mul_le_mul_right _ hx
      rw [dstPixel_eq, srcPixel_eq, hbyte]
      exact (readList_congr_inside hread hend).symm
    · rw [List.forall_mem_map]
      intro y hy hmem
      rw [mem_rowOrder hequal] at hy
      rw [h.rowTransfer_eq hs hy] at hmem
      exact ha (inDst_iff.mpr ⟨y, hy, hmem⟩)

/-- A copy of one pixel row inside of an image with a byte for each pixel. -/
def scroll (nStep nXDst nXSrc nYSrc nWidth : UInt32) : ImageCopy where
  pDstData := 0x1000
  dstFormat := 0x08008000
  nDstStep := nStep
  nXDst := nXDst
  nYDst := 0
  nWidth := nWidth
  nHeight := 1
  pSrcData := 0x1000
  srcFormat := 0x08008000
  nSrcStep := nStep
  nXSrc := nXSrc
  nYSrc := nYSrc
  flags := 0

/-- Four pixels of a row are moved to the right by one. -/
theorem scrolls_copies_right : (scroll 16 1 0 0 4).Copies :=
  scrolls_copies ⟨rfl, by decide, rfl, rfl, by decide, by decide, by decide⟩
    ⟨by decide, by decide, by decide, by decide⟩

/-- Rows of `2 ^ 31` pixels are refused, and the third row of an image with rows of `2 ^ 31` bytes is
taken for the first one. -/
theorem not_scrolls_copies :
    ((scroll 0x80000001 1 0 0 0x80000000).Scrolls ∧ ¬(scroll 0x80000001 1 0 0 0x80000000).Copies) ∧
      (scroll 0x80000000 0 5 2 1).Scrolls ∧ ¬(scroll 0x80000000 0 5 2 1).Copies := by
  refine ⟨⟨⟨rfl, by decide, rfl, rfl, by decide, by decide, by decide⟩, fun h => ?_⟩,
    ⟨rfl, by decide, rfl, rfl, by decide, by decide, by decide⟩, fun h => ?_⟩
  · -- the pixel that is not copied differs
    obtain ⟨ok, m', hrun, hpixels, -⟩ := h id fun a => if a = 0x1000 then 1 else 0
    obtain rfl : (fun a => if a = 0x1000 then 1 else 0) = m' :=
      congrArg Prod.snd (Option.some.inj hrun)
    exact absurd (hpixels 0 (by decide) 0 (by decide)) (by decide)
  · obtain ⟨ok, m', hrun, -⟩ := h id fun _ => 0
    have hnone : (freerdpImageCopy (scroll 0x80000000 0 5 2 1).areas id
        (scroll 0x80000000 0 5 2 1) fun _ => 0).isNone = true := by decide
    rw [hrun] at hnone
    cases hnone

end ImageCopy

end FreeRdp
