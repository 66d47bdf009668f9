import FreeRdp.Codec.ImageCopy.Rectangles

/-!
# Rectangles that share no bytes

Between such rectangles the order of the rows does not matter: the transfers that stay inside of
them are independent. With the right offsets of all rows they copy the pixels.
-/

namespace FreeRdp

namespace ImageCopy

variable {c : ImageCopy} {x y : Nat} {convert : Nat → Nat} {m m' : Memory} {a : Nat}

/-- Two rectangles in memory that share no bytes, with rows inside of the images' rows. -/
structure Placed (c : ImageCopy) : Prop where
  dst_ne : c.pDstData ≠ 0
  src_ne : c.pSrcData ≠ 0
  dst_format : getBitsPerPixel c.dstFormat.toNat ∈ [32, 24, 16, 15, 8, 4, 1]
  src_format : getBitsPerPixel c.srcFormat.toNat ∈ [32, 24, 16, 15, 8, 4, 1]
  dst_wide : (c.nXDst.toNat + c.nWidth.toNat) * c.dstByte.toNat ≤ c.dstStep.toNat
  src_wide : (c.nXSrc.toNat + c.nWidth.toNat) * c.srcByte.toNat ≤ c.srcStep.toNat
  disjoint : ∀ a, c.InSrc a → ¬c.InDst a

/-- `WriteColor` supports the format of the destination. -/
def Writable (c : ImageCopy) : Prop :=
  getBitsPerPixel c.dstFormat.toNat ∈ [32, 24, 16, 15, 8]

/-- The rows of the destination have their offsets. -/
def DstRows (c : ImageCopy) : Prop := ∀ y < c.nHeight.toNat,
  c.dstLine y = c.pDstData + (c.nYDst.toNat + y) * c.dstStep.toNat

/-- The rows of the source have their offsets. -/
def SrcRows (c : ImageCopy) : Prop := ∀ y < c.nHeight.toNat,
  c.srcLine y = c.pSrcData + (c.nYSrc.toNat + c.srcRow y) * c.srcStep.toNat

/-- The copy takes source and destination to be the same. -/
def TakenAsEqual (c : ImageCopy) : Prop :=
  c.overlapping = true ∧ c.nYDst = c.nYSrc ∧ c.nXDst = c.nXSrc

instance (c : ImageCopy) : Decidable c.Writable :=
  inferInstanceAs (Decidable (getBitsPerPixel c.dstFormat.toNat ∈ [32, 24, 16, 15, 8]))

instance (c : ImageCopy) : Decidable c.TakenAsEqual :=
  inferInstanceAs (Decidable (c.overlapping = true ∧ c.nYDst = c.nYSrc ∧ c.nXDst = c.nXSrc))

lemma bytes_of_format {format : Nat}
    (h : getBitsPerPixel format ∈ [32, 24, 16, 15, 8, 4, 1]) :
    0 < getBytesPerPixel format ∧ (UInt32.ofNat (getBytesPerPixel format)).toNat =
      getBytesPerPixel format := by
  have hle : 1 ≤ getBitsPerPixel format ∧ getBitsPerPixel format ≤ 32 := by
    simp only [List.mem_cons, List.not_mem_nil, or_false] at h
    omega
  rw [getBytesPerPixel, UInt32.toNat_ofNat']
  omega

lemma Placed.srcByte_pos (h : c.Placed) : 0 < c.srcByte.toNat := by
  rw [srcByte, (bytes_of_format h.src_format).2]
  exact (bytes_of_format h.src_format).1

lemma Placed.dstByte_pos (h : c.Placed) : 0 < c.dstByte.toNat := by
  rw [dstByte, (bytes_of_format h.dst_format).2]
  exact (bytes_of_format h.dst_format).1

lemma Placed.readColorSize_eq (h : c.Placed) :
    readColorSize c.srcFormat.toNat = c.srcByte.toNat := by
  rw [readColorSize, if_pos h.src_format, srcByte, (bytes_of_format h.src_format).2]

lemma Placed.writeColorSize_eq (h : c.Placed) (hw : c.Writable) :
    writeColorSize c.dstFormat.toNat = c.dstByte.toNat := by
  unfold Writable at hw
  rw [writeColorSize, if_pos hw, dstByte, (bytes_of_format h.dst_format).2]

lemma Placed.writeColorSize_le (h : c.Placed) :
    writeColorSize c.dstFormat.toNat ≤ c.dstByte.toNat := by
  rw [writeColorSize]
  split
  · rw [dstByte, (bytes_of_format h.dst_format).2]
  · exact Nat.zero_le _

/-- Formats that are equal but for the alpha channel have pixels of the same size. -/
lemma byte_eq_of_sameFormats (h : c.sameFormats = true) : c.srcByte = c.dstByte := by
  have hbits : ∀ format : Nat, getBitsPerPixel format =
      (format &&& (2 ^ 32 - 1 - 8 <<< 12)) >>> 24 &&& 0x3F := fun format => by
    rw [Nat.shiftRight_and_distrib, Nat.and_assoc]
    rfl
  rw [sameFormats, formatsEqualNoAlpha, decide_eq_true_eq] at h
  rw [srcByte, dstByte, getBytesPerPixel, getBytesPerPixel, hbits, hbits c.dstFormat.toNat, h]

lemma Placed.separate (h : c.Placed) : c.areas.Separate := fun a hread hwrite =>
  h.disjoint a (of_decide_eq_true hread) (of_decide_eq_true hwrite)

/-! ### The transfers -/

lemma Placed.toNat_dst (h : c.Placed) (hx : x < c.nWidth.toNat) :
    ((UInt32.ofNat x + c.nXDst) * c.dstByte).toNat = (c.nXDst.toNat + x) * c.dstByte.toNat :=
  pixelOffset (lt_of_le_of_lt ((Nat.mul_le_mul_right _ (by omega)).trans h.dst_wide)
    c.dstStep.toNat_lt)

lemma Placed.toNat_src (h : c.Placed) (hx : x < c.nWidth.toNat) :
    ((UInt32.ofNat x + c.nXSrc) * c.srcByte).toNat = (c.nXSrc.toNat + x) * c.srcByte.toNat :=
  pixelOffset (lt_of_le_of_lt ((Nat.mul_le_mul_right _ (by omega)).trans h.src_wide)
    c.srcStep.toNat_lt)

/-- Where a pixel of the source is read. -/
def srcAt (c : ImageCopy) (y x : Nat) : Nat :=
  c.srcLine y + (c.nXSrc.toNat + x) * c.srcByte.toNat

/-- Where a pixel of the destination is written. -/
def dstAt (c : ImageCopy) (y x : Nat) : Nat :=
  c.dstLine y + (c.nXDst.toNat + x) * c.dstByte.toNat

lemma dstAt_eq (h : c.DstRows) (hy : y < c.nHeight.toNat) : c.dstAt y x = c.dstPixel x y := by
  rw [dstAt, h y hy, dstPixel]

lemma srcAt_eq (h : c.SrcRows) (hy : y < c.nHeight.toNat) :
    c.srcAt y x = c.srcPixel x (c.srcRow y) := by
  rw [srcAt, h y hy, srcPixel]

lemma srcRow_lt (hy : y < c.nHeight.toNat) : c.srcRow y < c.nHeight.toNat := by
  unfold srcRow
  split <;> omega

lemma Placed.rowTransfer_eq (h : c.Placed) (hW : 0 < c.nWidth.toNat) : c.rowTransfer y =
    .copy (c.dstAt y 0) (c.srcAt y 0) (c.nWidth.toNat * c.dstByte.toNat) := by
  have hdst := h.toNat_dst hW
  have hsrc := h.toNat_src hW
  have hzero : UInt32.ofNat 0 = 0 := rfl
  rw [hzero, UInt32.zero_add] at hdst hsrc
  have hwide := h.dst_wide
  rw [Nat.add_mul] at hwide
  have hstep := c.dstStep.toNat_lt
  rw [rowTransfer, hdst, hsrc, toNat_mul_of_lt (by omega)]
  rfl

lemma Placed.pixelTransfer_eq (h : c.Placed) (convert : Nat → Nat) (y : Nat)
    (hx : x < c.nWidth.toNat) :
    (c.pixelTransfer convert y x).src = c.srcAt y x ∧
      (c.pixelTransfer convert y x).srcLen = c.srcByte.toNat ∧
      (c.pixelTransfer convert y x).dst = c.dstAt y x := by
  refine ⟨?_, h.readColorSize_eq, ?_⟩
  · rw [srcAt, ← h.toNat_src hx]
    rfl
  · rw [dstAt, ← h.toNat_dst hx]
    rfl

/-- Between separate rectangles a copy is its transfers. -/
lemma Placed.run_eq (h : c.Placed)
    (hsize : c.nHeight.toNat ≤ INT32_MAX ∧ c.nWidth.toNat ≤ INT32_MAX) :
    freerdpImageCopy c.areas convert c m =
      (Transfer.runAll c.areas (c.transfers convert) m).map (true, ·) :=
  freerdpImageCopy_eq hsize ⟨h.dst_ne, h.src_ne⟩
    (fun _ _ _ _ => memcpy_of_separate h.separate _ _ _ _) m

/-- The transfers, by the rows and pixels they are for. -/
lemma mem_transfers {t : Transfer UInt8} (hW : 0 < c.nWidth.toNat) :
    t ∈ c.transfers convert ↔
      if c.sameFormats then ∃ y ∈ c.rowOrder, c.rowTransfer y = t
      else ∃ y < c.nHeight.toNat, ∃ x < c.nWidth.toNat, c.pixelTransfer convert y x = t := by
  rw [transfers]
  split
  · exact List.mem_map
  · have hmax : max c.nWidth.toNat 1 = c.nWidth.toNat := max_eq_left hW
    simp only [List.mem_flatMap, List.mem_map, List.mem_range, hmax]

lemma lt_of_mem_rowOrder (h : y ∈ c.rowOrder) : y < c.nHeight.toNat := by
  by_cases hequal : c.TakenAsEqual
  · rw [rowOrder_of_equal hequal] at h
    exact absurd h List.not_mem_nil
  · exact (mem_rowOrder hequal).mp h

/-- Each transfer writes to a row. -/
lemma Placed.mem_row (h : c.Placed) (hW : 0 < c.nWidth.toNat) {t : Transfer UInt8}
    (ht : t ∈ c.transfers convert) : ∃ y < c.nHeight.toNat, c.dstAt y 0 ≤ t.dst ∧
      t.dst + t.dstLen ≤ c.dstAt y 0 + c.nWidth.toNat * c.dstByte.toNat := by
  rw [mem_transfers hW] at ht
  split at ht
  · obtain ⟨y, hy, rfl⟩ := ht
    rw [h.rowTransfer_eq hW]
    exact ⟨y, lt_of_mem_rowOrder hy, le_rfl, le_rfl⟩
  · obtain ⟨y, hy, x, hx, rfl⟩ := ht
    have hdst := (h.pixelTransfer_eq convert y hx).2.2
    have hlen : (c.pixelTransfer convert y x).dstLen ≤ c.dstByte.toNat := h.writeColorSize_le
    have hend : x * c.dstByte.toNat + c.dstByte.toNat ≤ c.nWidth.toNat * c.dstByte.toNat := by
      rw [← Nat.succ_mul]
      exact Nat.mul_le_mul_right _ hx
    have hat : c.dstAt y x = c.dstAt y 0 + x * c.dstByte.toNat := by
      rw [dstAt, dstAt, Nat.add_zero, Nat.add_mul, Nat.add_assoc]
    exact ⟨y, hy, by omega, by omega⟩

/-- Pixels of the destination do not overlap. -/
lemma Placed.apart_pixels (h : c.Placed) {x' y' : Nat} (hx : x < c.nWidth.toNat)
    (hx' : x' < c.nWidth.toNat) (hne : y ≠ y' ∨ x ≠ x') :
    Apart (c.dstPixel x y) c.dstByte.toNat (c.dstPixel x' y') c.dstByte.toNat := by
  have hfits : ∀ x < c.nWidth.toNat,
      (c.nXDst.toNat + x) * c.dstByte.toNat + c.dstByte.toNat ≤ c.dstStep.toNat := fun x hx => by
    rw [← Nat.succ_mul]
    exact (Nat.mul_le_mul_right _ (by omega)).trans h.dst_wide
  by_cases hy : y = y'
  · -- in one row
    subst hy
    rw [dstPixel_eq x, dstPixel_eq x']
    exact @apart_rows _ _ 0 0 _ _ _ (by omega) (by omega) (hne.resolve_left (· rfl))
  · exact apart_rows (hfits x hx) (hfits x' hx') (by omega)

/-- Rows of the destination do not overlap. -/
lemma Placed.apart_rows_dst (h : c.Placed) {y' : Nat} (hne : y ≠ y') :
    Apart (c.dstPixel 0 y) (c.nWidth.toNat * c.dstByte.toNat)
      (c.dstPixel 0 y') (c.nWidth.toNat * c.dstByte.toNat) := by
  have hwide := h.dst_wide
  rw [Nat.add_mul] at hwide
  exact apart_rows hwide hwide (by omega)

lemma nodup_rowOrder : c.rowOrder.Nodup := by
  have hdown := List.nodup_range (n := c.nHeight.toNat)
  have hup := List.nodup_reverse.mpr hdown
  unfold rowOrder
  split
  · split
    · exact hdown
    split
    · exact hup
    split
    · exact hdown
    split
    · exact hup
    · exact List.nodup_nil
  · exact hdown

/-- No two transfers write to the same bytes. -/
lemma Placed.pairwise_transfers (h : c.Placed) (hW : 0 < c.nWidth.toNat) (hrows : c.DstRows) :
    (c.transfers convert).Pairwise fun t u => Apart t.dst t.dstLen u.dst u.dstLen := by
  unfold transfers
  split
  · rw [List.pairwise_map]
    refine nodup_rowOrder.imp_of_mem fun hy hy' hne => ?_
    rw [h.rowTransfer_eq hW, h.rowTransfer_eq hW]
    show Apart (c.dstAt _ 0) _ (c.dstAt _ 0) _
    rw [dstAt_eq hrows (lt_of_mem_rowOrder hy), dstAt_eq hrows (lt_of_mem_rowOrder hy')]
    exact h.apart_rows_dst hne
  · have hmax : max c.nWidth.toNat 1 = c.nWidth.toNat := max_eq_left hW
    rw [hmax]
    have hpair : ∀ {y y' x x' : Nat}, y < c.nHeight.toNat → y' < c.nHeight.toNat →
        x < c.nWidth.toNat → x' < c.nWidth.toNat → y ≠ y' ∨ x ≠ x' →
        Apart (c.pixelTransfer convert y x).dst (c.pixelTransfer convert y x).dstLen
          (c.pixelTransfer convert y' x').dst (c.pixelTransfer convert y' x').dstLen := by
      intro y y' x x' hy hy' hx hx' hne
      have happart := h.apart_pixels hx hx' hne
      rw [(h.pixelTransfer_eq _ _ hx).2.2, (h.pixelTransfer_eq _ _ hx').2.2, dstAt_eq hrows hy,
        dstAt_eq hrows hy']
      have hle : writeColorSize c.dstFormat.toNat ≤ c.dstByte.toNat := h.writeColorSize_le
      unfold Apart at happart ⊢
      show writeColorSize _ = 0 ∨ writeColorSize _ = 0 ∨ _ + writeColorSize _ ≤ _ ∨
        _ + writeColorSize _ ≤ _
      omega
    refine List.pairwise_flatMap.mpr ⟨fun y hy => ?_, ?_⟩
    · rw [List.mem_range] at hy
      rw [List.pairwise_map]
      refine List.nodup_range.imp_of_mem fun hx hx' hne => ?_
      exact hpair hy hy (List.mem_range.mp hx) (List.mem_range.mp hx') (Or.inr hne)
    · refine List.nodup_range.imp_of_mem fun hy hy' hne => ?_
      intro t ht u hu
      obtain ⟨x, hx, rfl⟩ := List.mem_map.mp ht
      obtain ⟨x', hx', rfl⟩ := List.mem_map.mp hu
      exact hpair (List.mem_range.mp hy) (List.mem_range.mp hy') (List.mem_range.mp hx)
        (List.mem_range.mp hx') (Or.inl hne)

/-- Transfers that are possible are independent of one another. -/
lemma Placed.independent (h : c.Placed) (hW : 0 < c.nWidth.toNat) (hrows : c.DstRows)
    (hpossible : ∀ t ∈ c.transfers convert, t.Possible c.areas) :
    Transfer.Independent (c.transfers convert) := by
  refine (h.pairwise_transfers hW hrows).imp_of_mem fun ht hu happart => ⟨?_, happart⟩
  exact h.separate.apart (hpossible _ ht).2 (hpossible _ hu).1

/-! ### What is copied -/

lemma exists_writeColorBytes {format : Nat} (h : getBitsPerPixel format ∈ [32, 24, 16, 15, 8])
    (color : Nat) : ∃ bytes, writeColorBytes format color = some bytes := by
  simp only [List.mem_cons, List.not_mem_nil, or_false] at h
  rcases h with hf | hf | hf | hf | hf <;> rw [writeColorBytes, hf] <;> exact ⟨_, rfl⟩

lemma writable_of_writeColorBytes {format color : Nat} {bytes : List UInt8}
    (h : writeColorBytes format color = some bytes) :
    getBitsPerPixel format ∈ [32, 24, 16, 15, 8] := by
  unfold writeColorBytes at h
  split at h
  case h_6 => cases h
  all_goals simp_all

/-- After a copy each pixel holds what was read for it before. -/
lemma Placed.pixel_of_run (h : c.Placed) (hW : 0 < c.nWidth.toNat) (hrows : c.DstRows)
    (hequal : ¬(c.sameFormats = true ∧ c.TakenAsEqual))
    (hformat : c.sameFormats = true ∨ c.Writable)
    (hrun : Transfer.runAll c.areas (c.transfers convert) m = some m')
    (hy : y < c.nHeight.toNat) (hx : x < c.nWidth.toNat) :
    c.targetPixel convert (readList m (c.srcAt y x) c.srcByte.toNat) =
      some (readList m' (c.dstPixel x y) c.dstByte.toNat) := by
  obtain ⟨hpossible, rfl⟩ := Transfer.runAll_eq_some_iff.mp hrun
  have hread : ∀ t ∈ c.transfers convert, _ := fun t ht =>
    Transfer.readList_applyAll (m := m) (h.independent hW hrows hpossible) ht
  rw [targetPixel]
  by_cases hsame : c.sameFormats = true
  · rw [if_pos hsame, Option.some.injEq, byte_eq_of_sameFormats hsame]
    have ht : c.rowTransfer y ∈ c.transfers convert := by
      rw [mem_transfers hW, if_pos hsame]
      exact ⟨y, (mem_rowOrder fun h => hequal ⟨hsame, h⟩).mpr hy, rfl⟩
    have hrow := hread _ ht
    rw [h.rowTransfer_eq hW] at hrow
    change readList _ (c.dstAt y 0) _ = readList m (c.srcAt y 0) _ at hrow
    have hend : x * c.dstByte.toNat + c.dstByte.toNat ≤ c.nWidth.toNat * c.dstByte.toNat := by
      rw [← Nat.succ_mul]
      exact Nat.mul_le_mul_right _ hx
    have hpixel := readList_congr_inside hrow hend
    rw [dstAt_eq hrows hy, ← dstPixel_eq] at hpixel
    rw [hpixel, srcAt, srcAt, Nat.add_zero, byte_eq_of_sameFormats hsame, Nat.add_mul, Nat.add_assoc]
  · have hwritable := hformat.resolve_left hsame
    have ht : c.pixelTransfer convert y x ∈ c.transfers convert := by
      rw [mem_transfers hW, if_neg hsame]
      exact ⟨y, hy, x, hx, rfl⟩
    have hpixel := hread _ ht
    obtain ⟨hsrc, hlen, hdst⟩ := h.pixelTransfer_eq convert y hx
    have hdstLen : (c.pixelTransfer convert y x).dstLen = c.dstByte.toNat :=
      h.writeColorSize_eq hwritable
    rw [hsrc, hlen, hdst, hdstLen, dstAt_eq hrows hy] at hpixel
    obtain ⟨bytes, hbytes⟩ := exists_writeColorBytes hwritable
      (convert (readColorBytes c.srcFormat.toNat (readList m (c.srcAt y x) c.srcByte.toNat)))
    rw [if_neg hsame, hbytes, hpixel]
    show some bytes = some ((writeColorBytes _ _).getD [])
    rw [hbytes]
    rfl

/-- With the offsets of all rows, the transfers stay in the rectangles. -/
lemma Placed.possible (h : c.Placed) (convert : Nat → Nat) (hW : 0 < c.nWidth.toNat)
    (hdst : c.DstRows) (hsrc : c.SrcRows) : ∀ t ∈ c.transfers convert, t.Possible c.areas := by
  intro t ht
  rw [mem_transfers hW] at ht
  split at ht
  · rename_i hsame
    obtain ⟨y, hy, rfl⟩ := ht
    have hy := lt_of_mem_rowOrder hy
    rw [h.rowTransfer_eq hW, dstAt_eq hdst hy, srcAt_eq hsrc hy]
    refine ⟨?_, writes_row hy⟩
    have hread := reads_row (c := c) (srcRow_lt hy)
    rw [byte_eq_of_sameFormats hsame] at hread
    exact hread
  · obtain ⟨y, hy, x, hx, rfl⟩ := ht
    obtain ⟨hsrcAt, hlen, hdstAt⟩ := h.pixelTransfer_eq convert y hx
    have hdstLen : (c.pixelTransfer convert y x).dstLen ≤ c.dstByte.toNat := h.writeColorSize_le
    refine ⟨fun i hi => decide_eq_true ?_, fun i hi => decide_eq_true ?_⟩
    · rw [hlen] at hi
      rw [hsrcAt, srcAt_eq hsrc hy]
      exact ⟨c.srcRow y, srcRow_lt hy, x, hx, by omega, by omega⟩
    · rw [hdstAt, dstAt_eq hdst hy]
      exact ⟨y, hy, x, hx, by omega, by omega⟩

/-- Sufficient conditions for a copy. -/
lemma Placed.copies (h : c.Placed) (hW : 0 < c.nWidth.toNat)
    (hsize : c.nHeight.toNat ≤ INT32_MAX ∧ c.nWidth.toNat ≤ INT32_MAX) (hdst : c.DstRows)
    (hsrc : c.SrcRows) (hequal : ¬(c.sameFormats = true ∧ c.TakenAsEqual))
    (hformat : c.sameFormats = true ∨ c.Writable) : c.Copies := by
  intro convert m
  have hpossible := h.possible convert hW hdst hsrc
  have hrun : Transfer.runAll c.areas (c.transfers convert) m =
      some (Transfer.applyAll (c.transfers convert) m) :=
    Transfer.runAll_eq_some_iff.mpr ⟨hpossible, rfl⟩
  refine ⟨true, _, by rw [h.run_eq hsize, hrun]; rfl, fun y hy x hx => ?_, fun a ha => ?_⟩
  · rw [← srcAt_eq hsrc hy]
    exact h.pixel_of_run hW hdst hequal hformat hrun hy hx
  · refine Transfer.applyAll_of_notMem fun t ht hmem => ha ?_
    have hwrite := (hpossible t ht).2 (a - t.dst) (by omega)
    rw [show t.dst + (a - t.dst) = a by omega] at hwrite
    exact of_decide_eq_true hwrite

end ImageCopy

end FreeRdp
