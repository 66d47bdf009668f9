import FreeRdp.Codec.ImageCopy.Placed

/-!
# Images that do not overlap

What is copied between rectangles that share no bytes depends on the offsets of the rows, on whether
the overlap test takes source and destination to be the same, and on whether there is a first pixel
to convert.
-/

namespace FreeRdp

namespace ImageCopy

variable {c : ImageCopy} {y : Nat} {m : Memory} {a : Nat}

/-! ### What is not copied -/

/-- A memory with one byte set. -/
def oneByte (a : Nat) : Memory := fun i => if i = a then 1 else 0

lemma getD_readList {n : Nat} (hn : 0 < n) : (readList m a n).getD 0 0 = m a := by
  obtain ⟨k, rfl⟩ : ∃ k, n = k + 1 := ⟨n - 1, by omega⟩
  rfl

lemma Placed.dstPixel_ne (h : c.Placed) {y' : Nat} (hy : y < c.nHeight.toNat)
    (hy' : y' < c.nHeight.toNat) (hW : 0 < c.nWidth.toNat) : c.srcPixel 0 y' ≠ c.dstPixel 0 y := by
  intro heq
  have hsrc := h.srcByte_pos
  have hdst := h.dstByte_pos
  refine h.disjoint (c.srcPixel 0 y') ⟨y', hy', 0, hW, le_rfl, by omega⟩ ?_
  exact ⟨y, hy, 0, hW, heq.ge, by omega⟩

/-- If a byte of the destination is left as it was, nothing is copied to it. -/
lemma Placed.not_copies_of_unchanged (h : c.Placed) (hW : 0 < c.nWidth.toNat)
    (hy : y < c.nHeight.toNat) (hunchanged : ∀ convert m ok m',
      freerdpImageCopy c.areas convert c m = some (ok, m') →
        m' (c.dstPixel 0 y) = m (c.dstPixel 0 y)) : ¬c.Copies := by
  intro hcopies
  -- the byte is set, and nothing that is copied has its first byte set
  obtain ⟨ok, m', hrun, hpixels, -⟩ := hcopies (fun _ => 0) (oneByte (c.dstPixel 0 y))
  have hpixel := hpixels y hy 0 hW
  have hfirst := getD_readList (m := m') (a := c.dstPixel 0 y) h.dstByte_pos
  rw [hunchanged _ _ _ _ hrun, oneByte, if_pos rfl] at hfirst
  rw [targetPixel] at hpixel
  split at hpixel
  · have hsource := getD_readList (m := oneByte (c.dstPixel 0 y)) (a := c.srcPixel 0 (c.srcRow y))
      h.srcByte_pos
    rw [Option.some.inj hpixel, hfirst, oneByte, if_neg (h.dstPixel_ne hy (srcRow_lt hy) hW)]
      at hsource
    exact absurd hsource (by decide)
  · rw [writeColorBytes_zero hpixel] at hfirst
    exact absurd hfirst (by decide)

/-- Rows of the destination that do not all have their offsets leave the last one as it was. -/
lemma Placed.dstRows_of_copies (h : c.Placed) (hW : 0 < c.nWidth.toNat)
    (hsize : c.nHeight.toNat ≤ INT32_MAX ∧ c.nWidth.toNat ≤ INT32_MAX) (hcopies : c.Copies) :
    c.DstRows := by
  intro y hy
  by_contra hoffset
  set last := c.nHeight.toNat - 1 with hlast
  have hle : ∀ y < c.nHeight.toNat, (c.nYDst.toNat + y) * c.dstStep.toNat ≤
      (c.nYDst.toNat + last) * c.dstStep.toNat := fun y hy =>
    Nat.mul_le_mul_right _ (by omega)
  have hwrap : 2 ^ 32 ≤ (c.nYDst.toNat + last) * c.dstStep.toNat := by
    by_contra hfits
    exact hoffset (dstLine_eq (lt_of_le_of_lt (hle y hy) (not_le.mp hfits)))
  have hwide := h.dst_wide
  rw [Nat.add_mul] at hwide
  have hstep := c.dstStep.toNat_lt
  refine h.not_copies_of_unchanged hW (y := last) (by omega) (fun convert m ok m' hrun => ?_) hcopies
  rw [h.run_eq hsize, Option.map_eq_some_iff] at hrun
  obtain ⟨m'', hrun, heq⟩ := hrun
  obtain ⟨-, rfl⟩ := Transfer.runAll_eq_some_iff.mp hrun
  obtain rfl : Transfer.applyAll (c.transfers convert) m = m' := congrArg Prod.snd heq
  refine Transfer.applyAll_of_notMem fun t ht hmem => ?_
  obtain ⟨y', hy', hstart, hend⟩ := h.mem_row hW ht
  have hstart := hstart.trans hmem.1
  have hend := lt_of_lt_of_le hmem.2 hend
  rw [dstAt, dstLine, rowOffset_one, Nat.add_zero] at hstart hend
  rw [dstPixel, Nat.add_zero] at hstart hend
  have hrow := hle y' hy'
  rcases Nat.lt_or_ge ((c.nYDst.toNat + y') * c.dstStep.toNat) (2 ^ 32) with hlt | hge
  · -- a row above the last one
    rw [Nat.mod_eq_of_lt hlt] at hend
    have hlt' : y' + 1 ≤ last := by
      by_contra hnot
      rw [show y' = last by omega] at hlt
      omega
    have hnext : (c.nYDst.toNat + y' + 1) * c.dstStep.toNat ≤
        (c.nYDst.toNat + last) * c.dstStep.toNat := Nat.mul_le_mul_right _ (by omega)
    rw [Nat.succ_mul] at hnext
    omega
  · -- a row whose offset wraps around is more than `2 ^ 32` above
    have hmod : (c.nYDst.toNat + y') * c.dstStep.toNat % 2 ^ 32 + 2 ^ 32 ≤
        (c.nYDst.toNat + y') * c.dstStep.toNat := by
      omega
    omega

/-- A row of the source that does not have its offset is copied from elsewhere. -/
lemma Placed.srcRows_of_copies (h : c.Placed) (hW : 0 < c.nWidth.toNat)
    (hsize : c.nHeight.toNat ≤ INT32_MAX ∧ c.nWidth.toNat ≤ INT32_MAX) (hdst : c.DstRows)
    (hequal : ¬(c.sameFormats = true ∧ c.TakenAsEqual))
    (hformat : c.sameFormats = true ∨ c.Writable) (hcopies : c.Copies) : c.SrcRows := by
  intro y hy
  by_contra hoffset
  have hne : c.srcAt y 0 ≠ c.srcPixel 0 (c.srcRow y) := by
    rw [srcAt, srcPixel]
    omega
  -- the first byte of the right pixel is set, and the conversion tells its colour from all others
  set m := oneByte (c.srcPixel 0 (c.srcRow y)) with hm
  set bytes := readList m (c.srcPixel 0 (c.srcRow y)) c.srcByte.toNat with hbytes
  set bytes' := readList m (c.srcAt y 0) c.srcByte.toNat with hbytes'
  have hfirst : bytes.getD 0 0 = 1 := by
    rw [hbytes, getD_readList h.srcByte_pos, hm, oneByte, if_pos rfl]
  have hfirst' : bytes'.getD 0 0 = 0 := by
    rw [hbytes', getD_readList h.srcByte_pos, hm, oneByte, if_neg hne]
  obtain ⟨ok, m', hrun, hpixels, -⟩ := hcopies
    (fun color => if color = readColorBytes c.srcFormat.toNat bytes then 0xFFFFFFFF else 0) m
  rw [h.run_eq hsize, Option.map_eq_some_iff] at hrun
  obtain ⟨m'', hrun, heq⟩ := hrun
  obtain rfl : m'' = m' := congrArg Prod.snd heq
  have hpixel := (hpixels y hy 0 hW).trans (h.pixel_of_run hW hdst hequal hformat hrun hy hW).symm
  rw [← hbytes, ← hbytes', targetPixel, targetPixel] at hpixel
  split at hpixel
  · rw [Option.some.inj hpixel, hfirst'] at hfirst
    exact absurd hfirst (by decide)
  · have hcolor : readColorBytes c.srcFormat.toNat bytes' ≠
        readColorBytes c.srcFormat.toNat bytes := fun hcolor => by
      rw [readColorBytes_first h.src_format hcolor, hfirst] at hfirst'
      exact absurd hfirst' (by decide)
    rw [if_pos rfl, if_neg hcolor] at hpixel
    obtain ⟨target, htarget⟩ := exists_writeColorBytes (hformat.resolve_left ‹_›) 0
    have hzero := writeColorBytes_zero htarget
    rw [writeColorBytes_ones (hpixel.trans htarget)] at hzero
    exact absurd hzero (by decide)

/-- When the pixels of a rectangle are copied to another one that shares no bytes with it. -/
lemma Placed.copies_iff (h : c.Placed) (hW : 0 < c.nWidth.toNat) (hH : 0 < c.nHeight.toNat) :
    c.Copies ↔ (c.nHeight.toNat ≤ INT32_MAX ∧ c.nWidth.toNat ≤ INT32_MAX) ∧
      (c.sameFormats = true ∨ c.Writable) ∧ c.DstRows ∧ c.SrcRows ∧
      ¬(c.sameFormats = true ∧ c.TakenAsEqual) := by
  constructor
  · intro hcopies
    have hsize : c.nHeight.toNat ≤ INT32_MAX ∧ c.nWidth.toNat ≤ INT32_MAX := by
      by_contra hsize
      refine h.not_copies_of_unchanged hW hH (fun convert m ok m' hrun => ?_) hcopies
      rw [freerdpImageCopy, if_pos (by omega)] at hrun
      obtain rfl : m = m' := congrArg Prod.snd (Option.some.inj hrun)
      rfl
    have hequal : ¬(c.sameFormats = true ∧ c.TakenAsEqual) := by
      rintro ⟨hsame, hequal⟩
      refine h.not_copies_of_unchanged hW hH (fun convert m ok m' hrun => ?_) hcopies
      rw [h.run_eq hsize, transfers, if_pos hsame, rowOrder_of_equal hequal] at hrun
      obtain rfl : m = m' := congrArg Prod.snd (Option.some.inj hrun)
      rfl
    have hformat : c.sameFormats = true ∨ c.Writable := by
      by_contra hformat
      rw [not_or] at hformat
      obtain ⟨ok, m', -, hpixels, -⟩ := hcopies id fun _ => 0
      have hpixel := hpixels 0 hH 0 hW
      rw [targetPixel, if_neg hformat.1] at hpixel
      exact hformat.2 (writable_of_writeColorBytes hpixel)
    have hdst := h.dstRows_of_copies hW hsize hcopies
    exact ⟨hsize, hformat, hdst, h.srcRows_of_copies hW hsize hdst hequal hformat hcopies, hequal⟩
  · rintro ⟨hsize, hformat, hdst, hsrc, hequal⟩
    exact h.copies hW hsize hdst hsrc hequal hformat

/-! ### Rows from the top -/

lemma dstRows_iff (hH : 0 < c.nHeight.toNat) :
    c.DstRows ↔ (c.nYDst.toNat + (c.nHeight.toNat - 1)) * c.dstStep.toNat < 2 ^ 32 := by
  constructor
  · intro h
    have hlast := h (c.nHeight.toNat - 1) (by omega)
    rw [dstLine, rowOffset_one, Nat.add_left_cancel_iff] at hlast
    exact (Nat.mod_eq_iff_lt (by decide)).mp hlast
  · intro hlt y hy
    exact dstLine_eq (lt_of_le_of_lt (Nat.mul_le_mul_right _ (by omega)) hlt)

lemma srcRows_iff (hH : 0 < c.nHeight.toNat) (hflip : c.vSrcVFlip = false) :
    c.SrcRows ↔ (c.nYSrc.toNat + (c.nHeight.toNat - 1)) * c.srcStep.toNat < 2 ^ 32 := by
  have hrow : ∀ y, c.srcRow y = y := fun y => by
    rw [srcRow, hflip, if_neg Bool.false_ne_true]
  constructor
  · intro h
    have hlast := h (c.nHeight.toNat - 1) (by omega)
    rw [hrow, srcLine, hflip, if_neg Bool.false_ne_true, rowOffset_one,
      Nat.add_left_cancel_iff] at hlast
    exact (Nat.mod_eq_iff_lt (by decide)).mp hlast
  · intro hlt y hy
    rw [hrow]
    exact srcLine_eq hflip (lt_of_le_of_lt (Nat.mul_le_mul_right _ (by omega)) hlt)

/-- Without pixels nothing may be touched. -/
lemma Placed.copies_iff_of_empty (h : c.Placed)
    (hempty : c.nWidth.toNat = 0 ∨ c.nHeight.toNat = 0) :
    c.Copies ↔ c.sameFormats = true ∨ c.nHeight.toNat = 0 ∨ INT32_MAX < c.nHeight.toNat := by
  constructor
  · intro hcopies
    by_contra hnot
    simp only [not_or, not_lt] at hnot
    obtain ⟨hsame, hH, hheight⟩ := hnot
    have hW := hempty.resolve_right hH
    obtain ⟨ok, m', hrun, -⟩ := hcopies id fun _ => 0
    rw [h.run_eq ⟨hheight, by omega⟩, Option.map_eq_some_iff] at hrun
    obtain ⟨m'', hrun, -⟩ := hrun
    -- the first pixel of the first row is read all the same
    have hfirst : c.pixelTransfer id 0 0 ∈ c.transfers id := by
      rw [transfers, if_neg hsame]
      refine List.mem_flatMap.mpr ⟨0, List.mem_range.mpr (by omega), ?_⟩
      exact List.mem_map_of_mem (List.mem_range.mpr (by omega))
    have hpos : 0 < readColorSize c.srcFormat.toNat := by
      rw [h.readColorSize_eq]
      exact h.srcByte_pos
    have hread := ((Transfer.runAll_eq_some_iff.mp hrun).1 _ hfirst).1 0 hpos
    obtain ⟨y, -, x, hx, -⟩ := of_decide_eq_true hread
    omega
  · intro hcond convert m
    have hpixels : ∀ y < c.nHeight.toNat, ∀ x < c.nWidth.toNat, False := fun y hy x hx => by omega
    by_cases hsize : c.nHeight.toNat ≤ INT32_MAX ∧ c.nWidth.toNat ≤ INT32_MAX
    · have htransfers : ∀ t ∈ c.transfers convert, t.srcLen = 0 ∧ t.dstLen = 0 := by
        intro t ht
        rw [transfers] at ht
        split at ht
        · obtain ⟨y, hy, rfl⟩ := List.mem_map.mp ht
          have hW : (c.nWidth * c.dstByte).toNat = 0 := by
            rw [UInt32.toNat_mul, hempty.resolve_right (by have := lt_of_mem_rowOrder hy; omega),
              Nat.zero_mul, Nat.zero_mod]
          exact ⟨hW, hW⟩
        · obtain ⟨y, hy, -⟩ := List.mem_flatMap.mp ht
          rw [List.mem_range] at hy
          rcases hcond with hsame | hH | hheight
          · exact absurd hsame ‹_›
          · omega
          · omega
      have hrun : Transfer.runAll c.areas (c.transfers convert) m =
          some (Transfer.applyAll (c.transfers convert) m) := by
        refine Transfer.runAll_eq_some_iff.mpr ⟨fun t ht => ⟨fun i hi => ?_, fun i hi => ?_⟩, rfl⟩
        · rw [(htransfers t ht).1] at hi
          exact absurd hi (Nat.not_lt_zero i)
        · rw [(htransfers t ht).2] at hi
          exact absurd hi (Nat.not_lt_zero i)
      refine ⟨true, _, by rw [h.run_eq hsize, hrun]; rfl, fun y hy x hx => (hpixels y hy x hx).elim,
        fun a _ => Transfer.applyAll_of_notMem fun t ht hmem => ?_⟩
      rw [(htransfers t ht).2] at hmem
      omega
    · refine ⟨false, m, ?_, fun y hy x hx => (hpixels y hy x hx).elim, fun a _ => rfl⟩
      rw [freerdpImageCopy, if_pos (by omega)]

/-- Nothing is to be copied, and no first pixel is converted. -/
def CopiesNothing (c : ImageCopy) : Prop :=
  (c.nWidth.toNat = 0 ∨ c.nHeight.toNat = 0) ∧
    (c.sameFormats = true ∨ c.nHeight.toNat = 0 ∨ INT32_MAX < c.nHeight.toNat)

/-- There are pixels, the sizes are not refused, the format of the destination is supported, its rows
have `UINT32` offsets, and source and destination are not taken to be the same. -/
structure CopiesPixels (c : ImageCopy) : Prop where
  width_pos : 0 < c.nWidth.toNat
  height_pos : 0 < c.nHeight.toNat
  size : c.nHeight.toNat ≤ INT32_MAX ∧ c.nWidth.toNat ≤ INT32_MAX
  format : c.sameFormats = true ∨ c.Writable
  dst : (c.nYDst.toNat + (c.nHeight.toNat - 1)) * c.dstStep.toNat < 2 ^ 32
  src : (c.nYSrc.toNat + (c.nHeight.toNat - 1)) * c.srcStep.toNat < 2 ^ 32
  unequal : ¬(c.sameFormats = true ∧ c.TakenAsEqual)

/-- The source ends in front of the memory of the destination. -/
lemma placed_of_le (hdst : c.pDstData ≠ 0) (hsrc : c.pSrcData ≠ 0)
    (hdstFormat : getBitsPerPixel c.dstFormat.toNat ∈ [32, 24, 16, 15, 8, 4, 1])
    (hsrcFormat : getBitsPerPixel c.srcFormat.toNat ∈ [32, 24, 16, 15, 8, 4, 1])
    (hdstWide : (c.nXDst.toNat + c.nWidth.toNat) * c.dstByte.toNat ≤ c.dstStep.toNat)
    (hsrcWide : (c.nXSrc.toNat + c.nWidth.toNat) * c.srcByte.toNat ≤ c.srcStep.toNat)
    (hle : c.pSrcData + (c.nYSrc.toNat + c.nHeight.toNat) * c.srcStep.toNat ≤ c.pDstData) :
    c.Placed := by
  refine ⟨hdst, hsrc, hdstFormat, hsrcFormat, hdstWide, hsrcWide, ?_⟩
  rintro a ⟨y, hy, x, hx, -, hlt⟩ ⟨y', -, x', -, hstart, -⟩
  rw [srcPixel] at hlt
  rw [dstPixel] at hstart
  have hpixel : (c.nXSrc.toNat + x) * c.srcByte.toNat + c.srcByte.toNat ≤ c.srcStep.toNat := by
    rw [← Nat.succ_mul]
    exact (Nat.mul_le_mul_right _ (by omega)).trans hsrcWide
  have hrow : (c.nYSrc.toNat + y) * c.srcStep.toNat + c.srcStep.toNat ≤
      (c.nYSrc.toNat + c.nHeight.toNat) * c.srcStep.toNat := by
    rw [← Nat.succ_mul]
    exact Nat.mul_le_mul_right _ (by omega)
  omega

/-- Four rows of three pixels of an image with 32 bits for each, for one with 16 bits. -/
def window (nYSrc flags : UInt32) : ImageCopy where
  pDstData := 0x8000
  dstFormat := UInt32.ofNat PIXEL_FORMAT_RGB16
  nDstStep := 20
  nXDst := 2
  nYDst := 3
  nWidth := 3
  nHeight := 4
  pSrcData := 0x1000
  srcFormat := UInt32.ofNat PIXEL_FORMAT_BGRA32
  nSrcStep := 64
  nXSrc := 5
  nYSrc := nYSrc
  flags := flags

/-- A row of an image with pixels of 32 bits, for the first row of another one. -/
def blit (pDstData : Nat) (dstFormat nWidth nYSrc flags : UInt32) : ImageCopy where
  pDstData := pDstData
  dstFormat := dstFormat
  nDstStep := 4
  nXDst := 0
  nYDst := 0
  nWidth := nWidth
  nHeight := 1
  pSrcData := 0x1000
  srcFormat := 0x20048888
  nSrcStep := 4
  nXSrc := 0
  nYSrc := nYSrc
  flags := flags

lemma placed_blit {pDstData : Nat} {dstFormat nWidth nYSrc flags : UInt32}
    (hformat : getBitsPerPixel dstFormat.toNat = 32) (hW : nWidth.toNat ≤ 1)
    (hdata : 0x1000 + (nYSrc.toNat + 1) * 4 ≤ pDstData) :
    (blit pDstData dstFormat nWidth nYSrc flags).Placed := by
  have hdstByte : (blit pDstData dstFormat nWidth nYSrc flags).dstByte = 4 := by
    show UInt32.ofNat ((getBitsPerPixel dstFormat.toNat + 7) / 8) = 4
    rw [hformat]
    rfl
  have hsrcByte : (blit pDstData dstFormat nWidth nYSrc flags).srcByte = 4 := by
    show UInt32.ofNat (getBytesPerPixel (0x20048888 : UInt32).toNat) = 4
    decide
  have hsrcFormat : getBitsPerPixel (0x20048888 : UInt32).toNat ∈ [32, 24, 16, 15, 8, 4, 1] := by
    decide
  refine placed_of_le ?_ (Nat.succ_ne_zero _) ?_ hsrcFormat ?_ ?_ hdata
  · show pDstData ≠ 0
    omega
  · show getBitsPerPixel dstFormat.toNat ∈ _
    rw [hformat]
    exact List.mem_cons_self
  · rw [hdstByte]
    show (0 + nWidth.toNat) * 4 ≤ 4
    omega
  · rw [hsrcByte]
    show (0 + nWidth.toNat) * 4 ≤ 4
    omega

/-- When a copy between rectangles that share no bytes is right. -/
theorem copies_iff_of_upright (h : c.Placed) (hflip : c.vSrcVFlip = false) :
    c.Copies ↔ c.CopiesNothing ∨ c.CopiesPixels := by
  by_cases hempty : c.nWidth.toNat = 0 ∨ c.nHeight.toNat = 0
  · have hpixels : ¬c.CopiesPixels := fun hp => by
      have hW := hp.width_pos
      have hH := hp.height_pos
      omega
    rw [h.copies_iff_of_empty hempty, CopiesNothing, and_iff_right hempty]
    exact (or_iff_left hpixels).symm
  · have hW : 0 < c.nWidth.toNat := by omega
    have hH : 0 < c.nHeight.toNat := by omega
    rw [h.copies_iff hW hH, dstRows_iff hH, srcRows_iff hH hflip, CopiesNothing]
    constructor
    · rintro ⟨hsize, hformat, hdst, hsrc, hequal⟩
      exact Or.inr ⟨hW, hH, hsize, hformat, hdst, hsrc, hequal⟩
    · rintro (⟨hnone, -⟩ | hp)
      · exact absurd hnone hempty
      · exact ⟨hp.size, hp.format, hp.dst, hp.src, hp.unequal⟩

/-- Rows behind the first one are copied, to another place in their rows. -/
theorem copies_iff_of_upright_window : (window 1 0).Copies := by
  have hplaced : (window 1 0).Placed :=
    placed_of_le (by decide) (by decide) (by decide) (by decide) (by decide) (by decide) (by decide)
  exact (copies_iff_of_upright hplaced (by decide)).mpr
    (Or.inr ⟨by decide, by decide, by decide, by decide, by decide, by decide, by decide⟩)

/-- A pixel is not copied to the memory right behind it, and no pixels are copied to another format
by reading and writing one. -/
theorem not_copies_of_upright :
    ((blit 0x1004 0x20048888 1 0 0).Placed ∧ (blit 0x1004 0x20048888 1 0 0).vSrcVFlip = false ∧
      ¬(blit 0x1004 0x20048888 1 0 0).Copies) ∧
    (blit 0x2000 0x20018888 0 0 0).Placed ∧ (blit 0x2000 0x20018888 0 0 0).vSrcVFlip = false ∧
      ¬(blit 0x2000 0x20018888 0 0 0).Copies := by
  have htouching : (blit 0x1004 0x20048888 1 0 0).Placed :=
    placed_blit (by decide) (by decide) (by decide)
  have hempty : (blit 0x2000 0x20018888 0 0 0).Placed :=
    placed_blit (by decide) (by decide) (by decide)
  refine ⟨⟨htouching, by decide, fun h => ?_⟩, hempty, by decide, fun h => ?_⟩
  · have hequal := ((htouching.copies_iff (by decide) (by decide)).mp h).2.2.2.2
    exact hequal ⟨by decide, by decide, rfl, rfl⟩
  · exact absurd ((hempty.copies_iff_of_empty (Or.inl rfl)).mp h) (by decide)

/-! ### Rows from the bottom -/

/-- The offset of a row from the bottom misses the right one by twice the offset of the rectangle. -/
lemma srcLine_flip (hflip : c.vSrcVFlip = true) (hy : y < c.nHeight.toNat) :
    ∃ offset : Nat, c.srcLine y = c.pSrcData + offset ∧
      (offset : Int) = ((c.nYSrc.toNat + c.srcRow y) * c.srcStep.toNat : Nat) -
        2 * (c.nYSrc.toNat * c.srcStep.toNat : Nat) - 2 ^ 32 *
          ((((c.nYSrc.toNat + c.srcRow y) * c.srcStep.toNat : Nat) -
            2 * (c.nYSrc.toNat * c.srcStep.toNat : Nat) : Int) / 2 ^ 32) := by
  refine ⟨_, by rw [srcLine, if_pos hflip], ?_⟩
  rw [rowOffset_neg, ← Int.emod_def, srcRow, if_pos hflip]
  congr 1
  push_cast [show y ≤ c.nHeight.toNat - 1 by omega, show 1 ≤ c.nHeight.toNat by omega]
  ring

/-- The rows from the bottom are the right ones only if the rectangle begins at the top of the source,
or half of all offsets below it. -/
lemma srcRows_iff_of_flip (hH : 0 < c.nHeight.toNat) (hflip : c.vSrcVFlip = true) :
    c.SrcRows ↔ (c.nYSrc.toNat + (c.nHeight.toNat - 1)) * c.srcStep.toNat < 2 ^ 32 ∧
      2 * (c.nYSrc.toNat * c.srcStep.toNat) % 2 ^ 32 = 0 := by
  have hrow : ∀ y, c.srcRow y = c.nHeight.toNat - 1 - y := fun y => by
    rw [srcRow, if_pos hflip]
  constructor
  · intro h
    obtain ⟨offset, hline, hoffset⟩ := srcLine_flip hflip hH
    have hfirst := h 0 hH
    rw [hrow, Nat.sub_zero] at hfirst hoffset
    generalize (c.nYSrc.toNat + (c.nHeight.toNat - 1)) * c.srcStep.toNat = first at *
    generalize c.nYSrc.toNat * c.srcStep.toNat = start at *
    omega
  · rintro ⟨hlt, hstart⟩ y hy
    obtain ⟨offset, hline, hoffset⟩ := srcLine_flip hflip hy
    have hle : (c.nYSrc.toNat + c.srcRow y) * c.srcStep.toNat ≤
        (c.nYSrc.toNat + (c.nHeight.toNat - 1)) * c.srcStep.toNat := by
      rw [hrow]
      exact Nat.mul_le_mul_right _ (by omega)
    generalize (c.nYSrc.toNat + c.srcRow y) * c.srcStep.toNat = row at *
    generalize (c.nYSrc.toNat + (c.nHeight.toNat - 1)) * c.srcStep.toNat = first at *
    generalize c.nYSrc.toNat * c.srcStep.toNat = start at *
    omega

/-- When a copy from the bottom to the top is right. -/
theorem copies_iff_of_flip (h : c.Placed) (hflip : c.vSrcVFlip = true)
    (hW : 0 < c.nWidth.toNat) (hH : 0 < c.nHeight.toNat) :
    c.Copies ↔ c.CopiesPixels ∧ 2 * (c.nYSrc.toNat * c.srcStep.toNat) % 2 ^ 32 = 0 := by
  rw [h.copies_iff hW hH, dstRows_iff hH, srcRows_iff_of_flip hH hflip]
  constructor
  · rintro ⟨hsize, hformat, hdst, ⟨hsrc, hstart⟩, hequal⟩
    exact ⟨⟨hW, hH, hsize, hformat, hdst, hsrc, hequal⟩, hstart⟩
  · rintro ⟨hp, hstart⟩
    exact ⟨hp.size, hp.format, hp.dst, ⟨hp.src, hstart⟩, hp.unequal⟩

/-- The first four rows of an image are copied, the last one of them first. -/
theorem copies_iff_of_flip_window : (window 0 1).Copies := by
  have hplaced : (window 0 1).Placed :=
    placed_of_le (by decide) (by decide) (by decide) (by decide) (by decide) (by decide) (by decide)
  exact (copies_iff_of_flip hplaced (by decide) (by decide) (by decide)).mpr
    ⟨⟨by decide, by decide, by decide, by decide, by decide, by decide, by decide⟩, by decide⟩

/-- The second row of an image is not copied. -/
theorem not_copies_of_flip : (blit 0x2000 0x20018888 1 1 1).Placed ∧
    (blit 0x2000 0x20018888 1 1 1).vSrcVFlip = true ∧ ¬(blit 0x2000 0x20018888 1 1 1).Copies := by
  have hplaced : (blit 0x2000 0x20018888 1 1 1).Placed :=
    placed_blit (by decide) (by decide) (by decide)
  refine ⟨hplaced, by decide, fun h => ?_⟩
  have hrows := ((hplaced.copies_iff (by decide) (by decide)).mp h).2.2.2.1
  exact absurd ((srcRows_iff_of_flip (by decide) (by decide)).mp hrows).2 (by decide)

end ImageCopy

end FreeRdp
