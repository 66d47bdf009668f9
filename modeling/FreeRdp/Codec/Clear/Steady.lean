import FreeRdp.Codec.Clear.Decompress

/-!
# What the parts of a message leave alone

Drawing changes the destination only, and the residual, the subcodecs and the glyphs change no more
of the context than the temporary buffer and the glyph cache. A property of the state that does not
depend on these is kept by all of them.
-/

namespace FreeRdp

open ClearState Attempt

/-- A property that does not depend on the temporary buffer, the glyph cache and the number of
allocations. -/
structure ClearSteady (I : ClearState → Prop) : Prop where
  allocate : ∀ s n, I s → I { s with allocations := n }
  temp : ∀ s buffer size, I s →
    I { s with clear := { s.clear with tempBuffer := buffer, tempSize := size } }
  glyph : ∀ s glyphs, I s → I { s with clear := { s.clear with glyphCache := glyphs } }

/-- A property that does not depend on what is drawn. -/
structure DrawSteady (I : ClearState → Prop) : Prop where
  pixel : ∀ s dst x y, I s → I { s with dst := dst, events := .pixel x y :: s.events }
  clip : ∀ s size start, I s → I { s with events := .clip size start :: s.events }

/-- A property that does not depend on the cached bars. -/
structure BarSteady (I : ClearState → Prop) : Prop where
  entry : ∀ s storage i e, I s → I { s with clear := s.clear.setEntry storage i e }
  cursors : ∀ s i j, I s →
    I { s with clear := { s.clear with vBarStorageCursor := i, shortVBarStorageCursor := j } }
  bar : ∀ s e bytes height, I s → I { s with events := .bar e bytes height :: s.events }

@[simp] lemma ClearContext.entry_setEntry (clear : ClearContext) (storage : ClearStorage) (i : Nat)
    (e : ClearVBarEntry) : (clear.setEntry storage i e).entry storage i = e := by
  cases storage <;> exact Function.update_self ..

variable {I : ClearState → Prop} {env : ClearEnv} {call : ClearCall}

/-! ### Drawing -/

section Drawing

variable (hI : DrawSteady I)

include hI

lemma keeps_drawPixel (p : PixelWrite) : (drawPixel p).Keeps I :=
  keeps_modify fun s hs => hI.pixel s _ p.x p.y hs

lemma keeps_clipSide (start size limit : Nat) : (clipSide start size limit).Keeps I :=
  keeps_ite
    (fun _ => (keeps_modify fun s hs => hI.clip s limit start hs).bind fun _ => keeps_pure _)
    fun _ => keeps_pure _

lemma keeps_convertColor (x y w h : Nat) (src : Nat → UInt8) (step format : Nat) :
    (convertColor env call x y w h src step format).Keeps I := by
  refine (keeps_clipSide hI _ _ _).bind fun nWidth => ?_
  refine (keeps_clipSide hI _ _ _).bind fun nHeight => ?_
  exact (keeps_lift _).bind fun pixels => keeps_each fun p _ => keeps_drawPixel hI p

lemma keeps_rlexPixel (width x y color : Nat) (p : Nat × Nat) :
    (rlexPixel call width x y color p).Keeps I := by
  refine Keeps.bind ?_ fun _ => keeps_pure _
  refine keeps_when fun _ => ?_
  split
  · exact keeps_drawPixel hI _
  · exact keeps_pure _

lemma keeps_clearDecompressNscodec (rect : ClearSubcodec) (x y : Nat) (s : WStream) :
    (clearDecompressNscodec env call rect x y s).Keeps I := by
  refine (keeps_require _).bind fun _ => (keeps_lift _).bind fun bitmapData => ?_
  refine (keeps_lift _).bind fun pixels => ?_
  exact (keeps_each fun p _ => keeps_drawPixel hI p).bind fun _ => keeps_pure _

lemma keeps_clearDecompressUncompressed (rect : ClearSubcodec) (x y : Nat) (s : WStream) :
    (clearDecompressUncompressed env call rect x y s).Keeps I :=
  (keeps_require _).bind fun _ => (keeps_convertColor hI _ _ _ _ _ _ _).bind fun _ => keeps_pure _

end Drawing

/-! ### RLEX bitmaps -/

section Rlex

variable {width x y : Nat} (hpixel : ∀ color p, (rlexPixel call width x y color p).Keeps I)

include hpixel

lemma keeps_rlexRun (color n : Nat) (p : Nat × Nat) :
    (rlexRun call width x y color n p).Keeps I := by
  induction n generalizing p with
  | zero => exact keeps_pure p
  | succ n ih => exact (hpixel color p).bind fun q => ih q

lemma keeps_rlexSuite (palette : List Nat) (n suiteIndex : Nat) (p : Nat × Nat) :
    (rlexSuite call width x y palette n suiteIndex p).Keeps I := by
  induction n generalizing suiteIndex p with
  | zero => exact keeps_pure p
  | succ n ih => exact (keeps_require _).bind fun _ => (hpixel _ p).bind fun q => ih _ q

lemma keeps_rlexSegment (pixelCount numBits : Nat) (palette : List Nat) (p : RlexProgress) :
    (rlexSegment call width x y pixelCount numBits palette p).Keeps I := by
  refine (keeps_require _).bind fun _ => (keeps_lift _).bind fun factor => ?_
  refine (keeps_require _).bind fun _ => (keeps_require _).bind fun _ => ?_
  refine (keeps_require _).bind fun _ => (keeps_require _).bind fun _ => ?_
  refine (keeps_rlexRun hpixel _ _ _).bind fun q => (keeps_require _).bind fun _ => ?_
  exact (keeps_rlexSuite hpixel _ _ _ _).bind fun q' => keeps_pure _

end Rlex

lemma keeps_clearDecompressSubcodeRlex {rect : ClearSubcodec} {x y : Nat}
    (hpixel : ∀ color p, (rlexPixel call rect.width x y color p).Keeps I) (s : WStream) :
    (clearDecompressSubcodeRlex env call rect x y s).Keeps I := by
  refine (keeps_require _).bind fun _ => (keeps_require _).bind fun _ => ?_
  refine (keeps_require _).bind fun _ => (keeps_require _).bind fun _ => ?_
  refine (keeps_loop (fun p => keeps_rlexSegment hpixel _ _ _ p) _ _).bind fun p => ?_
  exact (keeps_require _).bind fun _ => keeps_pure _

/-! ### The layers -/

lemma keeps_drawGlyph
    (hdraw : ∀ src step format, (convertColor env call call.nXDst.toNat call.nYDst.toNat
      call.nWidth.toNat call.nHeight.toNat src step format).Keeps I) (i : Nat) :
    (drawGlyph env call i).Keeps I := by
  refine (keeps_gets _).bind fun clear => (keeps_lift _).bind fun glyphData => ?_
  exact (keeps_require _).bind fun _ => hdraw _ _ _

section Layers

variable (hI : ClearSteady I)

include hI

lemma keeps_allocate (buffer : ClearBuffer) : (allocate env buffer).Keeps I :=
  fun s hs => hI.allocate s _ hs

lemma keeps_clearResizeBuffer (width height : Nat) :
    (clearResizeBuffer env width height).Keeps I := by
  refine (keeps_gets _).bind fun clear => keeps_when fun _ => ?_
  refine (keeps_allocate hI _).bind fun granted => (keeps_require _).bind fun _ => ?_
  exact keeps_modify fun s hs => hI.temp s s.clear.tempBuffer _ hs

lemma keeps_residualRun (pixelCount : Nat) (p : ResidualProgress) :
    (residualRun env pixelCount p).Keeps I := by
  refine (keeps_require _).bind fun _ => (keeps_lift _).bind fun factor => ?_
  refine (keeps_gets _).bind fun format => (keeps_require _).bind fun _ => ?_
  refine Keeps.bind (keeps_modify fun s hs => ?_) fun _ => keeps_pure _
  exact hI.temp s _ s.clear.tempSize hs

/-- The residual layer draws the whole area of the message. -/
lemma keeps_clearDecompressResidualData
    (hdraw : ∀ src step format, (convertColor env call call.nXDst.toNat call.nYDst.toNat
      call.nWidth.toNat call.nHeight.toNat src step format).Keeps I) (n : Nat) (s : WStream) :
    (clearDecompressResidualData env call n s).Keeps I := by
  refine (keeps_require _).bind fun _ => (keeps_clearResizeBuffer hI _ _).bind fun _ => ?_
  refine (keeps_loop (fun p => keeps_residualRun hI _ p) _ _).bind fun p => ?_
  refine (keeps_require _).bind fun _ => (keeps_gets _).bind fun clear => ?_
  exact (hdraw _ _ _).bind fun _ => keeps_pure _

lemma keeps_setGlyph (i : Nat) (f : ClearContext → ClearGlyphEntry) :
    (change fun clear => clear.setGlyph i (f clear)).Keeps I :=
  keeps_modify fun s hs => hI.glyph s _ hs

lemma keeps_reserveGlyph (i : Nat) : (reserveGlyph env call i).Keeps I := by
  refine (keeps_setGlyph hI _ _).bind fun _ => (keeps_gets _).bind fun clear => ?_
  refine Keeps.bind ?_ fun _ => ?_
  · refine keeps_when fun _ => ?_
    refine (keeps_allocate hI _).bind fun granted => (keeps_require _).bind fun _ => ?_
    exact keeps_setGlyph hI _ _
  · exact (keeps_gets _).bind fun clear => keeps_require _

lemma keeps_fillGlyph (i : Nat) : (fillGlyph env call i).Keeps I := by
  refine (keeps_gets _).bind fun state => (keeps_lift _).bind fun pixels => ?_
  exact keeps_setGlyph hI _ _

lemma keeps_clearDecompressGlyphData {flags : Nat}
    (hdraw : flags &&& CLEARCODEC_FLAG_GLYPH_HIT ≠ 0 → ∀ src step format,
      (convertColor env call call.nXDst.toNat call.nYDst.toNat call.nWidth.toNat
        call.nHeight.toNat src step format).Keeps I) (s : WStream) :
    (clearDecompressGlyphData env call flags s).Keeps I := by
  refine (keeps_require _).bind fun _ => keeps_ite (fun _ => keeps_pure _) fun _ => ?_
  refine (keeps_require _).bind fun _ => (keeps_require _).bind fun _ => ?_
  refine (keeps_require _).bind fun _ => keeps_ite (fun hhit => ?_) fun _ => ?_
  · exact (keeps_drawGlyph (hdraw (of_decide_eq_true hhit)) _).bind fun _ => keeps_pure _
  · exact (keeps_reserveGlyph hI _).bind fun _ => keeps_pure _

/-- A rectangle of the subcodecs is drawn at its place relative to the message's. -/
lemma keeps_drawSubcodec {p : Nat × WStream}
    (hrect : ∀ rect s, readSubcodec p.2 = some (rect, s) → rect.width ≤ call.nWidth.toNat →
      rect.height ≤ call.nHeight.toNat →
      (clearSubcodec env call rect ((call.nXDst.toNat + rect.xStart) % 2 ^ 32)
        ((call.nYDst.toNat + rect.yStart) % 2 ^ 32) s).Keeps I) :
    (drawSubcodec env call p).Keeps I := by
  refine keeps_lift_bind fun ⟨rect, s⟩ hread => ?_
  refine keeps_require_bind fun hwidth => keeps_require_bind fun hheight => ?_
  refine (keeps_clearResizeBuffer hI _ _).bind fun _ => ?_
  have h := hrect rect s hread (of_decide_eq_true hwidth) (of_decide_eq_true hheight)
  exact h.bind fun _ => keeps_pure _

omit hI in
lemma keeps_clearLayer {decompress : Nat → WStream → Attempt ClearState WStream} {n : Nat}
    {s : WStream} (h : n > 0 → (decompress n s).Keeps I) : (clearLayer decompress n s).Keeps I :=
  keeps_ite h fun _ => keeps_pure s

end Layers

lemma keeps_fill (hI : ClearSteady I) (glyph : Option Nat) :
    (match glyph with
      | some glyphIndex => fillGlyph env call glyphIndex
      | none => pure ()).Keeps I := by
  cases glyph with
  | some i => exact keeps_fillGlyph hI i
  | none => exact keeps_pure ()

/-! ### Bands -/

section Bands

variable (hI : ClearSteady I) (hbar : BarSteady I)

include hI hbar

lemma keeps_resizeVbarEntry (storage : ClearStorage) (i : Nat) :
    (resizeVbarEntry env storage i).Keeps I := by
  refine (keeps_gets _).bind fun clear => Keeps.bind ?_ fun _ => ?_
  · refine keeps_when fun _ => Keeps.bind (keeps_modify fun s hs => ?_) fun _ => ?_
    · exact hbar.entry s storage i _ hs
    · refine (keeps_allocate hI _).bind fun granted => (keeps_require _).bind fun _ => ?_
      exact keeps_modify fun s hs => hbar.entry s storage i _ hs
  · exact (keeps_gets _).bind fun clear => keeps_require _

lemma keeps_setCount (storage : ClearStorage) (i count : Nat) :
    (setCount env storage i count).Keeps I :=
  Keeps.bind (keeps_modify fun s hs => hbar.entry s storage i _ hs)
    fun _ => keeps_resizeVbarEntry hI hbar storage i

omit hI in
lemma keeps_writeEntryPixel (storage : ClearStorage) (i k color : Nat) :
    (writeEntryPixel storage i k color).Keeps I := by
  refine (keeps_gets _).bind fun clear => (keeps_lift _).bind fun bytes => ?_
  exact keeps_modify fun s hs => hbar.entry s storage i _ hs

omit hI in
lemma keeps_writeEntryPixels (storage : ClearStorage) (i k : Nat) (colors : List Nat) :
    (writeEntryPixels storage i k colors).Keeps I := by
  induction colors generalizing k with
  | nil => exact keeps_pure ()
  | cons color colors ih =>
    exact (keeps_writeEntryPixel hbar storage i k color).bind fun _ => ih (k + 1)

lemma keeps_storeShortBar (colors : List ClearColor) : (storeShortBar env colors).Keeps I := by
  refine (keeps_gets _).bind fun clear => (keeps_require _).bind fun _ => ?_
  refine (keeps_setCount hI hbar _ _ _).bind fun _ => ?_
  refine (keeps_writeEntryPixels hbar _ _ _ _).bind fun _ => ?_
  refine Keeps.bind (keeps_modify fun s hs => ?_) fun _ => keeps_pure _
  exact hbar.cursors s s.clear.vBarStorageCursor _ hs

lemma keeps_storeBar (band : ClearBand) (yOn i : Nat) : (storeBar env band yOn i).Keeps I := by
  refine (keeps_gets _).bind fun clear => (keeps_require _).bind fun _ => ?_
  refine (keeps_setCount hI hbar _ _ _).bind fun _ => ?_
  refine (keeps_when fun _ => keeps_writeEntryPixels hbar _ _ _ _).bind fun _ => ?_
  refine (keeps_writeEntryPixels hbar _ _ _ _).bind fun _ => ?_
  refine (keeps_writeEntryPixels hbar _ _ _ _).bind fun _ => ?_
  refine Keeps.bind (keeps_modify fun s hs => ?_) fun _ => keeps_pure _
  exact hbar.cursors _ _ s.clear.shortVBarStorageCursor (hbar.entry s .vBar _ _ hs)

lemma keeps_barEntry (band : ClearBand) (bar : ClearBar) : (barEntry env band bar).Keeps I := by
  cases bar with
  | shortHit i yOn => exact keeps_storeBar hI hbar band yOn i
  | shortMiss yOn colors =>
    exact (keeps_storeShortBar hI hbar colors).bind fun i => keeps_storeBar hI hbar band yOn i
  | hit i =>
    refine (keeps_gets _).bind fun clear => ?_
    exact (keeps_when fun _ => keeps_setCount hI hbar _ _ _).bind fun _ => keeps_pure _

omit hI hbar in
/-- An entry that has been resized has the number of pixels that was asked for. -/
lemma setCount_count (storage : ClearStorage) (i count : Nat) (s : ClearState) :
    (setCount env storage i count).Meets s
      (fun _ s' => (s'.clear.entry storage i).count = count) fun _ => True := by
  refine meets_modify_bind (meets_gets_bind (meets_bind (Q := fun _ s' =>
    (s'.clear.entry storage i).count = count) ?_ fun _ s' hs' => ?_))
  · refine meets_when (fun _ => ?_) fun _ => ?_
    · refine meets_modify_bind (meets_bind (Q := fun _ _ => True) trivial fun _ s' _ => ?_)
      exact meets_require_bind (fun _ => meets_modify (by simp)) fun _ => trivial
    · simp
  · exact meets_gets_bind (meets_require (fun _ => hs') fun _ => trivial)

/-- A bar of a band is drawn, and no more than the message's columns and rows. -/
lemma keeps_drawBar {band : ClearBand} {i : Nat}
    (hpixel : i < call.nWidth.toNat → ∀ entry format y, y < call.nHeight.toNat →
      y < band.height → (drawBarPixel env call band i entry format y).Keeps I) (bar : ClearBar) :
    (drawBar env call band i bar).Keeps I := by
  refine (keeps_barEntry hI hbar band bar).bind fun k => keeps_of_meets fun s hs => ?_
  refine meets_gets_bind (meets_bind (Q := fun _ s' => I s' ∧
    (s'.clear.entry .vBar k).count = band.height) ?_ fun _ s' hs' => ?_)
  · refine meets_when (fun _ => ?_) fun hcount => ⟨hs, not_not.mp hcount⟩
    exact ((keeps_setCount hI hbar _ _ _).meets hs).and (setCount_count _ _ _ _)
  · refine meets_when (fun hi => meets_gets_bind (meets_modify_bind ?_)) fun _ => hs'.1
    refine Keeps.meets (keeps_each fun y hy => ?_) (hbar.bar _ _ _ _ hs'.1)
    rw [hs'.2, List.mem_range, lt_min_iff] at hy
    exact hpixel hi _ _ y hy.2 hy.1

lemma keeps_drawBars {band : ClearBand} {i n : Nat}
    (hpixel : ∀ j < i + n, j < call.nWidth.toNat → ∀ entry format y, y < call.nHeight.toNat →
      y < band.height → (drawBarPixel env call band j entry format y).Keeps I) (s : WStream) :
    (drawBars env call band n i s).Keeps I := by
  induction n generalizing i s with
  | zero => exact keeps_pure s
  | succ n ih =>
    refine (keeps_lift _).bind fun ⟨bar, s⟩ => ?_
    refine (keeps_drawBar hI hbar (hpixel i (by omega)) bar).bind fun _ => ?_
    exact ih (fun j hj => hpixel j (by omega)) s

end Bands

/-! ### Properties that do not depend on drawing -/

section Undrawn

variable (hI : ClearSteady I) (hdraw : DrawSteady I)

include hI hdraw

lemma keeps_clearDecompressSubcodecsData (n : Nat) (s : WStream) :
    (clearDecompressSubcodecsData env call n s).Keeps I := by
  refine (keeps_require _).bind fun _ => ?_
  refine Keeps.bind (keeps_loop (fun p => ?_) _ _) fun p => keeps_pure _
  refine keeps_drawSubcodec hI fun rect s _ _ _ => ?_
  unfold clearSubcodec
  split
  · exact keeps_clearDecompressUncompressed hdraw rect _ _ s
  · exact keeps_clearDecompressNscodec hdraw rect _ _ s
  · exact keeps_clearDecompressSubcodeRlex (fun color p => keeps_rlexPixel hdraw _ _ _ color p) s
  · exact keeps_fail

/-- Behind the first two bytes of a message, only the bands and a reset of the cursors do more than
drawing. -/
lemma keeps_clearBody
    (hreset : ∀ s, I s → I { s with clear := { s.clear with
      vBarStorageCursor := 0, shortVBarStorageCursor := 0 } })
    (hbands : ∀ n s, (clearDecompressBandsData env call n s).Keeps I) (flags : Nat) (s : WStream) :
    (clearBody env call flags s).Keeps I := by
  have hconvert : ∀ src step format, (convertColor env call call.nXDst.toNat call.nYDst.toNat
      call.nWidth.toNat call.nHeight.toNat src step format).Keeps I :=
    fun src step format => keeps_convertColor hdraw _ _ _ _ src step format
  refine (keeps_when fun _ => keeps_modify hreset).bind fun _ => ?_
  refine (keeps_clearDecompressGlyphData hI (fun _ => hconvert) s).bind fun ⟨glyph, s⟩ => ?_
  refine keeps_ite (fun _ => keeps_require _) fun _ => ?_
  refine Keeps.bind (keeps_clearLayer fun _ => ?_) fun s => ?_
  · exact keeps_clearDecompressResidualData hI hconvert _ _
  refine (keeps_clearLayer fun _ => hbands _ _).bind fun s => ?_
  refine Keeps.bind (keeps_clearLayer fun _ => ?_) fun _ => keeps_fill hI glyph
  exact keeps_clearDecompressSubcodecsData hI hdraw _ _

end Undrawn

/-- What holds at the start of a call, and after its message if it has a number, holds after the
call. -/
lemma clearDecompress_of_message {clear : ClearContext} (hstart : ∀ n, I (call.start clear n))
    (hmessage : call.Received env →
      (clearMessage env call).Meets (call.start clear 1) (fun _ => I) I) :
    I (clearDecompress env call clear).2 := by
  unfold clearDecompress
  split
  · exact hstart 0
  rename_i hdst
  split
  · exact hstart 0
  rename_i hdstSize
  split
  · exact hstart 0
  rename_i hsize
  split
  · exact hstart 1
  rename_i hgranted
  have hmeets : (clearMessage env call).Meets (call.start clear 1) (fun _ => I) I := by
    by_cases hheader : 2 ≤ call.pSrcData.length
    · exact hmessage ⟨Option.isSome_iff_ne_none.mpr (by simpa using hdst), (not_or.mp hdstSize).1,
        (not_or.mp hdstSize).2, UInt32.not_lt.mp (not_or.mp hsize).1,
        UInt32.not_lt.mp (not_or.mp hsize).2, by simpa using hgranted, hheader⟩
    · refine meets_bind (Q := fun _ _ => False) (meets_require_bind (fun hlength => ?_)
        fun _ => hstart 1) fun _ _ h => h.elim
      exact absurd (by simpa [WStream.remainingLength, WStream.ofBytes] using hlength) hheader
  unfold Meets at hmeets
  split at hmeets <;> simp_all

end FreeRdp
