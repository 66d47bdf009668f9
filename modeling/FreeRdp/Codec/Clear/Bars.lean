import FreeRdp.Library.Runs
import FreeRdp.Codec.Clear.Steady

/-!
# The caches of bars

An entry of a cache has room for `size` pixels of the format that was in use when its memory was
allocated. The entries stay well formed as long as pixels do not get larger while there are bars in
the caches, and as long as there is memory for them.
-/

namespace FreeRdp

open ClearState Attempt

/-- An entry holds no more pixels than it has room for, with pixels of `bytes` bytes. -/
structure ClearVBarEntry.Valid (e : ClearVBarEntry) (bytes : Nat) : Prop where
  count : e.count ≤ e.size
  pixels : e.size = 0 ∨ ∃ p, e.pixels = some p ∧ e.size * bytes ≤ p.length

/-- The cursors are inside of the caches, and all entries are valid in the current format. -/
structure ClearContext.BarsValid (clear : ClearContext) : Prop where
  vBarStorageCursor : clear.vBarStorageCursor < CLEARCODEC_VBAR_SIZE
  shortVBarStorageCursor : clear.shortVBarStorageCursor < CLEARCODEC_VBAR_SHORT_SIZE
  entry : ∀ storage i, (clear.entry storage i).Valid (getBytesPerPixel clear.format)

/-- A bar that a band is drawn from has the height of the band, in pixels that are there. -/
def ClearEvent.BarComplete : ClearEvent → Prop
  | .bar e bytes height => e.Valid bytes ∧ height ≤ e.count
  | .pixel .. | .clip .. => True

/-- The caches are valid, and so were all bars that have been drawn. -/
structure ClearState.BarsValid (s : ClearState) : Prop where
  clear : s.clear.BarsValid
  events : ∀ e ∈ s.events, e.BarComplete

/-- No bar has been put into the caches. -/
def ClearContext.NoBars (clear : ClearContext) : Prop :=
  ∀ storage i, (clear.entry storage i).size = 0

/-- A call may use a context: pixels are not larger than before, unless there are no bars, and there
is memory for bars. Nothing is asked of a call that is refused before it sets the format, nor memory
of one whose number is refused. An allocation that a call does not ask for may be taken to succeed,
since nothing depends on it. -/
structure ClearBarsFit (clear : ClearContext) (env : ClearEnv) (call : ClearCall) : Prop where
  format : call.Received env → clear.NoBars ∨
    getBytesPerPixel call.dstFormat.toNat ≤ getBytesPerPixel clear.format
  granted : call.Received env → call.passesSequenceCheck clear = true →
    ∀ n, env.granted .bar n = true

variable {env : ClearEnv} {call : ClearCall} {clear : ClearContext} {s : ClearState}

/-! ### Entries -/

lemma ClearContext.entry_setEntry_of_ne {clear : ClearContext} {storage storage' : ClearStorage}
    {i j : Nat} (e : ClearVBarEntry) (h : ¬(storage' = storage ∧ j = i)) :
    (clear.setEntry storage i e).entry storage' j = clear.entry storage' j := by
  cases storage <;> cases storage' <;> simp_all [setEntry, entry]

lemma ClearContext.entry_setEntry_eq (clear : ClearContext) (storage storage' : ClearStorage)
    (i j : Nat) (e : ClearVBarEntry) :
    (clear.setEntry storage i e).entry storage' j = e ∨
      (clear.setEntry storage i e).entry storage' j = clear.entry storage' j := by
  by_cases h : storage' = storage ∧ j = i
  · rw [h.1, h.2]
    exact .inl (clear.entry_setEntry storage i e)
  · exact .inr (entry_setEntry_of_ne e h)

@[simp] lemma ClearContext.setEntry_setEntry (clear : ClearContext) (storage : ClearStorage)
    (i : Nat) (e e' : ClearVBarEntry) :
    (clear.setEntry storage i e).setEntry storage i e' = clear.setEntry storage i e' := by
  cases storage <;> simp [setEntry]

@[simp] lemma ClearContext.format_setEntry (clear : ClearContext) (storage : ClearStorage) (i : Nat)
    (e : ClearVBarEntry) : (clear.setEntry storage i e).format = clear.format := by
  cases storage <;> rfl

/-- A valid entry may be put into a cache. -/
lemma ClearContext.BarsValid.setEntry (h : clear.BarsValid) {storage : ClearStorage} {i : Nat}
    {e : ClearVBarEntry} (he : e.Valid (getBytesPerPixel clear.format)) :
    (clear.setEntry storage i e).BarsValid := by
  refine ⟨?_, ?_, fun storage' j => ?_⟩
  · cases storage <;> exact h.vBarStorageCursor
  · cases storage <;> exact h.shortVBarStorageCursor
  · rw [clear.format_setEntry]
    rcases clear.entry_setEntry_eq storage storage' i j e with hentry | hentry
    · rwa [hentry]
    · rw [hentry]
      exact h.entry storage' j

lemma length_growPixels (pixels : Option (List UInt8)) (oldPos diffSize : Nat) :
    (growPixels pixels oldPos diffSize).length = oldPos + diffSize := by
  simp [growPixels]

lemma length_patchBytes (buffer : List UInt8) (i : Nat) (bytes : List UInt8) :
    (patchBytes buffer i bytes).length = buffer.length := by
  simp only [patchBytes, List.length_take, List.length_append, List.length_drop]
  omega

/-- An entry that has been grown to its number of pixels. -/
lemma ClearVBarEntry.Valid.grow {e : ClearVBarEntry} {bytes : Nat} (h : e.size < e.count) :
    ({ e with size := e.count, pixels := some (growPixels e.pixels (e.size * bytes)
      ((e.count - e.size) * bytes)) } : ClearVBarEntry).Valid bytes := by
  refine ⟨le_rfl, .inr ⟨_, rfl, ?_⟩⟩
  have hcount : e.size + (e.count - e.size) = e.count := by omega
  rw [length_growPixels, ← Nat.add_mul, hcount]

lemma ClearVBarEntry.Valid.patch {e : ClearVBarEntry} {bytes : Nat} (h : e.Valid bytes) (i : Nat)
    (data : List UInt8) :
    ({ e with pixels := e.pixels.map (patchBytes · i data) } : ClearVBarEntry).Valid bytes := by
  refine ⟨h.count, h.pixels.imp id ?_⟩
  rintro ⟨p, hp, hlength⟩
  exact ⟨patchBytes p i data, by rw [hp]; rfl, by rwa [length_patchBytes]⟩

/-! ### Steps -/

lemma barsValid_steady : ClearSteady ClearState.BarsValid where
  allocate _ _ h := ⟨h.clear, h.events⟩
  temp _ _ _ h := ⟨⟨h.clear.1, h.clear.2, h.clear.3⟩, h.events⟩
  glyph _ _ h := ⟨⟨h.clear.1, h.clear.2, h.clear.3⟩, h.events⟩

lemma barsValid_drawSteady : DrawSteady ClearState.BarsValid where
  pixel _ _ _ _ h := ⟨h.clear, List.forall_mem_cons.mpr ⟨trivial, h.events⟩⟩
  clip _ _ _ h := ⟨h.clear, List.forall_mem_cons.mpr ⟨trivial, h.events⟩⟩

lemma ClearState.BarsValid.setEntry (h : s.BarsValid) {storage : ClearStorage} {i : Nat}
    {e : ClearVBarEntry} (he : e.Valid (getBytesPerPixel s.clear.format)) :
    ({ s with clear := s.clear.setEntry storage i e } : ClearState).BarsValid :=
  ⟨h.clear.setEntry he, h.events⟩

/-- An entry that gets a number of pixels has room for them, if there is memory. -/
lemma meets_setCount (hgranted : ∀ n, env.granted .bar n = true) (hs : s.BarsValid)
    (storage : ClearStorage) (i count : Nat) :
    (setCount env storage i count).Meets s
      (fun _ s' => s'.BarsValid ∧ count ≤ (s'.clear.entry storage i).size)
      ClearState.BarsValid := by
  have hentry := hs.clear.entry storage i
  refine meets_modify_bind (meets_gets_bind (meets_bind (Q := fun _ s' =>
    s'.BarsValid ∧ count ≤ (s'.clear.entry storage i).size) ?_ fun _ s' hs' => ?_))
  · simp only [ClearContext.entry_setEntry, ClearContext.format_setEntry]
    refine meets_when (fun hgrow => meets_modify_bind ?_) fun hgrow => ?_ <;>
      rw [ClearContext.entry_setEntry] at hgrow
    · refine meets_bind (Q := fun granted s' => granted = true ∧ s'.events = s.events ∧
        s'.clear = s.clear.setEntry storage i ⟨count, count, (s.clear.entry storage i).pixels⟩)
        ?_ ?_
      · exact ⟨hgranted _, rfl, by simp⟩
      rintro granted ⟨clear', dst, allocations, events⟩ ⟨rfl, rfl, rfl⟩
      refine meets_require_bind (fun _ => meets_modify ?_) nofun
      simp only [ClearContext.setEntry_setEntry, ClearContext.entry_setEntry, le_refl, and_true]
      exact ⟨hs.clear.setEntry (ClearVBarEntry.Valid.grow
        (e := ⟨(s.clear.entry storage i).size, count, (s.clear.entry storage i).pixels⟩) hgrow),
        hs.events⟩
    · refine ⟨hs.setEntry ⟨not_lt.mp hgrow, hentry.pixels⟩, ?_⟩
      simpa using hgrow
  · exact meets_gets_bind (meets_require (fun _ => hs') fun _ => hs'.1)

/-- Writing pixels keeps the caches valid and the sizes of all entries. -/
lemma keeps_writeEntryPixels_size (storage storage' : ClearStorage) (i j n k : Nat)
    (colors : List Nat) :
    (writeEntryPixels storage i k colors).Keeps
      (fun s => s.BarsValid ∧ n ≤ (s.clear.entry storage' j).size) := by
  induction colors generalizing k with
  | nil => exact keeps_pure ()
  | cons color colors ih =>
    refine Keeps.bind ?_ fun _ => ih (k + 1)
    refine (keeps_gets _).bind fun clear => (keeps_lift _).bind fun bytes => ?_
    refine keeps_modify fun s hs => ⟨hs.1.setEntry ((hs.1.clear.entry storage i).patch _ _), ?_⟩
    by_cases h : storage' = storage ∧ j = i
    · rw [h.1, h.2, ClearContext.entry_setEntry]
      exact h.1 ▸ h.2 ▸ hs.2
    · rw [ClearContext.entry_setEntry_of_ne _ h]
      exact hs.2

section Granted

variable (hgranted : ∀ n, env.granted .bar n = true)

include hgranted

lemma keeps_storeShortBar_valid (colors : List ClearColor) :
    (storeShortBar env colors).Keeps ClearState.BarsValid := by
  refine keeps_of_meets fun s hs => meets_gets_bind (meets_require_bind (fun _ => ?_) fun _ => hs)
  refine meets_bind (meets_setCount hgranted hs _ _ _) fun _ s' hs' => ?_
  refine meets_bind (((keeps_writeEntryPixels_size _ .shortVBar _ _ _ _ _).meets hs').mono
    (fun _ _ h => h.1) fun _ h => h.1) fun _ s' hs' => ?_
  refine meets_modify_bind (meets_pure ⟨⟨hs'.clear.vBarStorageCursor, ?_, ?_⟩, hs'.events⟩)
  · exact Nat.mod_lt _ (by decide)
  · exact hs'.clear.entry

/-- A bar that is made has the band's height. -/
lemma meets_storeBar (hs : s.BarsValid) (band : ClearBand) (yOn i : Nat) :
    (storeBar env band yOn i).Meets s (fun _ s' => s'.BarsValid) ClearState.BarsValid := by
  refine meets_gets_bind (meets_require_bind (fun _ => ?_) fun _ => hs)
  refine meets_bind (meets_setCount hgranted hs _ _ _) fun _ s' hs' => ?_
  have hwrite : ∀ k colors, (writeEntryPixels .vBar s.clear.vBarStorageCursor k colors).Keeps
      (fun s' => s'.BarsValid ∧
        band.height ≤ (s'.clear.entry .vBar s.clear.vBarStorageCursor).size) :=
    fun k colors => keeps_writeEntryPixels_size _ _ _ _ _ k colors
  refine Meets.mono (E := fun s' => s'.BarsValid ∧
    band.height ≤ (s'.clear.entry .vBar s.clear.vBarStorageCursor).size) ?_ (fun _ _ h => h)
    fun _ h => h.1
  refine meets_bind ((keeps_when fun _ => hwrite _ _).meets hs') fun _ s₁ hs₁ => ?_
  refine meets_bind ((hwrite _ _).meets hs₁) fun _ s₂ hs₂ => ?_
  refine meets_bind ((hwrite _ _).meets hs₂) fun _ s₃ hs₃ => ?_
  have hentry := @ClearContext.BarsValid.setEntry _ hs₃.1.clear .vBar s.clear.vBarStorageCursor
    { s₃.clear.entry .vBar s.clear.vBarStorageCursor with count := band.height }
    ⟨hs₃.2, (hs₃.1.clear.entry _ _).pixels⟩
  refine meets_modify_bind (meets_pure ⟨⟨Nat.mod_lt _ (by decide), ?_, ?_⟩, hs₃.1.events⟩)
  · exact hentry.shortVBarStorageCursor
  · exact hentry.entry

lemma keeps_barEntry_valid (band : ClearBand) (bar : ClearBar) :
    (barEntry env band bar).Keeps ClearState.BarsValid := by
  cases bar with
  | shortHit i yOn => exact keeps_of_meets fun s hs => meets_storeBar hgranted hs band yOn i
  | shortMiss yOn colors =>
    refine (keeps_storeShortBar_valid hgranted colors).bind fun i => ?_
    exact keeps_of_meets fun s hs => meets_storeBar hgranted hs band yOn i
  | hit i =>
    refine (keeps_gets _).bind fun clear => Keeps.bind ?_ fun _ => keeps_pure _
    refine keeps_when fun _ => keeps_of_meets fun s hs => ?_
    exact (meets_setCount hgranted hs _ _ _).mono (fun _ _ h => h.1) fun _ h => h

lemma keeps_drawBar_valid (band : ClearBand) (i : Nat) (bar : ClearBar) :
    (drawBar env call band i bar).Keeps ClearState.BarsValid := by
  refine (keeps_barEntry_valid hgranted band bar).bind fun k => keeps_of_meets fun s hs => ?_
  refine meets_gets_bind (meets_bind (Q := fun _ s' => s'.BarsValid ∧
    (s'.clear.entry .vBar k).count = band.height) ?_ fun _ s' hs' => ?_)
  · refine meets_when (fun _ => ?_) fun hcount => ⟨hs, not_not.mp hcount⟩
    refine Meets.and ?_ (setCount_count _ _ _ _)
    exact (meets_setCount hgranted hs _ _ _).mono (fun _ _ h => h.1) fun _ h => h
  · refine meets_when (fun hi => meets_gets_bind (meets_modify_bind ?_)) fun _ => hs'.1
    refine Keeps.meets (keeps_each fun y _ => ?_) ⟨hs'.1.clear, ?_⟩
    · exact (keeps_lift _).bind fun bytes => keeps_drawPixel barsValid_drawSteady _
    · exact List.forall_mem_cons.mpr ⟨⟨hs'.1.clear.entry _ _, hs'.2.ge⟩, hs'.1.events⟩

lemma keeps_clearDecompressBandsData_valid (n : Nat) (stream : WStream) :
    (clearDecompressBandsData env call n stream).Keeps ClearState.BarsValid := by
  refine (keeps_require _).bind fun _ => ?_
  refine Keeps.bind (keeps_loop (fun p => ?_) _ _) fun _ => keeps_pure _
  refine (keeps_lift _).bind fun ⟨band, stream⟩ => Keeps.bind ?_ fun _ => keeps_pure _
  generalize 0 = i
  induction band.vBarCount generalizing i stream with
  | zero => exact keeps_pure _
  | succ n ih =>
    refine (keeps_lift _).bind fun ⟨bar, stream⟩ => ?_
    exact (keeps_drawBar_valid hgranted band i bar).bind fun _ => ih stream (i + 1)

end Granted

/-! ### Sessions -/

/-- With another format the entries stay valid if its pixels are not larger. -/
lemma ClearContext.BarsValid.format (h : clear.BarsValid) {format : Nat}
    (hformat : clear.NoBars ∨ getBytesPerPixel format ≤ getBytesPerPixel clear.format) :
    ({ clear with format := format } : ClearContext).BarsValid := by
  refine ⟨h.vBarStorageCursor, h.shortVBarStorageCursor, fun storage i => ?_⟩
  have hentry := h.entry storage i
  refine ⟨hentry.count, ?_⟩
  rcases hformat with hempty | hbytes
  · exact .inl (hempty storage i)
  · refine hentry.pixels.imp id ?_
    rintro ⟨p, hp, hlength⟩
    exact ⟨p, hp, (Nat.mul_le_mul_left _ hbytes).trans hlength⟩

/-- The first two bytes of a message set the format and the sequence number. -/
lemma meets_clearHeader_valid (hs : s.BarsValid)
    (hformat : s.clear.NoBars ∨
      getBytesPerPixel call.dstFormat.toNat ≤ getBytesPerPixel s.clear.format) :
    (clearHeader call).Meets s (fun _ => ClearState.BarsValid) ClearState.BarsValid := by
  have hclear := hs.clear.format hformat
  refine meets_require_bind (fun _ => meets_modify_bind (meets_modify_bind ?_)) fun _ => hs
  generalize hs₁ : ClearState.mk _ _ _ _ = s₁
  have hvalid : s₁.BarsValid := by
    rw [← hs₁]
    refine ⟨?_, hs.events⟩
    dsimp only
    split
    · exact ⟨hclear.1, hclear.2, hclear.3⟩
    · exact hclear
  refine meets_gets_bind (meets_require_bind (fun _ => ?_) fun _ => hvalid)
  exact meets_modify_bind (meets_pure ⟨⟨hvalid.clear.1, hvalid.clear.2, hvalid.clear.3⟩,
    hvalid.events⟩)

/-- A call that may use the context keeps it valid, whatever it comes to, and draws only bars that
are complete. -/
lemma clearDecompress_barsValid (hclear : clear.BarsValid) (hfit : ClearBarsFit clear env call) :
    (clearDecompress env call clear).2.BarsValid := by
  refine clearDecompress_of_message (fun n => ⟨hclear, nofun⟩) fun hreceived => ?_
  have hheader := meets_clearHeader_valid (s := call.start clear 1) ⟨hclear, nofun⟩
    (hfit.format hreceived)
  cases hpasses : call.passesSequenceCheck clear with
  | false => exact meets_bind (hheader.of_none hpasses) fun _ _ h => h.elim
  | true =>
    refine meets_bind hheader fun ⟨flags, stream⟩ s hs => ?_
    refine Keeps.meets ?_ hs
    refine keeps_clearBody barsValid_steady barsValid_drawSteady (fun s hs => ?_)
      (keeps_clearDecompressBandsData_valid (hfit.granted hreceived hpasses)) flags stream
    exact ⟨⟨(by decide : 0 < CLEARCODEC_VBAR_SIZE), (by decide : 0 < CLEARCODEC_VBAR_SHORT_SIZE),
      hs.clear.entry⟩, hs.events⟩

lemma clearContextNew_barsValid : clearContextNew.BarsValid := by
  refine ⟨by decide, by decide, fun storage i => ?_⟩
  cases storage <;> exact ⟨le_rfl, .inl rfl⟩

/-- The condition for an action. -/
def ClearAction.BarsFit (clear : ClearContext) : ClearAction → Prop
  | .decompress env call => ClearBarsFit clear env call
  | .reset => True

/-- What an action does apart from its result. -/
def ClearAction.events (clear : ClearContext) : ClearAction → List ClearEvent
  | .decompress env call => (clearDecompress env call clear).2.events
  | .reset => []

/-- One action keeps the context valid. -/
lemma clearStep_barsValid {action : ClearAction} (hclear : clear.BarsValid)
    (hfit : action.BarsFit clear) :
    (clearStep clear action).BarsValid ∧ ∀ e ∈ action.events clear, e.BarComplete := by
  cases action with
  | decompress env call =>
    have h := clearDecompress_barsValid hclear hfit
    exact ⟨h.clear, h.events⟩
  | reset => exact ⟨⟨hclear.1, hclear.2, hclear.3⟩, nofun⟩

/-- In a session whose calls may all use the context, the caches are valid after every call, and
every bar that is drawn has the height of its band. -/
theorem clearDecompress_barsValid_run (actions : List ClearAction)
    (hfit : AlongRun clearStep ClearAction.BarsFit clearContextNew actions) :
    AlongRun clearStep (fun clear action => (clearStep clear action).BarsValid ∧
      ∀ e ∈ action.events clear, e.BarComplete) clearContextNew actions := by
  refine AlongRun.imp (fun clear action hclear haction => ?_) clearContextNew_barsValid hfit
  have h := clearStep_barsValid hclear haction
  exact ⟨h, h.1⟩

/-- A message of one band with one bar of two pixels, in a session where every allocation
succeeds. -/
def barMessage (seqNumber : UInt8) (bar : List UInt8) (dstFormat : UInt32) : ClearAction :=
  .decompress ⟨fun _ _ _ _ _ => 0, fun _ _ _ _ => 0, fun _ _ _ => none, fun _ _ => true⟩
    { pSrcData := [0, seqNumber, 0, 0, 0, 0, 11 + UInt8.ofNat bar.length, 0, 0, 0, 0, 0, 0, 0] ++
        [0, 0, 0, 0, 0, 0, 1, 0, 1, 2, 3] ++ bar
      nWidth := 1
      nHeight := 2
      pDstData := some fun _ => 0
      dstFormat := dstFormat
      nDstStep := 4
      nXDst := 0
      nYDst := 0
      nDstWidth := 1
      nDstHeight := 2 }

lemma barMessage_fits (clear : ClearContext) (n : UInt8) (bar : List UInt8) (format : UInt32)
    (h : getBytesPerPixel format.toNat ≤ getBytesPerPixel clear.format) :
    (barMessage n bar format).BarsFit clear :=
  ⟨fun _ => .inr h, fun _ _ _ => rfl⟩

/-- A bar is cached and drawn again, both times in the format BGRX32. -/
theorem clearDecompress_barsValid_bgrx32 :
    (clearStep (clearStep clearContextNew
        (barMessage 1 [0, 2, 10, 11, 12, 13, 14, 15] 0x20040888))
      (barMessage 2 [0, 0x80] 0x20040888)).BarsValid :=
  (clearDecompress_barsValid_run [barMessage 1 [0, 2, 10, 11, 12, 13, 14, 15] 0x20040888,
    barMessage 2 [0, 0x80] 0x20040888] ⟨barMessage_fits _ _ _ _ (by decide),
      barMessage_fits _ _ _ _ (by decide +kernel), trivial⟩).2.1.1

/-- A bar that is cached with pixels of two bytes is drawn with pixels of four bytes, of which its
buffer holds one. -/
theorem clearDecompress_bar_incomplete :
    ∃ e ∈ (barMessage 2 [0, 0x80] 0x20040888).events (clearStep clearContextNew
        (barMessage 1 [0, 2, 10, 11, 12, 13, 14, 15] 0x10010565)),
      ¬e.BarComplete := by
  refine ⟨.bar ⟨2, 2, some [0, 0, 0, 0]⟩ 4 2, by decide +kernel, fun h => ?_⟩
  obtain hsize | ⟨p, hp, hlength⟩ := h.1.pixels
  · exact absurd hsize (by decide)
  · cases hp
    exact absurd hlength (by decide)

end FreeRdp
