import FreeRdp.Winpr.BitStream

/-!
# What is written to a bit stream is read from it

A writer puts a list of values of given widths into a buffer and flushes the last word. A reader
attached to the same buffer takes the same widths off the front of its accumulator, one after the
other. Both are runs over the bit string of the buffer: a write sets the next window of it, a
shift moves on to the next window.
-/

namespace FreeRdp

/-- The windows of given widths that follow each other from position `p` on. -/
def windows (f : Nat → Bool) (p : Nat) : List Nat → List Nat
  | [] => []
  | n :: widths => window f p n :: windows f (p + n) widths

/-- Windows below `q` only depend on the bits below `q`. -/
lemma windows_congr {f g : Nat → Bool} {q : Nat} (h : ∀ i < q, f i = g i) {widths : List Nat} :
    ∀ {p : Nat}, p + widths.sum ≤ q → windows f p widths = windows g p widths := by
  induction widths with
  | nil => simp [windows]
  | cons n widths ih =>
    intro p hq
    rw [List.sum_cons] at hq
    rw [windows, windows, ih (by omega), window_congr fun i _ hi => h i (by omega)]

lemma bitsOf_take (bytes : List UInt8) {m i : Nat} (hi : i < 8 * m) :
    bitsOf (bytes.take m) i = bitsOf bytes i := by
  have hbyte : i / 8 < m := by omega
  simp [bitsOf, List.getElem?_take_of_lt hbyte]

namespace WBitStream

/-- One `BitStream_Write_Bits` for each value and its width. -/
def writeAll (bs : WBitStream) : List (Nat × Nat) → WBitStream
  | [] => bs
  | (bits, nbits) :: items => (bs.writeBits bits nbits).writeAll items

/-- For each width, the top bits of the accumulator and a `BitStream_Shift`. -/
def readAll (bs : WBitStream) : List Nat → List Nat
  | [] => []
  | nbits :: widths => bs.accumulator >>> (32 - nbits) :: (bs.shift nbits).readAll widths

/-- A reader takes the windows of its buffer. -/
lemma Reads.readAll {widths : List Nat} : ∀ {bs : WBitStream}, bs.Reads →
    (∀ n ∈ widths, 0 < n ∧ n < 32) →
    bs.readAll widths = windows (bitsOf bs.buffer) bs.position widths := by
  induction widths with
  | nil =>
    intro bs _ _
    rfl
  | cons n widths ih =>
    intro bs h hwidth
    obtain ⟨hn0, hn⟩ := hwidth n List.mem_cons_self
    obtain ⟨hreads, hbuffer, hposition⟩ := h.shift hn0 hn
    have hrest := ih hreads fun m hm => hwidth m (List.mem_cons_of_mem n hm)
    rw [WBitStream.readAll, windows, hrest, hbuffer, hposition, Nat.shiftRight_eq_div_pow,
      h.accumulator_div hn.le]

/-- A writer sets one window after the other and keeps what stands before them. -/
lemma Wrote.writeAll {items : List (Nat × Nat)} : ∀ {bs : WBitStream} {f : Nat → Bool},
    bs.Wrote f → (∀ item ∈ items, 0 < item.2 ∧ item.2 < 32 ∧ item.1 < 2 ^ item.2) →
    ∃ g, (bs.writeAll items).Wrote g ∧ (∀ i < bs.position, g i = f i) ∧
      windows g bs.position (items.map Prod.snd) = items.map Prod.fst ∧
      (bs.writeAll items).position = bs.position + (items.map Prod.snd).sum ∧
      (bs.writeAll items).buffer.length = bs.buffer.length := by
  induction items with
  | nil =>
    intro bs f h _
    exact ⟨f, h, fun _ _ => rfl, rfl, rfl, rfl⟩
  | cons item items ih =>
    intro bs f h hitems
    obtain ⟨v, n⟩ := item
    obtain ⟨hn0, hn, hv⟩ := hitems (v, n) List.mem_cons_self
    obtain ⟨hwrote, hposition, hlength⟩ := h.writeBits hn0 hn hv
    obtain ⟨g, hg, hold, hvalues, hend, hbuffer⟩ :=
      ih hwrote fun item hitem => hitems item (List.mem_cons_of_mem _ hitem)
    rw [hposition] at hold hvalues hend
    refine ⟨g, hg, fun i hi => ?_, ?_, ?_, hbuffer.trans hlength⟩
    · -- before the window nothing changes
      rw [hold i (by omega), setBits_of_lt hi]
    · -- the later writes leave the first window as it is
      have hfirst : window g bs.position n = v := by
        rw [window_congr fun i _ hi => hold i hi, window_setBits hv]
      simp [windows, hfirst, hvalues]
    · simp only [List.map_cons, List.sum_cons]
      rw [← Nat.add_assoc]
      exact hend

/-- The flushed buffer holds the bits that were written. -/
lemma Wrote.bitsOf_flush_of_lt {bs : WBitStream} {f : Nat → Bool} (h : bs.Wrote f)
    (hfit : bs.position ≤ 8 * bs.buffer.length) {i : Nat} (hi : i < bs.position) :
    bitsOf bs.flush.buffer i = f i := by
  have hbytes : (bs.position + 7) / 8 ≤ bs.buffer.length := by omega
  rw [← h.bitsOf_flush hbytes, bitsOf_take _ (by omega)]

/-- Values that fit into the buffer are read as they were written, whatever their widths and
wherever they stand to the words of the buffer and to its end. -/
theorem readAll_writeAll (buffer : List UInt8) (items : List (Nat × Nat))
    (hwidth : ∀ item ∈ items, 1 ≤ item.2 ∧ item.2 ≤ 31)
    (hvalue : ∀ item ∈ items, item.1 < 2 ^ item.2)
    (hfit : (items.map Prod.snd).sum ≤ 8 * buffer.length) :
    (attach ((attach buffer).writeAll items).flush.buffer).fetch.readAll (items.map Prod.snd) =
      items.map Prod.fst := by
  have hitems : ∀ item ∈ items, 0 < item.2 ∧ item.2 < 32 ∧ item.1 < 2 ^ item.2 := by
    intro item hitem
    obtain ⟨hn0, hn⟩ := hwidth item hitem
    exact ⟨by omega, by omega, hvalue item hitem⟩
  obtain ⟨g, hwrote, -, hvalues, hposition, hlength⟩ := (wrote_attach buffer).writeAll hitems
  have hstart : (attach buffer).position = 0 := rfl
  rw [hstart, Nat.zero_add] at hposition
  have hsame : ∀ i < (items.map Prod.snd).sum,
      bitsOf ((attach buffer).writeAll items).flush.buffer i = g i := by
    intro i hi
    apply hwrote.bitsOf_flush_of_lt
    · rw [hposition, hlength]
      exact hfit
    · rw [hposition]
      exact hi
  have hwidths : ∀ n ∈ items.map Prod.snd, 0 < n ∧ n < 32 := by
    intro n hn
    obtain ⟨item, hitem, rfl⟩ := List.mem_map.mp hn
    exact (hitems item hitem).imp_right And.left
  have hread := (reads_attach ((attach buffer).writeAll items).flush.buffer).readAll hwidths
  rw [hread, ← hvalues]
  exact windows_congr hsame (by simp [attach, fetch, doPrefetch])

/-- Seven bytes, with values across both words, the last of them up to the last bit. -/
theorem readAll_writeAll_mixed :
    (attach ((attach (List.replicate 7 0xFF)).writeAll
      [(5, 3), (0x12345678, 31), (0, 1), (0x15555, 17), (9, 4)]).flush.buffer).fetch.readAll
      [3, 31, 1, 17, 4] = [5, 0x12345678, 0, 0x15555, 9] :=
  readAll_writeAll (List.replicate 7 0xFF)
    [(5, 3), (0x12345678, 31), (0, 1), (0x15555, 17), (9, 4)] (by decide) (by decide) (by decide)

end WBitStream

end FreeRdp
