import FreeRdp.Codec.Zgfx.Basic
import FreeRdp.Library.Window

/-!
# The history of the decompressor

The ring of `zgfx.c` is a window on an unbounded history, and a read from it is a copy at a distance.
-/

namespace FreeRdp

variable {zgfx : ZgfxContext} {history : List UInt8}

/-- The history that a context knows: zeros, and what was written since. -/
def zgfxHistory (written : List UInt8) : List UInt8 :=
  List.replicate zgfxContextNew.historyBufferSize 0 ++ written

/-- The last `n` bytes. -/
def lastBytes (n : Nat) (bytes : List UInt8) : List UInt8 := bytes.drop (bytes.length - n)

/-- The ring has the last bytes of a history, the oldest one at the index. -/
structure ZgfxContext.Windows (zgfx : ZgfxContext) (history : List UInt8) : Prop where
  size_eq : zgfx.historyBufferSize = zgfxContextNew.historyBufferSize
  index_lt : zgfx.historyIndex < zgfx.historyBufferSize
  length_le : zgfx.historyBufferSize ≤ history.length
  ring_eq : ringList zgfx.historyBuffer zgfx.historyBufferSize zgfx.historyIndex
    zgfx.historyBufferSize = lastBytes zgfx.historyBufferSize history

lemma length_lastBytes {n : Nat} {bytes : List UInt8} (h : n ≤ bytes.length) :
    (lastBytes n bytes).length = n := by
  rw [lastBytes, List.length_drop]
  omega

/-- The last bytes of a history that has become longer. -/
lemma lastBytes_append {n : Nat} {bytes more : List UInt8} (h : n ≤ bytes.length) :
    lastBytes n (bytes ++ more) = lastBytes n (lastBytes n bytes ++ more) := by
  have hskip : lastBytes n bytes ++ more = (bytes ++ more).drop (bytes.length - n) := by
    rw [lastBytes, List.drop_append_of_le_length (Nat.sub_le _ _)]
  rw [hskip, lastBytes, lastBytes, List.drop_drop, List.length_drop, List.length_append]
  congr 1
  omega

/-- A window that is moved on. -/
lemma lastBytes_window {n : Nat} {window : List UInt8} (h : window.length = n)
    (more : List UInt8) : lastBytes n (window ++ more) = (window ++ more).drop more.length := by
  rw [lastBytes, List.length_append, h, Nat.add_sub_cancel_left]

/-- A window that is written over. -/
lemma lastBytes_full {n : Nat} (front : List UInt8) {window : List UInt8} (h : window.length = n) :
    lastBytes n (front ++ window) = window := by
  rw [lastBytes, List.length_append, h, Nat.add_sub_cancel, List.drop_left]

/-- Of what is written, only the last bytes matter. -/
lemma lastBytes_append_lastBytes {n : Nat} (bytes more : List UInt8) :
    lastBytes n (bytes ++ more) = lastBytes n (bytes ++ lastBytes n more) := by
  by_cases hle : more.length ≤ n
  · have hall : lastBytes n more = more := by
      rw [lastBytes, Nat.sub_eq_zero_of_le hle, List.drop_zero]
    rw [hall]
  · have hlen : (lastBytes n more).length = n := length_lastBytes (by omega)
    have hsplit : bytes ++ more = bytes ++ more.take (more.length - n) ++ lastBytes n more := by
      rw [lastBytes, List.append_assoc, List.take_append_drop]
    rw [hsplit, lastBytes_full _ hlen, lastBytes_full _ hlen]

/-! ### Writing -/

lemma zgfxContextNew_windows : zgfxContextNew.Windows (zgfxHistory []) where
  size_eq := rfl
  index_lt := by decide
  length_le := by rw [zgfxHistory, List.append_nil, List.length_replicate]
  ring_eq := by
    refine List.ext_getElem ?_ fun i hi hi' => ?_
    · rw [length_ringList, length_lastBytes]
      rw [zgfxHistory, List.append_nil, List.length_replicate]
    · rw [getElem_ringList]
      simp only [lastBytes, zgfxHistory, List.append_nil, List.getElem_drop,
        List.getElem_replicate]
      rfl

/-- At most as many bytes as the ring has are put into it. -/
lemma ZgfxContext.Windows.put (h : zgfx.Windows history) {src : List UInt8}
    (hsrc : src.length ≤ zgfx.historyBufferSize) {zgfx' : ZgfxContext}
    (hsize : zgfx'.historyBufferSize = zgfx.historyBufferSize)
    (hbuffer : zgfx'.historyBuffer =
      ringPut zgfx.historyBuffer zgfx.historyBufferSize zgfx.historyIndex src)
    (hindex : zgfx'.historyIndex =
      (zgfx.historyIndex + src.length) % zgfx.historyBufferSize) :
    zgfx'.Windows (history ++ src) where
  size_eq := hsize.trans h.size_eq
  index_lt := by
    rw [hindex, hsize]
    exact Nat.mod_lt _ (Nat.zero_lt_of_lt h.index_lt)
  length_le := by
    rw [hsize, List.length_append]
    exact Nat.le_add_right_of_le h.length_le
  ring_eq := by
    rw [hsize, hbuffer, hindex, ringList_ringPut h.index_lt hsrc, h.ring_eq,
      lastBytes_append h.length_le, lastBytes_window (length_lastBytes h.length_le)]

/-- The index after a residue was skipped has the same window, with the residue written. -/
lemma ZgfxContext.Windows.write (h : zgfx.Windows history) (src : List UInt8) :
    (zgfxHistoryBufferRingWrite zgfx src).Windows (history ++ src) := by
  have hlt := h.index_lt
  by_cases hnil : src = []
  · subst hnil
    rw [List.append_nil]
    exact h
  have hpos : src.length ≠ 0 := fun hzero => hnil (List.length_eq_zero_iff.mp hzero)
  by_cases hbig : src.length > zgfx.historyBufferSize
  · -- the whole ring is written over, from the index that the residue leads to
    have hlast : src.drop (src.length - zgfx.historyBufferSize) =
        lastBytes zgfx.historyBufferSize src := rfl
    have hlen : (lastBytes zgfx.historyBufferSize src).length = zgfx.historyBufferSize :=
      length_lastBytes hbig.le
    have hindex : (zgfx.historyIndex + (src.length - zgfx.historyBufferSize)) %
        zgfx.historyBufferSize < zgfx.historyBufferSize := Nat.mod_lt _ (by omega)
    obtain ⟨zgfx', hzgfx', hsize, hbuffer, hindex'⟩ : ∃ zgfx' : ZgfxContext,
        zgfxHistoryBufferRingWrite zgfx src = zgfx' ∧
        zgfx'.historyBufferSize = zgfx.historyBufferSize ∧
        zgfx'.historyBuffer = ringPut zgfx.historyBuffer zgfx.historyBufferSize
          ((zgfx.historyIndex + (src.length - zgfx.historyBufferSize)) % zgfx.historyBufferSize)
          (lastBytes zgfx.historyBufferSize src) ∧
        zgfx'.historyIndex = (zgfx.historyIndex + (src.length - zgfx.historyBufferSize)) %
          zgfx.historyBufferSize := by
      refine ⟨_, rfl, ?_⟩
      rw [zgfxHistoryBufferRingWrite, if_neg hpos]
      simp only [if_pos hbig, hlast, hlen, ringPut]
      split
      · refine ⟨rfl, rfl, ?_⟩
        dsimp only
        split
        · omega
        · omega
      · refine ⟨rfl, rfl, ?_⟩
        dsimp only
        omega
    rw [hzgfx']
    refine ⟨hsize.trans h.size_eq, by rwa [hindex', hsize], ?_, ?_⟩
    · rw [hsize, List.length_append]
      exact Nat.le_add_right_of_le h.length_le
    · have hround := ringList_ringPut (m := zgfx.historyBuffer) hindex hlen.le
      rw [hlen, Nat.add_mod_right, Nat.mod_mod] at hround
      rw [hsize, hbuffer, hindex', hround, lastBytes_append_lastBytes]
      have hskip : (ringList zgfx.historyBuffer zgfx.historyBufferSize
          ((zgfx.historyIndex + (src.length - zgfx.historyBufferSize)) % zgfx.historyBufferSize)
          zgfx.historyBufferSize).length = zgfx.historyBufferSize := length_ringList _ _ _ _
      rw [List.drop_left' hskip, lastBytes_full history hlen]
  · have hsmall : src.length ≤ zgfx.historyBufferSize := not_lt.mp hbig
    rw [zgfxHistoryBufferRingWrite, if_neg hpos]
    simp only [if_neg hbig]
    split
    · rename_i hpiece
      refine h.put hsmall rfl (by rw [ringPut, if_pos hpiece]) ?_
      dsimp only
      split
      · rename_i hend
        rw [hend, Nat.mod_self]
      · rw [Nat.mod_eq_of_lt (by omega)]
    · rename_i hpiece
      refine h.put hsmall rfl (by rw [ringPut, if_neg hpiece]) ?_
      dsimp only
      rw [ring_index hlt hsmall, if_neg (by omega)]
      omega

/-! ### Reading -/

/-- What has been read is doubled until it is enough. -/
lemma zgfxRepeat_eq {w : List UInt8} {fuel valid bytesLeft : Nat} (hdvd : w.length ∣ valid)
    (hvalid : 0 < valid) (hleft : 0 < bytesLeft) (hfuel : bytesLeft ≤ fuel) :
    zgfxRepeat fuel (periodic w valid) valid bytesLeft = periodic w (valid + bytesLeft) := by
  induction fuel generalizing valid bytesLeft with
  | zero => omega
  | succ fuel ih =>
    rw [zgfxRepeat]
    by_cases hlast : valid > bytesLeft
    · rw [if_pos hlast, Nat.sub_self, if_neg (lt_irrefl 0), take_periodic w hlast.le,
        ← periodic_add hdvd]
    · rw [if_neg hlast, take_periodic w le_rfl, ← periodic_add hdvd, Nat.shiftLeft_eq, pow_one,
        Nat.mul_two]
      split
      · rename_i hmore
        rw [ih (Dvd.dvd.add hdvd hdvd) (by omega) hmore (by omega)]
        congr 1
        omega
      · congr 1
        omega

/-- A read is a copy from the last `offset` bytes, repeated as often as needed. -/
lemma ZgfxContext.Windows.read (h : zgfx.Windows history) {offset count : Nat}
    (hoffset : 1 ≤ offset) (hle : offset ≤ zgfx.historyBufferSize) (hcount : count ≤ INT32_MAX) :
    zgfxHistoryBufferRingRead zgfx offset count = periodic (lastBytes offset history) count := by
  have hlt := h.index_lt
  have hsize := h.size_eq
  have hlen : (lastBytes offset history).length = offset :=
    length_lastBytes (hle.trans h.length_le)
  by_cases hzero : count = 0
  · rw [zgfxHistoryBufferRingRead, if_pos (.inl hzero), hzero]
    rfl
  have hsub : sub32 (zgfx.historyIndex + zgfx.historyBufferSize) offset =
      zgfx.historyIndex + zgfx.historyBufferSize - offset := by
    have hvalue : zgfx.historyBufferSize = 2500000 := hsize
    rw [sub32]
    omega
  have hindex : (zgfx.historyIndex + zgfx.historyBufferSize - offset) % zgfx.historyBufferSize <
      zgfx.historyBufferSize := Nat.mod_lt _ (by omega)
  -- the window that is read from
  have hwindow : ringList zgfx.historyBuffer zgfx.historyBufferSize
      ((zgfx.historyIndex + zgfx.historyBufferSize - offset) % zgfx.historyBufferSize) offset =
        lastBytes offset history := by
    rw [← drop_ringList hle, h.ring_eq, lastBytes, lastBytes, List.drop_drop]
    congr 1
    have := h.length_le
    omega
  have hread : ∀ bytes ≤ offset, (if (zgfx.historyIndex + zgfx.historyBufferSize - offset) %
      zgfx.historyBufferSize + bytes ≤ zgfx.historyBufferSize then
        readList zgfx.historyBuffer
          ((zgfx.historyIndex + zgfx.historyBufferSize - offset) % zgfx.historyBufferSize) bytes
      else readList zgfx.historyBuffer
          ((zgfx.historyIndex + zgfx.historyBufferSize - offset) % zgfx.historyBufferSize)
          (zgfx.historyBufferSize - (zgfx.historyIndex + zgfx.historyBufferSize - offset) %
            zgfx.historyBufferSize) ++
        readList zgfx.historyBuffer 0 (bytes - (zgfx.historyBufferSize -
          (zgfx.historyIndex + zgfx.historyBufferSize - offset) % zgfx.historyBufferSize))) =
      (lastBytes offset history).take bytes := by
    intro bytes hbytes
    rw [← ringList_eq_readList hindex (hbytes.trans hle), ← hwindow, ringList, ringList,
      ← List.map_take, List.take_range, Nat.min_eq_left hbytes]
  rw [zgfxHistoryBufferRingRead, if_neg (by omega)]
  simp only [hsub, hread (min count offset) (Nat.min_le_right _ _)]
  by_cases hshort : count ≤ offset
  · rw [Nat.min_eq_left hshort, Nat.sub_self, if_pos rfl, periodic_of_le (by rw [hlen]; exact hshort)]
  · rw [Nat.min_eq_right (by omega), if_neg (by omega)]
    have hall : (lastBytes offset history).take offset = periodic (lastBytes offset history) offset :=
      (periodic_of_le hlen.ge).symm
    rw [hall, zgfxRepeat_eq (by rw [hlen]) (by omega) (by omega) (by omega)]
    congr 1
    omega

/-- After any writes the ring has the last bytes of everything, and every read up to `INT32_MAX` bytes
copies at a distance. A read of more bytes writes nothing. -/
theorem zgfxHistory_window (writes : List (List UInt8)) :
    let zgfx : ZgfxContext := writes.foldl zgfxHistoryBufferRingWrite zgfxContextNew
    ringList zgfx.historyBuffer zgfx.historyBufferSize zgfx.historyIndex zgfx.historyBufferSize =
        lastBytes zgfx.historyBufferSize (zgfxHistory writes.flatten) ∧
      ∀ offset count, 1 ≤ offset → offset ≤ zgfx.historyBufferSize →
        zgfxHistoryBufferRingRead zgfx offset count =
          if count ≤ INT32_MAX then
            periodic (lastBytes offset (zgfxHistory writes.flatten)) count
          else [] := by
  intro zgfx
  have hrun : ∀ (writes : List (List UInt8)) (zgfx : ZgfxContext) (history : List UInt8),
      zgfx.Windows history →
      (writes.foldl zgfxHistoryBufferRingWrite zgfx).Windows (history ++ writes.flatten) := by
    intro writes
    induction writes with
    | nil =>
      intro zgfx history h
      rwa [List.flatten_nil, List.append_nil]
    | cons src writes ih =>
      intro zgfx history h
      rw [List.flatten_cons, ← List.append_assoc]
      exact ih _ _ (h.write src)
  have h : zgfx.Windows (zgfxHistory writes.flatten) := by
    have hwindows := hrun writes zgfxContextNew _ zgfxContextNew_windows
    rwa [zgfxHistory, List.append_nil] at hwindows
  refine ⟨h.ring_eq, fun offset count hoffset hle => ?_⟩
  split
  · exact h.read hoffset hle ‹_›
  · rename_i hcount
    rw [zgfxHistoryBufferRingRead, if_pos (.inr (not_le.mp hcount))]

/-- A read of `2 ^ 31` bytes. -/
theorem zgfxHistoryBufferRingRead_big :
    zgfxHistoryBufferRingRead zgfxContextNew 1 (2 ^ 31) ≠
      periodic (lastBytes 1 (zgfxHistory [])) (2 ^ 31) := by
  intro h
  have hlen := congrArg List.length h
  rw [zgfxHistoryBufferRingRead, if_pos (.inr (by decide)), length_periodic] at hlen
  exact absurd hlen (by decide)

end FreeRdp
