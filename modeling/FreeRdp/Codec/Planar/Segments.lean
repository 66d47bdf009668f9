import FreeRdp.Codec.Planar.Basic
import FreeRdp.Library.Strided
import Mathlib.Data.List.GetD

/-!
# Segments

What the bytes of a plane mean: rows of segments, which stand for symbols, and symbols, which stand
for pixels. `planar_skip_plane_rle` accepts exactly such bytes, and both decoders write their pixels.
-/

namespace FreeRdp

/-- Raw symbols, and a run of the last one. -/
structure PlanarSegment where
  raw : List UInt8
  run : Nat

namespace PlanarSegment

/-- The last symbol of a segment after the symbol `p`. -/
def last (p : UInt8) (s : PlanarSegment) : UInt8 := s.raw.getLastD p

/-- The number of symbols. -/
def width (s : PlanarSegment) : Nat := s.raw.length + s.run

end PlanarSegment

/-- The symbols of segments after the symbol `p`. -/
def expandSegments (p : UInt8) : List PlanarSegment → List UInt8
  | [] => []
  | s :: segments =>
    s.raw ++ List.replicate s.run (s.last p) ++ expandSegments (s.last p) segments

/-- `SegmentsOf w src segments rest`: the source starts with `segments`, which are `w` symbols
together, and goes on with `rest`. -/
inductive SegmentsOf : Nat → List UInt8 → List PlanarSegment → List UInt8 → Prop
  | done (src : List UInt8) : SegmentsOf 0 src [] src
  | segment {w : Nat} {controlByte : UInt8} {s : PlanarSegment} {segments : List PlanarSegment}
    {src rest : List UInt8} (hw : 0 < w)
    (hcontrol : planarControlCounts controlByte = (s.raw.length, s.run)) (hwidth : s.width ≤ w)
    (hrest : SegmentsOf (w - s.width) src segments rest) :
    SegmentsOf w (controlByte :: s.raw ++ src) (s :: segments) rest

/-- `RowsOf w h src rows rest`: the source starts with `h` rows of `w` symbols. -/
inductive RowsOf (w : Nat) : Nat → List UInt8 → List (List UInt8) → List UInt8 → Prop
  | nil (src : List UInt8) : RowsOf w 0 src [] src
  | cons {h : Nat} {src mid rest : List UInt8} {segments : List PlanarSegment}
    {rows : List (List UInt8)} (hrow : SegmentsOf w src segments mid)
    (hrows : RowsOf w h mid rows rest) :
    RowsOf w (h + 1) src (expandSegments 0 segments :: rows) rest

/-- The pixel for a symbol at `x`, below a row of pixels. -/
def planarValue (above : Option (Nat → UInt8)) (x : Nat) (symbol : UInt8) : UInt8 :=
  match above with
  | none => symbol
  | some above => above x + planarDelta symbol

/-- The pixels for symbols from `x` on. -/
def planarValues (above : Option (Nat → UInt8)) : Nat → List UInt8 → List UInt8
  | _, [] => []
  | x, symbol :: symbols => planarValue above x symbol :: planarValues above (x + 1) symbols

/-- The rows of pixels for rows of symbols, below a row of pixels. -/
def planeValues : Option (List UInt8) → List (List UInt8) → List (List UInt8)
  | _, [] => []
  | above, symbols :: rows =>
    let values := planarValues (above.map fun row x => row.getD x 0) 0 symbols
    values :: planeValues (some values) rows

/-! ### Lengths -/

lemma SegmentsOf.length_expand {w : Nat} {src rest : List UInt8} {segments : List PlanarSegment}
    (h : SegmentsOf w src segments rest) (p : UInt8) : (expandSegments p segments).length = w := by
  induction h generalizing p with
  | done src => rfl
  | @segment w _ s _ _ _ hw _ hwidth _ ih =>
    rw [PlanarSegment.width] at hwidth ih
    simp only [expandSegments, List.length_append, List.length_replicate, ih]
    omega

lemma SegmentsOf.exists_append {w : Nat} {src rest : List UInt8} {segments : List PlanarSegment}
    (h : SegmentsOf w src segments rest) :
    ∃ bytes, src = bytes ++ rest ∧ SegmentsOf w bytes segments [] := by
  induction h with
  | done src => exact ⟨[], rfl, .done []⟩
  | @segment w controlByte s segments src rest hw hcontrol hwidth _ ih =>
    obtain ⟨bytes, rfl, hbytes⟩ := ih
    exact ⟨controlByte :: s.raw ++ bytes, by simp, .segment hw hcontrol hwidth hbytes⟩

/-- What stands behind the segments does not matter. -/
lemma SegmentsOf.append {w : Nat} {src rest : List UInt8} {segments : List PlanarSegment}
    (h : SegmentsOf w src segments rest) (tail : List UInt8) :
    SegmentsOf w (src ++ tail) segments (rest ++ tail) := by
  induction h with
  | done src => exact .done (src ++ tail)
  | segment hw hcontrol hwidth _ ih =>
    rw [List.append_assoc]
    exact .segment hw hcontrol hwidth ih

lemma RowsOf.exists_append {w h : Nat} {src rest : List UInt8} {rows : List (List UInt8)}
    (hrows : RowsOf w h src rows rest) :
    ∃ bytes, src = bytes ++ rest ∧ RowsOf w h bytes rows [] := by
  induction hrows with
  | nil src => exact ⟨[], rfl, .nil []⟩
  | cons hrow _ ih =>
    obtain ⟨bytes, rfl, hbytes⟩ := ih
    obtain ⟨first, rfl, hfirst⟩ := hrow.exists_append
    exact ⟨first ++ bytes, (List.append_assoc _ _ _).symm, .cons (hfirst.append bytes) hbytes⟩

lemma RowsOf.append {w h : Nat} {src rest : List UInt8} {rows : List (List UInt8)}
    (hrows : RowsOf w h src rows rest) (tail : List UInt8) :
    RowsOf w h (src ++ tail) rows (rest ++ tail) := by
  induction hrows with
  | nil src => exact .nil (src ++ tail)
  | cons hrow _ ih => exact .cons (hrow.append tail) ih

lemma RowsOf.length_rows {w h : Nat} {src rest : List UInt8} {rows : List (List UInt8)}
    (hrows : RowsOf w h src rows rest) : rows.length = h := by
  induction hrows with
  | nil src => rfl
  | cons _ _ ih => rw [List.length_cons, ih]

lemma RowsOf.length_row {w h : Nat} {src rest : List UInt8} {rows : List (List UInt8)}
    (hrows : RowsOf w h src rows rest) : ∀ row ∈ rows, row.length = w := by
  induction hrows with
  | nil src => exact fun row hrow => absurd hrow List.not_mem_nil
  | cons hrow _ ih => exact List.forall_mem_cons.mpr ⟨hrow.length_expand 0, ih⟩

@[simp] lemma length_planarValues (above : Option (Nat → UInt8)) (x : Nat) (symbols : List UInt8) :
    (planarValues above x symbols).length = symbols.length := by
  induction symbols generalizing x with
  | nil => rfl
  | cons symbol symbols ih => rw [planarValues, List.length_cons, ih, List.length_cons]

lemma planarValues_append (above : Option (Nat → UInt8)) (x : Nat) (xs ys : List UInt8) :
    planarValues above x (xs ++ ys) =
      planarValues above x xs ++ planarValues above (x + xs.length) ys := by
  induction xs generalizing x with
  | nil => rfl
  | cons symbol xs ih =>
    rw [List.cons_append, planarValues, ih, planarValues, List.cons_append, List.length_cons,
      Nat.add_right_comm, Nat.add_assoc]

lemma length_planeValues (above : Option (List UInt8)) (rows : List (List UInt8)) :
    (planeValues above rows).length = rows.length := by
  induction rows generalizing above with
  | nil => rfl
  | cons symbols rows ih => rw [planeValues, List.length_cons, ih, List.length_cons]

lemma length_of_mem_planeValues {w : Nat} {above : Option (List UInt8)} {rows : List (List UInt8)}
    (h : ∀ row ∈ rows, row.length = w) : ∀ row ∈ planeValues above rows, row.length = w := by
  induction rows generalizing above with
  | nil => exact fun row hrow => absurd hrow List.not_mem_nil
  | cons symbols rows ih =>
    obtain ⟨hfirst, hrest⟩ := List.forall_mem_cons.mp h
    exact List.forall_mem_cons.mpr ⟨(length_planarValues _ _ _).trans hfirst, ih hrest⟩

/-! ### Measuring -/

/-- The counts of a control byte are small. -/
lemma planarControlCounts_le (controlByte : UInt8) :
    (planarControlCounts controlByte).1 ≤ 15 ∧ (planarControlCounts controlByte).2 ≤ 47 := by
  have hrun : controlByte.toNat &&& 0x0F ≤ 15 := Nat.and_le_right
  have hraw : controlByte.toNat >>> 4 &&& 0x0F ≤ 15 := Nat.and_le_right
  simp only [planarControlCounts]
  split
  · exact ⟨Nat.zero_le _, by omega⟩
  · split
    · exact ⟨Nat.zero_le _, by omega⟩
    · exact ⟨hraw, by omega⟩

/-- A row that was accepted consists of segments. The sums do not wrap in a source of this size. -/
lemma planarSkipRow_ok {src : List UInt8} {w fuel used x used' : Nat}
    (hsrc : src.length + 16 ≤ 2 ^ 32) (hw : w + 64 ≤ 2 ^ 32) (hx : x ≤ w) (hused : used ≤ src.length)
    (h : planarSkipRow src w fuel used x = .ok used') :
    used' ≤ src.length ∧
      ∃ segments, SegmentsOf (w - x) (src.drop used) segments (src.drop used') := by
  induction fuel generalizing used x with
  | zero => cases h
  | succ fuel ih =>
    rw [planarSkipRow] at h
    split at h
    · rename_i hlt
      split at h
      · cases h
      · rename_i hin
        rw [not_le] at hin
        have hle := planarControlCounts_le (src.getD used 0)
        rcases hcounts : planarControlCounts (src.getD used 0) with ⟨cRawBytes, nRunLength⟩
        rw [hcounts] at h hle
        dsimp only at h hle
        rw [Nat.mod_eq_of_lt (by omega : used + 1 + cRawBytes < 2 ^ 32),
          Nat.mod_eq_of_lt (by omega : x + cRawBytes + nRunLength < 2 ^ 32)] at h
        split at h
        · cases h
        · split at h
          · cases h
          · obtain ⟨hused', segments, hsegments⟩ := ih (by omega) (by omega) h
            refine ⟨hused', ⟨(src.drop (used + 1)).take cRawBytes, nRunLength⟩ :: segments, ?_⟩
            have hraw : ((src.drop (used + 1)).take cRawBytes).length = cRawBytes := by
              rw [List.length_take, List.length_drop]
              omega
            have hsplit : src.drop used = src.getD used 0 ::
                (src.drop (used + 1)).take cRawBytes ++ src.drop (used + 1 + cRawBytes) := by
              have hrest : src.drop (used + 1 + cRawBytes) =
                  (src.drop (used + 1)).drop cRawBytes := List.drop_drop.symm
              rw [List.drop_eq_getElem_cons hin, List.getD_eq_getElem _ _ hin, List.cons_append,
                hrest, List.take_append_drop]
            rw [hsplit]
            refine SegmentsOf.segment (s := ⟨(src.drop (used + 1)).take cRawBytes, nRunLength⟩)
              (by omega) (by rw [hcounts, hraw]) ?_ ?_
            · rw [PlanarSegment.width, hraw]
              dsimp only
              omega
            · rw [PlanarSegment.width, hraw, Nat.sub_sub, ← Nat.add_assoc]
              exact hsegments
    · cases h
      exact ⟨hused, [], by rw [Nat.sub_eq_zero_of_le (by omega)]; exact .done _⟩

/-- Segments are accepted, with fuel for each of their bytes. -/
lemma SegmentsOf.planarSkipRow {src tail rest : List UInt8} {segments : List PlanarSegment}
    {w v fuel used x : Nat} (hsrc : src.length + 16 ≤ 2 ^ 32) (hw : w + 64 ≤ 2 ^ 32)
    (hsegments : SegmentsOf v tail segments rest) (htail : tail = src.drop used)
    (hused : used ≤ src.length) (hv : x + v = w) (hfuel : tail.length < fuel) :
    planarSkipRow src w fuel used x = .ok (src.length - rest.length) := by
  induction hsegments generalizing used x fuel with
  | done tail =>
    obtain ⟨fuel, rfl⟩ := Nat.exists_eq_add_of_le' (Nat.one_le_of_lt hfuel)
    rw [FreeRdp.planarSkipRow, if_neg (by omega), htail, List.length_drop]
    congr
    omega
  | @segment v controlByte s segments tail rest hpos hcontrol hwidth _ ih =>
    obtain ⟨fuel, rfl⟩ := Nat.exists_eq_add_of_le' (Nat.one_le_of_lt hfuel)
    have hlength := congrArg List.length htail
    simp only [List.cons_append, List.length_cons, List.length_append, List.length_drop] at hlength
    have hin : used < src.length := by omega
    rw [List.drop_eq_getElem_cons hin, List.cons_append, List.cons.injEq] at htail
    obtain ⟨hbyte, htail⟩ := htail
    have hle := planarControlCounts_le controlByte
    rw [hcontrol] at hle
    rw [PlanarSegment.width] at hwidth ih
    simp only [List.cons_append, List.length_cons, List.length_append] at hfuel
    rw [FreeRdp.planarSkipRow, if_pos (by omega), if_neg (by omega), List.getD_eq_getElem _ _ hin,
      ← hbyte, hcontrol]
    dsimp only
    rw [Nat.mod_eq_of_lt (by omega : used + 1 + s.raw.length < 2 ^ 32),
      Nat.mod_eq_of_lt (by omega : x + s.raw.length + s.run < 2 ^ 32), if_neg (by omega),
      if_neg (by omega)]
    refine ih ?_ (by omega) (by omega) (by omega)
    rw [← List.drop_drop, ← htail, List.drop_left]

/-- A plane that was accepted consists of rows. -/
lemma planarSkipRows_ok {src : List UInt8} {w h fuel used used' : Nat}
    (hsrc : src.length + 16 ≤ 2 ^ 32) (hw : w + 64 ≤ 2 ^ 32) (hused : used ≤ src.length)
    (hskip : planarSkipRows src w fuel h used = .ok used') :
    used' ≤ src.length ∧ ∃ rows, RowsOf w h (src.drop used) rows (src.drop used') := by
  induction h generalizing used with
  | zero =>
    cases hskip
    exact ⟨hused, [], .nil _⟩
  | succ h ih =>
    rw [planarSkipRows] at hskip
    rcases hrow : planarSkipRow src w fuel used 0 with e | mid
    · rw [hrow] at hskip
      cases hskip
    · rw [hrow] at hskip
      obtain ⟨hmid, segments, hsegments⟩ := planarSkipRow_ok hsrc hw (Nat.zero_le _) hused hrow
      obtain ⟨hused', rows, hrows⟩ := ih hmid hskip
      exact ⟨hused', _, .cons hsegments hrows⟩

lemma RowsOf.planarSkipRows {src tail rest : List UInt8} {rows : List (List UInt8)}
    {w h fuel used : Nat} (hsrc : src.length + 16 ≤ 2 ^ 32) (hw : w + 64 ≤ 2 ^ 32)
    (hrows : RowsOf w h tail rows rest) (htail : tail = src.drop used) (hused : used ≤ src.length)
    (hfuel : src.length < fuel) :
    planarSkipRows src w fuel h used = .ok (src.length - rest.length) := by
  induction hrows generalizing used with
  | nil tail =>
    rw [FreeRdp.planarSkipRows, htail, List.length_drop]
    congr
    omega
  | @cons h tail mid rest segments rows hrow _ ih =>
    have htailLength : tail.length ≤ src.length := by
      rw [htail, List.length_drop]
      omega
    obtain ⟨bytes, hbytes, -⟩ := hrow.exists_append
    have hmid := congrArg List.length hbytes
    rw [List.length_append] at hmid
    rw [FreeRdp.planarSkipRows, hrow.planarSkipRow hsrc hw htail hused (Nat.zero_add w) (by omega)]
    refine ih ?_ (Nat.sub_le _ _)
    have hdrop : used + bytes.length = src.length - mid.length := by
      rw [htail, List.length_drop] at hmid
      omega
    rw [← hdrop, ← List.drop_drop, ← htail, hbytes, List.drop_left]

end FreeRdp
