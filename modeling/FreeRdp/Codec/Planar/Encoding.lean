import FreeRdp.Codec.Planar.Decoding

/-!
# Encoding planes

The encoder splits a row into segments. Which bytes it writes does not depend on the size of the
output buffer, only whether it writes them; they stand for the symbols of the row.
-/

namespace FreeRdp

/-- `Encodes p symbols bytes`: after the symbol `p`, the bytes are segments with these symbols. -/
inductive Encodes : UInt8 → List UInt8 → List UInt8 → Prop
  | nil (p : UInt8) : Encodes p [] []
  | segment {p controlByte : UInt8} {raw symbols bytes : List UInt8} {run : Nat}
    (hcontrol : planarControlCounts controlByte = (raw.length, run)) (hpos : 0 < raw.length + run)
    (hrest : Encodes (raw.getLastD p) symbols bytes) :
    Encodes p (raw ++ List.replicate run (raw.getLastD p) ++ symbols) (controlByte :: raw ++ bytes)

/-- A run does not change the last symbol. -/
lemma getLastD_append_replicate (p : UInt8) (raw : List UInt8) (n : Nat) :
    (raw ++ List.replicate n (raw.getLastD p)).getLastD p = raw.getLastD p := by
  rcases n with _ | n
  · rw [List.replicate_zero, List.append_nil]
  · rw [List.replicate_succ', ← List.append_assoc, List.getLastD_concat]

lemma getLastD_append_list (p : UInt8) (xs ys : List UInt8) :
    (xs ++ ys).getLastD p = ys.getLastD (xs.getLastD p) := by
  induction ys using List.reverseRecOn with
  | nil => rw [List.append_nil, List.getLastD_nil]
  | append_singleton ys y _ => rw [← List.append_assoc, List.getLastD_concat, List.getLastD_concat]

namespace Encodes

lemma append {p : UInt8} {xs ys a b : List UInt8} (h : Encodes p xs a)
    (h' : Encodes (xs.getLastD p) ys b) : Encodes p (xs ++ ys) (a ++ b) := by
  induction h with
  | nil p => exact h'
  | @segment p controlByte raw symbols bytes run hcontrol hpos hrest ih =>
    rw [getLastD_append_list, getLastD_append_replicate] at h'
    rw [List.append_assoc _ symbols, List.append_assoc _ bytes]
    exact .segment hcontrol hpos (ih h')

/-- One segment. -/
lemma single {p controlByte : UInt8} {raw : List UInt8} {run : Nat}
    (hcontrol : planarControlCounts controlByte = (raw.length, run)) (hpos : 0 < raw.length + run) :
    Encodes p (raw ++ List.replicate run (raw.getLastD p)) (controlByte :: raw) := by
  simpa using segment hcontrol hpos (.nil _)

lemma ne_nil {p : UInt8} {symbols bytes : List UInt8} (h : Encodes p symbols bytes)
    (hne : symbols ≠ []) : bytes ≠ [] := by
  cases h with
  | nil => exact hne
  | segment => exact List.cons_ne_nil _ _

/-- A segment has at least a symbol for its control byte. -/
lemma length_le {p : UInt8} {symbols bytes : List UInt8} (h : Encodes p symbols bytes) :
    bytes.length ≤ 2 * symbols.length := by
  induction h with
  | nil p => exact le_rfl
  | segment _ hpos _ ih =>
    simp only [List.cons_append, List.length_cons, List.length_append, List.length_replicate]
    omega

/-- The decoders find the segments again. -/
lemma segmentsOf {p : UInt8} {symbols bytes : List UInt8} (h : Encodes p symbols bytes) :
    ∃ segments, SegmentsOf symbols.length bytes segments [] ∧
      expandSegments p segments = symbols := by
  induction h with
  | nil p => exact ⟨[], .done [], rfl⟩
  | @segment p controlByte raw symbols bytes run hcontrol hpos hrest ih =>
    obtain ⟨segments, hsegments, hexpand⟩ := ih
    refine ⟨⟨raw, run⟩ :: segments, ?_, ?_⟩
    · refine SegmentsOf.segment (s := ⟨raw, run⟩) ?_ hcontrol ?_ ?_
      · simp only [List.length_append, List.length_replicate]
        omega
      · simp only [PlanarSegment.width, List.length_append, List.length_replicate]
        omega
      · simp only [PlanarSegment.width, List.length_append, List.length_replicate]
        rwa [Nat.add_sub_cancel_left]
    · rw [expandSegments, PlanarSegment.last, hexpand]

end Encodes

/-! ### Segments are written -/

/-- The counts of a control byte are those it was made of. -/
lemma planarControlCounts_planarControlByte {nRunLength cRawBytes : Nat} (hrun : nRunLength < 16)
    (hraw : cRawBytes < 16) :
    planarControlCounts (planarControlByte nRunLength cRawBytes) =
      if nRunLength = 1 then (0, cRawBytes + 16)
      else if nRunLength = 2 then (0, cRawBytes + 32)
      else (cRawBytes, nRunLength) := by
  have hall : ∀ run < 16, ∀ raw < 16, planarControlCounts (planarControlByte run raw) =
      if run = 1 then (0, raw + 16) else if run = 2 then (0, raw + 32) else (raw, run) := by
    decide
  exact hall nRunLength hrun cRawBytes hraw

lemma planarControlByte_shiftRight {nRunLength cRawBytes : Nat} (hrun : nRunLength < 16)
    (hraw : cRawBytes < 16) : (planarControlByte nRunLength cRawBytes).toNat >>> 4 = cRawBytes := by
  have hall : ∀ run < 16, ∀ raw < 16, (planarControlByte run raw).toNat >>> 4 = raw := by decide
  exact hall nRunLength hrun cRawBytes hraw

/-- A run that is written is empty, or long enough not to be taken for a form of long runs. -/
def PlanarRun (n : Nat) : Prop := n = 0 ∨ 3 ≤ n

/-- A control byte of the second loop takes a part of the run. -/
lemma planarRunControl_spec {n : Nat} (hn : 3 ≤ n) :
    ∃ run, planarControlCounts (planarRunControl n).1 = (0, run) ∧ 0 < run ∧
      run + (planarRunControl n).2 = n ∧ PlanarRun (planarRunControl n).2 := by
  have h45 : planarControlCounts (planarControlByte 2 13) = (0, 45) := by decide
  have h47 : planarControlCounts (planarControlByte 2 15) = (0, 47) := by decide
  rw [planarRunControl]
  split
  · split
    · exact ⟨45, h45, by omega, by dsimp only; omega, .inr (by dsimp only; omega)⟩
    · exact ⟨47, h47, by omega, by dsimp only; omega, .inr (by dsimp only; omega)⟩
  · split
    · refine ⟨n, ?_, by omega, rfl, .inl rfl⟩
      rw [planarControlCounts_planarControlByte (by omega) (by omega), if_neg (by omega), if_pos rfl,
        Nat.sub_add_cancel (by omega)]
    · split
      · refine ⟨n, ?_, by omega, rfl, .inl rfl⟩
        rw [planarControlCounts_planarControlByte (by omega) (by omega), if_pos rfl,
          Nat.sub_add_cancel (by omega)]
      · refine ⟨n, ?_, by omega, rfl, .inl rfl⟩
        rw [planarControlCounts_planarControlByte (by omega) (by omega), if_neg (by omega),
          if_neg (by omega)]

/-- The second loop writes a run. -/
lemma planarWriteRun_spec {fuel n : Nat} (hfuel : n ≤ fuel) (hn : PlanarRun n) (p : UInt8) :
    ∃ bytes, Encodes p (List.replicate n p) bytes ∧ ∀ size, planarWriteRun fuel n size =
      if bytes.length ≤ size then some bytes else none := by
  induction fuel generalizing n with
  | zero =>
    obtain rfl : n = 0 := by omega
    exact ⟨[], .nil p, fun size => rfl⟩
  | succ fuel ih =>
    rcases hn with rfl | hn
    · exact ⟨[], .nil p, fun size => rfl⟩
    · obtain ⟨run, hcontrol, hpos, hsum, hrest⟩ := planarRunControl_spec hn
      obtain ⟨bytes, hbytes, hwrite⟩ := ih (by omega) hrest
      refine ⟨(planarRunControl n).1 :: bytes, ?_, fun size => ?_⟩
      · have hsymbols : List.replicate n p =
            [] ++ List.replicate run p ++ List.replicate (planarRunControl n).2 p := by
          rw [List.nil_append, ← List.replicate_add, hsum]
        rw [hsymbols]
        exact .segment hcontrol (by simpa using hpos) hbytes
      · rw [planarWriteRun, if_neg (by omega)]
        dsimp only
        rw [hwrite, List.length_cons]
        split
        · rw [if_neg (by omega)]
        · by_cases hle : bytes.length ≤ size - 1
          · rw [if_pos hle, if_pos (by omega)]
          · rw [if_neg hle, if_neg (by omega)]

/-- A control byte of the first loop takes raw bytes, the last one also a part of the run. -/
lemma planarRawControl_spec {cRawBytes nRunLength : Nat} (hpos : 0 < cRawBytes)
    (hn : PlanarRun nRunLength) :
    ∃ raw run, planarControlCounts (planarRawControl cRawBytes nRunLength).1 = (raw, run) ∧
      (planarRawControl cRawBytes nRunLength).1.toNat >>> 4 = raw ∧ 0 < raw ∧
      raw + (planarRawControl cRawBytes nRunLength).2.1 = cRawBytes ∧
      run + (planarRawControl cRawBytes nRunLength).2.2 = nRunLength ∧
      PlanarRun (planarRawControl cRawBytes nRunLength).2.2 ∧
      ((planarRawControl cRawBytes nRunLength).2.1 ≠ 0 → run = 0) := by
  have hspec : ∀ run raw, run < 16 → raw < 16 → PlanarRun run →
      planarControlCounts (planarControlByte run raw) = (raw, run) ∧
        (planarControlByte run raw).toNat >>> 4 = raw := by
    intro run raw hrun hraw hplanar
    rw [PlanarRun] at hplanar
    refine ⟨?_, planarControlByte_shiftRight hrun hraw⟩
    rw [planarControlCounts_planarControlByte hrun hraw, if_neg (by omega), if_neg (by omega)]
  rw [planarRawControl, PlanarRun]
  rw [PlanarRun] at hn
  split
  · split
    · split
      · obtain ⟨hcounts, hshift⟩ := hspec 13 cRawBytes (by omega) (by omega) (.inr (by omega))
        exact ⟨cRawBytes, 13, hcounts, hshift, hpos, rfl, by dsimp only; omega,
          by dsimp only; omega, fun h => absurd rfl h⟩
      · obtain ⟨hcounts, hshift⟩ := hspec 15 cRawBytes (by omega) (by omega) (.inr (by omega))
        exact ⟨cRawBytes, 15, hcounts, hshift, hpos, rfl, by dsimp only; omega,
          by dsimp only; omega, fun h => absurd rfl h⟩
    · obtain ⟨hcounts, hshift⟩ := hspec nRunLength cRawBytes (by omega) (by omega) hn
      exact ⟨cRawBytes, nRunLength, hcounts, hshift, hpos, rfl, rfl, .inl rfl,
        fun h => absurd rfl h⟩
  · obtain ⟨hcounts, hshift⟩ := hspec 0 15 (by omega) (by omega) (.inl rfl)
    exact ⟨15, 0, hcounts, hshift, by omega, by dsimp only; omega, Nat.zero_add _, hn, fun _ => rfl⟩

/-- The first loop writes raw bytes, and a part of the run after them. -/
lemma planarWriteRaw_spec {fuel n : Nat} {raw : List UInt8} (rest : List UInt8)
    (hfuel : raw.length ≤ fuel) (hn : PlanarRun n) (p : UInt8) :
    ∃ bytes run n', run + n' = n ∧ PlanarRun n' ∧
      Encodes p (raw ++ List.replicate run (raw.getLastD p)) bytes ∧
      ∀ size, planarWriteRaw fuel (raw ++ rest) raw.length n size =
        if bytes.length ≤ size then some (bytes, n', size - bytes.length) else none := by
  induction fuel generalizing raw n p with
  | zero =>
    obtain rfl : raw = [] := List.eq_nil_of_length_eq_zero (by omega)
    exact ⟨[], 0, n, Nat.zero_add n, hn, .nil p, fun size => rfl⟩
  | succ fuel ih =>
    by_cases hzero : raw.length = 0
    · obtain rfl : raw = [] := List.eq_nil_of_length_eq_zero hzero
      exact ⟨[], 0, n, Nat.zero_add n, hn, .nil p, fun size => rfl⟩
    · obtain ⟨k, run, hcontrol, hshift, hpos, hraw, hrun, hplanar, hmore⟩ :=
        planarRawControl_spec (Nat.pos_of_ne_zero hzero) hn
      have htake : (raw.take k).length = k := by
        rw [List.length_take]
        omega
      have hdrop : (raw.drop k).length = (planarRawControl raw.length n).2.1 := by
        rw [List.length_drop]
        omega
      obtain ⟨bytes, run', n', hsum, hplanar', hbytes, hwrite⟩ :=
        ih (show (raw.drop k).length ≤ fuel by omega) hplanar ((raw.take k).getLastD p)
      refine ⟨(planarRawControl raw.length n).1 :: raw.take k ++ bytes, run + run', n', by omega,
        hplanar', ?_, fun size => ?_⟩
      · -- a segment with a run is the last one
        have hsymbols : raw ++ List.replicate (run + run') (raw.getLastD p) =
            raw.take k ++ List.replicate run ((raw.take k).getLastD p) ++
              (raw.drop k ++ List.replicate run' ((raw.drop k).getLastD
                ((raw.take k).getLastD p))) := by
          have hlast : (raw.drop k).getLastD ((raw.take k).getLastD p) = raw.getLastD p := by
            rw [← getLastD_append_list, List.take_append_drop]
          by_cases hend : (planarRawControl raw.length n).2.1 = 0
          · have hall : raw.drop k = [] := List.eq_nil_of_length_eq_zero (hdrop.trans hend)
            have hk : raw.take k = raw := by
              rw [← List.append_nil (raw.take k), ← hall, List.take_append_drop]
            rw [hall, hk, List.getLastD_nil, List.replicate_add, List.nil_append,
              List.append_assoc]
          · rw [hlast, hmore hend, List.replicate_zero, List.append_nil, Nat.zero_add,
              ← List.append_assoc, List.take_append_drop]
        rw [hsymbols]
        refine .segment (by rw [hcontrol, htake]) (by omega) ?_
        exact hbytes
      · rw [planarWriteRaw, if_neg hzero]
        dsimp only
        rw [hshift, List.drop_append_of_le_length (by omega),
          List.take_append_of_le_length (by omega), ← hdrop, hwrite]
        simp only [List.cons_append, List.length_cons, List.length_append, htake]
        split
        · rw [if_neg (by omega)]
        · split
          · rw [if_neg (by omega)]
          · by_cases hle : bytes.length ≤ size - 1 - k
            · rw [if_pos hle, if_pos (by omega)]
              simp only [Option.some.injEq, Prod.mk.injEq, true_and]
              omega
            · rw [if_neg hle, if_neg (by omega)]

/-- `freerdp_bitmap_planar_write_rle_bytes` writes raw bytes and a run of the last one. -/
lemma planarWriteRleBytes_spec {raw : List UInt8} {n : Nat} (rest : List UInt8) (p : UInt8)
    (hpos : 0 < raw.length + n) :
    ∃ bytes, Encodes p (raw ++ List.replicate n (raw.getLastD p)) bytes ∧
      ∀ size, planarWriteRleBytes (raw ++ List.replicate n (raw.getLastD p) ++ rest) raw.length n
        size = if bytes.length ≤ size then bytes else [] := by
  by_cases hshort : n < 3
  · -- a short run is raw
    obtain ⟨bytes, run, n', hsum, -, hbytes, hwrite⟩ :=
      planarWriteRaw_spec rest (le_refl (raw ++ List.replicate n (raw.getLastD p)).length)
        (n := 0) (.inl rfl) p
    obtain ⟨rfl, rfl⟩ : run = 0 ∧ n' = 0 := by omega
    rw [List.replicate_zero, List.append_nil] at hbytes
    refine ⟨bytes, hbytes, fun size => ?_⟩
    rw [List.length_append, List.length_replicate] at hwrite
    rw [planarWriteRleBytes, if_neg (by omega), if_pos hshort]
    dsimp only
    rw [hwrite]
    by_cases hle : bytes.length ≤ size
    · rw [if_pos hle, if_pos hle]
      exact List.append_nil bytes
    · rw [if_neg hle, if_neg hle]
  · obtain ⟨bytes, run, n', hsum, hn', hbytes, hwrite⟩ :=
      planarWriteRaw_spec (List.replicate n (raw.getLastD p) ++ rest) (le_refl raw.length)
        (n := n) (.inr (by omega)) p
    obtain ⟨bytes', hbytes', hwrite'⟩ := planarWriteRun_spec (le_refl n') hn' (raw.getLastD p)
    refine ⟨bytes ++ bytes', ?_, fun size => ?_⟩
    · rw [← hsum, List.replicate_add, ← List.append_assoc]
      refine hbytes.append ?_
      rw [getLastD_append_replicate]
      exact hbytes'
    · rw [planarWriteRleBytes, if_neg (by omega), if_neg hshort]
      dsimp only
      rw [List.append_assoc, hwrite, List.length_append]
      by_cases hle : bytes.length ≤ size
      · rw [if_pos hle]
        dsimp only
        rw [hwrite']
        by_cases hle' : bytes'.length ≤ size - bytes.length
        · rw [if_pos hle', if_pos (by omega)]
        · rw [if_neg hle', if_neg (by omega)]
      · rw [if_neg hle, if_neg (by omega)]

/-! ### Rows are encoded -/

/-- What `freerdp_bitmap_planar_encode_rle_bytes` does after its loop. -/
def planarEncodeEnd (pInBuffer : List UInt8) : Option (PlanarEncoder × List UInt8) → List UInt8
  | none => []
  | some (e, rest) =>
    if e.cRawBytes ≠ 0 ∨ e.nRunLength ≠ 0 then
      let bytes := planarWriteRleBytes
        (pInBuffer.drop (pInBuffer.length - rest.length - (e.cRawBytes + e.nRunLength)))
        e.cRawBytes e.nRunLength e.outBufferSize
      if bytes = [] then [] else if rest ≠ [] then [] else e.out ++ bytes
    else if rest ≠ [] then [] else e.out

lemma planarEncodeRleBytes_eq {pInBuffer : List UInt8} {size : Nat} (hsize : size ≠ 0) :
    planarEncodeRleBytes pInBuffer size =
      planarEncodeEnd pInBuffer (planarEncodeLoop pInBuffer pInBuffer ⟨0, 0, 0, [], size⟩) := by
  rw [planarEncodeRleBytes, if_neg hsize]
  rfl

/-- The pending bytes stand right before the rest of the input. -/
lemma drop_pending {pInBuffer committed pending rest : List UInt8}
    (hin : pInBuffer = committed ++ (pending ++ rest)) {n : Nat} (hn : pending.length = n) :
    pInBuffer.drop (pInBuffer.length - rest.length - n) = pending ++ rest := by
  rw [hin, List.length_append, List.length_append]
  exact List.drop_left' (by omega)

/-- A symbol is pending. -/
lemma pending_ne_nil {raw : List UInt8} {n : Nat} (hpos : 0 < raw.length + n) (c : UInt8) :
    raw ++ List.replicate n c ≠ [] := by
  intro hnil
  have hlength := congrArg List.length hnil
  rw [List.length_append, List.length_replicate, List.length_nil] at hlength
  omega

/-- Nothing is encoded into a full buffer. -/
lemma planarEncodeEnd_full {pInBuffer rest committed raw : List UInt8} {n : Nat} {p symbol : UInt8}
    {out : List UInt8} (hpos : 0 < raw.length + n)
    (hin : pInBuffer = committed ++ (raw ++ List.replicate n (raw.getLastD p) ++ rest)) :
    planarEncodeEnd pInBuffer (some (⟨symbol, raw.length, n, out, 0⟩, rest)) = [] := by
  obtain ⟨bytes, hbytes, hwrite⟩ := planarWriteRleBytes_spec rest p hpos
  have hne : bytes ≠ [] := hbytes.ne_nil (pending_ne_nil hpos _)
  have hdrop := drop_pending hin (n := raw.length + n) (by simp)
  rw [planarEncodeEnd, if_pos (by dsimp only; omega)]
  dsimp only
  have hfull : ¬bytes.length ≤ 0 := not_le.mpr (List.length_pos_iff.mpr hne)
  rw [hdrop, hwrite, if_neg hfull, if_pos rfl]

/-- The loop, with raw symbols and a run pending, writes the same bytes into every buffer that holds
them, and nothing into the others. -/
def LoopEncodes (pInBuffer rest : List UInt8) (p : UInt8) (raw : List UInt8) (n : Nat) : Prop :=
  ∃ bytes, Encodes p (raw ++ List.replicate n (raw.getLastD p) ++ rest) bytes ∧
    ∀ out size, size ≠ 0 →
      planarEncodeEnd pInBuffer
        (planarEncodeLoop pInBuffer rest ⟨raw.getLastD p, raw.length, n, out, size⟩) =
      if bytes.length ≤ size then out ++ bytes else []

section Loop

variable {pInBuffer rest committed raw : List UInt8} {n : Nat} {p value : UInt8}

/-- At the end of the input the pending symbols are written. -/
lemma loopEncodes_nil
    (hin : pInBuffer = committed ++ (raw ++ List.replicate n (raw.getLastD p) ++ [])) :
    LoopEncodes pInBuffer [] p raw n := by
  by_cases hpos : 0 < raw.length + n
  · obtain ⟨bytes, hbytes, hwrite⟩ := planarWriteRleBytes_spec [] p hpos
    have hdrop := drop_pending hin (n := raw.length + n) (by simp)
    have hne : bytes ≠ [] := hbytes.ne_nil (pending_ne_nil hpos _)
    refine ⟨bytes, by rwa [List.append_nil], fun out size hsize => ?_⟩
    rw [planarEncodeLoop, planarEncodeEnd, if_pos (by dsimp only; omega)]
    dsimp only
    rw [hdrop, hwrite]
    by_cases hle : bytes.length ≤ size
    · rw [if_pos hle, if_neg hne, if_neg (not_not.mpr rfl), if_pos hle]
    · rw [if_neg hle, if_pos rfl, if_neg hle]
  · obtain rfl : raw = [] := List.eq_nil_of_length_eq_zero (by omega)
    obtain rfl : n = 0 := by omega
    refine ⟨[], .nil p, fun out size hsize => ?_⟩
    rw [planarEncodeLoop, planarEncodeEnd, if_neg (by simp), if_neg (not_not.mpr rfl),
      List.length_nil, if_pos (Nat.zero_le _), List.append_nil]

/-- The last symbol comes again: the run goes on. -/
lemma LoopEncodes.run (hmatch : raw.getLastD p = value)
    (h : LoopEncodes pInBuffer rest p raw (n + 1)) :
    LoopEncodes pInBuffer (value :: rest) p raw n := by
  obtain ⟨bytes, hbytes, hend⟩ := h
  have hrun : raw ++ List.replicate n (raw.getLastD p) ++ value :: rest =
      raw ++ List.replicate (n + 1) (raw.getLastD p) ++ rest := by
    rw [List.replicate_succ', hmatch]
    simp
  refine ⟨bytes, hrun ▸ hbytes, fun out size hsize => ?_⟩
  rw [planarEncodeLoop]
  dsimp only
  rw [if_neg (by tauto)]
  dsimp only
  rw [if_pos hmatch, if_neg hsize, ← hmatch]
  exact hend out size hsize

/-- Another symbol comes behind a long run: the run is written with the raw symbols before it. -/
lemma LoopEncodes.long (hmatch : ¬raw.getLastD p = value) (hlong : 3 ≤ n)
    (hin : pInBuffer = committed ++ (raw ++ List.replicate n (raw.getLastD p) ++ value :: rest))
    (h : LoopEncodes pInBuffer rest (raw.getLastD p) [value] 0) :
    LoopEncodes pInBuffer (value :: rest) p raw n := by
  have hpending : 0 < raw.length + n := by omega
  obtain ⟨bytes₁, hbytes₁, hwrite⟩ := planarWriteRleBytes_spec (value :: rest) p hpending
  obtain ⟨bytes₂, hbytes₂, hend⟩ := h
  have hdrop := drop_pending hin (n := raw.length + n) (by simp)
  have hpos : pInBuffer.length - rest.length - (raw.length + n + 1) =
      pInBuffer.length - (value :: rest).length - (raw.length + n) := by
    rw [List.length_cons]
    omega
  have hin' : pInBuffer = committed ++ (raw ++ List.replicate n (raw.getLastD p)) ++
      ([value] ++ List.replicate 0 ([value].getLastD (raw.getLastD p)) ++ rest) := by
    rw [hin]
    simp
  have hne₁ : bytes₁ ≠ [] := hbytes₁.ne_nil (pending_ne_nil hpending _)
  have hne₂ : 0 < bytes₂.length := List.length_pos_iff.mpr (hbytes₂.ne_nil (by simp))
  refine ⟨bytes₁ ++ bytes₂, ?_, fun out size hsize => ?_⟩
  · have happend := @Encodes.append _ _ (value :: rest) _ bytes₂ hbytes₁
      (by rw [getLastD_append_replicate]; simpa using hbytes₂)
    simpa using happend
  rw [planarEncodeLoop]
  dsimp only
  rw [if_pos ⟨by omega, hmatch⟩, planarEndRun]
  dsimp only
  rw [if_neg (by omega), hpos, hdrop, hwrite, List.length_append]
  by_cases hle : bytes₁.length ≤ size
  · rw [if_pos hle, if_neg (by simp only [hne₁, false_or, not_lt]; exact hle)]
    dsimp only
    rw [if_neg hmatch]
    by_cases hfull : size - bytes₁.length = 0
    · -- the buffer is full, and a symbol is pending
      rw [if_pos hfull, hfull, if_neg (by omega)]
      exact planarEncodeEnd_full (by simp) hin'
    · rw [if_neg hfull]
      have hrest := hend (out ++ bytes₁) (size - bytes₁.length) hfull
      rw [List.append_assoc] at hrest
      by_cases hle' : bytes₂.length ≤ size - bytes₁.length
      · rw [if_pos hle'] at hrest
        rw [if_pos (by omega)]
        exact hrest
      · rw [if_neg hle'] at hrest
        rw [if_neg (by omega)]
        exact hrest
  · rw [if_neg hle, if_pos (.inl rfl), if_neg (by omega)]
    rfl

/-- Another symbol comes behind a short run: the run becomes raw. -/
lemma LoopEncodes.short (hmatch : ¬raw.getLastD p = value) (hshort : n < 3)
    (h : LoopEncodes pInBuffer rest p (raw ++ List.replicate n (raw.getLastD p) ++ [value]) 0) :
    LoopEncodes pInBuffer (value :: rest) p raw n := by
  obtain ⟨bytes, hbytes, hend⟩ := h
  refine ⟨bytes, by simpa using hbytes, fun out size hsize => ?_⟩
  have hrest := hend out size hsize
  rw [List.getLastD_concat, List.length_append, List.length_append, List.length_replicate,
    List.length_singleton] at hrest
  rw [planarEncodeLoop]
  dsimp only
  by_cases hzero : n = 0
  · rw [if_neg (by tauto)]
    dsimp only
    rw [if_neg hmatch, if_neg hsize]
    rw [hzero] at hrest ⊢
    exact hrest
  · rw [if_pos ⟨hzero, hmatch⟩, planarEndRun]
    dsimp only
    rw [if_pos (by omega)]
    dsimp only
    rw [if_neg hmatch, if_neg hsize]
    exact hrest

/-- The induction follows the input; the pending symbols and the rest of the input are what is still
to be encoded. -/
lemma planarEncodeLoop_spec (p : UInt8)
    (hin : pInBuffer = committed ++ (raw ++ List.replicate n (raw.getLastD p) ++ rest)) :
    LoopEncodes pInBuffer rest p raw n := by
  induction rest generalizing committed raw n p with
  | nil => exact loopEncodes_nil hin
  | cons value rest ih =>
    by_cases hmatch : raw.getLastD p = value
    · refine LoopEncodes.run hmatch (@ih committed _ _ p ?_)
      rw [hin, List.replicate_succ', hmatch]
      simp
    rcases Nat.lt_or_ge n 3 with hshort | hlong
    · refine LoopEncodes.short hmatch hshort (@ih committed _ _ p ?_)
      rw [hin]
      simp
    · refine LoopEncodes.long hmatch hlong hin
        (@ih (committed ++ (raw ++ List.replicate n (raw.getLastD p))) _ _ _ ?_)
      rw [hin]
      simp

end Loop

/-- `freerdp_bitmap_planar_encode_rle_bytes` encodes a row. -/
lemma planarEncodeRleBytes_spec {row : List UInt8} (hrow : row ≠ []) :
    ∃ bytes, Encodes 0 row bytes ∧ bytes ≠ [] ∧ ∀ size, planarEncodeRleBytes row size =
      if bytes.length ≤ size then bytes else [] := by
  obtain ⟨bytes, hbytes, hend⟩ := planarEncodeLoop_spec 0
    (show row = [] ++ ([] ++ List.replicate 0 (([] : List UInt8).getLastD 0) ++ row) from rfl)
  have hne : bytes ≠ [] := hbytes.ne_nil hrow
  refine ⟨bytes, hbytes, hne, fun size => ?_⟩
  by_cases hsize : size = 0
  · have hfull : ¬bytes.length ≤ size := by
      rw [hsize]
      exact not_le.mpr (List.length_pos_iff.mpr hne)
    rw [planarEncodeRleBytes, if_pos hsize, if_neg hfull]
  · rw [planarEncodeRleBytes_eq hsize]
    exact hend [] size hsize

end FreeRdp
