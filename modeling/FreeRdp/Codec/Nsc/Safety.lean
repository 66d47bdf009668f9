import FreeRdp.Codec.Nsc.RoundTrip

/-!
# Planes from the peer

The decoder checks what it writes against the plane buffer, but not what it reads against the
message, nor runs against what is left of the plane. The data that it decodes inside of its message
are those of a grammar.
-/

namespace FreeRdp

/-- The first token of some data, when `left` bytes of the plane are to come: its bytes, how many
bytes of the plane they stand for, and the data behind it. A byte by itself has another one behind
it, unless it is the fifth last of the plane. -/
inductive TokenAt : Nat → List UInt8 → Nat → List UInt8 → Prop
  | last {v : UInt8} {rest : List UInt8} : TokenAt 5 [v] 1 rest
  | literal {left : Nat} {v b : UInt8} {rest : List UInt8} :
      5 < left → v ≠ b → TokenAt left [v] 1 (b :: rest)
  | run {left : Nat} {v n : UInt8} {rest : List UInt8} :
      5 < left → n.toNat < 0xFF → TokenAt left [v, v, n] (n.toNat + 2) rest
  | long {left : Nat} {v b0 b1 b2 b3 : UInt8} {rest : List UInt8} : 5 < left →
      TokenAt left [v, v, 0xFF, b0, b1, b2, b3]
        (b0.toNat ||| b1.toNat <<< 8 ||| b2.toNat <<< 16 ||| b3.toNat <<< 24) rest

/-- The data of a plane of which `left` bytes are to come, for a buffer with `room`. The first
argument says whether the plane is decoded, or refused on the way. -/
inductive PlaneData : Bool → Nat → Nat → List UInt8 → Prop
  | short {left room : Nat} {data : List UInt8} : left < 4 → PlaneData false left room data
  | noRoom {room : Nat} {data : List UInt8} : room < 4 → PlaneData false 4 room data
  | raw {room : Nat} {data : List UInt8} : 4 ≤ room → 4 ≤ data.length → PlaneData true 4 room data
  | refused {left room len : Nat} {token rest : List UInt8} : TokenAt left token len rest →
      room < len → PlaneData false left room (token ++ rest)
  | token {ok : Bool} {left room len : Nat} {token rest : List UInt8} :
      TokenAt left token len rest → len ≤ room → len ≤ left →
      PlaneData ok (left - len) (room - len) rest → PlaneData ok left room (token ++ rest)

lemma TokenAt.four_lt {left len : Nat} {token rest : List UInt8} (h : TokenAt left token len rest) :
    4 < left := by
  cases h <;> omega

variable {m : Nat → UInt8} {d : RleDecoder} {total left room len pos : Nat} {ok : Bool}
  {token rest data : List UInt8} {r : PlaneResult}

/-! ### A round -/

/-- The token in the memory: how many bytes it has, how many are looked at, and how many bytes of
the plane it stands for. -/
def tokenIn (m : Nat → UInt8) (left pos : Nat) : Nat × Nat × Nat :=
  if left = 5 then (1, 1, 1)
  else if m pos = m (pos + 1) then
    if (m (pos + 2)).toNat < 0xFF then (3, 3, (m (pos + 2)).toNat + 2)
    else (7, 7, nscRunLength m (pos + 3))
  else (1, 2, 1)

/-- A round takes one token. -/
lemma nscRleRound_eq (hleft : 4 < d.left) (hmax : d.left < 2 ^ 32) {size look len : Nat}
    (htoken : tokenIn m d.left d.pos = (size, look, len)) :
    nscRleRound m d =
      if d.outSize < len then .done ⟨false, d.out, max d.looked (d.pos + look), d.overrun⟩
      else .next ⟨d.pos + size, d.out ++ List.replicate len (m d.pos), d.outSize - len,
        uint32Sub d.left len, max d.looked (d.pos + look), d.overrun || decide (d.left < len)⟩ := by
  have hsub : uint32Sub d.left 1 = d.left - 1 := uint32Sub_of_le (by omega) hmax
  have hfits : (d.left < 1) = False := eq_false (by omega)
  rw [nscRleRound, if_pos hleft]
  unfold tokenIn at htoken
  by_cases h5 : d.left = 5
  · rw [if_pos h5] at htoken
    obtain ⟨rfl, rfl, rfl⟩ : size = 1 ∧ look = 1 ∧ len = 1 := by simpa [eq_comm] using htoken
    simp only [if_pos h5, RleDecoder.literal, RleDecoder.look, RleDecoder.stop, hsub, hfits,
      decide_false, Bool.or_false, List.replicate_one]
    rfl
  by_cases hsame : m d.pos = m (d.pos + 1)
  · rw [if_neg h5, if_pos hsame] at htoken
    by_cases hshort : (m (d.pos + 2)).toNat < 0xFF
    · rw [if_pos hshort] at htoken
      obtain ⟨rfl, rfl, rfl⟩ : size = 3 ∧ look = 3 ∧ len = (m (d.pos + 2)).toNat + 2 := by
        simpa [eq_comm] using htoken
      simp only [if_neg h5, if_pos hsame, if_pos hshort, RleDecoder.run, RleDecoder.look,
        RleDecoder.stop]
      rfl
    · rw [if_neg hshort] at htoken
      obtain ⟨rfl, rfl, rfl⟩ : size = 7 ∧ look = 7 ∧ len = nscRunLength m (d.pos + 3) := by
        simpa [eq_comm] using htoken
      simp only [if_neg h5, if_pos hsame, if_neg hshort, RleDecoder.run, RleDecoder.look,
        RleDecoder.stop]
      rfl
  · rw [if_neg h5, if_neg hsame] at htoken
    obtain ⟨rfl, rfl, rfl⟩ : size = 1 ∧ look = 2 ∧ len = 1 := by simpa [eq_comm] using htoken
    simp only [if_neg h5, if_neg hsame, RleDecoder.literal, RleDecoder.look, RleDecoder.stop, hsub,
      hfits, decide_false, Bool.or_false, List.replicate_one]
    rfl

/-- Data in the memory that begin with some bytes. -/
lemma readList_eq_append_iff {n : Nat} : readList m pos n = token ++ rest ↔
    readList m pos token.length = token ∧ readList m (pos + token.length) rest.length = rest ∧
      n = token.length + rest.length := by
  constructor
  · intro h
    have hn : n = token.length + rest.length := by
      rw [← List.length_append, ← h, length_readList]
    rw [hn, readList_add] at h
    obtain ⟨htoken, hrest⟩ := List.append_inj h (length_readList ..)
    exact ⟨htoken, hrest, hn⟩
  · rintro ⟨htoken, hrest, rfl⟩
    rw [readList_add, htoken, hrest]

/-- A token that is looked at in the message is at the front of its data. -/
lemma tokenAt_of_tokenIn (hleft : 4 < left) {size look : Nat}
    (htoken : tokenIn m left pos = (size, look, len)) (hlook : pos + look ≤ total) :
    ∃ token rest, TokenAt left token len rest ∧ readList m pos (total - pos) = token ++ rest ∧
      token.length = size := by
  unfold tokenIn at htoken
  by_cases h5 : left = 5
  · rw [if_pos h5] at htoken
    obtain ⟨rfl, rfl, rfl⟩ : size = 1 ∧ look = 1 ∧ len = 1 := by simpa [eq_comm] using htoken
    refine ⟨[m pos], readList m (pos + 1) (total - pos - 1), ?_, ?_, rfl⟩
    · rw [h5]
      exact .last
    · rw [show total - pos = total - pos - 1 + 1 by omega, readList_succ]
      rfl
  by_cases hsame : m pos = m (pos + 1)
  · rw [if_neg h5, if_pos hsame] at htoken
    by_cases hshort : (m (pos + 2)).toNat < 0xFF
    · rw [if_pos hshort] at htoken
      obtain ⟨rfl, rfl, rfl⟩ : size = 3 ∧ look = 3 ∧ len = (m (pos + 2)).toNat + 2 := by
        simpa [eq_comm] using htoken
      refine ⟨[m pos, m pos, m (pos + 2)], readList m (pos + 3) (total - pos - 3),
        .run (by omega) hshort, ?_, rfl⟩
      rw [show total - pos = total - pos - 3 + 1 + 1 + 1 by omega, readList_succ, readList_succ,
        readList_succ, ← hsame]
      rfl
    · rw [if_neg hshort] at htoken
      obtain ⟨rfl, rfl, rfl⟩ : size = 7 ∧ look = 7 ∧ len = nscRunLength m (pos + 3) := by
        simpa [eq_comm] using htoken
      have hmark : m (pos + 2) = 0xFF := by
        apply UInt8.toNat_inj.mp
        have hlt := (m (pos + 2)).toNat_lt
        show (m (pos + 2)).toNat = 255
        omega
      refine ⟨[m pos, m pos, 0xFF, m (pos + 3), m (pos + 4), m (pos + 5), m (pos + 6)],
        readList m (pos + 7) (total - pos - 7), .long (by omega), ?_, rfl⟩
      rw [show total - pos = total - pos - 7 + 1 + 1 + 1 + 1 + 1 + 1 + 1 by omega]
      simp only [readList_succ]
      rw [← hsame, ← hmark]
      rfl
  · rw [if_neg h5, if_neg hsame] at htoken
    obtain ⟨rfl, rfl, rfl⟩ : size = 1 ∧ look = 2 ∧ len = 1 := by simpa [eq_comm] using htoken
    refine ⟨[m pos], m (pos + 1) :: readList m (pos + 2) (total - pos - 2),
      .literal (by omega) hsame, ?_, rfl⟩
    rw [show total - pos = total - pos - 2 + 1 + 1 by omega, readList_succ, readList_succ]
    rfl

/-- The token at the front of the data of the message is taken, and looked at inside of it. -/
lemma tokenIn_of_tokenAt (hat : TokenAt left token len rest)
    (hdata : readList m pos (total - pos) = token ++ rest) :
    ∃ look, tokenIn m left pos = (token.length, look, len) ∧ pos + look ≤ total := by
  have hn : total - pos = token.length + rest.length := by
    rw [← List.length_append, ← hdata, length_readList]
  rw [hn, ← List.length_append] at hdata
  cases hat with
  | last =>
    refine ⟨1, rfl, ?_⟩
    simp only [List.length_cons, List.length_nil] at hn
    omega
  | literal hleft hne =>
    simp only [List.cons_append, List.nil_append, List.length_cons, readList_succ,
      List.cons.injEq] at hdata hn
    refine ⟨2, ?_, by omega⟩
    rw [tokenIn, if_neg (by omega), hdata.1, hdata.2.1, if_neg hne]
    rfl
  | run hleft hshort =>
    simp only [List.cons_append, List.nil_append, List.length_cons, readList_succ,
      List.cons.injEq] at hdata hn
    obtain ⟨hv, hsame, hcount, -⟩ := hdata
    change m (pos + 2) = _ at hcount
    refine ⟨3, ?_, by omega⟩
    rw [tokenIn, if_neg (by omega), hv, hsame, if_pos rfl, hcount, if_pos hshort]
    rfl
  | long hleft =>
    simp only [List.cons_append, List.nil_append, List.length_cons, readList_succ,
      List.cons.injEq] at hdata hn
    obtain ⟨hv, hsame, hmark, h0, h1, h2, h3, -⟩ := hdata
    change m (pos + 2) = _ at hmark
    change m (pos + 3) = _ at h0
    change m (pos + 3 + 1) = _ at h1
    change m (pos + 3 + 2) = _ at h2
    change m (pos + 3 + 3) = _ at h3
    refine ⟨7, ?_, by omega⟩
    rw [tokenIn, if_neg (by omega), hv, hsame, if_pos rfl, hmark, if_neg (by decide), nscRunLength,
      h0, h1, h2, h3]
    rfl

/-! ### The loop -/

/-- The end behind the loop. -/
lemma nscRleRound_of_le (hleft : ¬4 < d.left) : nscRleRound m d =
    if d.outSize < 4 ∨ d.left < 4 then .done ⟨false, d.out, d.looked, d.overrun⟩
    else .done ⟨true, d.out ++ readList m d.pos 4, max d.looked (d.pos + 4), d.overrun⟩ := by
  rw [nscRleRound, if_neg hleft]
  rfl

/-- Data of the grammar are decoded within the message. -/
lemma loop_of_planeData (h : PlaneData ok left room data) {d : RleDecoder} (hleft : d.left = left)
    (hroom : d.outSize = room) (hmax : left < 2 ^ 32)
    (hdata : readList m d.pos (total - d.pos) = data) (hlooked : d.looked ≤ total)
    (hoverrun : d.overrun = false) :
    ∃ fuel r, loop (nscRleRound m) fuel d = some r ∧ r.ok = ok ∧ r.looked ≤ total ∧
      r.overrun = false := by
  induction h generalizing d with
  | short hshort =>
    refine ⟨1, ⟨false, d.out, d.looked, d.overrun⟩, ?_, rfl, hlooked, hoverrun⟩
    rw [loop, nscRleRound_of_le (by omega), if_pos (Or.inr (by omega))]
  | noRoom hshort =>
    refine ⟨1, ⟨false, d.out, d.looked, d.overrun⟩, ?_, rfl, hlooked, hoverrun⟩
    rw [loop, nscRleRound_of_le (by omega), if_pos (Or.inl (by omega))]
  | raw hraw hlength =>
    rw [← hdata, length_readList] at hlength
    refine ⟨1, ⟨true, d.out ++ readList m d.pos 4, max d.looked (d.pos + 4), d.overrun⟩, ?_, rfl,
      ?_, hoverrun⟩
    · rw [loop, nscRleRound_of_le (by omega), if_neg (by omega)]
    · show max d.looked (d.pos + 4) ≤ total
      omega
  | refused hat hlen =>
    subst hleft hroom
    obtain ⟨look, htoken, hlook⟩ := tokenIn_of_tokenAt hat hdata
    refine ⟨1, ⟨false, d.out, max d.looked (d.pos + look), d.overrun⟩, ?_, rfl, ?_, hoverrun⟩
    · rw [loop, nscRleRound_eq hat.four_lt hmax htoken, if_pos hlen]
    · show max d.looked (d.pos + look) ≤ total
      omega
  | token hat hlen hfits _ ih =>
    rename_i len token rest _
    subst hleft hroom
    obtain ⟨look, htoken, hlook⟩ := tokenIn_of_tokenAt hat hdata
    have hrest := (readList_eq_append_iff.mp hdata).2
    have hsub : uint32Sub d.left len = d.left - len := uint32Sub_of_le hfits hmax
    have hround := nscRleRound_eq hat.four_lt hmax htoken
    rw [if_neg (by omega)] at hround
    obtain ⟨fuel, r, hloop, hr⟩ := ih (d := ⟨d.pos + token.length,
      d.out ++ List.replicate len (m d.pos), d.outSize - len, uint32Sub d.left len,
      max d.looked (d.pos + look), d.overrun || decide (d.left < len)⟩) hsub rfl (by omega)
      (by
        dsimp only
        rw [← hrest.1]
        congr 1
        omega)
      (by dsimp only; omega) (by simp [hoverrun, hfits])
    refine ⟨fuel + 1, r, ?_, hr⟩
    rw [loop, hround]
    exact hloop

/-- What a round has looked at, and a run that was too long, stay. -/
lemma nscRleRound_mono (hmax : d.left < 2 ^ 32) : (nscRleRound m d).Ends
    (fun d' => d'.left < 2 ^ 32 ∧ d.looked ≤ d'.looked ∧ (d'.overrun = false → d.overrun = false))
    (fun r => d.looked ≤ r.looked ∧ (r.overrun = false → d.overrun = false)) := by
  by_cases hleft : 4 < d.left
  · rcases htoken : tokenIn m d.left d.pos with ⟨size, look, len⟩
    rw [nscRleRound_eq hleft hmax htoken]
    split
    · exact ⟨le_max_left _ _, id⟩
    · refine ⟨Nat.mod_lt _ (by decide), le_max_left _ _, fun h => ?_⟩
      exact (Bool.or_eq_false_iff.mp h).1
  · rw [nscRleRound_of_le hleft]
    split
    · exact ⟨le_rfl, id⟩
    · exact ⟨le_max_left _ _, id⟩

lemma loop_mono_looked {fuel : Nat} (hloop : loop (nscRleRound m) fuel d = some r)
    (hmax : d.left < 2 ^ 32) :
    d.looked ≤ r.looked ∧ (r.overrun = false → d.overrun = false) := by
  induction fuel generalizing d with
  | zero => cases hloop
  | succ fuel ih =>
    have hround := nscRleRound_mono (m := m) hmax
    rw [loop] at hloop
    cases hr : nscRleRound m d with
    | next d' =>
      rw [hr] at hloop hround
      obtain ⟨hmax', hlooked, hoverrun⟩ := hround
      obtain ⟨hlooked', hoverrun'⟩ := ih hloop hmax'
      exact ⟨hlooked.trans hlooked', fun h => hoverrun (hoverrun' h)⟩
    | done r' =>
      rw [hr] at hloop hround
      obtain rfl := Option.some.inj hloop
      exact hround

/-- Data that are decoded within the message are of the grammar. -/
lemma planeData_of_loop {fuel : Nat} (hloop : loop (nscRleRound m) fuel d = some r)
    (hmax : d.left < 2 ^ 32) (hlooked : r.looked ≤ total) (hoverrun : r.overrun = false) :
    PlaneData r.ok d.left d.outSize (readList m d.pos (total - d.pos)) := by
  induction fuel generalizing d with
  | zero => cases hloop
  | succ fuel ih =>
    rw [loop] at hloop
    by_cases hleft : 4 < d.left
    · rcases htoken : tokenIn m d.left d.pos with ⟨size, look, len⟩
      rw [nscRleRound_eq hleft hmax htoken] at hloop
      by_cases hrefused : d.outSize < len
      · rw [if_pos hrefused] at hloop
        obtain rfl := Option.some.inj hloop
        have hlook : d.pos + look ≤ total := (le_max_right _ _).trans hlooked
        obtain ⟨token, rest, hat, hdata, -⟩ := tokenAt_of_tokenIn hleft htoken hlook
        rw [hdata]
        exact .refused hat hrefused
      · rw [if_neg hrefused] at hloop
        obtain ⟨hlook, hfits⟩ := loop_mono_looked hloop (Nat.mod_lt _ (by decide))
        obtain ⟨-, hfits⟩ := Bool.or_eq_false_iff.mp (hfits hoverrun)
        have hle : len ≤ d.left := not_lt.mp (of_decide_eq_false hfits)
        have htail := ih hloop (Nat.mod_lt _ (by decide))
        dsimp only at hlook htail
        have hlook' : d.pos + look ≤ total := by omega
        obtain ⟨token, rest, hat, hdata, hsize⟩ := tokenAt_of_tokenIn hleft htoken hlook'
        have hrest := (readList_eq_append_iff.mp hdata).2
        rw [uint32Sub_of_le hle hmax, ← hsize, show total - (d.pos + token.length) = rest.length by
          omega, hrest.1] at htail
        rw [hdata]
        exact .token hat (not_lt.mp hrefused) hle htail
    · rw [nscRleRound_of_le hleft] at hloop
      by_cases hrefused : d.outSize < 4 ∨ d.left < 4
      · rw [if_pos hrefused] at hloop
        obtain rfl := Option.some.inj hloop
        by_cases hshort : d.left < 4
        · exact .short hshort
        · rw [show d.left = 4 by omega]
          exact .noRoom (by omega)
      · rw [if_neg hrefused] at hloop
        obtain rfl := Option.some.inj hloop
        dsimp only at hlooked ⊢
        rw [show d.left = 4 by omega]
        exact .raw (by omega) (by rw [length_readList]; omega)

/-- What is written fits in the buffer. -/
lemma length_out_of_loop {fuel : Nat} (hloop : loop (nscRleRound m) fuel d = some r)
    (hmax : d.left < 2 ^ 32) (hroom : d.out.length + d.outSize ≤ room) : r.out.length ≤ room := by
  induction fuel generalizing d with
  | zero => cases hloop
  | succ fuel ih =>
    rw [loop] at hloop
    by_cases hleft : 4 < d.left
    · rcases htoken : tokenIn m d.left d.pos with ⟨size, look, len⟩
      rw [nscRleRound_eq hleft hmax htoken] at hloop
      by_cases hrefused : d.outSize < len
      · rw [if_pos hrefused] at hloop
        obtain rfl := Option.some.inj hloop
        exact (Nat.le_add_right _ _).trans hroom
      · rw [if_neg hrefused] at hloop
        refine ih hloop (Nat.mod_lt _ (by decide)) ?_
        rw [List.length_append, List.length_replicate]
        dsimp only
        omega
    · rw [nscRleRound_of_le hleft] at hloop
      by_cases hrefused : d.outSize < 4 ∨ d.left < 4
      · rw [if_pos hrefused] at hloop
        obtain rfl := Option.some.inj hloop
        exact (Nat.le_add_right _ _).trans hroom
      · rw [if_neg hrefused] at hloop
        obtain rfl := Option.some.inj hloop
        rw [List.length_append, length_readList]
        omega

/-! ### All planes -/

/-- A plane is decoded, or refused, with the message from `offset` to `total` and a buffer of
`room` bytes: it looks at bytes of the message only, writes to the buffer only, and no run is longer
than what is left. -/
def PlaneInside (room total offset : Nat) (r : PlaneResult) : Prop :=
  (r.looked = 0 ∨ offset + r.looked ≤ total) ∧ r.out.length ≤ room ∧ r.overrun = false

/-- The planes of a message, each from behind the one before. If all are decoded, they end in the
message. -/
def PlanesInside (room total : Nat) : List (Nat × Nat) → Nat → List PlaneResult → Prop
  | (_, planeSize) :: planes, offset, r :: results => PlaneInside room total offset r ∧
      (r.ok = true → PlanesInside room total planes (offset + planeSize) results)
  | [], offset, [] => offset ≤ total
  | _, _, _ => False

/-- Decoding the planes ends, and stays inside. -/
def DecodesInside (m : Nat → UInt8) (room total : Nat) (planes : List (Nat × Nat)) (offset : Nat) :
    Prop :=
  ∃ fuel results, nscRleDecompressData (fun i => m (offset + i)) room fuel planes = some results ∧
    PlanesInside room total planes offset results

/-- The planes of a message in the grammar: each one up to the first that is refused has its data,
and if none is refused, the message has all their bytes. -/
def PlanesData (m : Nat → UInt8) (room total : Nat) : List (Nat × Nat) → Nat → Prop
  | [], offset => offset ≤ total
  | (originalSize, planeSize) :: planes, offset =>
    if planeSize = 0 then originalSize ≤ room → PlanesData m room total planes offset
    else if planeSize < originalSize then
      let data := readList m offset (total - offset)
      PlaneData false originalSize room data ∨
        PlaneData true originalSize room data ∧
          PlanesData m room total planes (offset + planeSize)
    else
      originalSize ≤ room →
        (originalSize = 0 ∨ offset + originalSize ≤ total) ∧
          PlanesData m room total planes (offset + planeSize)

lemma nscDecompressPlane_mono {originalSize planeSize fuel fuel' : Nat}
    (h : nscDecompressPlane m room originalSize planeSize fuel = some r) (hle : fuel ≤ fuel') :
    nscDecompressPlane m room originalSize planeSize fuel' = some r := by
  unfold nscDecompressPlane at h ⊢
  split
  · rwa [if_pos ‹_›] at h
  · rw [if_neg ‹_›] at h
    split
    · rw [if_pos ‹_›] at h
      exact loop_mono h hle
    · rwa [if_neg ‹_›] at h

lemma nscRleDecompressData_mono {planes : List (Nat × Nat)} {fuel fuel' : Nat}
    {results : List PlaneResult} (h : nscRleDecompressData m room fuel planes = some results)
    (hle : fuel ≤ fuel') : nscRleDecompressData m room fuel' planes = some results := by
  induction planes generalizing m results with
  | nil => exact h
  | cons p planes ih =>
    rw [nscRleDecompressData] at h ⊢
    cases hplane : nscDecompressPlane m room p.1 p.2 fuel with
    | none =>
      rw [hplane] at h
      cases h
    | some r =>
      rw [hplane] at h
      rw [nscDecompressPlane_mono hplane hle]
      dsimp only at h ⊢
      split
      · rw [if_pos ‹_›] at h
        obtain ⟨rest, hrest, hresults⟩ := Option.map_eq_some_iff.mp h
        rw [ih hrest, Option.map_some, hresults]
      · rwa [if_neg ‹_›] at h

/-- The first plane, and those behind it. -/
lemma decodesInside_cons {planes : List (Nat × Nat)} {originalSize planeSize offset : Nat} :
    DecodesInside m room total ((originalSize, planeSize) :: planes) offset ↔
      ∃ fuel r, nscDecompressPlane (fun i => m (offset + i)) room originalSize planeSize fuel =
          some r ∧ PlaneInside room total offset r ∧
        (r.ok = true → DecodesInside m room total planes (offset + planeSize)) := by
  have hshift : (fun i => m (offset + planeSize + i)) = fun i => m (offset + (planeSize + i)) := by
    simp only [Nat.add_assoc]
  constructor
  · rintro ⟨fuel, results, hresults, hinside⟩
    rw [nscRleDecompressData] at hresults
    cases hplane : nscDecompressPlane (fun i => m (offset + i)) room originalSize planeSize fuel with
    | none =>
      rw [hplane] at hresults
      cases hresults
    | some r =>
      rw [hplane] at hresults
      dsimp only at hresults
      refine ⟨fuel, r, hplane, ?_⟩
      by_cases hok : r.ok = true
      · rw [if_pos hok] at hresults
        obtain ⟨rest, hrest, rfl⟩ := Option.map_eq_some_iff.mp hresults
        exact ⟨hinside.1, fun _ => ⟨fuel, rest, hshift ▸ hrest, hinside.2 hok⟩⟩
      · rw [if_neg hok] at hresults
        obtain rfl := Option.some.inj hresults
        exact ⟨hinside.1, fun hok' => absurd hok' hok⟩
  · rintro ⟨fuel, r, hplane, hinside, hrest⟩
    by_cases hok : r.ok = true
    · obtain ⟨fuel', results, hresults, hrestInside⟩ := hrest hok
      refine ⟨max fuel fuel', r :: results, ?_, hinside, fun _ => hrestInside⟩
      rw [hshift] at hresults
      rw [nscRleDecompressData, nscDecompressPlane_mono hplane (le_max_left _ _)]
      dsimp only
      rw [if_pos hok, nscRleDecompressData_mono hresults (le_max_right _ _)]
      rfl
    · refine ⟨fuel, [r], ?_, hinside, fun hok' => absurd hok' hok⟩
      rw [nscRleDecompressData, hplane]
      dsimp only
      rw [if_neg hok]

/-- A plane that is run-length encoded. -/
lemma rle_inside_iff {originalSize offset : Nat} {Rest : Prop} (hmax : originalSize < 2 ^ 32) :
    (∃ fuel r, nscRleDecode (fun i => m (offset + i)) room originalSize fuel = some r ∧
        PlaneInside room total offset r ∧ (r.ok = true → Rest)) ↔
      PlaneData false originalSize room (readList m offset (total - offset)) ∨
        PlaneData true originalSize room (readList m offset (total - offset)) ∧ Rest := by
  have hshift : readList (fun i => m (offset + i)) 0 (total - offset - 0) =
      readList m offset (total - offset) := readList_shift m offset _
  constructor
  · rintro ⟨fuel, r, hloop, ⟨hlooked, -, hoverrun⟩, hrest⟩
    have hdata := planeData_of_loop hloop hmax (show r.looked ≤ total - offset by omega) hoverrun
    dsimp only at hdata
    rw [hshift] at hdata
    cases hok : r.ok with
    | false => exact Or.inl (hok ▸ hdata)
    | true => exact Or.inr ⟨hok ▸ hdata, hrest hok⟩
  · intro h
    obtain ⟨ok, hdata, hrest⟩ : ∃ ok, PlaneData ok originalSize room
        (readList m offset (total - offset)) ∧ (ok = true → Rest) := by
      rcases h with hdata | ⟨hdata, hrest⟩
      · exact ⟨false, hdata, nofun⟩
      · exact ⟨true, hdata, fun _ => hrest⟩
    obtain ⟨fuel, r, hloop, hok, hlooked, hoverrun⟩ := loop_of_planeData hdata
      (d := ⟨0, [], room, originalSize, 0, false⟩) rfl rfl hmax hshift (Nat.zero_le _) rfl
    refine ⟨fuel, r, hloop, ⟨by omega, ?_, hoverrun⟩, fun h => hrest (hok ▸ h)⟩
    exact length_out_of_loop hloop hmax (by simp)

lemma decodesInside_iff {planes : List (Nat × Nat)} {offset : Nat}
    (hmax : ∀ p ∈ planes, p.1 < 2 ^ 32) :
    DecodesInside m room total planes offset ↔ PlanesData m room total planes offset := by
  induction planes generalizing offset with
  | nil =>
    constructor
    · rintro ⟨fuel, results, hresults, hinside⟩
      obtain rfl := Option.some.inj hresults
      exact hinside
    · intro hle
      exact ⟨0, [], rfl, hle⟩
  | cons p planes ih =>
    obtain ⟨originalSize, planeSize⟩ := p
    rw [List.forall_mem_cons] at hmax
    rw [decodesInside_cons, ih hmax.2, PlanesData]
    by_cases hzero : planeSize = 0
    · subst hzero
      rw [if_pos rfl, Nat.add_zero]
      simp only [nscDecompressPlane, if_true]
      by_cases hroom : room < originalSize
      · refine iff_of_true ⟨0, ⟨false, [], 0, false⟩, if_pos hroom, ?_,
          fun h => absurd h Bool.false_ne_true⟩ fun hle => ?_
        · exact ⟨Or.inl rfl, Nat.zero_le _, rfl⟩
        · exact absurd hle (not_le.mpr hroom)
      · rw [if_neg hroom]
        constructor
        · rintro ⟨fuel, r, hr, -, hrest⟩ -
          obtain rfl := Option.some.inj hr
          exact hrest rfl
        · intro hrest
          refine ⟨0, _, rfl, ⟨Or.inl rfl, ?_, rfl⟩, fun _ => hrest (not_lt.mp hroom)⟩
          rw [List.length_replicate]
          exact not_lt.mp hroom
    by_cases hrle : planeSize < originalSize
    · rw [if_neg hzero, if_pos hrle, ← rle_inside_iff hmax.1]
      simp only [nscDecompressPlane, if_neg hzero, if_pos hrle]
    · rw [if_neg hzero, if_neg hrle]
      simp only [nscDecompressPlane, if_neg hzero, if_neg hrle]
      by_cases hroom : room < originalSize
      · refine iff_of_true ⟨0, ⟨false, [], 0, false⟩, if_pos hroom, ?_,
          fun h => absurd h Bool.false_ne_true⟩ fun hle => ?_
        · exact ⟨Or.inl rfl, Nat.zero_le _, rfl⟩
        · exact absurd hle (not_le.mpr hroom)
      · rw [if_neg hroom]
        constructor
        · rintro ⟨fuel, r, hr, ⟨hlooked, -, -⟩, hrest⟩ -
          obtain rfl := Option.some.inj hr
          exact ⟨hlooked, hrest rfl⟩
        · intro hrest
          obtain ⟨hend, hrest⟩ := hrest (not_lt.mp hroom)
          refine ⟨0, _, rfl, ⟨hend, ?_, rfl⟩, fun _ => hrest⟩
          rw [length_readList]
          exact not_lt.mp hroom

/-! ### Messages -/

/-- A message of `length` bytes for a bitmap: if its header is taken, its planes are decoded inside
of it. -/
def NscInside (malloc : Malloc) (s : Nat → UInt8) (length width height : Nat)
    (context : NscContext) : Prop :=
  ∀ context', nscContextInitialize malloc s length
      { context with width := width % 2 ^ 16, height := height % 2 ^ 16 } = some context' →
    DecodesInside s context'.planeBuffersLength length
      (context'.orgByteCount.zip context'.planeByteCount) 20

/-- The length of a decoded plane in all cases. -/
def nscPlaneLength (width height : Nat) : Nat := roundUpTo width 8 * roundUpTo height 2 % 2 ^ 32

/-- There is memory for the bitmap and the planes. -/
def NscAllocates (malloc : Malloc) (width height : Nat) (context : NscContext) : Prop :=
  let bitmapLength := width * height * 4 % 2 ^ 32
  (context.bitmapDataLength.all (· < bitmapLength) = true →
    malloc.succeeds ((bitmapLength + 16) % 2 ^ 32) = true) ∧
  (context.planeBuffersLength < nscPlaneLength width height →
    malloc.succeeds (nscPlaneLength width height) = true)

/-- What the header of a message tells the decoder. -/
lemma forall_nscContextInitialize_iff {malloc : Malloc} {s : Nat → UInt8} {length : Nat}
    {context : NscContext} {P : Nat → List Nat → List Nat → Prop} :
    (∀ context', nscContextInitialize malloc s length context = some context' →
        P context'.planeBuffersLength context'.orgByteCount context'.planeByteCount) ↔
      (20 ≤ length → NscAllocates malloc context.width context.height context →
        P (max context.planeBuffersLength (nscPlaneLength context.width context.height))
          (nscOrgByteCount context.width context.height (s 17).toNat)
          [leUInt32 s 0, leUInt32 s 4, leUInt32 s 8, leUInt32 s 12]) := by
  unfold nscContextInitialize nscStreamInitialize NscAllocates
  by_cases hlength : length < 20
  · refine iff_of_true ?_ fun h => absurd h (not_le.mpr hlength)
    rw [if_pos hlength]
    nofun
  rw [if_neg hlength]
  simp only [Option.bind_eq_bind, Option.bind_some, not_lt.mp hlength, true_implies]
  rw [← nscPlaneLength]
  generalize context.width * context.height * 4 % 2 ^ 32 = bitmapLength
  generalize nscPlaneLength context.width context.height = planeLength
  generalize (bitmapLength + 16) % 2 ^ 32 = allocated
  have hmax : max context.planeBuffersLength planeLength =
      if context.planeBuffersLength < planeLength then planeLength
      else context.planeBuffersLength := by
    split
    · exact max_eq_right (le_of_lt ‹_›)
    · exact max_eq_left (not_lt.mp ‹_›)
  rw [hmax]
  by_cases hbitmap : context.bitmapDataLength.all (· < bitmapLength) = true <;>
    by_cases hplane : context.planeBuffersLength < planeLength <;>
    by_cases hbitmap' : malloc.succeeds allocated = true <;>
    by_cases hplane' : malloc.succeeds planeLength = true <;>
    simp [hbitmap, hplane, hbitmap', hplane']

/-- Decoding the planes of a message stays inside exactly if they are of the grammar. -/
theorem nscInside_iff (malloc : Malloc) (s : Nat → UInt8) (length width height : Nat)
    (context : NscContext) : NscInside malloc s length width height context ↔
      (20 ≤ length → NscAllocates malloc (width % 2 ^ 16) (height % 2 ^ 16) context →
        PlanesData s
          (max context.planeBuffersLength (nscPlaneLength (width % 2 ^ 16) (height % 2 ^ 16))) length
          ((nscOrgByteCount (width % 2 ^ 16) (height % 2 ^ 16) (s 17).toNat).zip
            [leUInt32 s 0, leUInt32 s 4, leUInt32 s 8, leUInt32 s 12]) 20) := by
  rw [NscInside, forall_nscContextInitialize_iff (P := fun planeBuffersLength orgs planes =>
    DecodesInside s planeBuffersLength length (orgs.zip planes) 20)]
  refine forall_congr' fun _ => forall_congr' fun _ => decodesInside_iff fun p hp => ?_
  have horg := nscOrgByteCount_lt (Nat.mod_lt width (by decide)) (Nat.mod_lt height (by decide))
    p.1 (List.of_mem_zip hp).1
  omega

/-- A header that declares a plane of eight bytes, without any bytes behind it. -/
theorem not_nscInside :
    ¬NscInside mallocAll (fun i => if i = 0 then 8 else 0) 20 4 2 ⟨0, 0, none, 0, [], [], 0, 0⟩ := by
  intro h
  rw [NscInside, forall_nscContextInitialize_iff (P := fun planeBuffersLength orgs planes =>
    DecodesInside _ planeBuffersLength 20 (orgs.zip planes) 20)] at h
  have hinside := h le_rfl ⟨fun _ => by decide, fun _ => by decide⟩
  obtain ⟨fuel, r, hr, ⟨hlooked, -⟩, -⟩ := decodesInside_cons.mp hinside
  obtain rfl := Option.some.inj hr
  exact absurd hlooked (by decide)

end FreeRdp
