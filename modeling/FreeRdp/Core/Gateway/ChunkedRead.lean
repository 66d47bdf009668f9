import FreeRdp.Core.Gateway.Chunked
import FreeRdp.Library.Runs

/-!
# Reading chunks

Where a reader is in a sequence of chunks, and what every round of `rdg_chuncked_read` does to that.
-/

namespace FreeRdp

/-! ### Chunks -/

/-- A chunk as it is written: its data, and whether its length is in capital letters. -/
structure Chunk where
  upper : Bool
  data : List UInt8
  ne_nil : data ≠ []
  length_le : data.length ≤ INT_MAX

namespace Chunk

/-- The line with the length. -/
def header (c : Chunk) : List UInt8 := hexDigits c.upper c.data.length ++ [13, 10]

lemma length_lt (c : Chunk) : c.data.length < 16 ^ 8 := by
  have hle := c.length_le
  rw [INT_MAX] at hle
  omega

/-- A chunk on the wire. -/
def encode (c : Chunk) : List UInt8 := c.header ++ (c.data ++ [13, 10])

end Chunk

/-- Chunks on the wire. -/
def encodeChunks (chunks : List Chunk) : List UInt8 := (chunks.map (·.encode)).flatten

/-- The data of chunks. -/
def chunkData (chunks : List Chunk) : List UInt8 := (chunks.map (·.data)).flatten

lemma hexChar_spec : ∀ upper : Bool, ∀ d < 16, hexValue (hexChar upper d) = some d ∧
    hexChar upper d ≠ 0 ∧ hexChar upper d ≠ 10 ∧ isSpace (hexChar upper d) = false ∧
    hexChar upper d ≠ 43 ∧ hexChar upper d ≠ 45 ∧ (d ≠ 0 → hexChar upper d ≠ 48) := by
  decide

lemma length_hexDigits_le (upper : Bool) {n : Nat} (h : n < 16 ^ 8) :
    (hexDigits upper n).length ≤ 8 := by
  rw [hexDigits, List.length_reverse, List.length_map]
  exact (Nat.digits_length_le_iff (by decide) n).mpr h

/-- The digits of a number are read back. -/
lemma hexPrefixValue_digits (upper : Bool) {ds : List Nat} (h : ∀ d ∈ ds, d < 16) (v : Nat)
    (rest : List UInt8) :
    hexPrefixValue v ((ds.map (hexChar upper)).reverse ++ rest) =
      hexPrefixValue (v * 16 ^ ds.length + Nat.ofDigits 16 ds) rest := by
  induction ds generalizing rest with
  | nil => simp [Nat.ofDigits_nil]
  | cons d ds ih =>
    have hd := (hexChar_spec upper d (h d List.mem_cons_self)).1
    rw [List.map_cons, List.reverse_cons, List.append_assoc,
      ih (fun d' hd' => h d' (List.mem_cons_of_mem d hd')), List.singleton_append, hexPrefixValue,
      hd]
    dsimp only
    congr 1
    rw [List.length_cons, Nat.ofDigits_cons, pow_succ]
    ring

/-- The first digit is not zero, and the others are digits. -/
lemma exists_hexDigits (upper : Bool) {n : Nat} (hn : n ≠ 0) :
    ∃ d, ∃ ds : List Nat, 0 < d ∧ d < 16 ∧ (∀ e ∈ ds, e < 16) ∧
      hexDigits upper n = hexChar upper d :: ds.map (hexChar upper) := by
  have hne : Nat.digits 16 n ≠ [] := Nat.digits_ne_nil_iff_ne_zero.mpr hn
  have hdigits : ∀ e ∈ (Nat.digits 16 n).reverse, e < 16 := fun e he =>
    Nat.digits_lt_base (by decide) (List.mem_reverse.mp he)
  have hlast := Nat.getLast_digit_ne_zero 16 hn
  rw [hexDigits, ← List.map_reverse]
  cases hrev : (Nat.digits 16 n).reverse with
  | nil => exact absurd (List.reverse_eq_nil_iff.mp hrev) hne
  | cons d ds =>
    rw [hrev] at hdigits
    refine ⟨d, ds, ?_, hdigits d List.mem_cons_self,
      fun e he => hdigits e (List.mem_cons_of_mem d he), rfl⟩
    have heq : (Nat.digits 16 n).getLast hne = d := by
      rw [List.getLast_eq_iff_getLast?_eq_some, ← List.head?_reverse, hrev]
      rfl
    rw [heq] at hlast
    exact Nat.pos_of_ne_zero hlast

/-- `strtoul` reads the length of a header. -/
lemma strtoul16_header (c : Chunk) (rest : List UInt8) :
    strtoul16 (c.header ++ 0 :: rest) = some c.data.length := by
  have hn : c.data.length ≠ 0 := fun hzero => c.ne_nil (List.length_eq_zero_iff.mp hzero)
  have hvalue : hexPrefixValue 0 c.header = c.data.length := by
    rw [Chunk.header, hexDigits, hexPrefixValue_digits c.upper
      (fun d hd => Nat.digits_lt_base (by decide) hd), Nat.ofDigits_digits, Nat.zero_mul,
      Nat.zero_add]
    rfl
  obtain ⟨d, ds, hpos, hd, hds, hdigits⟩ := exists_hexDigits c.upper hn
  obtain ⟨-, hnul, -, hspace, hplus, hminus, hzero⟩ := hexChar_spec c.upper d hd
  have hheader : c.header = hexChar c.upper d :: (ds.map (hexChar c.upper) ++ [13, 10]) := by
    rw [Chunk.header, hdigits, List.cons_append]
  have htake : (c.header ++ 0 :: rest).takeWhile (· ≠ 0) = c.header := by
    rw [List.takeWhile_append_of_pos, List.takeWhile_cons_of_neg (by decide), List.append_nil]
    intro b hb
    rw [hheader] at hb
    rcases List.mem_cons.mp hb with rfl | hb
    · exact decide_eq_true hnul
    rcases List.mem_append.mp hb with hb | hb
    · obtain ⟨e, he, rfl⟩ := List.mem_map.mp hb
      exact decide_eq_true (hexChar_spec c.upper e (hds e he)).2.1
    · fin_cases hb
      · decide
      · decide
  have hdrop : c.header.dropWhile isSpace = c.header := by
    rw [hheader, List.dropWhile_cons_of_neg (by rw [hspace]; decide)]
  have hsign : strtoulSign c.header = (false, c.header) := by
    rw [hheader, strtoulSign, if_neg hplus, if_neg hminus]
  have hfront : strtoulPrefix c.header = c.header := by
    rw [hheader]
    unfold strtoulPrefix
    split
    · rename_i hcons
      obtain ⟨rfl, -⟩ := List.cons.inj hcons
      rw [if_neg fun hand => hzero hpos.ne' hand.1, hcons]
    · rfl
  rw [strtoul16, htake, hdrop, hsign]
  dsimp only
  rw [hfront, hvalue, if_neg]
  · rfl
  · have hlt := c.length_lt
    norm_num at hlt ⊢
    omega

lemma Chunk.length_header_le (c : Chunk) : c.header.length ≤ 10 := by
  have hle := length_hexDigits_le c.upper c.length_lt
  rw [header, List.length_append]
  exact Nat.add_le_add_right hle 2

/-- Only the last byte of a header is a line feed. -/
lemma Chunk.header_eq_lf_iff (c : Chunk) {p : Nat} (hp : p < c.header.length) :
    c.header[p] = 10 ↔ p + 1 = c.header.length := by
  have hlen : c.header.length = (hexDigits c.upper c.data.length).length + 2 := by
    rw [header, List.length_append]
    rfl
  constructor
  · intro hlf
    by_contra hne
    by_cases hdigit : p < (hexDigits c.upper c.data.length).length
    · have hmem : c.header[p] ∈ hexDigits c.upper c.data.length := by
        simp only [header, List.getElem_append_left hdigit]
        exact List.getElem_mem hdigit
      rw [hlf, hexDigits, List.mem_reverse] at hmem
      obtain ⟨d, hd, heq⟩ := List.mem_map.mp hmem
      exact (hexChar_spec c.upper d (Nat.digits_lt_base (by decide) hd)).2.2.1 heq
    · have hcr : c.header[p] = 13 := by
        simp only [header]
        rw [List.getElem_append_right (by omega)]
        simp [show p - (hexDigits c.upper c.data.length).length = 0 by omega]
      rw [hcr] at hlf
      exact absurd hlf (by decide)
  · intro hend
    simp only [header]
    rw [List.getElem_append_right (by omega)]
    simp [show p - (hexDigits c.upper c.data.length).length = 1 by omega]

/-! ### Positions -/

/-- The position of a reader in a sequence of chunks, and what the caller has got. -/
inductive ChunkedAt (chunks : List Chunk) (r : ChunkedReader) (returned : List UInt8) : Prop
  | finished (hcontent : bioContent r.bio = []) (hstate : r.context.state = .lengthHeader)
      (hoffset : r.context.nextOffset = 0) (hpos : r.context.headerFooterPos = 0)
      (hbuffer : r.context.lenBuffer.length = 11) (hreturned : returned = chunkData chunks)
  | header (before : List Chunk) (c : Chunk) (after : List Chunk)
      (hchunks : chunks = before ++ c :: after) (p : Nat) (hp : p < c.header.length)
      (hcontent : bioContent r.bio =
        c.header.drop p ++ (c.data ++ ([13, 10] ++ encodeChunks after)))
      (hstate : r.context.state = .lengthHeader) (hoffset : r.context.nextOffset = 0)
      (hpos : r.context.headerFooterPos = p) (hbuffer : r.context.lenBuffer.length = 11)
      (hread : r.context.lenBuffer.take p = c.header.take p)
      (hreturned : returned = chunkData before)
  | data (before : List Chunk) (c : Chunk) (after : List Chunk)
      (hchunks : chunks = before ++ c :: after) (k : Nat) (hk : k < c.data.length)
      (hcontent : bioContent r.bio = c.data.drop k ++ ([13, 10] ++ encodeChunks after))
      (hstate : r.context.state = .data) (hoffset : r.context.nextOffset = c.data.length - k)
      (hbuffer : r.context.lenBuffer.length = 11)
      (hreturned : returned = chunkData before ++ c.data.take k)
  | footer (before : List Chunk) (c : Chunk) (after : List Chunk)
      (hchunks : chunks = before ++ c :: after) (p : Nat) (hp : p < 2)
      (hcontent : bioContent r.bio = [13, 10].drop p ++ encodeChunks after)
      (hstate : r.context.state = .footer) (hoffset : r.context.nextOffset = 0)
      (hpos : r.context.headerFooterPos = p) (hbuffer : r.context.lenBuffer.length = 11)
      (hreturned : returned = chunkData before ++ c.data)

section Rounds

variable {chunks : List Chunk} {r : ChunkedReader} {returned : List UInt8}

lemma encodeChunks_cons (c : Chunk) (chunks : List Chunk) :
    encodeChunks (c :: chunks) = c.header ++ (c.data ++ ([13, 10] ++ encodeChunks chunks)) := by
  rw [encodeChunks, List.map_cons, List.flatten_cons, Chunk.encode, List.append_assoc,
    List.append_assoc]
  rfl

lemma chunkData_concat (chunks : List Chunk) (c : Chunk) :
    chunkData (chunks ++ [c]) = chunkData chunks ++ c.data := by
  rw [chunkData, List.map_append, List.flatten_append]
  simp [chunkData]

/-- A reader between two chunks. -/
lemma ChunkedAt.boundary (before after : List Chunk) (hchunks : chunks = before ++ after)
    (hcontent : bioContent r.bio = encodeChunks after)
    (hstate : r.context.state = .lengthHeader) (hoffset : r.context.nextOffset = 0)
    (hpos : r.context.headerFooterPos = 0) (hbuffer : r.context.lenBuffer.length = 11)
    (hreturned : returned = chunkData before) : ChunkedAt chunks r returned := by
  cases after with
  | nil =>
    rw [List.append_nil] at hchunks
    exact .finished hcontent hstate hoffset hpos hbuffer (by rw [hreturned, hchunks])
  | cons c after =>
    refine .header before c after hchunks 0 ?_ ?_ hstate hoffset hpos hbuffer rfl hreturned
    · rw [Chunk.header, List.length_append]
      exact Nat.lt_add_left _ (by decide)
    · rw [hcontent, encodeChunks_cons]
      rfl

/-- A reader is where it was if its BIO has the same content. -/
lemma ChunkedAt.bio (h : ChunkedAt chunks r returned) {bio : List BioEvent}
    (hbio : bioContent r.bio = bioContent bio) : ChunkedAt chunks { r with bio := bio } returned := by
  cases h with
  | finished hcontent hstate hoffset hpos hbuffer hreturned =>
    exact .finished (hbio.symm.trans hcontent) hstate hoffset hpos hbuffer hreturned
  | header before c after hchunks p hp hcontent hstate hoffset hpos hbuffer hread hreturned =>
    exact .header before c after hchunks p hp (hbio.symm.trans hcontent) hstate hoffset hpos
      hbuffer hread hreturned
  | data before c after hchunks k hk hcontent hstate hoffset hbuffer hreturned =>
    exact .data before c after hchunks k hk (hbio.symm.trans hcontent) hstate hoffset hbuffer
      hreturned
  | footer before c after hchunks p hp hcontent hstate hoffset hpos hbuffer hreturned =>
    exact .footer before c after hchunks p hp (hbio.symm.trans hcontent) hstate hoffset hpos
      hbuffer hreturned

/-- What does not happen in a round: a read in a header or a footer has the result zero, or a read of
data brings the call to more bytes than an `int` counts. -/
def ChunkedAvoids (s : ChunkedCall) : Prop :=
  if s.reader.context.state = .data then
    s.buffer.length + (bioRead (min s.size s.reader.context.nextOffset) s.reader.bio).1 ≤ INT_MAX
  else s.reader.bio.head? ≠ some (.noData 0)

instance : DecidablePred ChunkedAvoids := fun s => by
  unfold ChunkedAvoids
  infer_instance

/-- A round after which the call goes on. -/
structure ChunkedGoesOn (chunks : List Chunk) (returned : List UInt8) (s s' : ChunkedCall) :
    Prop where
  position : ChunkedAt chunks s'.reader (returned ++ s'.buffer)
  size_pos : 0 < s'.size
  size_eq : s'.buffer.length + s'.size = s.buffer.length + s.size
  count_le : s'.buffer.length ≤ INT_MAX
  bioSize_lt : bioSize s'.reader.bio < bioSize s.reader.bio
  waits_eq : bioWaits s'.reader.bio = bioWaits s.reader.bio

/-- A call that returns: with the number of its bytes, or with a status that is not positive. It does
not read on after a read without data. -/
structure ChunkedReturns (chunks : List Chunk) (returned : List UInt8) (bio : List BioEvent)
    (size : Nat) (result : Int × List UInt8 × ChunkedReader) : Prop where
  position : ChunkedAt chunks result.2.2 (returned ++ result.2.1)
  status : if result.2.1 = [] then result.1 ≤ 0 else result.1 = result.2.1.length
  length_le : result.2.1.length ≤ size
  bio_lt : bioSize result.2.2.bio < bioSize bio ∨ bio = [] ∧ result.2.2.bio = []
  waits : bioWaits bio ≤ bioWaits result.2.2.bio + 1

/-- The outcome of a round. -/
def ChunkedRoundEnds (chunks : List Chunk) (returned : List UInt8) (s : ChunkedCall) : Prop :=
  (rdgChunkedRound s).Ends (ChunkedGoesOn chunks returned s) (fun result => ∃ t, result = some t ∧
    ChunkedReturns chunks returned s.reader.bio (s.buffer.length + s.size) t)

variable {s : ChunkedCall}

/-- A round that finds no data. -/
lemma ChunkedAt.noData {n : Nat} {status : Int} {bio : List BioEvent}
    (h : ChunkedAt chunks s.reader (returned ++ s.buffer)) (hcount : s.buffer.length ≤ INT_MAX)
    (hread : bioRead n s.reader.bio = (status, [], bio)) (hstatus : status ≤ 0)
    (hbio : bioContent s.reader.bio = bioContent bio)
    (hless : bioSize bio < bioSize s.reader.bio ∨ s.reader.bio = [] ∧ bio = [] ∧ status < 0) :
    ∃ t, s.result status { s.reader with bio := bio } = some t ∧
      ChunkedReturns chunks returned s.reader.bio (s.buffer.length + s.size) t := by
  refine ⟨_, rfl, h.bio hbio, ?_, Nat.le_add_right _ _,
    hless.imp_right fun hnil => ⟨hnil.1, hnil.2.1⟩, ?_⟩
  · dsimp only
    rw [ChunkedCall.effectiveDataLen, intOfSize_of_le hcount]
    split
    · rename_i hnil
      rw [hnil]
      exact hstatus
    · rename_i hbuffer
      have hpos := List.length_pos_iff.mpr hbuffer
      rw [if_pos (by omega)]
  · have hwaits := bioWaits_le_bioRead n s.reader.bio
    rw [hread] at hwaits
    exact hwaits

/-- A read without data in a header or a footer ends the call. -/
lemma ChunkedAt.noDataNeg {n : Nat} (hn : 0 < n) {status : Int} {bio : List BioEvent}
    (h : ChunkedAt chunks s.reader (returned ++ s.buffer)) (hcount : s.buffer.length ≤ INT_MAX)
    (havoids : ChunkedAvoids s) (hstate : s.reader.context.state ≠ .data)
    (hread : bioRead n s.reader.bio = (status, [], bio))
    (hbio : bioContent s.reader.bio = bioContent bio)
    (hless : bioSize bio < bioSize s.reader.bio ∨ s.reader.bio = [] ∧ bio = [] ∧ status < 0) :
    status < 0 ∧ ∃ t, s.result status { s.reader with bio := bio } = some t ∧
      ChunkedReturns chunks returned s.reader.bio (s.buffer.length + s.size) t := by
  rw [ChunkedAvoids, if_neg hstate] at havoids
  have hneg := bioRead_neg_of_noData hn hread havoids
  exact ⟨hneg, h.noData hcount hread hneg.le hbio hless⟩

/-- The round at the end of the last chunk. -/
lemma chunkedRound_finished (hcount : s.buffer.length ≤ INT_MAX) (havoids : ChunkedAvoids s)
    (hposition : ChunkedAt chunks s.reader (returned ++ s.buffer))
    (hcontent : bioContent s.reader.bio = []) (hstate : s.reader.context.state = .lengthHeader)
    (hoffset : s.reader.context.nextOffset = 0) (hpos : s.reader.context.headerFooterPos = 0) :
    ChunkedRoundEnds chunks returned s := by
  have hdata : s.reader.context.state ≠ .data := by
    rw [hstate]
    decide
  rw [ChunkedRoundEnds, rdgChunkedRound, hstate]
  dsimp only
  rw [rdgChunkedHeader, if_neg (fun hne => hne hoffset), hpos, if_pos (by decide)]
  rcases bioRead_one_cases s.reader.bio with ⟨status, bio, hread, hstatus, hbio, hless⟩ |
    ⟨byte, bio, hread, hbio, hless⟩
  · obtain ⟨hneg, hreturns⟩ := hposition.noDataNeg Nat.one_pos hcount havoids hdata hread hbio hless
    rw [hread]
    dsimp only
    rw [if_pos hneg]
    exact hreturns
  · rw [hcontent] at hbio
    cases hbio

/-- The text of a header, when its last byte has been stored. -/
lemma set_header {c : Chunk} {lenBuffer : List UInt8} {p : Nat} (hp : p < c.header.length)
    (hbuffer : lenBuffer.length = 11) (hread : lenBuffer.take p = c.header.take p) :
    (lenBuffer.set p c.header[p]).take (p + 1) = c.header.take (p + 1) := by
  have hle := c.length_header_le
  rw [List.take_succ_eq_append_getElem (by rw [List.length_set]; omega), List.getElem_set_self,
    List.take_set_of_le le_rfl, hread, List.take_succ_eq_append_getElem hp]

/-- The end of a header: the data of the chunk comes next. -/
lemma chunkedParse_header (hsize : 0 < s.size) (hcount : s.buffer.length ≤ INT_MAX)
    {before after : List Chunk} {c : Chunk}
    (hchunks : chunks = before ++ c :: after) {lenBuffer : List UInt8} {bio : List BioEvent}
    (hcontent : bioContent bio = c.data ++ ([13, 10] ++ encodeChunks after))
    (hbuffer : lenBuffer.length = 11) (hread : lenBuffer.take c.header.length = c.header)
    (hreturned : returned ++ s.buffer = chunkData before)
    (hless : bioSize bio < bioSize s.reader.bio)
    (hwaits : bioWaits bio = bioWaits s.reader.bio) :
    (rdgChunkedParse s ⟨⟨0, c.header.length, .lengthHeader, lenBuffer⟩, bio⟩).Ends
      (ChunkedGoesOn chunks returned s) (fun result => ∃ t, result = some t ∧
        ChunkedReturns chunks returned s.reader.bio (s.buffer.length + s.size) t) := by
  have hle := c.length_header_le
  have hset : lenBuffer.set c.header.length 0 =
      c.header ++ 0 :: lenBuffer.drop (c.header.length + 1) := by
    rw [List.set_eq_take_append_cons_drop, if_pos (by omega), hread]
  have hpos : 0 < c.data.length := List.length_pos_iff.mpr c.ne_nil
  rw [rdgChunkedParse]
  dsimp only
  rw [if_neg (by omega), hset, strtoul16_header]
  dsimp only
  rw [if_neg hpos.ne']
  refine ⟨.data before c after hchunks 0 hpos hcontent rfl rfl ?_ ?_, hsize, rfl, hcount, hless,
    hwaits⟩
  · dsimp only
    rw [← hset, List.length_set, hbuffer]
  · rw [hreturned, List.take_zero, List.append_nil]

/-- The round in a header. -/
lemma chunkedRound_header (hsize : 0 < s.size) (hcount : s.buffer.length ≤ INT_MAX)
    (havoids : ChunkedAvoids s)
    (hposition : ChunkedAt chunks s.reader (returned ++ s.buffer))
    {before after : List Chunk} {c : Chunk} (hchunks : chunks = before ++ c :: after) {p : Nat}
    (hp : p < c.header.length)
    (hcontent : bioContent s.reader.bio =
      c.header.drop p ++ (c.data ++ ([13, 10] ++ encodeChunks after)))
    (hstate : s.reader.context.state = .lengthHeader) (hoffset : s.reader.context.nextOffset = 0)
    (hpos : s.reader.context.headerFooterPos = p) (hbuffer : s.reader.context.lenBuffer.length = 11)
    (hread : s.reader.context.lenBuffer.take p = c.header.take p)
    (hreturned : returned ++ s.buffer = chunkData before) :
    ChunkedRoundEnds chunks returned s := by
  have hle := c.length_header_le
  have hdata : s.reader.context.state ≠ .data := by
    rw [hstate]
    decide
  rw [ChunkedRoundEnds, rdgChunkedRound, hstate]
  dsimp only
  rw [rdgChunkedHeader, if_neg (fun hne => hne hoffset), hpos, if_pos (by omega)]
  rcases bioRead_one_cases s.reader.bio with ⟨status, bio, hbioRead, hstatus, hbio, hless⟩ |
    ⟨byte, bio, hbioRead, hbio, hless⟩
  · obtain ⟨hneg, hreturns⟩ :=
      hposition.noDataNeg Nat.one_pos hcount havoids hdata hbioRead hbio hless
    rw [hbioRead]
    dsimp only
    rw [if_pos hneg]
    exact hreturns
  · have hwaits := bioWaits_eq_of_data hbioRead
    rw [hcontent, List.drop_eq_getElem_cons hp, List.cons_append] at hbio
    obtain ⟨rfl, hrest⟩ := List.cons.inj hbio
    have hlf : (s.reader.context.lenBuffer.set p c.header[p]).getD p 0 = c.header[p] := by
      rw [List.getD_eq_getElem?_getD, List.getElem?_set_self (by omega)]
      rfl
    rw [hbioRead]
    dsimp only
    rw [if_neg (by decide), if_neg (by omega), hlf, hoffset, hstate]
    by_cases hend : p + 1 = c.header.length
    · rw [if_pos (.inl ((c.header_eq_lf_iff hp).mpr hend))]
      rw [hend, List.drop_length, List.nil_append] at hrest
      have htake := set_header hp hbuffer hread
      rw [hend, List.take_length] at htake
      have hparse := chunkedParse_header hsize hcount hchunks hrest.symm
        (List.length_set.trans hbuffer) htake hreturned hless hwaits
      rw [← hend] at hparse
      exact hparse
    · rw [if_neg]
      · exact ⟨.header before c after hchunks (p + 1) (by omega) hrest.symm rfl rfl rfl
          (List.length_set.trans hbuffer) (set_header hp hbuffer hread) hreturned, hsize, rfl,
          hcount, hless, hwaits⟩
      · rintro (hnewline | hlong)
        · exact hend ((c.header_eq_lf_iff hp).mp hnewline)
        · exact hlong (show p + 1 < 10 by omega)

/-- Bytes that were read from the data of a chunk. -/
lemma data_read (data : List UInt8) {rest bytes content : List UInt8} {k : Nat}
    (hle : bytes.length ≤ data.length - k)
    (h : data.drop k ++ rest = bytes ++ content) :
    data.take (k + bytes.length) = data.take k ++ bytes ∧
      content = data.drop (k + bytes.length) ++ rest := by
  have hlen : bytes.length ≤ (data.drop k).length := by rwa [List.length_drop]
  constructor
  · have htake := congrArg (List.take bytes.length) h
    rw [List.take_left, List.take_append_of_le_length hlen] at htake
    rw [List.take_add, htake]
  · have hdrop := congrArg (List.drop bytes.length) h
    rw [List.drop_left, List.drop_append_of_le_length hlen, List.drop_drop] at hdrop
    exact hdrop.symm

/-- The reader after a part of the data. -/
lemma ChunkedAt.dataRead {before after : List Chunk} {c : Chunk}
    (hchunks : chunks = before ++ c :: after) {k : Nat} {bytes : List UInt8}
    (hle : bytes.length ≤ c.data.length - k) {bio : List BioEvent}
    (hcontent : bioContent bio =
      c.data.drop (k + bytes.length) ++ ([13, 10] ++ encodeChunks after))
    (hstate : r.context.state = .data) (hoffset : r.context.nextOffset = c.data.length - k)
    (hbuffer : r.context.lenBuffer.length = 11) (hk : k < c.data.length)
    (hreturned : returned = chunkData before ++ c.data.take (k + bytes.length)) :
    ChunkedAt chunks
      ⟨if sizeSub r.context.nextOffset bytes.length = 0 then
          ⟨sizeSub r.context.nextOffset bytes.length, 0, .footer, r.context.lenBuffer⟩
        else { r.context with nextOffset := sizeSub r.context.nextOffset bytes.length }, bio⟩
      returned := by
  have hmax := c.length_le
  rw [INT_MAX] at hmax
  have hsub : sizeSub r.context.nextOffset bytes.length = c.data.length - (k + bytes.length) := by
    rw [hoffset, sizeSub_of_le hle (by omega)]
    omega
  rw [hsub]
  by_cases hend : k + bytes.length = c.data.length
  · rw [hend, List.drop_length, List.nil_append] at hcontent
    rw [hend, List.take_length] at hreturned
    rw [hend, Nat.sub_self, if_pos rfl]
    exact .footer before c after hchunks 0 (by decide) hcontent rfl rfl rfl hbuffer hreturned
  · rw [if_neg (by omega)]
    exact .data before c after hchunks (k + bytes.length) (by omega) hcontent hstate rfl hbuffer
      hreturned

/-- The round in the data of a chunk. -/
lemma chunkedRound_data (hsize : 0 < s.size) (hcount : s.buffer.length ≤ INT_MAX)
    (havoids : ChunkedAvoids s)
    (hposition : ChunkedAt chunks s.reader (returned ++ s.buffer))
    {before after : List Chunk} {c : Chunk} (hchunks : chunks = before ++ c :: after) {k : Nat}
    (hk : k < c.data.length)
    (hcontent : bioContent s.reader.bio = c.data.drop k ++ ([13, 10] ++ encodeChunks after))
    (hstate : s.reader.context.state = .data)
    (hoffset : s.reader.context.nextOffset = c.data.length - k)
    (hbuffer : s.reader.context.lenBuffer.length = 11)
    (hreturned : returned ++ s.buffer = chunkData before ++ c.data.take k) :
    ChunkedRoundEnds chunks returned s := by
  obtain ⟨n, hn⟩ : ∃ n, (if s.size > s.reader.context.nextOffset then
    s.reader.context.nextOffset else s.size) = n := ⟨_, rfl⟩
  have hbound : 0 < n ∧ n ≤ s.size ∧ n ≤ c.data.length - k := by
    rw [hoffset] at hn
    split at hn
    · omega
    · omega
  have hmin : min s.size s.reader.context.nextOffset = n := by
    split at hn
    · omega
    · omega
  rw [ChunkedAvoids, if_pos hstate, hmin] at havoids
  obtain ⟨hpos, hle, hleft⟩ := hbound
  rw [ChunkedRoundEnds, rdgChunkedRound, hstate]
  dsimp only
  rw [rdgChunkedData, hn, bioReadSize_eq hpos (hleft.trans ((Nat.sub_le _ _).trans c.length_le)),
    ChunkedCall.dataRead]
  rcases bioRead_cases hpos s.reader.bio with ⟨status, bio, hread, hstatus, hbio, hless⟩ |
    ⟨byte, bytes, bio, hread, hlen, hbio, hless⟩
  · rw [hread]
    dsimp only
    rw [if_pos hstatus]
    exact hposition.noData hcount hread hstatus hbio hless
  · have hwaits := bioWaits_eq_of_data hread
    rw [hread] at havoids ⊢
    obtain ⟨bs, hbs⟩ : ∃ bs, byte :: bytes = bs := ⟨_, rfl⟩
    have hne : bs ≠ [] := hbs ▸ List.cons_ne_nil byte bytes
    rw [hbs] at hlen hbio havoids ⊢
    rw [hcontent] at hbio
    obtain ⟨htake, hrest⟩ := data_read c.data (hlen.trans hleft) hbio
    have hreturned' : returned ++ (s.buffer ++ bs) =
        chunkData before ++ c.data.take (k + bs.length) := by
      rw [← List.append_assoc, hreturned, List.append_assoc, htake]
    have hat := ChunkedAt.dataRead hchunks (hlen.trans hleft) hrest hstate hoffset hbuffer hk
      hreturned'
    have hbsPos : 0 < bs.length := List.length_pos_iff.mpr hne
    have hcount' : (s.buffer ++ bs).length ≤ INT_MAX := by
      rw [List.length_append]
      exact Int.ofNat_le.mp havoids
    dsimp only
    rw [if_neg (by omega), Int.toNat_natCast]
    by_cases hfull : bs.length = s.size
    · rw [if_pos hfull]
      refine ⟨_, rfl, hat, ?_, ?_, .inl hless, ?_⟩
      · dsimp only
        rw [if_neg fun hnil => hne (List.append_eq_nil_iff.mp hnil).2,
          ChunkedCall.effectiveDataLen, intOfSize_of_le hcount']
      · rw [List.length_append, hfull]
      · dsimp only
        omega
    · rw [if_neg hfull]
      refine ⟨hat, ?_, ?_, hcount', hless, hwaits⟩
      · dsimp only
        omega
      · dsimp only
        rw [List.length_append]
        omega

/-- The round in a footer. -/
lemma chunkedRound_footer (hsize : 0 < s.size) (hcount : s.buffer.length ≤ INT_MAX)
    (havoids : ChunkedAvoids s)
    (hposition : ChunkedAt chunks s.reader (returned ++ s.buffer))
    {before after : List Chunk} {c : Chunk} (hchunks : chunks = before ++ c :: after) {p : Nat}
    (hp : p < 2) (hcontent : bioContent s.reader.bio = [13, 10].drop p ++ encodeChunks after)
    (hstate : s.reader.context.state = .footer) (hoffset : s.reader.context.nextOffset = 0)
    (hpos : s.reader.context.headerFooterPos = p)
    (hbuffer : s.reader.context.lenBuffer.length = 11)
    (hreturned : returned ++ s.buffer = chunkData before ++ c.data) :
    ChunkedRoundEnds chunks returned s := by
  have hdata : s.reader.context.state ≠ .data := by
    rw [hstate]
    decide
  rw [ChunkedRoundEnds, rdgChunkedRound, hstate]
  dsimp only
  rw [rdgChunkedFooter, if_neg (by rw [hpos]; exact fun hneg => hneg ⟨hoffset, hp⟩), hpos]
  rcases bioRead_cases (n := 2 - p) (by omega) s.reader.bio with
    ⟨status, bio, hread, hstatus, hbio, hless⟩ | ⟨byte, bytes, bio, hread, hlen, hbio, hless⟩
  · obtain ⟨hneg, hreturns⟩ := hposition.noDataNeg (n := 2 - p) (by omega) hcount havoids hdata
      hread hbio hless
    rw [hread]
    dsimp only
    rw [if_pos hneg]
    exact hreturns
  · have hwaits := bioWaits_eq_of_data hread
    rw [hread]
    obtain ⟨bs, hbs⟩ : ∃ bs, byte :: bytes = bs := ⟨_, rfl⟩
    rw [hbs] at hlen hbio ⊢
    rw [hcontent] at hbio
    have hrest := (data_read [13, 10] hlen hbio).2
    dsimp only
    rw [if_neg (by omega), Int.toNat_natCast]
    refine ⟨?_, hsize, rfl, hcount, hless, hwaits⟩
    dsimp only
    by_cases hend : p + bs.length = 2
    · rw [if_pos hend]
      rw [hend] at hrest
      refine .boundary (before ++ [c]) after ?_ hrest rfl hoffset rfl hbuffer ?_
      · rw [hchunks, List.append_assoc]
        rfl
      · rw [hreturned, chunkData_concat]
    · rw [if_neg hend]
      exact .footer before c after hchunks (p + bs.length) (by omega) hrest hstate hoffset rfl
        hbuffer hreturned

/-- One round, wherever the reader is. -/
lemma ChunkedAt.round (h : ChunkedAt chunks s.reader (returned ++ s.buffer)) (hsize : 0 < s.size)
    (hcount : s.buffer.length ≤ INT_MAX) (havoids : ChunkedAvoids s) :
    ChunkedRoundEnds chunks returned s := by
  cases h with
  | finished hcontent hstate hoffset hpos hbuffer hreturned =>
    exact chunkedRound_finished hcount havoids
      (.finished hcontent hstate hoffset hpos hbuffer hreturned) hcontent hstate hoffset hpos
  | header before c after hchunks p hp hcontent hstate hoffset hpos hbuffer hread hreturned =>
    exact chunkedRound_header hsize hcount havoids
      (.header before c after hchunks p hp hcontent hstate hoffset hpos hbuffer hread hreturned)
      hchunks hp hcontent hstate hoffset hpos hbuffer hread
      hreturned
  | data before c after hchunks k hk hcontent hstate hoffset hbuffer hreturned =>
    exact chunkedRound_data hsize hcount havoids
      (.data before c after hchunks k hk hcontent hstate hoffset hbuffer hreturned) hchunks hk
      hcontent hstate hoffset hbuffer hreturned
  | footer before c after hchunks p hp hcontent hstate hoffset hpos hbuffer hreturned =>
    exact chunkedRound_footer hsize hcount havoids
      (.footer before c after hchunks p hp hcontent hstate hoffset hpos hbuffer hreturned) hchunks
      hp hcontent hstate hoffset hpos hbuffer hreturned

/-- A call returns, and the reader is at its position after it. -/
lemma ChunkedAt.read (hposition : ChunkedAt chunks r returned) {size : Nat} (hsize : 0 < size)
    (hmeets : AlongLoop rdgChunkedRound ChunkedAvoids (rdgChunkedFuel r) ⟨r, [], size⟩) :
    ∃ t, rdgChunckedRead r size = some (some t) ∧
      ChunkedReturns chunks returned r.bio size t := by
  -- the invariant of the loop: where the reader is, and that it has not waited yet
  have hround : ∀ s : ChunkedCall,
      (ChunkedAt chunks s.reader (returned ++ s.buffer) ∧ 0 < s.size ∧
        s.buffer.length + s.size = size ∧ s.buffer.length ≤ INT_MAX ∧
        bioSize s.reader.bio ≤ bioSize r.bio ∧ bioWaits s.reader.bio = bioWaits r.bio) →
      ChunkedAvoids s →
      (rdgChunkedRound s).Ends
        (fun s' => (ChunkedAt chunks s'.reader (returned ++ s'.buffer) ∧ 0 < s'.size ∧
          s'.buffer.length + s'.size = size ∧ s'.buffer.length ≤ INT_MAX ∧
          bioSize s'.reader.bio ≤ bioSize r.bio ∧ bioWaits s'.reader.bio = bioWaits r.bio) ∧
          bioSize s'.reader.bio < bioSize s.reader.bio)
        (fun result => ∃ t, result = some t ∧ ChunkedReturns chunks returned r.bio size t) := by
    rintro s ⟨hat, hpos, hlen, hcount, hle, hwaits⟩ havoids
    have hends := hat.round hpos hcount havoids
    rw [ChunkedRoundEnds] at hends
    cases hr : rdgChunkedRound s with
    | next s' =>
      rw [hr] at hends
      exact ⟨⟨hends.position, hends.size_pos, hends.size_eq.trans hlen, hends.count_le,
        hends.bioSize_lt.le.trans hle, hends.waits_eq.trans hwaits⟩, hends.bioSize_lt⟩
    | done result =>
      rw [hr] at hends
      obtain ⟨t, ht, hreturns⟩ := hends
      refine ⟨t, ht, hreturns.position, hreturns.status, hreturns.length_le.trans_eq hlen, ?_, ?_⟩
      · rcases hreturns.bio_lt with hlt | ⟨hnil, hnil'⟩
        · exact .inl (hlt.trans_le hle)
        · rw [hnil']
          by_cases hr : r.bio = []
          · exact .inr ⟨hr, rfl⟩
          · exact .inl (bioSize_pos hr)
      · rw [← hwaits]
        exact hreturns.waits
  have hfuel : bioSize r.bio < rdgChunkedFuel r := by
    rw [rdgChunkedFuel]
    omega
  obtain ⟨result, hloop, t, rfl, hreturns⟩ :=
    loop_spec (fun s : ChunkedCall => bioSize s.reader.bio) hround
      (s := (⟨r, [], size⟩ : ChunkedCall))
      ⟨by rwa [List.append_nil], hsize, Nat.zero_add size, Nat.zero_le _, le_rfl, rfl⟩ hmeets hfuel
  exact ⟨t, hloop, hreturns⟩

end Rounds

/-! ### Runs -/

/-- A packet that was written, with `rdg_write_chunked` or as data. -/
inductive ChunkedWrite where
  | packet (bytes : List UInt8)
  | dataPacket (data : List UInt8)
  deriving DecidableEq, Repr

/-- The bytes that are written. -/
def ChunkedWrite.written (malloc : Malloc) : ChunkedWrite → Option (List UInt8)
  | .packet bytes => rdgWriteChunked malloc bytes
  | .dataPacket data => rdgWriteChunkedDataPacket malloc data

/-- The packet itself. -/
def ChunkedWrite.content : ChunkedWrite → List UInt8
  | .packet bytes => bytes
  | .dataPacket data => FreeRdp.dataPacket data

/-- The bytes of several packets, if all are written. -/
def chunkedStream (malloc : Malloc) : List ChunkedWrite → Option (List UInt8)
  | [] => some []
  | w :: ws => (w.written malloc).bind fun bytes => (chunkedStream malloc ws).map (bytes ++ ·)

/-- A reader, and what the calls so far have returned. -/
structure ChunkedRun where
  reader : ChunkedReader
  returned : List UInt8

/-- A new context on a BIO. -/
def ChunkedRun.start (bio : List BioEvent) : ChunkedRun := ⟨⟨.new, bio⟩, []⟩

/-- A call with a buffer of the given size. -/
def chunkedStep (s : ChunkedRun) (size : Nat) : ChunkedRun :=
  match rdgChunckedRead s.reader size with
  | some (some (_, bytes, reader)) => ⟨reader, s.returned ++ bytes⟩
  | _ => s

/-- The condition on a call: its buffer is not empty, no read in a header or footer has the result
zero, and the bytes of the call can be counted with an `int`. -/
def ChunkedMeets (s : ChunkedRun) (size : Nat) : Prop :=
  0 < size ∧ AlongLoop rdgChunkedRound ChunkedAvoids (rdgChunkedFuel s.reader) ⟨s.reader, [], size⟩

instance (s : ChunkedRun) (size : Nat) : Decidable (ChunkedMeets s size) := by
  unfold ChunkedMeets
  infer_instance

/-- A call returns, without a failed assertion or a write outside of `lenBuffer`, and what was
returned is what the chunks up to here say. -/
def ChunkedExact (chunks : List Chunk) (s : ChunkedRun) (size : Nat) : Prop :=
  ∃ t, rdgChunckedRead s.reader size = some (some t) ∧
    ChunkedReturns chunks s.returned s.reader.bio size t

/-- What is written is a chunk. -/
lemma writeChunk_eq {malloc : Malloc} {upper : Bool} {data bytes : List UInt8} (hne : data ≠ [])
    (h : writeChunk malloc (chunkHeader upper data.length) data = some bytes) :
    ∃ c : Chunk, c.encode = bytes ∧ c.data = data := by
  rw [writeChunk] at h
  split at h
  · cases h
  dsimp only at h
  split at h
  · cases h
  rename_i hlen
  have hle : data.length ≤ INT_MAX := by
    rw [List.length_append, List.length_append] at hlen
    omega
  refine ⟨⟨upper, data, hne, hle⟩, ?_, rfl⟩
  have hheader := Chunk.length_header_le ⟨upper, data, hne, hle⟩
  rw [Chunk.header] at hheader
  obtain rfl := Option.some.inj h
  rw [Chunk.encode, Chunk.header, chunkHeader, List.take_of_length_le hheader]
  simp only [List.append_assoc]

lemma length_dataPacket (data : List UInt8) : (dataPacket data).length = data.length + 10 := by
  rw [dataPacket, List.length_append, Nat.add_comm]
  rfl

/-- The bytes of several packets are chunks with these packets. -/
lemma chunkedStream_eq {malloc : Malloc} {writes : List ChunkedWrite} {bytes : List UInt8}
    (hne : ∀ w ∈ writes, w.content ≠ []) (h : chunkedStream malloc writes = some bytes) :
    ∃ chunks : List Chunk, bytes = encodeChunks chunks ∧
      chunks.map (·.data) = writes.map (·.content) := by
  induction writes generalizing bytes with
  | nil =>
    obtain rfl := Option.some.inj h
    exact ⟨[], rfl, rfl⟩
  | cons w writes ih =>
    rw [chunkedStream, Option.bind_eq_some_iff] at h
    obtain ⟨front, hfront, h⟩ := h
    obtain ⟨back, hback, rfl⟩ := Option.map_eq_some_iff.mp h
    obtain ⟨chunks, rfl, hdata⟩ := ih (fun w' hw => hne w' (List.mem_cons_of_mem w hw)) hback
    have hchunk : ∃ c : Chunk, c.encode = front ∧ c.data = w.content := by
      have hw := hne w List.mem_cons_self
      cases w with
      | packet bytes => exact writeChunk_eq hw hfront
      | dataPacket data =>
        rw [ChunkedWrite.written, rdgWriteChunkedDataPacket] at hfront
        split at hfront
        · cases hfront
        split at hfront
        · cases hfront
        rw [← length_dataPacket] at hfront
        exact writeChunk_eq hw hfront
    obtain ⟨c, rfl, hc⟩ := hchunk
    exact ⟨c :: chunks, rfl, by rw [List.map_cons, List.map_cons, hc, hdata]⟩

variable {chunks : List Chunk} {s : ChunkedRun}

/-- A reader with nothing left to read is behind the last chunk. -/
lemma ChunkedAt.returned_eq (h : ChunkedAt chunks s.reader s.returned)
    (hnil : bioContent s.reader.bio = []) : s.returned = chunkData chunks := by
  cases h with
  | finished hcontent hstate hoffset hpos hbuffer hreturned => exact hreturned
  | header before c after hchunks p hp hcontent hstate hoffset hpos hbuffer hread hreturned =>
    rw [hnil, List.drop_eq_getElem_cons hp] at hcontent
    cases hcontent
  | data before c after hchunks k hk hcontent hstate hoffset hbuffer hreturned =>
    rw [hnil, List.drop_eq_getElem_cons hk] at hcontent
    cases hcontent
  | footer before c after hchunks p hp hcontent hstate hoffset hpos hbuffer hreturned =>
    have hlen : p < ([13, 10] : List UInt8).length := hp
    rw [hnil, List.drop_eq_getElem_cons hlen] at hcontent
    cases hcontent

/-- One call. -/
lemma ChunkedAt.step (h : ChunkedAt chunks s.reader s.returned) {size : Nat}
    (hmeets : ChunkedMeets s size) :
    ChunkedExact chunks s size ∧
      ChunkedAt chunks (chunkedStep s size).reader (chunkedStep s size).returned ∧
      bioSize (chunkedStep s size).reader.bio ≤ bioSize s.reader.bio - 1 := by
  obtain ⟨⟨status, bytes, reader⟩, hread, hreturns⟩ := h.read hmeets.1 hmeets.2
  refine ⟨⟨_, hread, hreturns⟩, ?_⟩
  rw [chunkedStep, hread]
  refine ⟨hreturns.position, ?_⟩
  rcases hreturns.bio_lt with hlt | ⟨-, hnil⟩
  · exact Nat.le_sub_one_of_lt hlt
  · dsimp only at hnil ⊢
    rw [hnil]
    exact Nat.zero_le _

/-- Calls, each of which reads something, come to the end. -/
lemma ChunkedAt.run (h : ChunkedAt chunks s.reader s.returned) {sizes : List Nat}
    (hmeets : AlongRun chunkedStep ChunkedMeets s sizes) :
    ChunkedAt chunks (sizes.foldl chunkedStep s).reader (sizes.foldl chunkedStep s).returned ∧
      bioSize (sizes.foldl chunkedStep s).reader.bio ≤ bioSize s.reader.bio - sizes.length := by
  induction sizes generalizing s with
  | nil => exact ⟨h, le_rfl⟩
  | cons size sizes ih =>
    obtain ⟨-, hat, hless⟩ := h.step hmeets.1
    obtain ⟨hat', hless'⟩ := ih hat hmeets.2
    refine ⟨hat', hless'.trans ?_⟩
    rw [List.length_cons]
    omega

/-- In every run that meets the condition, each call returns what comes next in the packets that were
written. With enough calls that is everything. -/
theorem rdgChunckedRead_packets {malloc : Malloc} {writes : List ChunkedWrite}
    {bio : List BioEvent} (hne : ∀ w ∈ writes, w.content ≠ [])
    (hbio : chunkedStream malloc writes = some (bioContent bio)) {sizes : List Nat}
    (hmeets : AlongRun chunkedStep ChunkedMeets (.start bio) sizes) :
    (∃ chunks : List Chunk, bioContent bio = encodeChunks chunks ∧
        chunks.map (·.data) = writes.map (·.content) ∧
        AlongRun chunkedStep (ChunkedExact chunks) (.start bio) sizes) ∧
      (bioSize bio ≤ sizes.length → (sizes.foldl chunkedStep (.start bio)).returned =
        (writes.map (·.content)).flatten) := by
  obtain ⟨chunks, hchunks, hdata⟩ := chunkedStream_eq hne hbio
  have hstart : ChunkedAt chunks (ChunkedRun.start bio).reader (ChunkedRun.start bio).returned :=
    .boundary [] chunks rfl hchunks rfl rfl rfl rfl rfl
  have hstep : ∀ (s : ChunkedRun) (size : Nat), ChunkedAt chunks s.reader s.returned →
      ChunkedMeets s size → ChunkedExact chunks s size ∧
        ChunkedAt chunks (chunkedStep s size).reader (chunkedStep s size).returned :=
    fun s size h hmeets => ⟨(h.step hmeets).1, (h.step hmeets).2.1⟩
  refine ⟨⟨chunks, hchunks, hdata, hmeets.imp hstep hstart⟩, fun hlen => ?_⟩
  obtain ⟨hat, hless⟩ := hstart.run hmeets
  have hzero : bioSize (ChunkedRun.start bio).reader.bio - sizes.length = 0 :=
    Nat.sub_eq_zero_of_le hlen
  rw [hat.returned_eq (bioContent_of_size_eq_zero (Nat.le_zero.mp (hless.trans_eq hzero))),
    chunkData, hdata]

theorem rdgChunckedRead_packets_interrupted :
    ∃ bio : List BioEvent, ∃ sizes : List Nat,
      BioEvent.noData 1 ∈ bio ∧ BioEvent.noData 0 ∈ bio ∧
      (sizes.foldl chunkedStep (.start bio)).returned = [1, 2, 3] ++ dataPacket [4, 5] := by
  let bio : List BioEvent :=
    [.data 51 [13], .noData 1, .data 10 [1, 2], .noData 0, .data 3 [13], .noData 3,
      .data 10 [99, 13, 10], .data 10 [0, 0, 0, 12, 0, 0, 0, 2, 0, 4], .data 5 [13, 10]]
  let writes : List ChunkedWrite := [.packet [1, 2, 3], .dataPacket [4, 5]]
  have hne : ∀ w ∈ writes, w.content ≠ [] := by decide
  have hbio : chunkedStream mallocAll writes = some (bioContent bio) := by decide
  have hmeets : AlongRun chunkedStep ChunkedMeets (.start bio) (List.replicate 32 4) := by
    decide +kernel
  exact ⟨bio, _, by decide, by decide, (rdgChunckedRead_packets hne hbio hmeets).2 (by decide)⟩

/-- A read with the result zero behind the digits of a header. The line feed of the header before is
taken for its end. -/
theorem rdgChunckedRead_zero :
    let writes : List ChunkedWrite := [.packet [1], .packet (List.replicate 16 7)]
    let bio : List BioEvent := [.data 49 [13, 10, 1, 13, 10, 49, 48], .noData 0,
      .data 13 [10, 7, 7, 7, 7, 7, 7, 7, 7, 7, 7, 7, 7, 7, 7, 7, 7, 13, 10]]
    chunkedStream mallocAll writes = some (bioContent bio) ∧
      ((List.replicate 4 100).foldl chunkedStep (.start bio)).returned =
        [1, 13, 10, 7, 7, 7, 7, 7, 7, 7, 7, 7, 7, 7, 7, 7, 7] ∧
      ¬ [1, 13, 10, 7, 7, 7, 7, 7, 7, 7, 7, 7, 7, 7, 7, 7, 7] <+:
        (writes.map (·.content)).flatten := by
  decide +kernel

end FreeRdp
