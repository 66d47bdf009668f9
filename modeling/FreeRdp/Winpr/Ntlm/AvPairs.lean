import FreeRdp.Library.Loops
import FreeRdp.Winpr.Endian

/-!
# AV pairs

The search in the lists of AV pairs of `ntlm_av_pairs.c`. A pair is the place where it begins in its
list, together with the number of bytes that the list has from there on. The list is as long as its
buffer; a null pointer is the empty list.
-/

namespace FreeRdp

/-! ### `NTLM_AV_ID` -/

def MsvAvEOL : Nat := 0
def MsvAvFlags : Nat := 6
def MsvAvTimestamp : Nat := 7

/-! ### Searching -/

/-- `sizeof(NTLM_AV_PAIR)`. -/
def sizeofNtlmAvPair : Nat := 4

/-- A pointer `pAvPair` into a list, with `cbAvPair`. -/
structure NtlmAvPair where
  offset : Nat
  cb : Nat
  deriving DecidableEq, Repr

variable (list : List UInt8) (avId : Nat)

/-- `AvId` of a pair. -/
def avIdAt (offset : Nat) : Nat := dataReadUInt16 (list.getD · 0) offset

/-- `AvLen` of a pair. -/
def avLenAt (offset : Nat) : Nat := dataReadUInt16 (list.getD · 0) (offset + 2)

/-- `ntlm_av_pair_get_id`. -/
def ntlmAvPairGetId (pair : NtlmAvPair) : Option Nat :=
  if pair.cb < sizeofNtlmAvPair then none else some (avIdAt list pair.offset)

/-- `ntlm_av_pair_get_len`. -/
def ntlmAvPairGetLen (pair : NtlmAvPair) : Option Nat :=
  if pair.cb < sizeofNtlmAvPair then none else some (avLenAt list pair.offset)

/-- `ntlm_av_pair_get_next_offset`. -/
def ntlmAvPairGetNextOffset (pair : NtlmAvPair) : Option Nat :=
  (ntlmAvPairGetLen list pair).map (· + sizeofNtlmAvPair)

/-- `ntlm_av_pair_check_data`. -/
def ntlmAvPairCheckData (pair : NtlmAvPair) (size : Nat) : Bool :=
  if pair.cb < sizeofNtlmAvPair + size then false
  else
    match ntlmAvPairGetNextOffset list pair with
    | none => false
    | some offset => pair.cb ≥ offset

/-- `ntlm_av_pair_check`. -/
def ntlmAvPairCheck (pair : NtlmAvPair) : Bool := ntlmAvPairCheckData list pair 0

/-- `ntlm_av_pair_next`. -/
def ntlmAvPairNext (pair : NtlmAvPair) : Option NtlmAvPair :=
  if !ntlmAvPairCheck list pair then none
  else
    (ntlmAvPairGetNextOffset list pair).map fun offset => ⟨pair.offset + offset, pair.cb - offset⟩

/-- A round of the loop of `ntlm_av_pair_get`. -/
def ntlmAvPairGetRound : Option NtlmAvPair → Round (Option NtlmAvPair) (Option NtlmAvPair)
  | none => .done none
  | some pair =>
    match ntlmAvPairGetId list pair with
    | none => .done (some pair)
    | some id =>
      if id = avId then .done (some pair)
      else if id = MsvAvEOL then .done none
      else .next (ntlmAvPairNext list pair)

/-- `ntlm_av_pair_get`: the pair, and as its `cb` what is stored as the remaining size. Every round
but the last takes four bytes at least. -/
def ntlmAvPairGet : Option NtlmAvPair :=
  let pair : NtlmAvPair := ⟨0, list.length⟩
  (loop (ntlmAvPairGetRound list avId) (list.length + 2)
    (if ntlmAvPairCheck list pair then some pair else none)).join

/-- `ntlm_av_pair_list_length`. -/
def ntlmAvPairListLength : Nat :=
  match ntlmAvPairGet list MsvAvEOL with
  | none => 0
  | some pair => pair.offset + sizeofNtlmAvPair

/-! ### The walk through a list -/

/-- The bytes that a pair takes, its header and its value. -/
def avSizeAt (offset : Nat) : Nat := sizeofNtlmAvPair + avLenAt list offset

/-- A pair that is inside of the list with its header and its value. -/
def CompleteAvPair (offset : Nat) : Prop :=
  offset + sizeofNtlmAvPair ≤ list.length ∧ offset + avSizeAt list offset ≤ list.length

/-- A complete pair that a search for `avId` goes on behind. -/
structure PassedAvPair (offset : Nat) : Prop where
  complete : CompleteAvPair list offset
  id_ne : avIdAt list offset ≠ avId
  id_ne_eol : avIdAt list offset ≠ MsvAvEOL

/-- The places that a search for `avId` comes to through complete pairs. -/
inductive AvWalk : Nat → Prop
  | start : AvWalk 0
  | next {offset : Nat} : AvWalk offset → PassedAvPair list avId offset →
      AvWalk (offset + avSizeAt list offset)

/-- The search comes to a complete pair with the id. -/
structure FoundAvPair (offset : Nat) : Prop where
  walk : AvWalk list avId offset
  complete : CompleteAvPair list offset
  id_eq : avIdAt list offset = avId

/-- The bytes of the value of a pair that the callers of `ntlm_av_pair_get` use: eight of a time
stamp and four of the flags, whatever its length is. -/
def avBytesUsed (offset : Nat) : Nat :=
  max (avLenAt list offset) (if avId = MsvAvTimestamp then 8 else if avId = MsvAvFlags then 4 else 0)

variable {list avId} {pair : NtlmAvPair} {offset offset' : Nat}

lemma sizeofNtlmAvPair_eq : sizeofNtlmAvPair = 4 := rfl

lemma avSizeAt_pos (list : List UInt8) (offset : Nat) : 0 < avSizeAt list offset := by
  rw [avSizeAt, sizeofNtlmAvPair_eq]
  omega

/-- The walk goes from pair to pair. -/
lemma AvWalk.passed (h : AvWalk list avId offset) (h' : AvWalk list avId offset')
    (hlt : offset < offset') :
    PassedAvPair list avId offset ∧ offset + avSizeAt list offset ≤ offset' := by
  induction offset' using Nat.strong_induction_on generalizing offset with
  | _ offset' ih =>
    cases h' with
    | start => exact absurd hlt (Nat.not_lt_zero offset)
    | @next before hbefore hpassed =>
      have hpos := avSizeAt_pos list before
      rcases Nat.lt_trichotomy offset before with hoffset | rfl | hoffset
      · obtain ⟨hpass, hle⟩ := ih before (by omega) h hbefore hoffset
        exact ⟨hpass, by omega⟩
      · exact ⟨hpassed, le_rfl⟩
      · -- there is no place between two pairs
        obtain ⟨-, hle⟩ := ih offset hlt hbefore h hoffset
        omega

/-- Where a walk ends there is the only pair that can be found. -/
lemma FoundAvPair.eq_of_not_passed (h : FoundAvPair list avId offset)
    (h' : AvWalk list avId offset') (hend : ¬PassedAvPair list avId offset') : offset = offset' := by
  rcases Nat.lt_trichotomy offset offset' with hlt | heq | hgt
  · exact absurd h.id_eq (h.walk.passed h' hlt).1.id_ne
  · exact heq
  · exact absurd (h'.passed h.walk hgt).1 hend

/-! ### What the search comes to -/

lemma ntlmAvPairGetId_of_lt (h : pair.cb < sizeofNtlmAvPair) : ntlmAvPairGetId list pair = none :=
  if_pos h

lemma ntlmAvPairGetId_of_le (h : sizeofNtlmAvPair ≤ pair.cb) :
    ntlmAvPairGetId list pair = some (avIdAt list pair.offset) := if_neg (Nat.not_lt.mpr h)

lemma ntlmAvPairGetNextOffset_of_le (h : sizeofNtlmAvPair ≤ pair.cb) :
    ntlmAvPairGetNextOffset list pair = some (avSizeAt list pair.offset) := by
  rw [ntlmAvPairGetNextOffset, ntlmAvPairGetLen, if_neg (Nat.not_lt.mpr h), Option.map_some,
    avSizeAt, Nat.add_comm]

/-- The check of a pair that has all bytes from its place on. -/
lemma ntlmAvPairCheck_iff (h : pair.offset + pair.cb = list.length) :
    ntlmAvPairCheck list pair = true ↔ CompleteAvPair list pair.offset := by
  unfold CompleteAvPair
  rw [ntlmAvPairCheck, ntlmAvPairCheckData, Nat.add_zero, ← h]
  rcases Nat.lt_or_ge pair.cb sizeofNtlmAvPair with hcb | hcb
  · simp [hcb]
  · simp [Nat.not_lt.mpr hcb, ntlmAvPairGetNextOffset_of_le hcb, hcb]

lemma ntlmAvPairNext_of_complete (h : pair.offset + pair.cb = list.length)
    (hcomplete : CompleteAvPair list pair.offset) :
    ntlmAvPairNext list pair =
      some ⟨pair.offset + avSizeAt list pair.offset, pair.cb - avSizeAt list pair.offset⟩ := by
  have hle : sizeofNtlmAvPair ≤ pair.cb := by
    have hheader := hcomplete.1
    omega
  rw [ntlmAvPairNext, (ntlmAvPairCheck_iff h).mpr hcomplete, ntlmAvPairGetNextOffset_of_le hle]
  rfl

lemma ntlmAvPairNext_of_not_complete (h : pair.offset + pair.cb = list.length)
    (hcomplete : ¬CompleteAvPair list pair.offset) : ntlmAvPairNext list pair = none := by
  have hcheck : ntlmAvPairCheck list pair = false := by
    rw [← Bool.not_eq_true, ntlmAvPairCheck_iff h]
    exact hcomplete
  rw [ntlmAvPairNext, hcheck]
  rfl

/-- The search ends without a pair: where it stands is no pair with the id, and only the first pair
may be cut off in its header. -/
structure AvSearchFailed (list : List UInt8) (avId offset : Nat) : Prop where
  walk : AvWalk list avId offset
  stop : ¬PassedAvPair list avId offset
  first : offset = 0 → CompleteAvPair list offset → avIdAt list offset ≠ avId
  later : offset ≠ 0 → offset + sizeofNtlmAvPair ≤ list.length ∧ avIdAt list offset ≠ avId

/-- The search stands at a pair. Only the first pair has been checked. -/
structure AvSearchAt (list : List UInt8) (avId : Nat) (pair : NtlmAvPair) : Prop where
  walk : AvWalk list avId pair.offset
  cb : pair.offset + pair.cb = list.length
  first : pair.offset = 0 → CompleteAvPair list pair.offset

/-- The invariant of the search. -/
def AvSearch (list : List UInt8) (avId : Nat) : Option NtlmAvPair → Prop
  | none => ∃ offset, AvSearchFailed list avId offset
  | some pair => AvSearchAt list avId pair

/-- What the search comes to. A pair that is returned has the id, or else no header. -/
def AvSearchDone (list : List UInt8) (avId : Nat) : Option NtlmAvPair → Prop
  | none => ∃ offset, AvSearchFailed list avId offset
  | some pair => AvSearchAt list avId pair ∧
      (sizeofNtlmAvPair ≤ pair.cb → avIdAt list pair.offset = avId)

/-- The bytes that a search has before it. -/
def avSearchLeft : Option NtlmAvPair → Nat
  | none => 0
  | some pair => pair.cb + 1

lemma ntlmAvPairGetRound_spec {p : Option NtlmAvPair} (h : AvSearch list avId p) :
    (ntlmAvPairGetRound list avId p).Ends
      (fun p' => AvSearch list avId p' ∧ avSearchLeft p' < avSearchLeft p)
      (AvSearchDone list avId) := by
  rcases p with _ | pair
  · exact h
  have hat : AvSearchAt list avId pair := h
  rcases Nat.lt_or_ge pair.cb sizeofNtlmAvPair with hcb | hcb
  · rw [ntlmAvPairGetRound, ntlmAvPairGetId_of_lt hcb]
    exact ⟨hat, fun hle => absurd hle (Nat.not_le.mpr hcb)⟩
  rw [ntlmAvPairGetRound, ntlmAvPairGetId_of_le hcb]
  have hheader : pair.offset + sizeofNtlmAvPair ≤ list.length := by
    have hend := hat.cb
    omega
  by_cases hid : avIdAt list pair.offset = avId
  · simp only [if_pos hid]
    exact ⟨hat, fun _ => hid⟩
  by_cases heol : avIdAt list pair.offset = MsvAvEOL
  · simp only [if_neg hid, if_pos heol]
    exact ⟨pair.offset, hat.walk, fun hpassed => hpassed.id_ne_eol heol, fun _ _ => hid,
      fun _ => ⟨hheader, hid⟩⟩
  simp only [if_neg hid, if_neg heol]
  by_cases hcomplete : CompleteAvPair list pair.offset
  · rw [ntlmAvPairNext_of_complete hat.cb hcomplete]
    have hpos := avSizeAt_pos list pair.offset
    have hsize := hcomplete.2
    have hend := hat.cb
    refine ⟨⟨hat.walk.next ⟨hcomplete, hid, heol⟩, ?_, ?_⟩, ?_⟩
    · show pair.offset + avSizeAt list pair.offset + (pair.cb - avSizeAt list pair.offset) = _
      omega
    · intro hzero
      simp only at hzero
      omega
    · show pair.cb - avSizeAt list pair.offset + 1 < pair.cb + 1
      omega
  · rw [ntlmAvPairNext_of_not_complete hat.cb hcomplete]
    exact ⟨⟨pair.offset, hat.walk, fun hpassed => hcomplete hpassed.complete, fun _ _ => hid,
      fun _ => ⟨hheader, hid⟩⟩, Nat.succ_pos pair.cb⟩

/-- The search ends. -/
lemma ntlmAvPairGet_spec (list : List UInt8) (avId : Nat) :
    AvSearchDone list avId (ntlmAvPairGet list avId) := by
  set start : NtlmAvPair := ⟨0, list.length⟩ with hstart
  have hcb : start.offset + start.cb = list.length := Nat.zero_add _
  set first := if ntlmAvPairCheck list start then some start else none with hfirst
  have hinit : AvSearch list avId first := by
    by_cases hcomplete : CompleteAvPair list start.offset
    · rw [hfirst, if_pos ((ntlmAvPairCheck_iff hcb).mpr hcomplete)]
      exact ⟨.start, hcb, fun _ => hcomplete⟩
    · rw [hfirst, if_neg (mt (ntlmAvPairCheck_iff hcb).mp hcomplete)]
      exact ⟨0, .start, fun hpassed => hcomplete hpassed.complete,
        fun _ hzero => absurd hzero hcomplete, fun hne => absurd rfl hne⟩
  have hleft : avSearchLeft first < list.length + 2 := by
    rw [hfirst]
    split
    · exact Nat.lt_succ_self _
    · exact Nat.succ_pos _
  obtain ⟨r, hr, hdone⟩ := loop_spec avSearchLeft (fun p hp _ => ntlmAvPairGetRound_spec hp) hinit
    (alongLoop_true _ _) hleft
  have hget : ntlmAvPairGet list avId = r := by
    rw [ntlmAvPairGet, hr]
    rfl
  rw [hget]
  exact hdone

/-! ### The exactness of the search -/

/-- What a search has to come to: a pair exactly if the walk finds one, this pair, as the remaining
size the bytes from it on, and all bytes of it that are used inside of the list. -/
structure AvGetExact (list : List UInt8) (avId : Nat) : Prop where
  isSome_iff : (ntlmAvPairGet list avId).isSome ↔ ∃ offset, FoundAvPair list avId offset
  found : ∀ pair, ntlmAvPairGet list avId = some pair → FoundAvPair list avId pair.offset
  remaining : ∀ pair, ntlmAvPairGet list avId = some pair → pair.offset + pair.cb = list.length
  listLength_le : avId = MsvAvEOL → ntlmAvPairListLength list ≤ list.length
  used : ∀ pair, ntlmAvPairGet list avId = some pair →
    pair.offset + sizeofNtlmAvPair + avBytesUsed list avId pair.offset ≤ list.length

/-- Behind the first pair the walk comes to no end of the list without an end marker, and to no pair
with the id that is cut off. The pair with the id has the bytes of a time stamp or of flags. -/
structure WholeAvPairs (list : List UInt8) (avId : Nat) : Prop where
  header : ∀ offset, AvWalk list avId offset → offset ≠ 0 →
    offset + sizeofNtlmAvPair ≤ list.length
  value : ∀ offset, AvWalk list avId offset → offset ≠ 0 → avIdAt list offset = avId →
    CompleteAvPair list offset
  used : ∀ offset, FoundAvPair list avId offset →
    offset + sizeofNtlmAvPair + avBytesUsed list avId offset ≤ list.length

/-- Two places where a search stops are the same. -/
lemma AvWalk.eq_of_not_passed (h : AvWalk list avId offset) (h' : AvWalk list avId offset')
    (hstop : ¬PassedAvPair list avId offset) (hstop' : ¬PassedAvPair list avId offset') :
    offset = offset' := by
  rcases Nat.lt_trichotomy offset offset' with hlt | heq | hgt
  · exact absurd (h.passed h' hlt).1 hstop
  · exact heq
  · exact absurd (h'.passed h hgt).1 hstop'

lemma AvSearchFailed.not_found (h : AvSearchFailed list avId offset) :
    ¬FoundAvPair list avId offset' := by
  intro hfound
  obtain rfl := hfound.eq_of_not_passed h.walk h.stop
  by_cases hzero : offset' = 0
  · exact h.first hzero hfound.complete hfound.id_eq
  · exact (h.later hzero).2 hfound.id_eq

/-- Where the search comes to the end of the list, or to a pair with the id, it returns a pair
there. -/
lemma ntlmAvPairGet_at (h : AvWalk list avId offset) (hne : offset ≠ 0)
    (hstop : list.length < offset + sizeofNtlmAvPair ∨ avIdAt list offset = avId) :
    ∃ pair, ntlmAvPairGet list avId = some pair ∧ pair.offset = offset := by
  have hstop' : ¬PassedAvPair list avId offset := by
    rintro ⟨hcomplete, hid, -⟩
    rcases hstop with hend | hid'
    · exact absurd hcomplete.1 (Nat.not_le.mpr hend)
    · exact hid hid'
  have hspec := ntlmAvPairGet_spec list avId
  rcases hget : ntlmAvPairGet list avId with _ | pair <;> rw [hget] at hspec
  · obtain ⟨last, hlast⟩ := hspec
    obtain rfl := h.eq_of_not_passed hlast.walk hstop' hlast.stop
    rcases hstop with hend | hid
    · exact absurd (hlast.later hne).1 (Nat.not_le.mpr hend)
    · exact absurd hid (hlast.later hne).2
  · obtain ⟨hat, hid⟩ := hspec
    refine ⟨pair, rfl, hat.walk.eq_of_not_passed h ?_ hstop'⟩
    rintro ⟨hcomplete, hne, -⟩
    have hcb := hat.cb
    have hheader := hcomplete.1
    exact hne (hid (by omega))

/-- `ntlm_av_pair_get` is exact exactly for lists whose pairs are whole: it returns a pair without
checking it, and returns the end of the list in place of a pair. -/
theorem avGetExact_iff (list : List UInt8) (avId : Nat) :
    AvGetExact list avId ↔ WholeAvPairs list avId := by
  constructor
  · intro h
    refine ⟨fun offset hwalk hne => ?_, fun offset hwalk hne hid => ?_, fun offset hfound => ?_⟩
    · by_contra hend
      obtain ⟨pair, hget, rfl⟩ := ntlmAvPairGet_at hwalk hne (.inl (Nat.not_le.mp hend))
      exact hend (h.found pair hget).complete.1
    · obtain ⟨pair, hget, rfl⟩ := ntlmAvPairGet_at hwalk hne (.inr hid)
      exact (h.found pair hget).complete
    · obtain ⟨pair, hget⟩ := Option.isSome_iff_exists.mp (h.isSome_iff.mpr ⟨offset, hfound⟩)
      have hpair := h.found pair hget
      obtain rfl := hfound.eq_of_not_passed hpair.walk fun hpassed => hpassed.id_ne hpair.id_eq
      exact h.used pair hget
  · intro h
    have hspec := ntlmAvPairGet_spec list avId
    have hfound : ∀ pair, ntlmAvPairGet list avId = some pair →
        FoundAvPair list avId pair.offset := by
      intro pair hget
      rw [hget] at hspec
      obtain ⟨hat, hid⟩ := hspec
      by_cases hzero : pair.offset = 0
      · have hcomplete := hat.first hzero
        have hcb := hat.cb
        have hheader := hcomplete.1
        exact ⟨hat.walk, hcomplete, hid (by omega)⟩
      · have hheader := h.header _ hat.walk hzero
        have hcb := hat.cb
        have hid' := hid (by omega)
        exact ⟨hat.walk, h.value _ hat.walk hzero hid', hid'⟩
    have hremaining : ∀ pair, ntlmAvPairGet list avId = some pair →
        pair.offset + pair.cb = list.length := by
      intro pair hget
      rw [hget] at hspec
      exact hspec.1.cb
    refine ⟨⟨fun hsome => ?_, fun ⟨offset, hoffset⟩ => ?_⟩, hfound, hremaining, fun heol => ?_,
      fun pair hget => h.used _ (hfound pair hget)⟩
    · obtain ⟨pair, hget⟩ := Option.isSome_iff_exists.mp hsome
      exact ⟨pair.offset, hfound pair hget⟩
    · rcases hget : ntlmAvPairGet list avId with _ | pair
      · rw [hget] at hspec
        obtain ⟨last, hlast⟩ := hspec
        exact absurd hoffset hlast.not_found
      · rfl
    · subst heol
      unfold ntlmAvPairListLength
      rcases hget : ntlmAvPairGet list MsvAvEOL with _ | pair
      · exact Nat.zero_le _
      · exact (hfound pair hget).complete.1

/-- A list whose only pair ends where the list does: the search for its end marker returns a pair
behind the list. -/
theorem not_avGetExact_without_eol : ¬AvGetExact [1, 0, 0, 0] MsvAvEOL := fun h =>
  absurd (h.listLength_le rfl) (by decide)

end FreeRdp
