import FreeRdp.Core.Gateway.Rts.Header
import FreeRdp.Winpr.Endian

/-!
# What reading the header of a PDU may touch

Where each part of a header ends is said in closed form, from the bytes alone. The parts are read
inside of the fragment, but for the results of a bind: two bytes are checked for and four are read.
The trailer is placed by the lengths of the common header alone. What is wrong with these is found
by an assertion, or not at all.
-/

namespace FreeRdp

open Attempt WatchedStream

/-- Where a part of a header ends: at a position, behind the end of the bytes, which is noticed, or
behind it after bytes have been read there. -/
inductive HeaderPart where
  | ends (pos : Nat)
  | short
  | overrun
  deriving DecidableEq, Repr

/-- The part that comes next. -/
def HeaderPart.andThen (part : HeaderPart) (next : Nat → HeaderPart) : HeaderPart :=
  match part with
  | .ends pos => next pos
  | .short => .short
  | .overrun => .overrun

/-- `n` bytes. -/
def bytesPart (bytes : List UInt8) (n pos : Nat) : HeaderPart :=
  if pos + n ≤ bytes.length then .ends (pos + n) else .short

/-- Elements of a list of contexts, each with its transfer syntaxes. -/
def contextElementsPart (bytes : List UInt8) : Nat → Nat → HeaderPart
  | 0, pos => .ends pos
  | n + 1, pos =>
    (bytesPart bytes (24 + 20 * (bytes.getD (pos + 2) 0).toNat) pos).andThen
      (contextElementsPart bytes n)

/-- A list of contexts. -/
def contextListPart (bytes : List UInt8) (pos : Nat) : HeaderPart :=
  (bytesPart bytes 4 pos).andThen (contextElementsPart bytes (bytes.getD pos 0).toNat)

/-- `n` results: the first that does not fit is overrun if two or three bytes are left for it. -/
def resultsPart (bytes : List UInt8) (n pos : Nat) : HeaderPart :=
  if pos + 24 * n ≤ bytes.length then .ends (pos + 24 * n)
  else if (bytes.length - pos) % 24 = 2 ∨ (bytes.length - pos) % 24 = 3 then .overrun
  else .short

/-- A list of results. -/
def resultListPart (bytes : List UInt8) (pos : Nat) : HeaderPart :=
  (bytesPart bytes 4 pos).andThen (resultsPart bytes (bytes.getD pos 0).toNat)

/-- An address with its length in front of it. -/
def portAnyPart (bytes : List UInt8) (pos : Nat) : HeaderPart :=
  (bytesPart bytes 2 pos).andThen (bytesPart bytes (dataReadUInt16 (bytes.getD · 0) pos))

/-- Supported versions with their number in front of them. -/
def versionsPart (bytes : List UInt8) (pos : Nat) : HeaderPart :=
  (bytesPart bytes 1 pos).andThen (bytesPart bytes (2 * (bytes.getD pos 0).toNat))

/-- The reader goes to the end of the part, returns `FALSE` where it is too short, and has a fault
where it is overrun. -/
def ReadsPart {α : Type} (m : Attempt WatchedStream α) (bytes : List UInt8) (pos : Nat)
    (part : HeaderPart) : Prop :=
  m.Meets (place bytes pos) (fun _ s => ∃ pos', part = .ends pos' ∧ s = place bytes pos')
    (fun s => (part = .short ∧ s.fault = none) ∨ (part = .overrun ∧ s.fault ≠ none))

section Parts

variable {α β : Type} {m : Attempt WatchedStream α} {f : α → Attempt WatchedStream β}
  {bytes : List UInt8} {pos n : Nat} {part : HeaderPart}

lemma ReadsPart.bind {next : Nat → HeaderPart} (hm : ReadsPart m bytes pos part)
    (hf : ∀ a pos', part = .ends pos' → ReadsPart (f a) bytes pos' (next pos')) :
    ReadsPart (m >>= f) bytes pos (part.andThen next) := by
  refine meets_bind (hm.mono (fun a s h => h) ?_) ?_
  · rintro s (⟨hshort, hs⟩ | ⟨hover, hs⟩)
    · exact Or.inl ⟨by rw [hshort, HeaderPart.andThen], hs⟩
    · exact Or.inr ⟨by rw [hover, HeaderPart.andThen], hs⟩
  · rintro a s ⟨pos', hpart, rfl⟩
    rw [hpart, HeaderPart.andThen]
    exact hf a pos' hpart

lemma readsPart_pure (a : α) : ReadsPart (pure a) bytes pos (.ends pos) := ⟨pos, rfl, rfl⟩

/-- What is computed from a result does not matter. -/
lemma ReadsPart.map (hm : ReadsPart m bytes pos part) (g : α → β) :
    ReadsPart (do pure (g (← m))) bytes pos part := by
  have hbind : ReadsPart (m >>= fun a => pure (g a)) bytes pos (part.andThen .ends) :=
    hm.bind fun a pos' _ => readsPart_pure (g a)
  cases part <;> exact hbind

/-- A check in front of a part that it is a part of. -/
lemma readsPart_need_bind {k : Unit → Attempt WatchedStream β}
    (h : n ≤ bytes.length - pos → ReadsPart (k ()) bytes pos part)
    (h' : bytes.length - pos < n → part = .short) :
    ReadsPart (need n >>= k) bytes pos part :=
  meets_need_bind h fun hn => Or.inl ⟨h' hn, rfl⟩

lemma bytesPart_of_le (h : pos + n ≤ bytes.length) : bytesPart bytes n pos = .ends (pos + n) := by
  rw [bytesPart, if_pos h]

lemma bytesPart_of_gt (h : bytes.length < pos + n) : bytesPart bytes n pos = .short := by
  rw [bytesPart, if_neg (by omega)]

lemma bytesPart_ends {pos' : Nat} (h : bytesPart bytes n pos = .ends pos') :
    pos' ≤ bytes.length ∧ pos' = pos + n := by
  rw [bytesPart] at h
  split at h
  · cases h
    exact ⟨by assumption, rfl⟩
  · cases h

lemma bytesPart_andThen (p q : Nat) :
    (bytesPart bytes p pos).andThen (bytesPart bytes q) = bytesPart bytes (p + q) pos := by
  by_cases hp : pos + p ≤ bytes.length
  · rw [bytesPart_of_le hp, HeaderPart.andThen, bytesPart, bytesPart, Nat.add_assoc]
  · rw [bytesPart_of_gt (by omega), HeaderPart.andThen, bytesPart_of_gt (by omega)]

/-! ### The readers of parts -/

lemma readsPart_uuid : ReadsPart rtsReadUuid bytes pos (bytesPart bytes 16 pos) := by
  apply readsPart_need_bind
  · intro hn
    rw [SIZEOF_P_UUID] at hn
    rw [bytesPart_of_le (by omega)]
    apply meets_takeUInt32_bind (by omega)
    apply meets_takeUInt16_bind (by omega)
    apply meets_takeUInt16_bind (by omega)
    apply meets_takeUInt8_bind (by omega)
    apply meets_takeUInt8_bind (by omega)
    apply meets_takeBytes_bind (by omega)
    exact ⟨pos + 16, rfl, rfl⟩
  · intro hn
    rw [SIZEOF_P_UUID] at hn
    exact bytesPart_of_gt (by omega)

lemma readsPart_syntaxId : ReadsPart rtsReadSyntaxId bytes pos (bytesPart bytes 20 pos) := by
  rw [show 20 = 16 + 4 from rfl, ← bytesPart_andThen]
  apply readsPart_uuid.bind
  intro _ pos' _
  apply readsPart_need_bind
  · intro hn
    rw [bytesPart_of_le (by omega)]
    apply meets_takeUInt32_bind (by omega)
    exact ⟨pos' + 4, rfl, rfl⟩
  · intro hn
    exact bytesPart_of_gt (by omega)

/-- Parts of one size one after the other. -/
lemma readsPart_times {size : Nat} (hm : ∀ pos, ReadsPart m bytes pos (bytesPart bytes size pos))
    (hpos : pos ≤ bytes.length) :
    ReadsPart (times m n) bytes pos (bytesPart bytes (size * n) pos) := by
  induction n generalizing pos with
  | zero =>
    rw [bytesPart_of_le (by simpa using hpos)]
    exact readsPart_pure []
  | succ n ih =>
    rw [Nat.mul_succ, Nat.add_comm (size * n), ← bytesPart_andThen]
    apply (hm pos).bind
    intro a pos' hpos'
    exact (ih (bytesPart_ends hpos').1).map (a :: ·)

lemma readsPart_contextElem :
    ReadsPart rtsReadContextElem bytes pos
      (bytesPart bytes (24 + 20 * (bytes.getD (pos + 2) 0).toNat) pos) := by
  apply readsPart_need_bind
  · intro hn
    apply meets_takeUInt16_bind (by omega)
    apply meets_takeUInt8_bind (by omega)
    apply meets_takeUInt8_bind (by omega)
    have hfirst : ReadsPart rtsReadSyntaxId bytes (pos + 2 + 1 + 1) _ := readsPart_syntaxId
    have hparts := hfirst.bind fun _ pos' hpos' =>
      (readsPart_times (n := (bytes.getD (pos + 2) 0).toNat)
        (fun _ => readsPart_syntaxId) (bytesPart_ends hpos').1).map fun _ => ()
    rw [bytesPart_andThen] at hparts
    have hsize : bytesPart bytes (24 + 20 * (bytes.getD (pos + 2) 0).toNat) pos =
        bytesPart bytes (20 + 20 * (bytes.getD (pos + 2) 0).toNat) (pos + 2 + 1 + 1) := by
      rw [show pos + 2 + 1 + 1 = pos + 4 from rfl, bytesPart, bytesPart]
      simp only [show pos + 4 + (20 + 20 * (bytes.getD (pos + 2) 0).toNat) =
        pos + (24 + 20 * (bytes.getD (pos + 2) 0).toNat) by omega]
    rw [hsize]
    exact hparts
  · intro hn
    exact bytesPart_of_gt (by omega)

lemma readsPart_contextElements :
    ReadsPart (times rtsReadContextElem n) bytes pos (contextElementsPart bytes n pos) := by
  induction n generalizing pos with
  | zero => exact readsPart_pure []
  | succ n ih =>
    apply readsPart_contextElem.bind
    intro a pos' _
    exact ih.map (a :: ·)

/-- A list behind four bytes, the first of which is the number of its elements. -/
lemma readsPart_counted {k : Nat → Attempt WatchedStream β} {next : Nat → Nat → HeaderPart}
    (h : ∀ n pos', pos' ≤ bytes.length → ReadsPart (k n) bytes pos' (next n pos')) :
    ReadsPart (do
      need 4
      let n ← takeUInt8
      let _ ← takeUInt8
      let _ ← takeUInt16
      k n) bytes pos ((bytesPart bytes 4 pos).andThen (next (bytes.getD pos 0).toNat)) := by
  apply readsPart_need_bind
  · intro hn
    rw [bytesPart_of_le (by omega), HeaderPart.andThen]
    apply meets_takeUInt8_bind (by omega)
    apply meets_takeUInt8_bind (by omega)
    apply meets_takeUInt16_bind (by omega)
    exact h _ (pos + 4) (by omega)
  · intro hn
    rw [bytesPart_of_gt (by omega), HeaderPart.andThen]

lemma readsPart_contextList : ReadsPart rtsReadContextList bytes pos (contextListPart bytes pos) :=
  readsPart_counted fun _ _ _ => readsPart_contextElements.map fun _ => ()

/-- A result is read behind the end where two or three bytes are left for it. -/
lemma readsPart_result :
    ReadsPart rtsReadResult bytes pos (resultsPart bytes 1 pos) := by
  apply readsPart_need_bind
  · intro hn
    apply meets_takeUInt16_bind (by omega)
    by_cases h4 : pos + 4 ≤ bytes.length
    · apply meets_takeUInt16_bind (by omega)
      have hpart : resultsPart bytes 1 pos = bytesPart bytes 20 (pos + 2 + 2) := by
        rw [resultsPart, bytesPart, show pos + 2 + 2 + 20 = pos + 24 * 1 by omega]
        by_cases hfit : pos + 24 * 1 ≤ bytes.length
        · rw [if_pos hfit, if_pos hfit]
        · rw [if_neg hfit, if_neg hfit, if_neg (by omega)]
      rw [hpart]
      exact readsPart_syntaxId
    · have hpart : resultsPart bytes 1 pos = .overrun := by
        rw [resultsPart, if_neg (by omega), if_pos (by omega)]
      exact (meets_bind_none (take_fails (by omega))).mpr (Or.inr ⟨hpart, nofun⟩)
  · intro hn
    rw [resultsPart, if_neg (by omega), if_neg (by omega)]

/-- The first result, and the others. -/
lemma resultsPart_succ (hpos : pos ≤ bytes.length) :
    resultsPart bytes (n + 1) pos = (resultsPart bytes 1 pos).andThen (resultsPart bytes n) := by
  by_cases h1 : pos + 24 * 1 ≤ bytes.length
  · have hrest : (bytes.length - (pos + 24 * 1)) % 24 = (bytes.length - pos) % 24 := by omega
    rw [resultsPart, resultsPart, if_pos h1, HeaderPart.andThen, resultsPart, hrest,
      show pos + 24 * 1 + 24 * n = pos + 24 * (n + 1) by omega]
  · rw [resultsPart, resultsPart, if_neg (by omega), if_neg h1]
    split <;> rfl

lemma readsPart_results (hpos : pos ≤ bytes.length) :
    ReadsPart (times rtsReadResult n) bytes pos (resultsPart bytes n pos) := by
  induction n generalizing pos with
  | zero =>
    rw [resultsPart, if_pos (by omega)]
    exact readsPart_pure []
  | succ n ih =>
    rw [resultsPart_succ hpos]
    apply readsPart_result.bind
    intro a pos' hpos'
    have hle : pos' ≤ bytes.length := by
      rw [resultsPart] at hpos'
      split at hpos'
      · cases hpos'
        assumption
      · split at hpos' <;> cases hpos'
    exact (ih hle).map (a :: ·)

lemma readsPart_resultList : ReadsPart rtsReadResultList bytes pos (resultListPart bytes pos) :=
  readsPart_counted fun _ _ hpos => (readsPart_results hpos).map fun _ => ()

/-- Bytes that are skipped and copied. -/
lemma readsPart_skip (hn : n ≠ 0) :
    ReadsPart (do
      let ptr ← gets fun s => s.stream.pos
      safeSeek n
      touch ptr n) bytes pos (bytesPart bytes n pos) := by
  show ReadsPart (safeSeek n >>= fun _ => touch pos n) bytes pos _
  by_cases hle : n ≤ bytes.length - pos
  · apply (meets_bind_some (safeSeek_apply hle)).mpr
    exact meets_touch (by omega) ⟨pos + n, bytesPart_of_le (by omega), rfl⟩
  · apply (meets_bind_none (safeSeek_fails (by omega))).mpr
    exact Or.inl ⟨bytesPart_of_gt (by omega), rfl⟩

lemma readsPart_portAny : ReadsPart rtsReadPortAny bytes pos (portAnyPart bytes pos) := by
  apply readsPart_need_bind
  · intro hn
    rw [portAnyPart, bytesPart_of_le (by omega), HeaderPart.andThen]
    apply meets_takeUInt16_bind (by omega)
    show ReadsPart (Attempt.when (dataReadUInt16 (bytes.getD · 0) pos ≠ 0) _) bytes (pos + 2) _
    rcases eq_or_ne (dataReadUInt16 (bytes.getD · 0) pos) 0 with h0 | h0
    · rw [Attempt.when, if_neg (not_not.mpr h0), h0, bytesPart_of_le (by omega)]
      exact readsPart_pure ()
    · rw [Attempt.when, if_pos h0]
      exact readsPart_skip h0
  · intro hn
    rw [portAnyPart, bytesPart_of_gt (by omega), HeaderPart.andThen]

lemma readsPart_align (hpos : pos ≤ bytes.length) (alignment : Nat) :
    ReadsPart (rtsAlignStream alignment) bytes pos
      (bytesPart bytes (rpcOffsetAlign pos alignment - pos) pos) := by
  show ReadsPart (safeSeek (rpcOffsetAlign pos alignment - pos)) bytes pos _
  unfold ReadsPart Attempt.Meets
  by_cases hle : rpcOffsetAlign pos alignment - pos ≤ bytes.length - pos
  · rw [safeSeek_apply hle]
    exact ⟨_, bytesPart_of_le (by omega), rfl⟩
  · rw [safeSeek_fails (by omega)]
    exact Or.inl ⟨bytesPart_of_gt (by omega), rfl⟩

lemma readsPart_versions :
    ReadsPart rtsReadSupportedVersions bytes pos (versionsPart bytes pos) := by
  apply readsPart_need_bind
  · intro hn
    rw [versionsPart, bytesPart_of_le (by omega), HeaderPart.andThen]
    apply meets_takeUInt8_bind (by omega)
    refine (readsPart_times (fun pos => ?_) (by omega)).map fun _ => ()
    apply readsPart_need_bind
    · intro hn
      rw [bytesPart_of_le (by omega)]
      apply meets_takeUInt8_bind (by omega)
      apply meets_takeUInt8_bind (by omega)
      exact ⟨pos + 2, rfl, rfl⟩
    · intro hn
      exact bytesPart_of_gt (by omega)
  · intro hn
    rw [versionsPart, bytesPart_of_gt (by omega), HeaderPart.andThen]

end Parts

/-! ### Safety -/

/-- The lengths of the common header. -/
def fragLengthOf (bytes : List UInt8) : Nat := dataReadUInt16 (bytes.getD · 0) 8

def authLengthOf (bytes : List UInt8) : Nat := dataReadUInt16 (bytes.getD · 0) 10

/-- Where the trailer of a fragment starts. -/
def trailerStart (bytes : List UInt8) : Nat := fragLengthOf bytes - authLengthOf bytes - 8

/-- `auth_pad_length`. -/
def trailerPad (bytes : List UInt8) : Nat := (bytes.getD (trailerStart bytes + 2) 0).toNat

/-- The trailer is in the fragment, and starts behind the header and the padding, unless too few
bytes are there for a trailer. -/
def TrailerFits (bytes : List UInt8) (pos : Nat) : Prop :=
  authLengthOf bytes + 8 ≤ fragLengthOf bytes ∧
    (bytes.length < trailerStart bytes + SIZEOF_AUTH_VERIFIER_CO ∨
      pos + trailerPad bytes = trailerStart bytes)

/-- The same where a stub may stand in front of the trailer. -/
def StubTrailerFits (bytes : List UInt8) (allocHint pos : Nat) : Prop :=
  authLengthOf bytes + 8 ≤ fragLengthOf bytes ∧
    (bytes.length < trailerStart bytes + SIZEOF_AUTH_VERIFIER_CO ∨
      (pos ≤ trailerStart bytes ∧ (allocHint = 0 ∨ pos + trailerPad bytes ≤ trailerStart bytes)))

/-- What is to hold behind a part, if it is not too short; the part is not to be overrun. -/
def HeaderPart.Leads (part : HeaderPart) (C : Nat → Prop) : Prop :=
  match part with
  | .ends pos => C pos
  | .short => True
  | .overrun => False

/-- The trailer of a header that has been read starts behind the header, in the fragment. -/
def TrailerBehind (header : RpcConnHdr) : Prop :=
  ∀ pos, header.headerEnd = some pos →
    pos + header.common.authLength + 8 ≤ header.common.fragLength

/-- Nothing goes wrong, and a trailer that is not behind the header makes the reader fail. -/
def ReadsSafely (m : Attempt WatchedStream RpcConnHdr) (s : WatchedStream) : Prop :=
  m.Meets s (fun header _ => TrailerBehind header) (fun s => s.fault = none)

section Safety

variable {α : Type} {m : Attempt WatchedStream α} {f : α → Attempt WatchedStream RpcConnHdr}
  {k : Unit → Attempt WatchedStream RpcConnHdr} {bytes : List UInt8} {pos n : Nat}
  {part : HeaderPart} {C : Nat → Prop}

lemma readsSafely_part_iff (hm : ReadsPart m bytes pos part)
    (hf : ∀ a pos', part = .ends pos' → (ReadsSafely (f a) (place bytes pos') ↔ C pos')) :
    ReadsSafely (m >>= f) (place bytes pos) ↔ part.Leads C := by
  have hbind : (m >>= f) (place bytes pos) = Attempt.andThen m f (place bytes pos) := rfl
  unfold ReadsPart Attempt.Meets at hm
  unfold ReadsSafely Attempt.Meets
  rw [hbind, Attempt.andThen]
  rcases hrun : m (place bytes pos) with ⟨_ | a, s⟩
  · rw [hrun] at hm
    rcases hm with ⟨rfl, hs⟩ | ⟨rfl, hs⟩
    · exact iff_of_true hs trivial
    · exact iff_of_false hs not_false
  · rw [hrun] at hm
    obtain ⟨pos', rfl, rfl⟩ := hm
    exact hf a pos' rfl

lemma readsSafely_bind_some {a : α} {s s' : WatchedStream} (h : m s = (some a, s')) :
    ReadsSafely (m >>= f) s ↔ ReadsSafely (f a) s' :=
  meets_bind_some h

lemma readsSafely_bind_none {s s' : WatchedStream} (h : m s = (none, s')) :
    ReadsSafely (m >>= f) s ↔ s'.fault = none :=
  meets_bind_none h

lemma readsSafely_need_iff :
    ReadsSafely (need n >>= k) (place bytes pos) ↔
      (n ≤ bytes.length - pos → ReadsSafely (k ()) (place bytes pos)) := by
  by_cases hn : n ≤ bytes.length - pos
  · rw [readsSafely_bind_some (need_apply hn)]
    exact ⟨fun h _ => h, fun h => h hn⟩
  · rw [readsSafely_bind_none (need_fails (by omega))]
    exact ⟨fun _ h => absurd h hn, fun _ => rfl⟩

/-! ### The common header -/

/-- The fields of the common header. -/
def commonHeaderOf (bytes : List UInt8) : RpcConnCommonHdr where
  rpcVers := (bytes.getD 0 0).toNat
  rpcVersMinor := (bytes.getD 1 0).toNat
  ptype := (bytes.getD 2 0).toNat
  pfcFlags := (bytes.getD 3 0).toNat
  packedDrep := (bytes.drop 4).take 4
  fragLength := fragLengthOf bytes
  authLength := authLengthOf bytes
  callId := (WStream.readUInt32 ⟨bytes, 12⟩).1

/-- The fragment is there, as long as its header says. -/
def WholeFragment (bytes : List UInt8) : Prop :=
  RPC_COMMON_FIELDS_LENGTH ≤ fragLengthOf bytes ∧ fragLengthOf bytes ≤ bytes.length

lemma meets_commonHeader {Q : RpcConnCommonHdr → WatchedStream → Prop}
    {E : WatchedStream → Prop}
    (h : WholeFragment bytes → Q (commonHeaderOf bytes) (place bytes 16))
    (h' : ¬ WholeFragment bytes → ∀ pos, E (place bytes pos)) :
    rtsReadCommonPduHeader.Meets (place bytes 0) Q E := by
  apply meets_need_bind
  · intro hn
    rw [RPC_COMMON_FIELDS_LENGTH, Nat.sub_zero] at hn
    apply meets_takeUInt8_bind (by omega)
    apply meets_takeUInt8_bind (by omega)
    apply meets_takeUInt8_bind (by omega)
    apply meets_takeUInt8_bind (by omega)
    apply meets_takeBytes_bind (by omega)
    apply meets_takeUInt16_bind (by omega)
    apply meets_takeUInt16_bind (by omega)
    apply meets_takeUInt32_bind (by omega)
    show (require (decide (RPC_COMMON_FIELDS_LENGTH ≤ fragLengthOf bytes)) >>= _).Meets
      (place bytes 16) Q E
    apply meets_require_bind
    · intro hfrag
      apply meets_need_bind
      · intro hleft
        have hfrag := of_decide_eq_true hfrag
        rw [RPC_COMMON_FIELDS_LENGTH] at hleft hfrag
        exact h ⟨hfrag, by change fragLengthOf bytes - 16 ≤ bytes.length - 16 at hleft; omega⟩
      · intro hleft
        refine h' ?_ _
        rintro ⟨_, hlen⟩
        change bytes.length - 16 < fragLengthOf bytes - 16 at hleft
        omega
    · intro hfrag
      exact h' (fun hwhole => absurd hwhole.1 (of_decide_eq_false hfrag)) _
  · intro hn
    refine h' ?_ _
    rintro ⟨hfrag, hlen⟩
    omega

/-! ### The trailer -/

/-- The trailer is read unless it is not in the fragment, or too few bytes are there. -/
lemma meets_verifierNoChecks {common : RpcConnCommonHdr}
    (hfrag : common.fragLength = fragLengthOf bytes)
    (hauth : common.authLength = authLengthOf bytes) (hlen : fragLengthOf bytes ≤ bytes.length) :
    (rtsReadAuthVerifierNoChecks common).Meets (place bytes pos)
      (fun p s => authLengthOf bytes + 8 ≤ fragLengthOf bytes ∧
        trailerStart bytes + SIZEOF_AUTH_VERIFIER_CO ≤ bytes.length ∧
        p = (trailerPad bytes, pos) ∧ s = place bytes (fragLengthOf bytes))
      (fun s => (authLengthOf bytes + 8 ≤ fragLengthOf bytes ∧
        bytes.length < trailerStart bytes + SIZEOF_AUTH_VERIFIER_CO ∧ s.fault = none) ∨
        (¬ authLengthOf bytes + 8 ≤ fragLengthOf bytes ∧ s.fault ≠ none)) := by
  unfold rtsReadAuthVerifierNoChecks
  rw [hfrag, hauth]
  apply meets_expect_bind
  · intro hlt
    apply meets_gets_bind
    apply meets_computed_bind
    · intro hexpected
      have hfit : authLengthOf bytes + 8 ≤ fragLengthOf bytes := by omega
      have hstart : ((fragLengthOf bytes : Int) - authLengthOf bytes - 8).toNat =
          trailerStart bytes := by
        rw [trailerStart]
        omega
      rw [hstart]
      apply meets_setPosition_bind
      apply meets_need_bind
      · intro hn
        have henough : trailerStart bytes + SIZEOF_AUTH_VERIFIER_CO ≤ bytes.length := by
          rw [SIZEOF_AUTH_VERIFIER_CO] at hn ⊢
          omega
        have henough' := henough
        rw [SIZEOF_AUTH_VERIFIER_CO] at henough'
        have hend : trailerStart bytes + 8 + authLengthOf bytes = fragLengthOf bytes := by
          rw [trailerStart]
          omega
        apply meets_takeUInt8_bind (by omega)
        apply meets_takeUInt8_bind (by omega)
        apply meets_takeUInt8_bind (by omega)
        apply meets_takeUInt8_bind (by omega)
        apply meets_takeUInt32_bind (by omega)
        rcases eq_or_ne (authLengthOf bytes) 0 with h0 | h0
        · rw [Attempt.when, if_neg (not_not.mpr h0)]
          refine ⟨hfit, henough, rfl, ?_⟩
          rw [← hend, h0]
        · rw [Attempt.when, if_pos h0]
          apply meets_bind ((readsPart_skip h0).mono (fun _ _ h => h) ?_)
          · rintro _ s ⟨pos', hpos', rfl⟩
            refine ⟨hfit, henough, rfl, ?_⟩
            rw [(bytesPart_ends hpos').2, ← hend]
          · rintro s (⟨hshort, -⟩ | ⟨hover, -⟩)
            · rw [bytesPart_of_le (by omega)] at hshort
              cases hshort
            · rw [bytesPart_of_le (by omega)] at hover
              cases hover
      · intro hn
        refine Or.inl ⟨hfit, ?_, rfl⟩
        rw [SIZEOF_AUTH_VERIFIER_CO] at hn ⊢
        omega
    · intro hnegative
      exact Or.inr ⟨by omega, nofun⟩
  · intro hge
    exact Or.inr ⟨by have := of_decide_eq_false hge; omega, nofun⟩

lemma meets_verifier {common : RpcConnCommonHdr}
    (hfrag : common.fragLength = fragLengthOf bytes)
    (hauth : common.authLength = authLengthOf bytes) (hlen : fragLengthOf bytes ≤ bytes.length) :
    (rtsReadAuthVerifier common).Meets (place bytes pos)
      (fun p _ => p.2 = pos ∧ TrailerFits bytes pos ∧ pos ≤ trailerStart bytes)
      (fun s => TrailerFits bytes pos ↔ s.fault = none) := by
  apply meets_bind ((meets_verifierNoChecks hfrag hauth hlen).mono (fun _ _ h => h) ?_)
  · rintro p s ⟨hfit, henough, rfl, rfl⟩
    have hexpected : (common.fragLength : Int) - common.authLength - 8 = trailerStart bytes := by
      rw [hfrag, hauth, trailerStart]
      omega
    show (computed _ >>= _).Meets _ _ _
    rw [hexpected]
    apply meets_computed_bind
    · intro _
      apply meets_expect_bind
      · intro hpad
        have hpad : pos + trailerPad bytes = trailerStart bytes := of_decide_eq_true hpad
        exact ⟨rfl, ⟨hfit, Or.inr hpad⟩, by omega⟩
      · intro hpad
        have hpad : pos + trailerPad bytes ≠ trailerStart bytes := of_decide_eq_false hpad
        refine iff_of_false ?_ nofun
        rintro ⟨-, hshort | heq⟩
        · omega
        · exact hpad heq
    · intro hnegative
      omega
  · rintro s (⟨hfit, hshort, hs⟩ | ⟨hfit, hs⟩)
    · exact iff_of_true ⟨hfit, Or.inl hshort⟩ hs
    · exact iff_of_false (fun h => hfit h.1) hs

lemma meets_verifierWithStub {common : RpcConnCommonHdr} {allocHint : Nat}
    (hfrag : common.fragLength = fragLengthOf bytes)
    (hauth : common.authLength = authLengthOf bytes) (hlen : fragLengthOf bytes ≤ bytes.length) :
    (rtsReadAuthVerifierWithStub common allocHint).Meets (place bytes pos)
      (fun p _ => p.2 = pos ∧ authLengthOf bytes + 8 ≤ fragLengthOf bytes ∧
        (StubTrailerFits bytes allocHint pos ↔ pos ≤ trailerStart bytes))
      (fun s => StubTrailerFits bytes allocHint pos ↔ s.fault = none) := by
  apply meets_bind ((meets_verifierNoChecks hfrag hauth hlen).mono (fun _ _ h => h) ?_)
  · rintro p s ⟨hfit, henough, rfl, rfl⟩
    show (Attempt.when (0 < allocHint) _ >>= _).Meets _ _ _
    by_cases hhint : 0 < allocHint
    · rw [Attempt.when, if_pos hhint]
      have hsize : (common.fragLength : Int) - common.authLength - 8 - trailerPad bytes - pos =
          trailerStart bytes - (trailerPad bytes + pos : Nat) := by
        rw [hfrag, hauth, trailerStart]
        omega
      apply meets_bind (Q := fun _ _ => pos + trailerPad bytes ≤ trailerStart bytes)
      · show (computed _ >>= _).Meets _ _ _
        rw [hsize]
        apply meets_computed_bind
        · intro hle
          have hfits : StubTrailerFits bytes allocHint pos :=
            ⟨hfit, Or.inr ⟨by omega, Or.inr (by omega)⟩⟩
          apply meets_require_bind
          · intro _
            apply meets_touch
            · rw [trailerStart] at hle ⊢
              omega
            · omega
          · intro _
            exact iff_of_true hfits rfl
        · intro hnegative
          refine iff_of_false ?_ nofun
          rintro ⟨-, hshort | ⟨-, hzero | hle⟩⟩ <;> omega
      · intro _ _ hle
        refine ⟨rfl, hfit, iff_of_true ⟨hfit, Or.inr ⟨by omega, Or.inr hle⟩⟩ (by omega)⟩
    · rw [Attempt.when, if_neg hhint]
      refine ⟨rfl, hfit, ?_, ?_⟩
      · rintro ⟨-, hshort | ⟨hle, -⟩⟩
        · omega
        · exact hle
      · intro hle
        exact ⟨hfit, Or.inr ⟨hle, Or.inl (by omega)⟩⟩
  · rintro s (⟨hfit, hshort, hs⟩ | ⟨hfit, hs⟩)
    · exact iff_of_true ⟨hfit, Or.inl hshort⟩ hs
    · exact iff_of_false (fun h => hfit h.1) hs

/-- A header that ends with a trailer. -/
lemma readsSafely_of_trailer {C : Prop} {m : Attempt WatchedStream (Nat × Nat)}
    {f : Nat × Nat → Attempt WatchedStream RpcConnHdr} {common : RpcConnCommonHdr}
    (hm : m.Meets (place bytes pos)
      (fun p _ => p.2 = pos ∧
        (C ↔ pos + common.authLength + 8 ≤ common.fragLength))
      (fun s => C ↔ s.fault = none))
    (hf : ∀ p, ∃ header : RpcConnHdr, f p = pure header ∧ header.common = common ∧
      header.headerEnd = some p.2) :
    ReadsSafely (m >>= f) (place bytes pos) ↔ C := by
  rcases hm.cases with ⟨p, s', hrun, hpos, hC⟩ | ⟨s', hrun, hC⟩
  · obtain ⟨header, hheader, hcommon, hend⟩ := hf p
    rw [readsSafely_bind_some hrun, hheader, hC]
    show TrailerBehind header ↔ _
    rw [TrailerBehind, hcommon, hend, hpos]
    simp
  · rw [readsSafely_bind_none hrun, hC]

lemma readsSafely_verifier_iff {f : Nat × Nat → Attempt WatchedStream RpcConnHdr}
    (hlen : fragLengthOf bytes ≤ bytes.length)
    (hf : ∀ p, ∃ header : RpcConnHdr, f p = pure header ∧
      header.common = commonHeaderOf bytes ∧ header.headerEnd = some p.2) :
    ReadsSafely (rtsReadAuthVerifier (commonHeaderOf bytes) >>= f) (place bytes pos) ↔
      TrailerFits bytes pos := by
  refine readsSafely_of_trailer ((meets_verifier rfl rfl hlen).mono ?_ fun _ h => h) hf
  rintro p s ⟨hpos, hfits, hle⟩
  have hfit := hfits.1
  rw [trailerStart] at hle
  exact ⟨hpos, iff_of_true hfits (by simp only [commonHeaderOf]; omega)⟩

lemma readsSafely_verifierWithStub_iff {f : Nat × Nat → Attempt WatchedStream RpcConnHdr}
    {allocHint : Nat} (hlen : fragLengthOf bytes ≤ bytes.length)
    (hf : ∀ p, ∃ header : RpcConnHdr, f p = pure header ∧
      header.common = commonHeaderOf bytes ∧ header.headerEnd = some p.2) :
    ReadsSafely (rtsReadAuthVerifierWithStub (commonHeaderOf bytes) allocHint >>= f)
      (place bytes pos) ↔ StubTrailerFits bytes allocHint pos := by
  refine readsSafely_of_trailer ((meets_verifierWithStub rfl rfl hlen).mono ?_ fun _ h => h) hf
  rintro p s ⟨hpos, hfit, hiff⟩
  refine ⟨hpos, hiff.trans ?_⟩
  simp only [commonHeaderOf, trailerStart]
  omega

/-! ### The types of PDUs -/

section Types

variable {g : Nat → Attempt WatchedStream RpcConnHdr}

lemma readsSafely_takeUInt8_iff (hn : pos + 1 ≤ bytes.length) :
    ReadsSafely (takeUInt8 >>= g) (place bytes pos) ↔
      ReadsSafely (g (bytes.getD pos 0).toNat) (place bytes (pos + 1)) :=
  readsSafely_bind_some (take_apply hn rfl)

lemma readsSafely_takeUInt16_iff (hn : pos + 2 ≤ bytes.length) :
    ReadsSafely (takeUInt16 >>= g) (place bytes pos) ↔
      ReadsSafely (g (WStream.readUInt16 ⟨bytes, pos⟩).1) (place bytes (pos + 2)) :=
  readsSafely_bind_some (take_apply hn rfl)

lemma readsSafely_takeUInt32_iff (hn : pos + 4 ≤ bytes.length) :
    ReadsSafely (takeUInt32 >>= g) (place bytes pos) ↔
      ReadsSafely (g (WStream.readUInt32 ⟨bytes, pos⟩).1) (place bytes (pos + 4)) :=
  readsSafely_bind_some (take_apply hn rfl)

/-- `alloc_hint`, the first field behind the common header where there is one. -/
def allocHintOf (bytes : List UInt8) : Nat := (WStream.readUInt32 ⟨bytes, 16⟩).1

lemma readsSafely_contexts_iff (hlen : fragLengthOf bytes ≤ bytes.length) :
    ReadsSafely (rtsReadPduContexts (commonHeaderOf bytes)) (place bytes 16) ↔
      (36 ≤ bytes.length - 16 → (contextListPart bytes 24).Leads (TrailerFits bytes)) := by
  unfold rtsReadPduContexts
  rw [readsSafely_need_iff]
  apply imp_congr_right
  intro hn
  simp only [SIZEOF_P_LIST, SIZEOF_AUTH_VERIFIER_CO] at hn
  rw [readsSafely_takeUInt16_iff (by omega), readsSafely_takeUInt16_iff (by omega),
    readsSafely_takeUInt32_iff (by omega)]
  apply readsSafely_part_iff readsPart_contextList
  intro _ pos' _
  exact readsSafely_verifier_iff hlen fun p => ⟨_, rfl, rfl, rfl⟩

lemma readsSafely_results_iff (hlen : fragLengthOf bytes ≤ bytes.length) :
    ReadsSafely (rtsReadPduResults (commonHeaderOf bytes)) (place bytes 16) ↔
      (46 ≤ bytes.length - 16 →
        (portAnyPart bytes 24).Leads fun pos =>
          (bytesPart bytes (rpcOffsetAlign pos 4 - pos) pos).Leads fun pos =>
            (resultListPart bytes pos).Leads (TrailerFits bytes)) := by
  unfold rtsReadPduResults
  rw [readsSafely_need_iff]
  apply imp_congr_right
  intro hn
  simp only [SIZEOF_PORT_ANY, SIZEOF_P_LIST, SIZEOF_AUTH_VERIFIER_CO] at hn
  rw [readsSafely_takeUInt16_iff (by omega), readsSafely_takeUInt16_iff (by omega),
    readsSafely_takeUInt32_iff (by omega)]
  apply readsSafely_part_iff readsPart_portAny
  intro _ pos hpos
  have hle : pos ≤ bytes.length := by
    rw [portAnyPart, bytesPart_of_le (by omega), HeaderPart.andThen] at hpos
    exact (bytesPart_ends hpos).1
  apply readsSafely_part_iff (readsPart_align hle 4)
  intro _ pos' _
  apply readsSafely_part_iff readsPart_resultList
  intro _ _ _
  exact readsSafely_verifier_iff hlen fun p => ⟨_, rfl, rfl, rfl⟩

lemma readsSafely_auth3_iff (hlen : fragLengthOf bytes ≤ bytes.length) :
    ReadsSafely (rtsReadPduAuth3 (commonHeaderOf bytes)) (place bytes 16) ↔
      (20 ≤ bytes.length - 16 → TrailerFits bytes 20) := by
  unfold rtsReadPduAuth3
  rw [readsSafely_need_iff]
  apply imp_congr_right
  intro hn
  simp only [SIZEOF_AUTH_VERIFIER_CO] at hn
  rw [readsSafely_takeUInt16_iff (by omega), readsSafely_takeUInt16_iff (by omega)]
  exact readsSafely_verifier_iff hlen fun p => ⟨_, rfl, rfl, rfl⟩

lemma readsSafely_trailer_iff (hlen : fragLengthOf bytes ≤ bytes.length) :
    ReadsSafely (rtsReadPduTrailer (commonHeaderOf bytes)) (place bytes 16) ↔
      (16 ≤ bytes.length - 16 → TrailerFits bytes 16) := by
  unfold rtsReadPduTrailer
  rw [readsSafely_need_iff]
  apply imp_congr_right
  intro _
  exact readsSafely_verifier_iff hlen fun p => ⟨_, rfl, rfl, rfl⟩

lemma readsSafely_fault_iff (hlen : fragLengthOf bytes ≤ bytes.length) :
    ReadsSafely (rtsReadPduFault (commonHeaderOf bytes)) (place bytes 16) ↔
      (36 ≤ bytes.length - 16 → StubTrailerFits bytes (allocHintOf bytes) 28) := by
  unfold rtsReadPduFault
  rw [readsSafely_need_iff]
  apply imp_congr_right
  intro hn
  simp only [SIZEOF_AUTH_VERIFIER_CO] at hn
  rw [readsSafely_takeUInt32_iff (by omega), readsSafely_takeUInt16_iff (by omega),
    readsSafely_takeUInt8_iff (by omega), readsSafely_takeUInt8_iff (by omega),
    readsSafely_takeUInt32_iff (by omega)]
  exact readsSafely_verifierWithStub_iff hlen fun p => ⟨_, rfl, rfl, rfl⟩

lemma readsSafely_request_iff (hlen : fragLengthOf bytes ≤ bytes.length) :
    ReadsSafely (rtsReadPduRequest (commonHeaderOf bytes)) (place bytes 16) ↔
      (48 ≤ bytes.length - 16 → StubTrailerFits bytes (allocHintOf bytes) 40) := by
  unfold rtsReadPduRequest
  rw [readsSafely_need_iff]
  apply imp_congr_right
  intro hn
  simp only [SIZEOF_P_UUID, SIZEOF_AUTH_VERIFIER_CO] at hn
  rw [readsSafely_takeUInt32_iff (by omega), readsSafely_takeUInt16_iff (by omega),
    readsSafely_takeUInt16_iff (by omega),
    readsSafely_part_iff (C := StubTrailerFits bytes (allocHintOf bytes)) readsPart_uuid]
  · rw [bytesPart_of_le (by omega)]
    rfl
  · intro _ _ _
    exact readsSafely_verifierWithStub_iff hlen fun p => ⟨_, rfl, rfl, rfl⟩

lemma readsSafely_response_iff (hlen : fragLengthOf bytes ≤ bytes.length) :
    ReadsSafely (rtsReadPduResponse (commonHeaderOf bytes)) (place bytes 16) ↔
      (32 ≤ bytes.length - 16 → StubTrailerFits bytes (allocHintOf bytes) 24) := by
  unfold rtsReadPduResponse
  rw [readsSafely_need_iff]
  apply imp_congr_right
  intro hn
  simp only [SIZEOF_AUTH_VERIFIER_CO] at hn
  rw [readsSafely_takeUInt32_iff (by omega), readsSafely_takeUInt16_iff (by omega),
    readsSafely_takeUInt8_iff (by omega), readsSafely_takeUInt8_iff (by omega),
    readsSafely_part_iff (C := StubTrailerFits bytes (allocHintOf bytes))
      (readsPart_align (by omega) 8)]
  · rw [bytesPart_of_le (by simp only [rpcOffsetAlign]; omega)]
    rfl
  · intro _ _ _
    exact readsSafely_verifierWithStub_iff hlen fun p => ⟨_, rfl, rfl, rfl⟩

/-- Readers of PDUs without a trailer have only to stay in the fragment. -/
lemma readsSafely_of_readsPart {m : Attempt WatchedStream Unit} {header : RpcConnHdr}
    (hm : ReadsPart m bytes pos part) (hpart : part ≠ .overrun) (hend : header.headerEnd = none) :
    ReadsSafely (do m; pure header) (place bytes pos) := by
  rw [readsSafely_part_iff (C := fun _ => True) hm]
  · cases part with
    | ends pos => trivial
    | short => trivial
    | overrun => exact hpart rfl
  · intro _ _ _
    refine iff_of_true ?_ trivial
    intro pos hpos
    rw [hend] at hpos
    cases hpos

lemma readsSafely_bindNak :
    ReadsSafely (rtsReadPduBindNak (commonHeaderOf bytes)) (place bytes 16) := by
  unfold rtsReadPduBindNak
  rw [readsSafely_need_iff]
  intro hn
  rw [readsSafely_takeUInt16_iff (by omega)]
  apply readsSafely_of_readsPart readsPart_versions
  · rw [versionsPart, bytesPart_of_le (by omega), HeaderPart.andThen, bytesPart]
    split <;> nofun
  · rfl

lemma readsSafely_rts :
    ReadsSafely (rtsReadPduRts (commonHeaderOf bytes)) (place bytes 16) := by
  unfold rtsReadPduRts
  rw [readsSafely_need_iff]
  intro hn
  rw [readsSafely_takeUInt16_iff (by omega), readsSafely_takeUInt16_iff (by omega)]
  intro pos hpos
  cases hpos

end Types

/-- What the bytes behind the common header have to be like, by the type of the PDU: lists of
results are not overrun, and the trailer is where it fits. -/
def BodyFits (bytes : List UInt8) : Prop :=
  let ptype := (bytes.getD 2 0).toNat
  if ptype = PTYPE_ALTER_CONTEXT ∨ ptype = PTYPE_BIND then
    36 ≤ bytes.length - 16 → (contextListPart bytes 24).Leads (TrailerFits bytes)
  else if ptype = PTYPE_ALTER_CONTEXT_RESP ∨ ptype = PTYPE_BIND_ACK then
    46 ≤ bytes.length - 16 →
      (portAnyPart bytes 24).Leads fun pos =>
        (bytesPart bytes (rpcOffsetAlign pos 4 - pos) pos).Leads fun pos =>
          (resultListPart bytes pos).Leads (TrailerFits bytes)
  else if ptype = PTYPE_RPC_AUTH_3 then 20 ≤ bytes.length - 16 → TrailerFits bytes 20
  else if ptype = PTYPE_CANCEL_ACK ∨ ptype = PTYPE_ORPHANED then
    16 ≤ bytes.length - 16 → TrailerFits bytes 16
  else if ptype = PTYPE_FAULT then
    36 ≤ bytes.length - 16 → StubTrailerFits bytes (allocHintOf bytes) 28
  else if ptype = PTYPE_REQUEST then
    48 ≤ bytes.length - 16 → StubTrailerFits bytes (allocHintOf bytes) 40
  else if ptype = PTYPE_RESPONSE then
    32 ≤ bytes.length - 16 → StubTrailerFits bytes (allocHintOf bytes) 24
  else True

lemma readsSafely_body_iff (hlen : fragLengthOf bytes ≤ bytes.length) :
    ReadsSafely (rtsReadPduBody (commonHeaderOf bytes)) (place bytes 16) ↔ BodyFits bytes := by
  have htype : (commonHeaderOf bytes).ptype = (bytes.getD 2 0).toNat := rfl
  unfold rtsReadPduBody BodyFits
  rw [htype]
  generalize (bytes.getD 2 0).toNat = ptype
  by_cases halter : ptype = PTYPE_ALTER_CONTEXT
  · rw [if_pos halter, if_pos (Or.inl halter)]
    exact readsSafely_contexts_iff hlen
  rw [if_neg halter]
  by_cases hresponse : ptype = PTYPE_ALTER_CONTEXT_RESP
  · rw [if_pos hresponse, if_neg (by subst hresponse; decide), if_pos (Or.inl hresponse)]
    exact readsSafely_results_iff hlen
  rw [if_neg hresponse]
  by_cases hbind : ptype = PTYPE_BIND
  · rw [if_pos hbind, if_pos (Or.inr hbind)]
    exact readsSafely_contexts_iff hlen
  rw [if_neg hbind, if_neg (show ¬(ptype = PTYPE_ALTER_CONTEXT ∨ ptype = PTYPE_BIND) by tauto)]
  by_cases hack : ptype = PTYPE_BIND_ACK
  · rw [if_pos hack, if_pos (Or.inr hack)]
    exact readsSafely_results_iff hlen
  rw [if_neg hack,
    if_neg (show ¬(ptype = PTYPE_ALTER_CONTEXT_RESP ∨ ptype = PTYPE_BIND_ACK) by tauto)]
  by_cases hnak : ptype = PTYPE_BIND_NAK
  · subst hnak
    exact iff_of_true readsSafely_bindNak trivial
  rw [if_neg hnak]
  by_cases hauth : ptype = PTYPE_RPC_AUTH_3
  · rw [if_pos hauth, if_pos hauth]
    exact readsSafely_auth3_iff hlen
  rw [if_neg hauth, if_neg hauth]
  by_cases hcancel : ptype = PTYPE_CANCEL_ACK
  · rw [if_pos hcancel, if_pos (Or.inl hcancel)]
    exact readsSafely_trailer_iff hlen
  rw [if_neg hcancel]
  by_cases hfault : ptype = PTYPE_FAULT
  · rw [if_pos hfault, if_neg (by subst hfault; decide), if_pos hfault]
    exact readsSafely_fault_iff hlen
  rw [if_neg hfault]
  by_cases horphaned : ptype = PTYPE_ORPHANED
  · rw [if_pos horphaned, if_pos (Or.inr horphaned)]
    exact readsSafely_trailer_iff hlen
  rw [if_neg horphaned, if_neg hfault,
    if_neg (show ¬(ptype = PTYPE_CANCEL_ACK ∨ ptype = PTYPE_ORPHANED) by tauto)]
  by_cases hrequest : ptype = PTYPE_REQUEST
  · rw [if_pos hrequest, if_pos hrequest]
    exact readsSafely_request_iff hlen
  rw [if_neg hrequest, if_neg hrequest]
  by_cases hresp : ptype = PTYPE_RESPONSE
  · rw [if_pos hresp, if_pos hresp]
    exact readsSafely_response_iff hlen
  rw [if_neg hresp, if_neg hresp]
  apply iff_of_true _ trivial
  -- the other types have no trailer
  by_cases hrts : ptype = PTYPE_RTS
  · rw [if_pos hrts]
    exact readsSafely_rts
  rw [if_neg hrts]
  by_cases hshutdown : ptype = PTYPE_SHUTDOWN
  · rw [if_pos hshutdown]
    exact fun pos hpos => nomatch hpos
  rw [if_neg hshutdown]
  rfl

/-- Reading the header of a PDU is safe exactly where the fragment is not whole, or where what
stands behind its common header fits. -/
theorem readsSafely_rtsReadPduHeader_iff (bytes : List UInt8) :
    ReadsSafely rtsReadPduHeader (place bytes 0) ↔ (WholeFragment bytes → BodyFits bytes) := by
  have hcommon : rtsReadCommonPduHeader.Meets (place bytes 0)
      (fun header s => WholeFragment bytes ∧ header = commonHeaderOf bytes ∧ s = place bytes 16)
      (fun s => ¬ WholeFragment bytes ∧ s.fault = none) :=
    meets_commonHeader (fun hwhole => ⟨hwhole, rfl, rfl⟩) (fun hwhole _ => ⟨hwhole, rfl⟩)
  rcases hcommon.cases with ⟨header, s, hrun, hwhole, rfl, rfl⟩ | ⟨s, hrun, hwhole, hs⟩
  · have hbody := readsSafely_body_iff hwhole.2
    rw [rtsReadPduHeader, readsSafely_bind_some hrun, hbody]
    exact ⟨fun h _ => h, fun h => h hwhole⟩
  · rw [rtsReadPduHeader, readsSafely_bind_none hrun]
    exact iff_of_true hs fun h => absurd h hwhole

/-- An `orphaned` PDU of 32 bytes: a trailer is announced that is as long as the whole fragment. -/
def orphanedPdu : List UInt8 :=
  [5, 0, 0x13, 3, 0x10, 0, 0, 0, 32, 0, 32, 0, 0, 0, 0, 0] ++ List.replicate 16 0

/-- An assertion fails. -/
theorem not_readsSafely_orphanedPdu : ¬ ReadsSafely rtsReadPduHeader (place orphanedPdu 0) := by
  intro h
  have hrun : (rtsReadPduHeader (place orphanedPdu 0)).1 = none ∧
      (rtsReadPduHeader (place orphanedPdu 0)).2.fault = some .assertion := by
    decide +kernel
  unfold ReadsSafely Attempt.Meets at h
  rcases heq : rtsReadPduHeader (place orphanedPdu 0) with ⟨_ | header, s⟩
  · rw [heq] at h hrun
    exact nomatch hrun.2.symm.trans h
  · rw [heq] at hrun
    exact nomatch hrun.1

end Safety

end FreeRdp
