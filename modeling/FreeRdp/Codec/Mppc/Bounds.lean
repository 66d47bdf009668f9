import FreeRdp.Codec.Mppc.Session

/-!
# The bounds of MPPC

`mppc_decompress` on arbitrary data. Every round moves `HistoryPtr`, which is checked against the
end of the history, so the loop ends and nothing is written outside. The source of a match is
masked, but the copy runs on linearly from there: a match that reaches back over the start of the
history may read past its end.
-/

namespace FreeRdp

/-- The cells of the array `HistoryBuffer`, at either level. -/
def MPPC_HISTORY_CELLS : Nat := 65536

/-- `mppc_set_compression_level`, which leaves `HistoryPtr` where it is. -/
def mppcSetCompressionLevel (mppc : MppcContext) (compressionLevel : Nat) : MppcContext :=
  { mppc with compressionLevel := if compressionLevel < 1 then .rdp4 else .rdp5 }

/-- The contexts that a decompressor goes through. -/
inductive MppcReachable : MppcContext → Prop
  | new (level : Nat) : MppcReachable (mppcContextNew level)
  | setCompressionLevel {mppc : MppcContext} (level : Nat) :
    MppcReachable mppc → MppcReachable (mppcSetCompressionLevel mppc level)
  | reset {mppc : MppcContext} (flush : Bool) :
    MppcReachable mppc → MppcReachable (mppcContextReset mppc flush)
  | decompress {mppc : MppcContext} (src : List UInt8) (flags : Nat) :
    MppcReachable mppc → MppcReachable (mppcDecompress mppc src flags).2

/-! ### Accesses -/

/-- The cells of the history that a round reads and writes when it takes `HistoryPtr` from
`historyPtr` to `next`. -/
def mppcSymbolAccesses (level : MppcLevel) (bs : WBitStream) (historyPtr next : Nat) : List Nat :=
  match mppcReadLiteral bs.accumulator with
  | some _ => [historyPtr]
  | none =>
    match mppcReadCopyOffset level bs.accumulator with
    | .error _ => []
    | .ok (copyOffset, _) =>
      List.range' (mppcMaskOffset level historyPtr copyOffset) (next - historyPtr) ++
        List.range' historyPtr (next - historyPtr)

/-- The accesses of the loop. -/
def mppcLoopAccesses (level : MppcLevel) :
    Nat → WBitStream → (Nat → UInt8) → Nat → List Nat
  | 0, _, _, _ => []
  | fuel + 1, bs, history, historyPtr =>
    if bs.remainingLength ≥ 8 then
      match mppcDecompressSymbol level bs history historyPtr with
      | .error _ => []
      | .ok (bs', history', historyPtr') =>
        mppcSymbolAccesses level bs historyPtr historyPtr' ++
          mppcLoopAccesses level fuel bs' history' historyPtr'
    else []

/-- The accesses of `mppc_decompress` to the history, with those of `ZeroMemory`. -/
def mppcDecompressAccesses (mppc : MppcContext) (src : List UInt8) (flags : Nat) : List Nat :=
  (if flags &&& PACKET_FLUSHED ≠ 0 then List.range mppc.historyBufferSize else []) ++
    if flags &&& PACKET_COMPRESSED = 0 then []
    else
      mppcLoopAccesses mppc.compressionLevel (mppc.historyBufferSize + 1)
        (WBitStream.attach src).fetch (mppcApplyFlags mppc flags).historyBuffer
        (mppcApplyFlags mppc flags).historyPtr

/-- A call is bounded: the loop is over after at most as many rounds as the history has cells, no
access leaves the history, and what is returned is a slice of the history or the source. -/
structure MppcBounded (mppc : MppcContext) (src : List UInt8) (flags : Nat) : Prop where
  terminates : ∀ fuel, mppc.historyBufferSize + 1 ≤ fuel →
    mppcDecompressLoop mppc.compressionLevel fuel (WBitStream.attach src).fetch
        (mppcApplyFlags mppc flags).historyBuffer (mppcApplyFlags mppc flags).historyPtr =
      mppcDecompressLoop mppc.compressionLevel (mppc.historyBufferSize + 1)
        (WBitStream.attach src).fetch (mppcApplyFlags mppc flags).historyBuffer
        (mppcApplyFlags mppc flags).historyPtr
  accesses : ∀ i ∈ mppcDecompressAccesses mppc src flags, i < mppc.historyBufferSize
  slice : ∀ dst, (mppcDecompress mppc src flags).1 = .ok dst →
    (flags &&& PACKET_COMPRESSED = 0 ∧ dst = src) ∨
      ∃ start size, dst = readList (mppcDecompress mppc src flags).2.historyBuffer start size ∧
        start + size ≤ MPPC_HISTORY_CELLS ∧ (size ≠ 0 → start + size ≤ mppc.historyBufferSize)

/-! ### Tokens

What a packet says does not depend on the history. -/

/-- A symbol of a packet: a literal, or a match. -/
inductive MppcToken where
  | literal (sym : UInt8)
  | copy (copyOffset lengthOfMatch : Nat)
  deriving DecidableEq, Repr

namespace MppcToken

/-- The bytes that a token stands for. -/
def length : MppcToken → Nat
  | literal _ => 1
  | copy _ lengthOfMatch => lengthOfMatch

/-- A match at `p` does not reach back over the start of the history, or it ends there before the
end of the history does. -/
def SourceInside (size p : Nat) : MppcToken → Prop
  | literal _ => True
  | copy copyOffset lengthOfMatch =>
    copyOffset % size ≤ p ∨ p + lengthOfMatch ≤ copyOffset % size

instance (size p : Nat) : (t : MppcToken) → Decidable (t.SourceInside size p)
  | literal _ => .isTrue trivial
  | copy copyOffset lengthOfMatch =>
    inferInstanceAs (Decidable (copyOffset % size ≤ p ∨ p + lengthOfMatch ≤ copyOffset % size))

end MppcToken

/-- The next token of a packet, unless its code is invalid. -/
def mppcReadToken (level : MppcLevel) (bs : WBitStream) : Option (MppcToken × WBitStream) :=
  match mppcReadLiteral bs.accumulator with
  | some (literal, nbits) => some (.literal literal, bs.shift nbits)
  | none =>
    match mppcReadCopyOffset level bs.accumulator with
    | .error _ => none
    | .ok (copyOffset, nbits) =>
      match mppcReadLength level (bs.shift nbits).accumulator with
      | .error _ => none
      | .ok (len, nbits') => some (.copy copyOffset len, (bs.shift nbits).shift nbits')

/-- The tokens of a packet up to the first invalid code, at most `fuel` of them. -/
def mppcTokens (level : MppcLevel) : Nat → WBitStream → List MppcToken
  | 0, _ => []
  | fuel + 1, bs =>
    if bs.remainingLength ≥ 8 then
      match mppcReadToken level bs with
      | none => []
      | some (t, bs) => t :: mppcTokens level fuel bs
    else []

/-- The sources of the tokens from `p` on, as far as the tokens fit into the history. -/
def MppcSourcesInside (size : Nat) : Nat → List MppcToken → Prop
  | _, [] => True
  | p, t :: ts =>
    p + t.length ≤ size → t.SourceInside size p ∧ MppcSourcesInside size (p + t.length) ts

/-- The condition under which a packet reads nothing outside of the history: in what it says from
the place on where its flags put `HistoryPtr`, every source is inside. -/
def MppcPacketInside (mppc : MppcContext) (src : List UInt8) (flags : Nat) : Prop :=
  flags &&& PACKET_COMPRESSED = 0 ∨
    MppcSourcesInside mppc.historyBufferSize
      (if flags &&& PACKET_AT_FRONT ≠ 0 ∨ flags &&& PACKET_FLUSHED ≠ 0 then 0 else mppc.historyPtr)
      (mppcTokens mppc.compressionLevel (mppc.historyBufferSize + 1) (WBitStream.attach src).fetch)

/-! ### Rounds -/

/-- A length that is read is positive. -/
private def LengthsPositive (r : Except Int (Nat × Nat)) : Prop :=
  ∀ len nbits, r = .ok (len, nbits) → 0 < len

private lemma LengthsPositive.ite {c : Prop} [Decidable c] {len nbits : Nat}
    {r : Except Int (Nat × Nat)} (hlen : 0 < len) (hr : LengthsPositive r) :
    LengthsPositive (if c then .ok (len, nbits) else r) := by
  intro len' nbits' h
  split at h
  · cases h
    exact hlen
  · exact hr len' nbits' h

lemma mppcReadLength_pos {level : MppcLevel} {accumulator len nbits : Nat}
    (h : mppcReadLength level accumulator = .ok (len, nbits)) : 0 < len := by
  have hchain : LengthsPositive (mppcReadLength level accumulator) := by
    unfold mppcReadLength
    repeat refine LengthsPositive.ite (by omega) ?_
    exact fun _ _ => nofun
  exact hchain len nbits h

lemma mppcReadToken_length {level : MppcLevel} {bs bs' : WBitStream} {t : MppcToken}
    (h : mppcReadToken level bs = some (t, bs')) : 0 < t.length := by
  unfold mppcReadToken at h
  split at h
  · cases h
    exact Nat.one_pos
  · split at h
    · cases h
    · split at h
      · cases h
      · rename_i hlen
        cases h
        exact mppcReadLength_pos hlen

/-- The source of a match, with the match inside of the history. -/
lemma mppcMaskOffset_eq (level : MppcLevel) {p : Nat} (hp : p < level.historyBufferSize)
    (copyOffset : Nat) : mppcMaskOffset level p copyOffset =
      if copyOffset % level.historyBufferSize ≤ p then p - copyOffset % level.historyBufferSize
      else level.historyBufferSize + p - copyOffset % level.historyBufferSize := by
  unfold mppcMaskOffset
  by_cases hback : copyOffset % level.historyBufferSize ≤ p
  · rw [if_pos hback]
    cases level <;> simp only [MppcLevel.historyBufferSize] at hp hback ⊢ <;> omega
  · rw [if_neg hback]
    cases level <;> simp only [MppcLevel.historyBufferSize] at hp hback ⊢ <;> omega

/-- Where a token puts its bytes, and where a match has them from. -/
def MppcToken.accesses (level : MppcLevel) (p : Nat) : MppcToken → List Nat
  | .literal _ => [p]
  | .copy copyOffset len =>
    List.range' (mppcMaskOffset level p copyOffset) len ++ List.range' p len

/-- A round is a token that fits. -/
lemma mppcDecompressSymbol_ok {level : MppcLevel} {bs bs' : WBitStream}
    {history history' : Nat → UInt8} {p p' : Nat}
    (h : mppcDecompressSymbol level bs history p = .ok (bs', history', p')) :
    ∃ t, mppcReadToken level bs = some (t, bs') ∧ p' = p + t.length ∧
      p' ≤ level.historyBufferSize ∧ mppcSymbolAccesses level bs p p' = t.accesses level p := by
  have hsize := level.historyBufferSize_pos
  unfold mppcDecompressSymbol at h
  split at h
  · cases h
  · rename_i hp
    split at h
    · rename_i literal nbits hliteral
      cases h
      refine ⟨.literal literal, ?_, rfl, by omega, ?_⟩
      · simp only [mppcReadToken, hliteral]
      · simp only [mppcSymbolAccesses, hliteral, MppcToken.accesses]
    · rename_i hliteral
      rcases hoffset : mppcReadCopyOffset level bs.accumulator with e | ⟨copyOffset, nbits⟩
      · simp [hoffset, bind, Except.bind] at h
      rcases hlen : mppcReadLength level (bs.shift nbits).accumulator with e | ⟨len, nbits'⟩
      · simp [hoffset, hlen, bind, Except.bind] at h
      simp only [hoffset, hlen, bind, Except.bind] at h
      split at h
      · cases h
      · have hpos := mppcReadLength_pos hlen
        cases h
        refine ⟨.copy copyOffset len, ?_, rfl, by omega, ?_⟩
        · simp only [mppcReadToken, hliteral, hoffset, hlen]
        · simp only [mppcSymbolAccesses, hliteral, hoffset, MppcToken.accesses,
            Nat.add_sub_cancel_left]

/-- A round that fails has an invalid code, or a token that does not fit. -/
lemma mppcDecompressSymbol_error {level : MppcLevel} {bs : WBitStream}
    {history : Nat → UInt8} {p : Nat} {e : Int}
    (h : mppcDecompressSymbol level bs history p = .error e) :
    ∀ t bs', mppcReadToken level bs = some (t, bs') → level.historyBufferSize < p + t.length := by
  intro t bs' htoken
  have hlength := mppcReadToken_length htoken
  unfold mppcDecompressSymbol at h
  split at h
  · omega
  · unfold mppcReadToken at htoken
    split at h
    · cases h
    · rename_i hliteral
      simp only [hliteral] at htoken
      rcases hoffset : mppcReadCopyOffset level bs.accumulator with e | ⟨copyOffset, nbits⟩
      · simp [hoffset] at htoken
      simp only [hoffset] at htoken
      rcases hlen : mppcReadLength level (bs.shift nbits).accumulator with e | ⟨len, nbits'⟩
      · simp [hlen] at htoken
      simp only [hlen] at htoken
      cases htoken
      simp only [hoffset, hlen, bind, Except.bind] at h
      split at h
      · simp only [MppcToken.length]
        omega
      · cases h

/-- The accesses of a token that fits. -/
lemma MppcToken.accesses_lt_iff {level : MppcLevel} {p : Nat} {t : MppcToken}
    (hlength : 0 < t.length) (hfits : p + t.length ≤ level.historyBufferSize) :
    (∀ i ∈ t.accesses level p, i < level.historyBufferSize) ↔
      t.SourceInside level.historyBufferSize p := by
  cases t with
  | literal sym =>
    simp only [accesses, SourceInside, List.mem_singleton, forall_eq, iff_true]
    simp only [length] at hfits
    omega
  | copy copyOffset len =>
    simp only [length] at hlength hfits
    simp only [accesses, SourceInside, List.mem_append, List.mem_range'_1]
    rw [mppcMaskOffset_eq level (by omega)]
    have hmod := Nat.mod_lt copyOffset level.historyBufferSize_pos
    constructor
    · intro h
      by_cases hback : copyOffset % level.historyBufferSize ≤ p
      · exact .inl hback
      · -- the last cell that is read
        have hlast := h (level.historyBufferSize + p - copyOffset % level.historyBufferSize +
          (len - 1)) (.inl (by rw [if_neg hback]; omega))
        omega
    · intro h i hi
      split at hi <;> omega

/-! ### The loop -/

/-- The loop has ended by the time that its fuel is used up. -/
lemma mppcDecompressLoop_fuel {level : MppcLevel} {fuel fuel' : Nat} {bs : WBitStream}
    {history : Nat → UInt8} {p : Nat} (hfuel : level.historyBufferSize < p + fuel)
    (hfuel' : fuel ≤ fuel') (hpos : 0 < fuel) :
    mppcDecompressLoop level fuel' bs history p = mppcDecompressLoop level fuel bs history p := by
  induction fuel generalizing fuel' bs history p with
  | zero => exact absurd hpos (Nat.lt_irrefl 0)
  | succ fuel ih =>
    obtain ⟨fuel', rfl⟩ :=
      Nat.exists_eq_add_of_le' (Nat.one_le_of_lt (Nat.lt_of_lt_of_le hpos hfuel'))
    rw [mppcDecompressLoop, mppcDecompressLoop]
    split
    · rcases hround : mppcDecompressSymbol level bs history p with e | ⟨bs', history', p'⟩
      · rfl
      · obtain ⟨t, htoken, rfl, hfits, -⟩ := mppcDecompressSymbol_ok hround
        have hlength := mppcReadToken_length htoken
        exact ih (by omega) (by omega) (by omega)
    · rfl

/-- `HistoryPtr` moves forward, and not beyond the end of the history. -/
lemma mppcDecompressLoop_historyPtr {level : MppcLevel} {fuel : Nat} {bs : WBitStream}
    {history history' : Nat → UInt8} {p p' : Nat}
    (h : mppcDecompressLoop level fuel bs history p = (.ok p', history')) :
    p ≤ p' ∧ (p' ≠ p → p' ≤ level.historyBufferSize) := by
  induction fuel generalizing bs history p with
  | zero =>
    cases h
    exact ⟨le_rfl, fun hne => absurd rfl hne⟩
  | succ fuel ih =>
    rw [mppcDecompressLoop] at h
    split at h
    · rcases hround : mppcDecompressSymbol level bs history p with e | ⟨bs₁, history₁, p₁⟩
      · rw [hround] at h
        cases h
      · rw [hround] at h
        obtain ⟨t, -, rfl, hfits, -⟩ := mppcDecompressSymbol_ok hround
        obtain ⟨hle, hend⟩ := ih h
        refine ⟨by omega, fun _ => ?_⟩
        by_cases heq : p' = p + t.length
        · omega
        · exact hend heq
    · cases h
      exact ⟨le_rfl, fun hne => absurd rfl hne⟩

/-- The accesses of the loop stay inside as long as the sources of the tokens do. -/
lemma mppcLoopAccesses_lt_iff (level : MppcLevel) (fuel : Nat) (bs : WBitStream)
    (history : Nat → UInt8) (p : Nat) :
    (∀ i ∈ mppcLoopAccesses level fuel bs history p, i < level.historyBufferSize) ↔
      MppcSourcesInside level.historyBufferSize p (mppcTokens level fuel bs) := by
  induction fuel generalizing bs history p with
  | zero => simp [mppcLoopAccesses, mppcTokens, MppcSourcesInside]
  | succ fuel ih =>
    rw [mppcLoopAccesses, mppcTokens]
    by_cases hbits : bs.remainingLength ≥ 8
    · rw [if_pos hbits, if_pos hbits]
      rcases hround : mppcDecompressSymbol level bs history p with e | ⟨bs', history', p'⟩
      · have herror := mppcDecompressSymbol_error hround
        rcases htoken : mppcReadToken level bs with _ | ⟨t, bs'⟩
        · simp [MppcSourcesInside]
        · have hlarge := herror t bs' htoken
          simp only [List.not_mem_nil, false_imp_iff, implies_true, MppcSourcesInside, true_iff]
          intro hfits
          omega
      · obtain ⟨t, htoken, rfl, hfits, haccesses⟩ := mppcDecompressSymbol_ok hround
        simp only [htoken, MppcSourcesInside, haccesses]
        rw [← MppcToken.accesses_lt_iff (mppcReadToken_length htoken) hfits, ← ih bs' history']
        simp only [List.mem_append, or_imp, forall_and]
        exact ⟨fun h => ⟨fun _ => h.1, fun _ => h.2⟩, fun h => ⟨h.1 hfits, h.2 hfits⟩⟩
    · rw [if_neg hbits, if_neg hbits]
      simp [MppcSourcesInside]

/-! ### Calls -/

lemma MppcLevel.historyBufferSize_le (level : MppcLevel) :
    level.historyBufferSize ≤ MPPC_HISTORY_CELLS := by
  cases level <;> decide

/-- The flags leave `HistoryPtr`, or take it to the front. -/
lemma mppcApplyFlags_historyPtr_le (mppc : MppcContext) (flags : Nat) :
    (mppcApplyFlags mppc flags).historyPtr ≤ mppc.historyPtr := by
  rw [mppcApplyFlags_historyPtr]
  split
  · exact Nat.zero_le _
  · exact le_rfl

/-- What a successful call returns, and where it leaves `HistoryPtr`. -/
lemma mppcDecompress_ok {mppc mppc' : MppcContext} {src dst : List UInt8} {flags : Nat}
    (h : mppcDecompress mppc src flags = (.ok dst, mppc')) :
    (flags &&& PACKET_COMPRESSED = 0 ∧ dst = src ∧ mppc' = mppcApplyFlags mppc flags) ∨
      ∃ size, dst = readList mppc'.historyBuffer (mppcApplyFlags mppc flags).historyPtr size ∧
        mppc'.historyPtr = (mppcApplyFlags mppc flags).historyPtr + size ∧
        (size ≠ 0 → mppc'.historyPtr ≤ mppc.historyBufferSize) := by
  simp only [mppcDecompress] at h
  split at h
  · cases h
    exact .inl ⟨‹_›, rfl, rfl⟩
  · split at h
    · cases h
    · rename_i p' history' hloop
      obtain ⟨hle, hend⟩ := mppcDecompressLoop_historyPtr hloop
      cases h
      refine .inr ⟨p' - (mppcApplyFlags mppc flags).historyPtr, rfl, by dsimp only; omega, ?_⟩
      intro hne
      have hsize := hend (by omega)
      rwa [mppcApplyFlags_compressionLevel] at hsize

lemma mppcDecompress_error {mppc mppc' : MppcContext} {src : List UInt8} {flags : Nat} {e : Int}
    (h : mppcDecompress mppc src flags = (.error e, mppc')) :
    mppc'.historyPtr = (mppcApplyFlags mppc flags).historyPtr := by
  simp only [mppcDecompress] at h
  split at h
  · cases h
  · split at h
    · cases h
      rfl
    · cases h

/-- `HistoryPtr` of a reachable context points into the array, or right behind it. A change of the
level may leave it behind the end of the smaller history. -/
lemma MppcReachable.historyPtr_le {mppc : MppcContext} (h : MppcReachable mppc) :
    mppc.historyPtr ≤ MPPC_HISTORY_CELLS := by
  induction h with
  | new level => exact Nat.zero_le _
  | setCompressionLevel level _ ih => exact ih
  | reset flush _ ih => exact Nat.zero_le _
  | @decompress mppc src flags _ ih =>
    have hptr := mppcApplyFlags_historyPtr_le mppc flags
    rcases hcall : mppcDecompress mppc src flags with ⟨e | dst, mppc'⟩
    · rw [mppcDecompress_error hcall]
      exact hptr.trans ih
    · rcases mppcDecompress_ok hcall with ⟨-, -, rfl⟩ | ⟨size, -, hptr', hend⟩
      · exact hptr.trans ih
      · by_cases hsize : size = 0
        · rw [hsize] at hptr'
          exact (hptr'.trans_le hptr).trans ih
        · exact (hend hsize).trans mppc.compressionLevel.historyBufferSize_le

/-- The accesses of a call. -/
lemma mppcDecompressAccesses_lt_iff (mppc : MppcContext) (src : List UInt8) (flags : Nat) :
    (∀ i ∈ mppcDecompressAccesses mppc src flags, i < mppc.historyBufferSize) ↔
      MppcPacketInside mppc src flags := by
  have hsize : mppc.historyBufferSize = mppc.compressionLevel.historyBufferSize := rfl
  have hzeros : ∀ i ∈ if flags &&& PACKET_FLUSHED ≠ 0 then List.range mppc.historyBufferSize
      else [], i < mppc.historyBufferSize := by
    intro i hi
    split at hi
    · exact List.mem_range.mp hi
    · exact absurd hi List.not_mem_nil
  rw [mppcDecompressAccesses, MppcPacketInside, ← mppcApplyFlags_historyPtr mppc flags]
  generalize mppc.historyBufferSize + 1 = fuel
  by_cases hplain : flags &&& PACKET_COMPRESSED = 0
  · rw [if_pos hplain, List.append_nil]
    exact ⟨fun _ => .inl hplain, fun _ => hzeros⟩
  · rw [if_neg hplain, or_iff_right hplain]
    have hloop := mppcLoopAccesses_lt_iff mppc.compressionLevel fuel (WBitStream.attach src).fetch
      (mppcApplyFlags mppc flags).historyBuffer (mppcApplyFlags mppc flags).historyPtr
    rw [← hsize] at hloop
    rw [← hloop]
    constructor
    · intro h i hi
      exact h i (List.mem_append_right _ hi)
    · intro h i hi
      rcases List.mem_append.mp hi with hzero | hi
      · exact hzeros i hzero
      · exact h i hi

/-- What a successful call returns. -/
lemma MppcReachable.slice {mppc : MppcContext} (h : MppcReachable mppc) {src dst : List UInt8}
    {flags : Nat} (hdst : (mppcDecompress mppc src flags).1 = .ok dst) :
    (flags &&& PACKET_COMPRESSED = 0 ∧ dst = src) ∨
      ∃ start size, dst = readList (mppcDecompress mppc src flags).2.historyBuffer start size ∧
        start + size ≤ MPPC_HISTORY_CELLS ∧ (size ≠ 0 → start + size ≤ mppc.historyBufferSize) := by
  rcases mppcDecompress_ok (Prod.ext hdst rfl) with ⟨hplain, hsrc, -⟩ | ⟨size, hread, hend, hle⟩
  · exact .inl ⟨hplain, hsrc⟩
  · refine .inr ⟨_, size, hread, ?_, fun hsize => hend ▸ hle hsize⟩
    rw [← hend]
    by_cases hsize : size = 0
    · rw [hend, hsize]
      exact (mppcApplyFlags_historyPtr_le mppc flags).trans h.historyPtr_le
    · exact (hle hsize).trans mppc.compressionLevel.historyBufferSize_le

/-- A call to `mppc_decompress` in any reachable context, with any data and flags, is bounded if
and only if no match of the packet reads from behind the end of the history. -/
theorem mppcDecompress_bounded_iff {mppc : MppcContext} (h : MppcReachable mppc)
    (src : List UInt8) (flags : Nat) :
    MppcBounded mppc src flags ↔ MppcPacketInside mppc src flags := by
  rw [← mppcDecompressAccesses_lt_iff]
  constructor
  · intro hbounded
    exact hbounded.accesses
  · intro haccesses
    refine ⟨fun fuel hfuel => ?_, haccesses, fun dst hdst => h.slice hdst⟩
    have hsize : mppc.historyBufferSize = mppc.compressionLevel.historyBufferSize := rfl
    exact mppcDecompressLoop_fuel (by rw [← hsize]; omega) hfuel (Nat.succ_pos _)

/-- A context after a packet with three literals. -/
def mppcAfterLiterals : MppcContext :=
  (mppcDecompress (mppcContextNew 1) [0x41, 0x42, 0x43] 0x21).2

/-- A packet with a match of the three bytes of the packet before. -/
theorem mppcDecompress_bounded_match :
    MppcReachable mppcAfterLiterals ∧ MppcBounded mppcAfterLiterals [0xF8, 0x60] 0x21 := by
  have hreachable : MppcReachable mppcAfterLiterals := .decompress _ _ (.new 1)
  refine ⟨hreachable, (mppcDecompress_bounded_iff hreachable [0xF8, 0x60] 0x21).mpr (.inr ?_)⟩
  have hlevel : mppcAfterLiterals.compressionLevel = .rdp5 := by decide +kernel
  have hptr : mppcAfterLiterals.historyPtr = 3 := by decide +kernel
  have htokens : mppcTokens .rdp5 65537 (WBitStream.attach [0xF8, 0x60]).fetch = [.copy 3 3] := by
    decide +kernel
  rw [MppcContext.historyBufferSize, hlevel, hptr, if_neg (by decide)]
  show MppcSourcesInside 65536 3 (mppcTokens .rdp5 65537 (WBitStream.attach [0xF8, 0x60]).fetch)
  rw [htokens]
  exact fun _ => ⟨by decide, trivial⟩

/-- The first packet of a session is a match of three bytes, one byte back: it reads the last cell
of the history and two cells behind it. -/
theorem mppcDecompress_unbounded :
    ¬∀ mppc, MppcReachable mppc → ∀ src flags, MppcBounded mppc src flags := by
  intro h
  have haccess : 65536 ∈ mppcDecompressAccesses (mppcContextNew 1) [0xF8, 0x20] 0x21 := by
    decide +kernel
  have hlt := (h (mppcContextNew 1) (.new 1) [0xF8, 0x20] 0x21).accesses 65536 haccess
  exact absurd hlt (Nat.lt_irrefl 65536)

end FreeRdp
