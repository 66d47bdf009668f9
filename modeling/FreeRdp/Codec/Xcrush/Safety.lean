import FreeRdp.Codec.Xcrush.Basic

/-!
# Bounds of XCRUSH level-1 decompression

What a packet describes is a list of items: literals, and copies from the history. The function
writes just that into the history, unless a match that it comes to starts where it is to be written.
-/

namespace FreeRdp

variable {srcSize : Nat}

/-! ### Copying -/

section Copying

variable {l : XcrushLayout srcSize} {memory : Nat → UInt8} {dst src num : Nat}

lemma XcrushLayout.Writable.part (h : l.Writable dst num) {k n : Nat} (hn : k + n ≤ num) :
    l.Writable (dst + k) n := by
  unfold Writable at *
  omega

lemma XcrushLayout.Readable.part (h : l.Readable src num) {k n : Nat} (hn : k + n ≤ num) :
    l.Readable (src + k) n := by
  unfold Readable at *
  rcases h with h | h
  · exact .inl (h.part hn)
  · exact .inr (by omega)

lemma xcrushMemcpy_eq (hdst : l.Writable dst num) (hsrc : l.Readable src num)
    (h : src + num ≤ dst ∨ dst + num ≤ src) :
    xcrushMemcpy l memory dst src num = .ok (copyCells memory src dst num) := by
  rw [xcrushMemcpy, if_neg (by simp [hdst, hsrc]), if_neg (by omega),
    copyCells_eq_copyBlock (by omega)]

/-- Blocks as long as the distance make a copy cell by cell. -/
lemma xcrushMemcpy_blocks {diff : Nat} (hdst : l.Writable dst num) (hsrc : l.Readable src num)
    (hdiff : src + diff = dst ∨ dst + diff = src) (k : Nat) (hk : k * diff ≤ num) :
    (List.range k).foldlM (fun memory k =>
      xcrushMemcpy l memory (dst + k * diff) (src + k * diff) diff) memory =
      (.ok (copyCells memory src dst (k * diff)) : XcrushRun (Nat → UInt8)) := by
  induction k with
  | zero => simp [copyCells]; rfl
  | succ k ih =>
    have hsum : (k + 1) * diff = k * diff + diff := Nat.succ_mul k diff
    rw [List.range_succ, List.foldlM_append, ih (by omega), hsum, copyCells_add]
    simp only [List.foldlM_cons, List.foldlM_nil, bind_pure]
    exact xcrushMemcpy_eq (hdst.part (by omega)) (hsrc.part (by omega)) (by omega)

/-- `xcrush_copy_bytes` copies cell by cell, inside of the buffers. -/
lemma xcrushCopyBytes_eq (hdst : l.Writable dst num) (hsrc : l.Readable src num)
    (hne : src ≠ dst) :
    xcrushCopyBytes l memory dst src num = .ok (copyCells memory src dst num) := by
  unfold xcrushCopyBytes
  split
  · exact xcrushMemcpy_eq hdst hsrc (by omega)
  · obtain ⟨diff, hif, hdiff, hpos⟩ : ∃ diff, (if dst > src then dst - src else src - dst) = diff ∧
        (src + diff = dst ∨ dst + diff = src) ∧ 0 < diff := by
      refine ⟨_, rfl, ?_, ?_⟩ <;> split <;> omega
    simp only [hif]
    rw [if_neg (by omega)]
    have hmod := Nat.mod_le num diff
    have hlast : (num - num % diff) / diff * diff = num - num % diff :=
      Nat.div_mul_cancel (Nat.dvd_sub_mod num)
    rw [xcrushMemcpy_blocks hdst hsrc hdiff _ (by omega), hlast]
    show (if num % diff ≠ 0 then _ else _) = _
    have hnum : copyCells memory src dst num = copyCells
        (copyCells memory src dst (num - num % diff)) (src + (num - num % diff))
        (dst + (num - num % diff)) (num % diff) := by
      rw [← copyCells_add, Nat.sub_add_cancel hmod]
    have hrest := Nat.mod_lt num hpos
    split
    · rw [hnum]
      exact xcrushMemcpy_eq (hdst.part (by omega)) (hsrc.part (by omega)) (by omega)
    · rename_i hzero
      rw [hnum, not_not.mp hzero]
      rfl

/-- Nothing is copied onto itself: the modulus is zero. -/
lemma xcrushCopyBytes_self (l : XcrushLayout srcSize) (memory : Nat → UInt8) (dst num : Nat) :
    xcrushCopyBytes l memory dst dst num = .error (.zeroModulus, memory) := by
  unfold xcrushCopyBytes
  rw [if_neg (by omega)]
  simp

end Copying

/-! ### The memory -/

section Memory

variable {src : List UInt8} (l : XcrushLayout src.length) (history : Nat → UInt8)

lemma memory_history {i : Nat} (hi : i < XCRUSH_HISTORY_SIZE) :
    l.memory history src (l.historyBuffer + i) = history i := by
  rw [XcrushLayout.memory, if_pos (by rw [XcrushLayout.historyBufferEnd]; omega),
    Nat.add_sub_cancel_left]

lemma memory_source {k : Nat} (hk : k < src.length) :
    l.memory history src (l.srcData + k) = src.getD k 0 := by
  have hapart := l.apart
  rw [XcrushLayout.memory, if_neg (by rw [XcrushLayout.historyBufferEnd]; omega),
    Nat.add_sub_cancel_left]

lemma update_memory {i : Nat} (hi : i < XCRUSH_HISTORY_SIZE) (b : UInt8) :
    Function.update (l.memory history src) (l.historyBuffer + i) b =
      l.memory (Function.update history i b) src := by
  funext a
  by_cases ha : a = l.historyBuffer + i
  · subst ha
    rw [Function.update_self, memory_history l _ hi, Function.update_self]
  · rw [Function.update_of_ne ha]
    simp only [XcrushLayout.memory]
    split
    · rw [Function.update_of_ne (by omega)]
    · rfl

/-- A copy inside of the history. -/
lemma copyCells_memory_history {s d n : Nat} (hs : s + n ≤ XCRUSH_HISTORY_SIZE)
    (hd : d + n ≤ XCRUSH_HISTORY_SIZE) :
    copyCells (l.memory history src) (l.historyBuffer + s) (l.historyBuffer + d) n =
      l.memory (copyCells history s d n) src := by
  induction n generalizing history s d with
  | zero => rfl
  | succ n ih =>
    rw [copyCells, memory_history l history (by omega), update_memory l history (by omega),
      Nat.add_assoc, Nat.add_assoc, ih _ (by omega) (by omega), copyCells]

/-- A copy from the source. -/
lemma copyCells_memory_source {k d n : Nat} (hk : k + n ≤ src.length)
    (hd : d + n ≤ XCRUSH_HISTORY_SIZE) :
    copyCells (l.memory history src) (l.srcData + k) (l.historyBuffer + d) n =
      l.memory (writeList history d ((src.drop k).take n)) src := by
  induction n generalizing history k d with
  | zero => rfl
  | succ n ih =>
    have hlt : k < src.length := by omega
    rw [copyCells, memory_source l history hlt, update_memory l history (by omega),
      Nat.add_assoc, Nat.add_assoc, ih _ (by omega) (by omega), List.drop_eq_getElem_cons hlt,
      List.take_succ_cons, writeList, List.getD_eq_getElem?_getD, List.getElem?_eq_getElem hlt]
    rfl

end Memory

/-! ### What a packet describes -/

/-- A piece of a packet. -/
inductive XcrushItem where
  | literals (bytes : List UInt8)
  | copy (offset length : Nat)
  deriving DecidableEq, Repr

/-- An item is written at the end of what has been written to the history. -/
def XcrushItem.apply : (Nat → UInt8) × Nat → XcrushItem → (Nat → UInt8) × Nat
  | (history, pos), .literals bytes => (writeList history pos bytes, pos + bytes.length)
  | (history, pos), .copy offset length => (copyCells history offset pos length, pos + length)

/-- The details of the matches of a packet. -/
def xcrushDetails (src : List UInt8) : List MatchDetails :=
  (List.range (dataReadUInt16 (src.getD · 0) 0)).map fun i =>
    dataReadMatch (src.getD · 0) (2 + 8 * i)

/-- The items of a packet, from an output offset and a place of the literals on. -/
def xcrushItems (src : List UInt8) : List MatchDetails → Nat → Nat → List XcrushItem
  | [], _, literals => [.literals (src.drop literals)]
  | m :: ms, outputOffset, literals =>
    let outputLength := m.matchOutputOffset - outputOffset
    .literals ((src.drop literals).take outputLength) ::
      .copy m.matchHistoryOffset m.matchLength ::
      xcrushItems src ms (m.matchOutputOffset + m.matchLength) (literals + outputLength)

/-- A match passes the checks that are made of it. -/
structure MatchDetails.Accepted (m : MatchDetails) (srcSize start outputOffset literals : Nat) :
    Prop where
  order : outputOffset ≤ m.matchOutputOffset
  history : m.matchHistoryOffset + m.matchLength < XCRUSH_HISTORY_SIZE
  output : start + (m.matchOutputOffset + m.matchLength) < XCRUSH_HISTORY_SIZE
  literals : literals + (m.matchOutputOffset - outputOffset) ≤ srcSize

/-- One of the matches is reached, passes the checks and starts where it is to be written. -/
def XcrushSelfMatch (srcSize start : Nat) : List MatchDetails → Nat → Nat → Prop
  | [], _, _ => False
  | m :: ms, outputOffset, literals =>
    m.Accepted srcSize start outputOffset literals ∧
      (m.matchHistoryOffset = start + m.matchOutputOffset ∨
        XcrushSelfMatch srcSize start ms (m.matchOutputOffset + m.matchLength)
          (literals + (m.matchOutputOffset - outputOffset)))

/-! ### Matches -/

/-- What the function has done so far: the history, where the packet starts in it, how much has been
put out, and where the next literals are. -/
structure XcrushProgress where
  history : Nat → UInt8
  start : Nat
  outputOffset : Nat
  literals : Nat

namespace XcrushProgress

variable {src : List UInt8}

/-- The variables of the function. -/
def toL1 (p : XcrushProgress) (src : List UInt8) (l : XcrushLayout src.length) : XcrushL1 where
  memory := l.memory p.history src
  historyPtr := l.historyBuffer + (p.start + p.outputOffset)
  literals := l.srcData + p.literals
  outputOffset := p.outputOffset

/-- With the next `n` literals. -/
def withLiterals (p : XcrushProgress) (src : List UInt8) (n : Nat) : XcrushProgress :=
  { p with
    history := writeList p.history (p.start + p.outputOffset) ((src.drop p.literals).take n)
    outputOffset := p.outputOffset + n
    literals := p.literals + n }

/-- With a copy from the history. -/
def withCopy (p : XcrushProgress) (offset length : Nat) : XcrushProgress :=
  { p with
    history := copyCells p.history offset (p.start + p.outputOffset) length
    outputOffset := p.outputOffset + length }

variable {l : XcrushLayout src.length} {p : XcrushProgress}

lemma copyLiterals_toL1 {n : Nat} (hn : 0 < n) (hliterals : p.literals + n ≤ src.length)
    (houtput : p.start + p.outputOffset + n < XCRUSH_HISTORY_SIZE) :
    (p.toL1 src l).copyLiterals l n = .ok ((p.withLiterals src n).toL1 src l) := by
  have hapart := l.apart
  have hcopy : xcrushCopyBytes l (p.toL1 src l).memory (p.toL1 src l).historyPtr
      (p.toL1 src l).literals n = .ok ((p.withLiterals src n).toL1 src l).memory := by
    rw [xcrushCopyBytes_eq]
    · exact congrArg _ (copyCells_memory_source l p.history hliterals (by omega))
    · right
      simp only [toL1, XcrushLayout.historyBufferEnd]
      omega
    · right
      simp only [toL1, XcrushLayout.srcEnd]
      omega
    · simp only [toL1]
      omega
  rw [XcrushL1.copyLiterals, hcopy]
  simp only [toL1, withLiterals, Nat.add_assoc]
  rfl

lemma xcrush_ok_bind {α β : Type} (x : α) (f : α → XcrushRun β) : (Except.ok x >>= f) = f x := rfl

lemma refuse_of_not {s : XcrushL1} {c : Prop} [Decidable c] {code : Int} (hc : ¬c) :
    s.refuse c code = .ok () := by
  rw [XcrushL1.refuse, if_neg hc]

lemma refuse_of_pos {s : XcrushL1} {c : Prop} [Decidable c] {code : Int} (hc : c) :
    s.refuse c code = .error (.status code, s.memory) := by
  rw [XcrushL1.refuse, if_pos hc]

/-- The literals in front of a match are copied, or there is a status. -/
lemma xcrushLiterals_toL1 (l : XcrushLayout src.length) (p : XcrushProgress) (n : Nat)
    (hliterals : p.literals ≤ src.length) :
    (p.literals + n ≤ src.length ∧ (0 < n → p.start + p.outputOffset + n < XCRUSH_HISTORY_SIZE) ∧
      xcrushLiterals l (p.toL1 src l) n = .ok ((p.withLiterals src n).toL1 src l)) ∨
    ¬(p.literals + n ≤ src.length ∧
        (0 < n → p.start + p.outputOffset + n < XCRUSH_HISTORY_SIZE)) ∧
      ∃ code memory, xcrushLiterals l (p.toL1 src l) n = .error (.status code, memory) := by
  unfold xcrushLiterals
  by_cases hn : 0 < n
  · rw [if_pos hn]
    by_cases hc : (p.toL1 src l).historyPtr + n ≥ l.historyBufferEnd ∨
        (p.toL1 src l).literals ≥ l.srcEnd ∨ (p.toL1 src l).literals + n > l.srcEnd
    · right
      refine ⟨?_, -1009, _, by rw [refuse_of_pos hc]; rfl⟩
      simp only [toL1, XcrushLayout.historyBufferEnd, XcrushLayout.srcEnd] at hc
      omega
    · left
      rw [refuse_of_not hc, xcrush_ok_bind]
      simp only [toL1, XcrushLayout.historyBufferEnd, XcrushLayout.srcEnd] at hc
      have hcopy := copyLiterals_toL1 (l := l) (p := p) hn (by omega) (by omega)
      refine ⟨by omega, fun _ => by omega, ?_⟩
      rw [hcopy, xcrush_ok_bind, refuse_of_not, xcrush_ok_bind]
      · simp only [toL1, withLiterals, XcrushLayout.srcEnd]
        omega
  · left
    obtain rfl : n = 0 := by omega
    rw [if_neg hn]
    exact ⟨hliterals, fun h => absurd h hn, rfl⟩

/-- With the literals in front of a match, and the match. -/
def withMatch (p : XcrushProgress) (src : List UInt8) (m : MatchDetails) : XcrushProgress :=
  (p.withLiterals src (m.matchOutputOffset - p.outputOffset)).withCopy m.matchHistoryOffset
    m.matchLength

/-- A match passes the checks in what has been done so far. -/
def Accepts (p : XcrushProgress) (srcSize : Nat) (m : MatchDetails) : Prop :=
  m.Accepted srcSize p.start p.outputOffset p.literals

/-- The copy of a match. -/
lemma xcrushCopyBytes_toL1 {offset n : Nat} (hhistory : offset + n < XCRUSH_HISTORY_SIZE)
    (houtput : p.start + p.outputOffset + n < XCRUSH_HISTORY_SIZE)
    (hne : offset ≠ p.start + p.outputOffset) :
    xcrushCopyBytes l (p.toL1 src l).memory (p.toL1 src l).historyPtr (l.historyBuffer + offset) n =
      .ok ((p.withCopy offset n).toL1 src l).memory := by
  rw [xcrushCopyBytes_eq]
  · exact congrArg _ (copyCells_memory_history l p.history (by omega) (by omega))
  · right
    simp only [toL1, XcrushLayout.historyBufferEnd]
    omega
  · left
    right
    simp only [XcrushLayout.historyBufferEnd]
    omega
  · simp only [toL1]
    omega

/-- What comes behind the literals of a match. -/
lemma xcrushMatch_of_literals {m : MatchDetails} {r : XcrushRun XcrushL1}
    (horder : p.outputOffset ≤ m.matchOutputOffset) (hlength : m.matchLength ≤ XCRUSH_HISTORY_SIZE)
    (hoffset : m.matchHistoryOffset ≤ XCRUSH_HISTORY_SIZE)
    (houtput : m.matchOutputOffset - p.outputOffset ≤ XCRUSH_HISTORY_SIZE)
    (hr : xcrushLiterals l (p.toL1 src l) (m.matchOutputOffset - p.outputOffset) = r) :
    xcrushMatch l (p.toL1 src l) m = (do
      let s ← r
      s.refuse (s.historyPtr + m.matchLength ≥ l.historyBufferEnd ∨
        l.historyBuffer + m.matchHistoryOffset + m.matchLength ≥ l.historyBufferEnd) (-1011)
      let memory ← xcrushCopyBytes l s.memory s.historyPtr (l.historyBuffer + m.matchHistoryOffset)
        m.matchLength
      .ok { s with
        memory := memory
        outputOffset := s.outputOffset + m.matchLength
        historyPtr := s.historyPtr + m.matchLength }) := by
  have h₁ : ¬m.matchOutputOffset < (p.toL1 src l).outputOffset := by
    simp only [toL1]
    omega
  have h₂ : ¬m.matchOutputOffset - (p.toL1 src l).outputOffset > XCRUSH_HISTORY_SIZE := by
    simp only [toL1]
    omega
  rw [← hr]
  unfold xcrushMatch
  rw [refuse_of_not h₁, refuse_of_not (by omega : ¬m.matchLength > XCRUSH_HISTORY_SIZE),
    refuse_of_not (by omega : ¬m.matchHistoryOffset > XCRUSH_HISTORY_SIZE)]
  dsimp only
  rw [refuse_of_not h₂]
  rfl

/-- A match that does not pass the checks ends in a status. -/
lemma xcrushMatch_refused (l : XcrushLayout src.length) {m : MatchDetails}
    (hliterals : p.literals ≤ src.length) (h : ¬p.Accepts src.length m) :
    ∃ code memory, xcrushMatch l (p.toL1 src l) m = .error (.status code, memory) := by
  by_cases h₁ : m.matchOutputOffset < (p.toL1 src l).outputOffset
  · exact ⟨-1005, _, by rw [xcrushMatch, refuse_of_pos h₁]; rfl⟩
  by_cases h₂ : m.matchLength > XCRUSH_HISTORY_SIZE
  · exact ⟨-1006, _, by rw [xcrushMatch, refuse_of_not h₁, refuse_of_pos h₂]; rfl⟩
  by_cases h₃ : m.matchHistoryOffset > XCRUSH_HISTORY_SIZE
  · exact ⟨-1007, _, by
      rw [xcrushMatch, refuse_of_not h₁, refuse_of_not h₂, refuse_of_pos h₃]; rfl⟩
  by_cases h₄ : m.matchOutputOffset - (p.toL1 src l).outputOffset > XCRUSH_HISTORY_SIZE
  · refine ⟨-1008, (p.toL1 src l).memory, ?_⟩
    rw [xcrushMatch, refuse_of_not h₁, refuse_of_not h₂, refuse_of_not h₃]
    dsimp only
    rw [refuse_of_pos h₄]
    rfl
  simp only [toL1] at h₁ h₄
  obtain ⟨hsource, -, hok⟩ | ⟨-, code, memory, herror⟩ :=
    xcrushLiterals_toL1 l p (m.matchOutputOffset - p.outputOffset) hliterals
  · rw [xcrushMatch_of_literals (by omega) (by omega) (by omega) (by omega) hok]
    refine ⟨-1011, ((p.withLiterals src (m.matchOutputOffset - p.outputOffset)).toL1 src l).memory,
      ?_⟩
    rw [xcrush_ok_bind, refuse_of_pos]
    · rfl
    · by_contra hfits
      simp only [toL1, withLiterals, XcrushLayout.historyBufferEnd] at hfits
      exact h ⟨by omega, by omega, by omega, hsource⟩
  · rw [xcrushMatch_of_literals (by omega) (by omega) (by omega) (by omega) herror]
    exact ⟨code, memory, rfl⟩

/-- A match that passes them is written behind its literals, if it does not start there. -/
lemma xcrushMatch_accepted (l : XcrushLayout src.length) {m : MatchDetails}
    (hliterals : p.literals ≤ src.length) (h : p.Accepts src.length m) :
    (m.matchHistoryOffset = p.start + m.matchOutputOffset →
      ∃ memory, xcrushMatch l (p.toL1 src l) m = .error (.zeroModulus, memory)) ∧
    (m.matchHistoryOffset ≠ p.start + m.matchOutputOffset →
      xcrushMatch l (p.toL1 src l) m = .ok ((p.withMatch src m).toL1 src l)) := by
  obtain ⟨horder, hhistory, houtput, hsource⟩ := h
  obtain ⟨-, -, hok⟩ | ⟨hnot, -⟩ :=
    xcrushLiterals_toL1 l p (m.matchOutputOffset - p.outputOffset) hliterals
  swap
  · exact absurd ⟨hsource, fun _ => by omega⟩ hnot
  rw [xcrushMatch_of_literals (by omega) (by omega) (by omega) (by omega) hok]
  have hpos : p.start + (p.withLiterals src (m.matchOutputOffset - p.outputOffset)).outputOffset =
      p.start + m.matchOutputOffset := by
    simp only [withLiterals]
    omega
  have hfits : ¬(((p.withLiterals src (m.matchOutputOffset - p.outputOffset)).toL1 src l).historyPtr
      + m.matchLength ≥ l.historyBufferEnd ∨
      l.historyBuffer + m.matchHistoryOffset + m.matchLength ≥ l.historyBufferEnd) := by
    simp only [toL1, withLiterals, XcrushLayout.historyBufferEnd]
    omega
  constructor
  · intro hself
    refine ⟨((p.withLiterals src (m.matchOutputOffset - p.outputOffset)).toL1 src l).memory, ?_⟩
    rw [xcrush_ok_bind, refuse_of_not hfits, xcrush_ok_bind, hself, ← hpos]
    rw [show l.historyBuffer + (p.start +
      (p.withLiterals src (m.matchOutputOffset - p.outputOffset)).outputOffset) =
        ((p.withLiterals src (m.matchOutputOffset - p.outputOffset)).toL1 src l).historyPtr from rfl,
      xcrushCopyBytes_self]
    rfl
  · intro hne
    rw [xcrush_ok_bind, refuse_of_not hfits, xcrush_ok_bind, xcrushCopyBytes_toL1 hhistory,
      xcrush_ok_bind]
    · simp only [withMatch, toL1, withCopy, Nat.add_assoc]
    · simp only [withLiterals]
      omega
    · simp only [withLiterals]
      omega

/-- The items from here on give the same as the literals that are left once `p'` is reached. -/
structure Reaches (p : XcrushProgress) (src : List UInt8) (items : List XcrushItem)
    (p' : XcrushProgress) : Prop where
  start : p'.start = p.start
  literals : p'.literals ≤ src.length
  fits : p'.outputOffset = 0 ∨ p'.start + p'.outputOffset < XCRUSH_HISTORY_SIZE
  items : items.foldl XcrushItem.apply (p.history, p.start + p.outputOffset) =
    XcrushItem.apply (p'.history, p'.start + p'.outputOffset) (.literals (src.drop p'.literals))

lemma apply_withMatch {m : MatchDetails} (h : p.Accepts src.length m) :
    XcrushItem.apply (XcrushItem.apply (p.history, p.start + p.outputOffset)
        (.literals ((src.drop p.literals).take (m.matchOutputOffset - p.outputOffset))))
        (.copy m.matchHistoryOffset m.matchLength) =
      ((p.withMatch src m).history, p.start + (m.matchOutputOffset + m.matchLength)) ∧
    (p.withMatch src m).outputOffset = m.matchOutputOffset + m.matchLength := by
  have horder := h.order
  have hsource := h.literals
  have hlength : ((src.drop p.literals).take (m.matchOutputOffset - p.outputOffset)).length =
      m.matchOutputOffset - p.outputOffset := by
    rw [List.length_take, List.length_drop]
    omega
  simp only [XcrushItem.apply, hlength, withMatch, withLiterals, withCopy, Nat.add_assoc,
    Prod.mk.injEq, true_and]
  omega

lemma dataReadMatch_congr {m m' : Nat → UInt8} {a b : Nat}
    (h : ∀ k, k < 8 → m (a + k) = m' (b + k)) : dataReadMatch m a = dataReadMatch m' b := by
  have hread : ∀ k, k < 7 → dataReadUInt16 m (a + k) = dataReadUInt16 m' (b + k) := by
    intro k hk
    simp only [dataReadUInt16, Nat.add_assoc]
    rw [h k (by omega), h (k + 1) (by omega)]
  have hread' : dataReadUInt32 m (a + 4) = dataReadUInt32 m' (b + 4) := by
    show dataReadUInt16 m (a + 4) + dataReadUInt16 m (a + (4 + 2)) <<< 16 =
      dataReadUInt16 m' (b + 4) + dataReadUInt16 m' (b + (4 + 2)) <<< 16
    rw [hread 4 (by decide), hread (4 + 2) (by decide)]
  have hfirst : dataReadUInt16 m a = dataReadUInt16 m' b := hread 0 (by decide)
  rw [dataReadMatch, dataReadMatch, hread', hread 2 (by decide), hfirst]

/-- The loop over the matches: it comes to a match that starts where it is to be written, it ends in
a status, or it has written the items up to the last literals. -/
lemma xcrushMatches_toL1 (l : XcrushLayout src.length) (count : Nat) :
    ∀ (p : XcrushProgress) (details : Nat), details + 8 * count ≤ src.length →
      p.literals ≤ src.length →
      (p.outputOffset = 0 ∨ p.start + p.outputOffset < XCRUSH_HISTORY_SIZE) →
      let ms := (List.range count).map fun i => dataReadMatch (src.getD · 0) (details + 8 * i)
      let r := xcrushMatches l count (l.srcData + details) (p.toL1 src l)
      (XcrushSelfMatch src.length p.start ms p.outputOffset p.literals ∧
          ∃ memory, r = .error (.zeroModulus, memory)) ∨
      ¬XcrushSelfMatch src.length p.start ms p.outputOffset p.literals ∧
        ((∃ code memory, r = .error (.status code, memory)) ∨
          ∃ p', r = .ok (p'.toL1 src l) ∧
            p.Reaches src (xcrushItems src ms p.outputOffset p.literals) p') := by
  induction count with
  | zero =>
    intro p details _ hliterals hfits
    exact .inr ⟨id, .inr ⟨p, rfl, rfl, hliterals, hfits, rfl⟩⟩
  | succ count ih =>
    intro p details hdetails hliterals hfits
    have hreadable : l.Readable (l.srcData + details) 8 := by
      right
      rw [XcrushLayout.srcEnd]
      omega
    have hread : dataReadMatch (p.toL1 src l).memory (l.srcData + details) =
        dataReadMatch (src.getD · 0) details := by
      refine dataReadMatch_congr fun k hk => ?_
      rw [Nat.add_assoc]
      exact memory_source l p.history (by omega)
    have hms : (List.range (count + 1)).map
        (fun i => dataReadMatch (src.getD · 0) (details + 8 * i)) =
        dataReadMatch (src.getD · 0) details ::
          (List.range count).map fun i => dataReadMatch (src.getD · 0) (details + 8 + 8 * i) := by
      rw [List.range_succ_eq_map, List.map_cons, List.map_map, Nat.mul_zero, Nat.add_zero]
      congr 1
      refine List.map_congr_left fun i _ => ?_
      simp only [Function.comp_apply, Nat.succ_eq_add_one]
      congr 1
      omega
    simp only [hms, xcrushMatches, if_pos hreadable, hread]
    generalize dataReadMatch (src.getD · 0) details = m
    by_cases haccepted : p.Accepts src.length m
    swap
    · -- the match is refused, and no later one is reached
      right
      refine ⟨fun h => haccepted h.1, .inl ?_⟩
      obtain ⟨code, memory, herror⟩ := xcrushMatch_refused l hliterals haccepted
      exact ⟨code, memory, by rw [herror]; rfl⟩
    obtain ⟨hself, hok⟩ := xcrushMatch_accepted l hliterals haccepted
    by_cases hstart : m.matchHistoryOffset = p.start + m.matchOutputOffset
    · left
      obtain ⟨memory, herror⟩ := hself hstart
      exact ⟨⟨haccepted, .inl hstart⟩, memory, by rw [herror]; rfl⟩
    obtain ⟨hitems, hoffset⟩ := apply_withMatch haccepted
    have hnext := ih (p.withMatch src m) (details + 8) (by omega) haccepted.literals
      (.inr (by rw [hoffset]; exact haccepted.output))
    rw [hok hstart]
    rw [hoffset] at hnext
    obtain ⟨hlater, memory, hr⟩ | ⟨hlater, hr⟩ := hnext
    · exact .inl ⟨⟨haccepted, .inr hlater⟩, memory, hr⟩
    · refine .inr ⟨fun h => hlater (h.2.resolve_left hstart), ?_⟩
      obtain hstatus | ⟨p', hp', hreaches⟩ := hr
      · exact .inl hstatus
      · refine .inr ⟨p', hp', hreaches.start, hreaches.literals, hreaches.fits, ?_⟩
        rw [xcrushItems, List.foldl_cons, List.foldl_cons, hitems, ← hreaches.items, hoffset]
        rfl

/-- The literals at the end. -/
lemma xcrushTrailing_toL1 (l : XcrushLayout src.length) {items : List XcrushItem}
    {p' : XcrushProgress} (h : p.Reaches src items p') :
    (∃ code memory, xcrushTrailing l (p'.toL1 src l) = .error (.status code, memory)) ∨
      ∃ p'' : XcrushProgress, xcrushTrailing l (p'.toL1 src l) = .ok (p''.toL1 src l) ∧
        p''.start = p.start ∧
        (p''.outputOffset = 0 ∨ p''.start + p''.outputOffset < XCRUSH_HISTORY_SIZE) ∧
        items.foldl XcrushItem.apply (p.history, p.start + p.outputOffset) =
          (p''.history, p''.start + p''.outputOffset) := by
  have hliterals := h.literals
  unfold xcrushTrailing
  by_cases hleft : p'.literals < src.length
  · have hn : l.srcEnd - (p'.toL1 src l).literals = src.length - p'.literals := by
      simp only [toL1, XcrushLayout.srcEnd]
      omega
    rw [if_pos (by simp only [toL1, XcrushLayout.srcEnd]; omega)]
    simp only [hn]
    by_cases hc : (p'.toL1 src l).historyPtr + (src.length - p'.literals) ≥ l.historyBufferEnd ∨
        (p'.toL1 src l).literals + (src.length - p'.literals) > l.srcEnd
    · exact .inl ⟨-1012, _, by rw [refuse_of_pos hc]; rfl⟩
    · right
      rw [refuse_of_not hc]
      simp only [toL1, XcrushLayout.historyBufferEnd, XcrushLayout.srcEnd] at hc
      refine ⟨p'.withLiterals src (src.length - p'.literals), ?_, h.start, .inr ?_, ?_⟩
      · exact copyLiterals_toL1 (by omega) (by omega) (by omega)
      · simp only [withLiterals]
        omega
      · rw [h.items, XcrushItem.apply, List.length_drop]
        simp only [withLiterals, ← List.length_drop, List.take_length, Nat.add_assoc]
  · right
    refine ⟨p', if_neg (by simp only [toL1, XcrushLayout.srcEnd]; omega), h.start, h.fits, ?_⟩
    rw [h.items, List.drop_of_length_le (by omega)]
    rfl

end XcrushProgress

/-! ### Packets -/

/-- `MatchCount` of a packet. -/
def xcrushMatchCount (src : List UInt8) : Nat := dataReadUInt16 (src.getD · 0) 0

/-- The items of a packet. -/
def xcrushPacketItems (src : List UInt8) (flags : Nat) : List XcrushItem :=
  if flags &&& L1_NO_COMPRESSION ≠ 0 then [.literals src]
  else xcrushItems src (xcrushDetails src) 0 (2 + 8 * xcrushMatchCount src)

/-- A match of the packet is reached, passes its checks and starts where it is to be written. -/
def XcrushPacketSelfMatch (src : List UInt8) (xcrush : XcrushContext) (flags : Nat) : Prop :=
  flags &&& L1_NO_COMPRESSION = 0 ∧ flags &&& L1_COMPRESSED ≠ 0 ∧
    2 + 8 * xcrushMatchCount src ≤ src.length ∧
    XcrushSelfMatch src.length (xcrushAtFront xcrush flags).historyOffset (xcrushDetails src) 0
      (2 + 8 * xcrushMatchCount src)

/-- `xcrush_decompress_l1` returns: a status, or the bytes that the items of the packet describe, in
their order. -/
def XcrushSound (src : List UInt8) (l : XcrushLayout src.length) (xcrush : XcrushContext)
    (flags : Nat) : Prop :=
  match (xcrushDecompressL1 src l xcrush flags).1 with
  | .error (.status _) => True
  | .error _ => False
  | .ok output =>
    let xcrush := xcrushAtFront xcrush flags
    let written := (xcrushPacketItems src flags).foldl XcrushItem.apply
      (xcrush.historyBuffer, xcrush.historyOffset)
    output = readList written.1 xcrush.historyOffset (written.2 - xcrush.historyOffset)

section Packets

open XcrushProgress

variable {src : List UInt8} {xcrush : XcrushContext} {flags : Nat}

/-- Nothing has been done yet. -/
def XcrushContext.begin (xcrush : XcrushContext) (literals : Nat) : XcrushProgress where
  history := xcrush.historyBuffer
  start := xcrush.historyOffset
  outputOffset := 0
  literals := literals

lemma readList_memory (l : XcrushLayout src.length) (history : Nat → UInt8) {start n : Nat}
    (h : n = 0 ∨ start + n < XCRUSH_HISTORY_SIZE) :
    readList (l.memory history src) (l.historyBuffer + start) n = readList history start n := by
  refine List.ext_getElem (by simp) fun i hi hi' => ?_
  rw [length_readList] at hi
  rw [getElem_readList, getElem_readList, Nat.add_assoc, memory_history l history (by omega)]

/-- What is not yet written of a packet is written, or there is a status. -/
lemma xcrushTrailing_begin (l : XcrushLayout src.length) {items : List XcrushItem}
    {p' : XcrushProgress} (h : (xcrush.begin 0).Reaches src items p') :
    (∃ code memory, xcrushTrailing l (p'.toL1 src l) = .error (.status code, memory)) ∨
      ∃ s, xcrushTrailing l (p'.toL1 src l) = .ok s ∧
        readList s.memory (l.historyBuffer + xcrush.historyOffset)
            (s.historyPtr - (l.historyBuffer + xcrush.historyOffset)) =
          let written := items.foldl XcrushItem.apply (xcrush.historyBuffer, xcrush.historyOffset)
          readList written.1 xcrush.historyOffset (written.2 - xcrush.historyOffset) := by
  obtain hstatus | ⟨p'', hok, hstart, hfits, hitems⟩ := xcrushTrailing_toL1 l h
  · exact .inl hstatus
  · refine .inr ⟨_, hok, ?_⟩
    have hstart' : p''.start = xcrush.historyOffset := hstart
    have hitems' : items.foldl XcrushItem.apply (xcrush.historyBuffer, xcrush.historyOffset) =
      (p''.history, p''.start + p''.outputOffset) := hitems
    rw [hstart'] at hitems' hfits
    simp only [hitems', toL1, hstart', ← Nat.add_assoc, Nat.add_sub_cancel_left]
    exact readList_memory l p''.history hfits

/-- The outcome of a packet, after its flags have been applied. -/
lemma xcrushRunL1_outcome (l : XcrushLayout src.length) :
    let s : XcrushL1 := ⟨l.memory (xcrushAtFront xcrush flags).historyBuffer src,
      l.historyBuffer + (xcrushAtFront xcrush flags).historyOffset, l.srcData, 0⟩
    (XcrushPacketSelfMatch src xcrush flags ∧
        ∃ memory, xcrushRunL1 l s flags = .error (.zeroModulus, memory)) ∨
      ¬XcrushPacketSelfMatch src xcrush flags ∧
        ((∃ code memory, xcrushRunL1 l s flags = .error (.status code, memory)) ∨
          ∃ s', xcrushRunL1 l s flags = .ok s' ∧
            readList s'.memory (l.historyBuffer + (xcrushAtFront xcrush flags).historyOffset)
                (s'.historyPtr - (l.historyBuffer + (xcrushAtFront xcrush flags).historyOffset)) =
              let written := (xcrushPacketItems src flags).foldl XcrushItem.apply
                ((xcrushAtFront xcrush flags).historyBuffer,
                  (xcrushAtFront xcrush flags).historyOffset)
              readList written.1 (xcrushAtFront xcrush flags).historyOffset
                (written.2 - (xcrushAtFront xcrush flags).historyOffset)) := by
  unfold XcrushPacketSelfMatch xcrushPacketItems
  generalize xcrushAtFront xcrush flags = xcrush
  intro s
  have hs : s = (xcrush.begin 0).toL1 src l := rfl
  unfold xcrushRunL1
  by_cases hraw : flags &&& L1_NO_COMPRESSION ≠ 0
  · -- all of it is literals
    rw [if_pos hraw, if_pos hraw]
    refine .inr ⟨fun h => hraw h.1, ?_⟩
    exact xcrushTrailing_begin l ⟨rfl, Nat.zero_le _, .inl rfl, rfl⟩
  rw [if_neg hraw, if_neg hraw]
  by_cases hflag : flags &&& L1_COMPRESSED = 0
  · refine .inr ⟨fun h => h.2.1 hflag, .inl ⟨-1002, s.memory, ?_⟩⟩
    rw [xcrushCompressed, refuse_of_pos hflag]
    rfl
  by_cases hcount : l.srcData + 2 > l.srcEnd
  · refine .inr ⟨fun h => ?_, .inl ⟨-1003, s.memory, ?_⟩⟩
    · have hlength := h.2.2.1
      rw [XcrushLayout.srcEnd] at hcount
      omega
    · rw [xcrushCompressed, refuse_of_not hflag, refuse_of_pos hcount]
      rfl
  have hmatchCount : dataReadUInt16 s.memory l.srcData = xcrushMatchCount src := by
    rw [XcrushLayout.srcEnd] at hcount
    have h₀ : s.memory l.srcData = src.getD 0 0 := memory_source l _ (k := 0) (by omega)
    have h₁ : s.memory (l.srcData + 1) = src.getD 1 0 := memory_source l _ (by omega)
    simp only [xcrushMatchCount, dataReadUInt16, h₀, h₁]
  have hcompressed : xcrushCompressed l s flags = (do
      s.refuse (l.srcData + 2 + 8 * xcrushMatchCount src > l.srcEnd) (-1004)
      xcrushMatches l (xcrushMatchCount src) (l.srcData + 2)
        { s with literals := l.srcData + 2 + 8 * xcrushMatchCount src }) := by
    rw [xcrushCompressed, refuse_of_not hflag, xcrush_ok_bind, refuse_of_not hcount,
      xcrush_ok_bind, hmatchCount]
  rw [hcompressed]
  by_cases hdetails : l.srcData + 2 + 8 * xcrushMatchCount src > l.srcEnd
  · refine .inr ⟨fun h => ?_, .inl ⟨-1004, s.memory, ?_⟩⟩
    · have hlength := h.2.2.1
      rw [XcrushLayout.srcEnd] at hdetails
      omega
    · rw [refuse_of_pos hdetails]
      rfl
  have hfits : 2 + 8 * xcrushMatchCount src ≤ src.length := by
    rw [XcrushLayout.srcEnd] at hdetails
    omega
  have hbegin : ({ s with literals := l.srcData + 2 + 8 * xcrushMatchCount src } : XcrushL1) =
      (xcrush.begin (2 + 8 * xcrushMatchCount src)).toL1 src l := by
    rw [hs, toL1, toL1, XcrushContext.begin, XcrushContext.begin, Nat.add_assoc l.srcData]
  rw [refuse_of_not hdetails, hbegin, xcrush_ok_bind]
  obtain ⟨hself, memory, hr⟩ | ⟨hself, hr⟩ := xcrushMatches_toL1 l (xcrushMatchCount src)
    (xcrush.begin (2 + 8 * xcrushMatchCount src)) 2 hfits hfits (.inl rfl)
  · refine .inl ⟨⟨not_not.mp hraw, hflag, hfits, hself⟩, memory, ?_⟩
    rw [hr]
    rfl
  · refine .inr ⟨fun h => hself h.2.2.2, ?_⟩
    obtain ⟨code, memory, hr⟩ | ⟨p', hr, hreaches⟩ := hr
    · refine .inl ⟨code, memory, ?_⟩
      rw [hr]
      rfl
    · have htrailing := xcrushTrailing_begin l
        (⟨hreaches.start, hreaches.literals, hreaches.fits, hreaches.items⟩ :
          (xcrush.begin 0).Reaches src _ p')
      rw [hr]
      exact htrailing

end Packets

/-- For every context and every packet, wherever they are in memory: `xcrush_decompress_l1` stays
inside of the source and the history, has no modulus of zero and returns what the packet describes,
if and only if no match that it comes to starts where it is to be written. -/
theorem xcrushDecompressL1_sound_iff (src : List UInt8) (l : XcrushLayout src.length)
    (xcrush : XcrushContext) (flags : Nat) :
    XcrushSound src l xcrush flags ↔ ¬XcrushPacketSelfMatch src xcrush flags := by
  unfold XcrushSound xcrushDecompressL1
  by_cases hsize : src.length < 1
  · rw [if_pos hsize]
    refine ⟨fun _ h => ?_, fun _ => trivial⟩
    have hlength := h.2.2.1
    omega
  rw [if_neg hsize]
  obtain ⟨hself, memory, hr⟩ | ⟨hself, ⟨code, memory, hr⟩ | ⟨s, hr, houtput⟩⟩ :=
    @xcrushRunL1_outcome src xcrush flags l
  · simp only [hr, hself, not_true_eq_false]
  · simp only [hr, hself, not_false_eq_true]
  · simp only [hr, hself, not_false_eq_true, iff_true]
    exact houtput

/-- One match of one byte, at the front of the history that it is copied to. -/
def selfMatchPacket : List UInt8 := [1, 0, 1, 0, 0, 0, 0, 0, 0, 0]

/-- A new context divides by zero there. -/
theorem xcrushDecompressL1_zeroModulus :
    let l : XcrushLayout selfMatchPacket.length := ⟨0, XCRUSH_HISTORY_SIZE, .inl (by decide)⟩
    (xcrushDecompressL1 selfMatchPacket l ⟨fun _ => 0, 0⟩ L1_COMPRESSED).1 =
        .error .zeroModulus ∧
      ¬XcrushSound selfMatchPacket l ⟨fun _ => 0, 0⟩ L1_COMPRESSED := by
  intro l
  have hstop : (xcrushDecompressL1 selfMatchPacket l ⟨fun _ => 0, 0⟩ L1_COMPRESSED).1 =
      .error .zeroModulus := by
    decide
  refine ⟨hstop, ?_⟩
  unfold XcrushSound
  rw [hstop]
  exact id

end FreeRdp
