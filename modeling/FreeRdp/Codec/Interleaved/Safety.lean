import FreeRdp.Codec.Interleaved.Basic

/-!
# The decoder and its buffers

`RLEDECOMPRESS` writes inside of the destination on every source. It stays inside of the source
unless it comes to an order that is cut: the checks for the end of the source only see that one more
byte is there, and there is none before the bytes of a run length and before bitmasks. It reads
inside of the destination unless a line is shorter than a pixel: the pixel above an inserted one is
read before the check for the room.
-/

namespace FreeRdp

/-! ### Orders and their bytes -/

/-- The pixels that an order writes. -/
def RleCode.pixels (n : Nat) : RleCode → Nat
  | .ditheredRun _ => 2 * n
  | .specialFgBg1 | .specialFgBg2 => 8
  | .white | .black => 1
  | .unknown => 0
  | _ => n

/-- The bytes of its operands. -/
def RleCode.operands (base n : Nat) : RleCode → Nat
  | .setFgRun _ | .colorRun _ => base
  | .ditheredRun _ => 2 * base
  | .fgBgImage _ => (n + 7) / 8
  | .setFgBgImage _ => base + (n + 7) / 8
  | .colorImage _ => n * base
  | _ => 0

/-- Some bitmasks are missing: there are `m` of them, whose pixels fit into the destination, and one
more is read. -/
def MasksCut (base room n m : Nat) : Prop := 8 * m < n ∧ 8 * m * base ≤ room

/-- The operands of an order are cut: some byte of them is missing where the decoder does not look
for it. -/
def RleCode.OperandsCut (base room n : Nat) (rest : List UInt8) : RleCode → Prop
  | .setFgRun _ | .colorRun _ => rest ≠ [] ∧ rest.length < base
  | .ditheredRun _ => rest ≠ [] ∧
      (rest.length < base ∨ base < rest.length ∧ rest.length < 2 * base)
  | .fgBgImage _ => rest ≠ [] ∧ MasksCut base room n rest.length
  | .setFgBgImage _ => rest ≠ [] ∧
      (rest.length < base ∨ MasksCut base room n (rest.length - base))
  | .colorImage _ => n * base ≤ room ∧ rest.length < n * base ∧ rest.length % base ≠ 0
  | _ => False

def RleCode.isBgRun : RleCode → Bool
  | .bgRun _ => true
  | _ => false

def RleCode.isFgBgImage : RleCode → Bool
  | .fgBgImage _ | .setFgBgImage _ => true
  | _ => false

/-- The decoder comes to the end of the order: the order is known, its bytes are there and its pixels
fit into the destination. An image needs a byte after its header even if it is empty, and a
background run that starts with a foreground pixel is not empty. -/
structure RleCode.Runs (base room n : Nat) (insert : Bool) (rest : List UInt8) (code : RleCode) :
    Prop where
  known : code ≠ .unknown
  operands : code.operands base n ≤ rest.length
  room : code.pixels n * base ≤ room
  image : code.isFgBgImage = true → rest ≠ []
  insert : code.isBgRun = true → insert = true → 0 < n

/-- A place where an order starts: the source from there, the index in the destination and the
flags. -/
structure RleSpot where
  src : List UInt8
  pos : Nat
  insert : Bool
  first : Bool

/-- The flags at the end of the first line. -/
def RleSpot.nextLine (rowDelta : Nat) (σ : RleSpot) : RleSpot :=
  if σ.first ∧ σ.pos ≥ rowDelta then { σ with first := false, insert := false } else σ

/-- The order at this place is cut, in its header or in its operands. -/
def RleSpot.Cut (t : RleTarget) (σ : RleSpot) : Prop :=
  ∃ orderHdr tail, σ.src = orderHdr :: tail ∧
    ∀ n rest, extractRunLength (extractCodeId orderHdr) σ.src = .ok (n, rest) →
      (extractCodeId orderHdr).OperandsCut t.base (t.size - σ.pos) n rest

/-- The order at this place is a background run that starts with a foreground pixel, and the pixel
above that one ends behind the destination. -/
def RleSpot.ReadsBehind (t : RleTarget) (σ : RleSpot) : Prop :=
  ∃ orderHdr tail n rest, σ.src = orderHdr :: tail ∧
    extractRunLength (extractCodeId orderHdr) σ.src = .ok (n, rest) ∧
    (extractCodeId orderHdr).isBgRun = true ∧
    (σ.nextLine t.rowDelta).insert = true ∧ (σ.nextLine t.rowDelta).first = false ∧
    t.size < σ.pos - t.rowDelta + t.base

/-- The order at one place is followed by the order at another one. -/
def RleSpot.Next (t : RleTarget) (σ σ' : RleSpot) : Prop :=
  ∃ orderHdr tail n rest, σ.src = orderHdr :: tail ∧
    extractRunLength (extractCodeId orderHdr) σ.src = .ok (n, rest) ∧
    (extractCodeId orderHdr).Runs t.base (t.size - σ.pos) n (σ.nextLine t.rowDelta).insert rest ∧
    σ' = ⟨rest.drop ((extractCodeId orderHdr).operands t.base n),
      σ.pos + (extractCodeId orderHdr).pixels n * t.base,
      (extractCodeId orderHdr).isBgRun, (σ.nextLine t.rowDelta).first⟩

/-! ### The steps of an order -/

section Steps

variable {t : RleTarget}

lemma ok_bind {α β : Type} (x : α) (f : α → Except RleStop β) : (Except.ok x >>= f) = f x := rfl

/-- Where a state of the decoder is. -/
structure RleState.Sound (t : RleTarget) (s : RleState) : Prop where
  pos : s.pos ≤ t.size
  above : s.fFirstLine = false → t.rowDelta ≤ s.pos

/-- The states that differ in the destination only, after some bytes were written. -/
def Advances (s : RleState) (k : Nat) (outcome : Except RleStop RleState) : Prop :=
  ∃ dst, outcome = .ok { s with dst := dst, pos := s.pos + k }

lemma RleState.Sound.advance {s : RleState} (h : s.Sound t) {k : Nat} (hk : s.pos + k ≤ t.size)
    (dst : Nat → UInt8) : RleState.Sound t { s with dst := dst, pos := s.pos + k } :=
  ⟨hk, fun hline => (h.above hline).trans (Nat.le_add_right _ _)⟩

lemma writePixel_advances {s : RleState} (data : Nat) (hroom : s.pos + t.base ≤ t.size) :
    Advances s t.base (t.writePixel data s) :=
  ⟨_, if_neg (by omega)⟩

lemma abovePixel_ok {s : RleState} (h : s.Sound t)
    (hinside : s.fFirstLine = false → s.pos - t.rowDelta + t.base ≤ t.size) :
    ∃ pixel, t.abovePixel s = .ok pixel := by
  rw [RleTarget.abovePixel]
  split
  · exact ⟨_, rfl⟩
  · rename_i hline
    have hbelow := h.above (by simpa using hline)
    have hend := hinside (by simpa using hline)
    rw [if_neg (by omega), if_neg (by omega)]
    exact ⟨_, rfl⟩

lemma abovePixel_outside {s : RleState} (h : s.Sound t) (hline : s.fFirstLine = false)
    (hbehind : t.size < s.pos - t.rowDelta + t.base) : t.abovePixel s = .error .outside := by
  have hbelow := h.above hline
  rw [RleTarget.abovePixel, hline, if_neg Bool.false_ne_true, if_neg (by omega), if_pos hbehind]

lemma writeXor_advances {s : RleState} (h : s.Sound t) (mask : Nat)
    (hroom : s.pos + t.base ≤ t.size) : Advances s t.base (t.writeXor mask s) := by
  obtain ⟨pixel, hpixel⟩ := abovePixel_ok h fun _ => by omega
  rw [RleTarget.writeXor, hpixel]
  exact writePixel_advances _ hroom

/-- A loop whose body always writes `k` bytes. -/
lemma unroll_advances {body : RleState → Except RleStop RleState} {k : Nat}
    (hbody : ∀ s : RleState, s.Sound t → s.pos + k ≤ t.size → Advances s k (body s)) {n : Nat}
    {s : RleState} (h : s.Sound t) (hroom : s.pos + n * k ≤ t.size) :
    Advances s (n * k) (RleTarget.unroll body n s) := by
  induction n generalizing s with
  | zero => exact ⟨s.dst, by rw [Nat.zero_mul]; rfl⟩
  | succ n ih =>
    rw [Nat.succ_mul] at hroom
    obtain ⟨dst, hdst⟩ := hbody s h (by omega)
    obtain ⟨dst', hdst'⟩ := ih (h.advance (by omega) dst)
      (show s.pos + k + n * k ≤ t.size by omega)
    refine ⟨dst', ?_⟩
    rw [RleTarget.unroll, hdst]
    refine hdst'.trans ?_
    rw [Nat.succ_mul, Nat.add_comm (n * k), Nat.add_assoc]

lemma writeBits_advances {s : RleState} (h : s.Sound t) (bitmask : UInt8) {cBits : Nat} (k : Nat)
    (hroom : s.pos + cBits * t.base ≤ t.size) :
    Advances s (cBits * t.base) (t.writeBits bitmask cBits k s) := by
  induction cBits generalizing s k with
  | zero => exact ⟨s.dst, by rw [Nat.zero_mul]; rfl⟩
  | succ cBits ih =>
    rw [Nat.succ_mul] at hroom
    obtain ⟨dst, hdst⟩ := writeXor_advances h
      (if bitmask.toNat.testBit k then s.fgPel else 0) (by omega)
    obtain ⟨dst', hdst'⟩ := ih (h.advance (by omega) dst) (k + 1)
      (show s.pos + t.base + cBits * t.base ≤ t.size by omega)
    refine ⟨dst', ?_⟩
    rw [RleTarget.writeBits, hdst]
    refine hdst'.trans ?_
    rw [Nat.succ_mul, Nat.add_comm (cBits * t.base), Nat.add_assoc]

/-- An image that fits is written, another one is refused. -/
lemma writeFgBgImage_advances {s : RleState} (h : s.Sound t) (bitmask : UInt8) {cBits : Nat}
    (hbits : cBits ≤ 8) (hroom : s.pos + cBits * t.base ≤ t.size) :
    Advances s (cBits * t.base) (t.writeFgBgImage bitmask cBits s) := by
  rw [RleTarget.writeFgBgImage, if_neg (by omega), RleTarget.ensureCapacity, if_pos hroom]
  exact writeBits_advances h bitmask 0 hroom

lemma writeFgBgImage_refused {s : RleState} (bitmask : UInt8) {cBits : Nat}
    (hroom : t.size < s.pos + cBits * t.base) :
    t.writeFgBgImage bitmask cBits s = .error .refused := by
  rw [RleTarget.writeFgBgImage, RleTarget.ensureCapacity, if_neg (by omega : ¬_ ≤ t.size)]
  split <;> rfl

/-- The bitmasks of an image, one after the other. -/
lemma writeMasks_advances {n : Nat} {s : RleState} (h : s.Sound t)
    (hmasks : (n + 7) / 8 ≤ s.src.length) (hroom : s.pos + n * t.base ≤ t.size) :
    Advances { s with src := s.src.drop ((n + 7) / 8) } (n * t.base) (t.writeMasks n s) := by
  induction n using Nat.strong_induction_on generalizing s with
  | _ n ih =>
    rw [RleTarget.writeMasks]
    by_cases hlong : n > 8
    · rcases hsrc : s.src with _ | ⟨bitmask, src⟩
      · rw [hsrc, List.length_nil] at hmasks
        omega
      · rw [hsrc, List.length_cons] at hmasks
        have hsplit : n * t.base = 8 * t.base + (n - 8) * t.base := by
          rw [← Nat.add_mul, Nat.add_sub_cancel' hlong.le]
        obtain ⟨dst, hdst⟩ := @writeFgBgImage_advances t { s with src := src } ⟨h.pos, h.above⟩
          bitmask 8 le_rfl (by dsimp only; omega)
        obtain ⟨dst', hdst'⟩ := @ih (n - 8) (by omega)
          { s with src := src, dst := dst, pos := s.pos + 8 * t.base }
          ⟨by dsimp only; omega, fun hline => (h.above hline).trans (Nat.le_add_right _ _)⟩
          (by dsimp only; omega) (by dsimp only; omega)
        refine ⟨dst', ?_⟩
        rw [if_pos hlong, RleTarget.writeMask, hsrc]
        dsimp only
        rw [hdst]
        refine hdst'.trans ?_
        dsimp only
        rw [show (n + 7) / 8 = (n - 8 + 7) / 8 + 1 by omega, List.drop_succ_cons, hsplit,
          Nat.add_assoc]
    · rw [if_neg hlong]
      by_cases hpos : n > 0
      · rcases hsrc : s.src with _ | ⟨bitmask, src⟩
        · rw [hsrc, List.length_nil] at hmasks
          omega
        · obtain ⟨dst, hdst⟩ := @writeFgBgImage_advances t { s with src := src } ⟨h.pos, h.above⟩
            bitmask n (by omega) hroom
          refine ⟨dst, ?_⟩
          rw [if_pos hpos, RleTarget.writeMask, hsrc]
          dsimp only
          rw [hdst, show (n + 7) / 8 = 1 by omega, List.drop_one, List.tail_cons]
      · rw [if_neg hpos, show n = 0 by omega]
        exact ⟨s.dst, by rw [Nat.zero_mul]; rfl⟩

/-- An image that lacks a bitmask, or that does not fit. -/
lemma writeMasks_error {n : Nat} {s : RleState} (h : s.Sound t)
    (hno : ¬((n + 7) / 8 ≤ s.src.length ∧ s.pos + n * t.base ≤ t.size)) :
    t.writeMasks n s =
      if 8 * s.src.length < n ∧ s.pos + 8 * s.src.length * t.base ≤ t.size then .error .sourceOverrun
      else .error .refused := by
  induction n using Nat.strong_induction_on generalizing s with
  | _ n ih =>
    have hpos := h.pos
    have hn : n > 0 := by
      by_contra hzero
      rw [show n = 0 by omega] at hno
      exact hno ⟨Nat.zero_le _, by omega⟩
    rw [RleTarget.writeMasks]
    rcases hsrc : s.src with _ | ⟨bitmask, src⟩
    · have hmask : ∀ k, t.writeMask k s = .error .sourceOverrun := by
        intro k
        rw [RleTarget.writeMask, hsrc]
      rw [if_pos (⟨by simpa using hn, by simpa using hpos⟩ :
        8 * ([] : List UInt8).length < n ∧ s.pos + 8 * ([] : List UInt8).length * t.base ≤ t.size)]
      split
      · rw [hmask]
        rfl
      · exact hmask n
    · rw [hsrc, List.length_cons] at hno
      rw [List.length_cons]
      by_cases hlong : n > 8
      · rw [if_pos hlong, RleTarget.writeMask, hsrc]
        dsimp only
        have hsplit : n * t.base = 8 * t.base + (n - 8) * t.base := by
          rw [← Nat.add_mul, Nat.add_sub_cancel' hlong.le]
        by_cases hroom : s.pos + 8 * t.base ≤ t.size
        · obtain ⟨dst, hdst⟩ := @writeFgBgImage_advances t { s with src := src } ⟨h.pos, h.above⟩
            bitmask 8 le_rfl hroom
          have hrest := @ih (n - 8) (by omega)
            { s with src := src, dst := dst, pos := s.pos + 8 * t.base }
            ⟨hroom, fun hline => (h.above hline).trans (Nat.le_add_right _ _)⟩
            (by dsimp only; omega)
          rw [hdst]
          refine hrest.trans ?_
          dsimp only
          rw [show 8 * (src.length + 1) * t.base = 8 * t.base + 8 * src.length * t.base by ring,
            ← Nat.add_assoc]
          exact if_congr (and_congr_left fun _ => by omega) rfl rfl
        · rw [writeFgBgImage_refused bitmask (by dsimp only; omega), if_neg]
          · rfl
          · rintro ⟨-, hfit⟩
            rw [show 8 * (src.length + 1) * t.base = 8 * t.base + 8 * src.length * t.base by ring]
              at hfit
            omega
      · rw [if_neg hlong, if_pos hn, RleTarget.writeMask, hsrc, if_neg (by omega)]
        exact writeFgBgImage_refused bitmask (by dsimp only; omega)

lemma readPixelChecked_nil {s : RleState} (hsrc : s.src = []) :
    t.readPixelChecked s = .error .refused := if_pos hsrc

lemma readPixel_cut {s : RleState} (hshort : s.src.length < t.base) :
    t.readPixel s = .error .sourceOverrun := if_pos hshort

lemma readPixel_ok {s : RleState} (hlong : t.base ≤ s.src.length) :
    t.readPixel s = .ok (pixelOfBytes (s.src.take t.base), { s with src := s.src.drop t.base }) :=
  if_neg (by omega)

lemma readPixelChecked_eq {s : RleState} (hsrc : s.src ≠ []) :
    t.readPixelChecked s = t.readPixel s := if_neg hsrc

lemma ensureCapacity_ok {s : RleState} {n : Nat} (hroom : s.pos + n * t.base ≤ t.size) :
    t.ensureCapacity n s = .ok () := if_pos hroom

lemma ensureCapacity_refused {s : RleState} {n : Nat} (hroom : ¬s.pos + n * t.base ≤ t.size) :
    t.ensureCapacity n s = .error .refused := if_neg hroom

/-- The pixels of a color image. -/
lemma colorImage_loop {n : Nat} {s : RleState} (h : s.Sound t) (hbase : 0 < t.base)
    (hroom : s.pos + n * t.base ≤ t.size) :
    (n * t.base ≤ s.src.length → Advances { s with src := s.src.drop (n * t.base) } (n * t.base)
      (RleTarget.unroll t.copyPixel n s)) ∧
    (s.src.length < n * t.base → RleTarget.unroll t.copyPixel n s =
      if s.src.length % t.base = 0 then .error .refused else .error .sourceOverrun) := by
  induction n generalizing s with
  | zero =>
    rw [Nat.zero_mul]
    exact ⟨fun _ => ⟨s.dst, rfl⟩, fun hlt => absurd hlt (Nat.not_lt_zero _)⟩
  | succ n ih =>
    rw [Nat.succ_mul] at hroom ⊢
    by_cases hpixel : t.base ≤ s.src.length
    · have hread := readPixel_ok hpixel
      rw [← readPixelChecked_eq (List.ne_nil_of_length_pos (by omega))] at hread
      obtain ⟨dst, hdst⟩ := @writePixel_advances t { s with src := s.src.drop t.base }
        (pixelOfBytes (s.src.take t.base)) (show s.pos + t.base ≤ t.size by omega)
      obtain ⟨hlong, hshort⟩ := @ih
        { s with src := s.src.drop t.base, dst := dst, pos := s.pos + t.base }
        ⟨by dsimp only; omega, fun hline => (h.above hline).trans (Nat.le_add_right _ _)⟩
        (by dsimp only; omega)
      have hcopy : t.copyPixel s =
          .ok { s with src := s.src.drop t.base, dst := dst, pos := s.pos + t.base } := by
        rw [RleTarget.copyPixel, hread]
        exact hdst
      rw [RleTarget.unroll, hcopy]
      dsimp only [bind, Except.bind] at hlong hshort ⊢
      rw [List.length_drop] at hlong hshort
      refine ⟨fun hle => ?_, fun hlt => ?_⟩
      · obtain ⟨dst', hdst'⟩ := hlong (by omega)
        refine ⟨dst', hdst'.trans ?_⟩
        rw [List.drop_drop, Nat.add_comm t.base (n * t.base), Nat.add_assoc]
        dsimp only
        rw [Nat.add_comm t.base (n * t.base)]
      · rw [hshort (by omega), Nat.mod_eq_sub_mod hpixel]
    · refine ⟨fun hle => by omega, fun _ => ?_⟩
      rw [RleTarget.unroll, RleTarget.copyPixel]
      by_cases hnil : s.src = []
      · rw [readPixelChecked_nil hnil, if_pos (by rw [hnil]; exact Nat.zero_mod _)]
        rfl
      · have hlength : 0 < s.src.length := List.length_pos_iff.mpr hnil
        rw [readPixelChecked_eq hnil, readPixel_cut (by omega),
          if_neg (by rw [Nat.mod_eq_of_lt (by omega)]; omega)]
        rfl

/-- The state after an order. -/
def RleCode.Reaches (t : RleTarget) (n : Nat) (s : RleState) (code : RleCode)
    (outcome : Except RleStop RleState) : Prop :=
  ∃ dst fgPel, outcome = .ok ⟨s.src.drop (code.operands t.base n),
    s.pos + code.pixels n * t.base, dst, fgPel, code.isBgRun, s.fFirstLine⟩

/-- What an order does after its header: it is cut, it is refused, or it runs. -/
def RleCode.Behaves (t : RleTarget) (n : Nat) (s : RleState) (code : RleCode) : Prop :=
  (code.OperandsCut t.base (t.size - s.pos) n s.src ∧ t.order code n s = .error .sourceOverrun) ∨
  (¬code.OperandsCut t.base (t.size - s.pos) n s.src ∧
    ¬code.Runs t.base (t.size - s.pos) n s.fInsertFgPel s.src ∧ t.order code n s = .error .refused) ∨
  (¬code.OperandsCut t.base (t.size - s.pos) n s.src ∧
    code.Runs t.base (t.size - s.pos) n s.fInsertFgPel s.src ∧ code.Reaches t n s (t.order code n s))

/-- The order starts with a read behind the destination. -/
def RleCode.ReadsBehind (t : RleTarget) (s : RleState) (code : RleCode) : Prop :=
  code.isBgRun = true ∧ s.fInsertFgPel = true ∧ s.fFirstLine = false ∧
    t.size < s.pos - t.rowDelta + t.base

lemma RleState.Sound.withInsert {s : RleState} (h : s.Sound t) (b : Bool) :
    RleState.Sound t { s with fInsertFgPel := b } := ⟨h.pos, h.above⟩

/-- The pixels of a background run after the inserted one. -/
lemma bgRun_tail {s : RleState} (h : s.Sound t) (n : Nat) :
    (s.pos + n * t.base ≤ t.size → ∃ dst, (do
        t.ensureCapacity n s
        let s ← RleTarget.unroll (t.writeXor 0) n s
        .ok { s with fInsertFgPel := true }) = (.ok { s with
          dst := dst, pos := s.pos + n * t.base, fInsertFgPel := true } :
          Except RleStop RleState)) ∧
    (¬s.pos + n * t.base ≤ t.size → (do
        t.ensureCapacity n s
        let s ← RleTarget.unroll (t.writeXor 0) n s
        .ok { s with fInsertFgPel := true }) = (.error .refused : Except RleStop RleState)) := by
  refine ⟨fun hroom => ?_, fun hroom => ?_⟩
  · obtain ⟨dst, hdst⟩ := unroll_advances (fun s hs hk => writeXor_advances hs 0 hk) h hroom
    refine ⟨dst, ?_⟩
    rw [ensureCapacity_ok hroom, hdst]
    rfl
  · rw [ensureCapacity_refused hroom]
    rfl

lemma runLengthPred_zero : runLengthPred 0 = 2 ^ 32 - 1 := by
  norm_num [runLengthPred]

lemma runLengthPred_of_pos {n : Nat} (hpos : 0 < n) (hn : n < 2 ^ 32) : runLengthPred n = n - 1 := by
  rw [runLengthPred, show n + 2 ^ 32 - 1 = n - 1 + 2 ^ 32 by omega, Nat.add_mod_right,
    Nat.mod_eq_of_lt (by omega)]

lemma bgRun_readsBehind {s : RleState} (h : s.Sound t) {mega : Bool}
    (hbehind : (RleCode.bgRun mega).ReadsBehind t s) (n : Nat) :
    t.order (.bgRun mega) n s = .error .outside := by
  obtain ⟨-, hinsert, hline, hend⟩ := hbehind
  rw [RleTarget.order, RleTarget.bgRun, if_pos hinsert, abovePixel_outside h hline hend]
  rfl

lemma bgRun_behaves {s : RleState} (h : s.Sound t) (hbase : 0 < t.base) (hsize : t.size < 2 ^ 32)
    {n : Nat} (hn : n < 2 ^ 32) (mega : Bool) (hinside : ¬(RleCode.bgRun mega).ReadsBehind t s) :
    (RleCode.bgRun mega).Behaves t n s := by
  have hpos := h.pos
  have hfalls : ∀ {n : Nat}, n * t.base ≤ t.size - s.pos → s.pos + n * t.base ≤ t.size := by
    intro n hle
    omega
  refine .inr ?_
  rcases hinsert : s.fInsertFgPel with _ | _
  · -- no pixel is inserted
    obtain ⟨hfit, hfull⟩ := bgRun_tail h n
    have horder : t.order (.bgRun mega) n s = (do
        t.ensureCapacity n s
        let s ← RleTarget.unroll (t.writeXor 0) n s
        .ok { s with fInsertFgPel := true }) := by
      rw [RleTarget.order, RleTarget.bgRun, if_neg (by rw [hinsert]; exact Bool.false_ne_true)]
      rfl
    by_cases hroom : s.pos + n * t.base ≤ t.size
    · obtain ⟨dst, hdst⟩ := hfit hroom
      exact .inr ⟨id, ⟨nofun, Nat.zero_le _, show n * t.base ≤ _ by omega, nofun, nofun⟩, dst,
        s.fgPel, horder.trans hdst⟩
    · exact .inl ⟨id, fun hruns => hroom (hfalls hruns.room), horder.trans (hfull hroom)⟩
  · obtain ⟨pixel, hpixel⟩ := abovePixel_ok h fun hline =>
      le_of_not_gt fun hend => hinside ⟨rfl, hinsert, hline, hend⟩
    by_cases hone : s.pos + 1 * t.base ≤ t.size
    · rw [Nat.one_mul] at hone
      obtain ⟨dst, hdst⟩ := writePixel_advances (pixel ^^^ s.fgPel) hone
      obtain ⟨hfit, hfull⟩ := bgRun_tail (h.advance hone dst) (runLengthPred n)
      have horder : t.order (.bgRun mega) n s = (do
          t.ensureCapacity (runLengthPred n) { s with dst := dst, pos := s.pos + t.base }
          let s ← RleTarget.unroll (t.writeXor 0) (runLengthPred n)
            { s with dst := dst, pos := s.pos + t.base }
          .ok { s with fInsertFgPel := true }) := by
        rw [RleTarget.order, RleTarget.bgRun, if_pos hinsert, hpixel, ok_bind,
          ensureCapacity_ok (by rwa [Nat.one_mul]), ok_bind, hdst, ok_bind, ok_bind]
      by_cases hzero : n = 0
      · refine .inl ⟨id, fun hruns => absurd (hruns.insert rfl rfl) (by omega), ?_⟩
        rw [horder]
        refine hfull ?_
        have hmul : runLengthPred n ≤ runLengthPred n * t.base := Nat.le_mul_of_pos_right _ hbase
        have hpred : runLengthPred n = 2 ^ 32 - 1 := by rw [hzero, runLengthPred_zero]
        dsimp only
        omega
      · have hpred := runLengthPred_of_pos (Nat.pos_of_ne_zero hzero) hn
        have hsplit : n * t.base = t.base + (n - 1) * t.base := by
          obtain ⟨m, rfl⟩ := Nat.exists_eq_add_of_le' (Nat.one_le_iff_ne_zero.mpr hzero)
          rw [Nat.add_sub_cancel, Nat.succ_mul, Nat.add_comm]
        rw [hpred] at hfit hfull horder
        dsimp only at hfit hfull
        by_cases hroom : s.pos + n * t.base ≤ t.size
        · obtain ⟨dst', hdst'⟩ := hfit (by omega)
          refine .inr ⟨id, ⟨nofun, Nat.zero_le _, show n * t.base ≤ _ by omega, nofun,
            fun _ _ => by omega⟩, dst', s.fgPel, ?_⟩
          rw [horder, hdst', Nat.add_assoc, ← hsplit]
          rfl
        · refine .inl ⟨id, fun hruns => hroom (hfalls hruns.room), ?_⟩
          rw [horder]
          exact hfull (by omega)
    · refine .inl ⟨id, fun hruns => ?_, ?_⟩
      · have hmul : 1 * t.base ≤ n * t.base := Nat.mul_le_mul_right _ (hruns.insert rfl rfl)
        have hle := hfalls hruns.room
        change s.pos + n * t.base ≤ t.size at hle
        omega
      · rw [RleTarget.order, RleTarget.bgRun, if_pos hinsert, hpixel,
          ensureCapacity_refused hone]
        rfl

/-- A loop of pixels after the check for its capacity. -/
lemma run_spec {body : RleState → Except RleStop RleState} {k n m : Nat}
    (hbody : ∀ s : RleState, s.Sound t → s.pos + k ≤ t.size → Advances s k (body s))
    (hm : m * t.base = n * k) {s : RleState} (h : s.Sound t) :
    (s.pos + n * k ≤ t.size → Advances s (n * k) (do
        t.ensureCapacity m s
        RleTarget.unroll body n s)) ∧
    (¬s.pos + n * k ≤ t.size → (do
        t.ensureCapacity m s
        RleTarget.unroll body n s) = .error .refused) := by
  refine ⟨fun hroom => ?_, fun hroom => ?_⟩
  · rw [ensureCapacity_ok (by omega)]
    exact unroll_advances hbody h hroom
  · rw [ensureCapacity_refused (by omega)]
    rfl

lemma fgRun_spec {s : RleState} (h : s.Sound t) (n : Nat) :
    (s.pos + n * t.base ≤ t.size → Advances s (n * t.base) (t.fgRun n s)) ∧
    (¬s.pos + n * t.base ≤ t.size → t.fgRun n s = .error .refused) :=
  run_spec (fun s hs hk => writeXor_advances hs s.fgPel hk) rfl h

lemma fgRun_behaves {s : RleState} (h : s.Sound t) (n : Nat) (mega : Bool) :
    (RleCode.fgRun mega).Behaves t n s := by
  have hpos := h.pos
  obtain ⟨hfit, hfull⟩ := fgRun_spec (h.withInsert false) n
  refine .inr ?_
  by_cases hroom : s.pos + n * t.base ≤ t.size
  · obtain ⟨dst, hdst⟩ := hfit hroom
    exact .inr ⟨id, ⟨nofun, Nat.zero_le _, show n * t.base ≤ _ by omega, nofun, nofun⟩, dst, s.fgPel,
      hdst⟩
  · refine .inl ⟨id, fun hruns => ?_, hfull hroom⟩
    have hle : n * t.base ≤ t.size - s.pos := hruns.room
    omega

/-- The new foreground pixel. -/
lemma setFgPel_ok {s : RleState} (hlong : t.base ≤ s.src.length) :
    t.setFgPel s = .ok { s with
      src := s.src.drop t.base, fgPel := pixelOfBytes (s.src.take t.base) } := by
  rw [RleTarget.setFgPel, readPixel_ok hlong]
  rfl

lemma setFgPel_cut {s : RleState} (hshort : s.src.length < t.base) :
    t.setFgPel s = .error .sourceOverrun := by
  rw [RleTarget.setFgPel, readPixel_cut hshort]
  rfl

lemma setFgRun_behaves {s : RleState} (h : s.Sound t) (hbase : 0 < t.base) (n : Nat) (mega : Bool) :
    (RleCode.setFgRun mega).Behaves t n s := by
  have hpos := h.pos
  by_cases hnil : s.src = []
  · refine .inr (.inl ⟨fun hcut => hcut.1 hnil, fun hruns => ?_, if_pos hnil⟩)
    have hle : t.base ≤ s.src.length := hruns.operands
    rw [hnil, List.length_nil] at hle
    omega
  · by_cases hlong : t.base ≤ s.src.length
    · refine .inr ?_
      have horder : t.order (.setFgRun mega) n s = t.fgRun n { s with
          src := s.src.drop t.base, fgPel := pixelOfBytes (s.src.take t.base),
          fInsertFgPel := false } := by
        rw [RleTarget.order, if_neg hnil, @setFgPel_ok t { s with fInsertFgPel := false } hlong]
        rfl
      obtain ⟨hfit, hfull⟩ := @fgRun_spec t { s with
        src := s.src.drop t.base, fgPel := pixelOfBytes (s.src.take t.base),
        fInsertFgPel := false } ⟨h.pos, h.above⟩ n
      have hnot : ¬(RleCode.setFgRun mega).OperandsCut t.base (t.size - s.pos) n s.src :=
        fun hcut => absurd hcut.2 (by omega)
      by_cases hroom : s.pos + n * t.base ≤ t.size
      · obtain ⟨dst, hdst⟩ := hfit hroom
        exact .inr ⟨hnot, ⟨nofun, hlong, show n * t.base ≤ _ by omega, nofun, nofun⟩, dst, _,
          horder.trans hdst⟩
      · refine .inl ⟨hnot, fun hruns => ?_, horder.trans (hfull hroom)⟩
        have hle : n * t.base ≤ t.size - s.pos := hruns.room
        omega
    · refine .inl ⟨⟨hnil, by omega⟩, ?_⟩
      rw [RleTarget.order, if_neg hnil,
        @setFgPel_cut t { s with fInsertFgPel := false } (by dsimp only; omega)]
      rfl

lemma colorRun_behaves {s : RleState} (h : s.Sound t) (hbase : 0 < t.base) (n : Nat) (mega : Bool) :
    (RleCode.colorRun mega).Behaves t n s := by
  have hpos := h.pos
  by_cases hnil : s.src = []
  · refine .inr (.inl ⟨fun hcut => hcut.1 hnil, fun hruns => ?_, ?_⟩)
    · have hle : t.base ≤ s.src.length := hruns.operands
      rw [hnil, List.length_nil] at hle
      omega
    · rw [RleTarget.order, RleTarget.colorRun,
        @readPixelChecked_nil t { s with fInsertFgPel := false } hnil]
      rfl
  · by_cases hlong : t.base ≤ s.src.length
    · refine .inr ?_
      obtain ⟨hfit, hfull⟩ := @run_spec t (t.writePixel (pixelOfBytes (s.src.take t.base))) t.base n n
        (fun s _ hk => writePixel_advances _ hk) rfl
        { s with src := s.src.drop t.base, fInsertFgPel := false } ⟨h.pos, h.above⟩
      have horder : t.order (.colorRun mega) n s = (do
          t.ensureCapacity n { s with src := s.src.drop t.base, fInsertFgPel := false }
          RleTarget.unroll (t.writePixel (pixelOfBytes (s.src.take t.base))) n
            { s with src := s.src.drop t.base, fInsertFgPel := false }) := by
        rw [RleTarget.order, RleTarget.colorRun,
          @readPixelChecked_eq t { s with fInsertFgPel := false } hnil,
          @readPixel_ok t { s with fInsertFgPel := false } hlong]
        rfl
      have hnot : ¬(RleCode.colorRun mega).OperandsCut t.base (t.size - s.pos) n s.src :=
        fun hcut => absurd hcut.2 (by omega)
      by_cases hroom : s.pos + n * t.base ≤ t.size
      · obtain ⟨dst, hdst⟩ := hfit hroom
        exact .inr ⟨hnot, ⟨nofun, hlong, show n * t.base ≤ _ by omega, nofun, nofun⟩, dst, _,
          horder.trans hdst⟩
      · refine .inl ⟨hnot, fun hruns => ?_, horder.trans (hfull hroom)⟩
        have hle : n * t.base ≤ t.size - s.pos := hruns.room
        omega
    · refine .inl ⟨⟨hnil, by omega⟩, ?_⟩
      rw [RleTarget.order, RleTarget.colorRun,
        @readPixelChecked_eq t { s with fInsertFgPel := false } hnil,
        @readPixel_cut t { s with fInsertFgPel := false } (by dsimp only; omega)]
      rfl

lemma writePixels_advances {s : RleState} (pixelA pixelB : Nat)
    (hroom : s.pos + 2 * t.base ≤ t.size) :
    Advances s (2 * t.base) (t.writePixels pixelA pixelB s) := by
  obtain ⟨dst, hdst⟩ := writePixel_advances pixelA (by omega : s.pos + t.base ≤ t.size)
  obtain ⟨dst', hdst'⟩ := @writePixel_advances t { s with dst := dst, pos := s.pos + t.base } pixelB
    (by dsimp only; omega)
  refine ⟨dst', ?_⟩
  rw [RleTarget.writePixels, hdst, ok_bind, hdst', show 2 * t.base = t.base + t.base by omega,
    Nat.add_assoc]

lemma ditheredRun_behaves {s : RleState} (h : s.Sound t) (hbase : 0 < t.base) (n : Nat)
    (mega : Bool) : (RleCode.ditheredRun mega).Behaves t n s := by
  have hpos := h.pos
  have hshortRuns : s.src.length < 2 * t.base →
      ¬(RleCode.ditheredRun mega).Runs t.base (t.size - s.pos) n s.fInsertFgPel s.src := by
    intro hshort hruns
    have hle : 2 * t.base ≤ s.src.length := hruns.operands
    omega
  by_cases hnil : s.src = []
  · refine .inr (.inl ⟨fun hcut => hcut.1 hnil, hshortRuns (by simp [hnil, hbase]), ?_⟩)
    rw [RleTarget.order, RleTarget.ditheredRun,
      @readPixelChecked_nil t { s with fInsertFgPel := false } hnil]
    rfl
  · have hfirst := @readPixelChecked_eq t { s with fInsertFgPel := false } hnil
    by_cases hone : t.base ≤ s.src.length
    · rw [@readPixel_ok t { s with fInsertFgPel := false } hone] at hfirst
      by_cases hrest : s.src.drop t.base = []
      · -- the second pixel is missing, and this is seen
        have hlength : s.src.length = t.base := by
          have := List.drop_eq_nil_iff.mp hrest
          omega
        refine .inr (.inl ⟨fun hcut => ?_, hshortRuns (by omega), ?_⟩)
        · rcases hcut.2 with hlt | ⟨hlt, -⟩ <;> omega
        · rw [RleTarget.order, RleTarget.ditheredRun, hfirst, ok_bind]
          dsimp only
          rw [@readPixelChecked_nil t { s with fInsertFgPel := false, src := s.src.drop t.base }
            hrest]
          rfl
      · have hsecond := @readPixelChecked_eq t
          { s with fInsertFgPel := false, src := s.src.drop t.base } hrest
        have hlength : t.base < s.src.length := by
          have := mt List.drop_eq_nil_iff.mpr hrest
          omega
        by_cases htwo : 2 * t.base ≤ s.src.length
        · refine .inr ?_
          rw [@readPixel_ok t { s with fInsertFgPel := false, src := s.src.drop t.base }
            (by simp only [List.length_drop]; omega)] at hsecond
          obtain ⟨hfit, hfull⟩ := @run_spec t (t.writePixels (pixelOfBytes (s.src.take t.base))
            (pixelOfBytes ((s.src.drop t.base).take t.base))) (2 * t.base) n (n * 2)
            (fun s _ hk => writePixels_advances _ _ hk) (by ring)
            { s with src := (s.src.drop t.base).drop t.base, fInsertFgPel := false } ⟨h.pos, h.above⟩
          have horder : t.order (.ditheredRun mega) n s = (do
              t.ensureCapacity (n * 2)
                { s with src := (s.src.drop t.base).drop t.base, fInsertFgPel := false }
              RleTarget.unroll (t.writePixels (pixelOfBytes (s.src.take t.base))
                (pixelOfBytes ((s.src.drop t.base).take t.base))) n
                { s with src := (s.src.drop t.base).drop t.base, fInsertFgPel := false }) := by
            rw [RleTarget.order, RleTarget.ditheredRun, hfirst, ok_bind]
            dsimp only
            rw [hsecond, ok_bind]
          have hnot : ¬(RleCode.ditheredRun mega).OperandsCut t.base (t.size - s.pos) n s.src := by
            intro hcut
            rcases hcut.2 with hlt | ⟨-, hlt⟩ <;> omega
          have hmul : 2 * n * t.base = n * (2 * t.base) := by ring
          by_cases hroom : s.pos + n * (2 * t.base) ≤ t.size
          · obtain ⟨dst, hdst⟩ := hfit hroom
            refine .inr ⟨hnot, ⟨nofun, htwo, show 2 * n * t.base ≤ _ by omega, nofun, nofun⟩, dst,
              s.fgPel, ?_⟩
            rw [horder, hdst, List.drop_drop, ← hmul, ← Nat.two_mul]
            rfl
          · refine .inl ⟨hnot, fun hruns => ?_, horder.trans (hfull hroom)⟩
            have hle : 2 * n * t.base ≤ t.size - s.pos := hruns.room
            omega
        · refine .inl ⟨⟨hnil, .inr ⟨hlength, by omega⟩⟩, ?_⟩
          rw [RleTarget.order, RleTarget.ditheredRun, hfirst, ok_bind]
          dsimp only
          rw [hsecond, @readPixel_cut t { s with fInsertFgPel := false, src := s.src.drop t.base }
            (by simp only [List.length_drop]; omega)]
          rfl
    · refine .inl ⟨⟨hnil, .inl (by omega)⟩, ?_⟩
      rw [RleTarget.order, RleTarget.ditheredRun, hfirst,
        @readPixel_cut t { s with fInsertFgPel := false } (by dsimp only; omega)]
      rfl

/-- The bitmasks of an image in the three cases. -/
lemma writeMasks_spec {s : RleState} (h : s.Sound t) (n : Nat) :
    (MasksCut t.base (t.size - s.pos) n s.src.length ∧ t.writeMasks n s = .error .sourceOverrun) ∨
    (¬MasksCut t.base (t.size - s.pos) n s.src.length ∧
      ¬((n + 7) / 8 ≤ s.src.length ∧ n * t.base ≤ t.size - s.pos) ∧
      t.writeMasks n s = .error .refused) ∨
    (¬MasksCut t.base (t.size - s.pos) n s.src.length ∧
      ((n + 7) / 8 ≤ s.src.length ∧ n * t.base ≤ t.size - s.pos) ∧
      Advances { s with src := s.src.drop ((n + 7) / 8) } (n * t.base) (t.writeMasks n s)) := by
  have hpos := h.pos
  by_cases hruns : (n + 7) / 8 ≤ s.src.length ∧ n * t.base ≤ t.size - s.pos
  · refine .inr (.inr ⟨fun hcut => ?_, hruns, writeMasks_advances h hruns.1 (by omega)⟩)
    have := hcut.1
    omega
  · have herror := writeMasks_error h
      (fun hboth => hruns ⟨hboth.1, by omega⟩ : ¬((n + 7) / 8 ≤ s.src.length ∧ _))
    by_cases hcut : MasksCut t.base (t.size - s.pos) n s.src.length
    · refine .inl ⟨hcut, herror.trans (if_pos ⟨hcut.1, ?_⟩)⟩
      have := hcut.2
      omega
    · refine .inr (.inl ⟨hcut, hruns, herror.trans (if_neg fun hboth => hcut ⟨hboth.1, ?_⟩)⟩)
      omega

lemma fgBgImage_behaves {s : RleState} (h : s.Sound t) (n : Nat) (mega : Bool) :
    (RleCode.fgBgImage mega).Behaves t n s := by
  by_cases hnil : s.src = []
  · exact .inr (.inl ⟨fun hcut => hcut.1 hnil, fun hruns => hruns.image rfl hnil, if_pos hnil⟩)
  · have horder : t.order (.fgBgImage mega) n s = t.writeMasks n { s with fInsertFgPel := false } :=
      if_neg hnil
    rcases writeMasks_spec (h.withInsert false) n with ⟨hcut, herror⟩ | ⟨hcut, hno, herror⟩ |
      ⟨hcut, hruns, dst, hdst⟩
    · exact .inl ⟨⟨hnil, hcut⟩, horder.trans herror⟩
    · exact .inr (.inl ⟨fun hboth => hcut hboth.2,
        fun hruns => hno ⟨hruns.operands, hruns.room⟩, horder.trans herror⟩)
    · exact .inr (.inr ⟨fun hboth => hcut hboth.2,
        ⟨nofun, hruns.1, hruns.2, fun _ => hnil, nofun⟩, dst, _, horder.trans hdst⟩)

lemma setFgBgImage_behaves {s : RleState} (h : s.Sound t) (n : Nat)
    (mega : Bool) : (RleCode.setFgBgImage mega).Behaves t n s := by
  by_cases hnil : s.src = []
  · exact .inr (.inl ⟨fun hcut => hcut.1 hnil, fun hruns => hruns.image rfl hnil, if_pos hnil⟩)
  · by_cases hlong : t.base ≤ s.src.length
    · have horder : t.order (.setFgBgImage mega) n s = t.writeMasks n { s with
          src := s.src.drop t.base, fgPel := pixelOfBytes (s.src.take t.base),
          fInsertFgPel := false } := by
        rw [RleTarget.order, if_neg hnil, @setFgPel_ok t { s with fInsertFgPel := false } hlong]
        rfl
      have hmasks := @writeMasks_spec t { s with
        src := s.src.drop t.base, fgPel := pixelOfBytes (s.src.take t.base),
        fInsertFgPel := false } ⟨h.pos, h.above⟩ n
      simp only [List.length_drop] at hmasks
      rcases hmasks with ⟨hcut, herror⟩ | ⟨hcut, hno, herror⟩ | ⟨hcut, hruns, dst, hdst⟩
      · exact .inl ⟨⟨hnil, .inr hcut⟩, horder.trans herror⟩
      · refine .inr (.inl ⟨fun hboth => ?_, fun hruns => hno ⟨?_, hruns.room⟩, horder.trans herror⟩)
        · rcases hboth.2 with hlt | hmasks
          · omega
          · exact hcut hmasks
        · have hle : t.base + (n + 7) / 8 ≤ s.src.length := hruns.operands
          omega
      · refine .inr (.inr ⟨fun hboth => ?_, ⟨nofun, ?_, hruns.2, fun _ => hnil, nofun⟩, dst,
          pixelOfBytes (s.src.take t.base), ?_⟩)
        · rcases hboth.2 with hlt | hmasks
          · omega
          · exact hcut hmasks
        · have := hruns.1
          exact show t.base + (n + 7) / 8 ≤ _ by omega
        · rw [horder, hdst, List.drop_drop]
          rfl
    · refine .inl ⟨⟨hnil, .inl (by omega)⟩, ?_⟩
      rw [RleTarget.order, if_neg hnil,
        @setFgPel_cut t { s with fInsertFgPel := false } (by dsimp only; omega)]
      rfl

lemma colorImage_behaves {s : RleState} (h : s.Sound t) (hbase : 0 < t.base) (n : Nat)
    (mega : Bool) : (RleCode.colorImage mega).Behaves t n s := by
  have hpos := h.pos
  by_cases hroom : s.pos + n * t.base ≤ t.size
  · obtain ⟨hlong, hshort⟩ := colorImage_loop (h.withInsert false) hbase hroom
    have horder : t.order (.colorImage mega) n s =
        RleTarget.unroll t.copyPixel n { s with fInsertFgPel := false } := by
      rw [RleTarget.order, RleTarget.colorImage,
        @ensureCapacity_ok t { s with fInsertFgPel := false } n hroom, ok_bind]
    by_cases hbytes : n * t.base ≤ s.src.length
    · obtain ⟨dst, hdst⟩ := hlong hbytes
      refine .inr (.inr ⟨fun hcut => ?_, ⟨nofun, hbytes, show n * t.base ≤ _ by omega, nofun, nofun⟩,
        dst, _, horder.trans hdst⟩)
      have := hcut.2.1
      omega
    · have herror := hshort (show s.src.length < n * t.base by omega)
      by_cases hmod : s.src.length % t.base = 0
      · refine .inr (.inl ⟨fun hcut => hcut.2.2 hmod, fun hruns => ?_,
          horder.trans (herror.trans (if_pos hmod))⟩)
        exact hbytes hruns.operands
      · exact .inl ⟨⟨by omega, by omega, hmod⟩, horder.trans (herror.trans (if_neg hmod))⟩
  · refine .inr (.inl ⟨fun hcut => ?_, fun hruns => ?_, ?_⟩)
    · have := hcut.1
      omega
    · have hle : n * t.base ≤ t.size - s.pos := hruns.room
      omega
    · rw [RleTarget.order, RleTarget.colorImage,
        @ensureCapacity_refused t { s with fInsertFgPel := false } n hroom]
      rfl

/-- An order without operands that writes some pixels if they fit. -/
lemma special_behaves {s : RleState} (h : s.Sound t) (n : Nat) {code : RleCode} (k : Nat)
    (hpixels : code.pixels n = k) (hoperands : code.operands t.base n = 0)
    (hcut : ∀ room rest, ¬code.OperandsCut t.base room n rest) (hknown : code ≠ .unknown)
    (himage : code.isFgBgImage = false) (hbg : code.isBgRun = false)
    (hfit : s.pos + k * t.base ≤ t.size →
      Advances { s with fInsertFgPel := false } (k * t.base) (t.order code n s))
    (hfull : ¬s.pos + k * t.base ≤ t.size → t.order code n s = .error .refused) :
    code.Behaves t n s := by
  have hpos := h.pos
  by_cases hroom : s.pos + k * t.base ≤ t.size
  · obtain ⟨dst, hdst⟩ := hfit hroom
    refine .inr (.inr ⟨hcut _ _, ⟨hknown, by rw [hoperands]; exact Nat.zero_le _, ?_,
      by rw [himage]; exact nofun, by rw [hbg]; exact nofun⟩, dst, s.fgPel, ?_⟩)
    · rw [hpixels]
      omega
    · rw [hdst, hoperands, hpixels, hbg]
      rfl
  · refine .inr (.inl ⟨hcut _ _, fun hruns => ?_, hfull hroom⟩)
    have hle := hruns.room
    rw [hpixels] at hle
    omega

/-- An order that reads behind the destination does so. -/
lemma RleCode.ReadsBehind.order {s : RleState} {code : RleCode} (hbehind : code.ReadsBehind t s)
    (h : s.Sound t) (n : Nat) : t.order code n s = .error .outside := by
  cases code with
  | bgRun mega => exact bgRun_readsBehind h hbehind n
  | _ => cases hbehind.1

/-- Every other order is cut, refused, or runs. -/
lemma RleCode.behaves {s : RleState} (h : s.Sound t) (hbase : 0 < t.base) (hsize : t.size < 2 ^ 32)
    {n : Nat} (hn : n < 2 ^ 32) {code : RleCode} (hinside : ¬code.ReadsBehind t s) :
    code.Behaves t n s := by
  have hinsert := h.withInsert false
  cases code with
  | bgRun mega => exact bgRun_behaves h hbase hsize hn mega hinside
  | fgRun mega => exact fgRun_behaves h n mega
  | setFgRun mega => exact setFgRun_behaves h hbase n mega
  | ditheredRun mega => exact ditheredRun_behaves h hbase n mega
  | colorRun mega => exact colorRun_behaves h hbase n mega
  | fgBgImage mega => exact fgBgImage_behaves h n mega
  | setFgBgImage mega => exact setFgBgImage_behaves h n mega
  | colorImage mega => exact colorImage_behaves h hbase n mega
  | specialFgBg1 =>
    exact special_behaves h n 8 rfl rfl (fun _ _ => id) nofun rfl rfl
      (writeFgBgImage_advances hinsert 0x03 le_rfl)
      (fun hroom => writeFgBgImage_refused 0x03 (by dsimp only; omega))
  | specialFgBg2 =>
    exact special_behaves h n 8 rfl rfl (fun _ _ => id) nofun rfl rfl
      (writeFgBgImage_advances hinsert 0x05 le_rfl)
      (fun hroom => writeFgBgImage_refused 0x05 (by dsimp only; omega))
  | white =>
    refine special_behaves h n 1 rfl rfl (fun _ _ => id) nofun rfl rfl (fun hroom => ?_)
      fun hroom => ?_
    · rw [RleTarget.order, ensureCapacity_ok hroom, ok_bind, Nat.one_mul]
      exact writePixel_advances _ (by rwa [Nat.one_mul] at hroom)
    · rw [RleTarget.order, ensureCapacity_refused hroom]
      rfl
  | black =>
    refine special_behaves h n 1 rfl rfl (fun _ _ => id) nofun rfl rfl (fun hroom => ?_)
      fun hroom => ?_
    · rw [RleTarget.order, ensureCapacity_ok hroom, ok_bind, Nat.one_mul]
      exact writePixel_advances _ (by rwa [Nat.one_mul] at hroom)
    · rw [RleTarget.order, ensureCapacity_refused hroom]
      rfl
  | unknown => exact .inr (.inl ⟨id, fun hruns => hruns.known rfl, rfl⟩)

end Steps

/-! ### Runs -/

section Runs

variable {t : RleTarget}

/-- Where an order starts. -/
def RleState.spot (s : RleState) : RleSpot := ⟨s.src, s.pos, s.fInsertFgPel, s.fFirstLine⟩

lemma spot_nextLine (s : RleState) : (t.nextLine s).spot = s.spot.nextLine t.rowDelta := by
  unfold RleTarget.nextLine RleSpot.nextLine RleState.spot
  dsimp only
  split <;> rfl

lemma nextLine_src (s : RleState) : (t.nextLine s).src = s.src := by
  unfold RleTarget.nextLine
  split <;> rfl

lemma nextLine_pos (s : RleState) : (t.nextLine s).pos = s.pos := by
  unfold RleTarget.nextLine
  split <;> rfl

lemma RleState.Sound.nextLine {s : RleState} (h : s.Sound t) : (t.nextLine s).Sound t := by
  unfold RleTarget.nextLine
  split
  · rename_i hline
    exact ⟨h.pos, fun _ => hline.2⟩
  · exact h

/-- A header has a length of 16 bits, and takes bytes of the source. -/
lemma extractRunLength_ok {code : RleCode} {src rest : List UInt8} {n : Nat}
    (h : extractRunLength code src = .ok (n, rest)) : n < 2 ^ 32 ∧ rest.length < src.length := by
  unfold extractRunLength at h
  split at h
  · rename_i low high src _
    cases h
    have hlow : low.toNat < 2 ^ 16 := by
      have := low.toNat_lt
      omega
    have hhigh : high.toNat <<< 8 < 2 ^ 16 := by
      have := high.toNat_lt
      rw [Nat.shiftLeft_eq]
      omega
    have hor := Nat.or_lt_two_pow hlow hhigh
    simp only [List.length_cons]
    omega
  · rename_i mask factor offset orderHdr src hlength
    have hbound : factor ≤ 8 ∧ offset ≤ 32 := by
      unfold RleCode.length at hlength
      split at hlength <;> cases hlength <;> omega
    have hmask := (orderHdr &&& mask).toNat_lt
    split at h
    · split at h
      · rename_i next src
        cases h
        have := next.toNat_lt
        simp only [List.length_cons]
        omega
      · cases h
    · cases h
      have hmul : (orderHdr &&& mask).toNat * factor ≤ 256 * 8 :=
        Nat.mul_le_mul (by omega) hbound.1
      simp only [List.length_cons]
      omega
  · cases h
    simp only [List.length_cons]
    omega
  · cases h

lemma extractRunLength_error {code : RleCode} {src : List UInt8} {e : RleStop}
    (h : extractRunLength code src = .error e) : e = .sourceOverrun := by
  unfold extractRunLength at h
  split at h
  · cases h
  · split at h
    · split at h
      · cases h
      · cases h
        rfl
    · cases h
  · cases h
  · cases h
    rfl

/-- The place where an order starts says whether it is cut. -/
lemma spot_cut {s : RleState} {orderHdr : UInt8} {tail rest : List UInt8} {n : Nat}
    (hsrc : s.src = orderHdr :: tail)
    (hlength : extractRunLength (extractCodeId orderHdr) s.src = .ok (n, rest)) :
    s.spot.Cut t ↔ (extractCodeId orderHdr).OperandsCut t.base (t.size - s.pos) n rest := by
  constructor
  · rintro ⟨hdr, tail', hcons, hcut⟩
    rw [RleState.spot, hsrc] at hcons
    cases hcons
    exact hcut n rest hlength
  · intro hcut
    refine ⟨orderHdr, tail, hsrc, fun n' rest' hok => ?_⟩
    rw [RleState.spot, hlength] at hok
    cases hok
    exact hcut

lemma spot_readsBehind {s : RleState} {orderHdr : UInt8} {tail rest : List UInt8} {n : Nat}
    (hsrc : s.src = orderHdr :: tail)
    (hlength : extractRunLength (extractCodeId orderHdr) s.src = .ok (n, rest)) :
    s.spot.ReadsBehind t ↔
      (extractCodeId orderHdr).ReadsBehind t { t.nextLine s with src := rest } := by
  unfold RleSpot.ReadsBehind RleCode.ReadsBehind
  rw [← spot_nextLine]
  dsimp only
  rw [nextLine_pos]
  constructor
  · rintro ⟨hdr, tail', n', rest', hcons, -, hbehind⟩
    rw [RleState.spot, hsrc] at hcons
    cases hcons
    exact hbehind
  · intro hbehind
    exact ⟨orderHdr, tail, n, rest, hsrc, hlength, hbehind⟩

lemma spot_next {s : RleState} {orderHdr : UInt8} {tail rest : List UInt8} {n : Nat}
    (hsrc : s.src = orderHdr :: tail)
    (hlength : extractRunLength (extractCodeId orderHdr) s.src = .ok (n, rest)) (σ : RleSpot) :
    RleSpot.Next t s.spot σ ↔
      (extractCodeId orderHdr).Runs t.base (t.size - s.pos) n (t.nextLine s).fInsertFgPel rest ∧
      σ = ⟨rest.drop ((extractCodeId orderHdr).operands t.base n),
        s.pos + (extractCodeId orderHdr).pixels n * t.base, (extractCodeId orderHdr).isBgRun,
        (t.nextLine s).fFirstLine⟩ := by
  unfold RleSpot.Next
  rw [← spot_nextLine]
  constructor
  · rintro ⟨hdr, tail', n', rest', hcons, hok, hruns, rfl⟩
    rw [RleState.spot, hsrc] at hcons
    cases hcons
    rw [RleState.spot, hlength] at hok
    cases hok
    exact ⟨hruns, rfl⟩
  · rintro ⟨hruns, rfl⟩
    exact ⟨orderHdr, tail, n, rest, hsrc, hlength, hruns, rfl⟩

/-- The decoder from some place on: it comes to its end, to an order that is cut, or to one that
reads behind the destination. -/
inductive LoopOutcome (t : RleTarget) (σ : RleSpot) (outcome : Except RleStop RleState) : Prop where
  | inside (hend : (∃ s, outcome = .ok s) ∨ outcome = .error .refused)
      (hall : ∀ σ', Relation.ReflTransGen (RleSpot.Next t) σ σ' → ¬σ'.Cut t ∧ ¬σ'.ReadsBehind t)
  | cut (herror : outcome = .error .sourceOverrun)
      (hreached : ∃ σ', Relation.ReflTransGen (RleSpot.Next t) σ σ' ∧ σ'.Cut t)
  | behind (herror : outcome = .error .outside) (hshort : t.rowDelta < t.base)
      (hreached : ∃ σ', Relation.ReflTransGen (RleSpot.Next t) σ σ' ∧ σ'.ReadsBehind t)

lemma loop_outcome (hbase : 0 < t.base) (hsize : t.size < 2 ^ 32) {fuel : Nat} {s : RleState}
    (h : s.Sound t) (hfuel : s.src.length < fuel) : LoopOutcome t s.spot (t.loop fuel s) := by
  induction fuel generalizing s with
  | zero => exact absurd hfuel (Nat.not_lt_zero _)
  | succ fuel ih =>
    rcases hsrc : s.src with _ | ⟨orderHdr, tail⟩
    · have hloop : t.loop (fuel + 1) s = .ok s := by
        rw [RleTarget.loop, hsrc]
      have hnil : ∀ hdr tail, s.spot.src ≠ hdr :: tail := by
        intro hdr tail hcons
        rw [RleState.spot, hsrc] at hcons
        cases hcons
      refine .inside (.inl ⟨s, hloop⟩) fun σ hreached => ?_
      have hspot : s.spot = σ := by
        rcases hreached.cases_head with heq | ⟨σ', ⟨hdr, tail, _, _, hcons, _⟩, _⟩
        · exact heq
        · exact absurd hcons (hnil hdr tail)
      rw [← hspot]
      refine ⟨?_, ?_⟩
      · rintro ⟨hdr, tail, hcons, -⟩
        exact hnil hdr tail hcons
      · rintro ⟨hdr, tail, _, _, hcons, -⟩
        exact hnil hdr tail hcons
    · rcases hlength : extractRunLength (extractCodeId orderHdr) s.src with e | ⟨n, rest⟩
      · -- the header is cut
        refine .cut ?_ ⟨s.spot, .refl, orderHdr, tail, hsrc, fun n rest hok => ?_⟩
        · rw [RleTarget.loop, hsrc]
          dsimp only
          rw [nextLine_src, hlength, extractRunLength_error hlength]
          rfl
        · rw [RleState.spot, hlength] at hok
          cases hok
      · obtain ⟨line, hline⟩ : ∃ line, line = t.nextLine s := ⟨_, rfl⟩
        have hpos : s.pos = line.pos := by rw [hline, nextLine_pos]
        have hsound : RleState.Sound t line := hline ▸ h.nextLine
        have hrest : RleState.Sound t { line with src := rest } := ⟨hsound.pos, hsound.above⟩
        have hloop : t.loop (fuel + 1) s =
            t.order (extractCodeId orderHdr) n { line with src := rest } >>= t.loop fuel := by
          rw [RleTarget.loop, hsrc]
          dsimp only
          rw [nextLine_src, hlength, ok_bind, ← hline]
        have hlt := extractRunLength_ok hlength
        have hcuts := spot_cut (t := t) hsrc hlength
        have hbehinds := spot_readsBehind (t := t) hsrc hlength
        have hnext := spot_next (t := t) hsrc hlength
        rw [hpos] at hcuts
        rw [← hline] at hbehinds
        rw [← hline, hpos] at hnext
        by_cases hbehind : (extractCodeId orderHdr).ReadsBehind t { line with src := rest }
        · refine .behind ?_ ?_ ⟨s.spot, .refl, hbehinds.mpr hbehind⟩
          · rw [hloop, hbehind.order hrest n]
            rfl
          · obtain ⟨-, -, hfirst, hend⟩ := hbehind
            have hle := hsound.pos
            have habove := hsound.above hfirst
            dsimp only at hend
            omega
        · rcases RleCode.behaves hrest hbase hsize hlt.1 hbehind with ⟨hcut, herror⟩ |
            ⟨hcut, hruns, herror⟩ | ⟨hcut, hruns, dst, fgPel, hok⟩
          · refine .cut ?_ ⟨s.spot, .refl, hcuts.mpr hcut⟩
            rw [hloop, herror]
            rfl
          · refine .inside (.inr ?_) fun σ hreached => ?_
            · rw [hloop, herror]
              rfl
            · rcases hreached.cases_head with heq | ⟨σ', hstep, _⟩
              · rw [← heq]
                exact ⟨mt hcuts.mp hcut, mt hbehinds.mp hbehind⟩
              · exact absurd ((hnext σ').mp hstep).1 hruns
          · have hroom : (extractCodeId orderHdr).pixels n * t.base ≤ t.size - line.pos := hruns.room
            have hle := hsound.pos
            have hafter : RleState.Sound t
                ⟨rest.drop ((extractCodeId orderHdr).operands t.base n),
                  line.pos + (extractCodeId orderHdr).pixels n * t.base, dst, fgPel,
                  (extractCodeId orderHdr).isBgRun, line.fFirstLine⟩ :=
              ⟨by dsimp only; omega,
                fun hfirst => (hsound.above hfirst).trans (Nat.le_add_right _ _)⟩
            have hstep := (hnext _).mpr ⟨hruns, rfl⟩
            have hlater := ih hafter (by simp only [List.length_drop]; omega)
            rw [hloop, hok, ok_bind]
            cases hlater with
            | inside hend hall =>
              refine .inside hend fun σ hreached => ?_
              rcases hreached.cases_head with heq | ⟨σ', hfirst, hrest⟩
              · rw [← heq]
                exact ⟨mt hcuts.mp hcut, mt hbehinds.mp hbehind⟩
              · rw [((hnext σ').mp hfirst).2] at hrest
                exact hall σ hrest
            | cut herror hreached =>
              obtain ⟨σ, hreached, hσ⟩ := hreached
              exact .cut herror ⟨σ, .head hstep hreached, hσ⟩
            | behind herror hshort hreached =>
              obtain ⟨σ, hreached, hσ⟩ := hreached
              exact .behind herror hshort ⟨σ, .head hstep hreached, hσ⟩

end Runs

/-- The orders of a source are walked through from its start. -/
def RleWalk (base : Nat) (src : List UInt8) (rowDelta height : Nat) (σ : RleSpot) : Prop :=
  Relation.ReflTransGen (RleSpot.Next ⟨base, rowDelta, rowDelta * height % 2 ^ 32⟩)
    ⟨src, 0, false, true⟩ σ

/-- The decoder keeps to its buffers if and only if it comes to no order that is cut and to none that
reads behind the destination: it returns `TRUE` or `FALSE` then, without touching a byte outside of
the source or the destination. Otherwise it reads behind the end of the source, or of a destination
whose lines are shorter than a pixel; it never touches other bytes outside, and always ends. -/
theorem rleDecompress_inside_iff {base : Nat} (hbase : base = 1 ∨ base = 2 ∨ base = 3)
    (src : List UInt8) (dst : Nat → UInt8) (rowDelta width height : Nat) :
    (((∃ dst', rleDecompress base src dst rowDelta width height = .ok dst') ∨
      rleDecompress base src dst rowDelta width height = .error .refused) ↔
    (rowDelta ≠ 0 → width ≤ rowDelta → ∀ σ, RleWalk base src rowDelta height σ →
      ¬σ.Cut ⟨base, rowDelta, rowDelta * height % 2 ^ 32⟩ ∧
      ¬σ.ReadsBehind ⟨base, rowDelta, rowDelta * height % 2 ^ 32⟩)) ∧
    ∀ e, rleDecompress base src dst rowDelta width height = .error e →
      e = .refused ∨ e = .sourceOverrun ∨ e = .outside ∧ rowDelta < base := by
  by_cases hrefused : rowDelta = 0 ∨ rowDelta < width
  · have hrun : rleDecompress base src dst rowDelta width height = .error .refused := if_pos hrefused
    rw [hrun]
    refine ⟨iff_of_true (.inr rfl) fun hzero hwidth => by omega, fun e he => ?_⟩
    cases he
    exact .inl rfl
  · have hrun : rleDecompress base src dst rowDelta width height = (do
        let s ← RleTarget.loop ⟨base, rowDelta, rowDelta * height % 2 ^ 32⟩ (src.length + 1)
          ⟨src, 0, dst, whitePixel base, false, true⟩
        .ok s.dst) := if_neg hrefused
    have hloop := @loop_outcome ⟨base, rowDelta, rowDelta * height % 2 ^ 32⟩ (by dsimp only; omega)
      (Nat.mod_lt _ (by norm_num)) (src.length + 1) ⟨src, 0, dst, whitePixel base, false, true⟩
      ⟨Nat.zero_le _, nofun⟩ (Nat.lt_succ_self _)
    rw [hrun]
    cases hloop with
    | inside hend hall =>
      rcases hend with ⟨s, hs⟩ | hs
      · rw [hs]
        exact ⟨iff_of_true (.inl ⟨s.dst, rfl⟩) fun _ _ => hall, nofun⟩
      · rw [hs]
        refine ⟨iff_of_true (.inr rfl) fun _ _ => hall, fun e he => ?_⟩
        cases he
        exact .inl rfl
    | cut herror hreached =>
      obtain ⟨σ, hreached, hcut⟩ := hreached
      rw [herror]
      refine ⟨iff_of_false ?_ fun hnone => (hnone (by omega) (by omega) σ hreached).1 hcut,
        fun e he => ?_⟩
      · rintro (⟨dst', hok⟩ | hno)
        · cases hok
        · cases hno
      · cases he
        exact .inr (.inl rfl)
    | behind herror hshort hreached =>
      obtain ⟨σ, hreached, hbehind⟩ := hreached
      rw [herror]
      refine ⟨iff_of_false ?_ fun hnone => (hnone (by omega) (by omega) σ hreached).2 hbehind,
        fun e he => ?_⟩
      · rintro (⟨dst', hok⟩ | hno)
        · cases hok
        · cases hno
      · cases he
        exact .inr (.inr ⟨rfl, hshort⟩)

/-- A color run of one pixel of two bytes. -/
theorem rleDecompress_inside_color :
    (∃ dst', rleDecompress 2 [0x61, 0x34, 0x12] (fun _ => 0) 8 4 1 = .ok dst') ∧
    ∀ σ, RleWalk 2 [0x61, 0x34, 0x12] 8 1 σ →
      ¬σ.Cut ⟨2, 8, 8 * 1 % 2 ^ 32⟩ ∧ ¬σ.ReadsBehind ⟨2, 8, 8 * 1 % 2 ^ 32⟩ :=
  ⟨⟨_, rfl⟩, (rleDecompress_inside_iff (.inr (.inl rfl)) [0x61, 0x34, 0x12] (fun _ => 0) 8 4 1).1.mp
    (.inl ⟨_, rfl⟩) (by decide) (by decide)⟩

/-- A source of one byte, the header of a background run whose length is in the next byte; and a
white pixel and two background runs, of pixels that are longer than a line. -/
theorem rleDecompress_not_inside :
    (rleDecompress 1 [0x00] (fun _ => 0) 4 4 1 = .error .sourceOverrun ∧
      rleDecompress 3 [0xFD, 0x01, 0x01] (fun _ => 0) 1 1 6 = .error .outside) ∧
    ¬∀ (base : Nat) (src : List UInt8) (dst : Nat → UInt8) (rowDelta width height : Nat),
      base = 1 ∨ base = 2 ∨ base = 3 →
      (∃ dst', rleDecompress base src dst rowDelta width height = .ok dst') ∨
        rleDecompress base src dst rowDelta width height = .error .refused := by
  have hheader : rleDecompress 1 [0x00] (fun _ => 0) 4 4 1 = .error .sourceOverrun := rfl
  refine ⟨⟨hheader, rfl⟩, fun hclaim => ?_⟩
  rcases hclaim 1 [0x00] (fun _ => 0) 4 4 1 (.inl rfl) with ⟨dst', hok⟩ | hrefused
  · rw [hheader] at hok
    cases hok
  · rw [hheader] at hrefused
    cases hrefused

end FreeRdp
