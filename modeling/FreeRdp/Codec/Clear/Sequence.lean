import FreeRdp.Library.Runs
import FreeRdp.Codec.Clear.Steady

/-!
# The sequence numbers of ClearCodec

A message is accepted if it has the number that follows the one of the message accepted before. The
context has no other sign for "no message yet" than the expected number 0, so that after the message
255 any number is accepted. A message that is refused does not change the expected number, which
therefore comes again after 256 messages.
-/

namespace FreeRdp

open ClearState Attempt

variable {env : ClearEnv} {call : ClearCall} {clear : ClearContext}

/-- A message that is received, behind a number of messages that were lost. -/
structure ClearArrival where
  lost : Nat
  env : ClearEnv
  call : ClearCall

/-- The message is decompressed. -/
def clearArrivalStep (clear : ClearContext) (c : ClearArrival) : ClearContext :=
  clearStep clear (.decompress c.env c.call)

/-- Messages that the sender has numbered one after the other, from the place `n` on. -/
def Numbered : Nat → List ClearArrival → Prop
  | _, [] => True
  | n, c :: calls => c.call.seqNumber = (n + c.lost) % 256 ∧ Numbered (n + c.lost + 1) calls

instance decidableNumbered : (n : Nat) → (calls : List ClearArrival) →
    Decidable (Numbered n calls)
  | _, [] => isTrue trivial
  | n, c :: calls => @instDecidableAnd _ _ inferInstance (decidableNumbered (n + c.lost + 1) calls)

/-- The condition on the gaps. A message is in step if its number follows that of the last one in
step, whose place is `last`. No message in step has a gap before it, and no gap comes behind a last
one in step with the number 255. -/
def GapsOutOfStep : Nat → Nat → List ClearArrival → Prop
  | _, _, [] => True
  | last, n, c :: calls =>
    (c.lost ≠ 0 → last % 256 ≠ 255 ∧ (n + c.lost) % 256 ≠ (last + 1) % 256) ∧
      GapsOutOfStep (if (n + c.lost) % 256 = (last + 1) % 256 then n + c.lost else last)
        (n + c.lost + 1) calls

instance decidableGapsOutOfStep : (last n : Nat) → (calls : List ClearArrival) →
    Decidable (GapsOutOfStep last n calls)
  | _, _, [] => isTrue trivial
  | _, _, _ :: calls => @instDecidableAnd _ _ inferInstance (decidableGapsOutOfStep _ _ calls)

/-! ### One call -/

/-- Behind the first two bytes nothing changes the expected number. -/
lemma keeps_seqNumber (n : Nat) (flags : Nat) (s : WStream) :
    (clearBody env call flags s).Keeps (fun s => s.clear.seqNumber = n) := by
  have hsteady : ClearSteady (fun s => s.clear.seqNumber = n) :=
    ⟨fun _ _ h => h, fun _ _ _ h => h, fun _ _ h => h⟩
  have hdraw : DrawSteady (fun s => s.clear.seqNumber = n) := ⟨fun _ _ _ _ h => h, fun _ _ _ h => h⟩
  have hbar : BarSteady (fun s => s.clear.seqNumber = n) := by
    refine ⟨fun s storage i e h => ?_, fun _ _ _ h => h, fun _ _ _ _ h => h⟩
    cases storage <;> exact h
  refine keeps_clearBody hsteady hdraw (fun _ h => h) (fun n s => ?_) flags s
  refine (keeps_require _).bind fun _ => Keeps.bind (keeps_loop (fun p => ?_) _ _) fun _ =>
    keeps_pure _
  refine (keeps_lift _).bind fun ⟨band, s⟩ => Keeps.bind ?_ fun _ => keeps_pure _
  refine keeps_drawBars hsteady hbar (fun j _ _ entry format y _ _ => ?_) s
  exact (keeps_lift _).bind fun bytes => keeps_drawPixel hdraw _

/-- What the first two bytes come to. While 0 is expected, any number is accepted. -/
lemma clearHeader_eq (hlength : 2 ≤ call.pSrcData.length) (s : ClearState) :
    clearHeader call s =
      if s.clear.seqNumber = 0 ∨ call.seqNumber = s.clear.seqNumber then
        (some ((call.pSrcData.getD 0 0).toNat, ⟨call.pSrcData, 2⟩),
          { s with clear := { s.clear with
            format := call.dstFormat.toNat, seqNumber := (call.seqNumber + 1) % 256 } })
      else (none, { s with clear := { s.clear with format := call.dstFormat.toNat } }) := by
  have hremaining : 2 ≤ (WStream.ofBytes call.pSrcData).remainingLength := by
    simpa [WStream.remainingLength, WStream.ofBytes] using hlength
  have hread : ((WStream.ofBytes call.pSrcData).readUInt8.2).readUInt8 =
      (call.seqNumber, ⟨call.pSrcData, 2⟩) := rfl
  unfold clearHeader
  simp only [bind, andThen, Attempt.require, hremaining, decide_true, if_true, change,
    Attempt.modify, Attempt.gets, hread]
  by_cases hzero : s.clear.seqNumber = 0
  · by_cases hnumber : call.seqNumber = 0
    · simp [hzero, hnumber]
      rfl
    · simp [hzero, hnumber]
      rfl
  · by_cases hnumber : call.seqNumber = s.clear.seqNumber
    · simp [hzero, hnumber]
      rfl
    · simp [hzero, hnumber]

lemma passesSequenceCheck_iff (hcall : call.Received env) :
    call.passesSequenceCheck clear = true ↔
      clear.seqNumber = 0 ∨ call.seqNumber = clear.seqNumber := by
  unfold ClearCall.passesSequenceCheck
  rw [clearHeader_eq hcall.header]
  split <;> simp_all [ClearCall.start]

/-- A call that gets to the check treats the message. -/
lemma clearDecompress_snd (hcall : call.Received env) :
    (clearDecompress env call clear).2 =
      (clearMessage env call (call.start clear 1)).2 := by
  have hdst : call.pDstData.isNone = false := by
    rw [← Option.not_isSome, hcall.dst]
    rfl
  have hsize : ¬(call.nWidth > 0xFFFF ∨ call.nHeight > 0xFFFF) := by
    rw [gt_iff_lt, gt_iff_lt, ← UInt32.not_le, ← UInt32.not_le]
    exact fun h => h.elim (absurd hcall.width) (absurd hcall.height)
  have hgranted : (!env.granted .stream 0) = false := by rw [hcall.granted]; rfl
  unfold clearDecompress
  simp only [hdst, hsize, hgranted, hcall.dstWidth, hcall.dstHeight, or_self, if_false,
    Bool.false_eq_true]
  split <;> simp_all

/-- A message that is accepted sets the number expected next. -/
lemma seqNumber_clearStep (hcall : call.Received env) :
    (clearStep clear (.decompress env call)).seqNumber =
      if call.passesSequenceCheck clear then (call.seqNumber + 1) % 256 else clear.seqNumber := by
  show (clearDecompress env call clear).2.clear.seqNumber = _
  rw [clearDecompress_snd hcall]
  have hheader := clearHeader_eq hcall.header (call.start clear 1)
  have hstart : (call.start clear 1).clear = clear := rfl
  rw [hstart] at hheader
  by_cases hnumber : clear.seqNumber = 0 ∨ call.seqNumber = clear.seqNumber
  · rw [if_pos hnumber] at hheader
    rw [if_pos ((passesSequenceCheck_iff hcall).mpr hnumber)]
    simp only [clearMessage, bind, andThen, hheader]
    exact keeps_seqNumber _ _ _ _ rfl
  · rw [if_neg hnumber] at hheader
    rw [if_neg (mt (passesSequenceCheck_iff hcall).mp hnumber)]
    simp only [clearMessage, bind, andThen, hheader]

/-! ### Sessions -/

/-- The check fails for a message behind a gap. -/
def ClearArrival.Detected (clear : ClearContext) (c : ClearArrival) : Prop :=
  c.lost ≠ 0 → c.call.passesSequenceCheck clear = false

/-- The check of one message, where `last` is the place of the last one in step. -/
lemma detected_iff {last n : Nat} {c : ClearArrival} (hreceived : c.call.Received c.env)
    (hclear : clear.seqNumber = (last + 1) % 256)
    (hnumber : c.call.seqNumber = (n + c.lost) % 256) :
    c.Detected clear ↔
      (c.lost ≠ 0 → last % 256 ≠ 255 ∧ (n + c.lost) % 256 ≠ (last + 1) % 256) := by
  have hpasses : c.call.passesSequenceCheck clear = false ↔
      last % 256 ≠ 255 ∧ (n + c.lost) % 256 ≠ (last + 1) % 256 := by
    rw [← Bool.not_eq_true, passesSequenceCheck_iff hreceived, hclear, hnumber]
    omega
  rw [ClearArrival.Detected, hpasses]

/-- The expected number follows that of the last message in step. -/
lemma seqNumber_arrival {last n : Nat} {c : ClearArrival} (hreceived : c.call.Received c.env)
    (hclear : clear.seqNumber = (last + 1) % 256)
    (hnext : last % 256 = 255 → n = last + 1)
    (hnumber : c.call.seqNumber = (n + c.lost) % 256)
    (hgap : c.lost ≠ 0 → last % 256 ≠ 255 ∧ (n + c.lost) % 256 ≠ (last + 1) % 256) :
    (clearArrivalStep clear c).seqNumber =
        ((if (n + c.lost) % 256 = (last + 1) % 256 then n + c.lost else last) + 1) % 256 ∧
      ((if (n + c.lost) % 256 = (last + 1) % 256 then n + c.lost else last) % 256 = 255 →
        n + c.lost + 1 =
          (if (n + c.lost) % 256 = (last + 1) % 256 then n + c.lost else last) + 1) := by
  have hpasses := @passesSequenceCheck_iff c.env c.call clear hreceived
  rw [hclear, hnumber] at hpasses
  rw [clearArrivalStep, seqNumber_clearStep hreceived]
  split_ifs with hcheck hstep hstep
  · rw [hnumber]
    omega
  · -- without a gap, only the message in step comes behind the number 255
    exfalso
    rcases hpasses.mp hcheck with hzero | hsame
    · by_cases hlost : c.lost = 0
      · have := hnext (by omega)
        omega
      · have := (hgap hlost).1
        omega
    · exact hstep hsame
  · exact absurd (hpasses.mpr (.inr hstep)) hcheck
  · refine ⟨hclear, fun h255 => ?_⟩
    exact absurd (hpasses.mpr (.inl (by omega))) hcheck

/-- From a state where a message was in step, all gaps are detected if none of them is in step. -/
lemma alongRun_detected_iff {last n : Nat} {calls : List ClearArrival}
    (hclear : clear.seqNumber = (last + 1) % 256) (hnext : last % 256 = 255 → n = last + 1)
    (hcalls : ∀ c ∈ calls, c.call.Received c.env) (hnumbered : Numbered n calls) :
    AlongRun clearArrivalStep ClearArrival.Detected clear calls ↔ GapsOutOfStep last n calls := by
  induction calls generalizing clear last n with
  | nil => exact Iff.rfl
  | cons c calls ih =>
    have hreceived := hcalls c List.mem_cons_self
    rw [AlongRun, GapsOutOfStep, detected_iff hreceived hclear hnumbered.1]
    refine and_congr_right fun hgap => ?_
    obtain ⟨hclear', hnext'⟩ := seqNumber_arrival hreceived hclear hnext hnumbered.1 hgap
    exact ih hclear' hnext' (fun d hd => hcalls d (List.mem_cons_of_mem c hd)) hnumbered.2

/-- Messages that follow each other are all accepted. -/
lemma alongRun_passes {n : Nat} {calls : List ClearArrival}
    (hclear : clear.seqNumber = 0 ∨ clear.seqNumber = n % 256)
    (hcalls : ∀ c ∈ calls, c.call.Received c.env) (hnumbered : Numbered n calls)
    (hlost : ∀ c ∈ calls, c.lost = 0) :
    AlongRun clearArrivalStep (fun clear c => c.call.passesSequenceCheck clear = true) clear
      calls := by
  induction calls generalizing n clear with
  | nil => trivial
  | cons c calls ih =>
    have hreceived := hcalls c List.mem_cons_self
    have hnumber : c.call.seqNumber = n % 256 := by
      rw [hnumbered.1, hlost c List.mem_cons_self, Nat.add_zero]
    have hpasses : c.call.passesSequenceCheck clear = true := by
      rw [passesSequenceCheck_iff hreceived, hnumber]
      exact hclear.imp id Eq.symm
    have hnumbered' := hnumbered.2
    rw [hlost c List.mem_cons_self, Nat.add_zero] at hnumbered'
    refine ⟨hpasses, ih (.inr ?_) (fun d hd => hcalls d (List.mem_cons_of_mem c hd)) hnumbered'
      fun d hd => hlost d (List.mem_cons_of_mem c hd)⟩
    rw [clearArrivalStep, seqNumber_clearStep hreceived, if_pos hpasses, hnumber]
    omega

/-- Messages that arrive without a gap all pass the check. With any gaps behind the first message, the
first message behind each gap is detected just when none of them is in step, and no gap comes behind
a last message in step with the number 255. -/
theorem clearDecompress_detectsLoss_iff (n : Nat) (first : ClearArrival)
    (calls : List ClearArrival) (hclear : clear.seqNumber = 0) (hfirst : first.lost = 0)
    (hcalls : ∀ c ∈ first :: calls, c.call.Received c.env)
    (hnumbered : Numbered n (first :: calls)) :
    ((∀ c ∈ calls, c.lost = 0) → AlongRun clearArrivalStep
        (fun clear c => c.call.passesSequenceCheck clear = true) clear (first :: calls)) ∧
      (AlongRun clearArrivalStep ClearArrival.Detected clear (first :: calls) ↔
        GapsOutOfStep n (n + 1) calls) := by
  have hreceived := hcalls first List.mem_cons_self
  have hnumber : first.call.seqNumber = n % 256 := by
    rw [hnumbered.1, hfirst, Nat.add_zero]
  constructor
  · intro hlost
    exact alongRun_passes (.inl hclear) hcalls hnumbered (List.forall_mem_cons.mpr ⟨hfirst, hlost⟩)
  · have hpasses : first.call.passesSequenceCheck clear = true :=
      (passesSequenceCheck_iff hreceived).mpr (.inl hclear)
    have hnext : (clearArrivalStep clear first).seqNumber = (n + 1) % 256 := by
      rw [clearArrivalStep, seqNumber_clearStep hreceived, if_pos hpasses, hnumber]
      omega
    have hnumbered' := hnumbered.2
    rw [hfirst, Nat.add_zero] at hnumbered'
    have hdetected : first.Detected clear := fun hlost => absurd hfirst hlost
    rw [AlongRun, and_iff_right hdetected]
    exact alongRun_detected_iff hnext (fun _ => rfl)
      (fun d hd => hcalls d (List.mem_cons_of_mem first hd)) hnumbered'

/-- A message of the given number that draws nothing, in a session where every allocation
succeeds. -/
def emptyClearMessage (lost : Nat) (seqNumber : UInt8) : ClearArrival where
  lost := lost
  env := ⟨fun _ _ _ _ _ => 0, fun _ _ _ _ => 0, fun _ _ _ => none, fun _ _ => true⟩
  call := ⟨[0, seqNumber] ++ List.replicate 12 0, 1, 1, some fun _ => 0, 0x20040888, 4, 0, 0, 1, 1⟩

lemma emptyClearMessage_received (lost : Nat) (n : UInt8) :
    (emptyClearMessage lost n).call.Received (emptyClearMessage lost n).env :=
  ⟨rfl, (by decide : (1 : UInt32) ≠ 0), (by decide : (1 : UInt32) ≠ 0),
    (by decide : (1 : UInt32) ≤ 0xFFFF), (by decide : (1 : UInt32) ≤ 0xFFFF), rfl,
    Nat.le_of_lt (by simp [emptyClearMessage])⟩

/-- Two gaps, of one and of 255 messages, across the wrap of the numbers. -/
theorem clearDecompress_detectsLoss_254 :
    AlongRun clearArrivalStep ClearArrival.Detected clearContextNew
      [emptyClearMessage 0 252, emptyClearMessage 0 253, emptyClearMessage 1 255,
        emptyClearMessage 255 255] :=
  (clearDecompress_detectsLoss_iff 252 (emptyClearMessage 0 252)
    [emptyClearMessage 0 253, emptyClearMessage 1 255, emptyClearMessage 255 255] rfl rfl
    (by simp [emptyClearMessage_received]) (by decide)).2.mpr (by decide)

/-- The message 0 is lost behind the message 255, and the message 1 passes the check. A second loss
of 254 messages behind a first one brings the expected number again. -/
theorem clearDecompress_misses_loss :
    (Numbered 255 [emptyClearMessage 0 255, emptyClearMessage 1 1] ∧
      ¬AlongRun clearArrivalStep ClearArrival.Detected clearContextNew
        [emptyClearMessage 0 255, emptyClearMessage 1 1]) ∧
    Numbered 1 [emptyClearMessage 0 1, emptyClearMessage 1 3, emptyClearMessage 254 2] ∧
      ¬AlongRun clearArrivalStep ClearArrival.Detected clearContextNew
        [emptyClearMessage 0 1, emptyClearMessage 1 3, emptyClearMessage 254 2] := by
  have hsecond : ∀ (n : UInt8) (calls : List ClearArrival),
      (∀ c ∈ calls, c.call.Received c.env) → Numbered (n.toNat + 1) calls →
      AlongRun clearArrivalStep ClearArrival.Detected clearContextNew
        (emptyClearMessage 0 n :: calls) → GapsOutOfStep n.toNat (n.toNat + 1) calls := by
    intro n calls hcalls hnumbered hrun
    have hreceived := emptyClearMessage_received 0 n
    refine (alongRun_detected_iff ?_ (fun _ => rfl) hcalls hnumbered).mp hrun.2
    have hpasses := (@passesSequenceCheck_iff _ _ clearContextNew hreceived).mpr (.inl rfl)
    rw [clearArrivalStep, seqNumber_clearStep hreceived, if_pos hpasses]
    rfl
  refine ⟨⟨by decide, fun hrun => ?_⟩, by decide, fun hrun => ?_⟩
  · exact absurd (hsecond 255 [emptyClearMessage 1 1] (by simp [emptyClearMessage_received])
      (by decide) hrun) (by decide)
  · exact absurd (hsecond 1 [emptyClearMessage 1 3, emptyClearMessage 254 2]
      (by simp [emptyClearMessage_received]) (by decide) hrun) (by decide)

end FreeRdp
