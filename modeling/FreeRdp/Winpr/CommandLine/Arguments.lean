import FreeRdp.Winpr.CommandLine.Basic

/-!
# Every argument once

The parser of command lines ends, and uses each argument once, exactly if no option meets a value that
it has to give back though it did not take it, or that an earlier option took.
-/

namespace FreeRdp

variable {flags : Nat} {argv : List (List UInt8)} {keyword : CommandLineKeyword}
  {o o' : CommandLineArgument} {options : List CommandLineArgument} {k k' : KeywordState}
  {s : CommandLineState}

/-! ### What an option does -/

lemma hasFlag_or {f p m : Nat} (h : p &&& m = 0) : hasFlag (f ||| p) m = hasFlag f m := by
  rw [hasFlag, hasFlag, Nat.and_or_distrib_right, h, Nat.or_zero]

/-- The bits that the parser sets are none of those that it looks at. -/
lemma printStatus_or {flags' : Nat} {value : CommandLineValue} {index : Nat}
    (h : flags' = o.flags ||| COMMAND_LINE_ARGUMENT_PRESENT ∨
      flags' = o.flags ||| COMMAND_LINE_ARGUMENT_PRESENT ||| COMMAND_LINE_VALUE_PRESENT) :
    printStatus { o with flags := flags', value := value, index := index } = printStatus o := by
  have hbit : ∀ m, COMMAND_LINE_ARGUMENT_PRESENT &&& m = 0 → COMMAND_LINE_VALUE_PRESENT &&& m = 0 →
      hasFlag flags' m = hasFlag o.flags m := by
    intro m hargument hvalue
    rcases h with rfl | rfl
    · exact hasFlag_or hargument
    · rw [hasFlag_or hvalue, hasFlag_or hargument]
  unfold printStatus
  simp (disch := decide) only [hbit]

lemma printStatus_ne_zero {status : Int} (h : printStatus o = some status) : status ≠ 0 := by
  unfold printStatus at h
  split_ifs at h <;> obtain rfl := Option.some.inj h <;> decide

/-- The next argument is taken, or the index stays. -/
lemma nextArgument_cases {i : Nat} {value : KeywordValue}
    (h : nextArgument flags argv o k = some (i, value)) :
    (i = k.i + 1 ∧ value = .argument (k.i + 1) ∧ k.i + 1 < argv.length ∧ o.takesValue = true) ∨
      (i = k.i ∧ (value = .null ∨ value = k.value)) := by
  unfold nextArgument at h
  dsimp only at h
  split_ifs at h with hspace htake hoptional
  · obtain ⟨rfl, rfl⟩ := Prod.mk.inj (Option.some.inj h)
    exact .inl ⟨rfl, rfl, hspace.2, htake.2⟩
  · obtain ⟨rfl, rfl⟩ := Prod.mk.inj (Option.some.inj h)
    exact .inr ⟨rfl, .inl rfl⟩
  · obtain ⟨rfl, rfl⟩ := Prod.mk.inj (Option.some.inj h)
    exact .inr ⟨rfl, .inr rfl⟩
  · obtain ⟨rfl, rfl⟩ := Prod.mk.inj (Option.some.inj h)
    exact .inr ⟨rfl, .inr rfl⟩

/-- Where the parser gives up at an option. -/
def OptionFails (flags : Nat) (argv : List (List UInt8)) (o : CommandLineArgument)
    (k : KeywordState) : Prop :=
  ∀ i value, nextArgument flags argv o k = some (i, value) →
    value = .null ∧ hasFlag o.flags COMMAND_LINE_VALUE_REQUIRED = true ∨
      hasFlag o.flags COMMAND_LINE_VALUE_FLAG = true ∧
        (hasFlag flags COMMAND_LINE_SEPARATOR_SPACE = false ∨
          hasFlag o.flags COMMAND_LINE_VALUE_REQUIRED = true) ∨
      hasFlag o.flags COMMAND_LINE_VALUE_FLAG = false ∧ o.takesValue = false

/-- What an option with the keyword does. -/
inductive OptionStep (flags : Nat) (argv : List (List UInt8)) (o : CommandLineArgument)
    (k k' : KeywordState) : Option Int → Prop
  /-- The parser gives up. -/
  | fails {status : Int} (hfails : OptionFails flags argv o k) (hstatus : status ≠ 0)
      (hused : k'.used = k.used) :
      OptionStep flags argv o k k' (some status)
  /-- A value is stored. -/
  | stores {i : Nat} {value : KeywordValue} (hnext : nextArgument flags argv o k = some (i, value))
      (hvalue : value ≠ .null) (hflag : hasFlag o.flags COMMAND_LINE_VALUE_FLAG = false)
      (htakes : o.takesValue = true) (hi : k'.i = i) (hvalue' : k'.value = value)
      (hused : k'.used = k.used ++ value.used) : OptionStep flags argv o k k' (printStatus o)
  /-- There is no value. -/
  | constant {i : Nat} (hnext : nextArgument flags argv o k = some (i, .null)) (hi : k'.i = i)
      (hvalue' : k'.value = .null) (hused : k'.used = k.used) :
      OptionStep flags argv o k k' (printStatus o)
  /-- A value is given back. -/
  | returns {i : Nat} {value : KeywordValue} (hnext : nextArgument flags argv o k = some (i, value))
      (hvalue : value ≠ .null) (hspace : hasFlag flags COMMAND_LINE_SEPARATOR_SPACE = true)
      (hflag : hasFlag o.flags COMMAND_LINE_VALUE_FLAG = true)
      (hrequired : hasFlag o.flags COMMAND_LINE_VALUE_REQUIRED = false) (hi : k'.i = i - 1)
      (hvalue' : k'.value = .null) (hused : k'.used = k.used) :
      OptionStep flags argv o k k' (printStatus o)

lemma storeValue_places (flags : Nat) (argv : List (List UInt8)) (keyword : CommandLineKeyword)
    (o : CommandLineArgument) (k : KeywordState) :
    (storeValue flags argv keyword o k).2.1.places = k.places := by
  unfold storeValue
  dsimp only
  split_ifs <;> rfl

lemma parseOption_places (flags : Nat) (argv : List (List UInt8)) (keyword : CommandLineKeyword)
    (o : CommandLineArgument) (k : KeywordState) :
    (parseOption flags argv keyword o k).2.1.places = k.places := by
  unfold parseOption
  dsimp only
  split
  · rfl
  · split_ifs <;> simp only [storeValue_places]

/-- The end of an option without a value. -/
lemma storeValue_null (h : k.value = .null) :
    ∃ status, (storeValue flags argv keyword o k).2 = (k, status) ∧
      ((hasFlag o.flags COMMAND_LINE_VALUE_REQUIRED = true ∧
          status = some COMMAND_LINE_ERROR_MISSING_VALUE) ∨
        (hasFlag o.flags COMMAND_LINE_VALUE_REQUIRED = false ∧ status = printStatus o)) := by
  unfold storeValue
  dsimp only
  by_cases hrequired : hasFlag o.flags COMMAND_LINE_VALUE_REQUIRED = true
  · rw [if_pos ⟨h, hrequired⟩]
    exact ⟨_, rfl, .inl ⟨hrequired, rfl⟩⟩
  · rw [if_neg fun hc => hrequired hc.2, if_neg fun hc => hc h]
    refine ⟨_, rfl, .inr ⟨Bool.eq_false_iff.mpr hrequired, ?_⟩⟩
    split
    · exact printStatus_or (.inr rfl)
    · exact printStatus_or (.inl rfl)

/-- The end of an option with a value. -/
lemma storeValue_value (h : k.value ≠ .null) :
    (o.takesValue = false ∧ (storeValue flags argv keyword o k).2 =
        (k, some COMMAND_LINE_ERROR_UNEXPECTED_VALUE)) ∨
      (o.takesValue = true ∧ (storeValue flags argv keyword o k).2 =
        ({ k with used := k.used ++ k.value.used }, printStatus o)) := by
  unfold storeValue
  dsimp only
  rw [if_neg fun hc => h hc.1, if_pos h]
  have htakes : CommandLineArgument.takesValue
      { o with flags := o.flags ||| COMMAND_LINE_ARGUMENT_PRESENT } = o.takesValue :=
    hasFlag_or (by decide)
  rw [htakes]
  cases hcase : o.takesValue with
  | false => exact .inl ⟨rfl, rfl⟩
  | true => exact .inr ⟨rfl, congrArg (Prod.mk _) (printStatus_or (.inr rfl))⟩

lemma parseOption_step (flags : Nat) (argv : List (List UInt8)) (keyword : CommandLineKeyword)
    (o : CommandLineArgument) (k : KeywordState) :
    OptionStep flags argv o k (parseOption flags argv keyword o k).2.1
      (parseOption flags argv keyword o k).2.2 := by
  have hindex : ∀ (found : Bool), nextArgument flags argv { o with index := k.i }
      { k with found := found } = nextArgument flags argv o k := fun _ => rfl
  unfold parseOption
  dsimp only
  rw [hindex]
  rcases hnext : nextArgument flags argv o k with _ | ⟨i, value⟩
  · exact .fails (fun i value h => nomatch hnext.symm.trans h) (by decide) rfl
  have hfails : (value = .null ∧ hasFlag o.flags COMMAND_LINE_VALUE_REQUIRED = true ∨
      hasFlag o.flags COMMAND_LINE_VALUE_FLAG = true ∧
        (hasFlag flags COMMAND_LINE_SEPARATOR_SPACE = false ∨
          hasFlag o.flags COMMAND_LINE_VALUE_REQUIRED = true) ∨
      hasFlag o.flags COMMAND_LINE_VALUE_FLAG = false ∧ o.takesValue = false) →
      OptionFails flags argv o k := by
    intro h i' value' h'
    rw [hnext] at h'
    obtain ⟨rfl, rfl⟩ := Prod.mk.inj (Option.some.inj h')
    exact h
  dsimp only
  by_cases hvalue : value = .null
  · subst hvalue
    rw [if_neg fun hc => hc.1 rfl]
    obtain ⟨status, hstore, hcases⟩ := @storeValue_null flags argv keyword { o with index := k.i }
      { k with found := true, i := i, value := .null } rfl
    rw [hstore]
    rcases hcases with ⟨hrequired, rfl⟩ | ⟨-, rfl⟩
    · exact .fails (hfails (.inl ⟨rfl, hrequired⟩)) (by decide) rfl
    · exact .constant hnext rfl rfl rfl
  cases hflag : hasFlag o.flags COMMAND_LINE_VALUE_FLAG with
  | false =>
    rw [if_neg fun hc => Bool.false_ne_true hc.2]
    rcases @storeValue_value flags argv keyword { o with index := k.i }
      { k with found := true, i := i, value := value } hvalue
      with ⟨htakes, hstore⟩ | ⟨htakes, hstore⟩ <;> rw [hstore]
    · exact .fails (hfails (.inr (.inr ⟨hflag, htakes⟩))) (by decide) rfl
    · exact .stores hnext hvalue hflag htakes rfl rfl rfl
  | true =>
    rw [if_pos ⟨hvalue, rfl⟩]
    cases hspace : hasFlag flags COMMAND_LINE_SEPARATOR_SPACE with
    | false => exact .fails (hfails (.inr (.inl ⟨hflag, .inl hspace⟩))) (by decide) rfl
    | true =>
      rw [if_pos rfl]
      obtain ⟨status, hstore, hcases⟩ := @storeValue_null flags argv keyword
        { o with index := k.i } { k with found := true, i := i - 1, value := .null } rfl
      rw [hstore]
      rcases hcases with ⟨hrequired, rfl⟩ | ⟨hrequired, rfl⟩
      · exact .fails (hfails (.inr (.inl ⟨hflag, .inr hrequired⟩))) (by decide) rfl
      · exact .returns hnext hvalue hspace hflag hrequired rfl rfl rfl

/-! ### Taking a value again -/

/-- An option gives back a value that it has not taken itself, and the parser goes on; or it stores a
value that an earlier option took. -/
def TakesAgain (flags : Nat) (argv : List (List UInt8)) (o : CommandLineArgument)
    (k : KeywordState) : Prop :=
  ∃ value, nextArgument flags argv o k = some (k.i, value) ∧ value ≠ .null ∧
    (hasFlag flags COMMAND_LINE_SEPARATOR_SPACE = true ∧
        hasFlag o.flags COMMAND_LINE_VALUE_FLAG = true ∧
        hasFlag o.flags COMMAND_LINE_VALUE_REQUIRED = false ∧ printStatus o = none ∨
      hasFlag o.flags COMMAND_LINE_VALUE_FLAG = false ∧ o.takesValue = true ∧ value.used ≠ [])

/-- No option with the keyword that the parser comes to takes a value again. -/
def NeverTakesAgain (flags : Nat) (argv : List (List UInt8)) (keyword : CommandLineKeyword) :
    List CommandLineArgument → KeywordState → Prop
  | [], _ => True
  | o :: options, k =>
    if o.Matches keyword.keyword then
      ¬TakesAgain flags argv o k ∧
        match parseOption flags argv keyword o k with
        | (_, _, some _) => True
        | (_, k, none) =>
          NeverTakesAgain flags argv keyword options { k with places := k.places ++ [k.i] }
    else NeverTakesAgain flags argv keyword options k

/-- In a round no value is taken again. -/
def RoundNeverTakesAgain (flags : Nat) (argv : List (List UInt8)) (s : CommandLineState) : Prop :=
  s.i < argv.length → ∀ n, commandLineSigil flags (argv.getD s.i []) = .escaped n →
    n < (argv.getD s.i []).length →
      let keyword := commandLineKeyword flags (argv.getD s.i []) n
      NeverTakesAgain flags argv keyword s.options (s.keywordState keyword)

/-- No argument is used twice, and the index does not go back. -/
structure Orderly (used places : List Nat) : Prop where
  nodup : used.Nodup
  sorted : places.Pairwise (· ≤ ·)

lemma Orderly.of_append {used places l l' : List Nat} (h : Orderly (used ++ l) (places ++ l')) :
    Orderly used places :=
  ⟨(List.nodup_append.mp h.nodup).1, (List.pairwise_append.mp h.sorted).1⟩

/-! ### The loop over the options -/

/-- The arguments up to the index have been used, each once. -/
structure KeywordState.Fine (argv : List (List UInt8)) (k : KeywordState) : Prop where
  pos : 1 ≤ k.i
  lt : k.i < argv.length
  used : k.used = List.range' 1 k.i
  sorted : k.places.Pairwise (· ≤ ·)
  le : ∀ p ∈ k.places, p ≤ k.i
  mem : k.i ∈ k.places
  value : ∀ i ∈ k.value.used, i ∈ k.used

lemma KeywordState.Fine.orderly (h : k.Fine argv) : Orderly k.used k.places :=
  ⟨h.used ▸ List.nodup_range', h.sorted⟩

/-- The index is put down. -/
def KeywordState.mark (k : KeywordState) : KeywordState := { k with places := k.places ++ [k.i] }

lemma KeywordState.Fine.mark (h : k.Fine argv) (hlt : k'.i < argv.length) (hle : k.i ≤ k'.i)
    (hused : k'.used = List.range' 1 k'.i) (hplaces : k'.places = k.places)
    (hvalue : ∀ i ∈ k'.value.used, i ∈ k'.used) : k'.mark.Fine argv := by
  have hmax : ∀ p ∈ k'.places, p ≤ k'.i := fun p hp => (h.le p (hplaces ▸ hp)).trans hle
  refine ⟨h.pos.trans hle, hlt, hused, ?_, ?_, List.mem_append_right _ List.mem_cons_self, hvalue⟩
  · refine List.pairwise_append.mpr ⟨hplaces ▸ h.sorted, List.pairwise_singleton _ _, ?_⟩
    intro p hp q hq
    obtain rfl := List.mem_singleton.mp hq
    exact hmax p hp
  · intro p hp
    rcases List.mem_append.mp hp with hp | hp
    · exact hmax p hp
    · exact (List.mem_singleton.mp hp).le

lemma range'_succ_end (n : Nat) : List.range' 1 (n + 1) = List.range' 1 n ++ [n + 1] := by
  rw [List.range'_concat, Nat.one_mul, Nat.add_comm 1 n]

lemma KeywordState.Fine.step {status : Option Int} (h : k.Fine argv)
    (hstep : OptionStep flags argv o k k' status) (hplaces : k'.places = k.places)
    (hnot : ¬TakesAgain flags argv o k) :
    Orderly k'.used k'.places ∧ (∀ st, status = some st → st ≠ 0) ∧
      (status = none → k'.mark.Fine argv ∧ k.i ≤ k'.i) := by
  cases hstep with
  | fails hfails hstatus hused =>
    rw [hused, hplaces]
    exact ⟨h.orderly, fun st hst => Option.some.inj hst ▸ hstatus, fun hnone => nomatch hnone⟩
  | @stores i value hnext hvalue hflag htakes hi hvalue' hused =>
    rcases nextArgument_cases hnext with ⟨rfl, rfl, hlt, -⟩ | ⟨rfl, hkept⟩
    · -- the value is the next argument
      have hused' : k'.used = List.range' 1 (k.i + 1) := by
        rw [hused, h.used, range'_succ_end]
        rfl
      refine ⟨⟨hused' ▸ List.nodup_range', hplaces ▸ h.sorted⟩, fun _ => printStatus_ne_zero,
        fun _ => ⟨h.mark (hi ▸ hlt) (by omega) (hi ▸ hused') hplaces ?_, by omega⟩⟩
      intro j hj
      rw [hvalue'] at hj
      obtain rfl := List.mem_singleton.mp hj
      rw [hused']
      exact List.mem_range'_1.mpr ⟨by omega, by omega⟩
    · -- the value is from the argument itself
      have hnone : value.used = [] := by
        by_contra hne
        exact hnot ⟨value, hnext, hvalue, .inr ⟨hflag, htakes, hne⟩⟩
      rw [hnone, List.append_nil] at hused
      refine ⟨hused ▸ hplaces ▸ h.orderly, fun _ => printStatus_ne_zero,
        fun _ => ⟨h.mark (hi ▸ h.lt) hi.ge (by rw [hused, hi, h.used]) hplaces ?_, hi.ge⟩⟩
      intro j hj
      rw [hvalue', hnone] at hj
      cases hj
  | @constant i hnext hi hvalue' hused =>
    rcases nextArgument_cases hnext with ⟨-, hvalue, -⟩ | ⟨rfl, -⟩
    · cases hvalue
    · refine ⟨hused ▸ hplaces ▸ h.orderly, fun _ => printStatus_ne_zero,
        fun _ => ⟨h.mark (hi ▸ h.lt) hi.ge (by rw [hused, hi, h.used]) hplaces ?_, hi.ge⟩⟩
      intro j hj
      rw [hvalue'] at hj
      cases hj
  | @returns i value hnext hvalue hspace hflag hrequired hi hvalue' hused =>
    refine ⟨hused ▸ hplaces ▸ h.orderly, fun _ => printStatus_ne_zero, fun hprint => ?_⟩
    rcases nextArgument_cases hnext with ⟨rfl, -, -⟩ | ⟨rfl, -⟩
    · -- the option gives back what it has taken
      refine ⟨h.mark (hi ▸ h.lt) hi.ge (by rw [hused, hi, h.used, Nat.add_sub_cancel]) hplaces ?_,
        hi.ge⟩
      intro j hj
      rw [hvalue'] at hj
      cases hj
    · exact absurd ⟨value, hnext, hvalue, .inl ⟨hspace, hflag, hrequired, hprint⟩⟩ hnot

/-- An option that takes a value again uses an argument twice, or makes the index go back. -/
lemma KeywordState.Fine.takesAgain {status : Option Int} (h : k.Fine argv)
    (hstep : OptionStep flags argv o k k' status) (hplaces : k'.places = k.places)
    (hagain : TakesAgain flags argv o k) :
    ¬Orderly k'.used k'.places ∨ status = none ∧ ¬Orderly k'.used (k'.places ++ [k'.i]) := by
  obtain ⟨value, hnext, hvalue, hcase⟩ := hagain
  have hunique : ∀ {i' value'}, nextArgument flags argv o k = some (i', value') →
      i' = k.i ∧ value' = value := by
    intro i' value' h'
    rw [hnext] at h'
    obtain ⟨rfl, rfl⟩ := Prod.mk.inj (Option.some.inj h')
    exact ⟨rfl, rfl⟩
  have hpos := h.pos
  cases hstep with
  | fails hfails hstatus hused =>
    exfalso
    rcases hfails _ _ hnext with ⟨hnull, -⟩ | ⟨hflag, hreason⟩ | ⟨hflag, htakes⟩
    · exact hvalue hnull
    · rcases hcase with ⟨hspace, -, hrequired, -⟩ | ⟨hflag', -, -⟩
      · rcases hreason with hspace' | hrequired'
        · exact Bool.false_ne_true (hspace'.symm.trans hspace)
        · exact Bool.false_ne_true (hrequired.symm.trans hrequired')
      · exact Bool.false_ne_true (hflag'.symm.trans hflag)
    · rcases hcase with ⟨-, hflag', -⟩ | ⟨-, htakes', -⟩
      · exact Bool.false_ne_true (hflag.symm.trans hflag')
      · exact Bool.false_ne_true (htakes.symm.trans htakes')
  | stores hnext' hvalue' hflag htakes hi hkept hused =>
    obtain ⟨rfl, rfl⟩ := hunique hnext'
    rcases hcase with ⟨-, hflag', -⟩ | ⟨-, -, hne⟩
    · exact absurd (hflag.symm.trans hflag') Bool.false_ne_true
    · -- the argument has been used before
      left
      intro horderly
      obtain ⟨j, hj⟩ := List.exists_mem_of_ne_nil _ hne
      have hold : j ∈ k.used := by
        rcases nextArgument_cases hnext with ⟨hlt, -⟩ | ⟨-, hnull | hkeep⟩
        · exact absurd hlt (by omega)
        · exact absurd hnull hvalue
        · exact h.value j (hkeep ▸ hj)
      rw [hused] at horderly
      exact (List.nodup_append.mp horderly.nodup).2.2 j hold j hj rfl
  | constant hnext' hi hkept hused => exact absurd (hunique hnext').2.symm hvalue
  | returns hnext' hvalue' hspace hflag hrequired hi hkept hused =>
    obtain ⟨rfl, rfl⟩ := hunique hnext'
    rcases hcase with ⟨-, -, -, hprint⟩ | ⟨hflag', -⟩
    · -- the index has stood higher before
      refine .inr ⟨hprint, fun horderly => ?_⟩
      have hsorted := (List.pairwise_append.mp horderly.sorted).2.2 k.i (hplaces ▸ h.mem) k'.i
        List.mem_cons_self
      omega
    · exact absurd (hflag'.symm.trans hflag) Bool.false_ne_true

lemma KeywordState.Fine.loop (h : k.Fine argv)
    (hnever : NeverTakesAgain flags argv keyword options k) :
    let r := parseOptions flags argv keyword options k
    Orderly r.2.1.used r.2.1.places ∧ (∀ st, r.2.2 = some st → st ≠ 0) ∧
      (r.2.2 = none → r.2.1.Fine argv ∧ k.i ≤ r.2.1.i) := by
  induction options generalizing k with
  | nil =>
    refine ⟨h.orderly, ?_, fun _ => ⟨h, le_rfl⟩⟩
    intro st hst
    cases hst
  | cons o options ih =>
    unfold NeverTakesAgain at hnever
    unfold parseOptions
    by_cases hmatch : o.Matches keyword.keyword
    · rw [if_pos hmatch] at hnever ⊢
      obtain ⟨hnot, hrest⟩ := hnever
      have hstep := h.step (parseOption_step flags argv keyword o k)
        (parseOption_places flags argv keyword o k) hnot
      rcases hparse : parseOption flags argv keyword o k with ⟨o', k', _ | status⟩ <;>
        rw [hparse] at hstep hrest
      · obtain ⟨hfine, hle⟩ := hstep.2.2 rfl
        obtain ⟨horderly, hstatus, hnext⟩ := ih hfine hrest
        exact ⟨horderly, hstatus, fun hnone => ⟨(hnext hnone).1, hle.trans (hnext hnone).2⟩⟩
      · exact ⟨hstep.1, hstep.2.1, fun hnone => nomatch hnone⟩
    · rw [if_neg hmatch] at hnever ⊢
      exact ih h hnever

/-- The records only grow. -/
lemma parseOptions_extends (flags : Nat) (argv : List (List UInt8)) (keyword : CommandLineKeyword)
    (options : List CommandLineArgument) (k : KeywordState) :
    ∃ l l', (parseOptions flags argv keyword options k).2.1.used = k.used ++ l ∧
      (parseOptions flags argv keyword options k).2.1.places = k.places ++ l' := by
  induction options generalizing k with
  | nil => exact ⟨[], [], (List.append_nil _).symm, (List.append_nil _).symm⟩
  | cons o options ih =>
    unfold parseOptions
    by_cases hmatch : o.Matches keyword.keyword
    · rw [if_pos hmatch]
      have hplaces := parseOption_places flags argv keyword o k
      have hused : ∃ l, (parseOption flags argv keyword o k).2.1.used = k.used ++ l := by
        have hstep := parseOption_step flags argv keyword o k
        generalize (parseOption flags argv keyword o k).2.2 = status at hstep
        cases hstep with
        | fails hfails hstatus hused => exact ⟨[], hused.trans (List.append_nil _).symm⟩
        | stores hnext hvalue hflag htakes hi hkept hused => exact ⟨_, hused⟩
        | constant hnext hi hkept hused => exact ⟨[], hused.trans (List.append_nil _).symm⟩
        | returns hnext hvalue hspace hflag hrequired hi hkept hused =>
          exact ⟨[], hused.trans (List.append_nil _).symm⟩
      rcases hparse : parseOption flags argv keyword o k with ⟨o', k', _ | status⟩ <;>
        rw [hparse] at hused hplaces <;> obtain ⟨l, hl⟩ := hused
      · obtain ⟨m, m', hm, hm'⟩ := ih k'.mark
        refine ⟨l ++ m, [k'.i] ++ m', hm.trans ?_, hm'.trans ?_⟩
        · rw [KeywordState.mark, hl, List.append_assoc]
        · rw [KeywordState.mark, hplaces, List.append_assoc]
      · exact ⟨l, [], hl, hplaces.trans (List.append_nil _).symm⟩
    · rw [if_neg hmatch]
      exact ih k

lemma KeywordState.Fine.loop_lost (h : k.Fine argv)
    (hagain : ¬NeverTakesAgain flags argv keyword options k) :
    ¬Orderly (parseOptions flags argv keyword options k).2.1.used
      (parseOptions flags argv keyword options k).2.1.places := by
  induction options generalizing k with
  | nil => exact absurd trivial hagain
  | cons o options ih =>
    unfold NeverTakesAgain at hagain
    unfold parseOptions
    by_cases hmatch : o.Matches keyword.keyword
    · rw [if_pos hmatch] at hagain ⊢
      have hplaces := parseOption_places flags argv keyword o k
      have hstep := parseOption_step flags argv keyword o k
      by_cases htakes : TakesAgain flags argv o k
      · have hlost := h.takesAgain hstep hplaces htakes
        rcases hparse : parseOption flags argv keyword o k with ⟨o', k', _ | status⟩ <;>
          rw [hparse] at hlost
        · obtain ⟨l, l', hl, hl'⟩ := parseOptions_extends flags argv keyword options k'.mark
          intro horderly
          have happend : Orderly (k'.mark.used ++ l) (k'.mark.places ++ l') := by
            rw [← hl, ← hl']
            exact horderly
          have hmark : Orderly k'.mark.used k'.mark.places := Orderly.of_append happend
          rcases hlost with hlost | ⟨-, hlost⟩
          · exact hlost (Orderly.of_append (l := []) ((List.append_nil k'.used).symm ▸ hmark))
          · exact hlost hmark
        · rcases hlost with hlost | ⟨hnone, -⟩
          · exact hlost
          · cases hnone
      · have hfine := h.step hstep hplaces htakes
        rcases hparse : parseOption flags argv keyword o k with ⟨o', k', _ | status⟩ <;>
          rw [hparse] at hfine hagain
        · exact ih (hfine.2.2 rfl).1 fun hnever => hagain ⟨htakes, hnever⟩
        · exact absurd ⟨htakes, trivial⟩ hagain
    · rw [if_neg hmatch] at hagain ⊢
      exact ih h hagain

/-! ### The loop over the arguments -/

/-- The arguments in front of the index have been used, each once. -/
structure CommandLineState.Fine (argv : List (List UInt8)) (s : CommandLineState) : Prop where
  pos : 1 ≤ s.i
  le_length : s.i ≤ max 1 argv.length
  used : s.used = List.range' 1 (s.i - 1)
  sorted : s.places.Pairwise (· ≤ ·)
  le : ∀ p ∈ s.places, p ≤ s.i

/-- The argument of a round is used. -/
lemma CommandLineState.Fine.keywordState (h : s.Fine argv) (hlt : s.i < argv.length)
    (keyword : CommandLineKeyword) : (s.keywordState keyword).Fine argv := by
  have hpos := h.pos
  refine ⟨h.pos, hlt, ?_, ?_, ?_, List.mem_append_right _ List.mem_cons_self, ?_⟩
  · show s.used ++ [s.i] = _
    obtain ⟨n, hn⟩ : ∃ n, s.i = n + 1 := ⟨s.i - 1, by omega⟩
    rw [h.used, hn, Nat.add_sub_cancel, ← range'_succ_end, ← hn]
    rfl
  · refine List.pairwise_append.mpr ⟨h.sorted, List.pairwise_singleton _ _, ?_⟩
    intro p hp q hq
    obtain rfl := List.mem_singleton.mp hq
    exact h.le p hp
  · intro p hp
    rcases List.mem_append.mp hp with hp | hp
    · exact h.le p hp
    · exact (List.mem_singleton.mp hp).le
  · have hnone : (s.keywordState keyword).value.used = [] := by
      unfold CommandLineState.keywordState
      cases keyword.value <;> rfl
    intro j hj
    rw [hnone] at hj
    cases hj

/-- The round of an argument that is used goes on behind it. -/
lemma KeywordState.Fine.behind (h : k.Fine argv)
    (hs : s.used = k.used ∧ s.places = k.places ∧ s.i = k.i) : s.step.Fine argv := by
  obtain ⟨hused, hplaces, hi⟩ := hs
  have hlt := h.lt
  refine ⟨Nat.le_add_left 1 s.i, ?_, ?_, hplaces ▸ h.sorted, fun p hp => ?_⟩
  · show s.i + 1 ≤ _
    omega
  · show s.used = List.range' 1 (s.i + 1 - 1)
    rw [hused, h.used, hi, Nat.add_sub_cancel]
  · have hp' := h.le p (hplaces ▸ hp)
    show p ≤ s.i + 1
    omega

/-- A state with the argument at the index used. -/
def CommandLineState.Uses (s s' : CommandLineState) : Prop :=
  s'.i = s.i ∧ s'.used = s.used ++ [s.i] ∧ s'.places = s.places ++ [s.i]

/-- What a round does: the end of the arguments, an argument that is not looked up, or the loop over
the options. -/
lemma commandLineRound_cases (flags : Nat) (argv : List (List UInt8)) (s : CommandLineState) :
    (argv.length ≤ s.i ∧ commandLineRound flags argv s = .done (0, s)) ∨
    (s.i < argv.length ∧ ∃ s', s.Uses s' ∧ (commandLineRound flags argv s = .next s'.step ∨
      ∃ status, status ≠ 0 ∧ commandLineRound flags argv s = .done (status, s')) ∧
      ∀ n, commandLineSigil flags (argv.getD s.i []) = .escaped n →
        (argv.getD s.i []).length ≤ n) ∨
    (s.i < argv.length ∧ ∃ n, commandLineSigil flags (argv.getD s.i []) = .escaped n ∧
      n < (argv.getD s.i []).length ∧
      let keyword := commandLineKeyword flags (argv.getD s.i []) n
      let r := parseOptions flags argv keyword s.options (s.keywordState keyword)
      (∃ status, r.2.2 = some status ∧
          commandLineRound flags argv s = .done (status, s.behind r.1 r.2.1)) ∨
        r.2.2 = none ∧ (commandLineRound flags argv s = .next (s.behind r.1 r.2.1).step ∨
          ∃ status, status ≠ 0 ∧
            commandLineRound flags argv s = .done (status, s.behind r.1 r.2.1))) := by
  have hwithout : ∀ s' : CommandLineState, withoutKeyword flags s' = .next s'.step ∨
      ∃ status, status ≠ 0 ∧ withoutKeyword flags s' = .done (status, s') := by
    intro s'
    unfold withoutKeyword
    split_ifs
    · exact .inl rfl
    · exact .inr ⟨_, by decide, rfl⟩
  unfold commandLineRound
  by_cases hend : argv.length ≤ s.i
  · exact .inl ⟨hend, if_pos hend⟩
  have hlt : s.i < argv.length := Nat.not_le.mp hend
  rw [if_neg hend]
  dsimp only
  rcases hsigil : commandLineSigil flags (argv.getD s.i []) with n | _ | _
  · by_cases hlength : (argv.getD s.i []).length < n + 1
    · simp only [if_pos hlength]
      refine .inr (.inl ⟨hlt, s.useArgument, ⟨rfl, rfl, rfl⟩, hwithout _, fun m hm => ?_⟩)
      obtain rfl := CommandLineSigil.escaped.inj hm
      exact Nat.lt_succ_iff.mp hlength
    · simp only [if_neg hlength]
      refine .inr (.inr ⟨hlt, n, rfl, by omega, ?_⟩)
      set keyword := commandLineKeyword flags (argv.getD s.i []) n
      rcases hparse : parseOptions flags argv keyword s.options (s.keywordState keyword) with
        ⟨options, k, _ | status⟩
      · refine .inr ⟨rfl, ?_⟩
        dsimp only
        split_ifs
        · exact .inl rfl
        · exact hwithout _
      · exact .inl ⟨status, rfl, rfl⟩
  · dsimp only
    by_cases hescaped : s.notescaped = true
    · rw [if_pos hescaped]
      exact .inr (.inl ⟨hlt, s.useArgument, ⟨rfl, rfl, rfl⟩, .inr ⟨_, by decide, rfl⟩,
        fun m hm => nomatch hm⟩)
    · rw [if_neg hescaped]
      refine .inr (.inl ⟨hlt, { s with notescaped := true }.useArgument, ⟨rfl, rfl, rfl⟩, ?_,
        fun m hm => nomatch hm⟩)
      split_ifs
      · exact hwithout _
      · exact .inl rfl
  · exact .inr (.inl ⟨hlt, s.useArgument, ⟨rfl, rfl, rfl⟩, .inr ⟨_, by decide, rfl⟩,
      fun m hm => nomatch hm⟩)

/-- The parser ends in time; the index never goes back; no argument is used twice, and where it
succeeds every argument has been used. -/
def ParsesOnce (flags : Nat) (argv : List (List UInt8)) (options : List CommandLineArgument) : Prop :=
  ∃ status s, commandLineParseArguments flags argv options = some (status, s) ∧
    Orderly s.used s.places ∧
    (status = 0 → ∀ i, 1 ≤ i → i < argv.length → i ∈ s.used)

/-- In no round a value is taken again. -/
def RunNeverTakesAgain (flags : Nat) (argv : List (List UInt8)) (options : List CommandLineArgument) :
    Prop :=
  AlongLoop (commandLineRound flags argv) (RoundNeverTakesAgain flags argv) (argv.length - 1 + 1)
    (commandLineStart options)

lemma CommandLineState.Fine.orderly (h : s.Fine argv) : Orderly s.used s.places :=
  ⟨h.used ▸ List.nodup_range', h.sorted⟩

/-- What a run comes to in which no value is taken again. -/
def EndsOrderly (argv : List (List UInt8)) (r : Int × CommandLineState) : Prop :=
  Orderly r.2.used r.2.places ∧ (r.1 = 0 → ∀ i, 1 ≤ i → i < argv.length → i ∈ r.2.used)

/-- The state of a round in which the argument is used for itself. -/
lemma CommandLineState.Fine.uses {s' : CommandLineState} (h : s.Fine argv) (hlt : s.i < argv.length)
    (huses : s.Uses s') : s'.step.Fine argv ∧ Orderly s'.used s'.places := by
  obtain ⟨hi, hused, hplaces⟩ := huses
  have hk := h.keywordState hlt ⟨0, none, [], none⟩
  refine ⟨hk.behind (s := s') ⟨hused, hplaces, hi⟩, ?_⟩
  rw [hused, hplaces]
  exact hk.orderly

lemma commandLineRound_fine (h : s.Fine argv) (hnever : RoundNeverTakesAgain flags argv s) :
    (commandLineRound flags argv s).Ends
      (fun s' => s'.Fine argv ∧ argv.length - s'.i < argv.length - s.i) (EndsOrderly argv) := by
  rcases commandLineRound_cases flags argv s with ⟨hend, hround⟩ | ⟨hlt, s', huses, hround, -⟩ |
    ⟨hlt, n, hsigil, hn, hround⟩
  · rw [hround]
    refine ⟨h.orderly, fun _ i hi hlt => ?_⟩
    show i ∈ s.used
    rw [h.used]
    exact List.mem_range'_1.mpr ⟨hi, by omega⟩
  · obtain ⟨hfine, horderly⟩ := h.uses hlt huses
    rcases hround with hround | ⟨status, hstatus, hround⟩ <;> rw [hround]
    · refine ⟨hfine, ?_⟩
      show argv.length - (s'.i + 1) < _
      rw [huses.1]
      omega
    · exact ⟨horderly, fun hzero => absurd hzero hstatus⟩
  · obtain ⟨horderly, hstatus, hnext⟩ :=
      (h.keywordState hlt _).loop (hnever hlt n hsigil hn)
    rcases hround with ⟨status, hdone, hround⟩ | ⟨hnone, hround | ⟨status, hne, hround⟩⟩ <;>
      rw [hround]
    · exact ⟨horderly, fun hzero => absurd hzero (hstatus status hdone)⟩
    · obtain ⟨hfine, hle⟩ := hnext hnone
      refine ⟨hfine.behind (s := s.behind _ _) ⟨rfl, rfl, rfl⟩, ?_⟩
      exact Nat.sub_lt_sub_left hlt (Nat.lt_succ_of_le hle)
    · exact ⟨horderly, fun hzero => absurd hzero hne⟩

/-- The records of a state have lost their order. -/
def CommandLineState.Lost (s : CommandLineState) : Prop := ¬Orderly s.used s.places

lemma commandLineRound_lost (h : s.Lost) :
    (commandLineRound flags argv s).Ends CommandLineState.Lost fun r => r.2.Lost := by
  have hgrow : ∀ {s' : CommandLineState}, (∃ l l', s'.used = s.used ++ l ∧
      s'.places = s.places ++ l') → s'.Lost := by
    rintro s' ⟨l, l', hl, hl'⟩ horderly
    rw [hl, hl'] at horderly
    exact h horderly.of_append
  rcases commandLineRound_cases flags argv s with ⟨-, hround⟩ | ⟨-, s', huses, hround, -⟩ |
    ⟨-, n, -, -, hround⟩
  · rw [hround]
    exact h
  · have hlost := hgrow ⟨_, _, huses.2⟩
    rcases hround with hround | ⟨status, -, hround⟩ <;> rw [hround] <;> exact hlost
  · set keyword := commandLineKeyword flags (argv.getD s.i []) n
    obtain ⟨l, l', hl, hl'⟩ := parseOptions_extends flags argv keyword s.options
      (s.keywordState keyword)
    have hlost : (s.behind
        (parseOptions flags argv keyword s.options (s.keywordState keyword)).1
        (parseOptions flags argv keyword s.options (s.keywordState keyword)).2.1).Lost :=
      hgrow ⟨[s.i] ++ l, [s.i] ++ l', hl.trans (List.append_assoc _ _ _),
        hl'.trans (List.append_assoc _ _ _)⟩
    rcases hround with ⟨status, -, hround⟩ | ⟨-, hround | ⟨status, -, hround⟩⟩ <;>
      rw [hround] <;> exact hlost

lemma commandLineRound_loses (h : s.Fine argv) (hagain : ¬RoundNeverTakesAgain flags argv s) :
    (commandLineRound flags argv s).Ends CommandLineState.Lost fun r => r.2.Lost := by
  unfold RoundNeverTakesAgain at hagain
  push Not at hagain
  obtain ⟨hlt, n, hsigil, hn, hagain⟩ := hagain
  rcases commandLineRound_cases flags argv s with ⟨hend, -⟩ | ⟨-, s', -, -, hshort⟩ |
    ⟨-, m, hsigil', -, hround⟩
  · omega
  · exact absurd (hshort n hsigil) (Nat.not_le.mpr hn)
  · obtain rfl := CommandLineSigil.escaped.inj (hsigil.symm.trans hsigil')
    have hlost := (h.keywordState hlt _).loop_lost hagain
    rcases hround with ⟨status, -, hround⟩ | ⟨-, hround | ⟨status, -, hround⟩⟩ <;>
      rw [hround] <;> exact hlost

lemma commandLineStart_fine (argv : List (List UInt8)) (options : List CommandLineArgument) :
    (commandLineStart options).Fine argv :=
  ⟨le_rfl, le_max_left _ _, rfl, List.Pairwise.nil, fun _ hp => nomatch hp⟩

/-- The parser ends after a round for each argument at most, and uses every argument once, exactly if
no option takes a value again: gives back one that it has not taken, or stores one that an earlier
option took. -/
theorem parsesOnce_iff (flags : Nat) (argv : List (List UInt8)) (options : List CommandLineArgument) :
    ParsesOnce flags argv options ↔ RunNeverTakesAgain flags argv options := by
  have hstart := commandLineStart_fine argv options
  by_cases hone : argv.length = 1
  · refine ⟨fun _ => ?_, fun _ => ⟨_, _, if_pos hone, hstart.orderly, fun _ i hi hlt => ?_⟩⟩
    · rw [RunNeverTakesAgain, hone]
      refine ⟨fun hlt => absurd hlt (by rw [hone]; exact Nat.lt_irrefl 1), ?_⟩
      split <;> trivial
    · omega
  constructor
  · rintro ⟨status, s, hrun, horderly, -⟩
    rw [commandLineParseArguments, if_neg hone] at hrun
    by_contra hagain
    have hround : ∀ s : CommandLineState, s.Fine argv → RoundNeverTakesAgain flags argv s →
        (commandLineRound flags argv s).Ends (fun s => s.Fine argv) fun _ => True := by
      intro s hs hP
      have hends := commandLineRound_fine hs hP
      cases hround : commandLineRound flags argv s with
      | next s' =>
        rw [hround] at hends
        exact hends.1
      | done r => trivial
    have hlose : ∀ s : CommandLineState, s.Fine argv → ¬RoundNeverTakesAgain flags argv s →
        (commandLineRound flags argv s).Ends CommandLineState.Lost fun r => r.2.Lost :=
      fun s => commandLineRound_loses
    have hlost := loop_lost hround hlose (fun s => commandLineRound_lost) hstart hagain hrun
    exact hlost horderly
  · intro hnever
    obtain ⟨r, hr, hends⟩ := loop_spec (fun s : CommandLineState => argv.length - s.i)
      (fun s hs hP => commandLineRound_fine hs hP) hstart hnever (Nat.lt_succ_self _)
    exact ⟨r.1, r.2, by rw [commandLineParseArguments, if_neg hone, hr], hends⟩

/-- `/f:x` with a flag `f`: where spaces and colons separate values, the parser stays at it. -/
theorem not_parsesOnce_flag : ¬ParsesOnce
    (COMMAND_LINE_SIGIL_SLASH ||| COMMAND_LINE_SEPARATOR_COLON ||| COMMAND_LINE_SEPARATOR_SPACE)
    [[0x70], [0x2F, 0x66, 0x3A, 0x78]] [⟨[0x66], COMMAND_LINE_VALUE_FLAG, .null, none, 0⟩] := by
  have hnone : (commandLineParseArguments
      (COMMAND_LINE_SIGIL_SLASH ||| COMMAND_LINE_SEPARATOR_COLON ||| COMMAND_LINE_SEPARATOR_SPACE)
      [[0x70], [0x2F, 0x66, 0x3A, 0x78]]
      [⟨[0x66], COMMAND_LINE_VALUE_FLAG, .null, none, 0⟩]).isNone = true := by decide
  rintro ⟨status, s, hrun, -⟩
  rw [hrun] at hnone
  exact Bool.false_ne_true hnone

end FreeRdp
