import Mathlib.Tactic

/-!
# Runs of a state machine

A run takes the steps of a list one after another. What is asked of a step may depend on the state
it is taken in, so it is a condition on the whole run; an invariant of the steps that meet it holds
after the run.
-/

namespace FreeRdp

variable {σ α τ β : Type*} {step : σ → α → σ}

/-- Every step of a run meets `P` in the state before it. -/
def AlongRun (step : σ → α → σ) (P : σ → α → Prop) : σ → List α → Prop
  | _, [] => True
  | s, a :: as => P s a ∧ AlongRun step P (step s a) as

instance decidableAlongRun {P : σ → α → Prop} [∀ s a, Decidable (P s a)] :
    (s : σ) → (as : List α) → Decidable (AlongRun step P s as)
  | _, [] => isTrue trivial
  | s, a :: as => @instDecidableAnd _ _ inferInstance (decidableAlongRun (step s a) as)

lemma AlongRun.foldl {P : σ → α → Prop} {Inv : σ → Prop}
    (hstep : ∀ s a, Inv s → P s a → Inv (step s a)) {s : σ} {as : List α} (hs : Inv s)
    (h : AlongRun step P s as) : Inv (as.foldl step s) := by
  induction as generalizing s with
  | nil => exact hs
  | cons a as ih => exact ih (hstep s a hs h.1) h.2

/-- What every step does that meets `P` in a state with the invariant, every step of the run does. -/
lemma AlongRun.imp {P Q : σ → α → Prop} {Inv : σ → Prop}
    (hstep : ∀ s a, Inv s → P s a → Q s a ∧ Inv (step s a)) {s : σ} {as : List α} (hs : Inv s)
    (h : AlongRun step P s as) : AlongRun step Q s as := by
  induction as generalizing s with
  | nil => trivial
  | cons a as ih => exact ⟨(hstep s a hs h.1).1, ih (hstep s a hs h.1).2 h.2⟩

/-- What every step does in a state with the invariant, every step of every run does. -/
lemma alongRun_of_invariant {Q : σ → α → Prop} {Inv : σ → Prop}
    (hstep : ∀ s a, Inv s → Q s a ∧ Inv (step s a)) {s : σ} (hs : Inv s) (as : List α) :
    AlongRun step Q s as := by
  induction as generalizing s with
  | nil => trivial
  | cons a as ih => exact ⟨(hstep s a hs).1, ih (hstep s a hs).2⟩

/-- Two conditions that agree in the states with an invariant agree on the runs whose steps all meet
a third one, when the steps that meet the first keep the invariant. -/
lemma AlongRun.iff_of_invariant {F P Q : σ → α → Prop} {Inv : σ → Prop}
    (hiff : ∀ s a, Inv s → F s a → (P s a ↔ Q s a))
    (hstep : ∀ s a, Inv s → F s a → P s a → Inv (step s a)) {s : σ} {as : List α} (hs : Inv s)
    (h : AlongRun step F s as) : AlongRun step P s as ↔ AlongRun step Q s as := by
  induction as generalizing s with
  | nil => exact Iff.rfl
  | cons a as ih =>
    rw [AlongRun, AlongRun, ← hiff s a hs h.1]
    exact and_congr_right fun hP => ih (hstep s a hs h.1 hP) h.2

/-- What the steps of a run show, in their order. -/
def shownAlong (step : σ → α → σ) (shows : σ → α → List β) : σ → List α → List β
  | _, [] => []
  | s, a :: as => shows s a ++ shownAlong step shows (step s a) as

/-- A machine that takes what a step shows as its own steps stays related to the first one over
whole runs if it does so over single steps. -/
lemma AlongRun.simulates {P : σ → α → Prop} {R : σ → τ → Prop} {shows : σ → α → List β}
    {step' : τ → β → τ}
    (hstep : ∀ s t a, R s t → P s a → R (step s a) ((shows s a).foldl step' t)) {s : σ} {t : τ}
    {as : List α} (hs : R s t) (h : AlongRun step P s as) :
    R (as.foldl step s) ((shownAlong step shows s as).foldl step' t) := by
  induction as generalizing s t with
  | nil => exact hs
  | cons a as ih =>
    rw [shownAlong, List.foldl_append]
    exact ih (hstep s t a hs h.1) h.2

/-! ### Runs of many parts -/

section Families

variable {ι ν π : Type*} [DecidableEq ι] {act : ν → π → ν}

/-- A step of one of many machines, the one that is named. -/
def familyStep (act : ν → π → ν) (s : ι → ν) (p : ι × π) : ι → ν :=
  Function.update s p.1 (act (s p.1) p.2)

/-- The steps of one machine, in their order. -/
def partOf (i : ι) (ps : List (ι × π)) : List π :=
  ps.filterMap fun p => if p.1 = i then some p.2 else none

lemma partOf_cons_self (i : ι) (p : π) (ps : List (ι × π)) :
    partOf i ((i, p) :: ps) = p :: partOf i ps := by simp [partOf]

lemma partOf_cons_ne {i j : ι} (h : j ≠ i) (p : π) (ps : List (ι × π)) :
    partOf i ((j, p) :: ps) = partOf i ps := by simp [partOf, h]

lemma partOf_append (i : ι) (ps qs : List (ι × π)) :
    partOf i (ps ++ qs) = partOf i ps ++ partOf i qs := List.filterMap_append

/-- The steps of a single machine. -/
lemma partOf_map_mk (i j : ι) (xs : List π) :
    partOf i (xs.map (Prod.mk j)) = if j = i then xs else [] := by
  split_ifs with h <;> simp [partOf, List.filterMap_map, h]

/-- However the steps of the machines are mixed, each one comes to where its own steps lead. -/
lemma foldl_familyStep (s : ι → ν) (ps : List (ι × π)) (i : ι) :
    ps.foldl (familyStep act) s i = (partOf i ps).foldl act (s i) := by
  induction ps generalizing s with
  | nil => rfl
  | cons p ps ih =>
    obtain ⟨j, p⟩ := p
    rw [List.foldl_cons, ih]
    rcases eq_or_ne j i with rfl | hne
    · rw [partOf_cons_self, List.foldl_cons, familyStep, Function.update_self]
    · rw [partOf_cons_ne hne, familyStep, Function.update_of_ne hne.symm]

/-- What each machine's own steps meet along its own run, all steps meet along the mixed run. -/
lemma alongRun_familyStep {Q : ν → π → Prop} {s : ι → ν} {ps : List (ι × π)}
    (h : ∀ i, AlongRun act Q (s i) (partOf i ps)) :
    AlongRun (familyStep act) (fun s p => Q (s p.1) p.2) s ps := by
  induction ps generalizing s with
  | nil => trivial
  | cons p ps ih =>
    obtain ⟨j, p⟩ := p
    have hj := h j
    rw [partOf_cons_self] at hj
    refine ⟨hj.1, ih fun i => ?_⟩
    have hi := h i
    rcases eq_or_ne j i with rfl | hne
    · rw [familyStep, Function.update_self]
      exact hj.2
    · rw [partOf_cons_ne hne] at hi
      rw [familyStep, Function.update_of_ne hne.symm]
      exact hi

/-- A mixed list whose parts are images comes from a mixed list with the preimages as its parts. -/
lemma exists_partOf_eq {f : ι → π → β} {ys : List (ι × β)} {parts : ι → List π}
    (h : ∀ i, partOf i ys = (parts i).map (f i)) :
    ∃ ps, ys = ps.map (fun p => (p.1, f p.1 p.2)) ∧ ∀ i, partOf i ps = parts i := by
  induction ys generalizing parts with
  | nil =>
    refine ⟨[], rfl, fun i => ?_⟩
    exact (List.map_eq_nil_iff.mp (h i).symm).symm
  | cons y ys ih =>
    obtain ⟨j, y⟩ := y
    have hj := h j
    rw [partOf_cons_self] at hj
    obtain ⟨x, xs, hparts, rfl, hxs⟩ := List.map_eq_cons_iff.mp hj.symm
    have hrest : ∀ i, partOf i ys = (Function.update parts j xs i).map (f i) := by
      intro i
      rcases eq_or_ne j i with rfl | hne
      · rw [Function.update_self, hxs]
      · rw [Function.update_of_ne hne.symm, ← h i, partOf_cons_ne hne]
    obtain ⟨ps, hps, hpart⟩ := ih hrest
    refine ⟨(j, x) :: ps, by rw [hps]; rfl, fun i => ?_⟩
    rcases eq_or_ne j i with rfl | hne
    · rw [partOf_cons_self, hpart, Function.update_self, hparts]
    · rw [partOf_cons_ne hne, hpart, Function.update_of_ne hne.symm]

lemma mem_partOf {i : ι} {x : π} {ps : List (ι × π)} (h : (i, x) ∈ ps) : x ∈ partOf i ps := by
  rw [partOf, List.mem_filterMap]
  exact ⟨(i, x), h, if_pos rfl⟩

end Families

lemma AlongRun.append {P : σ → α → Prop} {s : σ} {as bs : List α} (h : AlongRun step P s as)
    (h' : AlongRun step P (as.foldl step s) bs) : AlongRun step P s (as ++ bs) := by
  induction as generalizing s with
  | nil => exact h'
  | cons a as ih => exact ⟨h.1, ih h.2 h'⟩

end FreeRdp
