import Mathlib.Tactic

/-!
# Loops

A loop is a function for one round, which says how the loop goes on or with which result it ends.
`loop` runs it for a number of rounds. A loop with an invariant, whose measure becomes smaller in
every round, ends.
-/

namespace FreeRdp

variable {σ ρ : Type*}

/-- What one round of a loop comes to. -/
inductive Round (σ ρ : Type*) where
  | next (s : σ)
  | done (r : ρ)

/-- How a round ends. -/
def Round.Ends (Next : σ → Prop) (Done : ρ → Prop) : Round σ ρ → Prop
  | .next s => Next s
  | .done r => Done r

/-- The result of a loop, when it has one after at most `fuel` rounds. -/
def loop (round : σ → Round σ ρ) : Nat → σ → Option ρ
  | 0, _ => none
  | fuel + 1, s =>
    match round s with
    | .next s => loop round fuel s
    | .done r => some r

/-- The property `P` at the start of each of the first `fuel` rounds. -/
def AlongLoop (round : σ → Round σ ρ) (P : σ → Prop) : Nat → σ → Prop
  | 0, _ => True
  | fuel + 1, s => P s ∧
    match round s with
    | .next s => AlongLoop round P fuel s
    | .done _ => True

instance decidableAlongLoop {round : σ → Round σ ρ} {P : σ → Prop} [DecidablePred P] :
    (fuel : Nat) → (s : σ) → Decidable (AlongLoop round P fuel s)
  | 0, _ => isTrue trivial
  | fuel + 1, s =>
    @instDecidableAnd _ _ inferInstance <|
      match round s with
      | .next s => decidableAlongLoop fuel s
      | .done _ => isTrue trivial

variable {round : σ → Round σ ρ} {P Inv : σ → Prop} {Post : ρ → Prop}

/-- A loop whose rounds keep the invariant and make the measure smaller ends as its last round. -/
lemma loop_spec (measure : σ → Nat)
    (hround : ∀ s, Inv s → P s →
      (round s).Ends (fun s' => Inv s' ∧ measure s' < measure s) Post)
    {fuel : Nat} {s : σ} (hs : Inv s) (hP : AlongLoop round P fuel s) (hfuel : measure s < fuel) :
    ∃ r, loop round fuel s = some r ∧ Post r := by
  induction fuel generalizing s with
  | zero => exact absurd hfuel (Nat.not_lt_zero _)
  | succ fuel ih =>
    have hends := hround s hs hP.1
    have htail := hP.2
    rw [loop]
    cases hr : round s with
    | next s' =>
      rw [hr] at hends htail
      exact ih hends.1 htail (by have := hends.2; omega)
    | done r =>
      rw [hr] at hends
      exact ⟨r, rfl, hends⟩

/-- More rounds do not change the result. -/
lemma loop_mono {fuel fuel' : Nat} {s : σ} {r : ρ} (h : loop round fuel s = some r)
    (hle : fuel ≤ fuel') : loop round fuel' s = some r := by
  induction fuel generalizing s fuel' with
  | zero => cases h
  | succ fuel ih =>
    obtain ⟨fuel', rfl⟩ : ∃ n, fuel' = n + 1 := ⟨fuel' - 1, by omega⟩
    rw [loop] at h ⊢
    cases hr : round s with
    | next s' =>
      rw [hr] at h
      exact ih h (by omega)
    | done r' =>
      rw [hr] at h
      exact h

/-- What every round does that meets `P` in a state with the invariant, all rounds do. -/
lemma AlongLoop.imp {Q : σ → Prop}
    (hround : ∀ s, Inv s → P s → Q s ∧ ∀ s', round s = .next s' → Inv s') {fuel : Nat} {s : σ}
    (hs : Inv s) (h : AlongLoop round P fuel s) : AlongLoop round Q fuel s := by
  induction fuel generalizing s with
  | zero => trivial
  | succ fuel ih =>
    obtain ⟨hQ, hnext⟩ := hround s hs h.1
    have htail := h.2
    refine ⟨hQ, ?_⟩
    cases hr : round s with
    | next s' =>
      rw [hr] at htail
      exact ih (hnext s' hr) htail
    | done r => trivial

/-- What every round keeps holds at the end. -/
lemma loop_keeps (hround : ∀ s, Inv s → (round s).Ends Inv Post) {fuel : Nat} {s : σ} {r : ρ}
    (hs : Inv s) (hr : loop round fuel s = some r) : Post r := by
  induction fuel generalizing s with
  | zero => cases hr
  | succ fuel ih =>
    have hends := hround s hs
    rw [loop] at hr
    cases hnext : round s with
    | next s' =>
      rw [hnext] at hends hr
      exact ih hends hr
    | done r' =>
      rw [hnext] at hends hr
      exact Option.some.inj hr ▸ hends

/-- A loop in which a round does not meet `P` is lost from this round on. -/
lemma loop_lost {Lost : σ → Prop}
    (hround : ∀ s, Inv s → P s → (round s).Ends Inv fun _ => True)
    (hlose : ∀ s, Inv s → ¬P s → (round s).Ends Lost Post)
    (hlost : ∀ s, Lost s → (round s).Ends Lost Post) {fuel : Nat} {s : σ} {r : ρ} (hs : Inv s)
    (h : ¬AlongLoop round P fuel s) (hr : loop round fuel s = some r) : Post r := by
  induction fuel generalizing s with
  | zero => cases hr
  | succ fuel ih =>
    rw [loop] at hr
    by_cases hP : P s
    · have hends := hround s hs hP
      cases hnext : round s with
      | next s' =>
        rw [hnext] at hends hr
        refine ih hends (fun halong => h ⟨hP, ?_⟩) hr
        rw [hnext]
        exact halong
      | done r' => exact absurd ⟨hP, by rw [hnext]; trivial⟩ h
    · have hends := hlose s hs hP
      cases hnext : round s with
      | next s' =>
        rw [hnext] at hends hr
        exact loop_keeps hlost hends hr
      | done r' =>
        rw [hnext] at hends hr
        exact Option.some.inj hr ▸ hends

lemma alongLoop_true (fuel : Nat) (s : σ) : AlongLoop round (fun _ => True) fuel s := by
  induction fuel generalizing s with
  | zero => trivial
  | succ fuel ih =>
    refine ⟨trivial, ?_⟩
    cases round s with
    | next s' => exact ih s'
    | done r => trivial

end FreeRdp
