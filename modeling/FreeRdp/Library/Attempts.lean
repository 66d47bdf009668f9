import Mathlib.Tactic

/-!
# Computations that may fail midway

An attempt works on a state and has a result or fails. A failure keeps what has been done to the
state before. What holds of an attempt is said with `Meets`: one condition for its result and the
state then, another one for the state it fails in.
-/

namespace FreeRdp

variable {σ α β : Type}

/-- A computation on a state that may fail, and then leaves the state as it is. -/
def Attempt (σ α : Type) := σ → Option α × σ

namespace Attempt

/-- Fails. -/
def fail : Attempt σ α := fun s => (none, s)

/-- Fails where the condition does not hold. -/
def require (c : Bool) : Attempt σ Unit := fun s => (if c then some () else none, s)

/-- A value of the state. -/
def gets (f : σ → α) : Attempt σ α := fun s => (some (f s), s)

/-- Changes the state. -/
def modify (f : σ → σ) : Attempt σ Unit := fun s => (some (), f s)

/-- A result that may be missing. -/
def lift (a : Option α) : Attempt σ α := fun s => (a, s)

/-- One attempt after the other. -/
def andThen (m : Attempt σ α) (f : α → Attempt σ β) : Attempt σ β := fun s =>
  match m s with
  | (some a, s) => f a s
  | (none, s) => (none, s)

instance : Monad (Attempt σ) where
  pure a := fun s => (some a, s)
  bind := andThen

/-- An attempt that is made only where the condition holds. -/
def when (c : Prop) [Decidable c] (m : Attempt σ Unit) : Attempt σ Unit := if c then m else pure ()

/-- An attempt for each member of a list. -/
def each (f : α → Attempt σ Unit) : List α → Attempt σ Unit
  | [] => pure ()
  | a :: as => do
    f a
    each f as

/-- An attempt a number of times, with the results. -/
def times (m : Attempt σ α) : Nat → Attempt σ (List α)
  | 0 => pure []
  | n + 1 => do
    let a ← m
    let as ← times m n
    pure (a :: as)

/-- Rounds as long as the condition holds. The first argument is a bound for their number. -/
def loop (cond : α → Bool) (round : α → Attempt σ α) : Nat → α → Attempt σ α
  | 0, _ => fail
  | fuel + 1, a => if cond a then do loop cond round fuel (← round a) else pure a

/-- What an attempt comes to: `Q` with a result, `E` with a failure. -/
def Meets (m : Attempt σ α) (s : σ) (Q : α → σ → Prop) (E : σ → Prop) : Prop :=
  match m s with
  | (some a, s') => Q a s'
  | (none, s') => E s'

/-- The attempt keeps a property of the state, whether it fails or not. -/
def Keeps (m : Attempt σ α) (I : σ → Prop) : Prop := ∀ s, I s → I (m s).2

section Rules

variable {m : Attempt σ α} {f : α → Attempt σ β} {s : σ} {Q Q' : α → σ → Prop}
  {R : β → σ → Prop} {E I : σ → Prop}

/-- What comes after a result. -/
lemma bind_apply_some {a : α} {s' : σ} (h : m s = (some a, s')) : (m >>= f) s = f a s' := by
  show andThen m f s = _
  rw [andThen, h]

/-- Nothing comes after a failure. -/
lemma bind_apply_none {s' : σ} (h : m s = (none, s')) : (m >>= f) s = (none, s') := by
  show andThen m f s = _
  rw [andThen, h]

lemma gets_bind_apply (g : σ → α) : (gets g >>= f) s = f (g s) s := rfl

lemma modify_bind_apply (g : σ → σ) (k : Unit → Attempt σ β) : (modify g >>= k) s = k () (g s) := rfl

lemma require_bind_apply {c : Bool} (hc : c = true) (k : Unit → Attempt σ β) :
    (require c >>= k) s = k () s := bind_apply_some (by rw [require, if_pos hc])

lemma lift_bind_apply {a : Option α} {x : α} (ha : a = some x) : (lift a >>= f) s = f x s :=
  bind_apply_some (by rw [lift, ha])

/-- What an attempt comes to. -/
lemma Meets.cases (hm : m.Meets s Q E) :
    (∃ a s', m s = (some a, s') ∧ Q a s') ∨ ∃ s', m s = (none, s') ∧ E s' := by
  unfold Meets at hm
  rcases hms : m s with ⟨_ | a, s'⟩
  · rw [hms] at hm
    exact Or.inr ⟨s', rfl, hm⟩
  · rw [hms] at hm
    exact Or.inl ⟨a, s', rfl, hm⟩

lemma meets_pure {a : α} (h : Q a s) : (pure a : Attempt σ α).Meets s Q E := h

lemma meets_bind (hm : m.Meets s Q E) (hf : ∀ a s', Q a s' → (f a).Meets s' R E) :
    (m >>= f).Meets s R E := by
  show (andThen m f).Meets s R E
  unfold Meets andThen at *
  rcases hms : m s with ⟨_ | a, s'⟩
  · simpa only [hms] using hm
  · simp only [hms] at hm ⊢
    exact hf a s' hm

lemma Meets.mono {E' : σ → Prop} (hm : m.Meets s Q E) (hQ : ∀ a s', Q a s' → Q' a s')
    (hE : ∀ s', E s' → E' s') : m.Meets s Q' E' := by
  unfold Meets at *
  split
  · simp_all
  · simp_all

lemma meets_require {c : Bool} {Q : Unit → σ → Prop} (h : c = true → Q () s)
    (h' : c = false → E s) : (require c : Attempt σ Unit).Meets s Q E := by
  cases c with
  | true => exact h rfl
  | false => exact h' rfl

/-! One step of an attempt. -/

lemma meets_gets_bind {g : σ → α} (h : (f (g s)).Meets s R E) : (gets g >>= f).Meets s R E := h

lemma meets_modify_bind {g : σ → σ} {k : Unit → Attempt σ β} (h : (k ()).Meets (g s) R E) :
    (modify g >>= k).Meets s R E := h

/-- Where an attempt fails, nothing has to hold of its result. -/
lemma Meets.of_none (h : m.Meets s Q E) (hnone : (m s).1.isSome = false) :
    m.Meets s (fun _ _ => False) E := by
  unfold Meets at *
  rcases hms : m s with ⟨_ | a, s'⟩ <;> rw [hms] at h hnone
  · exact h
  · exact nomatch hnone

lemma meets_require_bind {c : Bool} {k : Unit → Attempt σ β} (h : c = true → (k ()).Meets s R E)
    (h' : c = false → E s) : (require c >>= k).Meets s R E := by
  cases c with
  | true => exact h rfl
  | false => exact h' rfl

lemma meets_lift_bind {a : Option α} (h : ∀ x, a = some x → (f x).Meets s R E)
    (h' : a = none → E s) : (lift a >>= f).Meets s R E := by
  cases a with
  | none => exact h' rfl
  | some x => exact h x rfl

lemma meets_modify {g : σ → σ} {Q : Unit → σ → Prop} (h : Q () (g s)) :
    (modify g).Meets s Q E := h

lemma meets_when {c : Prop} [Decidable c] {m : Attempt σ Unit} {Q : Unit → σ → Prop}
    (h : c → m.Meets s Q E) (h' : ¬c → Q () s) : (when c m).Meets s Q E := by
  unfold when
  split
  · exact h ‹_›
  · exact h' ‹_›

/-- What two specifications say holds together. -/
lemma Meets.and {Q' : α → σ → Prop} (hm : m.Meets s Q E) (hm' : m.Meets s Q' fun _ => True) :
    m.Meets s (fun a s' => Q a s' ∧ Q' a s') E := by
  unfold Meets at *
  split <;> simp_all

/-- An attempt that keeps a property has it whatever it comes to. -/
lemma Keeps.meets (hm : m.Keeps I) (hs : I s) : m.Meets s (fun _ => I) I := by
  have h := hm s hs
  unfold Meets
  rcases hms : m s with ⟨_ | a, s'⟩ <;> simpa only [hms] using h

lemma keeps_of_meets (hm : ∀ s, I s → m.Meets s (fun _ => I) I) : m.Keeps I := by
  intro s hs
  have h := hm s hs
  unfold Meets at h
  rcases hms : m s with ⟨_ | a, s'⟩ <;> simpa only [hms] using h

lemma keeps_pure (a : α) : (pure a : Attempt σ α).Keeps I := fun _ hs => hs

lemma keeps_fail : (fail : Attempt σ α).Keeps I := fun _ hs => hs

lemma keeps_require (c : Bool) : (require c : Attempt σ Unit).Keeps I := fun _ hs => hs

lemma keeps_gets (g : σ → α) : (gets g).Keeps I := fun _ hs => hs

lemma keeps_lift (a : Option α) : (lift a : Attempt σ α).Keeps I := fun _ hs => hs

lemma keeps_modify {g : σ → σ} (h : ∀ s, I s → I (g s)) : (modify g).Keeps I := h

lemma Keeps.bind (hm : m.Keeps I) (hf : ∀ a, (f a).Keeps I) : (m >>= f).Keeps I :=
  keeps_of_meets fun _ hs => meets_bind (hm.meets hs) fun a _ hs' => (hf a).meets hs'

lemma keeps_lift_bind {a : Option α} (h : ∀ x, a = some x → (f x).Keeps I) :
    (lift a >>= f).Keeps I := by
  cases a with
  | none => exact fun _ hs => hs
  | some x => exact h x rfl

lemma keeps_require_bind {c : Bool} {g : Unit → Attempt σ β} (h : c = true → (g ()).Keeps I) :
    (require c >>= g).Keeps I := by
  cases c with
  | true => exact h rfl
  | false => exact fun _ hs => hs

lemma keeps_ite {c : Prop} [Decidable c] {m m' : Attempt σ α} (h : c → m.Keeps I)
    (h' : ¬c → m'.Keeps I) : (if c then m else m').Keeps I := by
  split
  · exact h ‹_›
  · exact h' ‹_›

lemma keeps_when {c : Prop} [Decidable c] {m : Attempt σ Unit} (h : c → m.Keeps I) :
    (when c m).Keeps I :=
  keeps_ite h fun _ => keeps_pure ()

lemma keeps_each {g : α → Attempt σ Unit} {as : List α} (h : ∀ a ∈ as, (g a).Keeps I) :
    (each g as).Keeps I := by
  induction as with
  | nil => exact keeps_pure ()
  | cons a as ih =>
    exact (h a List.mem_cons_self).bind fun _ => ih fun b hb => h b (List.mem_cons_of_mem _ hb)

lemma keeps_loop {cond : α → Bool} {round : α → Attempt σ α} (h : ∀ a, (round a).Keeps I)
    (fuel : Nat) (a : α) : (loop cond round fuel a).Keeps I := by
  induction fuel generalizing a with
  | zero => exact keeps_fail
  | succ fuel ih => exact keeps_ite (fun _ => (h a).bind fun a' => ih a') fun _ => keeps_pure a

end Rules

lemma lift_some_bind (a : α) (f : α → Attempt σ β) : (lift (some a) >>= f) = f a := rfl

/-! ### Results with a property -/

/-- Every result has the property. -/
def Ensures (m : Attempt σ α) (P : α → Prop) : Prop := ∀ s a s', m s = (some a, s') → P a

section Ensures

variable {m : Attempt σ α} {f : α → Attempt σ β} {P : α → Prop} {P' : β → Prop}

lemma ensures_pure {a : α} (h : P a) : (pure a : Attempt σ α).Ensures P := by
  intro s a' s' hs
  cases hs
  exact h

lemma Ensures.bind (hm : m.Ensures P) (hf : ∀ a, P a → (f a).Ensures P') :
    (m >>= f).Ensures P' := by
  intro s b s' hs
  change andThen m f s = _ at hs
  unfold andThen at hs
  rcases hms : m s with ⟨_ | a, s''⟩ <;> rw [hms] at hs
  · exact absurd hs (by simp)
  · exact hf a (hm s a s'' hms) s'' b s' hs

lemma Ensures.map (hm : m.Ensures P) (g : α → β) :
    (do pure (g (← m)) : Attempt σ β).Ensures fun b => ∃ a, b = g a ∧ P a :=
  hm.bind fun a ha => ensures_pure ⟨a, rfl, ha⟩

lemma ensures_true : m.Ensures fun _ => True := fun _ _ _ _ => trivial

/-- An attempt before, whose result does not matter. -/
lemma ensures_bind_right (hf : ∀ a, (f a).Ensures P') : (m >>= f).Ensures P' :=
  ensures_true.bind fun a _ => hf a

lemma ensures_times (hm : m.Ensures P) (n : Nat) :
    (times m n).Ensures fun as => as.length = n ∧ ∀ a ∈ as, P a := by
  induction n with
  | zero => exact ensures_pure ⟨rfl, nofun⟩
  | succ n ih =>
    refine hm.bind fun a ha => ih.bind fun as has => ensures_pure ⟨by simp [has.1], ?_⟩
    rintro b (_ | ⟨_, hb⟩)
    · exact ha
    · exact has.2 b hb

end Ensures

/-! ### Results that do not depend on the state -/

/-- The result, where there is one, is the given one, whatever the state. -/
def Yields (m : Attempt σ α) (r : Option α) : Prop := ∀ s a, (m s).1 = some a → r = some a

/-- Rounds as long as the condition holds, of a function that may fail. -/
def loopOption (cond : α → Bool) (round : α → Option α) : Nat → α → Option α
  | 0, _ => none
  | fuel + 1, a => if cond a then (round a).bind (loopOption cond round fuel) else some a

section Yields

variable {m : Attempt σ α} {f : α → Attempt σ β} {r : Option α} {r' : Option β}

lemma yields_pure (a : α) : (pure a : Attempt σ α).Yields (some a) := fun _ _ h => h

lemma yields_fail : (fail : Attempt σ α).Yields r := nofun

lemma yields_lift (a : Option α) : (lift a : Attempt σ α).Yields a := fun _ _ h => h

lemma Yields.bind {g : α → Option β} (hm : m.Yields r) (hf : ∀ a, (f a).Yields (g a)) :
    (m >>= f).Yields (r.bind g) := by
  intro s b hb
  change (andThen m f s).1 = some b at hb
  unfold andThen at hb
  rcases hms : m s with ⟨_ | a, s'⟩ <;> simp only [hms] at hb
  · exact absurd hb nofun
  · rw [hm s a (by rw [hms])]
    exact hf a s' b hb

lemma Yields.bind_some {a : α} (hm : m.Yields (some a)) (hf : (f a).Yields r') :
    (m >>= f).Yields r' := by
  intro s b hb
  change (andThen m f s).1 = some b at hb
  unfold andThen at hb
  rcases hms : m s with ⟨_ | a', s'⟩ <;> simp only [hms] at hb
  · exact absurd hb nofun
  · cases hm s a' (by rw [hms])
    exact hf s' b hb

/-- An attempt before, whose result does not matter. -/
lemma yields_bind_right (hf : ∀ a, (f a).Yields r') : (m >>= f).Yields r' := by
  intro s b hb
  change (andThen m f s).1 = some b at hb
  unfold andThen at hb
  rcases hms : m s with ⟨_ | a, s'⟩ <;> simp only [hms] at hb
  · exact absurd hb nofun
  · exact hf a s' b hb

lemma yields_require_bind {c : Bool} {k : Unit → Attempt σ β}
    (hk : c = true → (k ()).Yields r') : (require c >>= k).Yields r' := by
  cases c with
  | true => exact hk rfl
  | false => exact nofun

lemma yields_loop {cond : α → Bool} {round : α → Attempt σ α} {next : α → Option α}
    (h : ∀ a, (round a).Yields (next a)) (fuel : Nat) (a : α) :
    (loop cond round fuel a).Yields (loopOption cond next fuel a) := by
  induction fuel generalizing a with
  | zero => exact yields_fail
  | succ fuel ih =>
    unfold loop loopOption
    split
    · exact (h a).bind ih
    · exact yields_pure a

/-- What comes next need keep a property only for the result that there is. -/
lemma Keeps.bind_of_yields {I : σ → Prop} (hm : m.Keeps I) (hr : m.Yields r)
    (hf : ∀ a, r = some a → (f a).Keeps I) : (m >>= f).Keeps I := by
  refine keeps_of_meets fun s hs => meets_bind (Q := fun a s' => I s' ∧ r = some a) ?_ ?_
  · have hI := hm s hs
    have ha := hr s
    unfold Meets
    rcases hms : m s with ⟨_ | a, s'⟩ <;> rw [hms] at hI ha
    · exact hI
    · exact ⟨hI, ha a rfl⟩
  · exact fun a s' h => (hf a h.2).meets h.1

/-- A loop keeps a property if its rounds do on the values that it comes to. -/
lemma keeps_loop_of_yields {I : σ → Prop} {cond : α → Bool} {round : α → Attempt σ α}
    {next : α → Option α} (hyields : ∀ a, (round a).Yields (next a)) {J : Nat → α → Prop}
    (hkeeps : ∀ n a, J (n + 1) a → cond a = true →
      (round a).Keeps I ∧ ∀ a', next a = some a' → J n a') {fuel : Nat} {a : α} (ha : J fuel a) :
    (loop cond round fuel a).Keeps I := by
  induction fuel generalizing a with
  | zero => exact keeps_fail
  | succ fuel ih =>
    unfold loop
    split
    · rename_i hcond
      obtain ⟨hround, hnext⟩ := hkeeps fuel a ha hcond
      exact hround.bind_of_yields (hyields a) fun a' ha' => ih (hnext a' ha')
    · exact keeps_pure a

end Yields

end Attempt

end FreeRdp
