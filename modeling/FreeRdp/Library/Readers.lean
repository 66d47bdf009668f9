import Mathlib.Tactic

/-!
# Readers that fill in a record

A reader takes input and stores what it reads in a record as it goes. If it fails, what it has
stored before stays in the record. What a reader makes of a record when it does not fail is its
`accepted` part; of a list of readers it is put together from the accepted parts of the members.
-/

namespace FreeRdp

variable {σ α β : Type}

/-- A member of a record. -/
structure Member (α β : Type) where
  get : α → β
  set : α → β → α
  get_set : ∀ a v, get (set a v) = v := by intros; rfl
  set_get : ∀ a, set a (get a) = a := by intros; rfl
  set_set : ∀ a v w, set (set a v) w = set a w := by intros; rfl

/-- The record after reading, and the input that is left, or `none` if the reader has failed. -/
def Reader (σ α : Type) := α → σ → α × Option σ

namespace Reader

/-- What a reader that does not fail has made of the record, and the input that is left. -/
def accepted (r : Reader σ α) (a : α) (s : σ) : Option (α × σ) :=
  (r a s).2.map (fun s' => ((r a s).1, s'))

/-- Reads nothing. -/
def skip : Reader σ α := fun a s => (a, some s)

/-- Changes the record. -/
def assign (f : α → α) : Reader σ α := fun a s => (f a, some s)

/-- Fails where the record does not pass the check. -/
def check (p : α → Bool) : Reader σ α := fun a s => if p a then (a, some s) else (a, none)

/-- Reads where `c` holds. -/
def when (c : Bool) (r : Reader σ α) : Reader σ α := if c then r else skip

/-- One reader after the other, up to the first that fails. -/
def andThen (r r' : Reader σ α) : Reader σ α := fun a s =>
  match r a s with
  | (a, none) => (a, none)
  | (a, some s) => r' a s

/-- All readers of a list. -/
def all : List (Reader σ α) → Reader σ α
  | [] => skip
  | r :: rs => andThen r (all rs)

/-- Reads into a member. -/
def into (m : Member α β) (r : Reader σ β) : Reader σ α := fun a s =>
  (m.set a (r (m.get a) s).1, (r (m.get a) s).2)

/-- Reads with a reader that is chosen by the record. -/
def choose (r : α → Reader σ α) : Reader σ α := fun a s => r a a s

/-! ### The accepted part -/

@[simp] lemma accepted_skip (a : α) (s : σ) : (skip : Reader σ α).accepted a s = some (a, s) := rfl

@[simp] lemma accepted_assign (f : α → α) (a : α) (s : σ) :
    (assign f : Reader σ α).accepted a s = some (f a, s) := rfl

lemma accepted_check (p : α → Bool) (a : α) (s : σ) :
    (check p : Reader σ α).accepted a s = if p a then some (a, s) else none := by
  unfold accepted check
  split <;> rfl

lemma accepted_when (c : Bool) (r : Reader σ α) (a : α) (s : σ) :
    (when c r).accepted a s = if c then r.accepted a s else some (a, s) := by
  cases c <;> rfl

lemma accepted_andThen (r r' : Reader σ α) (a : α) (s : σ) :
    (andThen r r').accepted a s = (r.accepted a s).bind (fun p => r'.accepted p.1 p.2) := by
  unfold accepted andThen
  rcases hr : r a s with ⟨a', _ | s'⟩ <;> rfl

lemma accepted_all_cons (r : Reader σ α) (rs : List (Reader σ α)) (a : α) (s : σ) :
    (all (r :: rs)).accepted a s = (r.accepted a s).bind (fun p => (all rs).accepted p.1 p.2) :=
  accepted_andThen r (all rs) a s

lemma accepted_all_nil (a : α) (s : σ) : (all ([] : List (Reader σ α))).accepted a s = some (a, s) :=
  rfl

lemma accepted_into (m : Member α β) (r : Reader σ β) (a : α) (s : σ) :
    (into m r).accepted a s = (r.accepted (m.get a) s).map (fun p => (m.set a p.1, p.2)) := by
  unfold accepted into
  rcases r (m.get a) s with ⟨v, _ | s'⟩ <;> rfl

lemma accepted_into_cons (m : Member α β) (r : Reader σ β) (rs : List (Reader σ α)) (a : α)
    (s : σ) :
    (all (into m r :: rs)).accepted a s =
      (r.accepted (m.get a) s).bind (fun p => (all rs).accepted (m.set a p.1) p.2) := by
  rw [accepted_all_cons, accepted_into, Option.bind_map]
  rfl

/-- The accepted part as a parser for the value, given the old one. -/
def parse (r : Reader σ β) (old : β) : StateT σ Option β := fun s => r.accepted old s

/-- A parser that reads nothing, and fails where the condition does not hold. -/
def require (c : Bool) : StateT σ Option Unit := fun s => if c then some ((), s) else none

lemma accepted_check_cons (p : α → Bool) (rs : List (Reader σ α)) (a : α) (s : σ) :
    (all (check p :: rs)).accepted a s =
      (require (p a) s).bind (fun q => (all rs).accepted a q.2) := by
  rw [accepted_all_cons, accepted_check]
  unfold require
  split <;> rfl

/-! ### What a reader leaves alone -/

/-- The reader leaves a part of the record as it is, also where it fails. -/
def Keeps (r : Reader σ α) (g : α → β) : Prop := ∀ a s, g (r a s).1 = g a

lemma keeps_skip (g : α → β) : Keeps (skip : Reader σ α) g := fun _ _ => rfl

lemma Keeps.when {r : Reader σ α} {g : α → β} (h : r.Keeps g) (c : Bool) : (when c r).Keeps g := by
  cases c with
  | false => exact keeps_skip g
  | true => exact h

lemma keeps_into {γ : Type} {m : Member α γ} (r : Reader σ γ) {g : α → β}
    (h : ∀ a v, g (m.set a v) = g a) : (into m r).Keeps g := fun a _ => h a _

/-- What follows leaves it as the first reader has made it. -/
lemma Keeps.after {r' : Reader σ α} {g : α → β} (h' : r'.Keeps g) (r : Reader σ α) (a : α) (s : σ) :
    g (r.andThen r' a s).1 = g (r a s).1 := by
  unfold Reader.andThen
  rcases r a s with ⟨a', _ | s'⟩
  · rfl
  · exact h' a' s'

lemma Keeps.andThen {r r' : Reader σ α} {g : α → β} (h : r.Keeps g) (h' : r'.Keeps g) :
    (r.andThen r').Keeps g := fun a s => (h'.after r a s).trans (h a s)

lemma all_singleton (r : Reader σ α) : all [r] = r := by
  funext a s
  rw [all, andThen]
  rcases r a s with ⟨a', _ | s'⟩ <;> rfl

lemma all_append (rs rs' : List (Reader σ α)) : all (rs ++ rs') = (all rs).andThen (all rs') := by
  induction rs with
  | nil => rfl
  | cons r rs ih =>
    funext a s
    rw [List.cons_append, all, all, ih]
    unfold andThen
    rcases r a s with ⟨a', _ | s'⟩ <;> rfl

/-- The input that is left by two readers. -/
lemma andThen_snd (r r' : Reader σ α) (a : α) (s : σ) :
    (r.andThen r' a s).2 = (r a s).2.bind (fun s₁ => (r' (r a s).1 s₁).2) := by
  unfold andThen
  rcases r a s with ⟨a', _ | s₁⟩ <;> rfl

lemma andThen_some {r r' : Reader σ α} {a : α} {s s' : σ} (h : (r.andThen r' a s).2 = some s') :
    ∃ s₁, (r a s).2 = some s₁ ∧ (r' (r a s).1 s₁).2 = some s' := by
  rw [andThen_snd] at h
  exact Option.bind_eq_some_iff.mp h

end Reader

/-! ### What a parser makes sure of -/

section Ensures

variable {m : StateT σ Option α} {f : α → StateT σ Option β} {P : β → Prop} {Q : α → Prop}

/-- Every value the parser returns meets `P`. -/
def Ensures (m : StateT σ Option α) (P : α → Prop) : Prop := ∀ s a s', m s = some (a, s') → P a

lemma Ensures.bind (hm : Ensures m Q) (hf : ∀ a, Q a → Ensures (f a) P) : Ensures (m >>= f) P := by
  intro s b s' h
  obtain ⟨⟨a, s₁⟩, ha, hb⟩ := Option.bind_eq_some_iff.mp h
  exact hf a (hm s a s₁ ha) s₁ b s' hb

lemma Ensures.skip (hf : ∀ a, Ensures (f a) P) : Ensures (m >>= f) P :=
  Ensures.bind (Q := fun _ => True) (fun _ _ _ _ => trivial) (fun a _ => hf a)

lemma Ensures.pure {b : β} (hb : P b) : @Ensures σ β (Pure.pure b) P := by
  intro s b' s' h
  cases h
  exact hb

end Ensures

end FreeRdp
