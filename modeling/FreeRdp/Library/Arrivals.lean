import Mathlib.Tactic

/-!
# Data that arrives in pieces

A non-blocking source is the list of what its reads will find: pieces of data, moments at which
there is nothing to read, and a failure. `Arrival.read` takes up to a given number of elements and
stops early when the source has nothing more for now.
-/

namespace FreeRdp

/-- What a read of a non-blocking source can find. -/
inductive Arrival (α : Type*) where
  | data (xs : List α)
  | wouldBlock
  | failed
  deriving DecidableEq, Repr

namespace Arrival

variable {α : Type*}

/-- Everything a source will ever deliver. -/
def content : List (Arrival α) → List α
  | [] => []
  | data xs :: source => xs ++ content source
  | wouldBlock :: source => content source
  | failed :: _ => []

/-- What can be read now, before the source blocks. -/
def available : List (Arrival α) → List α
  | [] => []
  | data xs :: source => xs ++ available source
  | wouldBlock :: _ => []
  | failed :: _ => []

/-- A source that never fails. -/
def Reliable (source : List (Arrival α)) : Prop := failed ∉ source

/-- Read until `n` elements are there or the source blocks; `none` when it fails. -/
def read : List (Arrival α) → Nat → Option (List α) × List (Arrival α)
  | source, 0 => (some [], source)
  | [], _ + 1 => (some [], [])
  | wouldBlock :: source, _ + 1 => (some [], source)
  | failed :: source, _ + 1 => (none, source)
  | data xs :: source, n + 1 =>
    if n + 1 < xs.length then (some (xs.take (n + 1)), data (xs.drop (n + 1)) :: source)
    else
      match read source (n + 1 - xs.length) with
      | (none, rest) => (none, rest)
      | (some ys, rest) => (some (xs ++ ys), rest)

@[simp] lemma read_zero (source : List (Arrival α)) : read source 0 = (some [], source) := by
  cases source <;> rfl

lemma Reliable.tail {a : Arrival α} {source : List (Arrival α)} (h : Reliable (a :: source)) :
    Reliable source := fun hm => h (List.mem_cons_of_mem a hm)

/-- What is available comes first in what is still to come. -/
lemma exists_content_eq (source : List (Arrival α)) :
    ∃ later, content source = available source ++ later := by
  induction source with
  | nil => exact ⟨[], rfl⟩
  | cons a source ih =>
    cases a with
    | data xs =>
      obtain ⟨later, h⟩ := ih
      exact ⟨later, by simp [content, available, h]⟩
    | wouldBlock => exact ⟨content source, rfl⟩
    | failed => exact ⟨[], rfl⟩

/-- What is left of a reliable source after a read of up to `n` elements. -/
structure ReadOf (source : List (Arrival α)) (n : Nat) (rest : List (Arrival α)) : Prop where
  eq : read source n = (some ((available source).take n), rest)
  content : content source = (available source).take n ++ content rest
  reliable : Reliable rest
  length : rest.length ≤ source.length
  enough : n ≤ (available source).length → available rest = (available source).drop n
  short : (available source).length < n → rest.length < source.length ∨ source = []

/-- A reliable source delivers what it has available, up to the number asked for. -/
lemma exists_readOf {source : List (Arrival α)} (h : Reliable source) (n : Nat) :
    ∃ rest, ReadOf source n rest := by
  induction source generalizing n with
  | nil =>
    refine ⟨[], ?_, ?_, h, le_rfl, ?_, fun _ => Or.inr rfl⟩
    · cases n <;> simp [read, available]
    · simp [content, available]
    · simp [available]
  | cons a source ih =>
    cases n with
    | zero => exact ⟨a :: source, by simp, by simp, h, le_rfl, by simp, by simp⟩
    | succ n =>
      cases a with
      | failed => exact absurd List.mem_cons_self h
      | wouldBlock =>
        refine ⟨source, ?_, ?_, h.tail, ?_, ?_, ?_⟩
        · simp [read, available]
        · simp [content, available]
        · simp
        · simp [available]
        · simp
      | data xs =>
        by_cases hlen : n + 1 < xs.length
        · -- the piece is longer than the read
          refine ⟨data (xs.drop (n + 1)) :: source, ?_, ?_, ?_, by simp, ?_, ?_⟩
          · simp [read, available, hlen, List.take_append_of_le_length hlen.le]
          · simp only [content, available, List.take_append_of_le_length hlen.le]
            rw [← List.append_assoc, List.take_append_drop]
          · simp only [Reliable, List.mem_cons, reduceCtorEq, false_or]
            exact h.tail
          · intro _
            simp [available, List.drop_append_of_le_length hlen.le]
          · intro hshort
            simp only [available, List.length_append] at hshort
            omega
        · -- the piece is used up, and the read goes on behind it
          obtain ⟨rest, hr⟩ := ih h.tail (n + 1 - xs.length)
          have htake : (xs ++ available source).take (n + 1) =
              xs ++ (available source).take (n + 1 - xs.length) := by
            rw [List.take_append, List.take_of_length_le (by omega)]
          refine ⟨rest, ?_, ?_, hr.reliable, ?_, ?_, ?_⟩
          · simp [read, available, hlen, hr.eq, htake]
          · simp only [content, available, htake, hr.content, List.append_assoc]
          · exact hr.length.trans (Nat.le_succ _)
          · intro henough
            simp only [available, List.length_append] at henough
            simp only [available]
            rw [List.drop_append, List.drop_eq_nil_of_le (by omega : xs.length ≤ n + 1),
              List.nil_append]
            exact hr.enough (by omega)
          · intro _
            exact Or.inl (Nat.lt_succ_of_le hr.length)

end Arrival

end FreeRdp
