import FreeRdp.Winpr.Ini.Basic
import Mathlib.Data.List.GetD
import Mathlib.Data.List.TakeWhile

/-!
# Lines of ini files

What the reader makes of a line that the writer has written: a section gets its name, a key its name
and its value.
-/

namespace FreeRdp

variable {name value line rest : List UInt8} {ini : WIniFile} {index : Option Nat}

/-- A name that can stand between brackets. -/
def PlainSection (name : List UInt8) : Prop :=
  ∀ c ∈ name, c ≠ 0 ∧ c ≠ RBRACKET ∧ c ≠ CR ∧ c ≠ LF

/-- A key that can stand in a line: the name is not taken for something else and does not end in a
blank, and the value neither begins with a blank or a quote nor ends in a quote. -/
structure PlainKey (name value : List UInt8) : Prop where
  name_chars : ∀ c ∈ name, c ≠ 0 ∧ c ≠ EQUALS ∧ c ≠ CR ∧ c ≠ LF
  name_first : name.head? ≠ some SEMICOLON ∧ name.head? ≠ some LBRACKET
  name_last : ∀ c, name.getLast? = some c → isBlank c = false
  value_chars : ∀ c ∈ value, c ≠ 0 ∧ c ≠ CR ∧ c ≠ LF
  value_first : ∀ c, value.head? = some c → isBlank c = false ∧ c ≠ QUOTE
  value_last : ∀ begin blanks, value = begin ++ QUOTE :: blanks → ∃ c ∈ blanks, isBlank c = false

/-! ### Pointers -/

/-- The position to which a pointer goes back over blanks. -/
lemma trimBlanks_spec (line : List UInt8) (low i : Nat) :
    trimBlanks line low i ≤ i ∧
      (∀ j, trimBlanks line low i ≤ j → j < i → isBlank (line.getD j 0) = true) ∧
      (low ≤ i → low ≤ trimBlanks line low i) := by
  induction i with
  | zero => exact ⟨le_rfl, fun j _ hj => absurd hj (Nat.not_lt_zero j), id⟩
  | succ i ih =>
    obtain ⟨hle, hblank, hlow⟩ := ih
    rw [trimBlanks]
    split
    · rename_i hgo
      refine ⟨hle.trans (Nat.le_succ i), fun j hj hji => ?_, fun _ => hlow (by omega)⟩
      rcases Nat.lt_succ_iff_lt_or_eq.mp hji with hlt | rfl
      · exact hblank j hj hlt
      · exact hgo.2
    · exact ⟨le_rfl, fun j hj hji => by omega, id⟩

lemma trimBlanks_of_not_blank {line : List UInt8} {low i : Nat}
    (h : ∀ j, i = j + 1 → isBlank (line.getD j 0) = false) : trimBlanks line low i = i := by
  cases i with
  | zero => rfl
  | succ i => rw [trimBlanks, if_neg (by rw [h i rfl]; exact fun hgo => Bool.false_ne_true hgo.2)]

lemma cString_append_zero (h : ∀ c ∈ name, c ≠ 0) : cString (name ++ 0 :: rest) 0 = name := by
  rw [cString, List.drop_zero, List.takeWhile_append_of_pos fun c hc => decide_eq_true (h c hc)]
  simp

lemma cString_append (pre : List UInt8) (h : ∀ c ∈ value, c ≠ 0) :
    cString (pre ++ value) pre.length = value := by
  rw [cString, List.drop_left, List.takeWhile_eq_self_iff]
  exact fun c hc => decide_eq_true (h c hc)

lemma strchr_append {c : UInt8} (h : ∀ d ∈ name, d ≠ c) : strchr (name ++ c :: rest) c =
    some name.length := by
  rw [strchr, List.findIdx?_append, List.findIdx?_eq_none_iff.mpr fun d hd => decide_eq_false
    (h d hd), List.findIdx?_cons, if_pos (decide_eq_true rfl)]
  simp

/-! ### Keys -/

/-- The value does not end in a quote, so the reader does not end it before its end. -/
lemma getD_trimBlanks_ne_quote (h : PlainKey name value) (pre : List UInt8) :
    ((pre ++ [0]) ++ value).getD (trimBlanks ((pre ++ [0]) ++ value) (pre ++ [0]).length
      ((pre ++ [0]).length + value.length) - 1) 0 ≠ QUOTE := by
  obtain ⟨hle, hblank, hlow⟩ := trimBlanks_spec ((pre ++ [0]) ++ value) (pre ++ [0]).length
    ((pre ++ [0]).length + value.length)
  have hlow := hlow (Nat.le_add_right _ _)
  generalize trimBlanks ((pre ++ [0]) ++ value) (pre ++ [0]).length
    ((pre ++ [0]).length + value.length) = stop at *
  intro hquote
  rcases Nat.eq_or_lt_of_le hlow with heq | hlt
  · -- the byte before the value is the zero behind the name
    rw [← heq, List.getD_append _ _ _ _ (by simp), List.length_append, List.length_singleton,
      Nat.add_sub_cancel, List.getD_append_right _ _ _ _ le_rfl, Nat.sub_self] at hquote
    exact absurd hquote (by decide)
  · obtain ⟨j, rfl⟩ : ∃ j, stop = (pre ++ [0]).length + j + 1 :=
      ⟨stop - (pre ++ [0]).length - 1, by omega⟩
    have hj : j < value.length := by omega
    rw [Nat.add_sub_cancel, List.getD_append_right _ _ _ _ (Nat.le_add_right _ _),
      Nat.add_sub_cancel_left, List.getD_eq_getElem _ _ hj] at hquote
    obtain ⟨c, hc, hnot⟩ := h.value_last (value.take j) (value.drop (j + 1)) (by
      rw [← hquote, ← List.drop_eq_getElem_cons hj, List.take_append_drop])
    obtain ⟨k, hk, rfl⟩ := List.mem_iff_getElem.mp hc
    rw [List.length_drop] at hk
    have hlast := hblank ((pre ++ [0]).length + (j + 1 + k)) (by omega) (by omega)
    rw [List.getD_append_right _ _ _ _ (Nat.le_add_right _ _), Nat.add_sub_cancel_left,
      List.getD_eq_getElem _ _ (by omega)] at hlast
    rw [List.getElem_drop, hlast] at hnot
    cases hnot

/-- The value of a key. -/
lemma iniFileLoadValue_eq (h : PlainKey name value) :
    iniFileLoadValue (name ++ 0 :: value) (name ++ EQUALS :: value).length name.length = value := by
  have hline : name ++ 0 :: value = (name ++ [0]) ++ value := List.append_cons ..
  have hlength : (name ++ EQUALS :: value).length = (name ++ [0]).length + value.length := by
    simp only [List.length_append, List.length_cons, List.length_nil]
    omega
  have hstart : name.length + 1 = (name ++ [0]).length := by rw [List.length_append]; rfl
  have hskip : skipBlanks ((name ++ [0]) ++ value) (name ++ [0]).length = (name ++ [0]).length := by
    rw [skipBlanks, List.drop_left]
    cases value with
    | nil => rfl
    | cons c value =>
      rw [List.takeWhile_cons_of_neg (by rw [(h.value_first c rfl).1]; exact Bool.false_ne_true)]
      rfl
  have hquote : ((name ++ [0]) ++ value).getD (name ++ [0]).length 0 ≠ QUOTE := by
    rw [List.getD_append_right _ _ _ _ le_rfl, Nat.sub_self]
    cases value with
    | nil => decide
    | cons c value => exact (h.value_first c rfl).2
  rw [hline, hlength, iniFileLoadValue, hstart, hskip]
  simp only [if_neg hquote, if_neg (getD_trimBlanks_ne_quote h name)]
  exact cString_append _ fun c hc => (h.value_chars c hc).1

/-- The line of a key. -/
lemma iniFileLoadLine_key (h : PlainKey name value) (i : Nat) :
    iniFileLoadLine ini (some i) (name ++ EQUALS :: value) =
      some (ini.modify i (iniFileAddKey name value), some i) := by
  have hfirst : (name ++ EQUALS :: value).getD 0 0 ≠ SEMICOLON ∧
      (name ++ EQUALS :: value).getD 0 0 ≠ LBRACKET := by
    cases name with
    | nil => exact ⟨by show EQUALS ≠ SEMICOLON; decide, by show EQUALS ≠ LBRACKET; decide⟩
    | cons c name =>
      exact ⟨fun hc => h.name_first.1 (congrArg some hc), fun hc => h.name_first.2 (congrArg some hc)⟩
  have htrim : trimBlanks (name ++ EQUALS :: value) 1 name.length = name.length := by
    refine trimBlanks_of_not_blank fun j hj => ?_
    rw [List.getD_append _ _ _ _ (by omega), List.getD_eq_getElem _ _ (by omega)]
    refine h.name_last _ ?_
    rw [List.getLast?_eq_getElem?, show name.length - 1 = j by omega]
    exact List.getElem?_eq_getElem _
  have hset : (name ++ EQUALS :: value).set name.length 0 = name ++ 0 :: value := by
    rw [List.set_append_right _ _ le_rfl, Nat.sub_self]
    rfl
  rw [iniFileLoadLine, if_neg hfirst.1, if_neg hfirst.2,
    strchr_append fun c hc => (h.name_chars c hc).2.1]
  simp only [Option.bind_eq_bind, Option.bind_some, htrim, hset, iniFileLoadValue_eq h,
    cString_append_zero fun c hc => (h.name_chars c hc).1]
  rfl

/-! ### Sections -/

/-- The line of a section. -/
lemma iniFileLoadLine_section (h : PlainSection name) :
    iniFileLoadLine ini index (LBRACKET :: name ++ [RBRACKET]) =
      some ((iniFileAddSection ini name).1,
        some ((iniFileAddSection ini name).1.sections.items.length - 1)) := by
  have hfirst : (LBRACKET :: name ++ [RBRACKET]).getD 0 0 = LBRACKET := rfl
  have hstop : strchr (LBRACKET :: name ++ [RBRACKET]) RBRACKET = some (name.length + 1) := by
    show strchr ((LBRACKET :: name) ++ RBRACKET :: []) RBRACKET = some (LBRACKET :: name).length
    refine strchr_append fun c hc => ?_
    rcases List.mem_cons.mp hc with rfl | hc
    · decide
    · exact (h c hc).2.1
  have hset : (LBRACKET :: name ++ [RBRACKET]).set (name.length + 1) 0 =
      LBRACKET :: (name ++ 0 :: []) := by
    rw [List.cons_append, List.set_cons_succ, List.set_append_right _ _ le_rfl, Nat.sub_self]
    rfl
  have hname : cString (LBRACKET :: (name ++ 0 :: [])) 1 = name :=
    cString_append_zero fun c hc => (h c hc).1
  rw [iniFileLoadLine, hfirst, if_neg (by decide), if_pos rfl, hstop]
  simp only [Option.bind_eq_bind, Option.bind_some, hset, hname]
  rfl

end FreeRdp
