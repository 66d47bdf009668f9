import Mathlib.Tactic
import Mathlib.Data.List.Chain

/-!
# Lists of segments

A function with finitely many pieces on a linear order, as the list of the half-open segments on
which it has a value. The list is in order if the segments are not empty and follow one another,
and it is reduced if no two segments that touch have the same value. A reduced list is determined
by the function.
-/

namespace FreeRdp

variable {α V : Type*} [LinearOrder α]

/-- The value `val` on the places from `lo` to before `hi`. -/
structure Segment (α V : Type*) where
  lo : α
  hi : α
  val : V
  deriving DecidableEq, Repr

/-- The place is on the segment. -/
def Segment.Covers (s : Segment α V) (x : α) : Prop := s.lo ≤ x ∧ x < s.hi

/-- The function has value `v` at `x`. -/
def HasValue (ss : List (Segment α V)) (x : α) (v : V) : Prop := ∃ s ∈ ss, s.Covers x ∧ s.val = v

/-- The segments are not empty and follow one another. -/
structure Ordered (ss : List (Segment α V)) : Prop where
  nonempty : ∀ s ∈ ss, s.lo < s.hi
  sorted : ss.Pairwise (fun s t => s.hi ≤ t.lo)

/-- Segments that touch have different values. -/
def Reduced (ss : List (Segment α V)) : Prop :=
  ss.IsChain (fun s t => s.hi = t.lo → s.val ≠ t.val)

variable {s t : Segment α V} {ss ts : List (Segment α V)} {x : α} {v w : V}

lemma hasValue_cons : HasValue (s :: ss) x v ↔ s.Covers x ∧ s.val = v ∨ HasValue ss x v := by
  simp [HasValue]

lemma hasValue_append : HasValue (ss ++ ts) x v ↔ HasValue ss x v ∨ HasValue ts x v := by
  simp only [HasValue, List.mem_append, or_and_right, exists_or]

@[simp] lemma not_hasValue_nil : ¬HasValue ([] : List (Segment α V)) x v := by
  simp [HasValue]

lemma ordered_nil : Ordered ([] : List (Segment α V)) := ⟨by simp, List.Pairwise.nil⟩

lemma ordered_cons : Ordered (s :: ss) ↔ s.lo < s.hi ∧ (∀ t ∈ ss, s.hi ≤ t.lo) ∧ Ordered ss := by
  constructor
  · intro h
    obtain ⟨hs, hss⟩ := List.pairwise_cons.mp h.sorted
    exact ⟨h.nonempty s List.mem_cons_self, hs,
      fun t ht => h.nonempty t (List.mem_cons_of_mem s ht), hss⟩
  · rintro ⟨hs, hlater, hss⟩
    exact ⟨List.forall_mem_cons.mpr ⟨hs, hss.nonempty⟩, List.pairwise_cons.mpr ⟨hlater, hss.sorted⟩⟩

lemma ordered_append : Ordered (ss ++ ts) ↔
    Ordered ss ∧ Ordered ts ∧ ∀ s ∈ ss, ∀ t ∈ ts, s.hi ≤ t.lo := by
  constructor
  · intro h
    obtain ⟨hss, hts, hcross⟩ := List.pairwise_append.mp h.sorted
    exact ⟨⟨fun s hs => h.nonempty s (List.mem_append_left ts hs), hss⟩,
      ⟨fun t ht => h.nonempty t (List.mem_append_right ss ht), hts⟩, hcross⟩
  · rintro ⟨hss, hts, hcross⟩
    refine ⟨?_, List.pairwise_append.mpr ⟨hss.sorted, hts.sorted, hcross⟩⟩
    intro s hs
    rw [List.mem_append] at hs
    cases hs with
    | inl hs => exact hss.nonempty s hs
    | inr hs => exact hts.nonempty s hs

/-- After its first segment an ordered list has the values of the later segments. -/
lemma Ordered.hasValue_tail (h : Ordered (s :: ss)) :
    HasValue ss x v ↔ HasValue (s :: ss) x v ∧ s.hi ≤ x := by
  obtain ⟨-, hlater, -⟩ := ordered_cons.mp h
  rw [hasValue_cons]
  constructor
  · rintro ⟨t, ht, hcov, hval⟩
    exact ⟨Or.inr ⟨t, ht, hcov, hval⟩, (hlater t ht).trans hcov.1⟩
  · rintro ⟨hcov | htail, hx⟩
    · exact absurd hcov.1.2 (not_lt.mpr hx)
    · exact htail

/-- A list has one value at each place. -/
lemma Ordered.value_unique (h : Ordered ss) (hv : HasValue ss x v) (hw : HasValue ss x w) :
    v = w := by
  induction ss with
  | nil => exact absurd hv not_hasValue_nil
  | cons s ss ih =>
    have htail : ∀ {u : V}, HasValue (s :: ss) x u → ¬s.val = u → s.hi ≤ x := by
      intro u hu hne
      by_contra hlt
      rw [hasValue_cons] at hu
      rcases hu with hs | hss
      · exact hne hs.2
      · exact hlt (h.hasValue_tail.mp hss).2
    by_cases hx : s.hi ≤ x
    · exact ih (ordered_cons.mp h).2.2 (h.hasValue_tail.mpr ⟨hv, hx⟩) (h.hasValue_tail.mpr ⟨hw, hx⟩)
    · have hsv : s.val = v := by
        by_contra hne
        exact hx (htail hv hne)
      have hsw : s.val = w := by
        by_contra hne
        exact hx (htail hw hne)
      exact hsv.symm.trans hsw

lemma Ordered.hasValue_lo (h : Ordered (s :: ss)) : HasValue (s :: ss) s.lo s.val :=
  ⟨s, List.mem_cons_self, ⟨le_rfl, (ordered_cons.mp h).1⟩, rfl⟩

/-- The first segment starts at the first place with a value. -/
lemma Ordered.lo_le (h : Ordered (s :: ss)) (hv : HasValue (s :: ss) x v) : s.lo ≤ x := by
  rw [hasValue_cons] at hv
  rcases hv with hs | hss
  · exact hs.1.1
  · exact (ordered_cons.mp h).1.le.trans (h.hasValue_tail.mp hss).2

/-- In a reduced list the value changes where the first segment ends. -/
lemma Ordered.not_hasValue_hi (h : Ordered (s :: ss)) (hred : Reduced (s :: ss)) :
    ¬HasValue (s :: ss) s.hi s.val := by
  intro hv
  have htail : HasValue ss s.hi s.val := h.hasValue_tail.mpr ⟨hv, le_rfl⟩
  cases ss with
  | nil => exact not_hasValue_nil htail
  | cons t ts =>
    obtain ⟨-, hlater, hts⟩ := ordered_cons.mp h
    -- the value there can only come from a segment that starts there, and that is the next one
    have hlo : s.hi = t.lo := le_antisymm (hlater t List.mem_cons_self) (hts.lo_le htail)
    have hval : HasValue (t :: ts) t.lo s.val := by
      rw [← hlo]
      exact htail
    rw [Reduced, List.isChain_cons_cons] at hred
    exact hred.1 hlo (hts.value_unique hval hts.hasValue_lo)

lemma hi_le_of_hasValue (hs : Ordered (s :: ss)) (hsr : Reduced (s :: ss)) (hlo : t.lo = s.lo)
    (hval : t.val = s.val)
    (h : ∀ x v, HasValue (s :: ss) x v ↔ HasValue (t :: ts) x v) : t.hi ≤ s.hi := by
  by_contra hlt
  refine hs.not_hasValue_hi hsr ((h s.hi s.val).mpr ⟨t, List.mem_cons_self, ⟨?_, ?_⟩, hval⟩)
  · rw [hlo]
    exact (ordered_cons.mp hs).1.le
  · exact not_le.mp hlt

/-- Reduced lists with the same values are the same. -/
lemma reduced_unique (hss : Ordered ss) (hssr : Reduced ss) (hts : Ordered ts) (htsr : Reduced ts)
    (h : ∀ x v, HasValue ss x v ↔ HasValue ts x v) : ss = ts := by
  induction ss generalizing ts with
  | nil =>
    cases ts with
    | nil => rfl
    | cons t ts => exact absurd ((h _ _).mpr hts.hasValue_lo) not_hasValue_nil
  | cons s ss ih =>
    cases ts with
    | nil => exact absurd ((h _ _).mp hss.hasValue_lo) not_hasValue_nil
    | cons t ts =>
      have hlo : t.lo = s.lo := le_antisymm (hts.lo_le ((h _ _).mp hss.hasValue_lo))
        (hss.lo_le ((h _ _).mpr hts.hasValue_lo))
      have hval : t.val = s.val := by
        refine hts.value_unique hts.hasValue_lo ?_
        rw [hlo]
        exact (h _ _).mp hss.hasValue_lo
      have hhi : t.hi = s.hi := le_antisymm (hi_le_of_hasValue hss hssr hlo hval h)
        (hi_le_of_hasValue hts htsr hlo.symm hval.symm fun x v => (h x v).symm)
      have hst : s = t := by
        cases s
        cases t
        simp_all
      have htail : ss = ts := by
        refine ih (ordered_cons.mp hss).2.2 hssr.tail (ordered_cons.mp hts).2.2 htsr.tail ?_
        intro x v
        rw [hss.hasValue_tail, hts.hasValue_tail, h x v, hhi]
      rw [hst, htail]

/-! ### Coalescing -/

lemma Ordered.join (h : Ordered (s :: t :: ts)) : Ordered ({ s with hi := t.hi } :: ts) := by
  obtain ⟨hs, hlater, hrest⟩ := ordered_cons.mp h
  obtain ⟨ht, htlater, hts⟩ := ordered_cons.mp hrest
  exact ordered_cons.mpr ⟨hs.trans ((hlater t List.mem_cons_self).trans_lt ht), htlater, hts⟩

lemma Ordered.hasValue_join (h : Ordered (s :: t :: ts)) (htouch : s.hi = t.lo)
    (hval : s.val = t.val) :
    HasValue ({ s with hi := t.hi } :: ts) x v ↔ HasValue (s :: t :: ts) x v := by
  obtain ⟨hs, -, hrest⟩ := ordered_cons.mp h
  obtain ⟨ht, -, -⟩ := ordered_cons.mp hrest
  simp only [hasValue_cons, ← or_assoc]
  refine or_congr_left ?_
  simp only [Segment.Covers, ← hval, ← or_and_right]
  refine and_congr_left fun _ => ?_
  constructor
  · rintro ⟨hlo, hhi⟩
    by_cases hx : x < s.hi
    · exact Or.inl ⟨hlo, hx⟩
    · exact Or.inr ⟨htouch ▸ not_lt.mp hx, hhi⟩
  · rintro (⟨hlo, hhi⟩ | ⟨hlo, hhi⟩)
    · exact ⟨hlo, hhi.trans (htouch ▸ ht)⟩
    · exact ⟨hs.le.trans (htouch ▸ hlo), hhi⟩

section Coalesce

variable [DecidableEq V]

/-- Joins segments that touch and have the same value, from the first one on. -/
def coalesceFrom (s : Segment α V) : List (Segment α V) → List (Segment α V)
  | [] => [s]
  | t :: ts =>
    if s.hi = t.lo ∧ s.val = t.val then coalesceFrom { s with hi := t.hi } ts
    else s :: coalesceFrom t ts

/-- The first segment keeps its place and its value. -/
lemma coalesceFrom_eq_cons (s : Segment α V) (ts : List (Segment α V)) :
    ∃ hi us, coalesceFrom s ts = { s with hi := hi } :: us := by
  induction ts generalizing s with
  | nil => exact ⟨s.hi, [], rfl⟩
  | cons t ts ih =>
    rw [coalesceFrom]
    split
    · exact ih { s with hi := t.hi }
    · exact ⟨s.hi, _, rfl⟩

lemma Ordered.hasValue_coalesceFrom (h : Ordered (s :: ts)) :
    HasValue (coalesceFrom s ts) x v ↔ HasValue (s :: ts) x v := by
  induction ts generalizing s with
  | nil => rfl
  | cons t ts ih =>
    rw [coalesceFrom]
    split
    · rename_i hjoin
      rw [ih h.join, h.hasValue_join hjoin.1 hjoin.2]
    · rw [hasValue_cons, ih (ordered_cons.mp h).2.2, ← hasValue_cons]

lemma Ordered.le_lo_coalesceFrom {a : α} (h : Ordered (s :: ts)) (hs : a ≤ s.lo) :
    ∀ t ∈ coalesceFrom s ts, a ≤ t.lo := by
  induction ts generalizing s with
  | nil => simpa [coalesceFrom] using hs
  | cons t ts ih =>
    rw [coalesceFrom]
    split
    · exact ih h.join hs
    · obtain ⟨hlt, hlater, hrest⟩ := ordered_cons.mp h
      exact List.forall_mem_cons.mpr
        ⟨hs, ih hrest (hs.trans (hlt.le.trans (hlater t List.mem_cons_self)))⟩

lemma Ordered.coalesceFrom (h : Ordered (s :: ts)) : Ordered (coalesceFrom s ts) := by
  induction ts generalizing s with
  | nil => exact h
  | cons t ts ih =>
    rw [FreeRdp.coalesceFrom]
    split
    · exact ih h.join
    · obtain ⟨hlt, hlater, hrest⟩ := ordered_cons.mp h
      exact ordered_cons.mpr ⟨hlt,
        hrest.le_lo_coalesceFrom (hlater t List.mem_cons_self), ih hrest⟩

lemma reduced_coalesceFrom (s : Segment α V) (ts : List (Segment α V)) :
    Reduced (coalesceFrom s ts) := by
  induction ts generalizing s with
  | nil => exact List.isChain_singleton s
  | cons t ts ih =>
    rw [coalesceFrom]
    split
    · exact ih { s with hi := t.hi }
    · rename_i hjoin
      obtain ⟨hi, us, hus⟩ := coalesceFrom_eq_cons t ts
      have hred := ih t
      rw [hus] at hred ⊢
      rw [Reduced, List.isChain_cons_cons]
      exact ⟨fun htouch hval => hjoin ⟨htouch, hval⟩, hred⟩

/-- The values are those of the segments that were joined. -/
lemma exists_val_of_mem_coalesceFrom {u : Segment α V} (hu : u ∈ coalesceFrom s ts) :
    ∃ t ∈ s :: ts, t.val = u.val := by
  induction ts generalizing s with
  | nil =>
    rw [coalesceFrom, List.mem_singleton] at hu
    exact ⟨s, List.mem_cons_self, by rw [hu]⟩
  | cons t ts ih =>
    rw [coalesceFrom] at hu
    split at hu
    · obtain ⟨w, hw, hval⟩ := ih hu
      rw [List.mem_cons] at hw
      cases hw with
      | inl hw => exact ⟨s, List.mem_cons_self, by rw [← hval, hw]⟩
      | inr hw => exact ⟨w, List.mem_cons_of_mem _ (List.mem_cons_of_mem _ hw), hval⟩
    · rw [List.mem_cons] at hu
      cases hu with
      | inl hu => exact ⟨s, List.mem_cons_self, by rw [hu]⟩
      | inr hu =>
        obtain ⟨w, hw, hval⟩ := ih hu
        exact ⟨w, List.mem_cons_of_mem _ hw, hval⟩

/-- The segments with those that touch and have the same value joined. -/
def coalesce : List (Segment α V) → List (Segment α V)
  | [] => []
  | s :: ss => coalesceFrom s ss

lemma Ordered.hasValue_coalesce (h : Ordered ss) :
    HasValue (coalesce ss) x v ↔ HasValue ss x v := by
  cases ss with
  | nil => rfl
  | cons s ss => exact h.hasValue_coalesceFrom

lemma Ordered.coalesce (h : Ordered ss) : Ordered (coalesce ss) := by
  cases ss with
  | nil => exact h
  | cons s ss => exact h.coalesceFrom

lemma reduced_coalesce (ss : List (Segment α V)) : Reduced (coalesce ss) := by
  cases ss with
  | nil => exact List.isChain_nil
  | cons s ss => exact reduced_coalesceFrom s ss

lemma exists_val_of_mem_coalesce {u : Segment α V} (hu : u ∈ coalesce ss) :
    ∃ t ∈ ss, t.val = u.val := by
  cases ss with
  | nil => contradiction
  | cons s ss => exact exists_val_of_mem_coalesceFrom hu

end Coalesce

/-- In an ordered reduced list any two segments that touch have different values. -/
lemma Ordered.val_ne_of_touch (h : Ordered ss) (hred : Reduced ss) (hs : s ∈ ss) (ht : t ∈ ss)
    (htouch : s.hi = t.lo) : s.val ≠ t.val := by
  induction ss with
  | nil => contradiction
  | cons u us ih =>
    obtain ⟨hu, hlater, hus⟩ := ordered_cons.mp h
    rw [List.mem_cons] at hs ht
    cases hs with
    | inl hs =>
      cases ht with
      | inl ht =>
        rw [hs, ht] at htouch
        exact absurd htouch hu.ne'
      | inr ht =>
        intro hval
        refine h.not_hasValue_hi hred ⟨t, List.mem_cons_of_mem _ ht, ?_, ?_⟩
        · rw [← hs, htouch]
          exact ⟨le_rfl, hus.nonempty t ht⟩
        · rw [← hs, hval]
    | inr hs =>
      cases ht with
      | inl ht =>
        -- `t` comes first and cannot start where `s` ends
        have hle := (hlater s hs).trans (hus.nonempty s hs).le
        rw [htouch, ht] at hle
        exact absurd hle (not_le.mpr hu)
      | inr ht => exact ih hus hred.tail hs ht

/-- A segment is known by where it starts. -/
lemma Ordered.eq_of_lo_eq (h : Ordered ss) (hs : s ∈ ss) (ht : t ∈ ss) (hlo : s.lo = t.lo) :
    s = t := by
  induction ss with
  | nil => contradiction
  | cons u us ih =>
    obtain ⟨hu, hlater, hus⟩ := ordered_cons.mp h
    have hafter : ∀ w ∈ us, u.lo ≠ w.lo := fun w hw => (hu.trans_le (hlater w hw)).ne
    rw [List.mem_cons] at hs ht
    cases hs with
    | inl hs =>
      cases ht with
      | inl ht => rw [hs, ht]
      | inr ht =>
        rw [hs] at hlo
        exact absurd hlo (hafter t ht)
    | inr hs =>
      cases ht with
      | inl ht =>
        rw [ht] at hlo
        exact absurd hlo.symm (hafter s hs)
      | inr ht => exact ih hus hs ht

end FreeRdp
