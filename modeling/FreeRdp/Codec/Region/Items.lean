import Mathlib.Data.List.TakeWhile
import FreeRdp.Library.Segments
import FreeRdp.Codec.Region.Basic

/-!
# The items of a band

Within a band only the left and right sides of the rectangles differ: a band is a list of segments
on the x axis. `region16_copy_band_with_union` adds one segment to such a list, and joins it with
the items it meets.
-/

namespace FreeRdp

/-- The items of a band. -/
abbrev Items := List (Segment Nat Unit)

/-- The left side of the segment that replaces the items from `rest` on that meet it. -/
def mergeStart (l : Nat) : Items → Nat
  | i :: _ => if i.lo < l then i.lo else l
  | [] => l

/-- The segment that ends at `r` or with the item that reaches over `r`, and the items after it. -/
def mergeEnd (r start : Nat) : Items → Items
  | i :: after => if i.lo < r then ⟨start, i.hi, ()⟩ :: after else ⟨start, r, ()⟩ :: i :: after
  | [] => [⟨start, r, ()⟩]

/-- The items with the segment from `l` to `r` added, as `region16_copy_band_with_union` adds it. -/
def mergeItems (l r : Nat) (items : Items) : Items :=
  let before := items.takeWhile (fun i => decide (i.hi < l))
  let rest := items.dropWhile (fun i => decide (i.hi < l))
  before ++ mergeEnd r (mergeStart l rest) (rest.dropWhile (fun i => decide (i.hi < r)))

/-- How a list of items becomes another one when the segment from `l` to `r` is added: the items
`mid` are replaced by one segment from `start` to `stop`. -/
structure MergedItems (l r : Nat) (before mid after : Items) (start stop : Nat) : Prop where
  before_lt : ∀ i ∈ before, i.hi < l
  before_le : ∀ i ∈ before, i.hi ≤ start
  mid_le : ∀ i ∈ mid, start ≤ i.lo ∧ i.hi ≤ stop
  le_after : ∀ i ∈ after, stop ≤ i.lo
  start_le : start ≤ l
  le_stop : r ≤ stop
  start_eq : start = l ∨ ∃ i ∈ mid, i.lo = start ∧ l ≤ i.hi
  stop_eq : stop = r ∨ ∃ i ∈ mid, i.hi = stop ∧ i.lo < r

/-- In an ordered list the items after one that ends at `a` or later do so too. -/
lemma Ordered.le_hi_of_head {i j : Segment Nat Unit} {items : Items} {a : Nat}
    (h : Ordered (i :: items)) (hi : a ≤ i.hi) (hj : j ∈ i :: items) : a ≤ j.hi := by
  obtain ⟨-, hlater, hitems⟩ := ordered_cons.mp h
  rw [List.mem_cons] at hj
  cases hj with
  | inl hj =>
    rw [hj]
    exact hi
  | inr hj => exact hi.trans ((hlater j hj).trans (hitems.nonempty j hj).le)

lemma Ordered.lo_le_of_mem {i j : Segment Nat Unit} {items : Items} (h : Ordered (i :: items))
    (hj : j ∈ i :: items) : i.lo ≤ j.lo := by
  obtain ⟨hi, hlater, -⟩ := ordered_cons.mp h
  rw [List.mem_cons] at hj
  cases hj with
  | inl hj => rw [hj]
  | inr hj => exact hi.le.trans (hlater j hj)

/-- The left side of the new segment. -/
lemma mergeStart_spec {l : Nat} {before rest : Items} (h : Ordered (before ++ rest))
    (hbefore : ∀ i ∈ before, i.hi < l) (hrest : ∀ i ∈ rest, l ≤ i.hi) :
    mergeStart l rest ≤ l ∧ (∀ i ∈ before, i.hi ≤ mergeStart l rest) ∧
      (∀ i ∈ rest, mergeStart l rest ≤ i.lo) ∧
      (mergeStart l rest = l ∨
        ∃ i ∈ rest.head?, i.lo = mergeStart l rest ∧ i.lo < l ∧ l ≤ i.hi) := by
  obtain ⟨-, hordered, hcross⟩ := ordered_append.mp h
  cases rest with
  | nil => exact ⟨le_rfl, fun i hi => (hbefore i hi).le, by simp, Or.inl rfl⟩
  | cons i rest =>
    by_cases hlo : i.lo < l
    · rw [mergeStart, if_pos hlo]
      refine ⟨hlo.le, ?_, ?_, ?_⟩
      · intro j hj
        exact hcross j hj i List.mem_cons_self
      · intro j hj
        exact hordered.lo_le_of_mem hj
      · exact Or.inr ⟨i, rfl, rfl, hlo, hrest i List.mem_cons_self⟩
    · rw [mergeStart, if_neg hlo]
      refine ⟨le_rfl, fun j hj => (hbefore j hj).le, ?_, Or.inl rfl⟩
      intro j hj
      exact (not_lt.mp hlo).trans (hordered.lo_le_of_mem hj)

/-- The right side of the new segment: the items of `after` that it takes in and those it leaves. -/
lemma mergeEnd_spec (start : Nat) {r : Nat} {after : Items} (h : Ordered after)
    (hafter : ∀ i ∈ after, r ≤ i.hi) :
    ∃ taken rest stop, after = taken ++ rest ∧
      mergeEnd r start after = ⟨start, stop, ()⟩ :: rest ∧ r ≤ stop ∧
      (∀ i ∈ taken, i.hi ≤ stop) ∧ (∀ i ∈ rest, stop ≤ i.lo) ∧
      (stop = r ∨ ∃ i ∈ taken, i.hi = stop ∧ i.lo < r) ∧
      (∀ i ∈ after.head?, i ∈ taken ∨ r ≤ i.lo) := by
  cases after with
  | nil => exact ⟨[], [], r, rfl, rfl, le_rfl, by simp, by simp, Or.inl rfl, by simp⟩
  | cons i after =>
    by_cases hlo : i.lo < r
    · -- the item `i` reaches into the new segment and ends it
      refine ⟨[i], after, i.hi, rfl, if_pos hlo, hafter i List.mem_cons_self, by simp,
        (ordered_cons.mp h).2.1, Or.inr ⟨i, List.mem_singleton_self i, rfl, hlo⟩, by simp⟩
    · refine ⟨[], i :: after, r, rfl, if_neg hlo, le_rfl, by simp, ?_, Or.inl rfl, ?_⟩
      · intro j hj
        exact (not_lt.mp hlo).trans (h.lo_le_of_mem hj)
      · simpa using hlo

lemma Ordered.le_hi_of_dropWhile {a : Nat} {items : Items} (h : Ordered items) :
    ∀ i ∈ items.dropWhile (fun i => decide (i.hi < a)), a ≤ i.hi := by
  induction items with
  | nil => simp
  | cons i items ih =>
    rw [List.dropWhile_cons]
    split
    · exact ih (ordered_cons.mp h).2.2
    · rename_i hi
      intro j hj
      exact h.le_hi_of_head (by simpa using hi) hj

lemma hi_lt_of_takeWhile {a : Nat} {items : Items} :
    ∀ i ∈ items.takeWhile (fun i => decide (i.hi < a)), i.hi < a := by
  intro i hi
  simpa using List.mem_takeWhile_imp hi

/-- `mergeItems` replaces the items that meet the new segment by one. -/
lemma mergeItems_eq {l r : Nat} {items : Items} (h : Ordered items) (hlr : l < r) :
    ∃ before mid after start stop, items = before ++ mid ++ after ∧
      mergeItems l r items = before ++ ⟨start, stop, ()⟩ :: after ∧
      MergedItems l r before mid after start stop := by
  obtain ⟨before, hbeforeEq⟩ : ∃ b, items.takeWhile (fun i => decide (i.hi < l)) = b := ⟨_, rfl⟩
  obtain ⟨rest, hrestEq⟩ : ∃ b, items.dropWhile (fun i => decide (i.hi < l)) = b := ⟨_, rfl⟩
  obtain ⟨mid, hmidEq⟩ : ∃ b, rest.takeWhile (fun i => decide (i.hi < r)) = b := ⟨_, rfl⟩
  obtain ⟨later, hlaterEq⟩ : ∃ b, rest.dropWhile (fun i => decide (i.hi < r)) = b := ⟨_, rfl⟩
  have hsplit : items = before ++ rest := by
    rw [← hbeforeEq, ← hrestEq, List.takeWhile_append_dropWhile]
  have hsplit' : rest = mid ++ later := by
    rw [← hmidEq, ← hlaterEq, List.takeWhile_append_dropWhile]
  have hbefore : ∀ i ∈ before, i.hi < l := hbeforeEq ▸ hi_lt_of_takeWhile
  have hrest : ∀ i ∈ rest, l ≤ i.hi := hrestEq ▸ h.le_hi_of_dropWhile
  have hmid : ∀ i ∈ mid, i.hi < r := hmidEq ▸ hi_lt_of_takeWhile
  rw [hsplit] at h
  obtain ⟨-, hrestOrd, -⟩ := ordered_append.mp h
  have hlater : ∀ i ∈ later, r ≤ i.hi := hlaterEq ▸ hrestOrd.le_hi_of_dropWhile
  obtain ⟨hstartLe, hbeforeLe, hstartRest, hstartEq⟩ := mergeStart_spec h hbefore hrest
  rw [hsplit'] at hrestOrd
  obtain ⟨taken, after, stop, htaken, hend, hstop, htakenLe, hafterLe, hstopEq, hhead⟩ :=
    mergeEnd_spec (mergeStart l rest) (ordered_append.mp hrestOrd).2.1 hlater
  have hmem : ∀ i ∈ mid ++ taken, i ∈ rest := by
    intro i hi
    rw [hsplit', htaken, ← List.append_assoc]
    exact List.mem_append_left _ hi
  refine ⟨before, mid ++ taken, after, mergeStart l rest, stop, ?_, ?_, hbefore, hbeforeLe, ?_,
    hafterLe, hstartLe, hstop, ?_, ?_⟩
  · rw [hsplit, hsplit', htaken, List.append_assoc, List.append_assoc]
  · rw [mergeItems, hbeforeEq, hrestEq, hlaterEq, hend]
  · intro i hi
    refine ⟨hstartRest i (hmem i hi), ?_⟩
    rw [List.mem_append] at hi
    cases hi with
    | inl hi => exact (hmid i hi).le.trans hstop
    | inr hi => exact htakenLe i hi
  · refine hstartEq.imp_right ?_
    rintro ⟨i, hi, hilo, hil, hihi⟩
    refine ⟨i, ?_, hilo, hihi⟩
    -- the first item of `rest` is in `mid`, or it reaches over `r` and is taken
    rw [hsplit'] at hi
    cases mid with
    | nil =>
      refine (hhead i hi).resolve_right ?_
      exact not_le.mpr (hil.trans hlr)
    | cons m mid =>
      obtain rfl : m = i := by simpa using hi
      exact List.mem_cons_self
  · refine hstopEq.imp_right ?_
    rintro ⟨i, hi, heq⟩
    exact ⟨i, List.mem_append_right _ hi, heq⟩

section Merged

variable {l r start stop : Nat} {before mid after items : Items}

lemma MergedItems.ordered (h : MergedItems l r before mid after start stop)
    (hitems : Ordered (before ++ mid ++ after)) (hlr : l < r) :
    Ordered (before ++ ⟨start, stop, ()⟩ :: after) := by
  obtain ⟨hleft, hafter, hcross⟩ := ordered_append.mp hitems
  obtain ⟨hbefore, -, -⟩ := ordered_append.mp hleft
  have hsegment : start < stop := h.start_le.trans_lt (hlr.trans_le h.le_stop)
  refine ordered_append.mpr ⟨hbefore, ordered_cons.mpr ⟨hsegment, h.le_after, hafter⟩, ?_⟩
  intro i hi j hj
  rw [List.mem_cons] at hj
  cases hj with
  | inl hj =>
    rw [hj]
    exact h.before_le i hi
  | inr hj => exact hcross i (List.mem_append_left _ hi) j hj

/-- The new segment covers what the items it replaces cover, and the places from `l` to `r`. -/
lemma MergedItems.covers (h : MergedItems l r before mid after start stop) {x : Nat} :
    start ≤ x ∧ x < stop ↔ HasValue mid x () ∨ l ≤ x ∧ x < r := by
  constructor
  · rintro ⟨hstart, hstop⟩
    by_cases hl : l ≤ x
    · by_cases hr : x < r
      · exact Or.inr ⟨hl, hr⟩
      · left
        rcases h.stop_eq with heq | ⟨i, hi, hihi, hilo⟩
        · omega
        · exact ⟨i, hi, ⟨by omega, by omega⟩, rfl⟩
    · left
      rcases h.start_eq with heq | ⟨i, hi, hilo, hihi⟩
      · omega
      · exact ⟨i, hi, ⟨by omega, by omega⟩, rfl⟩
  · rintro (⟨i, hi, hcov, -⟩ | ⟨hl, hr⟩)
    · obtain ⟨hlo, hhi⟩ := h.mid_le i hi
      exact ⟨hlo.trans hcov.1, hcov.2.trans_le hhi⟩
    · exact ⟨h.start_le.trans hl, hr.trans_le h.le_stop⟩

lemma ordered_mergeItems (h : Ordered items) (hlr : l < r) : Ordered (mergeItems l r items) := by
  obtain ⟨before, mid, after, start, stop, hitems, hmerge, hmerged⟩ := mergeItems_eq h hlr
  rw [hitems] at h
  rw [hmerge]
  exact hmerged.ordered h hlr

lemma hasValue_mergeItems (h : Ordered items) (hlr : l < r) {x : Nat} :
    HasValue (mergeItems l r items) x () ↔ HasValue items x () ∨ l ≤ x ∧ x < r := by
  obtain ⟨before, mid, after, start, stop, hitems, hmerge, hmerged⟩ := mergeItems_eq h hlr
  rw [hmerge, hitems]
  simp only [hasValue_append, hasValue_cons, Segment.Covers, and_true, hmerged.covers]
  tauto

lemma mergeItems_ne_nil (l r : Nat) (items : Items) : mergeItems l r items ≠ [] := by
  have hend : ∀ start rest, mergeEnd r start rest ≠ [] := by
    intro start rest
    cases rest with
    | nil => simp [mergeEnd]
    | cons i rest =>
      rw [mergeEnd]
      split <;> simp
  simp [mergeItems, hend]

lemma length_mergeItems_le (h : Ordered items) (hlr : l < r) :
    (mergeItems l r items).length ≤ items.length + 1 := by
  obtain ⟨before, mid, after, start, stop, hitems, hmerge, -⟩ := mergeItems_eq h hlr
  rw [hmerge, hitems]
  simp only [List.length_append, List.length_cons]
  omega

/-! ### Items that do not touch -/

/-- No two items touch. -/
def Separated (items : Items) : Prop := items.Pairwise (fun i j => i.hi < j.lo)

lemma Separated.reduced (h : Separated items) : Reduced items := by
  refine List.Pairwise.isChain (h.imp ?_)
  intro i j hlt htouch
  omega

/-- The new segment touches the item after it only where that starts at the right side of the
rectangle: the items before the rectangle are joined if they touch it, the items after are not. -/
lemma separated_mergeItems (h : Ordered items) (hsep : Separated items) (hlr : l < r)
    (hright : ∀ i ∈ items, i.lo ≠ r) : Separated (mergeItems l r items) := by
  obtain ⟨before, mid, after, start, stop, hitems, hmerge, hmerged⟩ := mergeItems_eq h hlr
  rw [hmerge]
  rw [hitems] at hsep hright
  obtain ⟨hleft, hafter, hcross⟩ := List.pairwise_append.mp hsep
  obtain ⟨hbefore, -, hbeforeMid⟩ := List.pairwise_append.mp hleft
  refine List.pairwise_append.mpr ⟨hbefore, List.pairwise_cons.mpr ⟨?_, hafter⟩, ?_⟩
  · intro i hi
    rcases hmerged.stop_eq with heq | ⟨j, hj, hjhi, -⟩
    · have hle := hmerged.le_after i hi
      have hne := hright i (List.mem_append_right _ hi)
      show stop < i.lo
      omega
    · show stop < i.lo
      rw [← hjhi]
      exact hcross j (List.mem_append_right _ hj) i hi
  · intro i hi j hj
    rw [List.mem_cons] at hj
    cases hj with
    | inl hj =>
      rw [hj]
      show i.hi < start
      rcases hmerged.start_eq with heq | ⟨m, hm, hmlo, -⟩
      · rw [heq]
        exact hmerged.before_lt i hi
      · rw [← hmlo]
        exact hbeforeMid i hi m hm
    | inr hj => exact hcross i (List.mem_append_left _ hi) j hj

end Merged

end FreeRdp
