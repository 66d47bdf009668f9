import Mathlib.Tactic

/-!
# Elements in buckets

A list of buckets, where each element has the bucket it belongs to. One bucket is changed at a time;
what this does to the elements altogether is said up to their order.
-/

namespace FreeRdp

variable {α : Type*} {index : α → Nat} {bs : List (List α)} {i : Nat} {c : List α}

/-- Every element is in its bucket. -/
def InBuckets (index : α → Nat) (bs : List (List α)) : Prop :=
  ∀ i c, bs[i]? = some c → ∀ a ∈ c, index a = i

/-- The elements of one bucket, and those of the others. -/
lemma perm_bucket (h : bs[i]? = some c) : bs.flatten.Perm (c ++ (bs.eraseIdx i).flatten) := by
  obtain ⟨hi, rfl⟩ := List.getElem?_eq_some_iff.mp h
  exact (List.getElem_cons_eraseIdx_perm hi).symm.flatten

/-- The same after the bucket has been changed. -/
lemma perm_set_bucket (h : i < bs.length) (c : List α) :
    (bs.set i c).flatten.Perm (c ++ (bs.eraseIdx i).flatten) := by
  have hget : (bs.set i c)[i]? = some c := List.getElem?_set_self h
  rw [← List.eraseIdx_set_eq (a := c)]
  exact perm_bucket hget

lemma InBuckets.set (h : InBuckets index bs) (hc : ∀ a ∈ c, index a = i) :
    InBuckets index (bs.set i c) := by
  intro j d hd a ha
  rw [List.getElem?_set] at hd
  split at hd
  · rename_i hij
    split at hd
    · obtain rfl := Option.some.inj hd
      exact hij ▸ hc a ha
    · cases hd
  · exact h j d hd a ha

/-- An element of a bucket is in the bucket it belongs to. -/
lemma InBuckets.mem_bucket (h : InBuckets index bs) {a : α} (ha : a ∈ bs.flatten) :
    a ∈ bs.getD (index a) [] := by
  obtain ⟨c, hc, hac⟩ := List.mem_flatten.mp ha
  obtain ⟨j, hj⟩ := List.mem_iff_getElem?.mp hc
  rw [h j c hj a hac, List.getD_eq_getElem?_getD, hj]
  exact hac

lemma mem_of_mem_bucket {a : α} (ha : a ∈ bs.getD i []) : a ∈ bs.flatten := by
  rw [List.getD_eq_getElem?_getD] at ha
  cases hi : bs[i]? with
  | none =>
    rw [hi] at ha
    cases ha
  | some c =>
    rw [hi] at ha
    exact List.mem_flatten.mpr ⟨c, List.mem_of_getElem? hi, ha⟩

lemma inBuckets_replicate (index : α → Nat) (n : Nat) :
    InBuckets index (List.replicate n ([] : List α)) := by
  intro i c hc a ha
  obtain rfl := List.eq_of_mem_replicate (List.mem_of_getElem? hc)
  cases ha

/-- The elements put one after another at the front of their buckets. -/
def putAll (index : α → Nat) (bs : List (List α)) (as : List α) : List (List α) :=
  as.foldl (fun bs a => bs.set (index a) (a :: bs.getD (index a) [])) bs

@[simp] lemma length_putAll (index : α → Nat) (bs : List (List α)) (as : List α) :
    (putAll index bs as).length = bs.length := by
  induction as generalizing bs with
  | nil => rfl
  | cons a as ih =>
    rw [putAll, List.foldl_cons]
    exact (ih _).trans List.length_set

lemma inBuckets_bucket (h : InBuckets index bs) {a : α} (ha : a ∈ bs.getD i []) : index a = i := by
  rw [List.getD_eq_getElem?_getD] at ha
  cases hi : bs[i]? with
  | none =>
    rw [hi] at ha
    cases ha
  | some c =>
    rw [hi] at ha
    exact h i c hi a ha

lemma InBuckets.putAll (h : InBuckets index bs) (as : List α) :
    InBuckets index (putAll index bs as) := by
  induction as generalizing bs with
  | nil => exact h
  | cons a as ih =>
    refine ih (h.set ?_)
    intro b hb
    rcases List.mem_cons.mp hb with rfl | hb
    · rfl
    · exact inBuckets_bucket h hb

lemma perm_putAll {as : List α} (h : ∀ a ∈ as, index a < bs.length) :
    (putAll index bs as).flatten.Perm (as ++ bs.flatten) := by
  induction as generalizing bs with
  | nil => exact .refl _
  | cons a as ih =>
    have ha := h a List.mem_cons_self
    have hbucket : bs[index a]? = some (bs.getD (index a) []) := by
      rw [List.getD_eq_getElem?_getD, List.getElem?_eq_getElem ha]
      rfl
    have hput : (bs.set (index a) (a :: bs.getD (index a) [])).flatten.Perm (a :: bs.flatten) :=
      (perm_set_bucket ha _).trans ((perm_bucket hbucket).symm.cons a)
    refine (ih ?_).trans ((hput.append_left as).trans List.perm_middle)
    intro b hb
    rw [List.length_set]
    exact h b (List.mem_cons_of_mem a hb)

end FreeRdp
