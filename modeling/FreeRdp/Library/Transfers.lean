import FreeRdp.Library.Copy

/-!
# Transfers

A transfer reads some cells of a memory and writes what it makes of them to other cells of the same
memory; it is possible only where its cells may be read and written. Transfers that are made one
after the other come to the same as all of them made at once, on the memory before, if none of them
writes to cells that a later one reads or writes.
-/

namespace FreeRdp

variable {α : Type*} {m m' : Nat → α} {a b n k i : Nat}

/-- Cells from `src` on, and what is made of them for the cells from `dst` on. -/
structure Transfer (α : Type*) where
  src : Nat
  srcLen : Nat
  dst : Nat
  dstLen : Nat
  image : List α → List α
  length_image : ∀ xs, xs.length = srcLen → (image xs).length = dstLen

/-- The cells that may be read, and those that may be written. -/
structure Areas where
  readable : Nat → Bool
  writable : Nat → Bool

/-- The `n` cells from `a` on may be read. -/
def Areas.Reads (areas : Areas) (a n : Nat) : Prop := ∀ i < n, areas.readable (a + i) = true

/-- The `n` cells from `a` on may be written. -/
def Areas.Writes (areas : Areas) (a n : Nat) : Prop := ∀ i < n, areas.writable (a + i) = true

instance (areas : Areas) (a n : Nat) : Decidable (areas.Reads a n) :=
  inferInstanceAs (Decidable (∀ i < n, areas.readable (a + i) = true))

instance (areas : Areas) (a n : Nat) : Decidable (areas.Writes a n) :=
  inferInstanceAs (Decidable (∀ i < n, areas.writable (a + i) = true))

/-- No cell that may be written may be read. -/
def Areas.Separate (areas : Areas) : Prop :=
  ∀ a, areas.readable a = true → areas.writable a = true → False

/-- The `n` cells from `a` on and the `k` cells from `b` on are not the same. -/
def Apart (a n b k : Nat) : Prop := n = 0 ∨ k = 0 ∨ a + n ≤ b ∨ b + k ≤ a

instance (a n b k : Nat) : Decidable (Apart a n b k) :=
  inferInstanceAs (Decidable (n = 0 ∨ k = 0 ∨ a + n ≤ b ∨ b + k ≤ a))

lemma Apart.symm (h : Apart a n b k) : Apart b k a n := by
  unfold Apart at h ⊢
  omega

/-- Cells that may be written and cells that may be read. -/
lemma Areas.Separate.apart {areas : Areas} (h : areas.Separate) (hw : areas.Writes a n)
    (hr : areas.Reads b k) : Apart a n b k := by
  by_contra hnot
  simp only [Apart, not_or, not_le] at hnot
  obtain ⟨hn, hk, hab, hba⟩ := hnot
  -- the larger of the two starts is in both
  have hread := hr (max a b - b) (by omega)
  have hwrite := hw (max a b - a) (by omega)
  rw [show b + (max a b - b) = max a b by omega] at hread
  rw [show a + (max a b - a) = max a b by omega] at hwrite
  exact h _ hread hwrite

namespace Transfer

variable {areas : Areas} {t : Transfer α} {ts : List (Transfer α)}

/-- The cells as they are. -/
def copy (dst src n : Nat) : Transfer α := ⟨src, n, dst, n, id, fun _ h => h⟩

/-- The memory after a transfer. -/
def apply (t : Transfer α) (m : Nat → α) : Nat → α :=
  writeList m t.dst (t.image (readList m t.src t.srcLen))

/-- The cells of a transfer may be read and written. -/
def Possible (areas : Areas) (t : Transfer α) : Prop :=
  areas.Reads t.src t.srcLen ∧ areas.Writes t.dst t.dstLen

instance (areas : Areas) (t : Transfer α) : Decidable (t.Possible areas) :=
  inferInstanceAs (Decidable (_ ∧ _))

/-- A transfer, if it is possible. -/
def run (areas : Areas) (t : Transfer α) (m : Nat → α) : Option (Nat → α) :=
  if t.Possible areas then some (t.apply m) else none

/-- Transfers one after the other. -/
def runAll (areas : Areas) (ts : List (Transfer α)) (m : Nat → α) : Option (Nat → α) :=
  ts.foldlM (fun m t => t.run areas m) m

/-- The memory after some transfers. -/
def applyAll (ts : List (Transfer α)) (m : Nat → α) : Nat → α := ts.foldl (fun m t => t.apply m) m

/-- No transfer writes to cells that a later one reads or writes. -/
def Independent (ts : List (Transfer α)) : Prop :=
  ts.Pairwise fun t u => Apart t.dst t.dstLen u.src u.srcLen ∧ Apart t.dst t.dstLen u.dst u.dstLen

@[simp] lemma runAll_nil : runAll areas [] m = some m := rfl

lemma runAll_cons : runAll areas (t :: ts) m = (t.run areas m).bind (runAll areas ts) := rfl

lemma runAll_append (us : List (Transfer α)) :
    runAll areas (ts ++ us) m = (runAll areas ts m).bind (runAll areas us) :=
  List.foldlM_append

lemma length_image_readList (t : Transfer α) (m : Nat → α) :
    (t.image (readList m t.src t.srcLen)).length = t.dstLen :=
  t.length_image _ (length_readList ..)

/-- Transfers are made exactly if all of them are possible. -/
lemma runAll_eq_some_iff :
    runAll areas ts m = some m' ↔ (∀ t ∈ ts, t.Possible areas) ∧ applyAll ts m = m' := by
  induction ts generalizing m with
  | nil => simp [applyAll]
  | cons t ts ih =>
    rw [runAll_cons, run, List.forall_mem_cons]
    by_cases ht : t.Possible areas
    · rw [if_pos ht, Option.bind_some, ih]
      exact and_congr_left fun _ => (and_iff_right ht).symm
    · rw [if_neg ht]
      simp [ht]

/-- Other cells keep their contents. -/
lemma apply_of_notMem (h : ¬(t.dst ≤ i ∧ i < t.dst + t.dstLen)) : t.apply m i = m i := by
  have hlength := t.length_image_readList m
  rcases Nat.lt_or_ge i t.dst with hlt | hge
  · exact writeList_of_lt hlt
  · exact writeList_of_ge (by omega)

lemma applyAll_of_notMem (h : ∀ t ∈ ts, ¬(t.dst ≤ i ∧ i < t.dst + t.dstLen)) :
    applyAll ts m i = m i := by
  induction ts generalizing m with
  | nil => rfl
  | cons t ts ih =>
    rw [List.forall_mem_cons] at h
    exact (ih h.2).trans (apply_of_notMem h.1)

/-- Cells apart from those that are written are read as before. -/
lemma readList_apply (h : Apart t.dst t.dstLen a n) :
    readList (t.apply m) a n = readList m a n := by
  rcases Nat.eq_zero_or_pos t.dstLen with hzero | hpos
  · rw [apply, List.length_eq_zero_iff.mp ((t.length_image_readList m).trans hzero), writeList_nil]
  · apply readList_writeList_of_disjoint
    rw [length_image_readList]
    unfold Apart at h
    omega

lemma readList_applyAll_of_apart (h : ∀ t ∈ ts, Apart t.dst t.dstLen a n) :
    readList (applyAll ts m) a n = readList m a n := by
  induction ts generalizing m with
  | nil => rfl
  | cons t ts ih =>
    rw [List.forall_mem_cons] at h
    exact (ih h.2).trans (readList_apply h.1)

/-- Independent transfers are made from the memory before. -/
theorem readList_applyAll (h : Independent ts) (ht : t ∈ ts) :
    readList (applyAll ts m) t.dst t.dstLen = t.image (readList m t.src t.srcLen) := by
  induction ts generalizing m with
  | nil => exact absurd ht List.not_mem_nil
  | cons u ts ih =>
    obtain ⟨hu, hts⟩ := List.pairwise_cons.mp h
    rcases List.mem_cons.mp ht with rfl | hmem
    · -- the later transfers leave what this one has written
      have hlater : readList (applyAll ts (t.apply m)) t.dst t.dstLen =
          readList (t.apply m) t.dst t.dstLen :=
        readList_applyAll_of_apart fun v hv => (hu v hv).2.symm
      have hwritten : readList (t.apply m) t.dst (t.image (readList m t.src t.srcLen)).length =
          t.image (readList m t.src t.srcLen) := readList_writeList
      rw [length_image_readList] at hwritten
      exact hlater.trans hwritten
    · -- and this one leaves what they read
      refine (ih hts hmem).trans ?_
      rw [readList_apply (hu t hmem).1]

end Transfer

end FreeRdp
