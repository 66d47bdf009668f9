import FreeRdp.Library.Ring
import FreeRdp.Library.Runs
import FreeRdp.Winpr.Crt

/-!
# Queues

`Queue.c`. Each function holds the lock of the queue while it works, so that a run is a list of
calls. A queue is a ring; `Queue_Enqueue` and `Queue_Dequeue` walk it modulo the capacity, but
`Queue_Contains` reads the slots from the first one to the tail, and `Queue_Clear` stops at the
tail, which is the head of a full queue.
-/

namespace FreeRdp

/-- `wQueue`, with the state of its manual-reset event; pointers are addresses. -/
structure WQueue where
  capacity : Nat
  growthFactor : Nat
  head : Nat
  tail : Nat
  size : Nat
  array : Nat → Nat
  event : Bool

/-- `Queue_New`. -/
def queueNew (capacity growthFactor : Int) : WQueue where
  capacity := if 0 < capacity then capacity.toNat else 32
  growthFactor := if 0 < growthFactor then growthFactor.toNat else 2
  head := 0
  tail := 0
  size := 0
  array := fun _ => 0
  event := false

/-- The loop of `Queue_Clear` from an index on: the objects that are freed, and the array. -/
def queueClearLoop (capacity tail : Nat) :
    Nat → (Nat → Nat) → Nat → Option (List Nat × (Nat → Nat))
  | 0, _, _ => none
  | fuel + 1, array, index =>
    if index = tail then some ([], array)
    else
      (queueClearLoop capacity tail fuel (Function.update array index 0)
        ((index + 1) % capacity)).map fun (released, array') => (array index :: released, array')

/-- `Queue_Clear`; its loop comes to the tail before it has seen every slot. -/
def queueClear (queue : WQueue) : Option (List Nat × WQueue) :=
  (queueClearLoop queue.capacity queue.tail queue.capacity queue.array queue.head).map
    fun (released, array) =>
      (released, { queue with array := array, size := 0, head := 0, tail := 0 })

/-- `Queue_Contains`. -/
def queueContains (fnObjectEquals : Nat → Nat → Bool) (queue : WQueue) (obj : Nat) : Bool :=
  (List.range queue.tail).any fun index => fnObjectEquals (queue.array index) obj

/-- `new_capacity`, an `int`. -/
def queueGrowCapacity (queue : WQueue) : Int :=
  Int.bmod (queue.capacity * queue.growthFactor) (2 ^ 32)

/-- The first part of `Queue_Enqueue`: a full queue grows. -/
def queueReserve (realloc : Malloc) (queue : WQueue) : Option WQueue :=
  if queue.size = queue.capacity then
    let newCapacity := queueGrowCapacity queue
    if !realloc.succeeds (8 * newCapacity % 2 ^ 64).toNat then none
    else
      let oldCapacity := queue.capacity
      let array := writeList queue.array oldCapacity
        (List.replicate (newCapacity.toNat - oldCapacity) 0)
      let queue := { queue with array := array, capacity := newCapacity.toNat }
      -- rearrange wrapped entries
      if queue.tail ≤ queue.head then
        some { queue with
          array := writeList queue.array oldCapacity (readList queue.array 0 queue.tail)
          tail := queue.tail + oldCapacity }
      else some queue
  else some queue

/-- `Queue_Enqueue`. -/
def queueEnqueue (realloc : Malloc) (queue : WQueue) (obj : Nat) : Bool × WQueue :=
  match queueReserve realloc queue with
  | none => (false, queue)
  | some queue =>
    (true, { queue with
      array := Function.update queue.array queue.tail obj
      tail := (queue.tail + 1) % queue.capacity
      size := queue.size + 1
      event := true })

/-- `Queue_Dequeue`. -/
def queueDequeue (queue : WQueue) : Nat × WQueue :=
  let (obj, queue) :=
    if 0 < queue.size then
      (queue.array queue.head, { queue with
        array := Function.update queue.array queue.head 0
        head := (queue.head + 1) % queue.capacity
        size := queue.size - 1 })
    else (0, queue)
  (obj, if queue.size < 1 then { queue with event := false } else queue)

/-- `Queue_Peek`. -/
def queuePeek (queue : WQueue) : Nat := if 0 < queue.size then queue.array queue.head else 0

/-! ### The objects in a queue -/

/-- The slots that hold the objects of a queue, in order. -/
def WQueue.slots (queue : WQueue) : List Nat :=
  (List.range queue.size).map fun i => (queue.head + i) % queue.capacity

/-- The objects in a queue, in order. -/
def WQueue.objects (queue : WQueue) : List Nat := queue.slots.map queue.array

/-- The invariant of queues, apart from the event. -/
structure WQueue.InRing (queue : WQueue) : Prop where
  head_lt : queue.head < queue.capacity
  size_le : queue.size ≤ queue.capacity
  tail_eq : queue.tail = (queue.head + queue.size) % queue.capacity
  growthFactor_ge : 2 ≤ queue.growthFactor

variable {queue queue' : WQueue} {fnObjectEquals : Nat → Nat → Bool} {obj : Nat}

lemma WQueue.objects_eq (queue : WQueue) :
    queue.objects = ringList queue.array queue.capacity queue.head queue.size := by
  rw [objects, slots, List.map_map]
  rfl

@[simp] lemma WQueue.length_objects (queue : WQueue) : queue.objects.length = queue.size := by
  rw [queue.objects_eq, length_ringList]

lemma WQueue.objects_ne_nil (queue : WQueue) : queue.objects ≠ [] ↔ 0 < queue.size := by
  rw [← List.length_pos_iff, queue.length_objects]

lemma WQueue.exists_mem_objects {P : Nat → Prop} :
    (∃ x ∈ queue.objects, P x) ↔ ∃ i ∈ queue.slots, P (queue.array i) := by
  simp [objects]

lemma WQueue.InRing.new {capacity growthFactor : Int}
    (h : 2 ≤ (queueNew capacity growthFactor).growthFactor) :
    (queueNew capacity growthFactor).InRing where
  head_lt := by
    dsimp only [queueNew]
    split
    · omega
    · decide
  size_le := Nat.zero_le _
  tail_eq := (Nat.zero_mod _).symm
  growthFactor_ge := h

/-- The capacity of a full queue, enlarged by its growth factor, is an `int`. -/
def WQueue.Grows (queue : WQueue) : Prop :=
  queue.size = queue.capacity → queue.capacity * queue.growthFactor ≤ INT_MAX

instance (queue : WQueue) : Decidable queue.Grows :=
  inferInstanceAs (Decidable (_ → _))

/-- An `int` that does not overflow. -/
private lemma toNat_bmod_of_le {n : Nat} (h : n ≤ INT_MAX) : (Int.bmod n (2 ^ 32)).toNat = n := by
  rw [INT_MAX] at h
  rw [Int.bmod_eq_of_le (by omega) (by omega)]
  exact Int.toNat_natCast n

lemma queueGrowCapacity_of_le (h : queue.capacity * queue.growthFactor ≤ INT_MAX) :
    (queueGrowCapacity queue).toNat = queue.capacity * queue.growthFactor := by
  have hint := toNat_bmod_of_le h
  rwa [Int.natCast_mul] at hint

/-- A queue that grows keeps its objects, and has a free slot after them. -/
lemma WQueue.InRing.reserve (h : queue.InRing) (hgrows : queue.Grows) {realloc : Malloc}
    (hreserve : queueReserve realloc queue = some queue') :
    queue'.InRing ∧ queue'.objects = queue.objects ∧ queue'.size < queue'.capacity := by
  unfold queueReserve at hreserve
  have hpos := h.head_lt
  split at hreserve
  · rename_i hfull
    have hint := hgrows hfull
    have hdouble : queue.capacity * 2 ≤ queue.capacity * queue.growthFactor :=
      Nat.mul_le_mul_left _ h.growthFactor_ge
    have hcapacity := queueGrowCapacity_of_le hint
    dsimp only at hreserve
    split at hreserve
    · cases hreserve
    -- the queue is full, so its tail is its head
    have htail : queue.tail = queue.head := by
      rw [h.tail_eq, hfull, Nat.add_mod_right, Nat.mod_eq_of_lt h.head_lt]
    rw [hcapacity, if_pos htail.le] at hreserve
    obtain rfl := Option.some.inj hreserve
    refine ⟨⟨?_, ?_, ?_, h.growthFactor_ge⟩, ?_, ?_⟩
    · exact hpos.trans (by dsimp only; omega)
    · dsimp only
      omega
    · dsimp only
      rw [htail, hfull, Nat.mod_eq_of_lt (by omega)]
    · rw [objects_eq, objects_eq, hfull]
      refine ringList_grow hdouble hpos ?_ ?_
      · intro i _ hi
        dsimp only
        rw [writeList_of_lt hi, writeList_of_lt hi]
      · intro i hi
        dsimp only
        rw [writeList_add (by rwa [length_readList, htail]), getElem_readList, Nat.zero_add,
          writeList_of_lt (hi.trans hpos)]
    · dsimp only
      omega
  · rename_i hfull
    obtain rfl := Option.some.inj hreserve
    exact ⟨h, rfl, lt_of_le_of_ne h.size_le hfull⟩

/-- `Queue_Enqueue` fails, or appends the object. -/
lemma WQueue.InRing.enqueue (h : queue.InRing) (hgrows : queue.Grows) (realloc : Malloc)
    (obj : Nat) :
    (queueEnqueue realloc queue obj).2.InRing ∧
      ((queueEnqueue realloc queue obj) = (false, queue) ∨
        (queueEnqueue realloc queue obj).1 = true ∧
          (queueEnqueue realloc queue obj).2.objects = queue.objects ++ [obj] ∧
          (queueEnqueue realloc queue obj).2.event = true) := by
  unfold queueEnqueue
  split
  · exact ⟨h, .inl rfl⟩
  · rename_i queue₁ hreserve
    obtain ⟨hring, hobjects, hlt⟩ := h.reserve hgrows hreserve
    refine ⟨⟨hring.head_lt, hlt, ?_, hring.growthFactor_ge⟩, .inr ⟨rfl, ?_, rfl⟩⟩
    · dsimp only
      rw [hring.tail_eq, Nat.mod_add_mod, Nat.add_assoc]
    · rw [← hobjects, objects_eq, objects_eq]
      dsimp only
      rw [hring.tail_eq]
      exact ringList_update hring.head_lt hlt

/-- `Queue_Dequeue` takes the first object, and `NULL` from an empty queue. -/
lemma WQueue.InRing.dequeue (h : queue.InRing) :
    (queueDequeue queue).2.InRing ∧ (queueDequeue queue).1 = queue.objects.headD 0 ∧
      (queueDequeue queue).2.objects = queue.objects.tail ∧
      (queueDequeue queue).2.event =
        (queue.event && decide (0 < (queueDequeue queue).2.size)) := by
  have hpos : 0 < queue.capacity := Nat.zero_lt_of_lt h.head_lt
  rcases Nat.eq_zero_or_pos queue.size with hzero | hsize
  · -- an empty queue stays empty
    have hdequeue : queueDequeue queue = (0, { queue with event := false }) := by
      unfold queueDequeue
      rw [if_neg (by omega)]
      dsimp only
      rw [if_pos (by omega)]
    have hobjects : queue.objects = [] := by
      rw [objects_eq, hzero]
      rfl
    rw [hdequeue, hobjects]
    refine ⟨⟨h.head_lt, h.size_le, h.tail_eq, h.growthFactor_ge⟩, rfl, ?_, ?_⟩
    · exact hobjects
    · dsimp only
      rw [hzero]
      exact (Bool.and_false _).symm
  · obtain ⟨n, hn⟩ := Nat.exists_eq_succ_of_ne_zero hsize.ne'
    have hle := h.size_le
    have hobjects : queue.objects = queue.array queue.head ::
        ringList queue.array queue.capacity ((queue.head + 1) % queue.capacity) n := by
      rw [objects_eq, hn]
      exact ringList_succ h.head_lt n
    have hdequeue : queueDequeue queue = (queue.array queue.head, { queue with
        array := Function.update queue.array queue.head 0
        head := (queue.head + 1) % queue.capacity
        size := n
        event := queue.event && decide (0 < n) }) := by
      unfold queueDequeue
      rw [if_pos hsize]
      dsimp only
      rw [hn, Nat.succ_sub_one]
      split
      · rw [decide_eq_false (by omega), Bool.and_false]
      · rw [decide_eq_true (by omega), Bool.and_true]
    rw [hdequeue, hobjects]
    refine ⟨⟨Nat.mod_lt _ hpos, by dsimp only; omega, ?_, h.growthFactor_ge⟩, rfl, ?_, rfl⟩
    · dsimp only
      rw [h.tail_eq, Nat.mod_add_mod, hn, Nat.succ_eq_add_one, Nat.add_comm n 1, Nat.add_assoc]
    · rw [objects_eq]
      exact ringList_update_head h.head_lt (by dsimp only; omega)

/-- `Queue_Peek` returns the object that `Queue_Dequeue` takes. -/
lemma queuePeek_eq (queue : WQueue) : queuePeek queue = (queueDequeue queue).1 := by
  unfold queuePeek queueDequeue
  split
  · rfl
  · rfl

/-! ### The whole collection -/

/-- The loop of `Queue_Clear` frees the objects from the index to the tail, and ends. -/
lemma queueClearLoop_eq {capacity tail n : Nat} :
    ∀ {fuel : Nat} (array : Nat → Nat) {index : Nat}, index < capacity → n < fuel →
      n < capacity → tail = (index + n) % capacity →
      ∃ array', queueClearLoop capacity tail fuel array index =
        some (ringList array capacity index n, array') := by
  induction n with
  | zero =>
    intro fuel array index hindex hfuel _ htail
    obtain ⟨fuel, rfl⟩ := Nat.exists_eq_succ_of_ne_zero (Nat.ne_zero_of_lt hfuel)
    rw [Nat.add_zero, Nat.mod_eq_of_lt hindex] at htail
    rw [queueClearLoop, if_pos htail.symm]
    exact ⟨array, rfl⟩
  | succ n ih =>
    intro fuel array index hindex hfuel hn htail
    obtain ⟨fuel, rfl⟩ := Nat.exists_eq_succ_of_ne_zero (Nat.ne_zero_of_lt hfuel)
    -- the tail is another slot of the ring
    have hne : index ≠ tail := by
      have hne := ring_index_ne (i := 0) (j := n + 1) hindex (Nat.succ_pos n) hn
      rwa [Nat.add_zero, Nat.mod_eq_of_lt hindex, ← htail] at hne
    have hnext : tail = ((index + 1) % capacity + n) % capacity := by
      rw [htail, Nat.mod_add_mod, Nat.add_assoc, Nat.add_comm 1 n]
    obtain ⟨array', hloop⟩ := ih (Function.update array index 0)
      (Nat.mod_lt _ (Nat.zero_lt_of_lt hindex)) (Nat.lt_of_succ_lt_succ hfuel)
      (Nat.lt_of_succ_lt hn) hnext
    rw [queueClearLoop, if_neg hne, hloop, ringList_succ hindex,
      ringList_update_head hindex (Nat.lt_of_succ_lt hn)]
    exact ⟨array', rfl⟩

/-- `Queue_Clear` frees the objects of a queue that is not full, and none of a full one. -/
lemma WQueue.InRing.clear (h : queue.InRing) :
    ∃ array, queueClear queue = some (if queue.size < queue.capacity then queue.objects else [],
      { queue with array := array, size := 0, head := 0, tail := 0 }) := by
  have hpos : 0 < queue.capacity := Nat.zero_lt_of_lt h.head_lt
  unfold queueClear
  split
  · rename_i hlt
    obtain ⟨array, hloop⟩ := queueClearLoop_eq queue.array h.head_lt hlt hlt h.tail_eq
    rw [hloop, objects_eq]
    exact ⟨array, rfl⟩
  · rename_i hfull
    have htail : queue.tail = (queue.head + 0) % queue.capacity := by
      rw [h.tail_eq, h.size_le.antisymm (Nat.not_lt.mp hfull), Nat.add_mod_right, Nat.add_zero]
    obtain ⟨array, hloop⟩ := queueClearLoop_eq queue.array h.head_lt hpos hpos htail
    rw [hloop]
    exact ⟨array, rfl⟩

/-- What `Queue_Contains` asks of a queue: one of the objects before the tail is equal, or there is
an equal object that the loop does not reach exactly if there is an equal slot before the tail that
is not in use. -/
def WQueue.Reaches (fnObjectEquals : Nat → Nat → Bool) (queue : WQueue) (obj : Nat) : Prop :=
  (∃ i ∈ queue.slots, i < queue.tail ∧ fnObjectEquals (queue.array i) obj = true) ∨
    ((∃ i ∈ queue.slots, queue.tail ≤ i ∧ fnObjectEquals (queue.array i) obj = true) ↔
      ∃ i < queue.tail, i ∉ queue.slots ∧ fnObjectEquals (queue.array i) obj = true)

/-- The slots of a ring that is not wrapped. -/
lemma WQueue.InRing.mem_slots_of_lt (h : queue.InRing)
    (hring : queue.head + queue.size < queue.capacity) {i : Nat} :
    i ∈ queue.slots ↔ queue.head ≤ i ∧ i < queue.tail := by
  have htail : queue.tail = queue.head + queue.size := by
    rw [h.tail_eq, Nat.mod_eq_of_lt hring]
  rw [WQueue.slots, List.mem_map, htail]
  constructor
  · rintro ⟨j, hj, rfl⟩
    rw [List.mem_range] at hj
    rw [Nat.mod_eq_of_lt (by omega)]
    omega
  · rintro ⟨hle, hlt⟩
    refine ⟨i - queue.head, List.mem_range.mpr (by omega), ?_⟩
    rw [Nat.add_sub_cancel' hle, Nat.mod_eq_of_lt (by omega)]

/-- The slots of a wrapped ring. -/
lemma WQueue.InRing.mem_slots_of_le (h : queue.InRing)
    (hring : queue.capacity ≤ queue.head + queue.size) {i : Nat} :
    i ∈ queue.slots ↔ i < queue.tail ∨ queue.head ≤ i ∧ i < queue.capacity := by
  have hhead := h.head_lt
  have hsize := h.size_le
  have htail : queue.tail = queue.head + queue.size - queue.capacity := by
    rw [h.tail_eq, Nat.mod_eq_sub_mod hring, Nat.mod_eq_of_lt (by omega)]
  rw [WQueue.slots, List.mem_map, htail]
  constructor
  · rintro ⟨j, hj, rfl⟩
    rw [List.mem_range] at hj
    rcases Nat.lt_or_ge (queue.head + j) queue.capacity with hlt | hge
    · rw [Nat.mod_eq_of_lt hlt]
      omega
    · rw [Nat.mod_eq_sub_mod hge, Nat.mod_eq_of_lt (by omega)]
      omega
  · rintro (hlt | ⟨hle, hlt⟩)
    · refine ⟨i + queue.capacity - queue.head, List.mem_range.mpr (by omega), ?_⟩
      rw [Nat.add_sub_cancel' (by omega), Nat.add_mod_right, Nat.mod_eq_of_lt (by omega)]
    · refine ⟨i - queue.head, List.mem_range.mpr (by omega), ?_⟩
      rw [Nat.add_sub_cancel' hle, Nat.mod_eq_of_lt hlt]

/-- In a ring that is not wrapped, the loop passes every object: it is right unless it finds an equal
slot in front of the head for an object that is not there. -/
lemma WQueue.InRing.reaches_iff_of_lt (h : queue.InRing)
    (hring : queue.head + queue.size < queue.capacity) :
    queue.Reaches fnObjectEquals obj ↔ (∃ x ∈ queue.objects, fnObjectEquals x obj = true) ∨
      ∀ i < queue.head, fnObjectEquals (queue.array i) obj = false := by
  have htail : queue.head ≤ queue.tail := by
    rw [h.tail_eq, Nat.mod_eq_of_lt hring]
    exact Nat.le_add_right _ _
  rw [WQueue.exists_mem_objects, WQueue.Reaches]
  simp only [h.mem_slots_of_lt hring]
  constructor
  · rintro (⟨i, hi, -, hequals⟩ | hagree)
    · exact .inl ⟨i, hi, hequals⟩
    · refine .inr fun i hi => Bool.eq_false_iff.mpr fun hequals => ?_
      obtain ⟨j, hj, hle, -⟩ := hagree.mpr ⟨i, by omega, by omega, hequals⟩
      omega
  · rintro (⟨i, hi, hequals⟩ | hnone)
    · exact .inl ⟨i, hi, hi.2, hequals⟩
    · refine .inr ⟨?_, ?_⟩
      · rintro ⟨i, hi, hle, -⟩
        omega
      · rintro ⟨i, hi, hslot, hequals⟩
        exact absurd hequals (Bool.eq_false_iff.mp (hnone i (by omega)))

/-- In a wrapped ring, the loop passes only the objects at its start: it is right if one of them is
equal, or none of the others is. -/
lemma WQueue.InRing.reaches_iff_of_le (h : queue.InRing)
    (hring : queue.capacity ≤ queue.head + queue.size) :
    queue.Reaches fnObjectEquals obj ↔
      (∃ i < queue.tail, fnObjectEquals (queue.array i) obj = true) ∨
        ∀ i, queue.head ≤ i → i < queue.capacity → fnObjectEquals (queue.array i) obj = false := by
  have hhead := h.head_lt
  have hsize := h.size_le
  have htail : queue.tail ≤ queue.head := by
    rw [h.tail_eq, Nat.mod_eq_sub_mod hring, Nat.mod_eq_of_lt (by omega)]
    omega
  rw [WQueue.Reaches]
  simp only [h.mem_slots_of_le hring]
  constructor
  · rintro (⟨i, -, hi, hequals⟩ | hagree)
    · exact .inl ⟨i, hi, hequals⟩
    · refine .inr fun i hle hlt => Bool.eq_false_iff.mpr fun hequals => ?_
      obtain ⟨j, hj, hslot, -⟩ := hagree.mp ⟨i, .inr ⟨hle, hlt⟩, by omega, hequals⟩
      exact hslot (.inl hj)
  · rintro (⟨i, hi, hequals⟩ | hnone)
    · exact .inl ⟨i, .inl hi, hi, hequals⟩
    · refine .inr ⟨?_, ?_⟩
      · rintro ⟨i, hi, hle, hequals⟩
        exact absurd hequals (Bool.eq_false_iff.mp (hnone i (by omega) (by omega)))
      · rintro ⟨i, hi, hslot, -⟩
        exact absurd (.inl hi) hslot

lemma queueContains_iff :
    queueContains fnObjectEquals queue obj = true ↔
      ∃ i < queue.tail, fnObjectEquals (queue.array i) obj = true := by
  rw [queueContains, List.any_eq_true]
  exact exists_congr fun i => and_congr_left' List.mem_range

/-- `Queue_Contains` is right about exactly the objects that it reaches. -/
lemma queueContains_right_iff :
    (queueContains fnObjectEquals queue obj = true ↔
        ∃ x ∈ queue.objects, fnObjectEquals x obj = true) ↔
      queue.Reaches fnObjectEquals obj := by
  rw [queueContains_iff, WQueue.exists_mem_objects, WQueue.Reaches]
  constructor
  · intro hright
    by_cases hfront : ∃ i ∈ queue.slots, i < queue.tail ∧ fnObjectEquals (queue.array i) obj = true
    · exact .inl hfront
    refine .inr ⟨?_, ?_⟩
    · rintro ⟨i, hi, -, hequals⟩
      obtain ⟨j, hj, hequals'⟩ := hright.mpr ⟨i, hi, hequals⟩
      exact ⟨j, hj, fun hslot => hfront ⟨j, hslot, hj, hequals'⟩, hequals'⟩
    · rintro ⟨i, hi, -, hequals⟩
      obtain ⟨j, hj, hequals'⟩ := hright.mp ⟨i, hi, hequals⟩
      exact ⟨j, hj, Nat.not_lt.mp fun hlt => hfront ⟨j, hj, hlt, hequals'⟩, hequals'⟩
  · rintro (⟨i, hi, hlt, hequals⟩ | hagree)
    · exact iff_of_true ⟨i, hlt, hequals⟩ ⟨i, hi, hequals⟩
    constructor
    · rintro ⟨i, hlt, hequals⟩
      by_cases hslot : i ∈ queue.slots
      · exact ⟨i, hslot, hequals⟩
      · obtain ⟨j, hj, -, hequals'⟩ := hagree.mpr ⟨i, hlt, hslot, hequals⟩
        exact ⟨j, hj, hequals'⟩
    · rintro ⟨i, hslot, hequals⟩
      by_cases hlt : i < queue.tail
      · exact ⟨i, hlt, hequals⟩
      · obtain ⟨j, hj, -, hequals'⟩ := hagree.mp ⟨i, hslot, Nat.not_lt.mp hlt, hequals⟩
        exact ⟨j, hj, hequals'⟩

/-! ### Runs -/

/-- A call of a queue. -/
inductive WQueueCall where
  | enqueue (realloc : Malloc) (obj : Nat)
  | dequeue
  | clear
  | contains (obj : Nat)

/-- The queue after a call. -/
def wQueueCall (queue : WQueue) : WQueueCall → WQueue
  | .enqueue realloc obj => (queueEnqueue realloc queue obj).2
  | .dequeue => (queueDequeue queue).2
  | .clear => ((queueClear queue).map Prod.snd).getD queue
  | .contains _ => queue

/-- A growing queue has a capacity that is an `int`. -/
def WQueueCall.Fits (queue : WQueue) : WQueueCall → Prop
  | .enqueue _ _ => queue.Grows
  | .dequeue | .clear | .contains _ => True

/-- What every call does: the queue is first-in first-out, `Queue_Clear` empties it and frees its
objects unless it is full, and `Queue_Contains` is right about the objects that it reaches. -/
def WQueueCall.Serves (fnObjectEquals : Nat → Nat → Bool) (queue : WQueue) : WQueueCall → Prop
  | .enqueue realloc obj =>
    queueEnqueue realloc queue obj = (false, queue) ∨
      (queueEnqueue realloc queue obj).1 = true ∧
        (queueEnqueue realloc queue obj).2.objects = queue.objects ++ [obj]
  | .dequeue =>
    (queueDequeue queue).1 = queue.objects.headD 0 ∧
      (queueDequeue queue).2.objects = queue.objects.tail
  | .clear =>
    (wQueueCall queue .clear).objects = [] ∧
      ((queueClear queue).map Prod.fst = some queue.objects ↔
        queue.size = 0 ∨ queue.size < queue.capacity)
  | .contains obj =>
    (queueContains fnObjectEquals queue obj = true ↔
        ∃ x ∈ queue.objects, fnObjectEquals x obj = true) ↔
      queue.Reaches fnObjectEquals obj

/-- What the whole-collection operations are for: a queue is cleared by freeing each of its objects
once, contains the objects that are in it, and has its event set while there are any. -/
def WQueueCall.SeesObjects (fnObjectEquals : Nat → Nat → Bool) (queue : WQueue)
    (call : WQueueCall) : Prop :=
  (match call with
    | .enqueue _ _ | .dequeue => True
    | .clear => (queueClear queue).map Prod.fst = some queue.objects
    | .contains obj => queueContains fnObjectEquals queue obj = true ↔
        ∃ x ∈ queue.objects, fnObjectEquals x obj = true) ∧
  ((wQueueCall queue call).event = true ↔ (wQueueCall queue call).objects ≠ [])

/-- The calls that see the objects: a queue is cleared when it is empty, and contains what it
reaches. -/
def WQueueCall.Sighted (fnObjectEquals : Nat → Nat → Bool) (queue : WQueue) : WQueueCall → Prop
  | .enqueue _ _ | .dequeue => True
  | .clear => queue.size = 0
  | .contains obj => queue.Reaches fnObjectEquals obj

instance (queue : WQueue) : (call : WQueueCall) → Decidable (call.Fits queue)
  | .enqueue _ _ => inferInstanceAs (Decidable queue.Grows)
  | .dequeue | .clear | .contains _ => inferInstanceAs (Decidable True)

instance (queue : WQueue) (call : WQueueCall) :
    Decidable (call.SeesObjects fnObjectEquals queue) :=
  @instDecidableAnd _ _
    (match call with
      | .enqueue _ _ | .dequeue => inferInstanceAs (Decidable True)
      | .clear => inferInstanceAs (Decidable (_ = _))
      | .contains _ => inferInstanceAs (Decidable (_ ↔ _)))
    inferInstance

instance (queue : WQueue) : (call : WQueueCall) → Decidable (call.Sighted fnObjectEquals queue)
  | .enqueue _ _ | .dequeue => inferInstanceAs (Decidable True)
  | .clear => inferInstanceAs (Decidable (_ = _))
  | .contains _ => inferInstanceAs (Decidable (_ ∨ _))

lemma WQueue.objects_of_size_eq_zero (h : queue.size = 0) : queue.objects = [] := by
  rw [objects_eq, h]
  rfl

/-- `Queue_Clear` leaves an empty queue, and the event as it is. -/
lemma WQueue.InRing.call_clear (h : queue.InRing) :
    (wQueueCall queue .clear).InRing ∧ (wQueueCall queue .clear).objects = [] ∧
      (wQueueCall queue .clear).event = queue.event := by
  obtain ⟨array, hclear⟩ := h.clear
  have hcall : wQueueCall queue .clear =
      { queue with array := array, size := 0, head := 0, tail := 0 } := by
    rw [wQueueCall, hclear]
    rfl
  rw [hcall]
  refine ⟨⟨Nat.zero_lt_of_lt h.head_lt, Nat.zero_le _, (Nat.zero_mod _).symm, h.growthFactor_ge⟩,
    ?_, rfl⟩
  exact WQueue.objects_of_size_eq_zero rfl

/-- `Queue_Clear` frees the objects unless the queue is full. -/
lemma WQueue.InRing.clear_frees_iff (h : queue.InRing) :
    (queueClear queue).map Prod.fst = some queue.objects ↔
      queue.size = 0 ∨ queue.size < queue.capacity := by
  obtain ⟨array, hclear⟩ := h.clear
  rw [hclear, Option.map_some, Option.some_inj]
  dsimp only
  split
  · rename_i hlt
    exact iff_of_true rfl (.inr hlt)
  · rename_i hfull
    rw [or_iff_left hfull, eq_comm, ← List.length_eq_zero_iff, queue.length_objects]

lemma WQueue.InRing.call (h : queue.InRing) {call : WQueueCall} (hfits : call.Fits queue) :
    (wQueueCall queue call).InRing := by
  cases call with
  | enqueue realloc obj => exact (h.enqueue hfits realloc obj).1
  | dequeue => exact h.dequeue.1
  | clear => exact h.call_clear.1
  | contains obj => exact h

lemma WQueue.InRing.serves (h : queue.InRing) {call : WQueueCall} (hfits : call.Fits queue) :
    call.Serves fnObjectEquals queue := by
  cases call with
  | enqueue realloc obj =>
    obtain ⟨-, hfails | ⟨htrue, hobjects, -⟩⟩ := h.enqueue hfits realloc obj
    · exact .inl hfails
    · exact .inr ⟨htrue, hobjects⟩
  | dequeue =>
    obtain ⟨-, hobj, hobjects, -⟩ := h.dequeue
    exact ⟨hobj, hobjects⟩
  | clear => exact ⟨h.call_clear.2.1, h.clear_frees_iff⟩
  | contains obj => exact queueContains_right_iff

/-- The invariant of queues while their objects are seen. -/
structure WQueue.Valid (queue : WQueue) : Prop extends queue.InRing where
  event_iff : queue.event = true ↔ queue.objects ≠ []

lemma WQueue.Valid.new {capacity growthFactor : Int}
    (h : 2 ≤ (queueNew capacity growthFactor).growthFactor) :
    (queueNew capacity growthFactor).Valid where
  toInRing := InRing.new h
  event_iff := iff_of_false Bool.false_ne_true fun hne => hne rfl

/-- A call sees the objects of a queue if and only if it is one of those that do. -/
lemma WQueue.Valid.seesObjects_iff (h : queue.Valid) {call : WQueueCall}
    (hfits : call.Fits queue) :
    call.SeesObjects fnObjectEquals queue ↔ call.Sighted fnObjectEquals queue := by
  cases call with
  | enqueue realloc obj =>
    refine iff_of_true ⟨trivial, ?_⟩ trivial
    rw [wQueueCall]
    obtain ⟨-, hfails | ⟨-, hobjects, hevent⟩⟩ := h.enqueue hfits realloc obj
    · rw [hfails]
      exact h.event_iff
    · rw [hobjects, hevent]
      exact iff_of_true rfl (List.append_ne_nil_of_right_ne_nil _ (List.cons_ne_nil _ _))
  | dequeue =>
    refine iff_of_true ⟨trivial, ?_⟩ trivial
    rw [wQueueCall]
    obtain ⟨-, -, hobjects, hevent⟩ := h.dequeue
    rw [hevent, Bool.and_eq_true, decide_eq_true_iff, ← WQueue.objects_ne_nil, h.event_iff]
    -- an object that is left was there before
    refine and_iff_right_of_imp fun hleft hnil => hleft ?_
    rw [hobjects, hnil, List.tail_nil]
  | clear =>
    obtain ⟨-, hobjects, hevent⟩ := h.call_clear
    have hempty : queue.size = 0 ↔ ¬queue.event = true := by
      rw [h.event_iff, queue.objects_ne_nil]
      omega
    rw [WQueueCall.SeesObjects, hobjects, hevent, h.clear_frees_iff, WQueueCall.Sighted]
    constructor
    · rintro ⟨-, hset⟩
      exact hempty.mpr fun hevent => hset.mp hevent rfl
    · intro hzero
      exact ⟨.inl hzero, iff_of_false (hempty.mp hzero) fun hne => hne rfl⟩
  | contains obj =>
    rw [WQueueCall.SeesObjects, WQueueCall.Sighted, ← queueContains_right_iff]
    exact and_iff_left h.event_iff

/-- In every run from a new queue whose capacity stays an `int`, the queue is first-in first-out,
`Queue_Clear` frees the objects unless the queue is full, and `Queue_Contains` is right about the
objects it reaches; and the whole run sees the objects if and only if the queue is only cleared when
it is empty and only asked for objects that are reached. -/
theorem queueRun_seesObjects_iff (fnObjectEquals : Nat → Nat → Bool) {capacity growthFactor : Int}
    (hgrowthFactor : 2 ≤ (queueNew capacity growthFactor).growthFactor) {calls : List WQueueCall}
    (hfits : AlongRun wQueueCall (fun queue call => call.Fits queue)
      (queueNew capacity growthFactor) calls) :
    AlongRun wQueueCall (fun queue call => call.Serves fnObjectEquals queue)
        (queueNew capacity growthFactor) calls ∧
      (AlongRun wQueueCall (fun queue call => call.SeesObjects fnObjectEquals queue)
          (queueNew capacity growthFactor) calls ↔
        AlongRun wQueueCall (fun queue call => call.Sighted fnObjectEquals queue)
          (queueNew capacity growthFactor) calls) := by
  constructor
  · refine AlongRun.imp ?_ (WQueue.InRing.new hgrowthFactor) hfits
    intro queue call hring hcall
    exact ⟨hring.serves hcall, hring.call hcall⟩
  · refine AlongRun.iff_of_invariant ?_ ?_ (WQueue.Valid.new hgrowthFactor) hfits
    · intro queue call hvalid hcall
      exact hvalid.seesObjects_iff hcall
    · intro queue call hvalid hcall hsees
      exact ⟨hvalid.call hcall, hsees.2⟩

/-- A run that grows a queue, looks for an object and clears the queue when it is empty. -/
theorem queueRun_seesObjects_grown :
    AlongRun wQueueCall (fun queue call => call.SeesObjects (fun x y => x = y) queue) (queueNew 2 2)
      [.enqueue mallocAll 7, .enqueue mallocAll 8, .enqueue mallocAll 9, .contains 9, .dequeue,
        .dequeue, .dequeue, .clear] :=
  (queueRun_seesObjects_iff (fun x y => x = y) (by decide) (by decide)).2.mpr (by decide)

/-- A full queue does not contain its first object, and is cleared without freeing it. -/
theorem queueRun_misses_full :
    ¬AlongRun wQueueCall (fun queue call => call.SeesObjects (fun x y => x = y) queue)
        (queueNew 2 2) [.enqueue mallocAll 7, .enqueue mallocAll 8, .contains 7] ∧
      ¬AlongRun wQueueCall (fun queue call => call.SeesObjects (fun x y => x = y) queue)
        (queueNew 2 2) [.enqueue mallocAll 7, .enqueue mallocAll 8, .clear] := by
  decide

end FreeRdp
