import FreeRdp.Library.Runs
import FreeRdp.Winpr.Collections.Slots

/-!
# Stream pools

`StreamPool.c`. Several threads share a pool. A step is what a thread does while it holds the lock of
the pool: all of `StreamPool_Take`, `Stream_AddRef` and `StreamPool_Return`, and the part of
`Stream_Release` that decrements the count. A thread whose release comes to 0 returns the stream in
a later step.
-/

namespace FreeRdp

/-- The part of `wStream` that a pool uses; `pooled` says that the stream has a pool. -/
structure PoolStream where
  capacity : Nat
  position : Nat
  length : Nat
  count : Nat
  pooled : Bool

/-- The streams that are allocated, by address. -/
abbrev Streams := Nat → Option PoolStream

/-- `wStreamPool`. -/
structure StreamPool where
  defaultSize : Nat
  available : Slots Nat
  used : Slots Nat

/-- `StreamPool_New`. -/
def streamPoolNew (defaultSize : Nat) : StreamPool :=
  ⟨defaultSize, ⟨0, 32, fun _ => 0, true⟩, ⟨0, 32, fun _ => 0, true⟩⟩

/-- An allocated stream is changed. -/
def Streams.modify (streams : Streams) (s : Nat) (f : PoolStream → PoolStream) : Streams :=
  Function.update streams s ((streams s).map f)

/-- `StreamPool_ShiftAvailable` and `StreamPool_ShiftUsed`. -/
def streamPoolShift (realloc : Malloc) (l : Slots Nat) (index : Nat) (count : Int) : Slots Nat :=
  if 0 < count then
    match if l.capacity < l.size + count.toNat then l.grow realloc 8 else some l with
    | none => l
    | some l =>
      { l.move (index + count.toNat) index (l.size - index) with size := l.size + count.toNat }
  else if count < 0 then
    let moved := (l.size : Int) - index + count
    let l := if 0 < moved then l.move index (index + (-count).toNat) moved.toNat else l
    { l with size := l.size - (-count).toNat }
  else l

def streamPoolShiftAvailable (realloc : Malloc) (pool : StreamPool) (index : Nat) (count : Int) :
    StreamPool :=
  { pool with available := streamPoolShift realloc pool.available index count }

def streamPoolShiftUsed (realloc : Malloc) (pool : StreamPool) (index : Nat) (count : Int) :
    StreamPool :=
  { pool with used := streamPoolShift realloc pool.used index count }

/-- `StreamPool_AddUsed`. -/
def streamPoolAddUsed (realloc : Malloc) (pool : StreamPool) (s : Nat) : StreamPool :=
  match if pool.used.capacity ≤ pool.used.size + 1 then pool.used.grow realloc 8
    else some pool.used with
  | none => pool
  | some used => { pool with used := used.push s }

/-- `StreamPool_RemoveUsed`. -/
def streamPoolRemoveUsed (realloc : Malloc) (pool : StreamPool) (s : Nat) : StreamPool :=
  let (found, used) := Slots.search (· = s) pool.used.size 0 pool.used
  let pool := { pool with used := used }
  match found with
  | none => pool
  | some index => streamPoolShiftUsed realloc pool index (-1)

/-- `Stream_New`, for an allocator that has chosen the given address. -/
def streamNew (address : Nat) (streams : Streams) (size : Nat) : Nat × Streams :=
  if address = 0 ∨ (streams address).isSome then (0, streams)
  else (address, Function.update streams address (some ⟨size, 0, size, 0, false⟩))

/-- The first part of `StreamPool_Take`: an available stream that is large enough, or a new one. -/
def streamPoolObtain (address : Nat) (realloc : Malloc) (pool : StreamPool) (streams : Streams)
    (size : Nat) : Nat × StreamPool × Streams :=
  let size := if size = 0 then pool.defaultSize else size
  let (found, available) := Slots.search (fun s => size ≤ ((streams s).elim 0 (·.capacity)))
    pool.available.size 0 pool.available
  let pool := { pool with available := available }
  match found with
  | none =>
    let (s, streams) := streamNew address streams size
    (s, pool, streams)
  | some foundIndex =>
    let s := pool.available.cell foundIndex
    (s, streamPoolShiftAvailable realloc pool foundIndex (-1),
      streams.modify s fun stream => { stream with position := 0, length := stream.capacity })

/-- `StreamPool_Take`. -/
def streamPoolTake (address : Nat) (realloc : Malloc) (pool : StreamPool) (streams : Streams)
    (size : Nat) : Nat × StreamPool × Streams :=
  let (s, pool, streams) := streamPoolObtain address realloc pool streams size
  if s = 0 then (0, pool, streams)
  else
    (s, streamPoolAddUsed realloc pool s,
      streams.modify s fun stream => { stream with pooled := true, count := 1 })

/-- The first part of `StreamPool_Return`: the list of the available streams grows or shrinks. -/
def streamPoolReserve (realloc : Malloc) (l : Slots Nat) : Option (Slots Nat) :=
  if l.capacity ≤ l.size + 1 then l.grow realloc 8
  else if (l.size + 1) * 3 < l.capacity then
    let newCapacity := l.capacity / 2
    if !realloc.succeeds (reallocSize 8 newCapacity) then none
    else some { l with capacity := newCapacity }
  else some l

/-- `StreamPool_Return`. -/
def streamPoolReturn (realloc : Malloc) (pool : StreamPool) (s : Nat) : StreamPool :=
  if s = 0 then pool
  else
    match streamPoolReserve realloc pool.available with
    | none => pool
    | some available =>
      streamPoolRemoveUsed realloc { pool with available := available.push s } s

/-- `Stream_AddRef`; the count is a `DWORD`. -/
def streamAddRef (streams : Streams) (s : Nat) : Streams :=
  streams.modify s fun stream =>
    if stream.pooled then { stream with count := (stream.count + 1) % 2 ^ 32 } else stream

/-- The first part of `Stream_Release`: whether the stream is to be returned. -/
def streamRelease (streams : Streams) (s : Nat) : Bool × Streams :=
  match streams s with
  | none => (false, streams)
  | some stream =>
    if stream.pooled then
      let count := (stream.count + 2 ^ 32 - 1) % 2 ^ 32
      (count = 0, Function.update streams s (some { stream with count := count }))
    else (false, streams)

/-! ### Threads -/

/-- A pool with its streams, the references that the threads hold, and the streams that threads are
about to return. -/
structure StreamPoolState (τ : Type*) where
  pool : StreamPool
  streams : Streams
  refs : List (τ × Nat)
  returning : List (τ × Nat)

/-- A step of a thread. A thread may hand a reference on, and a stream that is referenced may get
another capacity. -/
inductive StreamPoolStep (τ : Type*) where
  | take (thread : τ) (address : Nat) (realloc : Malloc) (size : Nat)
  | addRef (thread : τ) (s : Nat)
  | release (thread : τ) (s : Nat)
  | returns (thread : τ) (realloc : Malloc) (s : Nat)
  | handOn (thread thread' : τ) (s : Nat)
  | ensureCapacity (thread : τ) (s capacity : Nat)

variable {τ : Type*} [DecidableEq τ]

/-- A pool that is not yet used. -/
def streamPoolStart (defaultSize : Nat) : StreamPoolState τ :=
  ⟨streamPoolNew defaultSize, fun _ => none, [], []⟩

/-- The state after a step. -/
def streamPoolStep (state : StreamPoolState τ) : StreamPoolStep τ → StreamPoolState τ
  | .take thread address realloc size =>
    let (s, pool, streams) := streamPoolTake address realloc state.pool state.streams size
    { state with
      pool := pool
      streams := streams
      refs := if s = 0 then state.refs else (thread, s) :: state.refs }
  | .addRef thread s =>
    { state with streams := streamAddRef state.streams s, refs := (thread, s) :: state.refs }
  | .release thread s =>
    let (last, streams) := streamRelease state.streams s
    { state with
      streams := streams
      refs := state.refs.erase (thread, s)
      returning := if last then (thread, s) :: state.returning else state.returning }
  | .returns thread realloc s =>
    { state with
      pool := streamPoolReturn realloc state.pool s
      returning := state.returning.erase (thread, s) }
  | .handOn thread thread' s =>
    { state with refs := (thread', s) :: state.refs.erase (thread, s) }
  | .ensureCapacity _ s capacity =>
    { state with
      streams := state.streams.modify s fun stream => { stream with capacity := capacity } }

/-- A thread uses only streams that it holds, and returns the stream whose last reference it has
released. -/
def StreamPoolStep.Held (state : StreamPoolState τ) : StreamPoolStep τ → Prop
  | .take _ _ _ _ => True
  | .addRef thread s | .release thread s | .handOn thread _ s | .ensureCapacity thread s _ =>
    (thread, s) ∈ state.refs
  | .returns thread _ s => (thread, s) ∈ state.returning

/-! ### The lists -/

/-- A list with a free slot that has only been accessed inside of its array. -/
structure Slots.Ready (l : Slots Nat) : Prop extends l.Fits where
  size_lt : l.size < l.capacity
  inBounds_eq : l.inBounds = true

section Lists

variable {l l' : Slots Nat} {realloc : Malloc} {index s : Nat}

/-- A stream is taken off a list. -/
lemma Slots.Ready.shift (h : l.Ready) (realloc : Malloc) (hindex : index < l.size) :
    (streamPoolShift realloc l index (-1)).Ready ∧
      (streamPoolShift realloc l index (-1)).items = l.items.eraseIdx index ∧
      (streamPoolShift realloc l index (-1)).capacity = l.capacity := by
  have hlt := h.size_lt
  have hmoved : ((l.size : Int) - index + -1).toNat = l.size - index - 1 := by omega
  obtain ⟨l', hl', hcell, hinBounds⟩ : ∃ l' : Slots Nat,
      streamPoolShift realloc l index (-1) = { l' with size := l.size - 1, capacity := l.capacity } ∧
      l'.cell = copyBlock l.cell (index + 1) index (l.size - index - 1) ∧ l'.inBounds = true := by
    unfold streamPoolShift
    rw [if_neg (by decide), if_pos (by decide)]
    dsimp only
    split
    · refine ⟨l.move index (index + 1) (l.size - index - 1), ?_, rfl, ?_⟩
      · rw [hmoved]
        rfl
      · rw [Slots.inBounds_move, and_assoc]
        exact ⟨h.inBounds_eq, .inr (by omega), .inr (by omega)⟩
    · -- the last stream leaves nothing to be moved
      refine ⟨l, rfl, ?_, h.inBounds_eq⟩
      funext i
      rw [copyBlock, if_neg (by omega)]
  rw [hl']
  refine ⟨⟨⟨?_, h.capacity_pos, h.capacity_lt⟩, ?_, hinBounds⟩, ?_, rfl⟩
  · exact (Nat.sub_le _ _).trans h.size_le
  · exact (Nat.sub_le _ _).trans_lt hlt
  · refine Slots.items_eraseIdx rfl hindex ?_ ?_
    · intro j hj
      dsimp only
      rw [hcell, copyBlock, if_neg (by omega)]
    · intro j hj hlast
      dsimp only
      rw [hcell, copyBlock, if_pos (by omega)]
      congr 1
      omega

/-- A stream is put behind a list that has two free slots. -/
lemma Slots.Ready.push (h : l.Ready) (hlt : l.size + 1 < l.capacity) (s : Nat) :
    (l.push s).Ready ∧ (l.push s).items = l.items ++ [s] := by
  refine ⟨⟨⟨h.size_lt, h.capacity_pos, h.capacity_lt⟩, hlt, ?_⟩, Slots.items_push l s⟩
  rw [Slots.inBounds_push h.size_lt]
  exact h.inBounds_eq

/-- A list that grows has two free slots. -/
lemma Slots.Ready.grow (h : l.Ready) (hcapacity : 2 ≤ l.capacity)
    (hgrow : l.grow realloc 8 = some l') :
    l'.Ready ∧ l'.items = l.items ∧ l'.size + 1 < l'.capacity ∧ 2 ≤ l'.capacity := by
  obtain ⟨hfits, hitems, hsize, hinBounds, hdouble⟩ :=
    h.toFits.grow (by decide) (by decide) hgrow
  have hlt := h.size_lt
  exact ⟨⟨hfits, by omega, hinBounds.trans h.inBounds_eq⟩, hitems, by omega, by omega⟩

/-- The list of the available streams has two free slots when it has grown or shrunk. -/
lemma Slots.Ready.reserve (h : l.Ready) (hcapacity : 2 ≤ l.capacity)
    (hreserve : streamPoolReserve realloc l = some l') :
    l'.Ready ∧ l'.items = l.items ∧ l'.size + 1 < l'.capacity ∧ 2 ≤ l'.capacity := by
  have hlt := h.size_lt
  have hint := h.capacity_lt
  unfold streamPoolReserve at hreserve
  split at hreserve
  · exact h.grow hcapacity hreserve
  split at hreserve
  · dsimp only at hreserve
    split at hreserve
    · cases hreserve
    obtain rfl := Option.some.inj hreserve
    refine ⟨⟨⟨?_, ?_, ?_⟩, ?_, h.inBounds_eq⟩, rfl, ?_, ?_⟩
    all_goals dsimp only; omega
  · obtain rfl := Option.some.inj hreserve
    exact ⟨h, rfl, by omega, hcapacity⟩

end Lists

/-! ### The pool -/

/-- The invariant of pools: every stream is in exactly one list. -/
structure StreamPool.Valid (pool : StreamPool) (streams : Streams) : Prop where
  available : pool.available.Ready
  available_two : 2 ≤ pool.available.capacity
  used : pool.used.Ready
  used_two : 2 ≤ pool.used.capacity
  nodup : (pool.available.items ++ pool.used.items).Nodup
  allocated : ∀ p, (streams p).isSome ↔ p ∈ pool.available.items ++ pool.used.items
  null : streams 0 = none

section Pool

variable {pool pool' : StreamPool} {streams streams' : Streams} {realloc : Malloc}
  {address size s : Nat} {f : PoolStream → PoolStream}

lemma StreamPool.Valid.new (defaultSize : Nat) :
    (streamPoolNew defaultSize).Valid fun _ => none where
  available := ⟨⟨Nat.zero_le 32, Nat.succ_pos 31, (by decide : 32 < 2 ^ 31)⟩, Nat.succ_pos 31, rfl⟩
  available_two := (by decide : 2 ≤ 32)
  used := ⟨⟨Nat.zero_le 32, Nat.succ_pos 31, (by decide : 32 < 2 ^ 31)⟩, Nat.succ_pos 31, rfl⟩
  used_two := (by decide : 2 ≤ 32)
  nodup := List.nodup_nil
  allocated := fun _ => iff_of_false Bool.false_ne_true List.not_mem_nil
  null := rfl

@[simp] lemma Streams.modify_self (streams : Streams) (s : Nat) (f : PoolStream → PoolStream) :
    streams.modify s f s = (streams s).map f := Function.update_self _ _ _

lemma Streams.modify_of_ne {p : Nat} (h : p ≠ s) : streams.modify s f p = streams p :=
  Function.update_of_ne h _ _

@[simp] lemma Streams.isSome_modify (p : Nat) :
    (streams.modify s f p).isSome = (streams p).isSome := by
  by_cases hp : p = s
  · subst hp
    rw [modify_self, Option.isSome_map]
  · rw [modify_of_ne hp]

lemma Streams.modify_eq_none {p : Nat} (h : streams p = none) : streams.modify s f p = none := by
  rw [← Option.not_isSome_iff_eq_none, isSome_modify, h]
  exact Bool.false_ne_true

/-- A stream that changes is in the same list. -/
lemma StreamPool.Valid.modify (h : pool.Valid streams) (s : Nat) (f : PoolStream → PoolStream) :
    pool.Valid (streams.modify s f) :=
  { h with
    allocated := fun p => by rw [Streams.isSome_modify, h.allocated p]
    null := Streams.modify_eq_none h.null }

/-- What the first part of `StreamPool_Take` does: it fails, or the stream is in neither list. -/
structure StreamPool.Obtains (pool : StreamPool) (streams : Streams)
    (result : Nat × StreamPool × Streams) : Prop where
  used : result.2.1.used = pool.used
  available : result.2.1.available.Ready ∧ 2 ≤ result.2.1.available.capacity
  ne_zero : result.1 ≠ 0
  nodup : (result.2.1.available.items ++ (pool.used.items ++ [result.1])).Nodup
  allocated : ∀ p, (result.2.2 p).isSome ↔
    p ∈ result.2.1.available.items ++ (pool.used.items ++ [result.1])
  null : result.2.2 0 = none
  frame : ∀ p ≠ result.1, result.2.2 p = streams p

lemma StreamPool.Valid.obtain_stream (h : pool.Valid streams) (address : Nat) (realloc : Malloc)
    (size : Nat) :
    streamPoolObtain address realloc pool streams size = (0, pool, streams) ∨
      pool.Obtains streams (streamPoolObtain address realloc pool streams size) := by
  unfold streamPoolObtain
  dsimp only
  generalize (if size = 0 then pool.defaultSize else size) = size'
  rcases hsearch : Slots.search (fun s => decide (size' ≤ ((streams s).elim 0 (·.capacity))))
    pool.available.size 0 pool.available with ⟨found, l⟩
  obtain ⟨rfl, ⟨i, hi, rfl, -⟩ | ⟨rfl, -⟩⟩ :=
    Slots.search_spec h.available.size_le hsearch
  · -- an available stream
    right
    dsimp only
    rw [streamPoolShiftAvailable]
    obtain ⟨hready, hitems, hcapacity⟩ := h.available.shift realloc hi
    have hi' : i < pool.available.items.length := by rwa [Slots.length_items]
    have hperm := List.getElem_cons_eraseIdx_perm hi'
    rw [Slots.getElem_items] at hperm
    have hperm' : (pool.available.items.eraseIdx i ++
        (pool.used.items ++ [pool.available.cell i])).Perm
          (pool.available.items ++ pool.used.items) := by
      refine List.Perm.trans ?_ (hperm.append_right _)
      rw [← List.append_assoc]
      exact List.perm_append_singleton _ _
    have hmem : pool.available.cell i ∈ pool.available.items := Slots.mem_items.mpr ⟨i, hi, rfl⟩
    refine ⟨rfl, ⟨hready, h.available_two.trans hcapacity.ge⟩, ?_, ?_, fun p => ?_, ?_, ?_⟩
    · dsimp only
      intro hnull
      have hsome := (h.allocated _).mpr (List.mem_append_left _ hmem)
      rw [hnull, h.null] at hsome
      cases hsome
    · dsimp only
      rw [hitems, hperm'.nodup_iff]
      exact h.nodup
    · dsimp only
      rw [hitems, hperm'.mem_iff, Streams.isSome_modify]
      exact h.allocated p
    · exact Streams.modify_eq_none h.null
    · exact fun p hp => Streams.modify_of_ne hp
  · -- a new one
    dsimp only
    unfold streamNew
    split
    · exact .inl rfl
    · rename_i hnew
      obtain ⟨hne, hnone⟩ := not_or.mp hnew
      right
      have hnotin : address ∉ pool.available.items ++ pool.used.items := fun hmem =>
        hnone ((h.allocated address).mpr hmem)
      refine ⟨rfl, ⟨h.available, h.available_two⟩, hne, ?_, fun p => ?_, ?_, ?_⟩
      · dsimp only
        rw [← List.append_assoc, (List.perm_append_singleton _ _).nodup_iff, List.nodup_cons]
        exact ⟨hnotin, h.nodup⟩
      · dsimp only
        rw [← List.append_assoc, (List.perm_append_singleton _ _).mem_iff, List.mem_cons,
          ← h.allocated p]
        by_cases hp : p = address
        · subst hp
          exact iff_of_true (by simp) (.inl rfl)
        · simp [hp]
      · exact (Function.update_of_ne (Ne.symm hne) _ _).trans h.null
      · exact fun p hp => Function.update_of_ne hp _ _

/-- There is memory for the list of the streams in use, if it grows for another stream. -/
def StreamPool.Adds (address : Nat) (realloc : Malloc) (pool : StreamPool) (streams : Streams)
    (size : Nat) : Prop :=
  (streamPoolObtain address realloc pool streams size).1 ≠ 0 →
    pool.used.capacity ≤ pool.used.size + 1 →
      realloc.succeeds (reallocSize 8 (doubledCapacity pool.used.capacity)) = true

instance (pool : StreamPool) : Decidable (pool.Adds address realloc streams size) :=
  inferInstanceAs (Decidable (_ → _ → _))

/-- A stream is put on the list of those in use, if there is memory. -/
lemma Slots.Ready.addUsed (h : pool.used.Ready) (hcapacity : 2 ≤ pool.used.capacity)
    (halloc : pool.used.capacity ≤ pool.used.size + 1 →
      realloc.succeeds (reallocSize 8 (doubledCapacity pool.used.capacity)) = true) (s : Nat) :
    ∃ used, streamPoolAddUsed realloc pool s = { pool with used := used } ∧ used.Ready ∧
      2 ≤ used.capacity ∧ used.items = pool.used.items ++ [s] := by
  unfold streamPoolAddUsed
  split
  · rename_i hgrow
    split at hgrow
    · rename_i hfull
      obtain ⟨l, hsome⟩ := Slots.grow_isSome (halloc hfull)
      rw [hsome] at hgrow
      cases hgrow
    · cases hgrow
  · rename_i used hgrow
    obtain ⟨hready, hitems, hlt, htwo⟩ : used.Ready ∧ used.items = pool.used.items ∧
        used.size + 1 < used.capacity ∧ 2 ≤ used.capacity := by
      split at hgrow
      · exact h.grow hcapacity hgrow
      · obtain rfl := Option.some.inj hgrow
        exact ⟨h, rfl, by omega, hcapacity⟩
    obtain ⟨hready', hitems'⟩ := hready.push hlt s
    exact ⟨_, rfl, hready', htwo, by rw [hitems', hitems]⟩

/-- What `StreamPool_Take` does: it fails, or the stream was not in use and has one reference. -/
lemma StreamPool.Valid.take (h : pool.Valid streams)
    (halloc : pool.Adds address realloc streams size) :
    streamPoolTake address realloc pool streams size = (0, pool, streams) ∨
      ∃ s pool' streams', streamPoolTake address realloc pool streams size = (s, pool', streams') ∧
        s ≠ 0 ∧ s ∉ pool.used.items ∧ pool'.Valid streams' ∧
        pool'.used.items = pool.used.items ++ [s] ∧
        (∀ stream, streams' s = some stream → stream.pooled = true ∧ stream.count = 1) ∧
        ∀ p ≠ s, streams' p = streams p := by
  unfold streamPoolTake
  rcases h.obtain_stream address realloc size with hnone | hobtain
  · rw [hnone]
    exact .inl rfl
  right
  have hadds := halloc hobtain.ne_zero
  rcases hresult : streamPoolObtain address realloc pool streams size with ⟨s, pool₁, streams₁⟩
  rw [hresult] at hobtain
  obtain ⟨hused, ⟨hready, htwo⟩, hne, hnodup, hallocated, hnull, hframe⟩ := hobtain
  dsimp only at hused hready htwo hne hnodup hallocated hnull hframe
  rw [← hused] at hadds
  obtain ⟨used, hadd, hready', htwo', hitems⟩ :=
    Slots.Ready.addUsed (hused ▸ h.used) (hused ▸ h.used_two) hadds s
  rw [hused] at hitems
  have hvalid : ({ pool₁ with used := used } : StreamPool).Valid streams₁ :=
    ⟨hready, htwo, hready', htwo', by rwa [hitems], by rwa [hitems], hnull⟩
  dsimp only
  rw [if_neg hne, hadd]
  refine ⟨s, _, _, rfl, hne, ?_, hvalid.modify _ _, hitems, ?_, fun p hp => ?_⟩
  · intro hmem
    rw [← List.append_assoc, (List.perm_append_singleton _ _).nodup_iff, List.nodup_cons] at hnodup
    exact hnodup.1 (List.mem_append_right _ hmem)
  · intro stream hstream
    rw [Streams.modify_self, Option.map_eq_some_iff] at hstream
    obtain ⟨stream', -, rfl⟩ := hstream
    exact ⟨rfl, rfl⟩
  · rw [Streams.modify_of_ne hp]
    exact hframe p hp

/-- `StreamPool_Return` moves a stream in use to the available ones, unless there is no memory. -/
lemma StreamPool.Valid.returnStream (h : pool.Valid streams) (realloc : Malloc)
    (hs : s ∈ pool.used.items) :
    (streamPoolReturn realloc pool s).Valid streams ∧
      ∀ p ∈ pool.used.items, p ≠ s → p ∈ (streamPoolReturn realloc pool s).used.items := by
  have hne : s ≠ 0 := by
    rintro rfl
    have hsome := (h.allocated 0).mpr (List.mem_append_right _ hs)
    rw [h.null] at hsome
    cases hsome
  unfold streamPoolReturn
  rw [if_neg hne]
  split
  · exact ⟨h, fun p hp _ => hp⟩
  rename_i available hreserve
  obtain ⟨hready, hitems, hlt, htwo⟩ := h.available.reserve h.available_two hreserve
  obtain ⟨hready', hitems'⟩ := hready.push hlt s
  unfold streamPoolRemoveUsed
  dsimp only
  rcases hsearch : Slots.search (fun p => decide (p = s)) pool.used.size 0 pool.used with ⟨found, l⟩
  obtain ⟨rfl, ⟨i, hi, rfl, hfound⟩ | ⟨rfl, hnone⟩⟩ := Slots.search_spec h.used.size_le hsearch
  · obtain rfl := of_decide_eq_true hfound
    obtain ⟨hused, hitemsUsed, hcapacity⟩ := h.used.shift realloc hi
    have hi' : i < pool.used.items.length := by rwa [Slots.length_items]
    have hperm := List.getElem_cons_eraseIdx_perm hi'
    rw [Slots.getElem_items] at hperm
    have hperm' : ((pool.available.items ++ [pool.used.cell i]) ++
        pool.used.items.eraseIdx i).Perm (pool.available.items ++ pool.used.items) := by
      rw [List.append_assoc]
      exact hperm.append_left _
    dsimp only
    rw [streamPoolShiftUsed]
    refine ⟨⟨hready', htwo, hused, h.used_two.trans hcapacity.ge, ?_, fun p => ?_, h.null⟩, ?_⟩
    · dsimp only
      rw [hitems', hitems, hitemsUsed, hperm'.nodup_iff]
      exact h.nodup
    · dsimp only
      rw [hitems', hitems, hitemsUsed, hperm'.mem_iff]
      exact h.allocated p
    · intro p hp hpne
      dsimp only
      rw [hitemsUsed]
      rw [← hperm.mem_iff, List.mem_cons] at hp
      exact hp.resolve_left hpne
  · obtain ⟨i, hi, hcell⟩ := Slots.mem_items.mp hs
    exact absurd hcell (of_decide_eq_false (hnone i hi))

end Pool

/-! ### Reachable states -/

/-- The number of references to a stream that are held. -/
def refCount (refs : List (τ × Nat)) (p : Nat) : Nat := refs.countP fun ref => ref.2 = p

omit [DecidableEq τ] in
lemma refCount_cons (refs : List (τ × Nat)) (thread : τ) (s p : Nat) :
    refCount ((thread, s) :: refs) p = refCount refs p + if p = s then 1 else 0 := by
  rw [refCount, refCount, List.countP_cons]
  by_cases hps : p = s
  · rw [if_pos hps, if_pos (decide_eq_true hps.symm)]
  · rw [if_neg hps, if_neg (by simpa using Ne.symm hps)]

lemma refCount_erase {refs : List (τ × Nat)} {thread : τ} {s : Nat} (h : (thread, s) ∈ refs)
    (p : Nat) : refCount refs p = refCount (refs.erase (thread, s)) p + if p = s then 1 else 0 := by
  rw [← refCount_cons _ thread]
  exact (List.perm_cons_erase h).countP_eq _

/-- The invariant of states: the counts are those of the references, and what is referenced or about
to be returned is in use. -/
structure StreamPoolState.Valid (state : StreamPoolState τ) : Prop where
  pool : state.pool.Valid state.streams
  count_eq : ∀ p stream, state.streams p = some stream →
    stream.pooled = true ∧ stream.count = refCount state.refs p
  count_lt : ∀ p, refCount state.refs p < 2 ^ 32
  refs_used : ∀ ref ∈ state.refs, ref.2 ∈ state.pool.used.items
  returning_used : ∀ ref ∈ state.returning,
    ref.2 ∈ state.pool.used.items ∧ refCount state.refs ref.2 = 0
  returning_nodup : (state.returning.map Prod.snd).Nodup

/-- There is memory for the list of the streams in use, and the count of a stream that gets a
reference stays a `DWORD`. -/
def StreamPoolStep.Counts (state : StreamPoolState τ) : StreamPoolStep τ → Prop
  | .take _ address realloc size => state.pool.Adds address realloc state.streams size
  | .addRef _ s => refCount state.refs s + 1 < 2 ^ 32
  | .release _ _ | .returns _ _ _ | .handOn _ _ _ | .ensureCapacity _ _ _ => True

/-- What a step does: every stream is in exactly one list, no available stream has a reference, and
a stream that is taken was not referenced. -/
structure StreamPoolStep.Safe (state : StreamPoolState τ) (step : StreamPoolStep τ) : Prop where
  one_list : ∀ p, ((streamPoolStep state step).streams p).isSome →
    ((streamPoolStep state step).pool.available.items ++
      (streamPoolStep state step).pool.used.items).count p = 1
  available : ∀ p ∈ (streamPoolStep state step).pool.available.items, ∀ stream,
    (streamPoolStep state step).streams p = some stream → stream.count = 0
  taken : match step with
    | .take _ address realloc size =>
      ∀ thread', (thread', (streamPoolTake address realloc state.pool state.streams size).1) ∉
        state.refs
    | _ => True
  inBounds : (streamPoolStep state step).pool.available.inBounds = true ∧
    (streamPoolStep state step).pool.used.inBounds = true

section Threads

variable {state : StreamPoolState τ} {thread thread' : τ} {s : Nat}

omit [DecidableEq τ] in
lemma StreamPoolState.Valid.start (defaultSize : Nat) :
    (streamPoolStart defaultSize : StreamPoolState τ).Valid where
  pool := StreamPool.Valid.new defaultSize
  count_eq := fun p stream hstream => by cases hstream
  count_lt := fun p => Nat.two_pow_pos 32
  refs_used := fun ref href => absurd href List.not_mem_nil
  returning_used := fun ref href => absurd href List.not_mem_nil
  returning_nodup := List.nodup_nil

omit [DecidableEq τ] in
/-- A stream that is not in use has no reference. -/
lemma StreamPoolState.Valid.refCount_eq_zero (h : state.Valid) {p : Nat}
    (hp : p ∉ state.pool.used.items) : refCount state.refs p = 0 := by
  refine List.countP_eq_zero.mpr fun ref href heq => hp ?_
  rw [← of_decide_eq_true heq]
  exact h.refs_used ref href

omit [DecidableEq τ] in
/-- A valid state is safe. -/
lemma StreamPoolState.Valid.one_list (h : state.Valid) {p : Nat}
    (hp : (state.streams p).isSome) :
    (state.pool.available.items ++ state.pool.used.items).count p = 1 :=
  List.count_eq_one_of_mem h.pool.nodup ((h.pool.allocated p).mp hp)

omit [DecidableEq τ] in
lemma StreamPoolState.Valid.available (h : state.Valid) {p : Nat}
    (hp : p ∈ state.pool.available.items) {stream : PoolStream}
    (hstream : state.streams p = some stream) : stream.count = 0 := by
  rw [(h.count_eq p stream hstream).2]
  refine h.refCount_eq_zero fun hused => ?_
  exact (List.nodup_append'.mp h.pool.nodup).2.2 hp hused

omit [DecidableEq τ] in
/-- A referenced stream is allocated. -/
lemma StreamPoolState.Valid.referenced (h : state.Valid) (hheld : (thread, s) ∈ state.refs) :
    0 < refCount state.refs s ∧ ∃ stream, state.streams s = some stream ∧ stream.pooled = true ∧
      stream.count = refCount state.refs s := by
  have hused := h.refs_used _ hheld
  obtain ⟨stream, hstream⟩ := Option.isSome_iff_exists.mp
    ((h.pool.allocated s).mpr (List.mem_append_right _ hused))
  obtain ⟨hpooled, hcount⟩ := h.count_eq s stream hstream
  exact ⟨List.countP_pos_iff.mpr ⟨_, hheld, decide_eq_true rfl⟩, stream, hstream, hpooled, hcount⟩

lemma StreamPoolState.Valid.take (h : state.Valid) {address : Nat} {realloc : Malloc} {size : Nat}
    (hcounts : (StreamPoolStep.take thread address realloc size).Counts state) :
    (streamPoolStep state (.take thread address realloc size)).Valid ∧
      ∀ thread', (thread', (streamPoolTake address realloc state.pool state.streams size).1) ∉
        state.refs := by
  rcases h.pool.take hcounts with htake | ⟨s, pool, streams, htake, hne, hnotin, hvalid, hused,
    hstream, hframe⟩
  · have hstep : streamPoolStep state (.take thread address realloc size) = state := by
      rw [streamPoolStep, htake]
      rfl
    rw [hstep, htake]
    refine ⟨h, fun thread' href => ?_⟩
    -- there is no stream at `NULL`
    obtain ⟨-, stream, hstream, -⟩ := h.referenced href
    rw [h.pool.null] at hstream
    cases hstream
  · have hzero : refCount state.refs s = 0 := h.refCount_eq_zero hnotin
    rw [streamPoolStep, htake]
    dsimp only
    rw [if_neg hne]
    refine ⟨⟨hvalid, fun p stream hp => ?_, fun p => ?_, ?_, ?_, h.returning_nodup⟩, ?_⟩
    · dsimp only at hp ⊢
      rw [refCount_cons]
      by_cases hps : p = s
      · subst hps
        rw [if_pos rfl, hzero]
        exact hstream stream hp
      · rw [if_neg hps]
        rw [hframe p hps] at hp
        exact h.count_eq p stream hp
    · dsimp only
      rw [refCount_cons]
      split
      · rename_i hps
        rw [hps, hzero]
        decide
      · exact h.count_lt p
    · intro ref href
      dsimp only at href ⊢
      rw [hused, List.mem_append, List.mem_singleton]
      rcases List.mem_cons.mp href with rfl | href
      · exact .inr rfl
      · exact .inl (h.refs_used ref href)
    · intro ref href
      obtain ⟨hmem, hcount⟩ := h.returning_used ref href
      have hne' : ref.2 ≠ s := fun heq => hnotin (heq ▸ hmem)
      dsimp only
      rw [hused, refCount_cons, if_neg hne']
      exact ⟨List.mem_append_left _ hmem, hcount⟩
    · intro thread' href
      exact hnotin (h.refs_used _ href)

lemma StreamPoolState.Valid.addRef (h : state.Valid) (hheld : (thread, s) ∈ state.refs)
    (hcounts : refCount state.refs s + 1 < 2 ^ 32) :
    (streamPoolStep state (.addRef thread s)).Valid := by
  obtain ⟨hpos, -⟩ := h.referenced hheld
  rw [streamPoolStep, streamAddRef]
  refine ⟨h.pool.modify _ _, fun p stream hp => ?_, fun p => ?_, ?_, ?_, h.returning_nodup⟩
  · dsimp only at hp ⊢
    rw [refCount_cons]
    by_cases hps : p = s
    · subst hps
      rw [Streams.modify_self, Option.map_eq_some_iff] at hp
      obtain ⟨stream', hstream', rfl⟩ := hp
      obtain ⟨hpooled, hcount⟩ := h.count_eq p stream' hstream'
      rw [if_pos hpooled, if_pos rfl, hcount]
      exact ⟨hpooled, Nat.mod_eq_of_lt hcounts⟩
    · rw [if_neg hps]
      rw [Streams.modify_of_ne hps] at hp
      exact h.count_eq p stream hp
  · dsimp only
    rw [refCount_cons]
    split
    · rename_i hps
      rwa [hps]
    · exact h.count_lt p
  · intro ref href
    rcases List.mem_cons.mp href with rfl | href
    · exact h.refs_used _ hheld
    · exact h.refs_used ref href
  · intro ref href
    obtain ⟨hmem, hcount⟩ := h.returning_used ref href
    refine ⟨hmem, ?_⟩
    dsimp only
    rw [refCount_cons, if_neg, hcount]
    rintro heq
    rw [heq] at hcount
    omega

lemma StreamPoolState.Valid.returns (h : state.Valid) {realloc : Malloc}
    (hheld : (thread, s) ∈ state.returning) :
    (streamPoolStep state (.returns thread realloc s)).Valid := by
  obtain ⟨hmem, hzero⟩ := h.returning_used _ hheld
  obtain ⟨hvalid, hkept⟩ := h.pool.returnStream realloc hmem
  have hnodup : ((thread, s).2 :: (state.returning.erase (thread, s)).map Prod.snd).Nodup := by
    rw [← List.map_cons (f := Prod.snd), ← ((List.perm_cons_erase hheld).map Prod.snd).nodup_iff]
    exact h.returning_nodup
  obtain ⟨hnotin, hnodup⟩ := List.nodup_cons.mp hnodup
  rw [streamPoolStep]
  refine ⟨hvalid, h.count_eq, h.count_lt, fun ref href => ?_, fun ref href => ?_, hnodup⟩
  · refine hkept _ (h.refs_used ref href) fun heq => ?_
    -- the stream has no reference
    have hpos := (h.referenced (show (ref.1, ref.2) ∈ state.refs from href)).1
    rw [heq, hzero] at hpos
    exact absurd hpos (lt_irrefl 0)
  · obtain ⟨hused, hcount⟩ := h.returning_used ref (List.mem_of_mem_erase href)
    refine ⟨hkept _ hused fun heq => hnotin ?_, hcount⟩
    rw [← heq]
    exact List.mem_map_of_mem href

/-- `Stream_Release` decrements the count, which is that of the references. -/
lemma StreamPoolState.Valid.streamRelease (h : state.Valid) (hheld : (thread, s) ∈ state.refs) :
    ∃ stream, state.streams s = some stream ∧ stream.pooled = true ∧
      FreeRdp.streamRelease state.streams s =
        (decide (refCount (state.refs.erase (thread, s)) s = 0), Function.update state.streams s
          (some { stream with count := refCount (state.refs.erase (thread, s)) s })) := by
  obtain ⟨hpos, stream, hstream, hpooled, hcount⟩ := h.referenced hheld
  have hlt := h.count_lt s
  have herase := refCount_erase hheld s
  rw [if_pos rfl] at herase
  have hpred : (stream.count + 2 ^ 32 - 1) % 2 ^ 32 = refCount (state.refs.erase (thread, s)) s := by
    rw [hcount, Nat.add_comm, Nat.add_sub_assoc (by omega), Nat.add_mod_left,
      Nat.mod_eq_of_lt (by omega)]
    omega
  refine ⟨stream, hstream, hpooled, ?_⟩
  unfold FreeRdp.streamRelease
  rw [hstream]
  dsimp only
  rw [if_pos hpooled, hpred]

lemma StreamPoolState.Valid.release (h : state.Valid) (hheld : (thread, s) ∈ state.refs) :
    (streamPoolStep state (.release thread s)).Valid := by
  obtain ⟨stream, hstream, hpooled, hrelease⟩ := h.streamRelease hheld
  have herase := refCount_erase hheld
  have hle : ∀ p, refCount (state.refs.erase (thread, s)) p ≤ refCount state.refs p :=
    fun p => (Nat.le_add_right _ _).trans (herase p).ge
  have hpos := (h.referenced hheld).1
  rw [streamPoolStep, hrelease]
  refine ⟨⟨h.pool.available, h.pool.available_two, h.pool.used, h.pool.used_two, h.pool.nodup,
    fun p => ?_, ?_⟩, fun p stream' hp => ?_, fun p => (hle p).trans_lt (h.count_lt p),
    fun ref href => h.refs_used ref (List.mem_of_mem_erase href), fun ref href => ?_, ?_⟩
  · dsimp only
    rw [← h.pool.allocated p]
    by_cases hps : p = s
    · subst hps
      rw [Function.update_self, hstream]
      exact iff_of_true rfl rfl
    · rw [Function.update_of_ne hps]
  · dsimp only
    rw [Function.update_of_ne, h.pool.null]
    rintro rfl
    rw [h.pool.null] at hstream
    cases hstream
  · dsimp only at hp ⊢
    by_cases hps : p = s
    · subst hps
      rw [Function.update_self] at hp
      obtain rfl := Option.some.inj hp
      exact ⟨hpooled, rfl⟩
    · rw [Function.update_of_ne hps] at hp
      obtain ⟨hpooled', hcount⟩ := h.count_eq p stream' hp
      have hsame := herase p
      rw [if_neg hps, Nat.add_zero] at hsame
      exact ⟨hpooled', hcount.trans hsame⟩
  · dsimp only at href ⊢
    have hold : ∀ ref ∈ state.returning, ref.2 ∈ state.pool.used.items ∧
        refCount (state.refs.erase (thread, s)) ref.2 = 0 := by
      intro ref href
      obtain ⟨hmem, hcount⟩ := h.returning_used ref href
      exact ⟨hmem, Nat.le_zero.mp ((hle _).trans hcount.le)⟩
    split at href
    · rename_i hlast
      rcases List.mem_cons.mp href with rfl | href
      · exact ⟨h.refs_used _ hheld, of_decide_eq_true hlast⟩
      · exact hold ref href
    · exact hold ref href
  · dsimp only
    split
    · rw [List.map_cons, List.nodup_cons]
      refine ⟨fun hmem => ?_, h.returning_nodup⟩
      -- a stream that is returned has no reference
      obtain ⟨ref, href, heq⟩ := List.mem_map.mp hmem
      have hzero := (h.returning_used ref href).2
      rw [heq] at hzero
      exact absurd hpos (Nat.not_lt.mpr hzero.le)
    · exact h.returning_nodup

lemma StreamPoolState.Valid.handOn (h : state.Valid) (hheld : (thread, s) ∈ state.refs) :
    (streamPoolStep state (.handOn thread thread' s)).Valid := by
  have hcount : ∀ p, refCount ((thread', s) :: state.refs.erase (thread, s)) p =
      refCount state.refs p := by
    intro p
    rw [refCount_cons, refCount_erase hheld]
  rw [streamPoolStep]
  refine ⟨h.pool, fun p stream hp => ?_, fun p => ?_, fun ref href => ?_, fun ref href => ?_,
    h.returning_nodup⟩
  · dsimp only
    rw [hcount]
    exact h.count_eq p stream hp
  · dsimp only
    rw [hcount]
    exact h.count_lt p
  · rcases List.mem_cons.mp href with rfl | href
    · exact h.refs_used (thread, s) hheld
    · exact h.refs_used ref (List.mem_of_mem_erase href)
  · dsimp only
    rw [hcount]
    exact h.returning_used ref href

lemma StreamPoolState.Valid.ensureCapacity (h : state.Valid) (capacity : Nat) :
    (streamPoolStep state (.ensureCapacity thread s capacity)).Valid := by
  rw [streamPoolStep]
  refine ⟨h.pool.modify _ _, fun p stream hp => ?_, h.count_lt, h.refs_used, h.returning_used,
    h.returning_nodup⟩
  dsimp only at hp
  by_cases hps : p = s
  · subst hps
    rw [Streams.modify_self, Option.map_eq_some_iff] at hp
    obtain ⟨stream', hstream', rfl⟩ := hp
    exact h.count_eq p stream' hstream'
  · rw [Streams.modify_of_ne hps] at hp
    exact h.count_eq p stream hp

/-- A step of a thread on its own streams keeps the invariant and is safe. -/
lemma StreamPoolState.Valid.step (h : state.Valid) {step : StreamPoolStep τ}
    (hheld : step.Held state) (hcounts : step.Counts state) :
    step.Safe state ∧ (streamPoolStep state step).Valid := by
  suffices hvalid : (streamPoolStep state step).Valid by
    refine ⟨⟨fun p hp => hvalid.one_list hp, fun p hp stream hstream => hvalid.available hp hstream,
      ?_, hvalid.pool.available.inBounds_eq, hvalid.pool.used.inBounds_eq⟩, hvalid⟩
    cases step with
    | take thread address realloc size => exact (h.take hcounts).2
    | addRef | release | returns | handOn | ensureCapacity => trivial
  cases step with
  | take thread address realloc size => exact (h.take hcounts).1
  | addRef thread s => exact h.addRef hheld hcounts
  | release thread s => exact h.release hheld
  | returns thread realloc s => exact h.returns hheld
  | handOn thread thread' s => exact h.handOn hheld
  | ensureCapacity thread s capacity => exact h.ensureCapacity capacity

end Threads

instance (state : StreamPoolState τ) : (step : StreamPoolStep τ) → Decidable (step.Held state)
  | .take _ _ _ _ => inferInstanceAs (Decidable True)
  | .addRef _ _ | .release _ _ | .returns _ _ _ | .handOn _ _ _ | .ensureCapacity _ _ _ =>
    inferInstanceAs (Decidable (_ ∈ _))

instance (state : StreamPoolState τ) : (step : StreamPoolStep τ) → Decidable (step.Counts state)
  | .take _ address realloc size =>
    inferInstanceAs (Decidable (state.pool.Adds address realloc state.streams size))
  | .addRef _ _ => inferInstanceAs (Decidable (_ < _))
  | .release _ _ | .returns _ _ _ | .handOn _ _ _ | .ensureCapacity _ _ _ =>
    inferInstanceAs (Decidable True)

/-- An allocator without memory. -/
def mallocNone : Malloc := ⟨fun _ => false, fun _ h => absurd h Bool.false_ne_true⟩

/-- One thread takes 32 streams, and there is no memory for the list when it takes the last one. -/
def streamPoolFullSteps : List (StreamPoolStep Nat) :=
  (List.range' 1 31).map (fun address => .take 0 address mallocAll 16) ++ [.take 0 32 mallocNone 16]

end FreeRdp
