import FreeRdp.Library.Runs
import FreeRdp.Winpr.Collections.Slots

/-!
# Buffer pools

`BufferPool.c`. A pool of buffers of variable size has a list of the buffers that are available and
a list of the buffers in use. Each list records the sizes that were asked for; the heap knows how
large the blocks are.
-/

namespace FreeRdp

/-- `wBufferPoolItem`; buffers are addresses. -/
structure BufferPoolItem where
  size : Nat
  buffer : Nat
  deriving DecidableEq

/-- `wBufferPool`: the buffers of a pool of fixed size, or the lists of a pool of variable size. -/
structure BufferPool where
  fixedSize : Nat
  fixed : Slots Nat
  available : Slots BufferPoolItem
  used : Slots BufferPoolItem

/-- `BufferPool_New`. -/
def bufferPoolNew (fixedSize : Int) : BufferPool where
  fixedSize := fixedSize.toNat
  fixed := ⟨0, 32, fun _ => 0, true⟩
  available := ⟨0, 32, fun _ => ⟨0, 0⟩, true⟩
  used := ⟨0, 32, fun _ => ⟨0, 0⟩, true⟩

/-! ### The heap -/

/-- The sizes of the blocks that are allocated. -/
abbrev Heap := Nat → Option Nat

/-- `malloc`: a block at the address that the allocator has chosen. There is none if that is `NULL`
or in use. -/
def heapMalloc (heap : Heap) (address size : Nat) : Nat × Heap :=
  if address = 0 ∨ (heap address).isSome then (0, heap)
  else (address, Function.update heap address (some size))

def heapFree (heap : Heap) (buffer : Nat) : Heap := Function.update heap buffer none

/-- `realloc` of a block, which stays as it is if it fails. -/
def heapRealloc (heap : Heap) (buffer address size : Nat) : Nat × Heap :=
  let result := heapMalloc (heapFree heap buffer) address size
  if result.1 = 0 then (0, heap) else result

/-! ### The lists -/

/-- `BufferPool_ShiftAvailable` and `BufferPool_ShiftUsed`. -/
def bufferPoolShift (realloc : Malloc) (l : Slots BufferPoolItem) (index : Nat) (count : Int) :
    Bool × Slots BufferPoolItem :=
  if 0 < count then
    match if l.capacity < l.size + count.toNat then l.grow realloc 16 else some l with
    | none => (false, l)
    | some l =>
      (true, { l.move (index + count.toNat) index (l.size - index) with
        size := l.size + count.toNat })
  else if count < 0 then
    (true, { l.move index (index + (-count).toNat) (l.size - index) with
      size := l.size - (-count).toNat })
  else (true, l)

def bufferPoolShiftAvailable (realloc : Malloc) (pool : BufferPool) (index : Nat) (count : Int) :
    Bool × BufferPool :=
  let (ok, available) := bufferPoolShift realloc pool.available index count
  (ok, { pool with available := available })

def bufferPoolShiftUsed (realloc : Malloc) (pool : BufferPool) (index : Nat) (count : Int) :
    Bool × BufferPool :=
  let (ok, used) := bufferPoolShift realloc pool.used index count
  (ok, { pool with used := used })

/-! ### Taking a buffer -/

/-- The loop of `BufferPool_Take`: the first buffer that is large enough, and the largest one until
then, with its size. -/
def bufferPoolSearch (size : Nat) :
    Nat → Nat → Nat → Nat → Slots BufferPoolItem → Option Nat × Nat × Nat × Slots BufferPoolItem
  | 0, _, maxSize, maxIndex, l => (none, maxSize, maxIndex, l)
  | n + 1, index, maxSize, maxIndex, l =>
    let l := l.access index 1
    let (maxSize, maxIndex) :=
      if maxSize < (l.cell index).size then ((l.cell index).size, index) else (maxSize, maxIndex)
    if size ≤ (l.cell index).size then (some index, maxSize, maxIndex, l)
    else bufferPoolSearch size n (index + 1) maxSize maxIndex l

/-- The last part of `BufferPool_Take`: a buffer that is not `NULL` is put on the list of those in
use, and freed if there is no memory for the list. -/
def bufferPoolUse (realloc : Malloc) (pool : BufferPool) (heap : Heap) (buffer size : Nat) :
    Nat × BufferPool × Heap :=
  if buffer = 0 then (0, pool, heap)
  else
    match if pool.used.capacity < pool.used.size + 1 then pool.used.grow realloc 16
      else some pool.used with
    | none => (0, pool, heapFree heap buffer)
    | some used => (buffer, { pool with used := used.push ⟨size, buffer⟩ }, heap)

/-- `BufferPool_Take` from a pool of fixed size. -/
def bufferPoolTakeFixed (address : Nat) (pool : BufferPool) (heap : Heap) :
    Nat × BufferPool × Heap :=
  let fixed := pool.fixed
  let (buffer, pool) :=
    if 0 < fixed.size then
      (fixed.cell (fixed.size - 1),
        { pool with fixed := { fixed.access (fixed.size - 1) 1 with size := fixed.size - 1 } })
    else (0, pool)
  if buffer = 0 then
    let (buffer, heap) := heapMalloc heap address pool.fixedSize
    (buffer, pool, heap)
  else (buffer, pool, heap)

/-- `BufferPool_Take` from a pool of variable size. -/
def bufferPoolTakeVariable (address : Nat) (realloc : Malloc) (pool : BufferPool) (heap : Heap)
    (size : Int) : Nat × BufferPool × Heap :=
  let size := if size < 1 then pool.fixedSize else size.toNat
  let (found, maxSize, maxIndex, available) :=
    bufferPoolSearch size pool.available.size 0 0 0 pool.available
  let pool := { pool with available := available }
  let found := found.or (if maxSize ≠ 0 then some maxIndex else none)
  match found with
  | none =>
    if size = 0 then (0, pool, heap)
    else
      let (buffer, heap) := heapMalloc heap address size
      bufferPoolUse realloc pool heap buffer size
  | some foundIndex =>
    let pool := { pool with available := pool.available.access foundIndex 1 }
    let buffer := (pool.available.cell foundIndex).buffer
    let (newBuffer, heap) :=
      if maxSize < size then heapRealloc heap buffer address size else (buffer, heap)
    if maxSize < size ∧ newBuffer = 0 then (0, pool, heap)
    else
      match bufferPoolShiftAvailable realloc pool foundIndex (-1) with
      | (false, pool) => (0, pool, heapFree heap newBuffer)
      | (true, pool) => bufferPoolUse realloc pool heap newBuffer size

/-- `BufferPool_Take`, for an allocator that has chosen the given address. -/
def bufferPoolTake (address : Nat) (realloc : Malloc) (pool : BufferPool) (heap : Heap)
    (size : Int) : Nat × BufferPool × Heap :=
  if pool.fixedSize ≠ 0 then bufferPoolTakeFixed address pool heap
  else bufferPoolTakeVariable address realloc pool heap size

/-! ### Returning a buffer -/

/-- `BufferPool_Return` to a pool of fixed size. -/
def bufferPoolReturnFixed (realloc : Malloc) (pool : BufferPool) (buffer : Nat) :
    Bool × BufferPool :=
  match if pool.fixed.capacity ≤ pool.fixed.size + 1 then pool.fixed.grow realloc 8
    else some pool.fixed with
  | none => (false, pool)
  | some fixed => (true, { pool with fixed := fixed.push buffer })

/-- The last part of `BufferPool_Return`: a buffer with a size is put on the list of the available
ones. -/
def bufferPoolKeep (realloc : Malloc) (pool : BufferPool) (buffer size : Nat) : Bool × BufferPool :=
  if size = 0 then (true, pool)
  else
    match if pool.available.capacity ≤ pool.available.size + 1 then pool.available.grow realloc 16
      else some pool.available with
    | none => (false, pool)
    | some available => (true, { pool with available := available.push ⟨size, buffer⟩ })

/-- `BufferPool_Return` to a pool of variable size. -/
def bufferPoolReturnVariable (realloc : Malloc) (pool : BufferPool) (buffer : Nat) :
    Bool × BufferPool :=
  let (found, used) := Slots.search (·.buffer = buffer) pool.used.size 0 pool.used
  let pool := { pool with used := used }
  match found with
  | none => bufferPoolKeep realloc pool buffer 0
  | some index =>
    let pool := { pool with used := pool.used.access index 1 }
    let size := (pool.used.cell index).size
    match bufferPoolShiftUsed realloc pool index (-1) with
    | (false, pool) => (false, pool)
    | (true, pool) => bufferPoolKeep realloc pool buffer size

/-- `BufferPool_Return`. -/
def bufferPoolReturn (realloc : Malloc) (pool : BufferPool) (buffer : Nat) : Bool × BufferPool :=
  if pool.fixedSize ≠ 0 then bufferPoolReturnFixed realloc pool buffer
  else bufferPoolReturnVariable realloc pool buffer

/-! ### The blocks of a pool -/

/-- The buffers of two lists, and the blocks that are in neither. -/
def poolBlocks (available used : List BufferPoolItem) (lost : List Nat) : List Nat :=
  (available ++ used).map (·.buffer) ++ lost

/-- Every block of the heap is in exactly one list or lost, and as large as recorded. -/
structure PoolLists (available used : List BufferPoolItem) (lost : List Nat) (heap : Heap) :
    Prop where
  nodup : (poolBlocks available used lost).Nodup
  allocated : ∀ p, (heap p).isSome ↔ p ∈ poolBlocks available used lost
  null : heap 0 = none
  large : ∀ item ∈ available ++ used, ∃ size, heap item.buffer = some size ∧ item.size ≤ size

namespace PoolLists

variable {available used available' used' : List BufferPoolItem} {lost lost' : List Nat}
  {heap heap' : Heap} {address buffer size i : Nat} {item : BufferPoolItem}

/-- The same blocks in other lists. -/
lemma of_perm (h : PoolLists available used lost heap)
    (hperm : (poolBlocks available' used' lost').Perm (poolBlocks available used lost))
    (hlarge : ∀ item ∈ available' ++ used', ∃ size, heap item.buffer = some size ∧ item.size ≤ size) :
    PoolLists available' used' lost' heap where
  nodup := hperm.nodup_iff.mpr h.nodup
  allocated := fun p => (h.allocated p).trans hperm.mem_iff.symm
  null := h.null
  large := hlarge

/-- A buffer that is taken off the list of those available. -/
lemma remove_available (h : PoolLists available used lost heap) (hi : i < available.length) :
    PoolLists (available.eraseIdx i) used (available[i].buffer :: lost) heap := by
  refine h.of_perm ?_ fun item hitem => h.large item ?_
  · have hperm := (List.getElem_cons_eraseIdx_perm hi).map (·.buffer)
    simp only [poolBlocks, List.map_append, List.append_assoc]
    refine List.Perm.trans ?_ (hperm.append_right _)
    rw [List.map_cons, List.cons_append]
    refine List.Perm.trans ?_ List.perm_middle
    exact List.Perm.append_left _ List.perm_middle
  · rw [List.mem_append] at hitem ⊢
    exact hitem.imp_left (List.mem_of_mem_eraseIdx ·)

/-- A buffer that is taken off the list of those in use. -/
lemma remove_used (h : PoolLists available used lost heap) (hi : i < used.length) :
    PoolLists available (used.eraseIdx i) (used[i].buffer :: lost) heap := by
  refine h.of_perm ?_ fun item hitem => h.large item ?_
  · have hperm := (List.getElem_cons_eraseIdx_perm hi).map (·.buffer)
    simp only [poolBlocks, List.map_append, List.append_assoc]
    refine List.Perm.append_left _ (List.Perm.trans ?_ (hperm.append_right _))
    exact List.perm_middle
  · rw [List.mem_append] at hitem ⊢
    exact hitem.imp_right (List.mem_of_mem_eraseIdx ·)

/-- A block that is put on the list of those in use. -/
lemma add_used (h : PoolLists available used (buffer :: lost) heap) {block : Nat}
    (hblock : heap buffer = some block) (hsize : size ≤ block) :
    PoolLists available (used ++ [⟨size, buffer⟩]) lost heap := by
  refine h.of_perm ?_ fun item hitem => ?_
  · simp [poolBlocks]
  · simp only [List.mem_append, List.mem_singleton] at hitem
    rcases hitem with hitem | hitem | rfl
    · exact h.large item (List.mem_append_left _ hitem)
    · exact h.large item (List.mem_append_right _ hitem)
    · exact ⟨block, hblock, hsize⟩

/-- A block that is put on the list of those available. -/
lemma add_available (h : PoolLists available used (buffer :: lost) heap) {block : Nat}
    (hblock : heap buffer = some block) (hsize : size ≤ block) :
    PoolLists (available ++ [⟨size, buffer⟩]) used lost heap := by
  refine h.of_perm ?_ fun item hitem => ?_
  · simp only [poolBlocks, List.map_append, List.map_cons, List.append_assoc,
      List.singleton_append]
    refine List.Perm.append_left _ ?_
    exact List.perm_middle.symm
  · simp only [List.mem_append, List.mem_singleton] at hitem
    rcases hitem with (hitem | rfl) | hitem
    · exact h.large item (List.mem_append_left _ hitem)
    · exact ⟨block, hblock, hsize⟩
    · exact h.large item (List.mem_append_right _ hitem)

/-- A new block is not yet in a list. -/
lemma malloc (h : PoolLists available used lost heap)
    (hmalloc : heapMalloc heap address size = (buffer, heap')) :
    buffer = 0 ∧ heap' = heap ∨
      buffer ≠ 0 ∧ heap' buffer = some size ∧ PoolLists available used (buffer :: lost) heap' := by
  unfold heapMalloc at hmalloc
  split at hmalloc
  · obtain ⟨rfl, rfl⟩ := Prod.mk.inj hmalloc
    exact .inl ⟨rfl, rfl⟩
  · rename_i hfresh
    obtain ⟨rfl, rfl⟩ := Prod.mk.inj hmalloc
    obtain ⟨hne, hnone⟩ := not_or.mp hfresh
    have hnotin : address ∉ poolBlocks available used lost := fun hmem =>
      hnone ((h.allocated address).mpr hmem)
    have hperm : (poolBlocks available used (address :: lost)).Perm
        (address :: poolBlocks available used lost) := List.perm_middle
    refine .inr ⟨hne, Function.update_self _ _ _, ?_, fun p => ?_, ?_, fun item hitem => ?_⟩
    · rw [hperm.nodup_iff, List.nodup_cons]
      exact ⟨hnotin, h.nodup⟩
    · rw [hperm.mem_iff, List.mem_cons]
      by_cases hp : p = address
      · subst hp
        rw [Function.update_self]
        exact iff_of_true rfl (.inl rfl)
      · rw [Function.update_of_ne hp, h.allocated p, or_iff_right hp]
    · rw [Function.update_of_ne (Ne.symm hne)]
      exact h.null
    · have hmem : item.buffer ∈ poolBlocks available used lost :=
        List.mem_append_left _ (List.mem_map_of_mem hitem)
      have hne' : item.buffer ≠ address := fun heq => hnotin (heq ▸ hmem)
      rw [Function.update_of_ne hne']
      exact h.large item hitem

/-- A block that is in no list is freed. -/
lemma free (h : PoolLists available used (buffer :: lost) heap) :
    PoolLists available used lost (heapFree heap buffer) := by
  have hperm : (poolBlocks available used (buffer :: lost)).Perm
      (buffer :: poolBlocks available used lost) := List.perm_middle
  obtain ⟨hnotin, hnodup⟩ := List.nodup_cons.mp (hperm.nodup_iff.mp h.nodup)
  refine ⟨hnodup, fun p => ?_, ?_, fun item hitem => ?_⟩
  · rw [heapFree]
    by_cases hp : p = buffer
    · subst hp
      rw [Function.update_self]
      exact iff_of_false Bool.false_ne_true hnotin
    · rw [Function.update_of_ne hp, h.allocated p, hperm.mem_iff, List.mem_cons, or_iff_right hp]
  · rw [heapFree, Function.update_apply]
    split
    · rfl
    · exact h.null
  · have hmem : item.buffer ∈ poolBlocks available used lost :=
      List.mem_append_left _ (List.mem_map_of_mem hitem)
    have hne : item.buffer ≠ buffer := fun heq => hnotin (heq ▸ hmem)
    rw [heapFree, Function.update_of_ne hne]
    exact h.large item hitem

/-- A block that is in no list is reallocated. -/
lemma realloc {newBuffer : Nat} (h : PoolLists available used (buffer :: lost) heap)
    (hrealloc : heapRealloc heap buffer address size = (newBuffer, heap')) :
    newBuffer = 0 ∧ heap' = heap ∨ newBuffer ≠ 0 ∧ heap' newBuffer = some size ∧
      PoolLists available used (newBuffer :: lost) heap' := by
  unfold heapRealloc at hrealloc
  dsimp only at hrealloc
  split at hrealloc
  · obtain ⟨rfl, rfl⟩ := Prod.mk.inj hrealloc
    exact .inl ⟨rfl, rfl⟩
  · rename_i hne
    rw [hrealloc] at hne
    exact .inr ((h.free.malloc hrealloc).resolve_left fun hnull => hne hnull.1)

end PoolLists

/-! ### The operations -/

section Lists

variable {l l' : Slots BufferPoolItem} {realloc : Malloc} {index size : Nat}

/-- An element is taken off a list: the slot behind the list is read. -/
lemma bufferPoolShift_remove (realloc : Malloc) (h : l.Fits) (hindex : index < l.size) :
    ∃ l', bufferPoolShift realloc l index (-1) = (true, l') ∧ l'.Fits ∧
      l'.items = l.items.eraseIdx index ∧ l'.size = l.size - 1 ∧ l'.capacity = l.capacity ∧
      (l'.inBounds = true ↔ l.inBounds = true ∧ l.size < l.capacity) := by
  have hle := h.size_le
  have hshift : bufferPoolShift realloc l index (-1) =
      (true, { l.move index (index + 1) (l.size - index) with size := l.size - 1 }) := rfl
  refine ⟨_, hshift, ⟨?_, h.capacity_pos, h.capacity_lt⟩, ?_, rfl, rfl, ?_⟩
  · exact (Nat.sub_le _ _).trans hle
  · refine Slots.items_eraseIdx rfl hindex ?_ ?_
    · intro j hj
      simp only [Slots.move, copyBlock]
      rw [if_neg (by omega)]
    · intro j hj hlast
      simp only [Slots.move, copyBlock]
      rw [if_pos (by omega)]
      congr 1
      omega
  · refine Slots.inBounds_move.trans ?_
    rw [and_assoc]
    refine and_congr_right fun _ => ?_
    omega

/-- The loop of `BufferPool_Take` finds a buffer that is large enough; else the largest one is too
small. -/
lemma bufferPoolSearch_spec (h : l.Fits) {found : Option Nat} {maxSize maxIndex : Nat} :
    ∀ {n index m k : Nat}, index + n = l.size →
      (m ≠ 0 → k < l.size ∧ m < size) →
      bufferPoolSearch size n index m k l = (found, maxSize, maxIndex, l') →
      l' = l ∧ ((∃ i < l.size, found = some i ∧ size ≤ (l.cell i).size ∧ size ≤ maxSize) ∨
        found = none ∧ (maxSize ≠ 0 → maxIndex < l.size ∧ maxSize < size)) := by
  intro n
  induction n with
  | zero =>
    intro index m k _ hmax hsearch
    obtain ⟨rfl, rfl, rfl, rfl⟩ : none = found ∧ m = maxSize ∧ k = maxIndex ∧ l = l' := by
      simpa [bufferPoolSearch] using hsearch
    exact ⟨rfl, .inr ⟨rfl, hmax⟩⟩
  | succ n ih =>
    intro index m k hindex hmax hsearch
    have hle := h.size_le
    rw [bufferPoolSearch, Slots.access_eq (.inr (by omega))] at hsearch
    dsimp only at hsearch
    split at hsearch
    · -- the buffer is large enough, and so is the largest one
      rename_i hlarge
      have hmaxSize : size ≤ maxSize := by
        split at hsearch
        · obtain ⟨-, rfl, -⟩ := hsearch
          exact hlarge
        · obtain ⟨-, rfl, -⟩ := hsearch
          omega
      obtain ⟨rfl, -, -, rfl⟩ := hsearch
      exact ⟨rfl, .inl ⟨index, by omega, rfl, hlarge, hmaxSize⟩⟩
    · refine ih (by omega) ?_ hsearch
      split
      · exact fun _ => ⟨by omega, by omega⟩
      · exact hmax

end Lists

/-- The invariant of pools of variable size, with the blocks that are in neither list. -/
structure BufferPool.Valid (pool : BufferPool) (heap : Heap) (lost : List Nat) : Prop where
  fixedSize_eq : pool.fixedSize = 0
  available_fits : pool.available.Fits
  available_lt : pool.available.size < pool.available.capacity
  used_fits : pool.used.Fits
  lists : PoolLists pool.available.items pool.used.items lost heap

lemma BufferPool.Valid.new {fixedSize : Int} (h : fixedSize ≤ 0) :
    (bufferPoolNew fixedSize).Valid (fun _ => none) [] where
  fixedSize_eq := Int.toNat_of_nonpos h
  available_fits := ⟨Nat.zero_le 32, Nat.succ_pos 31, (by decide : 32 < 2 ^ 31)⟩
  available_lt := Nat.succ_pos 31
  used_fits := ⟨Nat.zero_le 32, Nat.succ_pos 31, (by decide : 32 < 2 ^ 31)⟩
  lists := ⟨List.nodup_nil, fun p => iff_of_false Bool.false_ne_true List.not_mem_nil, rfl,
    fun item hitem => absurd hitem List.not_mem_nil⟩

/-- What `BufferPool_Take` does: it fails, or the buffer it returns is put on the list of those in
use and is large enough. -/
structure BufferPool.Takes (pool : BufferPool) (lost : List Nat) (size : Int)
    (result : Nat × BufferPool × Heap) : Prop where
  valid : result.2.1.Valid result.2.2 lost
  available : result.2.1.available.inBounds = true ↔ pool.available.inBounds = true
  used : result.2.1.used.inBounds = true ↔ pool.used.inBounds = true
  buffer : result.1 = 0 ∧ result.2.1.used.items = pool.used.items ∨
    result.1 ≠ 0 ∧ ∃ recorded block,
      result.2.1.used.items = pool.used.items ++ [⟨recorded, result.1⟩] ∧
        result.2.2 result.1 = some block ∧ size ≤ block

section Operations

variable {pool pool' : BufferPool} {heap heap' : Heap} {lost : List Nat} {realloc : Malloc}
  {buffer address : Nat} {size : Int}

/-- The last part of `BufferPool_Take`. -/
lemma BufferPool.Valid.use (h : pool'.Valid heap (buffer :: lost))
    (havailable : pool'.available.inBounds = true ↔ pool.available.inBounds = true)
    (hused : pool'.used = pool.used) (hbuffer : buffer ≠ 0) {recorded block : Nat}
    (hblock : heap buffer = some block) (hrecorded : recorded ≤ block) (hsize : size ≤ recorded) :
    pool.Takes lost size (bufferPoolUse realloc pool' heap buffer recorded) := by
  have hlists := h.lists.add_used hblock hrecorded
  unfold bufferPoolUse
  rw [if_neg hbuffer]
  split
  · -- there is no memory for the list, and the buffer is freed
    exact ⟨⟨h.fixedSize_eq, h.available_fits, h.available_lt, h.used_fits, h.lists.free⟩,
      havailable, by rw [hused], .inl ⟨rfl, congrArg Slots.items hused⟩⟩
  · rename_i used hgrow
    obtain ⟨hfits, hitems, hinBounds, hlt⟩ : used.Fits ∧ used.items = pool'.used.items ∧
        used.inBounds = pool'.used.inBounds ∧ used.size < used.capacity := by
      split at hgrow
      · obtain ⟨hfits, hitems, hsize', hinBounds, hcapacity⟩ :=
          h.used_fits.grow (by decide) (by decide) hgrow
        have hle := h.used_fits.size_le
        have hpos := h.used_fits.capacity_pos
        exact ⟨hfits, hitems, hinBounds, by omega⟩
      · obtain rfl := Option.some.inj hgrow
        exact ⟨h.used_fits, rfl, rfl, by omega⟩
    refine ⟨⟨h.fixedSize_eq, h.available_fits, h.available_lt,
      ⟨hlt, hfits.capacity_pos, hfits.capacity_lt⟩, ?_⟩, havailable, ?_,
      .inr ⟨hbuffer, recorded, block, ?_, hblock, by omega⟩⟩
    · dsimp only
      rwa [Slots.items_push, hitems]
    · dsimp only
      rw [Slots.inBounds_push hlt, hinBounds, hused]
    · dsimp only
      rw [Slots.items_push, hitems, hused]

/-- A buffer is taken off the list of those available. -/
lemma BufferPool.Valid.shiftAvailable (h : pool.Valid heap lost) (realloc : Malloc) {index : Nat}
    (hindex : index < pool.available.size) :
    ∃ available', bufferPoolShiftAvailable realloc pool index (-1) =
        (true, { pool with available := available' }) ∧
      (available'.inBounds = true ↔ pool.available.inBounds = true) ∧
      ({ pool with available := available' } : BufferPool).Valid heap
        ((pool.available.cell index).buffer :: lost) := by
  obtain ⟨l, hshift, hfits, hitems, hsize, hcapacity, hinBounds⟩ :=
    bufferPoolShift_remove realloc h.available_fits hindex
  have hlists := h.lists.remove_available (by rwa [Slots.length_items])
  rw [Slots.getElem_items, ← hitems] at hlists
  refine ⟨l, ?_, ?_, ⟨h.fixedSize_eq, hfits, ?_, h.used_fits, hlists⟩⟩
  · rw [bufferPoolShiftAvailable, hshift]
  · rw [hinBounds]
    exact and_iff_left h.available_lt
  · have hlt := h.available_lt
    dsimp only
    omega

lemma BufferPool.Valid.takes_none (h : pool.Valid heap lost) :
    pool.Takes lost size (0, pool, heap) :=
  ⟨h, Iff.rfl, Iff.rfl, .inl ⟨rfl, rfl⟩⟩

/-- `BufferPool_Take` keeps the invariant, also if an allocation fails. -/
lemma BufferPool.Valid.take (h : pool.Valid heap lost) (address : Nat) (realloc : Malloc)
    (size : Int) : pool.Takes lost size (bufferPoolTake address realloc pool heap size) := by
  unfold bufferPoolTake
  rw [if_neg (not_not_intro h.fixedSize_eq)]
  unfold bufferPoolTakeVariable
  obtain ⟨recorded, hrecorded⟩ :
      ∃ recorded, (if size < 1 then pool.fixedSize else size.toNat) = recorded := ⟨_, rfl⟩
  have hsize : size ≤ recorded := by
    rw [← hrecorded]
    split
    · rw [h.fixedSize_eq]
      omega
    · omega
  rcases hsearch : bufferPoolSearch recorded pool.available.size 0 0 0 pool.available with
    ⟨found, maxSize, maxIndex, l⟩
  obtain ⟨rfl, hfound⟩ := bufferPoolSearch_spec h.available_fits (Nat.zero_add _)
    (fun hne => absurd rfl hne) hsearch
  dsimp only
  rw [hrecorded, hsearch]
  dsimp only
  rcases hchoice : found.or (if maxSize ≠ 0 then some maxIndex else none) with _ | foundIndex
  · -- no buffer is available
    dsimp only
    split
    · exact h.takes_none
    · rename_i hne
      rcases hmalloc : heapMalloc heap address recorded with ⟨buffer, heap'⟩
      rcases h.lists.malloc hmalloc with ⟨rfl, rfl⟩ | ⟨hbuffer, hblock, hlists⟩
      · rw [bufferPoolUse, if_pos rfl]
        exact h.takes_none
      · exact BufferPool.Valid.use ⟨h.fixedSize_eq, h.available_fits, h.available_lt, h.used_fits,
          hlists⟩ Iff.rfl rfl hbuffer hblock le_rfl hsize
  · -- a buffer is taken, and made larger if it is too small
    have hindex : foundIndex < pool.available.size := by
      rcases hfound with ⟨i, hi, rfl, -⟩ | ⟨rfl, hmax⟩
      · obtain rfl := Option.some.inj hchoice
        exact hi
      · rw [Option.none_or] at hchoice
        split at hchoice
        · obtain rfl := Option.some.inj hchoice
          exact (hmax ‹_›).1
        · cases hchoice
    have hlarge : ¬maxSize < recorded → recorded ≤ (pool.available.cell foundIndex).size := by
      rcases hfound with ⟨i, hi, rfl, hcell, -⟩ | ⟨rfl, hmax⟩
      · obtain rfl := Option.some.inj hchoice
        exact fun _ => hcell
      · rw [Option.none_or] at hchoice
        split at hchoice
        · exact fun hlt => absurd (hmax ‹_›).2 hlt
        · cases hchoice
    have hpool : ({ pool with available := pool.available } : BufferPool) = pool := rfl
    have haccess : pool.available.access foundIndex 1 = pool.available :=
      Slots.access_eq (.inr (Nat.succ_le_of_lt (hindex.trans h.available_lt)))
    obtain ⟨available, hshift, hinBounds, hvalid⟩ := h.shiftAvailable realloc hindex
    dsimp only
    rw [haccess, hpool, hshift]
    dsimp only
    by_cases hlt : maxSize < recorded
    · rw [if_pos hlt]
      rcases hrealloc : heapRealloc heap (pool.available.cell foundIndex).buffer address recorded
        with ⟨newBuffer, heap'⟩
      rcases hvalid.lists.realloc hrealloc with ⟨rfl, rfl⟩ | ⟨hbuffer, hblock, hlists⟩
      · rw [if_pos ⟨hlt, rfl⟩]
        exact h.takes_none
      · rw [if_neg fun hand => hbuffer hand.2]
        exact BufferPool.Valid.use ⟨hvalid.fixedSize_eq, hvalid.available_fits,
          hvalid.available_lt, hvalid.used_fits, hlists⟩ hinBounds rfl hbuffer hblock le_rfl hsize
    · rw [if_neg hlt, if_neg fun hand => hlt hand.1]
      obtain ⟨block, hblock, hcell⟩ := h.lists.large (pool.available.cell foundIndex)
        (List.mem_append_left _ (Slots.mem_items.mpr ⟨foundIndex, hindex, rfl⟩))
      have hbuffer : (pool.available.cell foundIndex).buffer ≠ 0 := by
        intro hnull
        rw [hnull, h.lists.null] at hblock
        cases hblock
      exact hvalid.use hinBounds rfl hbuffer hblock ((hlarge hlt).trans hcell) hsize

/-- There is memory for the list of the available buffers, if it grows. -/
def BufferPool.Allocates (pool : BufferPool) (realloc : Malloc) : Prop :=
  pool.available.capacity ≤ pool.available.size + 1 →
    realloc.succeeds (reallocSize 16 (doubledCapacity pool.available.capacity)) = true

instance (pool : BufferPool) (realloc : Malloc) : Decidable (pool.Allocates realloc) :=
  inferInstanceAs (Decidable (_ → _))

/-- What `BufferPool_Return` does with the buffer at the given place: it is lost if its recorded
size is 0, and the slot behind the list of those in use is read. -/
structure BufferPool.Returns (pool : BufferPool) (heap : Heap) (lost : List Nat) (index : Nat)
    (pool' : BufferPool) : Prop where
  valid : pool'.Valid heap (if (pool.used.cell index).size = 0
    then (pool.used.cell index).buffer :: lost else lost)
  available : pool'.available.inBounds = true ↔ pool.available.inBounds = true
  used : pool'.used.inBounds = true ↔ pool.used.inBounds = true ∧ pool.used.size < pool.used.capacity
  items : pool'.used.items = pool.used.items.eraseIdx index

/-- A block with a size is put on the list of the available buffers. -/
lemma BufferPool.Valid.keep (h : pool.Valid heap (buffer :: lost))
    (halloc : pool.Allocates realloc) {recorded block : Nat} (hblock : heap buffer = some block)
    (hrecorded : recorded ≤ block) (hne : recorded ≠ 0) :
    ∃ available', bufferPoolKeep realloc pool buffer recorded =
        (true, { pool with available := available' }) ∧
      (available'.inBounds = true ↔ pool.available.inBounds = true) ∧
      ({ pool with available := available' } : BufferPool).Valid heap lost := by
  have hlists := h.lists.add_available hblock hrecorded
  have hroom := h.available_lt
  obtain ⟨l, hgrow, hfits, hitems, hinBounds, hlt⟩ :
      ∃ l, (if pool.available.capacity ≤ pool.available.size + 1 then
          pool.available.grow realloc 16 else some pool.available) = some l ∧ l.Fits ∧
        l.items = pool.available.items ∧ l.inBounds = pool.available.inBounds ∧
        l.size + 1 < l.capacity := by
    split
    · rename_i hfull
      obtain ⟨l, hgrow⟩ := Slots.grow_isSome (halloc hfull)
      obtain ⟨hfits, hitems, hsize, hinBounds, hcapacity⟩ :=
        h.available_fits.grow (by decide) (by decide) hgrow
      exact ⟨l, hgrow, hfits, hitems, hinBounds, by omega⟩
    · exact ⟨_, rfl, h.available_fits, rfl, rfl, by omega⟩
  refine ⟨l.push ⟨recorded, buffer⟩, ?_, ?_, ⟨h.fixedSize_eq, ⟨?_, hfits.capacity_pos,
    hfits.capacity_lt⟩, hlt, h.used_fits, ?_⟩⟩
  · unfold bufferPoolKeep
    rw [if_neg hne, hgrow]
  · rw [Slots.inBounds_push (Nat.lt_of_succ_lt hlt), hinBounds]
  · exact hlt.le
  · dsimp only
    rwa [Slots.items_push, hitems]

/-- `BufferPool_Return` does nothing with a buffer that is not in use. -/
lemma BufferPool.Valid.returns (h : pool.Valid heap lost) (buffer : Nat)
    (halloc : pool.Allocates realloc) :
    (∀ i < pool.used.size, (pool.used.cell i).buffer ≠ buffer) ∧
        bufferPoolReturn realloc pool buffer = (true, pool) ∨
      ∃ i < pool.used.size, (pool.used.cell i).buffer = buffer ∧
        pool.Returns heap lost i (bufferPoolReturn realloc pool buffer).2 := by
  unfold bufferPoolReturn
  rw [if_neg (not_not_intro h.fixedSize_eq)]
  unfold bufferPoolReturnVariable
  rcases hfind : Slots.search (·.buffer = buffer) pool.used.size 0 pool.used with ⟨found, l⟩
  dsimp only
  rw [hfind]
  obtain ⟨rfl, ⟨i, hi, rfl, hfound⟩ | ⟨rfl, hne⟩⟩ := Slots.search_spec h.used_fits.size_le hfind
  · have hbuffer : (pool.used.cell i).buffer = buffer := of_decide_eq_true hfound
    refine .inr ⟨i, hi, hbuffer, ?_⟩
    have hpool : ({ pool with used := pool.used } : BufferPool) = pool := rfl
    have haccess : pool.used.access i 1 = pool.used :=
      Slots.access_eq (.inr ((Nat.succ_le_of_lt hi).trans h.used_fits.size_le))
    obtain ⟨used, hshift, hfits, hitems, hsize, hcapacity, hinBounds⟩ :=
      bufferPoolShift_remove realloc h.used_fits hi
    have hlists := h.lists.remove_used (by rwa [Slots.length_items])
    rw [Slots.getElem_items, ← hitems, hbuffer] at hlists
    have hvalid : ({ pool with used := used } : BufferPool).Valid heap (buffer :: lost) :=
      ⟨h.fixedSize_eq, h.available_fits, h.available_lt, hfits, hlists⟩
    obtain ⟨block, hblock, hcell⟩ := h.lists.large (pool.used.cell i)
      (List.mem_append_right _ (Slots.mem_items.mpr ⟨i, hi, rfl⟩))
    rw [hbuffer] at hblock
    dsimp only
    rw [haccess, hpool, bufferPoolShiftUsed, hshift]
    dsimp only
    by_cases hzero : (pool.used.cell i).size = 0
    · -- a buffer without a size is not kept
      rw [bufferPoolKeep, if_pos hzero]
      refine ⟨?_, Iff.rfl, hinBounds, hitems⟩
      rwa [if_pos hzero, hbuffer]
    · obtain ⟨available, hkeep, hinBounds', hvalid'⟩ := hvalid.keep halloc hblock hcell hzero
      rw [hkeep]
      refine ⟨?_, hinBounds', hinBounds, hitems⟩
      rwa [if_neg hzero]
  · exact .inl ⟨fun i hi => of_decide_eq_false (hne i hi), rfl⟩

end Operations

/-! ### Runs -/

/-- A call of a buffer pool, with what the allocator does in it. -/
inductive BufferPoolCall where
  | take (address : Nat) (realloc : Malloc) (size : Int)
  | returns (realloc : Malloc) (buffer : Nat)

/-- A pool with the blocks of its buffers and the buffers that are handed out. -/
structure BufferPoolState where
  pool : BufferPool
  heap : Heap
  held : List Nat

/-- A pool that is not yet used. -/
def bufferPoolStart (fixedSize : Int) : BufferPoolState :=
  ⟨bufferPoolNew fixedSize, fun _ => none, []⟩

/-- The state after a call. -/
def bufferPoolCall (s : BufferPoolState) : BufferPoolCall → BufferPoolState
  | .take address realloc size =>
    let (buffer, pool, heap) := bufferPoolTake address realloc s.pool s.heap size
    ⟨pool, heap, if buffer = 0 then s.held else buffer :: s.held⟩
  | .returns realloc buffer =>
    ⟨(bufferPoolReturn realloc s.pool buffer).2, s.heap, s.held.filter (· ≠ buffer)⟩

/-- There is memory for the list that a returned buffer is put on. -/
def BufferPoolCall.Allocates (s : BufferPoolState) : BufferPoolCall → Prop
  | .take _ _ _ => True
  | .returns realloc _ => s.pool.Allocates realloc

/-- The buffers in the lists of a pool. -/
def BufferPool.buffers (pool : BufferPool) : List Nat :=
  (pool.available.items ++ pool.used.items).map (·.buffer)

/-- What every call does: no buffer is in both lists or twice in one, and a buffer that is taken was
not handed out and is as large as it was asked for. -/
def BufferPoolCall.Serves (s : BufferPoolState) (call : BufferPoolCall) : Prop :=
  (bufferPoolCall s call).pool.buffers.Nodup ∧
    match call with
    | .take address realloc size =>
      let (buffer, _, heap) := bufferPoolTake address realloc s.pool s.heap size
      buffer = 0 ∨ buffer ∉ s.held ∧ ∃ block, heap buffer = some block ∧ size ≤ block
    | .returns _ _ => True

/-- After the call every block is in a list, and no access was outside of a list. -/
structure BufferPoolCall.Conserves (s : BufferPoolState) (call : BufferPoolCall) : Prop where
  serves : call.Serves s
  allocated : ∀ p, ((bufferPoolCall s call).heap p).isSome →
    p ∈ (bufferPoolCall s call).pool.buffers
  available : (bufferPoolCall s call).pool.available.inBounds = true
  used : (bufferPoolCall s call).pool.used.inBounds = true

/-- A buffer in use is returned only if it is recorded with a size and the list of the buffers in
use is not full. -/
def BufferPoolCall.Keeps (s : BufferPoolState) : BufferPoolCall → Prop
  | .take _ _ _ => True
  | .returns _ buffer => ∀ item ∈ s.pool.used.items, item.buffer = buffer →
      item.size ≠ 0 ∧ s.pool.used.size < s.pool.used.capacity

/-- The invariant of states: the buffers that are handed out are those in use. -/
structure BufferPoolState.Valid (s : BufferPoolState) (lost : List Nat) : Prop where
  pool : s.pool.Valid s.heap lost
  held : ∀ p, p ∈ s.held ↔ p ∈ s.pool.used.items.map (·.buffer)

section Runs

variable {s : BufferPoolState} {lost : List Nat} {call : BufferPoolCall}

lemma BufferPoolState.Valid.start {fixedSize : Int} (h : fixedSize ≤ 0) :
    (bufferPoolStart fixedSize).Valid [] where
  pool := BufferPool.Valid.new h
  held := fun _ => Iff.rfl

/-- The buffers of a pool. -/
lemma BufferPool.Valid.nodup_buffers {pool : BufferPool} {heap : Heap} (h : pool.Valid heap lost) :
    pool.buffers.Nodup ∧ ((∀ p, (heap p).isSome → p ∈ pool.buffers) ↔ lost = []) := by
  have hnodup := h.lists.nodup
  rw [poolBlocks, List.nodup_append'] at hnodup
  refine ⟨hnodup.1, ?_⟩
  constructor
  · intro hall
    refine List.eq_nil_iff_forall_not_mem.mpr fun p hp => ?_
    exact hnodup.2.2 (hall p ((h.lists.allocated p).mpr (List.mem_append_right _ hp))) hp
  · rintro rfl p hp
    have hmem := (h.lists.allocated p).mp hp
    rwa [poolBlocks, List.append_nil] at hmem

/-- The buffers in use after one of them is returned. -/
lemma BufferPool.Valid.mem_eraseIdx {pool : BufferPool} {heap : Heap} (h : pool.Valid heap lost)
    {i : Nat} (hi : i < pool.used.size) (p : Nat) :
    p ∈ (pool.used.items.eraseIdx i).map (·.buffer) ↔
      p ∈ pool.used.items.map (·.buffer) ∧ p ≠ (pool.used.cell i).buffer := by
  have hi' : i < pool.used.items.length := by rwa [Slots.length_items]
  have hperm := (List.getElem_cons_eraseIdx_perm hi').map (·.buffer)
  rw [List.map_cons, Slots.getElem_items] at hperm
  have hnodup := h.nodup_buffers.1
  rw [BufferPool.buffers, List.map_append, List.nodup_append', ← hperm.nodup_iff, List.nodup_cons]
    at hnodup
  rw [← hperm.mem_iff, List.mem_cons]
  constructor
  · intro hmem
    exact ⟨.inr hmem, fun heq => hnodup.2.1.1 (heq ▸ hmem)⟩
  · rintro ⟨hmem, hne⟩
    exact hmem.resolve_left hne

/-- A call, from a state whose lost blocks are known: no block is lost and no slot outside of a list
read if and only if the call keeps its buffer. -/
lemma BufferPoolState.Valid.step (h : s.Valid lost) (halloc : call.Allocates s) :
    ∃ lost', (bufferPoolCall s call).Valid lost' ∧ call.Serves s ∧
      ((bufferPoolCall s call).pool.available.inBounds = true ↔
        s.pool.available.inBounds = true) ∧
      (call.Keeps s → lost' = lost ∧
        ((bufferPoolCall s call).pool.used.inBounds = true ↔ s.pool.used.inBounds = true)) ∧
      (lost' = [] → (bufferPoolCall s call).pool.used.inBounds = true → call.Keeps s) := by
  cases call with
  | take address realloc size =>
    have htakes := h.pool.take address realloc size
    refine ⟨lost, ⟨htakes.valid, fun p => ?_⟩, ⟨htakes.valid.nodup_buffers.1, ?_⟩,
      htakes.available, fun _ => ⟨rfl, htakes.used⟩, fun _ _ => trivial⟩
    · rw [bufferPoolCall]
      dsimp only
      rcases htakes.buffer with ⟨hnull, hitems⟩ | ⟨hbuffer, recorded, block, hitems, -⟩
      · rw [if_pos hnull, hitems]
        exact h.held p
      · rw [if_neg hbuffer, hitems, List.mem_cons, h.held p]
        simp [or_comm]
    · dsimp only
      rcases htakes.buffer with ⟨hnull, -⟩ | ⟨hbuffer, recorded, block, hitems, hblock, hsize⟩
      · exact .inl hnull
      · refine .inr ⟨fun hheld => ?_, block, hblock, hsize⟩
        -- the buffer would be in use twice
        have hnodup := htakes.valid.nodup_buffers.1
        rw [BufferPool.buffers, List.map_append, List.nodup_append', hitems, List.map_append,
          List.nodup_append'] at hnodup
        exact hnodup.2.1.2.2 ((h.held _).mp hheld) (List.mem_singleton_self _)
  | returns realloc buffer =>
    rcases h.pool.returns buffer halloc with ⟨hne, hreturn⟩ | ⟨i, hi, hbuffer, hreturns⟩
    · have hpool : (bufferPoolCall s (.returns realloc buffer)).pool = s.pool := by
        rw [bufferPoolCall, hreturn]
      have hkeeps : (BufferPoolCall.returns realloc buffer).Keeps s := by
        intro item hitem heq
        obtain ⟨i, hi, rfl⟩ := Slots.mem_items.mp hitem
        exact absurd heq (hne i hi)
      refine ⟨lost, ⟨?_, fun p => ?_⟩, ⟨?_, trivial⟩, ?_, fun _ => ⟨rfl, ?_⟩, fun _ _ => hkeeps⟩
      · rw [hpool]
        exact h.pool
      · rw [hpool, bufferPoolCall]
        dsimp only
        rw [List.mem_filter, h.held p]
        refine and_iff_left_of_imp fun hmem => decide_eq_true ?_
        rintro rfl
        obtain ⟨item, hitem, heq⟩ := List.mem_map.mp hmem
        obtain ⟨i, hi, rfl⟩ := Slots.mem_items.mp hitem
        exact hne i hi heq
      · rw [hpool]
        exact h.pool.nodup_buffers.1
      · rw [hpool]
      · rw [hpool]
    · have hitem : s.pool.used.cell i ∈ s.pool.used.items := Slots.mem_items.mpr ⟨i, hi, rfl⟩
      refine ⟨_, ⟨hreturns.valid, fun p => ?_⟩, ⟨hreturns.valid.nodup_buffers.1, trivial⟩,
        hreturns.available, fun hkeeps => ?_, fun hlost hinBounds item hmem heq => ?_⟩
      · rw [bufferPoolCall]
        dsimp only
        rw [hreturns.items, h.pool.mem_eraseIdx hi, List.mem_filter, h.held p, hbuffer,
          decide_eq_true_iff]
      · obtain ⟨hsize, hlt⟩ := hkeeps _ hitem hbuffer
        rw [if_neg hsize]
        exact ⟨rfl, hreturns.used.trans (and_iff_left hlt)⟩
      · -- it is the buffer that is taken off the list
        have hnodup := h.pool.nodup_buffers.1
        rw [BufferPool.buffers, List.map_append, List.nodup_append'] at hnodup
        obtain rfl := List.inj_on_of_nodup_map hnodup.2.1 hmem hitem (heq.trans hbuffer.symm)
        refine ⟨fun hzero => ?_, (hreturns.used.mp hinBounds).2⟩
        rw [if_pos hzero] at hlost
        cases hlost

/-- In a state without lost blocks, a call conserves the buffers if and only if it keeps its one. -/
lemma BufferPoolState.Valid.conserves_iff (h : s.Valid [])
    (havailable : s.pool.available.inBounds = true) (hused : s.pool.used.inBounds = true)
    (halloc : call.Allocates s) : call.Conserves s ↔ call.Keeps s := by
  obtain ⟨lost, hvalid, hserves, havailable', hkeeps, hlost⟩ := h.step halloc
  have hconserved := hvalid.pool.nodup_buffers.2
  constructor
  · intro hconserves
    exact hlost (hconserved.mp hconserves.allocated) hconserves.used
  · intro hcall
    obtain ⟨rfl, hused'⟩ := hkeeps hcall
    exact ⟨hserves, hconserved.mpr rfl, havailable'.mpr havailable, hused'.mpr hused⟩

/-- A call that conserves the buffers leaves no lost block. -/
lemma BufferPoolState.Valid.of_conserves (h : s.Valid lost) (halloc : call.Allocates s)
    (hconserves : call.Conserves s) : (bufferPoolCall s call).Valid [] := by
  obtain ⟨lost', hvalid, -⟩ := h.step halloc
  obtain rfl := hvalid.pool.nodup_buffers.2.mp hconserves.allocated
  exact hvalid

end Runs

/-- In every run of a pool of variable size whose allocations succeed, no buffer is in both lists,
and a buffer that is taken was not handed out and is as large as it was asked for. No buffer is lost
and no slot outside of a list is accessed in the run if and only if every buffer that is returned is
recorded with a size and comes back to a list of buffers in use that is not full. -/
theorem bufferPoolRun_conserves_iff {fixedSize : Int} (hfixedSize : fixedSize ≤ 0)
    {calls : List BufferPoolCall}
    (halloc : AlongRun bufferPoolCall (fun s call => call.Allocates s) (bufferPoolStart fixedSize)
      calls) :
    AlongRun bufferPoolCall (fun s call => call.Serves s) (bufferPoolStart fixedSize) calls ∧
      (AlongRun bufferPoolCall (fun s call => call.Conserves s) (bufferPoolStart fixedSize) calls ↔
        AlongRun bufferPoolCall (fun s call => call.Keeps s) (bufferPoolStart fixedSize) calls) := by
  have hstart := BufferPoolState.Valid.start hfixedSize
  constructor
  · have hstep : ∀ s (call : BufferPoolCall), (∃ lost, BufferPoolState.Valid s lost) →
        call.Allocates s → call.Serves s ∧ ∃ lost, (bufferPoolCall s call).Valid lost := by
      rintro s call ⟨lost, hvalid⟩ hcall
      obtain ⟨lost', hvalid', hserves, -⟩ := hvalid.step hcall
      exact ⟨hserves, lost', hvalid'⟩
    exact AlongRun.imp hstep ⟨[], hstart⟩ halloc
  · have hiff : ∀ s (call : BufferPoolCall), (BufferPoolState.Valid s [] ∧
        s.pool.available.inBounds = true ∧ s.pool.used.inBounds = true) → call.Allocates s →
        (call.Conserves s ↔ call.Keeps s) := by
      rintro s call ⟨hvalid, havailable, hused⟩ hcall
      exact hvalid.conserves_iff havailable hused hcall
    refine AlongRun.iff_of_invariant hiff ?_ ⟨hstart, rfl, rfl⟩ halloc
    rintro s call ⟨hvalid, -⟩ hcall hconserves
    exact ⟨hvalid.of_conserves hcall hconserves, hconserves.available, hconserves.used⟩

instance (s : BufferPoolState) : (call : BufferPoolCall) → Decidable (call.Allocates s)
  | .take _ _ _ => inferInstanceAs (Decidable True)
  | .returns realloc _ => inferInstanceAs (Decidable (s.pool.Allocates realloc))

instance (s : BufferPoolState) : (call : BufferPoolCall) → Decidable (call.Keeps s)
  | .take _ _ _ => inferInstanceAs (Decidable True)
  | .returns _ _ => inferInstanceAs (Decidable (∀ _ ∈ _, _))

/-- Two buffers are taken, and one of them is returned, taken again and made larger. -/
theorem bufferPoolRun_conserves_larger :
    AlongRun bufferPoolCall (fun s call => call.Conserves s) (bufferPoolStart 0)
      [.take 100 mallocAll 16, .take 200 mallocAll 8, .returns mallocAll 100,
        .take 300 mallocAll 64, .returns mallocAll 300] :=
  (bufferPoolRun_conserves_iff le_rfl (by decide)).2.mpr (by decide)

/-- Take 32 buffers, and return one of them. -/
def bufferPoolFullCalls : List BufferPoolCall :=
  (List.range' 1 32).map (fun address => .take address mallocAll 16) ++ [.returns mallocAll 1]

/-- A buffer that is taken with the size 0 is in no list when it comes back. A buffer that comes back
to 32 buffers in use is taken off the list by reading the slot behind it. -/
theorem bufferPoolRun_loses :
    ¬AlongRun bufferPoolCall (fun s call => call.Conserves s) (bufferPoolStart 0)
        [.take 100 mallocAll 16, .returns mallocAll 100, .take 200 mallocAll 0,
          .returns mallocAll 100] ∧
      (bufferPoolFullCalls.foldl bufferPoolCall (bufferPoolStart 0)).pool.used.inBounds = false := by
  refine ⟨fun hrun => ?_, ?_⟩
  · exact absurd (hrun.2.2.2.1.allocated 100 rfl) (by decide)
  · decide +kernel

end FreeRdp
