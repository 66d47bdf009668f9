import FreeRdp.Library.Copy
import FreeRdp.Library.Runs
import FreeRdp.Winpr.Crt

/-!
# Bip buffers

`BipBuffer.c`: a byte queue in one buffer that is used in at most two blocks, so that a reader and a
writer always get memory in one piece. Block A comes first in the queue; block B starts at the front
of the buffer.

`readR` is left out, since it is only ever cleared. `size_t` is a natural number, and sums that the
caller can make large are taken modulo `2 ^ 64`.
-/

namespace FreeRdp

/-- `wBipBlock`. -/
structure BipBlock where
  index : Nat
  size : Nat
  deriving DecidableEq, Repr

/-- `BipBlock_Clear`. -/
def BipBlock.clear : BipBlock := ⟨0, 0⟩

/-- `wBipBuffer`. -/
structure BipBuffer where
  size : Nat
  buffer : Nat → UInt8
  pageSize : Nat
  blockA : BipBlock
  blockB : BipBlock
  writeR : BipBlock

/-- The size of an allocation for `size` bytes. -/
def bipBufferAllocSize (pageSize size : Nat) : Nat := (size + size % pageSize) % 2 ^ 64

/-- `BipBuffer_New`, on a system with the given page size. -/
def bipBufferNew (malloc : Malloc) (dwPageSize size : Nat) : Option BipBuffer :=
  let pageSize := if dwPageSize < 4096 then 4096 else dwPageSize
  if size < 1 then none
  else if malloc.succeeds (bipBufferAllocSize pageSize size) then
    some ⟨bipBufferAllocSize pageSize size, fun _ => 0, pageSize, .clear, .clear, .clear⟩
  else none

/-- `BipBuffer_UsedSize`. -/
def bipBufferUsedSize (bb : BipBuffer) : Nat := bb.blockA.size + bb.blockB.size

/-! ### Reading -/

/-- `BipBuffer_ReadTryReserve`: the index of the block and its size. -/
def bipBufferReadTryReserve (bb : BipBuffer) (size : Nat) : Option BipBlock :=
  if bb.blockA.size = 0 then none
  else
    let reservable := if size ≠ 0 ∧ bb.blockA.size > size then size else bb.blockA.size
    some ⟨bb.blockA.index, reservable⟩

/-- `BipBuffer_ReadCommit`. -/
def bipBufferReadCommit (bb : BipBuffer) (size : Nat) : BipBuffer :=
  if size ≥ bb.blockA.size then { bb with blockA := bb.blockB, blockB := .clear }
  else { bb with blockA := ⟨bb.blockA.index + size, bb.blockA.size - size⟩ }

/-- One of the two steps of `BipBuffer_Read`: the bytes it takes, and whether it returns. -/
def bipBufferReadBlock (bb : BipBuffer) (size : Nat) : List UInt8 × Bool × BipBuffer :=
  match bipBufferReadTryReserve bb 0 with
  | none => ([], false, bb)
  | some block =>
    let readSize := if size > block.size then block.size else size
    (readList bb.buffer block.index readSize, readSize = size || readSize < block.size,
      bipBufferReadCommit bb readSize)

/-- `BipBuffer_Read`: the bytes it stores at `data`. -/
def bipBufferRead (bb : BipBuffer) (size : Nat) : List UInt8 × BipBuffer :=
  if size = 0 then ([], bb)
  else
    let size := if size > SSIZE_MAX then SSIZE_MAX else size
    match bipBufferReadBlock bb size with
    | (bytes, true, bb) => (bytes, bb)
    | (bytes, false, bb) =>
      let (bytes', _, bb) := bipBufferReadBlock bb (size - bytes.length)
      (bytes ++ bytes', bb)

/-! ### Growing -/

/-- One of the two copies of `BipBuffer_Grow`, to a new buffer with `commitSize` bytes. -/
def bipBufferGrowCopy (buffer : Nat → UInt8) (commitSize : Nat) (bb : BipBuffer) :
    (Nat → UInt8) × Nat × BipBuffer :=
  match bipBufferReadTryReserve bb 0 with
  | none => (buffer, commitSize, bb)
  | some block =>
    (writeList buffer commitSize (readList bb.buffer block.index block.size),
      commitSize + block.size, bipBufferReadCommit bb block.size)

/-- `BipBuffer_Grow`. -/
def bipBufferGrow (malloc : Malloc) (bb : BipBuffer) (size : Nat) : Bool × BipBuffer :=
  let size := bipBufferAllocSize bb.pageSize size
  if size ≤ bb.size then (true, bb)
  else if !malloc.succeeds size then (false, bb)
  else
    let (buffer, commitSize, bb) := bipBufferGrowCopy (fun _ => 0) 0 bb
    let (buffer, commitSize, bb) := bipBufferGrowCopy buffer commitSize bb
    (true, ⟨size, buffer, bb.pageSize, ⟨0, commitSize⟩, .clear, .clear⟩)

/-- `BipBuffer_ReadReserve`: the index of the block. -/
def bipBufferReadReserve (malloc : Malloc) (bb : BipBuffer) (size : Nat) :
    Option Nat × BipBuffer :=
  if bipBufferUsedSize bb < size then (none, bb)
  else
    let block := bipBufferReadTryReserve bb size
    if (block.map (·.size)).getD 0 = size then (block.map (·.index), bb)
    else
      match bipBufferGrow malloc bb (bb.size + 1) with
      | (false, bb) => (none, bb)
      | (true, bb) =>
        let block := bipBufferReadTryReserve bb size
        if (block.map (·.size)).getD 0 ≠ size then (none, bb) else (block.map (·.index), bb)

/-! ### Writing -/

/-- `BipBuffer_WriteTryReserve`: the block that is reserved, if there is one. -/
def bipBufferWriteTryReserve (bb : BipBuffer) (size : Nat) : Option BipBlock × BipBuffer :=
  if bb.blockB.size = 0 then
    -- block B does not exist
    let reservable := bb.size - bb.blockA.index - bb.blockA.size
    if reservable ≥ bb.blockA.index then
      if reservable = 0 then (none, bb)
      else
        let block :=
          ⟨bb.blockA.index + bb.blockA.size, if size < reservable then size else reservable⟩
        (some block, { bb with writeR := block })
    else if bb.blockA.index = 0 then (none, bb)
    else
      let block := ⟨0, if bb.blockA.index < size then bb.blockA.index else size⟩
      (some block, { bb with writeR := block })
  else
    -- block B exists
    let reservable := bb.blockA.index - bb.blockB.index - bb.blockB.size
    let reservable := if size < reservable then size else reservable
    if reservable = 0 then (none, bb)
    else
      let block := ⟨bb.blockB.index + bb.blockB.size, reservable⟩
      (some block, { bb with writeR := block })

/-- `BipBuffer_WriteReserve`. -/
def bipBufferWriteReserve (malloc : Malloc) (bb : BipBuffer) (size : Nat) :
    Option BipBlock × BipBuffer :=
  let (block, bb) := bipBufferWriteTryReserve bb size
  if (block.map (·.size)).getD 0 = size then (block, bb)
  else
    match bipBufferGrow malloc bb size with
    | (false, bb) => (none, bb)
    | (true, bb) => bipBufferWriteTryReserve bb size

/-- `BipBuffer_WriteCommit`. -/
def bipBufferWriteCommit (bb : BipBuffer) (size : Nat) : BipBuffer :=
  if size = 0 then { bb with writeR := .clear }
  else
    let size := if size > bb.writeR.size then bb.writeR.size else size
    if bb.blockA.size = 0 ∧ bb.blockB.size = 0 then
      { bb with blockA := ⟨bb.writeR.index, size⟩, writeR := .clear }
    else if bb.writeR.index = bb.blockA.size + bb.blockA.index then
      { bb with blockA := { bb.blockA with size := bb.blockA.size + size }, writeR := .clear }
    else { bb with blockB := { bb.blockB with size := bb.blockB.size + size }, writeR := .clear }

/-- The caller stores bytes in the reserved block, as far as they fit. -/
def bipBufferStore (bb : BipBuffer) (data : List UInt8) : BipBuffer :=
  { bb with buffer := writeList bb.buffer bb.writeR.index (data.take bb.writeR.size) }

/-- One of the two steps of `BipBuffer_Write`: how many bytes it has written, and whether it
returns. -/
def bipBufferWriteBlock (bb : BipBuffer) (data : List UInt8) : Nat × Bool × BipBuffer :=
  match bipBufferWriteTryReserve bb data.length with
  | (none, bb) => (0, false, bb)
  | (some block, bb) =>
    let writeSize := if data.length > block.size then block.size else data.length
    let bb := { bb with buffer := writeList bb.buffer block.index (data.take writeSize) }
    (writeSize, writeSize = data.length || writeSize < block.size,
      bipBufferWriteCommit bb writeSize)

/-- `BipBuffer_Write`. -/
def bipBufferWrite (malloc : Malloc) (bb : BipBuffer) (data : List UInt8) : Int × BipBuffer :=
  if data.length = 0 then (0, bb)
  else
    let data := if data.length > SSIZE_MAX then data.take SSIZE_MAX else data
    match bipBufferWriteReserve malloc bb data.length with
    | (none, bb) => (-1, bb)
    | (some _, bb) =>
      match bipBufferWriteBlock bb data with
      | (status, true, bb) => (status, bb)
      | (status, false, bb) =>
        let (more, _, bb) := bipBufferWriteBlock bb (data.drop status)
        ((status + more : Nat), bb)

/-! ### The queue in the two blocks -/

/-- Block A followed by block B. -/
def BipBuffer.queue (bb : BipBuffer) : List UInt8 :=
  readList bb.buffer bb.blockA.index bb.blockA.size ++
    readList bb.buffer bb.blockB.index bb.blockB.size

/-- The blocks are inside the buffer and apart from each other, and A is not empty unless B is. -/
structure BipBuffer.Placed (bb : BipBuffer) : Prop where
  blockA_le : bb.blockA.index + bb.blockA.size ≤ bb.size
  blockB_le : bb.blockB.index + bb.blockB.size ≤ bb.size
  disjoint : bb.blockB.size ≠ 0 → bb.blockB.index + bb.blockB.size ≤ bb.blockA.index
  nonempty : bb.blockB.size ≠ 0 → bb.blockA.size ≠ 0

/-- The reserved block is free, and a commit knows which block it belongs to. -/
def BipBuffer.Reserved (bb : BipBuffer) : Prop :=
  bb.writeR.size = 0 ∨ bb.blockA.size = 0 ∧ bb.blockB.size = 0 ∨
    bb.blockB.size = 0 ∧ bb.writeR.index = bb.blockA.size + bb.blockA.index ∨
    bb.blockA.size ≠ 0 ∧ bb.writeR.index = bb.blockB.size ∧
      bb.blockB.size + bb.writeR.size ≤ bb.blockA.index

/-- The invariant of bip buffers. -/
structure BipBuffer.Valid (bb : BipBuffer) : Prop extends bb.Placed where
  size_le : bb.size ≤ SSIZE_MAX
  blockB_index : bb.blockB.index = 0
  writeR_le : bb.writeR.index + bb.writeR.size ≤ bb.size
  reserved : bb.Reserved

section Operations

variable {bb bb' : BipBuffer}

lemma BipBuffer.queue_length (bb : BipBuffer) : bb.queue.length = bipBufferUsedSize bb := by
  rw [queue, List.length_append, length_readList, length_readList, bipBufferUsedSize]

lemma BipBuffer.Valid.new {malloc : Malloc} {dwPageSize size : Nat}
    (h : bipBufferNew malloc dwPageSize size = some bb) : bb.Valid ∧ bb.queue = [] := by
  unfold bipBufferNew at h
  dsimp only at h
  generalize (if dwPageSize < 4096 then 4096 else dwPageSize) = pageSize at h
  split at h
  · cases h
  split at h
  · rename_i hmalloc
    obtain rfl := Option.some.inj h
    refine ⟨⟨⟨?_, ?_, ?_, ?_⟩, malloc.le_max _ hmalloc, rfl, ?_, .inl rfl⟩, rfl⟩
    all_goals simp [BipBlock.clear]
  · cases h

/-- `BipBuffer_ReadCommit` takes the bytes off the front, at most block A. -/
lemma BipBuffer.Valid.readCommit (h : bb.Valid) (size : Nat) :
    (bipBufferReadCommit bb size).Valid ∧
      (bipBufferReadCommit bb size).queue = bb.queue.drop (min size bb.blockA.size) := by
  obtain ⟨⟨hA, hB, hdisjoint, hnonempty⟩, hsize, hindex, hW, hreserved⟩ := h
  unfold bipBufferReadCommit
  split
  · rename_i hge
    refine ⟨⟨⟨hB, ?_, ?_, ?_⟩, hsize, rfl, hW, ?_⟩, ?_⟩
    · simp [BipBlock.clear]
    · simp [BipBlock.clear]
    · simp [BipBlock.clear]
    · -- what was behind block B is now behind block A
      unfold Reserved at hreserved ⊢
      dsimp only [BipBlock.clear]
      omega
    · rw [Nat.min_eq_right hge]
      unfold queue
      rw [List.drop_left' (length_readList _ _ _)]
      exact List.append_nil _
  · rename_i hlt
    refine ⟨⟨⟨?_, hB, ?_, ?_⟩, hsize, hindex, hW, ?_⟩, ?_⟩
    · dsimp only
      omega
    · intro hne
      have := hdisjoint hne
      dsimp only
      omega
    · intro _
      dsimp only
      omega
    · unfold Reserved at hreserved ⊢
      dsimp only
      omega
    · unfold queue
      rw [Nat.min_eq_left (by omega), List.drop_append_of_le_length (by simp; omega),
        drop_readList]

lemma BipBuffer.take_queue {k : Nat} (hk : k ≤ bb.blockA.size) :
    bb.queue.take k = readList bb.buffer bb.blockA.index k := by
  rw [queue, List.take_append_of_le_length (by simpa using hk), take_readList, Nat.min_eq_left hk]

lemma BipBuffer.Valid.used_le (h : bb.Valid) : bipBufferUsedSize bb ≤ bb.size := by
  have hA := h.blockA_le
  have hdisjoint := h.disjoint
  unfold bipBufferUsedSize
  omega

/-- One step of a read: it takes what is in block A, or as much as is asked for. -/
lemma BipBuffer.Valid.readBlock (h : bb.Valid) {size : Nat} {bytes : List UInt8} {done : Bool}
    (hread : bipBufferReadBlock bb size = (bytes, done, bb')) :
    bb'.Valid ∧ bytes ++ bb'.queue = bb.queue ∧ bytes.length = min size bb.blockA.size ∧
      (done = true → bytes.length = size) ∧ (done = false → bb'.blockB.size = 0) := by
  unfold bipBufferReadBlock bipBufferReadTryReserve at hread
  by_cases hempty : bb.blockA.size = 0
  · rw [if_pos hempty] at hread
    simp only [Prod.mk.injEq] at hread
    obtain ⟨rfl, rfl, rfl⟩ := hread
    refine ⟨h, rfl, by rw [hempty, Nat.min_zero, List.length_nil], nofun, fun _ => ?_⟩
    by_contra hB
    exact h.nonempty hB hempty
  · rw [if_neg hempty, if_neg (fun hsize => hsize.1 rfl)] at hread
    simp only [Prod.mk.injEq] at hread
    obtain ⟨rfl, rfl, rfl⟩ := hread
    have hmin : (if size > bb.blockA.size then bb.blockA.size else size) =
        min size bb.blockA.size := by
      split <;> omega
    rw [hmin, length_readList]
    obtain ⟨hvalid, hqueue⟩ := h.readCommit (min size bb.blockA.size)
    refine ⟨hvalid, ?_, rfl, ?_, ?_⟩
    · rw [hqueue, Nat.min_eq_left (Nat.min_le_right _ _), ← take_queue (Nat.min_le_right _ _),
        List.take_append_drop]
    · intro hdone
      simp only [Bool.or_eq_true, decide_eq_true_eq] at hdone
      omega
    · intro hdone
      simp only [Bool.or_eq_false_iff, decide_eq_false_iff_not] at hdone
      unfold bipBufferReadCommit
      rw [if_pos (by omega)]
      rfl

/-- `BipBuffer_Read` returns the front of the queue. -/
lemma BipBuffer.Valid.read (h : bb.Valid) (size : Nat) {bytes : List UInt8}
    (hread : bipBufferRead bb size = (bytes, bb')) :
    bb'.Valid ∧ bytes = bb.queue.take size ∧ bb'.queue = bb.queue.drop size := by
  unfold bipBufferRead at hread
  by_cases hsize : size = 0
  · rw [if_pos hsize] at hread
    obtain ⟨rfl, rfl⟩ := Prod.mk.inj hread
    rw [hsize]
    exact ⟨h, rfl, rfl⟩
  rw [if_neg hsize] at hread
  dsimp only at hread
  obtain ⟨n, hn⟩ : ∃ n, (if size > SSIZE_MAX then SSIZE_MAX else size) = n := ⟨_, rfl⟩
  rw [hn] at hread
  have hlength := bb.queue_length
  have hused := h.used_le
  have hmax := h.size_le
  -- what was read and what is left are the queue
  suffices hsplit : bb'.Valid ∧ bytes ++ bb'.queue = bb.queue ∧
      bytes.length = min n bb.queue.length by
    obtain ⟨hvalid, happend, hbytes⟩ := hsplit
    have hcount : min n bb.queue.length = min size bb.queue.length := by
      split at hn <;> omega
    rw [hcount] at hbytes
    refine ⟨hvalid, ?_, ?_⟩
    · rw [List.take_eq_take_min, ← hbytes, ← happend, List.take_left]
    · rw [List.drop_eq_drop_min, ← hbytes, ← happend, List.drop_left]
  unfold bipBufferUsedSize at hlength
  split at hread
  · rename_i bytes₁ bb₁ hfirst
    obtain ⟨rfl, rfl⟩ := Prod.mk.inj hread
    obtain ⟨hvalid, happend, hbytes, hdone, -⟩ := h.readBlock hfirst
    have hall := hdone rfl
    exact ⟨hvalid, happend, by omega⟩
  · rename_i bytes₁ bb₁ hfirst
    obtain ⟨hvalid₁, happend₁, hbytes₁, -, hB⟩ := h.readBlock hfirst
    rcases hsecond : bipBufferReadBlock bb₁ (n - bytes₁.length) with ⟨bytes₂, done, bb₂⟩
    rw [hsecond] at hread
    dsimp only at hread
    obtain ⟨rfl, rfl⟩ := Prod.mk.inj hread
    obtain ⟨hvalid, happend, hbytes, -, -⟩ := hvalid₁.readBlock hsecond
    refine ⟨hvalid, by rw [List.append_assoc, happend, happend₁], ?_⟩
    have hlength₁ := bb₁.queue_length
    have htotal := congrArg List.length happend₁
    unfold bipBufferUsedSize at hlength₁
    rw [List.length_append] at htotal
    rw [List.length_append]
    have hB₁ := hB rfl
    omega

/-- One copy of `BipBuffer_Grow` moves block A. -/
lemma BipBuffer.Valid.growCopy (h : bb.Valid) (buffer : Nat → UInt8) (n : Nat) :
    ∃ bytes, bipBufferGrowCopy buffer n bb = (writeList buffer n bytes, n + bytes.length,
        (bipBufferGrowCopy buffer n bb).2.2) ∧
      (bipBufferGrowCopy buffer n bb).2.2.Valid ∧
      bytes ++ (bipBufferGrowCopy buffer n bb).2.2.queue = bb.queue ∧
      bytes.length = bb.blockA.size ∧ (bipBufferGrowCopy buffer n bb).2.2.blockB.size = 0 := by
  unfold bipBufferGrowCopy bipBufferReadTryReserve
  by_cases hempty : bb.blockA.size = 0
  · rw [if_pos hempty]
    refine ⟨[], rfl, h, rfl, by rw [hempty, List.length_nil], ?_⟩
    by_contra hB
    exact h.nonempty hB hempty
  · rw [if_neg hempty, if_neg (fun hsize => hsize.1 rfl)]
    obtain ⟨hvalid, hqueue⟩ := h.readCommit bb.blockA.size
    refine ⟨readList bb.buffer bb.blockA.index bb.blockA.size, ?_, hvalid, ?_, length_readList _ _ _,
      ?_⟩
    · rw [length_readList]
    · dsimp only
      rw [hqueue, Nat.min_self, ← take_queue (Nat.le_refl _), List.take_append_drop]
    · dsimp only
      unfold bipBufferReadCommit
      rw [if_pos (Nat.le_refl _)]
      rfl

/-- `BipBuffer_Grow` keeps the queue. -/
lemma BipBuffer.Valid.grow (h : bb.Valid) (malloc : Malloc) {size : Nat} {ok : Bool}
    (hgrow : bipBufferGrow malloc bb size = (ok, bb')) : bb'.Valid ∧ bb'.queue = bb.queue := by
  unfold bipBufferGrow at hgrow
  dsimp only at hgrow
  split at hgrow
  · obtain ⟨-, rfl⟩ := Prod.mk.inj hgrow
    exact ⟨h, rfl⟩
  rename_i hlt
  split at hgrow
  · obtain ⟨-, rfl⟩ := Prod.mk.inj hgrow
    exact ⟨h, rfl⟩
  rename_i hmalloc
  obtain ⟨bytes, hfirst, hvalid, happend, -, hB⟩ := h.growCopy (fun _ => 0) 0
  generalize (bipBufferGrowCopy (fun _ => 0) 0 bb).2.2 = bb₁ at *
  rw [hfirst] at hgrow
  obtain ⟨bytes', hsecond, -, happend', hbytes', -⟩ :=
    hvalid.growCopy (writeList (fun _ => 0) 0 bytes) (0 + bytes.length)
  generalize (bipBufferGrowCopy (writeList (fun _ => 0) 0 bytes) (0 + bytes.length) bb₁).2.2 = bb₂
    at *
  dsimp only at hgrow
  rw [hsecond] at hgrow
  obtain ⟨-, rfl⟩ := Prod.mk.inj hgrow
  -- both blocks have been copied
  have hall : bytes ++ bytes' = bb.queue := by
    have hlength := bb₁.queue_length
    have hlength' := congrArg List.length happend'
    rw [List.length_append] at hlength'
    unfold bipBufferUsedSize at hlength
    have hnil : bb₂.queue = [] := List.eq_nil_of_length_eq_zero (by omega)
    rw [hnil, List.append_nil] at happend'
    rw [happend', happend]
  have htotal : 0 + bytes.length + bytes'.length = bb.queue.length := by
    rw [← hall, List.length_append, Nat.zero_add]
  have hused := h.used_le
  rw [← bb.queue_length] at hused
  refine ⟨⟨⟨?_, ?_, ?_, ?_⟩, malloc.le_max _ (by simpa using hmalloc), rfl, ?_, .inl rfl⟩, ?_⟩
  · dsimp only
    omega
  · simp [BipBlock.clear]
  · simp [BipBlock.clear]
  · simp [BipBlock.clear]
  · simp [BipBlock.clear]
  · rw [queue]
    dsimp only
    rw [← writeList_append, hall, htotal, readList_writeList]
    exact List.append_nil _

/-- A block of `size` bytes at the front of the queue. -/
lemma BipBuffer.readTryReserve_of_size {size index : Nat}
    (hblock : ((bipBufferReadTryReserve bb size).map (·.size)).getD 0 = size)
    (hindex : (bipBufferReadTryReserve bb size).map (·.index) = some index) :
    size ≤ bb.blockA.size ∧ readList bb.buffer index size = bb.queue.take size := by
  unfold bipBufferReadTryReserve at hblock hindex
  split at hindex
  · cases hindex
  rename_i hempty
  rw [if_neg hempty] at hblock
  simp only [Option.map_some, Option.getD_some, Option.some.injEq] at hblock hindex
  have hle : size ≤ bb.blockA.size := by split at hblock <;> omega
  exact ⟨hle, by rw [take_queue hle, hindex]⟩

/-- `BipBuffer_ReadReserve` shows the front of the queue. -/
lemma BipBuffer.Valid.readReserve (h : bb.Valid) (malloc : Malloc) {size : Nat} {block : Option Nat}
    (hreserve : bipBufferReadReserve malloc bb size = (block, bb')) :
    bb'.Valid ∧ bb'.queue = bb.queue ∧ ∀ index, block = some index →
      size ≤ bb'.blockA.size ∧ readList bb'.buffer index size = bb.queue.take size := by
  unfold bipBufferReadReserve at hreserve
  dsimp only at hreserve
  split at hreserve
  · obtain ⟨rfl, rfl⟩ := Prod.mk.inj hreserve
    exact ⟨h, rfl, nofun⟩
  split at hreserve
  · rename_i hblock
    obtain ⟨rfl, rfl⟩ := Prod.mk.inj hreserve
    exact ⟨h, rfl, fun index hindex => readTryReserve_of_size hblock hindex⟩
  split at hreserve
  · rename_i bb₁ hgrow
    obtain ⟨rfl, rfl⟩ := Prod.mk.inj hreserve
    obtain ⟨hvalid, hqueue⟩ := h.grow malloc hgrow
    exact ⟨hvalid, hqueue, nofun⟩
  · rename_i bb₁ hgrow
    obtain ⟨hvalid, hqueue⟩ := h.grow malloc hgrow
    split at hreserve
    · obtain ⟨rfl, rfl⟩ := Prod.mk.inj hreserve
      exact ⟨hvalid, hqueue, nofun⟩
    · rename_i hblock
      obtain ⟨rfl, rfl⟩ := Prod.mk.inj hreserve
      refine ⟨hvalid, hqueue, fun index hindex => ?_⟩
      rw [← hqueue]
      exact readTryReserve_of_size (not_not.mp hblock) hindex

/-- A free block as the reserved one. -/
lemma BipBuffer.Valid.reserve (h : bb.Valid) {block : BipBlock}
    (hle : block.index + block.size ≤ bb.size)
    (hfree : ({ bb with writeR := block } : BipBuffer).Reserved) :
    ({ bb with writeR := block } : BipBuffer).Valid :=
  { h with writeR_le := hle, reserved := hfree }

/-- `BipBuffer_WriteTryReserve` reserves free memory. -/
lemma BipBuffer.Valid.writeTryReserve (h : bb.Valid) {size : Nat} {block : Option BipBlock}
    (hreserve : bipBufferWriteTryReserve bb size = (block, bb')) :
    bb'.Valid ∧ bb'.queue = bb.queue ∧
      ∀ b, block = some b → b.size ≤ size ∧ bb'.writeR = b := by
  have hA := h.blockA_le
  have hB := h.disjoint
  have hindex := h.blockB_index
  have hnonempty := h.nonempty
  unfold bipBufferWriteTryReserve at hreserve
  dsimp only at hreserve
  split at hreserve
  · rename_i hempty
    split at hreserve
    · split at hreserve
      · obtain ⟨rfl, rfl⟩ := Prod.mk.inj hreserve
        exact ⟨h, rfl, nofun⟩
      · obtain ⟨rfl, rfl⟩ := Prod.mk.inj hreserve
        refine ⟨h.reserve ?_ ?_, rfl, ?_⟩
        · dsimp only
          split <;> omega
        · exact .inr (.inr (.inl ⟨hempty, Nat.add_comm _ _⟩))
        · rintro b ⟨⟩
          exact ⟨by dsimp only; split <;> omega, rfl⟩
    · split at hreserve
      · obtain ⟨rfl, rfl⟩ := Prod.mk.inj hreserve
        exact ⟨h, rfl, nofun⟩
      · obtain ⟨rfl, rfl⟩ := Prod.mk.inj hreserve
        refine ⟨h.reserve ?_ ?_, rfl, ?_⟩
        · dsimp only
          split <;> omega
        · -- in front of block A, unless that is empty too
          unfold Reserved
          dsimp only
          split <;> omega
        · rintro b ⟨⟩
          exact ⟨by dsimp only; split <;> omega, rfl⟩
  · rename_i hexists
    have hbefore := hB hexists
    have hneA := hnonempty hexists
    obtain ⟨n, hn⟩ : ∃ n, (if size < bb.blockA.index - bb.blockB.index - bb.blockB.size then size
      else bb.blockA.index - bb.blockB.index - bb.blockB.size) = n := ⟨_, rfl⟩
    have hle : n ≤ size ∧ bb.blockB.size + n ≤ bb.blockA.index := by split at hn <;> omega
    rw [hn] at hreserve
    split at hreserve
    · obtain ⟨rfl, rfl⟩ := Prod.mk.inj hreserve
      exact ⟨h, rfl, nofun⟩
    · obtain ⟨rfl, rfl⟩ := Prod.mk.inj hreserve
      refine ⟨h.reserve ?_ ?_, rfl, ?_⟩
      · dsimp only
        omega
      · refine .inr (.inr (.inr ⟨hneA, ?_, hle.2⟩))
        dsimp only
        omega
      · rintro b ⟨⟩
        exact ⟨hle.1, rfl⟩

/-- Bytes in the reserved block are not part of the queue. -/
lemma BipBuffer.Valid.queue_store (h : bb.Valid) (data : List UInt8)
    (hdata : data.length ≤ bb.writeR.size) :
    ({ bb with buffer := writeList bb.buffer bb.writeR.index data } : BipBuffer).queue =
      bb.queue := by
  have hA := h.blockA_le
  have hB := h.disjoint
  have hindex := h.blockB_index
  have hreserved := h.reserved
  unfold Reserved at hreserved
  by_cases hnil : data = []
  · rw [hnil]
    rfl
  have hpos := List.length_pos_iff.mpr hnil
  unfold queue
  dsimp only
  rw [readList_writeList_of_disjoint (by omega), readList_writeList_of_disjoint (by omega)]

/-- `BipBuffer_WriteCommit` of bytes that the caller has stored. -/
lemma BipBuffer.Valid.writeCommit (h : bb.Valid) (data : List UInt8) (size : Nat)
    (hdata : data.length = min size bb.writeR.size) :
    (bipBufferWriteCommit { bb with buffer := writeList bb.buffer bb.writeR.index data }
        size).Valid ∧
      (bipBufferWriteCommit { bb with buffer := writeList bb.buffer bb.writeR.index data }
        size).queue = bb.queue ++ data := by
  have hqueue := h.queue_store data (by omega)
  have hstored : readList (writeList bb.buffer bb.writeR.index data) bb.writeR.index data.length =
      data := readList_writeList
  have hA := h.blockA_le
  have hB := h.disjoint
  have hindex := h.blockB_index
  have hW := h.writeR_le
  have hreserved := h.reserved
  have hnonempty := h.nonempty
  unfold Reserved at hreserved
  unfold bipBufferWriteCommit
  dsimp only
  generalize writeList bb.buffer bb.writeR.index data = buffer at *
  split
  · obtain rfl : data = [] := List.eq_nil_of_length_eq_zero (by omega)
    rw [List.append_nil]
    exact ⟨{ h with writeR_le := Nat.zero_le _, reserved := .inl rfl }, hqueue⟩
  have hsize : (if size > bb.writeR.size then bb.writeR.size else size) = data.length := by
    split <;> omega
  rw [hsize]
  unfold queue at hqueue ⊢
  split
  · -- both blocks are empty
    rename_i hempty
    refine ⟨⟨⟨?_, ?_, ?_, ?_⟩, h.size_le, hindex, Nat.zero_le _, .inl rfl⟩, ?_⟩
    · dsimp only
      omega
    · dsimp only
      omega
    · intro hne
      exact absurd hempty.2 hne
    · intro hne
      exact absurd hempty.2 hne
    · dsimp only
      rw [hempty.1, hempty.2, hstored]
      exact List.append_nil _
  split
  · -- block A grows
    rename_i hne hend
    have hBzero : data = [] ∨ bb.blockB.size = 0 := by
      rcases Nat.eq_zero_or_pos data.length with hzero | hpos
      · exact .inl (List.eq_nil_of_length_eq_zero hzero)
      · exact .inr (by omega)
    refine ⟨⟨⟨?_, ?_, ?_, ?_⟩, h.size_le, hindex, Nat.zero_le _, .inl rfl⟩, ?_⟩
    · dsimp only
      omega
    · exact h.blockB_le
    · exact hB
    · intro hneB
      have := hnonempty hneB
      dsimp only
      omega
    · dsimp only
      rw [readList_add, Nat.add_comm bb.blockA.index, ← hend, hstored]
      rcases hBzero with rfl | hzero
      · rw [List.append_nil, List.append_nil]
        exact hqueue
      · rw [hzero] at hqueue ⊢
        rw [← hqueue]
        simp [readList]
  · -- block B grows
    rename_i hne hend
    refine ⟨⟨⟨hA, ?_, ?_, ?_⟩, h.size_le, hindex, Nat.zero_le _, .inl rfl⟩, ?_⟩
    · have := h.blockB_le
      dsimp only
      omega
    · intro _
      dsimp only
      omega
    · intro _
      dsimp only
      omega
    · dsimp only
      rw [readList_add, ← List.append_assoc, hqueue]
      rcases Nat.eq_zero_or_pos data.length with hzero | hpos
      · rw [List.eq_nil_of_length_eq_zero hzero]
        rfl
      · rw [show bb.blockB.index + bb.blockB.size = bb.writeR.index by omega, hstored]

/-- One step of a write. -/
lemma BipBuffer.Valid.writeBlock (h : bb.Valid) {data : List UInt8} {n : Nat} {done : Bool}
    (hwrite : bipBufferWriteBlock bb data = (n, done, bb')) :
    bb'.Valid ∧ bb'.queue = bb.queue ++ data.take n ∧ n ≤ data.length := by
  unfold bipBufferWriteBlock at hwrite
  rcases hreserve : bipBufferWriteTryReserve bb data.length with ⟨_ | block, bb₁⟩
  · rw [hreserve] at hwrite
    simp only [Prod.mk.injEq] at hwrite
    obtain ⟨rfl, rfl, rfl⟩ := hwrite
    obtain ⟨hvalid, hqueue, -⟩ := h.writeTryReserve hreserve
    exact ⟨hvalid, by rw [hqueue, List.take_zero, List.append_nil], Nat.zero_le _⟩
  · rw [hreserve] at hwrite
    simp only [Prod.mk.injEq] at hwrite
    obtain ⟨rfl, rfl, rfl⟩ := hwrite
    obtain ⟨hvalid, hqueue, hblock⟩ := h.writeTryReserve hreserve
    obtain ⟨hle, hwriteR⟩ := hblock block rfl
    obtain ⟨n, hn⟩ : ∃ n, (if data.length > block.size then block.size else data.length) = n :=
      ⟨_, rfl⟩
    rw [hn, ← hwriteR, ← hqueue]
    rw [← hwriteR] at hn hle
    obtain ⟨hvalid', hqueue'⟩ := hvalid.writeCommit (data.take n) n
      (by rw [List.length_take]; split at hn <;> omega)
    exact ⟨hvalid', hqueue', by split at hn <;> omega⟩

lemma BipBuffer.Valid.writeReserve (h : bb.Valid) (malloc : Malloc) {size : Nat}
    {block : Option BipBlock} (hreserve : bipBufferWriteReserve malloc bb size = (block, bb')) :
    bb'.Valid ∧ bb'.queue = bb.queue := by
  unfold bipBufferWriteReserve at hreserve
  rcases hfirst : bipBufferWriteTryReserve bb size with ⟨block₁, bb₁⟩
  rw [hfirst] at hreserve
  dsimp only at hreserve
  obtain ⟨hvalid₁, hqueue₁, -⟩ := h.writeTryReserve hfirst
  split at hreserve
  · obtain ⟨rfl, rfl⟩ := Prod.mk.inj hreserve
    exact ⟨hvalid₁, hqueue₁⟩
  · split at hreserve
    · rename_i bb₂ hgrow
      obtain ⟨rfl, rfl⟩ := Prod.mk.inj hreserve
      obtain ⟨hvalid₂, hqueue₂⟩ := hvalid₁.grow malloc hgrow
      exact ⟨hvalid₂, hqueue₂.trans hqueue₁⟩
    · rename_i bb₂ hgrow
      obtain ⟨hvalid₂, hqueue₂⟩ := hvalid₁.grow malloc hgrow
      obtain ⟨hvalid, hqueue, -⟩ := hvalid₂.writeTryReserve hreserve
      exact ⟨hvalid, hqueue.trans (hqueue₂.trans hqueue₁)⟩

/-- `BipBuffer_Write` fails, or appends the first bytes of the data. -/
lemma BipBuffer.Valid.write (h : bb.Valid) (malloc : Malloc) {data : List UInt8} {n : Int}
    (hwrite : bipBufferWrite malloc bb data = (n, bb')) :
    bb'.Valid ∧ (n = -1 ∧ bb'.queue = bb.queue ∨
      ∃ k : Nat, n = k ∧ k ≤ data.length ∧ bb'.queue = bb.queue ++ data.take k) := by
  unfold bipBufferWrite at hwrite
  split at hwrite
  · obtain ⟨rfl, rfl⟩ := Prod.mk.inj hwrite
    exact ⟨h, .inr ⟨0, rfl, Nat.zero_le _, by rw [List.take_zero, List.append_nil]⟩⟩
  dsimp only at hwrite
  obtain ⟨front, hfront⟩ : ∃ front,
    (if data.length > SSIZE_MAX then data.take SSIZE_MAX else data) = front := ⟨_, rfl⟩
  have htake : ∃ m, front = data.take m := by
    split at hfront
    · exact ⟨SSIZE_MAX, hfront.symm⟩
    · exact ⟨data.length, by rw [List.take_length, hfront]⟩
  obtain ⟨m, rfl⟩ := htake
  rw [hfront] at hwrite
  -- what is written is a front part of a front part
  have hfront : ∀ k ≤ (data.take m).length, k ≤ data.length ∧
      (data.take m).take k = data.take k := by
    intro k hk
    rw [List.length_take] at hk
    exact ⟨by omega, by rw [List.take_take, Nat.min_eq_left (by omega)]⟩
  split at hwrite
  · rename_i bb₁ hreserve
    obtain ⟨rfl, rfl⟩ := Prod.mk.inj hwrite
    obtain ⟨hvalid, hqueue⟩ := h.writeReserve malloc hreserve
    exact ⟨hvalid, .inl ⟨rfl, hqueue⟩⟩
  · rename_i block bb₁ hreserve
    obtain ⟨hvalid₁, hqueue₁⟩ := h.writeReserve malloc hreserve
    split at hwrite
    · rename_i k bb₂ hfirst
      obtain ⟨rfl, rfl⟩ := Prod.mk.inj hwrite
      obtain ⟨hvalid, hqueue, hk⟩ := hvalid₁.writeBlock hfirst
      obtain ⟨hle, heq⟩ := hfront k hk
      exact ⟨hvalid, .inr ⟨k, rfl, hle, by rw [hqueue, hqueue₁, heq]⟩⟩
    · rename_i k bb₂ hfirst
      obtain ⟨hvalid₂, hqueue₂, hk⟩ := hvalid₁.writeBlock hfirst
      rcases hsecond : bipBufferWriteBlock bb₂ ((data.take m).drop k) with ⟨k', done, bb₃⟩
      rw [hsecond] at hwrite
      obtain ⟨rfl, rfl⟩ := Prod.mk.inj hwrite
      obtain ⟨hvalid, hqueue, hk'⟩ := hvalid₂.writeBlock hsecond
      rw [List.length_drop] at hk'
      obtain ⟨hle, heq⟩ := hfront (k + k') (by omega)
      refine ⟨hvalid, .inr ⟨k + k', rfl, hle, ?_⟩⟩
      rw [hqueue, hqueue₂, hqueue₁, List.append_assoc, ← List.take_add, heq]

end Operations

/-! ### Runs -/

/-- A call of a bip buffer. -/
inductive BipOp where
  | write (malloc : Malloc) (data : List UInt8)
  | read (size : Nat)
  | readReserve (malloc : Malloc) (size : Nat)
  | readCommit (size : Nat)
  | grow (malloc : Malloc) (size : Nat)
  | writeTryReserve (size : Nat)
  /-- The caller stores `data` in the reserved block and commits it. -/
  | writeCommit (data : List UInt8)

/-- The buffer after a call. -/
def bipStep (bb : BipBuffer) : BipOp → BipBuffer
  | .write malloc data => (bipBufferWrite malloc bb data).2
  | .read size => (bipBufferRead bb size).2
  | .readReserve malloc size => (bipBufferReadReserve malloc bb size).2
  | .readCommit size => bipBufferReadCommit bb size
  | .grow malloc size => (bipBufferGrow malloc bb size).2
  | .writeTryReserve size => (bipBufferWriteTryReserve bb size).2
  | .writeCommit data => bipBufferWriteCommit (bipBufferStore bb data) data.length

/-- What a call returns and does to the queue. -/
def BipFifo (bb : BipBuffer) (op : BipOp) : Prop :=
  let q := bb.queue
  let q' := (bipStep bb op).queue
  match op with
  | .write malloc data =>
    let n := (bipBufferWrite malloc bb data).1
    n = -1 ∧ q' = q ∨ ∃ k : Nat, n = k ∧ k ≤ data.length ∧ q' = q ++ data.take k
  | .read size =>
    let bytes := (bipBufferRead bb size).1
    bytes.length = min size (bipBufferUsedSize bb) ∧ bytes = q.take size ∧ q' = q.drop size
  | .readReserve malloc size =>
    -- a block that is returned has the front of the queue, and can be committed as a whole
    q' = q ∧ ∀ index, (bipBufferReadReserve malloc bb size).1 = some index →
      readList (bipStep bb op).buffer index size = q.take size ∧
        size ≤ (bipStep bb op).blockA.size ∧ size ≤ q.length
  | .readCommit size => q' = q.drop (min size bb.blockA.size)
  | .grow _ _ => q' = q
  | .writeTryReserve size =>
    q' = q ∧ ∀ block, (bipBufferWriteTryReserve bb size).1 = some block →
      block.size ≤ size ∧ (bipStep bb op).writeR = block
  | .writeCommit data => q' = q ++ data.take bb.writeR.size

/-- One call: it does what the queue does, and the invariant is kept. -/
lemma BipBuffer.Valid.step {bb : BipBuffer} (h : bb.Valid) (op : BipOp) :
    BipFifo bb op ∧ (bipStep bb op).Valid := by
  cases op with
  | write malloc data =>
    obtain ⟨hvalid, hqueue⟩ := h.write malloc (Prod.mk.eta (p := bipBufferWrite malloc bb data)).symm
    exact ⟨hqueue, hvalid⟩
  | read size =>
    obtain ⟨hvalid, hbytes, hqueue⟩ := h.read size (Prod.mk.eta (p := bipBufferRead bb size)).symm
    refine ⟨⟨?_, hbytes, hqueue⟩, hvalid⟩
    rw [hbytes, List.length_take, bb.queue_length]
  | readReserve malloc size =>
    obtain ⟨hvalid, hqueue, hblock⟩ :=
      h.readReserve malloc (Prod.mk.eta (p := bipBufferReadReserve malloc bb size)).symm
    refine ⟨⟨hqueue, fun index hindex => ?_⟩, hvalid⟩
    obtain ⟨hle, hread⟩ := hblock index hindex
    refine ⟨hread, hle, ?_⟩
    rw [← hqueue, queue_length, bipBufferUsedSize]
    exact hle.trans (Nat.le_add_right _ _)
  | readCommit size =>
    obtain ⟨hvalid, hqueue⟩ := h.readCommit size
    exact ⟨hqueue, hvalid⟩
  | grow malloc size =>
    obtain ⟨hvalid, hqueue⟩ := h.grow malloc (Prod.mk.eta (p := bipBufferGrow malloc bb size)).symm
    exact ⟨hqueue, hvalid⟩
  | writeTryReserve size =>
    obtain ⟨hvalid, hqueue, hblock⟩ :=
      h.writeTryReserve (Prod.mk.eta (p := bipBufferWriteTryReserve bb size)).symm
    exact ⟨⟨hqueue, hblock⟩, hvalid⟩
  | writeCommit data =>
    obtain ⟨hvalid, hqueue⟩ := h.writeCommit (data.take bb.writeR.size) data.length
      (by rw [List.length_take, Nat.min_comm])
    exact ⟨hqueue, hvalid⟩

/-- Every call of every run does what it does to a queue, and the blocks are always in place. -/
theorem bipBuffer_fifo {malloc : Malloc} {dwPageSize size : Nat} {bb : BipBuffer}
    (hnew : bipBufferNew malloc dwPageSize size = some bb) (ops : List BipOp) :
    bb.queue = [] ∧
      AlongRun bipStep (fun bb op => BipFifo bb op ∧ bb.Placed ∧ (bipStep bb op).Placed) bb ops := by
  obtain ⟨hvalid, hempty⟩ := BipBuffer.Valid.new hnew
  refine ⟨hempty, alongRun_of_invariant ?_ hvalid ops⟩
  intro bb op hbb
  obtain ⟨hfifo, hbb'⟩ := hbb.step op
  exact ⟨⟨hfifo, hbb.toPlaced, hbb'.toPlaced⟩, hbb'⟩

/-- A buffer of 16 bytes, where a second block comes up and the buffer has to grow. -/
theorem bipBuffer_fifo_grow :
    ∃ bb, bipBufferNew mallocAll 4096 8 = some bb ∧ bb.queue = [] ∧
      AlongRun bipStep (fun bb op => BipFifo bb op ∧ bb.Placed ∧ (bipStep bb op).Placed) bb
        [.write mallocAll (List.replicate 14 1), .read 12, .write mallocAll (List.replicate 8 2),
          .writeTryReserve 3, .writeCommit [3, 4], .readReserve mallocAll 12, .readCommit 12] := by
  have hnew : bipBufferNew mallocAll 4096 8 =
      some ⟨16, fun _ => 0, 4096, .clear, .clear, .clear⟩ := rfl
  exact ⟨_, hnew, bipBuffer_fifo hnew _⟩

end FreeRdp
