import FreeRdp.Winpr.Collections.BipBuffer

/-!
# Reserving a block of a bip buffer

`BipBuffer_WriteReserve` does not say how large the block is that it returns. The block is of the
size that was asked for if that much is free in one piece, or if the buffer grows and the bytes in
it leave room for it: the new size is made of the requested one alone.
-/

namespace FreeRdp

/-- The size of the block that is free. -/
def BipBuffer.reservable (bb : BipBuffer) : Nat :=
  if bb.blockB.size = 0 then
    let reservable := bb.size - bb.blockA.index - bb.blockA.size
    if reservable ≥ bb.blockA.index then reservable else bb.blockA.index
  else bb.blockA.index - bb.blockB.index - bb.blockB.size

/-- The `size` bytes from `index` on lie in the buffer and are not part of the queue. -/
def BipBuffer.Free (bb : BipBuffer) (index size : Nat) : Prop :=
  index + size ≤ bb.size ∧ ∀ i, index ≤ i → i < index + size →
    ¬(bb.blockA.index ≤ i ∧ i < bb.blockA.index + bb.blockA.size) ∧
      ¬(bb.blockB.index ≤ i ∧ i < bb.blockB.index + bb.blockB.size)

/-- Where `BipBuffer_WriteReserve` returns a block, `size` bytes are free there, and bytes that are
written there and committed come at the end of the queue. -/
def BipBuffer.ReserveDelivers (malloc : Malloc) (bb : BipBuffer) (size : Nat) : Prop :=
  ∀ block bb', bipBufferWriteReserve malloc bb size = (some block, bb') →
    bb'.Free block.index size ∧ ∀ data : List UInt8, data.length = size →
      (bipBufferWriteCommit { bb' with buffer := writeList bb'.buffer block.index data } size).queue =
        bb.queue ++ data

/-- The free block is large enough, or there is none and the buffer does not grow, or it grows and
has room behind what is in it. -/
def BipBuffer.ReserveSuffices (malloc : Malloc) (bb : BipBuffer) (size : Nat) : Prop :=
  let allocSize := bipBufferAllocSize bb.pageSize size
  size ≤ bb.reservable ∨
    if allocSize ≤ bb.size then bb.reservable = 0
    else malloc.succeeds allocSize = true → bipBufferUsedSize bb + size ≤ allocSize

instance (malloc : Malloc) (bb : BipBuffer) (size : Nat) :
    Decidable (bb.ReserveSuffices malloc size) :=
  inferInstanceAs (Decidable (size ≤ bb.reservable ∨
    if bipBufferAllocSize bb.pageSize size ≤ bb.size then bb.reservable = 0
    else malloc.succeeds (bipBufferAllocSize bb.pageSize size) = true →
      bipBufferUsedSize bb + size ≤ bipBufferAllocSize bb.pageSize size))

section Operations

variable {bb bb' : BipBuffer} {size : Nat}

/-- `BipBuffer_WriteTryReserve` reserves the free block as far as it is asked for. -/
lemma bipBufferWriteTryReserve_size (hsize : 1 ≤ size) {block : Option BipBlock}
    (h : bipBufferWriteTryReserve bb size = (block, bb')) :
    (block.map (·.size)).getD 0 = min size bb.reservable ∧
      (block = none ↔ bb.reservable = 0) := by
  unfold bipBufferWriteTryReserve at h
  unfold BipBuffer.reservable
  dsimp only at h ⊢
  split at h
  · rename_i hempty
    rw [if_pos hempty]
    split at h
    · rename_i hge
      rw [if_pos hge]
      split at h <;> cases h
      · simp_all
      · rename_i hne
        refine ⟨?_, iff_of_false nofun hne⟩
        simp only [Option.map_some, Option.getD_some]
        split <;> omega
    · rename_i hlt
      rw [if_neg hlt]
      split at h <;> cases h
      · simp_all
      · rename_i hne
        refine ⟨?_, iff_of_false nofun hne⟩
        simp only [Option.map_some, Option.getD_some]
        split <;> omega
  · rename_i hexists
    rw [if_neg hexists]
    generalize bb.blockA.index - bb.blockB.index - bb.blockB.size = n at h ⊢
    have hmin : (if size < n then size else n) = min size n := by
      split <;> omega
    rw [hmin] at h
    split at h <;> cases h
    · rename_i hzero
      have hn : n = 0 := by omega
      simp [hn]
    · rename_i hne
      have hn : n ≠ 0 := by omega
      exact ⟨rfl, iff_of_false nofun hn⟩

/-- A block of this size is free. -/
lemma BipBuffer.Valid.free_writeR (h : bb.Valid) : bb.Free bb.writeR.index bb.writeR.size := by
  have hA := h.blockA_le
  have hB := h.disjoint
  have hindex := h.blockB_index
  have hW := h.writeR_le
  have hreserved := h.reserved
  unfold Reserved at hreserved
  exact ⟨hW, fun i hi hi' => ⟨by omega, by omega⟩⟩

/-- A commit is of the reserved block at most. -/
lemma bipBufferUsedSize_writeCommit (bb : BipBuffer) (size : Nat) :
    bipBufferUsedSize (bipBufferWriteCommit bb size) =
      bipBufferUsedSize bb + min size bb.writeR.size := by
  have hmin : (if size > bb.writeR.size then bb.writeR.size else size) =
      min size bb.writeR.size := by
    split <;> omega
  unfold bipBufferWriteCommit
  dsimp only
  rw [hmin]
  unfold bipBufferUsedSize
  split
  · dsimp only
    omega
  split
  · dsimp only
    omega
  split
  · dsimp only
    omega
  · dsimp only
    omega

/-- A block that has been returned delivers if and only if it is of the size that was asked for. -/
lemma BipBuffer.Valid.delivers_iff (h : bb.Valid) (hle : bb.writeR.size ≤ size) :
    (bb.Free bb.writeR.index size ∧ ∀ data : List UInt8, data.length = size →
      (bipBufferWriteCommit { bb with buffer := writeList bb.buffer bb.writeR.index data }
        size).queue = bb.queue ++ data) ↔ bb.writeR.size = size := by
  constructor
  · rintro ⟨-, hcommit⟩
    have hlength := congrArg List.length (hcommit (List.replicate size 0) List.length_replicate)
    rw [BipBuffer.queue_length, bipBufferUsedSize_writeCommit, List.length_append,
      BipBuffer.queue_length, List.length_replicate] at hlength
    simp only [bipBufferUsedSize] at hlength
    omega
  · intro heq
    refine ⟨heq ▸ h.free_writeR, fun data hdata => ?_⟩
    exact (h.writeCommit data size (by omega)).2

/-- `BipBuffer_WriteTryReserve` changes nothing but the reserved block. -/
lemma bipBufferWriteTryReserve_state {block : Option BipBlock}
    (h : bipBufferWriteTryReserve bb size = (block, bb')) : ∃ w, bb' = { bb with writeR := w } := by
  unfold bipBufferWriteTryReserve at h
  dsimp only at h
  repeat' split at h
  all_goals
    obtain ⟨-, rfl⟩ := Prod.mk.inj h
    exact ⟨_, rfl⟩

/-- What a second attempt finds in a buffer that has grown. -/
lemma BipBuffer.Valid.grow_reservable (h : bb.Valid) {malloc : Malloc}
    (hlt : ¬bipBufferAllocSize bb.pageSize size ≤ bb.size)
    (hmalloc : malloc.succeeds (bipBufferAllocSize bb.pageSize size) = true) :
    ∃ bb', bipBufferGrow malloc bb size = (true, bb') ∧ bb'.Valid ∧ bb'.queue = bb.queue ∧
      bb'.reservable = bipBufferAllocSize bb.pageSize size - bipBufferUsedSize bb := by
  obtain ⟨buffer, pageSize, n, hgrow⟩ : ∃ buffer pageSize n, bipBufferGrow malloc bb size =
      (true, ⟨bipBufferAllocSize bb.pageSize size, buffer, pageSize, ⟨0, n⟩, .clear, .clear⟩) := by
    unfold bipBufferGrow
    dsimp only
    rw [if_neg hlt, hmalloc, if_neg (by decide)]
    exact ⟨_, _, _, rfl⟩
  obtain ⟨hvalid, hqueue⟩ := h.grow malloc hgrow
  refine ⟨_, hgrow, hvalid, hqueue, ?_⟩
  have hlength := congrArg List.length hqueue
  rw [BipBuffer.queue_length, BipBuffer.queue_length] at hlength
  unfold BipBuffer.reservable
  unfold bipBufferUsedSize at hlength ⊢
  simp only [BipBlock.clear] at hlength ⊢
  simp
  omega

/-- The block that `BipBuffer_WriteTryReserve` returns delivers if it is not cut short. -/
lemma BipBuffer.Valid.tryReserve_delivers_iff (h : bb.Valid) (hsize : 1 ≤ size)
    {block : Option BipBlock} (hreserve : bipBufferWriteTryReserve bb size = (block, bb')) :
    (∀ b, block = some b → bb'.Free b.index size ∧ ∀ data : List UInt8, data.length = size →
      (bipBufferWriteCommit { bb' with buffer := writeList bb'.buffer b.index data } size).queue =
        bb.queue ++ data) ↔ bb.reservable = 0 ∨ size ≤ bb.reservable := by
  obtain ⟨hblockSize, hnone⟩ := bipBufferWriteTryReserve_size hsize hreserve
  obtain ⟨hvalid, hqueue, hblock⟩ := h.writeTryReserve hreserve
  cases block with
  | none => exact iff_of_true nofun (.inl (hnone.mp rfl))
  | some b =>
    have hzero : bb.reservable ≠ 0 := fun hzero => absurd (hnone.mpr hzero) nofun
    obtain ⟨hle, rfl⟩ := hblock b rfl
    simp only [Option.map_some, Option.getD_some] at hblockSize
    have hiff := hvalid.delivers_iff hle
    rw [hqueue] at hiff
    constructor
    · intro hdelivers
      have heq := hiff.mp (hdelivers _ rfl)
      exact .inr (by omega)
    · rintro hsuffices b' ⟨⟩
      exact hiff.mpr (by omega)

/-- In a valid buffer, `BipBuffer_WriteReserve` delivers if and only if the room suffices. -/
lemma BipBuffer.Valid.reserveDelivers_iff (h : bb.Valid) (malloc : Malloc) (hsize : 1 ≤ size) :
    bb.ReserveDelivers malloc size ↔ bb.ReserveSuffices malloc size := by
  rcases hfirst : bipBufferWriteTryReserve bb size with ⟨block, bb₁⟩
  obtain ⟨hblockSize, -⟩ := bipBufferWriteTryReserve_size hsize hfirst
  obtain ⟨hvalid₁, hqueue₁, -⟩ := h.writeTryReserve hfirst
  obtain ⟨w, hw⟩ := bipBufferWriteTryReserve_state hfirst
  have hsame : bb₁.reservable = bb.reservable ∧ bb₁.size = bb.size ∧
      bb₁.pageSize = bb.pageSize ∧ bipBufferUsedSize bb₁ = bipBufferUsedSize bb := by
    subst hw
    exact ⟨rfl, rfl, rfl, rfl⟩
  obtain ⟨hreservable, hbbSize, hpage, hused⟩ := hsame
  have hle := h.used_le
  unfold BipBuffer.ReserveDelivers BipBuffer.ReserveSuffices bipBufferWriteReserve
  rw [hfirst]
  dsimp only
  rw [hblockSize]
  by_cases hfits : size ≤ bb.reservable
  · -- the first attempt suffices
    rw [if_pos (Nat.min_eq_left hfits)]
    refine iff_of_true ?_ (.inl hfits)
    rintro b bb' ⟨⟩
    exact (h.tryReserve_delivers_iff hsize hfirst).mpr (.inr hfits) b rfl
  rw [if_neg (by omega), or_iff_right hfits]
  by_cases hgrows : bipBufferAllocSize bb.pageSize size ≤ bb.size
  · -- the buffer does not grow, and the second attempt is like the first
    have hgrow : bipBufferGrow malloc bb₁ size = (true, bb₁) := by
      unfold bipBufferGrow
      dsimp only
      rw [hpage, hbbSize, if_pos hgrows]
    rw [if_pos hgrows, hgrow]
    rcases hsecond : bipBufferWriteTryReserve bb₁ size with ⟨block', bb₂⟩
    have hiff := hvalid₁.tryReserve_delivers_iff hsize hsecond
    rw [hreservable, or_iff_left hfits, hqueue₁] at hiff
    rw [← hiff]
    simp only [hsecond, Prod.mk.injEq]
    constructor
    · intro hdelivers b hb
      exact hdelivers b bb₂ ⟨hb, rfl⟩
    · rintro hdelivers b bb' ⟨hb, rfl⟩
      exact hdelivers b hb
  · rw [if_neg hgrows]
    rw [← hpage, ← hbbSize] at hgrows
    by_cases hmalloc : malloc.succeeds (bipBufferAllocSize bb₁.pageSize size) = true
    · -- the buffer grows
      obtain ⟨bb₂, hgrow, hvalid₂, hqueue₂, hreservable₂⟩ :=
        hvalid₁.grow_reservable hgrows hmalloc
      rw [hgrow]
      rcases hsecond : bipBufferWriteTryReserve bb₂ size with ⟨block', bb₃⟩
      have hiff := hvalid₂.tryReserve_delivers_iff hsize hsecond
      rw [hreservable₂, hqueue₂, hqueue₁, hused, hpage] at hiff
      rw [hpage, hbbSize] at hgrows
      rw [hpage] at hmalloc
      have hcond : (malloc.succeeds (bipBufferAllocSize bb.pageSize size) = true →
          bipBufferUsedSize bb + size ≤ bipBufferAllocSize bb.pageSize size) ↔
          (bipBufferAllocSize bb.pageSize size - bipBufferUsedSize bb = 0 ∨
            size ≤ bipBufferAllocSize bb.pageSize size - bipBufferUsedSize bb) := by
        simp only [hmalloc, true_imp_iff]
        omega
      rw [hcond, ← hiff]
      simp only [hsecond, Prod.mk.injEq]
      constructor
      · intro hdelivers b hb
        exact hdelivers b bb₃ ⟨hb, rfl⟩
      · rintro hdelivers b bb' ⟨hb, rfl⟩
        exact hdelivers b hb
    · -- there is no memory, and no block is returned
      have hgrow : bipBufferGrow malloc bb₁ size = (false, bb₁) := by
        unfold bipBufferGrow
        dsimp only
        rw [if_neg hgrows, if_pos (by simpa using hmalloc)]
      rw [hgrow, ← hpage]
      refine iff_of_true ?_ fun hsucceeds => absurd hsucceeds hmalloc
      rintro b bb' ⟨⟩

end Operations

/-! ### Reachable states -/

/-- `BipBuffer_Clear`. -/
def bipBufferClear (bb : BipBuffer) : BipBuffer :=
  { bb with blockA := .clear, blockB := .clear, writeR := .clear }

/-- A call of a bip buffer, with the ones that are made of others. -/
inductive BipCall where
  | op (op : BipOp)
  | writeReserve (malloc : Malloc) (size : Nat)
  | clear

/-- The buffer after a call. -/
def bipCall (bb : BipBuffer) : BipCall → BipBuffer
  | .op op => bipStep bb op
  | .writeReserve malloc size => (bipBufferWriteReserve malloc bb size).2
  | .clear => bipBufferClear bb

lemma BipBuffer.Valid.call {bb : BipBuffer} (h : bb.Valid) (call : BipCall) :
    (bipCall bb call).Valid := by
  cases call with
  | op op => exact (h.step op).2
  | writeReserve malloc size => exact (h.writeReserve malloc rfl).1
  | clear =>
    refine ⟨⟨?_, ?_, ?_, ?_⟩, h.size_le, rfl, Nat.zero_le _, .inl rfl⟩
    all_goals simp [bipCall, bipBufferClear, BipBlock.clear]

lemma BipBuffer.Valid.run {malloc : Malloc} {dwPageSize size : Nat} {bb : BipBuffer}
    (hnew : bipBufferNew malloc dwPageSize size = some bb) (calls : List BipCall) :
    (calls.foldl bipCall bb).Valid := by
  obtain ⟨hvalid, -⟩ := BipBuffer.Valid.new hnew
  clear hnew
  induction calls generalizing bb with
  | nil => exact hvalid
  | cons call calls ih => exact ih (hvalid.call call)

/-- In every reachable state `BipBuffer_WriteReserve` delivers what it was asked for if and only if
the room suffices. -/
theorem bipBufferWriteReserve_delivers_iff {malloc : Malloc} {dwPageSize size : Nat} {bb : BipBuffer}
    (hnew : bipBufferNew malloc dwPageSize size = some bb) (calls : List BipCall) (malloc' : Malloc)
    {request : Nat} (hrequest : 1 ≤ request) :
    (calls.foldl bipCall bb).ReserveDelivers malloc' request ↔
      (calls.foldl bipCall bb).ReserveSuffices malloc' request :=
  (BipBuffer.Valid.run hnew calls).reserveDelivers_iff malloc' hrequest

/-- A buffer of 16 bytes. -/
def bipBufferSixteen : BipBuffer := ⟨16, fun _ => 0, 4096, .clear, .clear, .clear⟩

lemma bipBufferNew_sixteen : bipBufferNew mallocAll 4096 8 = some bipBufferSixteen := rfl

/-- With 12 bytes in use it grows for 20 bytes. -/
theorem bipBufferWriteReserve_delivers_grow :
    ([BipCall.op (.write mallocAll (List.replicate 12 1))].foldl bipCall
      bipBufferSixteen).ReserveDelivers mallocAll 20 :=
  (bipBufferWriteReserve_delivers_iff bipBufferNew_sixteen _ mallocAll (by decide)).mpr (by decide)

/-- With 12 bytes in use it returns a block of 4 bytes for 8. -/
theorem bipBufferWriteReserve_cut_short :
    ((bipBufferWriteReserve mallocAll ([BipCall.op (.write mallocAll (List.replicate 12 1))].foldl
      bipCall bipBufferSixteen) 8).1 = some ⟨12, 4⟩) ∧
    ¬([BipCall.op (.write mallocAll (List.replicate 12 1))].foldl bipCall
      bipBufferSixteen).ReserveDelivers mallocAll 8 := by
  refine ⟨by decide, fun hdelivers => ?_⟩
  have hsuffices := ((BipBuffer.Valid.run bipBufferNew_sixteen _).reserveDelivers_iff mallocAll
    (by decide)).mp hdelivers
  revert hsuffices
  decide

end FreeRdp
