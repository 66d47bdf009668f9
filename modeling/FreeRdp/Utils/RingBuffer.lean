import FreeRdp.Library.Copy
import FreeRdp.Winpr.Crt

/-!
# Ring buffers

`ringbuffer.c`: a byte queue in a buffer that is used in a circle, grows when more room is needed
and goes back to its first size when it has emptied.

An allocation may fail; whether there is memory is an argument of the operations. The cells of a
new allocation that nothing was copied to keep what the model had there before, and are never read.
Sizes are `size_t` values, and their sums and differences wrap.
-/

namespace FreeRdp

/-- `RingBuffer`. -/
structure RingBuffer where
  initialSize : Nat
  freeSize : Nat
  size : Nat
  readPtr : Nat
  writePtr : Nat
  buffer : Nat → UInt8

/-- `ringbuffer_init`. -/
def ringbufferInit (initialSize : Nat) : RingBuffer :=
  ⟨initialSize, initialSize, initialSize, 0, 0, fun _ => 0⟩

/-- `ringbuffer_used`. -/
def ringbufferUsed (rb : RingBuffer) : Nat := sizeSub rb.size rb.freeSize

/-- `ringbuffer_capacity`. -/
def ringbufferCapacity (rb : RingBuffer) : Nat := rb.size

/-- The new heads and buffer of `ringbuffer_realloc`. -/
def ringbufferMove (rb : RingBuffer) (targetSize : Nat) : RingBuffer :=
  if rb.writePtr = rb.readPtr then { rb with readPtr := 0, writePtr := 0 }
  else if rb.writePtr ≥ rb.readPtr ∧ rb.writePtr < targetSize then rb
  else
    let data := if rb.readPtr < rb.writePtr then readList rb.buffer rb.readPtr (ringbufferUsed rb)
      else readList rb.buffer rb.readPtr (sizeSub rb.size rb.readPtr) ++
        (if rb.writePtr ≠ 0 then readList rb.buffer 0 rb.writePtr else [])
    { rb with
      buffer := writeList rb.buffer 0 data
      writePtr := sizeSub rb.size rb.freeSize
      readPtr := 0 }

/-- `ringbuffer_realloc`; `alloc` says whether there is memory. No block is larger than
`SSIZE_MAX`. -/
def ringbufferRealloc (alloc : Bool) (rb : RingBuffer) (targetSize : Nat) : Option RingBuffer :=
  if alloc ∧ targetSize ≤ SSIZE_MAX then
    some { ringbufferMove rb targetSize with
      freeSize := sizeAdd rb.freeSize (sizeSub targetSize rb.size)
      size := targetSize }
  else none

/-- The two `memcpy` calls of `ringbuffer_write`, and the new write head. -/
def ringbufferPut (rb : RingBuffer) (data : List UInt8) : RingBuffer :=
  let toWrite := if sizeSub rb.size rb.writePtr < data.length then sizeSub rb.size rb.writePtr
    else data.length
  { rb with
    buffer := writeList (writeList rb.buffer rb.writePtr (data.take toWrite)) 0 (data.drop toWrite)
    writePtr := sizeAdd rb.writePtr data.length % rb.size
    freeSize := sizeSub rb.freeSize data.length }

/-- `ringbuffer_write`. -/
def ringbufferWrite (alloc : Bool) (rb : RingBuffer) (data : List UInt8) : Bool × RingBuffer :=
  if rb.freeSize ≤ data.length then
    -- the ring and the bytes are both in memory, and so this sum does not wrap
    match ringbufferRealloc alloc rb (rb.size + data.length) with
    | none => (false, rb)
    | some rb => (true, ringbufferPut rb data)
  else (true, ringbufferPut rb data)

/-- The second half of `ringbuffer_ensure_linear_write`, with enough free bytes. -/
def ringbufferLinearize (rb : RingBuffer) (sz : Nat) : RingBuffer :=
  let rb := if rb.writePtr = rb.readPtr then { rb with writePtr := 0, readPtr := 0 } else rb
  if sizeAdd rb.writePtr sz < rb.size then rb
  else
    { rb with
      buffer := writeList rb.buffer 0
        (readList rb.buffer rb.readPtr (sizeSub rb.writePtr rb.readPtr))
      readPtr := 0
      writePtr := sizeSub rb.size rb.freeSize }

/-- The size that `ringbuffer_ensure_linear_write` asks for. -/
def ringbufferTargetSize (rb : RingBuffer) (sz : Nat) : Nat :=
  sizeAdd (sizeSub (sizeAdd rb.size sz) rb.freeSize) 32

/-- `ringbuffer_ensure_linear_write`: the returned pointer is the write head, `none` for `NULL`. -/
def ringbufferEnsureLinearWrite (alloc : Bool) (rb : RingBuffer) (sz : Nat) : Option RingBuffer :=
  if rb.freeSize < sz then
    (ringbufferRealloc alloc rb (ringbufferTargetSize rb sz)).map (ringbufferLinearize · sz)
  else some (ringbufferLinearize rb sz)

/-- `ringbuffer_commit_written_bytes`. -/
def ringbufferCommitWrittenBytes (rb : RingBuffer) (sz : Nat) : Bool × RingBuffer :=
  if sz < 1 then (true, rb)
  else if sizeAdd rb.writePtr sz > rb.size then (false, rb)
  else
    (true, { rb with
      writePtr := sizeAdd rb.writePtr sz % rb.size
      freeSize := sizeSub rb.freeSize sz })

/-- Room for `sz` bytes is ensured, `data` is written to the returned pointer and committed. -/
def ringbufferLinearWrite (alloc : Bool) (rb : RingBuffer) (sz : Nat) (data : List UInt8) :
    Bool × RingBuffer :=
  match ringbufferEnsureLinearWrite alloc rb sz with
  | none => (false, rb)
  | some rb =>
    ringbufferCommitWrittenBytes { rb with buffer := writeList rb.buffer rb.writePtr data }
      data.length

/-- `ringbuffer_peek`: the chunks it fills. -/
def ringbufferPeek (rb : RingBuffer) (sz : Nat) : List (List UInt8) :=
  if sz < 1 then []
  else
    let remaining := if sizeSub rb.size rb.freeSize < sz then sizeSub rb.size rb.freeSize else sz
    let toRead := if sizeAdd rb.readPtr remaining > rb.size then sizeSub rb.size rb.readPtr
      else remaining
    (if toRead ≠ 0 then [readList rb.buffer rb.readPtr toRead] else []) ++
      (if sizeSub remaining toRead ≠ 0 then [readList rb.buffer 0 (sizeSub remaining toRead)]
        else [])

/-- `ringbuffer_commit_read_bytes`; a failed allocation leaves the buffer at its size. -/
def ringbufferCommitReadBytes (alloc : Bool) (rb : RingBuffer) (sz : Nat) : RingBuffer :=
  if sz < 1 then rb
  else
    let rb := { rb with
      readPtr := sizeAdd rb.readPtr sz % rb.size
      freeSize := sizeAdd rb.freeSize sz }
    if rb.size ≠ rb.initialSize ∧ ringbufferUsed rb < rb.initialSize / 2 then
      (ringbufferRealloc alloc rb rb.initialSize).getD rb
    else rb

/-! ### The queue in a ring -/

/-- The place `a` of a ring of `n` cells, for less than two rounds. -/
def wrap (n a : Nat) : Nat := if a < n then a else a - n

lemma mod_eq_wrap {n a : Nat} (h : a < 2 * n) : a % n = wrap n a := by
  rw [wrap]
  split
  · exact Nat.mod_eq_of_lt ‹_›
  · rw [Nat.mod_eq_sub_mod (by omega), Nat.mod_eq_of_lt (by omega)]

/-- The ring buffer holds the queue `q`. -/
structure RingBuffer.Holds (rb : RingBuffer) (q : List UInt8) : Prop where
  size_eq : q.length + rb.freeSize = rb.size
  size_le : rb.size ≤ SSIZE_MAX
  read_lt : rb.readPtr < rb.size ∨ rb.size = 0 ∧ rb.readPtr = 0
  write_eq : rb.writePtr = wrap rb.size (rb.readPtr + q.length)
  cells : ∀ i (hi : i < q.length), rb.buffer (wrap rb.size (rb.readPtr + i)) = q[i]

lemma holds_init {initialSize : Nat} (hinit : initialSize ≤ SSIZE_MAX) :
    (ringbufferInit initialSize).Holds [] where
  size_eq := Nat.zero_add _
  size_le := hinit
  read_lt := by
    rcases Nat.eq_zero_or_pos initialSize with h | h
    · exact .inr ⟨h, rfl⟩
    · exact .inl h
  write_eq := by simp [ringbufferInit, wrap]
  cells i hi := absurd hi (Nat.not_lt_zero i)

variable {rb rb' : RingBuffer} {q : List UInt8}

lemma RingBuffer.Holds.size_lt (h : rb.Holds q) : rb.size < 2 ^ 63 := by
  have hle := h.size_le
  rw [SSIZE_MAX] at hle
  omega

lemma RingBuffer.Holds.used (h : rb.Holds q) : ringbufferUsed rb = q.length := by
  have hsize := h.size_eq
  have hlt := h.size_lt
  rw [ringbufferUsed, sizeSub_of_le (by omega) (by omega)]
  omega

lemma RingBuffer.Holds.sizeSub_freeSize (h : rb.Holds q) :
    sizeSub rb.size rb.freeSize = q.length := h.used

/-- The heads of an empty ring meet. -/
lemma RingBuffer.Holds.heads_eq (h : rb.Holds []) : rb.writePtr = rb.readPtr := by
  have hread := h.read_lt
  have hwrite := h.write_eq
  rw [wrap, List.length_nil] at hwrite
  split at hwrite <;> omega

/-- The heads of a ring that is neither empty nor full are apart. -/
lemma RingBuffer.Holds.heads_ne (h : rb.Holds q) (hfull : rb.freeSize ≠ 0) (hq : q ≠ []) :
    rb.writePtr ≠ rb.readPtr := by
  have hpos := List.length_pos_iff.mpr hq
  have hsize := h.size_eq
  have hread := h.read_lt
  rw [h.write_eq, wrap]
  split <;> omega

/-- The data that is moved to a new allocation is the queue. -/
lemma RingBuffer.Holds.moved_data (h : rb.Holds q) (hne : rb.writePtr ≠ rb.readPtr) :
    (if rb.readPtr < rb.writePtr then readList rb.buffer rb.readPtr (ringbufferUsed rb)
      else readList rb.buffer rb.readPtr (sizeSub rb.size rb.readPtr) ++
        (if rb.writePtr ≠ 0 then readList rb.buffer 0 rb.writePtr else [])) = q := by
  have hused := h.used
  have hlt := h.size_lt
  obtain ⟨hsize, -, hread, hwrite, hcells⟩ := h
  rw [hused, sizeSub_of_le (by omega) (by omega)]
  have hsecond : (if rb.writePtr ≠ 0 then readList rb.buffer 0 rb.writePtr else []) =
      readList rb.buffer 0 rb.writePtr := by
    split
    · rfl
    · rename_i h0
      rw [not_ne_iff.mp h0]
      rfl
  rw [hsecond]
  rw [wrap] at hwrite
  split
  · -- in one piece
    refine List.ext_getElem (length_readList _ _ _) fun i hi hi' => ?_
    rw [getElem_readList, ← hcells i hi', wrap, if_pos (by split at hwrite <;> omega)]
  · -- around the end
    have hlength : rb.size - rb.readPtr + rb.writePtr = q.length := by split at hwrite <;> omega
    refine List.ext_getElem (by rw [List.length_append, length_readList, length_readList, hlength])
      fun i hi hi' => ?_
    rw [← hcells i hi', wrap, List.getElem_append]
    simp only [length_readList, getElem_readList]
    split
    · rw [if_pos (by omega)]
    · rw [if_neg (by omega)]
      congr 1
      omega

/-- A queue that starts at the first cell. -/
lemma holds_of_front (hsize : q.length + rb.freeSize = rb.size) (hle : rb.size ≤ SSIZE_MAX)
    (hfull : rb.freeSize ≠ 0) (hread : rb.readPtr = 0) (hwrite : rb.writePtr = q.length)
    (hcells : ∀ i (hi : i < q.length), rb.buffer i = q[i]) : rb.Holds q where
  size_eq := hsize
  size_le := hle
  read_lt := .inl (by omega)
  write_eq := by rw [hread, hwrite, wrap, Nat.zero_add, if_pos (by omega)]
  cells i hi := by
    rw [hread, wrap, Nat.zero_add, if_pos (by omega)]
    exact hcells i hi

/-- A list written to the front. -/
lemma writeList_zero (m : Nat → UInt8) {i : Nat} (hi : i < q.length) : writeList m 0 q i = q[i] := by
  have hcell := writeList_add (m := m) (a := 0) hi
  rwa [Nat.zero_add] at hcell

/-- Moving the data keeps the queue, in a ring of the new size. -/
lemma RingBuffer.Holds.realloc (h : rb.Holds q) (hfull : rb.freeSize ≠ 0 ∨ q = [])
    {targetSize : Nat} (htarget : q.length < targetSize) {alloc : Bool}
    (hrealloc : ringbufferRealloc alloc rb targetSize = some rb') :
    rb'.Holds q ∧ rb'.size = targetSize ∧ rb'.freeSize = targetSize - q.length := by
  have hsize := h.size_eq
  have hlt := h.size_lt
  rw [ringbufferRealloc] at hrealloc
  split at hrealloc
  · rename_i hmax
    obtain rfl := Option.some.inj hrealloc
    have hmax := hmax.2
    have hfree : sizeAdd rb.freeSize (sizeSub targetSize rb.size) = targetSize - q.length := by
      rw [SSIZE_MAX] at hmax
      unfold sizeAdd sizeSub
      omega
    refine ⟨?_, rfl, hfree⟩
    rw [hfree]
    by_cases heads : rb.writePtr = rb.readPtr
    · -- nothing is used
      have hq : q = [] := by
        rcases hfull with hfull | hq
        · by_contra hq
          exact h.heads_ne hfull hq heads
        · exact hq
      subst hq
      rw [ringbufferMove, if_pos heads]
      exact holds_of_front (by dsimp only; omega) hmax (by dsimp only; omega) rfl rfl
        fun i hi => absurd hi (Nat.not_lt_zero i)
    · have hfull : rb.freeSize ≠ 0 := by
        rcases hfull with hfull | rfl
        · exact hfull
        · exact absurd h.heads_eq heads
      rw [ringbufferMove, if_neg heads]
      split
      · -- the heads stay
        rename_i hlinear
        have hread := h.read_lt
        have hwrite := h.write_eq
        have hend : rb.writePtr = rb.readPtr + q.length := by
          rw [wrap] at hwrite
          split at hwrite <;> omega
        refine ⟨by dsimp only; omega, hmax, .inl (by dsimp only; omega), ?_, fun i hi => ?_⟩
        · dsimp only
          rw [wrap, if_pos (by omega), hend]
        · have hcell := h.cells i hi
          dsimp only
          rw [wrap, if_pos (by rw [wrap] at hwrite; split at hwrite <;> omega)] at hcell
          rw [wrap, if_pos (by omega)]
          exact hcell
      · -- a new allocation
        rw [h.moved_data heads, h.sizeSub_freeSize]
        exact holds_of_front (by dsimp only; omega) hmax (by dsimp only; omega) rfl rfl
          fun i hi => writeList_zero rb.buffer hi
  · cases hrealloc

lemma ringbufferRealloc_initialSize {alloc : Bool} {targetSize : Nat}
    (hrealloc : ringbufferRealloc alloc rb targetSize = some rb') :
    rb'.initialSize = rb.initialSize := by
  rw [ringbufferRealloc] at hrealloc
  split at hrealloc
  · obtain rfl := Option.some.inj hrealloc
    dsimp only
    rw [ringbufferMove]
    split_ifs <;> rfl
  · cases hrealloc

lemma ringbufferPut_initialSize (rb : RingBuffer) (data : List UInt8) :
    (ringbufferPut rb data).initialSize = rb.initialSize := by
  cases rb
  rfl

/-- The bytes written around the end of the ring. -/
lemma writeList_wrap {m : Nat → UInt8} {n w : Nat} {data : List UInt8} (hw : w < n)
    (hdata : data.length ≤ n) {k : Nat} (hk : k = min data.length (n - w)) :
    (∀ j (hj : j < data.length),
      writeList (writeList m w (data.take k)) 0 (data.drop k) (wrap n (w + j)) = data[j]) ∧
    ∀ p < n, (∀ j < data.length, p ≠ wrap n (w + j)) →
      writeList (writeList m w (data.take k)) 0 (data.drop k) p = m p := by
  have htake : (data.take k).length = k := by
    rw [List.length_take]
    omega
  have hdrop : (data.drop k).length = data.length - k := List.length_drop
  constructor
  · intro j hj
    by_cases hlt : w + j < n
    · rw [wrap, if_pos hlt, writeList_of_ge (by omega), writeList_add (by omega),
        List.getElem_take]
    · have hplace : w + j - n = 0 + (j - k) := by omega
      rw [wrap, if_neg hlt, hplace, writeList_add (by omega), List.getElem_drop]
      congr 1
      omega
  · intro p hp hfree
    have hlow : data.length - k ≤ p := by
      by_contra hlt
      refine hfree (p + k) (by omega) ?_
      rw [wrap, if_neg (by omega)]
      omega
    rw [writeList_of_ge (by omega)]
    by_cases hpw : p < w
    · rw [writeList_of_lt hpw]
    · refine writeList_of_ge ?_
      by_contra hlt
      refine hfree (p - w) (by omega) ?_
      rw [wrap, if_pos (by omega)]
      omega

/-- Bytes put at the write head join the queue. -/
lemma RingBuffer.Holds.put (h : rb.Holds q) {data : List UInt8} (hroom : data.length ≤ rb.freeSize)
    (hrb' : rb' = { rb with
      buffer := rb'.buffer
      writePtr := wrap rb.size (rb.writePtr + data.length)
      freeSize := rb.freeSize - data.length })
    (hnew : ∀ j (hj : j < data.length), rb'.buffer (wrap rb.size (rb.writePtr + j)) = data[j])
    (hold : ∀ p < rb.size, (∀ j < data.length, p ≠ wrap rb.size (rb.writePtr + j)) →
      rb'.buffer p = rb.buffer p) : rb'.Holds (q ++ data) := by
  obtain ⟨hsize, hle, hread, hwrite, hcells⟩ := h
  rw [hrb']
  refine ⟨?_, hle, hread, ?_, fun i hi => ?_⟩
  · dsimp only
    rw [List.length_append]
    omega
  · dsimp only
    rw [List.length_append, hwrite]
    simp only [wrap]
    split_ifs <;> omega
  · dsimp only
    rw [List.length_append] at hi
    by_cases hlt : i < q.length
    · rw [List.getElem_append_left hlt, hold, hcells i hlt]
      · rw [wrap]
        split <;> omega
      · intro j hj
        rw [hwrite]
        simp only [wrap]
        split_ifs <;> omega
    · rw [List.getElem_append_right (by omega), ← hnew (i - q.length) (by omega)]
      congr 1
      rw [hwrite]
      simp only [wrap]
      split_ifs <;> omega

lemma RingBuffer.Holds.write_lt (h : rb.Holds q) (hfull : rb.freeSize ≠ 0) :
    rb.writePtr < rb.size := by
  have hsize := h.size_eq
  have hread := h.read_lt
  rw [h.write_eq, wrap]
  split <;> omega

/-- `ringbuffer_write` without a reallocation. -/
lemma RingBuffer.Holds.ringbufferPut (h : rb.Holds q) (hfull : rb.freeSize ≠ 0)
    {data : List UInt8} (hroom : data.length ≤ rb.freeSize) :
    (ringbufferPut rb data).Holds (q ++ data) := by
  have hsize := h.size_eq
  have hlt := h.size_lt
  have hw := h.write_lt hfull
  have hsub : sizeSub rb.size rb.writePtr = rb.size - rb.writePtr :=
    sizeSub_of_le (by omega) (by omega)
  have hadd : sizeAdd rb.writePtr data.length % rb.size =
      wrap rb.size (rb.writePtr + data.length) := by
    rw [sizeAdd_of_lt (by omega), mod_eq_wrap (by omega)]
  have hfree : sizeSub rb.freeSize data.length = rb.freeSize - data.length :=
    sizeSub_of_le hroom (by omega)
  have hk : (if rb.size - rb.writePtr < data.length then rb.size - rb.writePtr else data.length) =
      min data.length (rb.size - rb.writePtr) := by
    split <;> omega
  obtain ⟨hnew, hold⟩ := writeList_wrap (m := rb.buffer) hw (by omega) hk
  rw [FreeRdp.ringbufferPut, hsub, hadd, hfree]
  exact h.put hroom rfl hnew hold

/-- `ringbuffer_write` on a ring that is not full, or has no cells. -/
lemma RingBuffer.Holds.ringbufferWrite (h : rb.Holds q) (alloc : Bool) {data : List UInt8}
    (hfull : rb.freeSize ≠ 0 ∨ q = [] ∧ data ≠ []) {ok : Bool}
    (hwrite : ringbufferWrite alloc rb data = (ok, rb')) :
    rb'.Holds (if ok then q ++ data else q) := by
  have hsize := h.size_eq
  have hdata : rb.freeSize ≠ 0 ∨ data.length ≠ 0 := by
    rcases hfull with hfull | ⟨-, hdata⟩
    · exact .inl hfull
    · exact .inr fun hzero => hdata (List.length_eq_zero_iff.mp hzero)
  rw [FreeRdp.ringbufferWrite] at hwrite
  split at hwrite
  · split at hwrite
    · obtain ⟨rfl, rfl⟩ := Prod.mk.inj hwrite
      exact h
    · rename_i rb₁ hsome
      obtain ⟨rfl, rfl⟩ := Prod.mk.inj hwrite
      obtain ⟨hholds, hsize₁, hfree₁⟩ :=
        h.realloc (hfull.imp_right And.left) (by omega) hsome
      exact hholds.ringbufferPut (by omega) (by omega)
  · obtain ⟨rfl, rfl⟩ := Prod.mk.inj hwrite
    exact h.ringbufferPut (by omega) (by omega)

/-- Both heads of an empty ring go to the front. -/
lemma RingBuffer.Holds.reset_heads (h : rb.Holds q) (hfull : rb.freeSize ≠ 0) :
    (if rb.writePtr = rb.readPtr then { rb with writePtr := 0, readPtr := 0 } else rb).Holds q := by
  split
  · rename_i heads
    have hq : q = [] := by
      by_contra hq
      exact h.heads_ne hfull hq heads
    subst hq
    exact holds_of_front h.size_eq h.size_le hfull rfl rfl
      fun i hi => absurd hi (Nat.not_lt_zero i)
  · exact h

/-- `ringbuffer_ensure_linear_write` makes room behind the write head. -/
lemma RingBuffer.Holds.ringbufferLinearize (h : rb.Holds q) (hfull : rb.freeSize ≠ 0) (sz : Nat)
    (hroom : sz ≤ rb.freeSize) :
    (ringbufferLinearize rb sz).Holds q ∧
      (ringbufferLinearize rb sz).writePtr + sz ≤ (ringbufferLinearize rb sz).size ∧
      (ringbufferLinearize rb sz).freeSize = rb.freeSize := by
  obtain ⟨rb₁, hrb₁⟩ : ∃ rb₁, (if rb.writePtr = rb.readPtr then
    { rb with writePtr := 0, readPtr := 0 } else rb) = rb₁ := ⟨_, rfl⟩
  have h₁ : rb₁.Holds q := hrb₁ ▸ h.reset_heads hfull
  have hfree₁ : rb₁.freeSize = rb.freeSize := by
    rw [← hrb₁]
    split <;> rfl
  have hsize := h₁.size_eq
  have hlt := h₁.size_lt
  have hread := h₁.read_lt
  have hwrite := h₁.write_eq
  have hw := h₁.write_lt (by omega)
  simp only [FreeRdp.ringbufferLinearize, hrb₁]
  rw [sizeAdd_of_lt (by omega)]
  split
  · exact ⟨h₁, by omega, hfree₁⟩
  · -- the data is in one piece
    rw [wrap] at hwrite
    have hend : rb₁.writePtr = rb₁.readPtr + q.length := by split at hwrite <;> omega
    have hdata : readList rb₁.buffer rb₁.readPtr (sizeSub rb₁.writePtr rb₁.readPtr) = q := by
      rw [sizeSub_of_le (by omega) (by omega)]
      refine List.ext_getElem (by rw [length_readList]; omega) fun i hi hi' => ?_
      rw [getElem_readList, ← h₁.cells i hi', wrap, if_pos (by split at hwrite <;> omega)]
    rw [hdata, h₁.sizeSub_freeSize]
    exact ⟨holds_of_front hsize h₁.size_le (by dsimp only; omega) rfl rfl
      fun i hi => writeList_zero rb₁.buffer hi, by dsimp only; omega, hfree₁⟩

/-- The size asked for is the one that is meant, if it is a `size_t`. -/
lemma RingBuffer.Holds.targetSize (h : rb.Holds q) {sz : Nat}
    (hwrap : q.length + sz + 32 < 2 ^ 64) : ringbufferTargetSize rb sz = q.length + sz + 32 := by
  have hsize := h.size_eq
  have hlt := h.size_lt
  unfold ringbufferTargetSize sizeAdd sizeSub
  omega

/-- `ringbuffer_ensure_linear_write` on a ring that is not full, or has no cells and gets some. -/
lemma RingBuffer.Holds.ensureLinearWrite (h : rb.Holds q) {alloc : Bool} {sz : Nat}
    (hfull : rb.freeSize ≠ 0 ∨ q = [] ∧ sz ≠ 0)
    (hwrap : rb.freeSize < sz → q.length + sz + 32 < 2 ^ 64)
    (hensure : ringbufferEnsureLinearWrite alloc rb sz = some rb') :
    rb'.Holds q ∧ rb'.writePtr + sz ≤ rb'.size ∧ sz ≤ rb'.freeSize := by
  rw [ringbufferEnsureLinearWrite] at hensure
  split at hensure
  · rename_i hless
    obtain ⟨rb₁, hrealloc, rfl⟩ := Option.map_eq_some_iff.mp hensure
    rw [h.targetSize (hwrap hless)] at hrealloc
    obtain ⟨h₁, hsize₁, hfree₁⟩ := h.realloc (hfull.imp_right And.left) (by omega) hrealloc
    obtain ⟨h₂, hlinear, hfree⟩ := h₁.ringbufferLinearize (by omega) sz (by omega)
    exact ⟨h₂, hlinear, by omega⟩
  · obtain rfl := Option.some.inj hensure
    obtain ⟨h₂, hlinear, hfree⟩ := h.ringbufferLinearize (by omega) sz (by omega)
    exact ⟨h₂, hlinear, by omega⟩

/-- `ringbuffer_commit_written_bytes` of bytes that were written behind the write head. -/
lemma RingBuffer.Holds.commitWrittenBytes (h : rb.Holds q) {data : List UInt8}
    (hlinear : rb.writePtr + data.length ≤ rb.size) (hroom : data.length ≤ rb.freeSize) {ok : Bool}
    (hcommit : ringbufferCommitWrittenBytes
      { rb with buffer := writeList rb.buffer rb.writePtr data } data.length = (ok, rb')) :
    ok = true ∧ rb'.Holds (q ++ data) := by
  have hsize := h.size_eq
  have hlt := h.size_lt
  rw [ringbufferCommitWrittenBytes] at hcommit
  split at hcommit
  · obtain ⟨rfl, rfl⟩ := Prod.mk.inj hcommit
    obtain rfl : data = [] := List.eq_nil_of_length_eq_zero (by omega)
    rw [List.append_nil]
    exact ⟨rfl, h⟩
  · dsimp only at hcommit
    rw [sizeAdd_of_lt (by omega), if_neg (by omega), sizeSub_of_le hroom (by omega)] at hcommit
    obtain ⟨rfl, rfl⟩ := Prod.mk.inj hcommit
    refine ⟨rfl, h.put hroom ?_ ?_ ?_⟩
    · dsimp only
      rw [mod_eq_wrap (by omega)]
    · intro j hj
      dsimp only
      rw [wrap, if_pos (by omega), writeList_add hj]
    · intro p hp hfree
      dsimp only
      by_cases hpw : p < rb.writePtr
      · exact writeList_of_lt hpw
      · refine writeList_of_ge ?_
        by_contra hlt
        refine hfree (p - rb.writePtr) (by omega) ?_
        rw [wrap, if_pos (by omega)]
        omega

/-- Ensuring room, writing there and committing what was written. -/
lemma RingBuffer.Holds.ringbufferLinearWrite (h : rb.Holds q) {alloc : Bool} {sz : Nat}
    {data : List UInt8} (hdata : data.length ≤ sz) (hfull : rb.freeSize ≠ 0 ∨ q = [] ∧ sz ≠ 0)
    (hwrap : rb.freeSize < sz → q.length + sz + 32 < 2 ^ 64) {ok : Bool}
    (hwrite : ringbufferLinearWrite alloc rb sz data = (ok, rb')) :
    rb'.Holds (if ok then q ++ data else q) := by
  rw [FreeRdp.ringbufferLinearWrite] at hwrite
  split at hwrite
  · obtain ⟨rfl, rfl⟩ := Prod.mk.inj hwrite
    exact h
  · rename_i rb₁ hsome
    obtain ⟨h₁, hlinear, hroom⟩ := h.ensureLinearWrite hfull hwrap hsome
    obtain ⟨rfl, hholds⟩ := h₁.commitWrittenBytes (by omega) (by omega) hwrite
    exact hholds

/-! ### Full rings -/

/-- An operation that fails to get memory leaves the ring alone. -/
lemma ringbufferWrite_of_realloc {alloc : Bool} {data : List UInt8} (hfull : rb.freeSize = 0)
    (hnone : ringbufferRealloc alloc rb (rb.size + data.length) = none) :
    ringbufferWrite alloc rb data = (false, rb) := by
  rw [ringbufferWrite, if_pos (hfull ▸ Nat.zero_le _), hnone]

lemma ringbufferLinearWrite_of_realloc {alloc : Bool} {sz : Nat} {data : List UInt8}
    (hless : rb.freeSize < sz)
    (hnone : ringbufferRealloc alloc rb (ringbufferTargetSize rb sz) = none) :
    ringbufferLinearWrite alloc rb sz data = (false, rb) := by
  rw [ringbufferLinearWrite, ringbufferEnsureLinearWrite, if_pos hless, hnone]
  rfl

/-- The heads of a full ring meet. -/
lemma RingBuffer.Holds.heads_full (h : rb.Holds q) (hfull : rb.freeSize = 0) :
    rb.writePtr = rb.readPtr := by
  have hsize := h.size_eq
  have hread := h.read_lt
  have hwrite := h.write_eq
  rw [wrap] at hwrite
  split at hwrite <;> omega

/-- No bytes for a full ring whose heads are at the front. -/
lemma RingBuffer.Holds.write_nil (h : rb.Holds q) (hfull : rb.freeSize = 0)
    (hfront : rb.readPtr = 0) (alloc : Bool) : (FreeRdp.ringbufferWrite alloc rb []).2.Holds q := by
  have heads := h.heads_full hfull
  have hlt := h.size_lt
  have hmove : ringbufferMove rb rb.size = rb := by
    rw [ringbufferMove, if_pos heads]
    cases rb
    simp_all
  rw [FreeRdp.ringbufferWrite, if_pos (hfull ▸ Nat.zero_le _), ringbufferRealloc, List.length_nil,
    Nat.add_zero, hmove]
  have hsame : ({ rb with
      freeSize := sizeAdd rb.freeSize (sizeSub rb.size rb.size), size := rb.size } : RingBuffer) =
      rb := by
    rw [sizeSub_of_le le_rfl (by omega), sizeAdd_of_lt (by omega), Nat.sub_self, Nat.add_zero]
  rw [hsame]
  split
  · exact h
  · rename_i hsome
    split at hsome
    · obtain rfl := Option.some.inj hsome
      have hput : FreeRdp.ringbufferPut rb [] = rb := by
        rw [FreeRdp.ringbufferPut, List.length_nil, sizeAdd_of_lt (by omega),
          sizeSub_of_le (Nat.zero_le _) (by omega)]
        cases rb
        simp_all
      rw [hput]
      exact h
    · cases hsome

lemma RingBuffer.Holds.linearWrite_nil (h : rb.Holds q) (hfull : rb.freeSize = 0)
    (hfront : rb.readPtr = 0) (alloc : Bool) :
    (FreeRdp.ringbufferLinearWrite alloc rb 0 []).2.Holds q := by
  have heads := h.heads_full hfull
  have hlt := h.size_lt
  have hsize := h.size_eq
  have hlinear : FreeRdp.ringbufferLinearize rb 0 = rb := by
    rw [FreeRdp.ringbufferLinearize, if_pos heads]
    dsimp only
    rw [sizeAdd_of_lt (by omega), sizeSub_of_le le_rfl (by omega), h.sizeSub_freeSize]
    cases rb
    simp_all [readList]
  rw [FreeRdp.ringbufferLinearWrite, ringbufferEnsureLinearWrite,
    if_neg (by omega), hlinear]
  exact h

/-! ### Reading -/

/-- `ringbuffer_peek` shows the front of the queue, in at most two chunks. -/
lemma RingBuffer.Holds.peek (h : rb.Holds q) (sz : Nat) :
    (ringbufferPeek rb sz).length ≤ 2 ∧ (ringbufferPeek rb sz).flatten = q.take sz := by
  have hused := h.sizeSub_freeSize
  have hlt := h.size_lt
  obtain ⟨hsize, -, hread, hwrite, hcells⟩ := h
  rw [ringbufferPeek]
  split
  · obtain rfl : sz = 0 := by omega
    exact ⟨Nat.zero_le 2, rfl⟩
  · obtain ⟨n, hn⟩ : ∃ n, (if q.length < sz then q.length else sz) = n := ⟨_, rfl⟩
    have hnlen : n = min sz q.length := by split at hn <;> omega
    have hadd : sizeAdd rb.readPtr n = rb.readPtr + n := sizeAdd_of_lt (by omega)
    have hsub : sizeSub rb.size rb.readPtr = rb.size - rb.readPtr :=
      sizeSub_of_le (by omega) (by omega)
    obtain ⟨k, hk⟩ : ∃ k, (if rb.readPtr + n > rb.size then rb.size - rb.readPtr else n) = k :=
      ⟨_, rfl⟩
    have hle : k ≤ n := by split at hk <;> omega
    have hrest : sizeSub n k = n - k := sizeSub_of_le hle (by omega)
    have hchunk : ∀ a m, (if m ≠ 0 then [readList rb.buffer a m] else []).flatten =
        readList rb.buffer a m ∧ (if m ≠ 0 then [readList rb.buffer a m] else []).length ≤ 1 := by
      intro a m
      split
      · exact ⟨List.append_nil _, le_rfl⟩
      · rename_i h0
        rw [not_ne_iff.mp h0]
        exact ⟨rfl, Nat.zero_le 1⟩
    simp only [hused, hn, hadd, hsub, hk, hrest]
    constructor
    · have h₁ := (hchunk rb.readPtr k).2
      have h₂ := (hchunk 0 (n - k)).2
      rw [List.length_append]
      omega
    · rw [List.flatten_append, (hchunk _ _).1, (hchunk _ _).1]
      refine List.ext_getElem ?_ ?_
      · rw [List.length_append, length_readList, length_readList, List.length_take]
        omega
      · intro i hi hi'
        rw [List.length_take] at hi'
        rw [List.getElem_take, ← hcells i (by omega), wrap, List.getElem_append]
        simp only [length_readList, getElem_readList]
        split
        · rw [if_pos (by split at hk <;> omega)]
        · rw [if_neg (by split at hk <;> omega)]
          congr 1
          split at hk <;> omega

/-- `ringbuffer_commit_read_bytes` takes the bytes off the queue, also when the ring goes back to
its first size. -/
lemma RingBuffer.Holds.commitReadBytes (h : rb.Holds q) (alloc : Bool) {sz : Nat}
    (hsz : sz ≤ q.length) : (ringbufferCommitReadBytes alloc rb sz).Holds (q.drop sz) := by
  have hlt := h.size_lt
  have hheld := h
  obtain ⟨hsize, hmax, hread, hwrite, hcells⟩ := h
  rw [ringbufferCommitReadBytes]
  split
  · obtain rfl : sz = 0 := by omega
    exact hheld
  · obtain ⟨rb₁, hrb₁⟩ : ∃ rb₁ : RingBuffer, rb₁ = { rb with
      readPtr := sizeAdd rb.readPtr sz % rb.size, freeSize := sizeAdd rb.freeSize sz } := ⟨_, rfl⟩
    have hmod : sizeAdd rb.readPtr sz % rb.size = wrap rb.size (rb.readPtr + sz) := by
      rw [sizeAdd_of_lt (by omega), mod_eq_wrap (by omega)]
    have hfree : sizeAdd rb.freeSize sz = rb.freeSize + sz := sizeAdd_of_lt (by omega)
    have h₁ : rb₁.Holds (q.drop sz) := by
      rw [hrb₁, hmod, hfree]
      refine ⟨?_, hmax, .inl ?_, ?_, ?_⟩
      · dsimp only
        rw [List.length_drop]
        omega
      · dsimp only
        rw [wrap]
        split <;> omega
      · dsimp only
        rw [hwrite, List.length_drop]
        simp only [wrap]
        split_ifs <;> omega
      · intro i hi
        dsimp only
        rw [List.length_drop] at hi
        rw [List.getElem_drop, ← hcells (sz + i) (by omega)]
        congr 1
        simp only [wrap]
        split_ifs <;> omega
    simp only [← hrb₁]
    split
    · rename_i hshrink
      have hused : (q.drop sz).length < rb.initialSize := by
        rw [← h₁.used]
        omega
      cases hrealloc : ringbufferRealloc alloc rb₁ rb.initialSize with
      | none => exact h₁
      | some rb₂ =>
        refine (h₁.realloc (.inl ?_) hused hrealloc).1
        rw [hrb₁]
        dsimp only
        omega
    · exact h₁

/-! ### Runs -/

/-- A use of a ring buffer. -/
inductive RingOp where
  | write (alloc : Bool) (data : List UInt8)
  | linearWrite (alloc : Bool) (sz : Nat) (data : List UInt8)
  | peek (sz : Nat)
  | commitRead (alloc : Bool) (sz : Nat)
  deriving DecidableEq, Repr

namespace RingOp

/-- The operation on the ring, and whether it succeeded. -/
def run (op : RingOp) (rb : RingBuffer) : Bool × RingBuffer :=
  match op with
  | write alloc data => ringbufferWrite alloc rb data
  | linearWrite alloc sz data => ringbufferLinearWrite alloc rb sz data
  | peek _ => (true, rb)
  | commitRead alloc sz => (true, ringbufferCommitReadBytes alloc rb sz)

/-- The operation on the queue of committed bytes not yet read. -/
def queue (op : RingOp) (ok : Bool) (q : List UInt8) : List UInt8 :=
  match op with
  | write _ data => if ok then q ++ data else q
  | linearWrite _ _ data => if ok then q ++ data else q
  | peek _ => q
  | commitRead _ sz => q.drop sz

/-- The operation is used as the functions ask for: no more bytes are committed than were ensured,
and no more are taken than are there. -/
def Respects (op : RingOp) (rb : RingBuffer) : Prop :=
  match op with
  | write _ _ => True
  | linearWrite _ sz data => data.length ≤ sz
  | peek _ => True
  | commitRead _ sz => sz ≤ ringbufferUsed rb

/-- The ring is not full, as its heads would then meet as they do in an empty one. If it is, it has
no cells and gets some, or there is no memory for more, or nothing is asked for and the heads are at
the front. -/
def AvoidsFull (op : RingOp) (rb : RingBuffer) : Prop :=
  match op with
  | write alloc data =>
    rb.freeSize ≠ 0 ∨ rb.size = 0 ∧ data ≠ [] ∨
      rb.size ≠ 0 ∧ ((ringbufferRealloc alloc rb (rb.size + data.length)).isNone = true ∨
        data = [] ∧ rb.readPtr = 0)
  | linearWrite alloc sz _ =>
    rb.freeSize ≠ 0 ∨ rb.size = 0 ∧ sz ≠ 0 ∨
      sz ≠ 0 ∧ (ringbufferRealloc alloc rb (ringbufferTargetSize rb sz)).isNone = true ∨
      sz = 0 ∧ rb.readPtr = 0
  | peek _ => True
  | commitRead _ _ => True

/-- The size of more room for a linear write does not wrap, or there is no memory for it. -/
def AvoidsWrap (op : RingOp) (rb : RingBuffer) : Prop :=
  match op with
  | write _ _ => True
  | linearWrite alloc sz _ =>
    rb.freeSize < sz → ringbufferUsed rb + sz + 32 < 2 ^ 64 ∨
      (ringbufferRealloc alloc rb (ringbufferTargetSize rb sz)).isNone = true
  | peek _ => True
  | commitRead _ _ => True

instance (op : RingOp) (rb : RingBuffer) : Decidable (op.Respects rb) := by
  cases op <;> unfold Respects <;> infer_instance

instance (op : RingOp) (rb : RingBuffer) : Decidable (op.AvoidsFull rb) := by
  cases op <;> unfold AvoidsFull <;> infer_instance

instance (op : RingOp) (rb : RingBuffer) : Decidable (op.AvoidsWrap rb) := by
  cases op <;> unfold AvoidsWrap <;> infer_instance

end RingOp

/-- A write, also to a ring that stays full. -/
lemma RingBuffer.Holds.run_write (h : rb.Holds q) {alloc : Bool} {data : List UInt8}
    (havoids : (RingOp.write alloc data).AvoidsFull rb) :
    ((RingOp.write alloc data).run rb).2.Holds
      ((RingOp.write alloc data).queue ((RingOp.write alloc data).run rb).1 q) := by
  have hwrite := (Prod.mk.eta (p := FreeRdp.ringbufferWrite alloc rb data)).symm
  by_cases hfull : rb.freeSize = 0
  · have hsize := h.size_eq
    rcases havoids with hfree | ⟨hempty, hdata⟩ | ⟨-, hnone | ⟨rfl, hfront⟩⟩
    · exact absurd hfull hfree
    · have hq : q = [] := List.eq_nil_of_length_eq_zero (by omega)
      exact h.ringbufferWrite alloc (.inr ⟨hq, hdata⟩) hwrite
    · rw [RingOp.run, ringbufferWrite_of_realloc hfull (Option.isNone_iff_eq_none.mp hnone)]
      exact h
    · rw [RingOp.queue, List.append_nil, ite_self]
      exact h.write_nil hfull hfront alloc
  · exact h.ringbufferWrite alloc (.inl hfull) hwrite

/-- A linear write, also where there is no memory for its room. -/
lemma RingBuffer.Holds.run_linearWrite (h : rb.Holds q) {alloc : Bool} {sz : Nat}
    {data : List UInt8} (hrespects : data.length ≤ sz)
    (havoids : (RingOp.linearWrite alloc sz data).AvoidsFull rb)
    (hwrap : (RingOp.linearWrite alloc sz data).AvoidsWrap rb) :
    ((RingOp.linearWrite alloc sz data).run rb).2.Holds
      ((RingOp.linearWrite alloc sz data).queue ((RingOp.linearWrite alloc sz data).run rb).1 q) := by
  have hwrite := (Prod.mk.eta (p := FreeRdp.ringbufferLinearWrite alloc rb sz data)).symm
  by_cases hnone : rb.freeSize < sz ∧
      ringbufferRealloc alloc rb (ringbufferTargetSize rb sz) = none
  · rw [RingOp.run, ringbufferLinearWrite_of_realloc hnone.1 hnone.2]
    exact h
  · have hfits : rb.freeSize < sz → q.length + sz + 32 < 2 ^ 64 := by
      intro hless
      rcases hwrap hless with hfits | hfails
      · rwa [h.used] at hfits
      · exact absurd ⟨hless, Option.isNone_iff_eq_none.mp hfails⟩ hnone
    by_cases hfull : rb.freeSize = 0
    · have hsize := h.size_eq
      rcases havoids with hfree | ⟨hempty, hsz⟩ | ⟨hsz, hfails⟩ | ⟨rfl, hfront⟩
      · exact absurd hfull hfree
      · have hq : q = [] := List.eq_nil_of_length_eq_zero (by omega)
        exact h.ringbufferLinearWrite hrespects (.inr ⟨hq, hsz⟩) hfits hwrite
      · exact absurd ⟨by omega, Option.isNone_iff_eq_none.mp hfails⟩ hnone
      · obtain rfl : data = [] := List.eq_nil_of_length_eq_zero (by omega)
        rw [RingOp.queue, List.append_nil, ite_self]
        exact h.linearWrite_nil hfull hfront alloc
    · exact h.ringbufferLinearWrite hrespects (.inl hfull) hfits hwrite

/-- One step: the ring does what the queue does. -/
lemma RingBuffer.Holds.run (h : rb.Holds q) {op : RingOp} (hrespects : op.Respects rb)
    (hfull : op.AvoidsFull rb) (hwrap : op.AvoidsWrap rb) :
    (op.run rb).2.Holds (op.queue (op.run rb).1 q) := by
  cases op with
  | write alloc data => exact h.run_write hfull
  | linearWrite alloc sz data => exact h.run_linearWrite hrespects hfull hwrap
  | peek sz => exact h
  | commitRead alloc sz =>
    refine h.commitReadBytes alloc ?_
    rw [← h.used]
    exact hrespects

/-- The ring and the queue after a list of operations. -/
def ringbufferRun : RingBuffer → List UInt8 → List RingOp → RingBuffer × List UInt8
  | rb, q, [] => (rb, q)
  | rb, q, op :: ops => ringbufferRun (op.run rb).2 (op.queue (op.run rb).1 q) ops

/-- Every operation of a run meets `P` in the state before it. -/
def RingOps (P : RingOp → RingBuffer → Prop) : RingBuffer → List RingOp → Prop
  | _, [] => True
  | rb, op :: ops => P op rb ∧ RingOps P (op.run rb).2 ops

/-- What the users of a ring see of it: the number of bytes, room for them, and their order. -/
def RingBuffer.Shows (rb : RingBuffer) (q : List UInt8) : Prop :=
  ringbufferUsed rb = q.length ∧ q.length ≤ ringbufferCapacity rb ∧
    ∀ n, (ringbufferPeek rb n).length ≤ 2 ∧ (ringbufferPeek rb n).flatten = q.take n

lemma RingBuffer.Holds.shows (h : rb.Holds q) : rb.Shows q := by
  refine ⟨h.used, ?_, h.peek⟩
  rw [ringbufferCapacity, ← h.size_eq]
  omega

/-- The condition on an operation. -/
def RingOp.Meets (op : RingOp) (rb : RingBuffer) : Prop :=
  op.Respects rb ∧ op.AvoidsFull rb ∧ op.AvoidsWrap rb

instance (op : RingOp) (rb : RingBuffer) : Decidable (op.Meets rb) :=
  inferInstanceAs (Decidable (_ ∧ _))

lemma ringbufferRun_holds {ops : List RingOp} (h : rb.Holds q)
    (hops : RingOps RingOp.Meets rb ops) :
    (ringbufferRun rb q ops).1.Holds (ringbufferRun rb q ops).2 := by
  induction ops generalizing rb q with
  | nil => exact h
  | cons op ops ih =>
    obtain ⟨⟨hrespects, hfull, hwrap⟩, hrest⟩ := hops
    exact ih (h.run hrespects hfull hwrap) hrest

lemma ringOps_take {P : RingOp → RingBuffer → Prop} {ops : List RingOp} (hops : RingOps P rb ops)
    (n : Nat) : RingOps P rb (ops.take n) := by
  induction ops generalizing rb n with
  | nil =>
    rw [List.take_nil]
    trivial
  | cons op ops ih =>
    cases n with
    | zero => trivial
    | succ n => exact ⟨hops.1, ih hops.2 n⟩

/-- A ring buffer is a queue, in every state of every run that gets no more room for a full ring and
asks for no size that wraps. -/
theorem ringbufferRun_shows {initialSize : Nat} (hinit : initialSize ≤ SSIZE_MAX)
    {ops : List RingOp} (hops : RingOps RingOp.Meets (ringbufferInit initialSize) ops) (n : Nat) :
    (ringbufferRun (ringbufferInit initialSize) [] (ops.take n)).1.Shows
      (ringbufferRun (ringbufferInit initialSize) [] (ops.take n)).2 :=
  (ringbufferRun_holds (holds_init hinit) (ringOps_take hops n)).shows

/-- A run that grows, wraps around, shrinks, fills up and has no memory for more. -/
theorem ringbufferRun_shows_wrap :
    (ringbufferRun (ringbufferInit 5) [] [.write true [0, 1, 2, 3], .commitRead true 2,
      .write true [4, 5], .linearWrite true 6 [6, 7, 8], .commitRead true 6,
      .linearWrite true 4 [9, 10, 11, 12], .write false [13]]).1.Shows
      (ringbufferRun (ringbufferInit 5) [] [.write true [0, 1, 2, 3], .commitRead true 2,
        .write true [4, 5], .linearWrite true 6 [6, 7, 8], .commitRead true 6,
        .linearWrite true 4 [9, 10, 11, 12], .write false [13]]).2 := by
  have hops : RingOps RingOp.Meets (ringbufferInit 5)
      [.write true [0, 1, 2, 3], .commitRead true 2, .write true [4, 5],
        .linearWrite true 6 [6, 7, 8], .commitRead true 6, .linearWrite true 4 [9, 10, 11, 12],
        .write false [13]] := by
    simp only [RingOps]
    decide +kernel
  exact ringbufferRun_shows (by decide) hops 7

/-- A ring filled to its last byte, which `ringbuffer_ensure_linear_write` allows, loses its
contents to the next write. A size that wraps leaves less room than there are bytes. -/
theorem ringbufferRun_full :
    (RingOps RingOp.Respects (ringbufferInit 1) [.linearWrite true 1 [7], .write true [8]] ∧
      ¬(ringbufferRun (ringbufferInit 1) [] [.linearWrite true 1 [7], .write true [8]]).1.Shows
        (ringbufferRun (ringbufferInit 1) [] [.linearWrite true 1 [7], .write true [8]]).2) ∧
    RingOps RingOp.Respects (ringbufferInit 10)
        [.write true [0, 1, 2, 3, 4], .linearWrite true (2 ^ 64 - 35) []] ∧
      ¬(ringbufferRun (ringbufferInit 10) []
          [.write true [0, 1, 2, 3, 4], .linearWrite true (2 ^ 64 - 35) []]).1.Shows
        (ringbufferRun (ringbufferInit 10) []
          [.write true [0, 1, 2, 3, 4], .linearWrite true (2 ^ 64 - 35) []]).2 := by
  refine ⟨⟨?_, fun h => ?_⟩, ?_, fun h => ?_⟩
  · simp only [RingOps]
    decide +kernel
  · have hpeek := (h.2.2 2).2
    revert hpeek
    decide +kernel
  · simp only [RingOps]
    decide +kernel
  · have hcapacity := h.2.1
    revert hcapacity
    decide +kernel

end FreeRdp
