import FreeRdp.Library.Loops
import FreeRdp.Library.Runs
import FreeRdp.Utils.RingBuffer
import FreeRdp.Winpr.Crt

/-!
# The buffered socket BIO

`transport_bio_buffered_write` and `transport_bio_buffered_ctrl` of `tcp.c`. The results of the writes
of the next BIO are a list; when it is empty, they would block. A pointer before the buffer or a
failed assertion ends a call without a result.
-/

namespace FreeRdp

/-! ### The next BIO -/

/-- The result of a write of the next BIO: it takes at most `n + 1` bytes, or it has the result `-n`
and sets its flags. -/
inductive NextResult where
  | accepts (n : Nat)
  | stops (n : Nat) (shouldRetry shouldWrite : Bool)
  deriving DecidableEq, Repr

/-- The next BIO: its results, its flags and what it has accepted. -/
structure NextBio where
  results : List NextResult
  shouldRetry : Bool
  shouldWrite : Bool
  accepted : List UInt8
  deriving DecidableEq, Repr

/-- `BIO_write`; a length that is not positive writes nothing and keeps the flags. -/
def NextBio.write (next : NextBio) (data : List UInt8) (dlen : Int) : Int × NextBio :=
  if dlen ≤ 0 then (0, next)
  else
    match next.results with
    | [] => (-1, { next with shouldRetry := true, shouldWrite := true })
    | .accepts n :: results =>
      let count := min (n + 1) dlen.toNat
      (count, ⟨results, false, false, next.accepted ++ data.take count⟩)
    | .stops n shouldRetry shouldWrite :: results =>
      (-(n : Int), ⟨results, shouldRetry, shouldWrite, next.accepted⟩)

/-! ### Writing -/

/-- `DataChunk`, with an offset in the ring buffer. -/
structure DataChunk where
  data : Int
  size : Nat
  deriving DecidableEq, Repr

/-- The chunks of `ringbuffer_peek`, as `ringbufferPeek` reads them. -/
def ringbufferPeekChunks (rb : RingBuffer) (sz : Nat) : List DataChunk :=
  if sz < 1 then []
  else
    let remaining := if sizeSub rb.size rb.freeSize < sz then sizeSub rb.size rb.freeSize else sz
    let toRead := if sizeAdd rb.readPtr remaining > rb.size then sizeSub rb.size rb.readPtr
      else remaining
    (if toRead ≠ 0 then [⟨rb.readPtr, toRead⟩] else []) ++
      (if sizeSub remaining toRead ≠ 0 then [⟨0, sizeSub remaining toRead⟩] else [])

/-- The state of the loops: the chunks that are left. -/
structure BufferedLoop where
  chunks : List DataChunk
  committedBytes : Int
  next : NextBio
  deriving DecidableEq, Repr

/-- How the loops end. -/
inductive BufferedEnd where
  | finished
  | fatal
  | wouldBlock
  deriving DecidableEq, Repr

/-- What follows a write of the next BIO. -/
def BufferedLoop.wrote (s : BufferedLoop) (chunk : DataChunk) (rest : List DataChunk)
    (result : Int × NextBio) : Round BufferedLoop (Option (BufferedEnd × BufferedLoop)) :=
  let (status, next) := result
  if status ≤ 0 ∧ !next.shouldRetry then .done (some (.fatal, { s with next := next }))
  else if status ≤ 0 ∧ next.shouldWrite then .done (some (.wouldBlock, { s with next := next }))
  else .next ⟨⟨chunk.data + status, (chunk.size - status).toNat⟩ :: rest,
    s.committedBytes + status, next⟩

/-- One round of the loops of `transport_bio_buffered_write`. -/
def bufferedRound (buffer : Nat → UInt8) (s : BufferedLoop) :
    Round BufferedLoop (Option (BufferedEnd × BufferedLoop)) :=
  match s.chunks with
  | [] => .done (some (.finished, s))
  | chunk :: rest =>
    if chunk.size = 0 then .next { s with chunks := rest }
    else if chunk.data < 0 then .done none
    else s.wrote chunk rest
      (s.next.write (readList buffer chunk.data.toNat chunk.size) (intOfSize chunk.size))

/-- `WINPR_BIO_BUFFERED_SOCKET` with the flags of its BIO and the next BIO. -/
structure BufferedBio where
  xmitBuffer : RingBuffer
  writeBlocked : Bool
  flagWrite : Bool
  flagShouldRetry : Bool
  next : NextBio

/-- The loops on everything that is in the buffer. -/
def BufferedBio.loopStart (bio : BufferedBio) : BufferedLoop :=
  ⟨ringbufferPeekChunks bio.xmitBuffer (ringbufferUsed bio.xmitBuffer), 0, bio.next⟩

/-- As many rounds as the loops can have: each takes a chunk or a result. -/
def BufferedBio.loopFuel (bio : BufferedBio) : Nat :=
  bio.loopStart.chunks.length + bio.next.results.length + 1

/-- `ringbuffer_commit_read_bytes` with its assertion, and the result. -/
def BufferedBio.commit (bio : BufferedBio) (alloc : Bool) (num : Nat) (result : BufferedEnd)
    (s : BufferedLoop) : Option (Int × BufferedEnd × BufferedBio) :=
  let sz := (s.committedBytes % 2 ^ 64).toNat
  if ringbufferUsed bio.xmitBuffer < sz then none
  else some (if result = .fatal then -1 else num, result, {
    xmitBuffer := ringbufferCommitReadBytes alloc bio.xmitBuffer sz
    writeBlocked := result = .wouldBlock
    flagWrite := result = .wouldBlock
    flagShouldRetry := if result = .fatal then false else bio.flagShouldRetry
    next := s.next })

/-- The second half of `transport_bio_buffered_write`: what is in the buffer is written. -/
def BufferedBio.drain (bio : BufferedBio) (alloc : Bool) (num : Nat) :
    Option (Option (Int × BufferedEnd × BufferedBio)) :=
  (loop (bufferedRound bio.xmitBuffer.buffer) bio.loopFuel bio.loopStart).map fun result =>
    result.bind fun (result, s) => bio.commit alloc num result s

/-- The first half: the bytes are stored. -/
def BufferedBio.store (bio : BufferedBio) (alloc : Bool) (buf : List UInt8) :
    Bool × BufferedBio :=
  let bio := { bio with writeBlocked := false, flagWrite := false }
  if buf.length ≠ 0 then
    let (ok, xmitBuffer) := ringbufferWrite alloc bio.xmitBuffer buf
    (ok, { bio with xmitBuffer := xmitBuffer })
  else (true, bio)

/-- What can be asked of the allocator in a call: memory to grow, and to shrink. -/
structure BufferedAlloc where
  grow : Bool
  shrink : Bool
  deriving DecidableEq, Repr

/-- `transport_bio_buffered_write`. A buffer that is not stored is a fatal error. -/
def transportBioBufferedWrite (alloc : BufferedAlloc) (bio : BufferedBio) (buf : List UInt8) :
    Option (Option (Int × BufferedEnd × BufferedBio)) :=
  match bio.store alloc.grow buf with
  | (false, bio) => some (some (-1, .fatal, bio))
  | (true, bio) => bio.drain alloc.shrink buf.length

/-! ### Control -/

/-- `BIO_CTRL_WPENDING` of `transport_bio_buffered_ctrl`. -/
def transportBioBufferedWPending (bio : BufferedBio) : Int :=
  intOfSize (ringbufferUsed bio.xmitBuffer)

/-- `BIO_CTRL_FLUSH` of `transport_bio_buffered_ctrl`. With an empty buffer nothing is written. -/
def transportBioBufferedFlush (alloc : BufferedAlloc) (bio : BufferedBio) :
    Option (Option (Int × BufferedEnd × BufferedBio)) :=
  if ringbufferUsed bio.xmitBuffer = 0 then some (some (1, .finished, bio))
  else
    (transportBioBufferedWrite alloc bio []).map fun result =>
      result.map fun (status, result, bio) => (if status ≥ 0 then 1 else -1, result, bio)

/-- A new BIO, with the buffer of `transport_bio_buffered_new`. -/
def transportBioBufferedNew (results : List NextResult) : BufferedBio :=
  ⟨ringbufferInit 0x10000, false, false, true, ⟨results, false, false, []⟩⟩

/-! ### The loops -/

/-- The result that the loops go on after: it is negative, and the next BIO does not wait to write. -/
def NextResult.falls : NextResult → Bool
  | .stops (_ + 1) true false => true
  | _ => false

/-- What does not happen in a round: a chunk is written, and the result is one of these. -/
def BufferedAvoids (s : BufferedLoop) : Prop :=
  s.chunks.head?.any (·.size ≠ 0) = true → s.next.results.head?.any (·.falls) = false

instance : DecidablePred BufferedAvoids := fun s => by
  unfold BufferedAvoids
  infer_instance

/-- What is left of the chunks is what is left of the queue, and the rest was accepted. -/
structure LoopHolds (buffer : Nat → UInt8) (q accepted : List UInt8) (s : BufferedLoop) : Prop where
  committed_nonneg : 0 ≤ s.committedBytes
  committed_le : s.committedBytes ≤ q.length
  data_nonneg : ∀ c ∈ s.chunks, 0 ≤ c.data
  chunks_eq : (s.chunks.map fun c => readList buffer c.data.toNat c.size).flatten =
    q.drop s.committedBytes.toNat
  accepted_eq : s.next.accepted = accepted ++ q.take s.committedBytes.toNat

/-- Only the first chunk changes, and it does not grow. -/
def ChunksShrink (chunks chunks' : List DataChunk) : Prop :=
  chunks' = chunks.tail ∨ ∃ c c' rest, chunks = c :: rest ∧ chunks' = c' :: rest ∧ c'.size ≤ c.size

/-- The result of the loops. -/
def LoopResult (buffer : Nat → UInt8) (q accepted : List UInt8)
    (result : Option (BufferedEnd × BufferedLoop)) : Prop :=
  ∃ e s, result = some (e, s) ∧ LoopHolds buffer q accepted s ∧
    (e = .wouldBlock → s.committedBytes < q.length)

section Loops

variable {buffer : Nat → UInt8} {q accepted : List UInt8} {s : BufferedLoop}

/-- A part of the first chunk is accepted. -/
lemma LoopHolds.accepts (h : LoopHolds buffer q accepted s) {chunk : DataChunk}
    {rest : List DataChunk} (hchunks : s.chunks = chunk :: rest) {count : Nat}
    (hcount : count ≤ chunk.size) (results : List NextResult) (shouldRetry shouldWrite : Bool) :
    LoopHolds buffer q accepted ⟨⟨chunk.data + count, chunk.size - count⟩ :: rest,
      s.committedBytes + count, ⟨results, shouldRetry, shouldWrite,
        s.next.accepted ++ (readList buffer chunk.data.toNat chunk.size).take count⟩⟩ := by
  have hdata := h.data_nonneg chunk (by rw [hchunks]; exact List.mem_cons_self)
  have hpos := h.committed_nonneg
  have hle := h.committed_le
  have hsplit : readList buffer chunk.data.toNat chunk.size =
      readList buffer chunk.data.toNat count ++
        readList buffer (chunk.data + count).toNat (chunk.size - count) := by
    rw [show (chunk.data + count).toNat = chunk.data.toNat + count by omega, ← readList_add,
      Nat.add_sub_cancel' hcount]
  have htake : (readList buffer chunk.data.toNat chunk.size).take count =
      readList buffer chunk.data.toNat count := by
    rw [hsplit, List.take_left' (length_readList _ _ _)]
  have heq := h.chunks_eq
  rw [hchunks, List.map_cons, List.flatten_cons, hsplit, List.append_assoc] at heq
  have hlen := congrArg List.length heq
  rw [List.length_append, length_readList, List.length_drop] at hlen
  have htoNat : (s.committedBytes + count).toNat = s.committedBytes.toNat + count := by omega
  refine ⟨by dsimp only; omega, by dsimp only; omega, ?_, ?_, ?_⟩
  · intro c hc
    rcases List.mem_cons.mp hc with rfl | hc
    · dsimp only
      omega
    · exact h.data_nonneg c (by rw [hchunks]; exact List.mem_cons_of_mem chunk hc)
  · dsimp only
    rw [List.map_cons, List.flatten_cons, htoNat, ← List.drop_drop, ← heq,
      List.drop_left' (length_readList _ _ _)]
  · dsimp only
    rw [htake, h.accepted_eq, htoNat, List.take_add, ← heq, List.append_assoc,
      List.take_left' (length_readList _ _ _)]

/-- One round. -/
lemma bufferedRound_ends (hq : q.length ≤ INT_MAX) (h : LoopHolds buffer q accepted s)
    (havoids : BufferedAvoids s) :
    (bufferedRound buffer s).Ends
      (fun s' => LoopHolds buffer q accepted s' ∧ ChunksShrink s.chunks s'.chunks ∧
        s'.chunks.length + s'.next.results.length < s.chunks.length + s.next.results.length)
      (LoopResult buffer q accepted) := by
  rw [bufferedRound]
  cases hchunks : s.chunks with
  | nil => exact ⟨_, s, rfl, h, nofun⟩
  | cons chunk rest =>
    have hdata := h.data_nonneg chunk (by rw [hchunks]; exact List.mem_cons_self)
    have heq := h.chunks_eq
    rw [hchunks, List.map_cons, List.flatten_cons] at heq
    have hlen := congrArg List.length heq
    rw [List.length_append, length_readList, List.length_drop] at hlen
    dsimp only
    by_cases hsize : chunk.size = 0
    · rw [if_pos hsize]
      refine ⟨⟨h.committed_nonneg, h.committed_le, ?_, ?_, h.accepted_eq⟩, .inl rfl, ?_⟩
      · intro c hc
        exact h.data_nonneg c (by rw [hchunks]; exact List.mem_cons_of_mem chunk hc)
      · rw [← heq, hsize]
        rfl
      · dsimp only [List.length_cons]
        omega
    · have hint : intOfSize chunk.size = chunk.size := intOfSize_of_le (by omega)
      have hcommitted : s.committedBytes < q.length := by omega
      rw [if_neg hsize, if_neg (not_lt.mpr hdata), hint, NextBio.write, if_neg (by omega)]
      cases hresults : s.next.results with
      | nil =>
        exact ⟨_, _, rfl, ⟨h.committed_nonneg, h.committed_le, h.data_nonneg, h.chunks_eq,
          h.accepted_eq⟩, fun _ => hcommitted⟩
      | cons result results =>
        cases result with
        | accepts n =>
          have hcount : min (n + 1) chunk.size ≤ chunk.size := Nat.min_le_right _ _
          have hpos : 0 < min (n + 1) chunk.size := by omega
          dsimp only
          rw [Int.toNat_natCast, BufferedLoop.wrote]
          dsimp only
          rw [if_neg (by omega), if_neg (by omega),
            show ((chunk.size : Int) - (min (n + 1) chunk.size : Nat)).toNat =
              chunk.size - min (n + 1) chunk.size by omega]
          refine ⟨h.accepts hchunks hcount results false false,
            .inr ⟨chunk, _, rest, rfl, rfl, Nat.sub_le _ _⟩, ?_⟩
          dsimp only [List.length_cons]
          omega
        | stops n shouldRetry shouldWrite =>
          have hsame : LoopHolds buffer q accepted { s with
              next := ⟨results, shouldRetry, shouldWrite, s.next.accepted⟩ } :=
            ⟨h.committed_nonneg, h.committed_le, h.data_nonneg, h.chunks_eq, h.accepted_eq⟩
          dsimp only
          rw [BufferedLoop.wrote]
          dsimp only
          cases shouldRetry with
          | false =>
            rw [if_pos ⟨by omega, rfl⟩]
            exact ⟨_, _, rfl, hsame, nofun⟩
          | true =>
            rw [if_neg (fun hand => absurd hand.2 (by decide))]
            cases shouldWrite with
            | true =>
              rw [if_pos ⟨by omega, rfl⟩]
              exact ⟨_, _, rfl, hsame, fun _ => hcommitted⟩
            | false =>
              rw [if_neg (fun hand => absurd hand.2 (by decide))]
              -- the loops go on after this result, which is then zero
              have hzero : n = 0 := by
                have havoid := havoids (by rw [hchunks]; simpa using hsize)
                rw [hresults] at havoid
                cases n with
                | zero => rfl
                | succ n => exact absurd havoid (by simp [NextResult.falls])
              subst hzero
              have hholds := h.accepts hchunks (Nat.zero_le chunk.size) results true false
              rw [List.take_zero, List.append_nil] at hholds
              refine ⟨hholds, .inr ⟨chunk, _, rest, rfl, rfl, Nat.sub_le _ 0⟩, ?_⟩
              dsimp only [List.length_cons]
              omega

/-- The chunks are those of `ringbufferPeek`. -/
lemma map_ringbufferPeekChunks (rb : RingBuffer) (sz : Nat) :
    (ringbufferPeekChunks rb sz).map (fun c => readList rb.buffer c.data.toNat c.size) =
      ringbufferPeek rb sz := by
  rw [ringbufferPeekChunks, ringbufferPeek]
  split
  · rfl
  · dsimp only
    rw [List.map_append, apply_ite (List.map _), apply_ite (List.map _)]
    rfl

/-- The loops start with the whole queue. -/
lemma RingBuffer.Holds.loopStart {bio : BufferedBio} (h : bio.xmitBuffer.Holds q) :
    LoopHolds bio.xmitBuffer.buffer q bio.next.accepted bio.loopStart := by
  refine ⟨le_rfl, Int.natCast_nonneg _, ?_, ?_, ?_⟩
  · intro c hc
    have hchunk : ∀ (a m : Nat), c ∈ (if m ≠ 0 then [(⟨a, m⟩ : DataChunk)] else []) →
        0 ≤ c.data := by
      intro a m hc
      split at hc
      · rw [List.mem_singleton.mp hc]
        exact Int.natCast_nonneg a
      · cases hc
    rw [BufferedBio.loopStart, ringbufferPeekChunks] at hc
    dsimp only at hc
    split at hc
    · cases hc
    · rcases List.mem_append.mp hc with hc | hc
      · exact hchunk _ _ hc
      · exact hchunk 0 _ hc
  · rw [BufferedBio.loopStart, map_ringbufferPeekChunks, (h.peek _).2, h.used, List.take_length]
    rfl
  · exact (List.append_nil _).symm

/-- The loops end. -/
lemma RingBuffer.Holds.loop {bio : BufferedBio} (h : bio.xmitBuffer.Holds q)
    (hq : q.length ≤ INT_MAX)
    (havoids : AlongLoop (bufferedRound bio.xmitBuffer.buffer) BufferedAvoids bio.loopFuel
      bio.loopStart) :
    ∃ result, FreeRdp.loop (bufferedRound bio.xmitBuffer.buffer) bio.loopFuel bio.loopStart =
      some result ∧ LoopResult bio.xmitBuffer.buffer q bio.next.accepted result := by
  refine loop_spec (fun s : BufferedLoop => s.chunks.length + s.next.results.length) ?_
    h.loopStart havoids (Nat.lt_succ_self _)
  intro s hs hs'
  have hends := bufferedRound_ends hq hs hs'
  cases hr : bufferedRound bio.xmitBuffer.buffer s with
  | next s' =>
    rw [hr] at hends
    exact ⟨hends.1, hends.2.2⟩
  | done result =>
    rw [hr] at hends
    exact hends

end Loops

/-! ### Runs -/

/-- A call: a write, or a flush. -/
inductive BufferedOp where
  | write (alloc : BufferedAlloc) (buf : List UInt8)
  | flush (alloc : BufferedAlloc)
  deriving DecidableEq, Repr

namespace BufferedOp

/-- The call on a BIO. -/
def call (op : BufferedOp) (bio : BufferedBio) :
    Option (Option (Int × BufferedEnd × BufferedBio)) :=
  match op with
  | write alloc buf => transportBioBufferedWrite alloc bio buf
  | flush alloc => transportBioBufferedFlush alloc bio

/-- The BIO after the bytes of the call are stored, and whether they were. -/
def stored (op : BufferedOp) (bio : BufferedBio) : Bool × BufferedBio :=
  match op with
  | write alloc buf => bio.store alloc.grow buf
  | flush alloc => bio.store alloc.grow []

/-- The loops are reached. -/
def Reaches (op : BufferedOp) (bio : BufferedBio) : Prop :=
  match op with
  | write _ _ => (op.stored bio).1 = true
  | flush _ => ringbufferUsed bio.xmitBuffer ≠ 0

instance (op : BufferedOp) (bio : BufferedBio) : Decidable (op.Reaches bio) := by
  cases op <;> unfold Reaches <;> infer_instance

/-- The bytes that a call adds. -/
def added (op : BufferedOp) (bio : BufferedBio) : List UInt8 :=
  match op with
  | write _ buf => if (op.stored bio).1 then buf else []
  | flush _ => []

end BufferedOp

/-- The contents of the transmit buffer. -/
def BufferedBio.contents (bio : BufferedBio) : List UInt8 :=
  (ringbufferPeek bio.xmitBuffer (ringbufferUsed bio.xmitBuffer)).flatten

/-- A BIO, the bytes of all buffers that were stored, and how the last call ended. -/
structure BufferedRun where
  bio : BufferedBio
  stored : List UInt8
  last : BufferedEnd

/-- A new BIO, whose next BIO has the given results. -/
def BufferedRun.start (results : List NextResult) : BufferedRun :=
  ⟨transportBioBufferedNew results, [], .finished⟩

/-- One call. -/
def bufferedStep (s : BufferedRun) (op : BufferedOp) : BufferedRun :=
  match op.call s.bio with
  | some (some (_, last, bio)) => ⟨bio, s.stored ++ op.added s.bio, last⟩
  | _ => s

/-- The condition on a call: if the loops are reached, the bytes in the buffer can be counted with an
`int`, and no write of the next BIO has a negative result with should-retry and without
should-write. -/
def BufferedMeets (s : BufferedRun) (op : BufferedOp) : Prop :=
  op.Reaches s.bio →
    ringbufferUsed (op.stored s.bio).2.xmitBuffer ≤ INT_MAX ∧
      AlongLoop (bufferedRound (op.stored s.bio).2.xmitBuffer.buffer) BufferedAvoids
        (op.stored s.bio).2.loopFuel (op.stored s.bio).2.loopStart

instance (s : BufferedRun) (op : BufferedOp) : Decidable (BufferedMeets s op) := by
  unfold BufferedMeets
  infer_instance

/-- What holds in every round of the loops on `bio`. -/
def LoopExact (bio : BufferedBio) (stored : List UInt8) (s : BufferedLoop) : Prop :=
  0 ≤ s.committedBytes ∧ s.committedBytes ≤ ringbufferUsed bio.xmitBuffer ∧
    s.next.accepted ++ bio.contents.drop s.committedBytes.toNat = stored ∧
    ∀ s', bufferedRound bio.xmitBuffer.buffer s = .next s' → ChunksShrink s.chunks s'.chunks

/-- What a BIO has accepted and still has is what was stored; it knows whether it is blocked, and how
much is pending. -/
structure BufferedBio.Exact (bio : BufferedBio) (stored : List UInt8) (last : BufferedEnd) :
    Prop where
  stored_eq : bio.next.accepted ++ bio.contents = stored
  blocked_iff : bio.writeBlocked = true ↔ last = .wouldBlock
  pending_eq : transportBioBufferedWPending bio = stored.length - bio.next.accepted.length

/-- A call returns, each round of its loops is exact, and so is the BIO after it. -/
def BufferedExact (s : BufferedRun) (op : BufferedOp) : Prop :=
  (∃ status last bio, op.call s.bio = some (some (status, last, bio)) ∧
      bio.Exact (s.stored ++ op.added s.bio) last) ∧
    (op.Reaches s.bio →
      AlongLoop (bufferedRound (op.stored s.bio).2.xmitBuffer.buffer)
        (LoopExact (op.stored s.bio).2 (s.stored ++ op.added s.bio))
        (op.stored s.bio).2.loopFuel (op.stored s.bio).2.loopStart)

/-- The invariant: the ring holds a queue and is not full, and a blocked BIO has something to
write. -/
structure BufferedRun.Valid (s : BufferedRun) : Prop where
  holds : ∃ q, s.bio.xmitBuffer.Holds q ∧ s.bio.next.accepted ++ q = s.stored ∧
    q.length ≤ INT_MAX ∧ (s.bio.writeBlocked = true → q ≠ [])
  free : s.bio.xmitBuffer.freeSize ≠ 0
  initial : s.bio.xmitBuffer.initialSize ≠ 0
  blocked_iff : s.bio.writeBlocked = true ↔ s.last = .wouldBlock

section Runs

variable {q : List UInt8} {rb : RingBuffer}

lemma RingBuffer.Holds.contents {bio : BufferedBio} (h : bio.xmitBuffer.Holds q) :
    bio.contents = q := by
  rw [BufferedBio.contents, (h.peek _).2, h.used, List.take_length]

/-- A ring that is not full is not full after a write. -/
lemma RingBuffer.Holds.ringbufferWrite_free (h : rb.Holds q) (hfree : rb.freeSize ≠ 0)
    (alloc : Bool) (data : List UInt8) :
    (FreeRdp.ringbufferWrite alloc rb data).2.freeSize ≠ 0 ∧
      (FreeRdp.ringbufferWrite alloc rb data).2.initialSize = rb.initialSize := by
  have hsize := h.size_eq
  have hlt := h.size_lt
  rw [FreeRdp.ringbufferWrite]
  split
  · cases hrealloc : ringbufferRealloc alloc rb (rb.size + data.length) with
    | none => exact ⟨hfree, rfl⟩
    | some rb₁ =>
      obtain ⟨h₁, hsize₁, hfree₁⟩ := h.realloc (.inl hfree) (by omega) hrealloc
      have hlt₁ := h₁.size_lt
      refine ⟨?_, (ringbufferPut_initialSize rb₁ data).trans (ringbufferRealloc_initialSize hrealloc)⟩
      dsimp only [FreeRdp.ringbufferPut]
      rw [sizeSub_of_le (by omega) (by omega)]
      omega
  · refine ⟨?_, ringbufferPut_initialSize rb data⟩
    dsimp only [FreeRdp.ringbufferPut]
    rw [sizeSub_of_le (by omega) (by omega)]
    omega

lemma RingBuffer.Holds.commitReadBytes_free (h : rb.Holds q) (hfree : rb.freeSize ≠ 0)
    (alloc : Bool) {sz : Nat} (hsz : sz ≤ q.length) :
    (ringbufferCommitReadBytes alloc rb sz).freeSize ≠ 0 ∧
      (ringbufferCommitReadBytes alloc rb sz).initialSize = rb.initialSize := by
  have hsize := h.size_eq
  have hlt := h.size_lt
  have hadd : sizeAdd rb.freeSize sz = rb.freeSize + sz := sizeAdd_of_lt (by omega)
  rw [ringbufferCommitReadBytes]
  split
  · exact ⟨hfree, rfl⟩
  · dsimp only
    rw [hadd]
    split
    · rename_i hshrink
      obtain ⟨rb₁, hrb₁⟩ : ∃ rb₁ : RingBuffer, rb₁ = { rb with
        readPtr := sizeAdd rb.readPtr sz % rb.size, freeSize := rb.freeSize + sz } := ⟨_, rfl⟩
      rw [← hrb₁] at hshrink ⊢
      have hfree₁ : rb₁.freeSize = rb.freeSize + sz := by rw [hrb₁]
      have hsize₁ : rb₁.size = rb.size := by rw [hrb₁]
      cases hrealloc : ringbufferRealloc alloc rb₁ rb.initialSize with
      | none =>
        refine ⟨?_, by rw [hrb₁]; rfl⟩
        rw [Option.getD_none, hfree₁]
        omega
      | some rb₂ =>
        refine ⟨?_, (ringbufferRealloc_initialSize hrealloc).trans (by rw [hrb₁])⟩
        rw [ringbufferRealloc] at hrealloc
        split at hrealloc
        · rename_i hmax
          have hmax := hmax.2
          rw [SSIZE_MAX] at hmax
          obtain rfl := Option.some.inj hrealloc
          rw [ringbufferUsed, hfree₁, hsize₁, sizeSub_of_le (by omega) (by omega)] at hshrink
          dsimp only [Option.getD_some]
          rw [hfree₁, hsize₁]
          unfold sizeAdd sizeSub
          omega
        · cases hrealloc
    · constructor
      · dsimp only
        omega
      · cases rb
        rfl

/-- What the second half of a write does to a BIO. -/
structure BufferedDrained (bio : BufferedBio) (q : List UInt8) (last : BufferedEnd)
    (bio' : BufferedBio) : Prop where
  holds : ∃ q', bio'.xmitBuffer.Holds q' ∧ bio'.next.accepted ++ q' = bio.next.accepted ++ q ∧
    q'.length ≤ q.length ∧ (last = .wouldBlock → q' ≠ [])
  free : bio'.xmitBuffer.freeSize ≠ 0
  initial : bio'.xmitBuffer.initialSize = bio.xmitBuffer.initialSize
  blocked_iff : bio'.writeBlocked = true ↔ last = .wouldBlock

lemma RingBuffer.Holds.drain {bio : BufferedBio} (h : bio.xmitBuffer.Holds q)
    (hfree : bio.xmitBuffer.freeSize ≠ 0) (hq : q.length ≤ INT_MAX)
    (havoids : AlongLoop (bufferedRound bio.xmitBuffer.buffer) BufferedAvoids bio.loopFuel
      bio.loopStart) (alloc : Bool) (num : Nat) :
    ∃ status last bio', bio.drain alloc num = some (some (status, last, bio')) ∧
      BufferedDrained bio q last bio' := by
  obtain ⟨result, hloop, last, s, rfl, hs, hblock⟩ := h.loop hq havoids
  have hpos := hs.committed_nonneg
  have hle := hs.committed_le
  -- what was committed is a count of bytes of the queue
  have hsz : (s.committedBytes % 2 ^ 64).toNat = s.committedBytes.toNat := by
    rw [INT_MAX] at hq
    omega
  have hused : s.committedBytes.toNat ≤ q.length := by omega
  rw [BufferedBio.drain, hloop, Option.map_some, Option.bind_some]
  dsimp only
  rw [BufferedBio.commit, hsz, h.used, if_neg (not_lt.mpr hused)]
  refine ⟨_, last, _, rfl, ⟨?_, ?_, ?_, ?_⟩⟩
  · refine ⟨q.drop s.committedBytes.toNat, h.commitReadBytes alloc hused, ?_, ?_, ?_⟩
    · dsimp only
      rw [hs.accepted_eq, List.append_assoc, List.take_append_drop]
    · rw [List.length_drop]
      exact Nat.sub_le _ _
    · intro hlast hnil
      have hlen := congrArg List.length hnil
      have hlt := hblock hlast
      rw [List.length_drop, List.length_nil] at hlen
      omega
  · exact (h.commitReadBytes_free hfree alloc hused).1
  · exact (h.commitReadBytes_free hfree alloc hused).2
  · exact decide_eq_true_iff

/-- Every round of the loops is exact. -/
lemma RingBuffer.Holds.alongLoop {bio : BufferedBio} (h : bio.xmitBuffer.Holds q)
    (hq : q.length ≤ INT_MAX) {stored : List UInt8} (hstored : bio.next.accepted ++ q = stored)
    (havoids : AlongLoop (bufferedRound bio.xmitBuffer.buffer) BufferedAvoids bio.loopFuel
      bio.loopStart) :
    AlongLoop (bufferedRound bio.xmitBuffer.buffer) (LoopExact bio stored) bio.loopFuel
      bio.loopStart := by
  refine havoids.imp (fun s hs hs' => ?_) h.loopStart
  have hends := bufferedRound_ends hq hs hs'
  refine ⟨⟨hs.committed_nonneg, ?_, ?_, ?_⟩, ?_⟩
  · rw [h.used]
    exact hs.committed_le
  · rw [h.contents, hs.accepted_eq, List.append_assoc, List.take_append_drop, hstored]
  · intro s' hr
    rw [hr] at hends
    exact hends.2.1
  · intro s' hr
    rw [hr] at hends
    exact hends.1

variable {s : BufferedRun} {op : BufferedOp}

/-- The BIO of a step that is valid is exact. -/
lemma BufferedRun.Valid.exact (h : s.Valid) : s.bio.Exact s.stored s.last := by
  obtain ⟨q, hq, hstored, hlen, -⟩ := h.holds
  refine ⟨by rw [hq.contents, hstored], h.blocked_iff, ?_⟩
  rw [transportBioBufferedWPending, hq.used, intOfSize_of_le hlen, ← hstored, List.length_append]
  push_cast
  ring

/-- The first half of a call: the bytes are stored, or the ring is as it was. -/
lemma BufferedRun.Valid.store (h : s.Valid) (op : BufferedOp) :
    ∃ q, (op.stored s.bio).2.xmitBuffer.Holds q ∧
      (op.stored s.bio).2.next.accepted ++ q = s.stored ++ op.added s.bio ∧
      (op.stored s.bio).2.xmitBuffer.freeSize ≠ 0 ∧
      (op.stored s.bio).2.xmitBuffer.initialSize ≠ 0 ∧
      (op.stored s.bio).2.writeBlocked = false ∧
      ((op.stored s.bio).1 = false → q.length ≤ INT_MAX) := by
  obtain ⟨q, hq, hstored, hlen, -⟩ := h.holds
  cases op with
  | flush alloc =>
    exact ⟨q, hq, by rw [BufferedOp.added, List.append_nil]; exact hstored, h.free, h.initial, rfl,
      fun _ => hlen⟩
  | write alloc buf =>
    by_cases hbuf : buf = []
    · subst hbuf
      refine ⟨q, hq, ?_, h.free, h.initial, rfl, fun _ => hlen⟩
      rw [BufferedOp.added, ite_self, List.append_nil]
      exact hstored
    · have hne : buf.length ≠ 0 := fun hzero => hbuf (List.length_eq_zero_iff.mp hzero)
      obtain ⟨hfree, hinitial⟩ := hq.ringbufferWrite_free h.free alloc.grow buf
      have hholds := hq.ringbufferWrite alloc.grow (.inl h.free)
        (Prod.mk.eta (p := ringbufferWrite alloc.grow s.bio.xmitBuffer buf)).symm
      have hstep : (BufferedOp.write alloc buf).stored s.bio =
          ((ringbufferWrite alloc.grow s.bio.xmitBuffer buf).1,
            { s.bio with
              writeBlocked := false
              flagWrite := false
              xmitBuffer := (ringbufferWrite alloc.grow s.bio.xmitBuffer buf).2 }) := by
        rw [BufferedOp.stored, BufferedBio.store, if_pos hne]
      rw [BufferedOp.added, hstep]
      dsimp only
      refine ⟨_, hholds, ?_, hfree, by rw [hinitial]; exact h.initial, rfl, ?_⟩
      · cases (ringbufferWrite alloc.grow s.bio.xmitBuffer buf).1 with
        | true => rw [if_pos rfl, if_pos rfl, ← List.append_assoc, hstored]
        | false =>
          rw [if_neg Bool.false_ne_true, if_neg Bool.false_ne_true, List.append_nil, hstored]
      · intro hfalse
        rw [hfalse, if_neg Bool.false_ne_true]
        exact hlen

/-- The step of a call that returns. -/
lemma bufferedStep_of_call {status : Int} {last : BufferedEnd} {bio : BufferedBio}
    (hcall : op.call s.bio = some (some (status, last, bio))) :
    bufferedStep s op = ⟨bio, s.stored ++ op.added s.bio, last⟩ := by
  rw [bufferedStep, hcall]

/-- A call that reaches the loops. -/
lemma BufferedRun.Valid.reaches (h : s.Valid) (hmeets : BufferedMeets s op)
    (hreaches : op.Reaches s.bio) (alloc : Bool) (num : Nat) :
    (∃ status last bio, (op.stored s.bio).2.drain alloc num =
        some (some (status, last, bio)) ∧
      BufferedRun.Valid ⟨bio, s.stored ++ op.added s.bio, last⟩) ∧
    AlongLoop (bufferedRound (op.stored s.bio).2.xmitBuffer.buffer)
      (LoopExact (op.stored s.bio).2 (s.stored ++ op.added s.bio))
      (op.stored s.bio).2.loopFuel (op.stored s.bio).2.loopStart := by
  obtain ⟨hle, havoids⟩ := hmeets hreaches
  obtain ⟨q, hq, hstored, hfree, hinitial, -, -⟩ := h.store op
  rw [hq.used] at hle
  refine ⟨?_, hq.alongLoop hle hstored havoids⟩
  obtain ⟨status, last, bio, hdrain, hdrained⟩ := hq.drain hfree hle havoids alloc num
  obtain ⟨q', hq', hstored', hlen', hblocked⟩ := hdrained.holds
  refine ⟨status, last, bio, hdrain, ⟨q', hq', hstored'.trans hstored, hlen'.trans hle, ?_⟩,
    hdrained.free, ?_, hdrained.blocked_iff⟩
  · intro htrue
    exact hblocked (hdrained.blocked_iff.mp htrue)
  · rw [hdrained.initial]
    exact hinitial

/-- One call. -/
lemma BufferedRun.Valid.step (h : s.Valid) (hmeets : BufferedMeets s op) :
    BufferedExact s op ∧ (bufferedStep s op).Valid := by
  suffices hcall : (∃ status last bio, op.call s.bio = some (some (status, last, bio)) ∧
      BufferedRun.Valid ⟨bio, s.stored ++ op.added s.bio, last⟩) ∧
      (op.Reaches s.bio → AlongLoop (bufferedRound (op.stored s.bio).2.xmitBuffer.buffer)
        (LoopExact (op.stored s.bio).2 (s.stored ++ op.added s.bio))
        (op.stored s.bio).2.loopFuel (op.stored s.bio).2.loopStart) by
    obtain ⟨⟨status, last, bio, hcall, hvalid⟩, hloop⟩ := hcall
    refine ⟨⟨⟨status, last, bio, hcall, hvalid.exact⟩, hloop⟩, ?_⟩
    rw [bufferedStep_of_call hcall]
    exact hvalid
  cases op with
  | write alloc buf =>
    cases hstore : BufferedOp.stored (.write alloc buf) s.bio with
    | mk ok bio =>
      cases ok with
      | true =>
        have hreaches : (BufferedOp.write alloc buf).Reaches s.bio := by
          rw [BufferedOp.Reaches, hstore]
        obtain ⟨⟨status, last, bio', hdrain, hvalid⟩, hloop⟩ :=
          h.reaches hmeets hreaches alloc.shrink buf.length
        rw [hstore] at hdrain
        refine ⟨⟨status, last, bio', ?_, hvalid⟩, fun _ => hstore ▸ hloop⟩
        have hstore' : s.bio.store alloc.grow buf = (true, bio) := hstore
        rw [BufferedOp.call, transportBioBufferedWrite, hstore']
        exact hdrain
      | false =>
        obtain ⟨q, hq, hstored, hfree, hinitial, hblocked, hlen⟩ := h.store (.write alloc buf)
        rw [hstore] at hq hstored hfree hinitial hblocked hlen
        have hstore' : s.bio.store alloc.grow buf = (false, bio) := hstore
        refine ⟨⟨-1, .fatal, bio, ?_, ⟨q, hq, hstored, hlen rfl, ?_⟩, hfree, hinitial, ?_⟩, ?_⟩
        · rw [BufferedOp.call, transportBioBufferedWrite, hstore']
        · intro htrue
          exact absurd (hblocked.symm.trans htrue) Bool.false_ne_true
        · dsimp only
          rw [hblocked]
          exact ⟨fun hfalse => absurd hfalse Bool.false_ne_true, nofun⟩
        · intro hreaches
          rw [BufferedOp.Reaches, hstore] at hreaches
          exact absurd hreaches Bool.false_ne_true
  | flush alloc =>
    by_cases hused : ringbufferUsed s.bio.xmitBuffer = 0
    · refine ⟨⟨1, .finished, s.bio, ?_, ?_⟩, fun hreaches => absurd hused hreaches⟩
      · rw [BufferedOp.call, transportBioBufferedFlush, if_pos hused]
      · -- an empty BIO is not blocked
        obtain ⟨q, hq, hstored, hlen, hblocked⟩ := h.holds
        have hnil : q = [] := List.length_eq_zero_iff.mp (hq.used.symm.trans hused)
        refine ⟨⟨q, hq, ?_, hlen, hblocked⟩, h.free, h.initial, ?_⟩
        · rw [BufferedOp.added, List.append_nil]
          exact hstored
        · exact ⟨fun htrue => absurd hnil (hblocked htrue), nofun⟩
    · obtain ⟨⟨status, last, bio', hdrain, hvalid⟩, hloop⟩ :=
        h.reaches hmeets hused alloc.shrink 0
      refine ⟨⟨if status ≥ 0 then 1 else -1, last, bio', ?_, hvalid⟩, fun _ => hloop⟩
      have hstore : s.bio.store alloc.grow [] =
          (true, (BufferedOp.stored (.flush alloc) s.bio).2) := rfl
      rw [BufferedOp.call, transportBioBufferedFlush, if_neg hused, transportBioBufferedWrite,
        hstore]
      dsimp only [List.length_nil]
      rw [hdrain]
      rfl

/-- In every run that meets the condition, each call is exact, and so is the BIO after it. -/
theorem bufferedRun_exact (results : List NextResult) {ops : List BufferedOp}
    (hmeets : AlongRun bufferedStep BufferedMeets (.start results) ops) :
    AlongRun bufferedStep BufferedExact (.start results) ops := by
  have hstart : (BufferedRun.start results).Valid :=
    ⟨⟨[], holds_init (by decide), rfl, Nat.zero_le _, nofun⟩, show 0x10000 ≠ 0 by decide,
      show 0x10000 ≠ 0 by decide, nofun, nofun⟩
  exact hmeets.imp (fun s op h hop => h.step hop) hstart

/-- A run with short writes, a block, a flush and a zero result. -/
theorem bufferedRun_exact_blocked :
    AlongRun bufferedStep BufferedExact
      (.start [.accepts 1, .stops 1 true true, .stops 0 true false, .accepts 0, .accepts 7])
      [.write ⟨true, true⟩ [1, 2, 3], .write ⟨true, true⟩ [4, 5], .flush ⟨true, true⟩] :=
  bufferedRun_exact _ (by decide +kernel)

/-- A negative result with should-retry and without should-write: the byte that was accepted before
it is written again. -/
theorem bufferedRun_repeated :
    (bufferedStep (.start [.accepts 0, .stops 1 true false, .accepts 1])
        (.write ⟨true, true⟩ [1, 2])).bio.next.accepted = [1, 1, 2] ∧
      (bufferedStep (.start [.accepts 0, .stops 1 true false, .accepts 1])
        (.write ⟨true, true⟩ [1, 2])).stored = [1, 2] := by
  decide +kernel

end Runs

end FreeRdp
