import FreeRdp.Library.Ring
import FreeRdp.Library.Runs
import FreeRdp.Winpr.Crt

/-!
# Message queues

`MessageQueue.c`. Each function holds the lock of the queue from its first access to its last one,
so a run of several producers and consumers is a list of calls in the order of their critical
sections. A consumer that waits for the event may enter its critical section long after the event
was set; the model lets it enter at any time.
-/

namespace FreeRdp

/-- `wMessage`; pointers are addresses. -/
structure Message where
  id : Nat
  context : Nat
  wParam : Nat
  lParam : Nat
  time : Nat
  free : Nat
  deriving DecidableEq, Repr

/-- A message after `ZeroMemory`. -/
def Message.zero : Message := ⟨0, 0, 0, 0, 0, 0⟩

def WMQ_QUIT : Nat := 0xFFFFFFFF

/-- `wMessageQueue`, with the state of its manual-reset event. -/
structure MessageQueue where
  head : Nat
  tail : Nat
  size : Nat
  capacity : Nat
  array : Nat → Message
  event : Bool

/-- `MessageQueue_New`. -/
def messageQueueNew : MessageQueue := ⟨0, 0, 0, 32, fun _ => .zero, false⟩

/-- The argument of `realloc` for twice the capacity: a message has 48 bytes. -/
def MessageQueue.grownSize (queue : MessageQueue) : Nat :=
  reallocSize 48 (doubledCapacity queue.capacity)

/-- The first part of `MessageQueue_Dispatch`: a full queue gets twice the capacity. -/
def messageQueueReserve (realloc : Malloc) (queue : MessageQueue) : Option MessageQueue :=
  if queue.size = queue.capacity then
    let newCapacity := doubledCapacity queue.capacity
    if !realloc.succeeds queue.grownSize then none
    else
      let oldCapacity := queue.capacity
      let array := writeList queue.array oldCapacity
        (List.replicate (newCapacity.toNat - oldCapacity) Message.zero)
      let queue := { queue with array := array, capacity := newCapacity.toNat }
      if queue.tail ≤ queue.head then
        some { queue with
          array := writeList queue.array oldCapacity (readList queue.array 0 queue.tail)
          tail := queue.tail + oldCapacity }
      else some queue
  else some queue

/-- `MessageQueue_Dispatch` at the given time. -/
def messageQueueDispatch (realloc : Malloc) (time : Nat) (queue : MessageQueue)
    (message : Option Message) : Bool × MessageQueue :=
  match message with
  | none => (false, queue)
  | some message =>
    match messageQueueReserve realloc queue with
    | none => (false, queue)
    | some queue =>
      (true, { queue with
        array := Function.update queue.array queue.tail { message with time := time }
        tail := (queue.tail + 1) % queue.capacity
        size := queue.size + 1
        event := if 0 < queue.size + 1 then true else queue.event })

/-- `MessageQueue_Post`; the time on the stack is overwritten. -/
def messageQueuePost (realloc : Malloc) (time : Nat) (queue : MessageQueue)
    (context type wParam lParam : Nat) : Bool × MessageQueue :=
  messageQueueDispatch realloc time queue (some ⟨type, context, wParam, lParam, time, 0⟩)

/-- The first message is zeroed and skipped. -/
def MessageQueue.skip (queue : MessageQueue) : MessageQueue :=
  { queue with
    array := Function.update queue.array queue.head .zero
    head := (queue.head + 1) % queue.capacity
    size := queue.size - 1 }

/-- The first message is removed, and the event reset with the last one. -/
def MessageQueue.remove (queue : MessageQueue) : MessageQueue :=
  let queue := queue.skip
  if queue.size < 1 then { queue with event := false } else queue

/-- `MessageQueue_Get`, after its wait: the status, the message and the queue. -/
def messageQueueGet (queue : MessageQueue) : Int × Option Message × MessageQueue :=
  if 0 < queue.size then
    let message := queue.array queue.head
    (if message.id ≠ WMQ_QUIT then 1 else 0, some message, queue.remove)
  else (-1, none, queue)

/-- `MessageQueue_Peek`. -/
def messageQueuePeek (queue : MessageQueue) (remove : Bool) :
    Int × Option Message × MessageQueue :=
  if 0 < queue.size then
    (1, some (queue.array queue.head), if remove then queue.remove else queue)
  else (0, none, queue)

/-- The loop of `MessageQueue_Clear`, for a queue of the given size: the messages that are freed. -/
def messageQueueClearLoop : Nat → MessageQueue → List Message × MessageQueue
  | 0, queue => ([], queue)
  | size + 1, queue =>
    let (messages, queue') := messageQueueClearLoop size queue.skip
    (queue.array queue.head :: messages, queue')

/-- `MessageQueue_Clear`. -/
def messageQueueClear (queue : MessageQueue) : List Message × MessageQueue :=
  let (messages, queue) := messageQueueClearLoop queue.size queue
  (messages, { queue with event := false })

/-! ### The messages in a queue -/

/-- The messages in a queue, in order. -/
def MessageQueue.messages (queue : MessageQueue) : List Message :=
  ringList queue.array queue.capacity queue.head queue.size

/-- The invariant of queues, apart from the event. -/
structure MessageQueue.InRing (queue : MessageQueue) : Prop where
  head_lt : queue.head < queue.capacity
  size_le : queue.size ≤ queue.capacity
  tail_eq : queue.tail = (queue.head + queue.size) % queue.capacity
  /-- The capacity is an `int`. -/
  capacity_lt : queue.capacity < 2 ^ 31

/-- The invariant of queues. -/
structure MessageQueue.Valid (queue : MessageQueue) : Prop extends queue.InRing where
  event_eq : queue.event = decide (0 < queue.size)

variable {queue queue' : MessageQueue}

lemma MessageQueue.Valid.new : messageQueueNew.Valid where
  head_lt := by decide
  size_le := by decide
  tail_eq := by decide
  capacity_lt := by decide
  event_eq := rfl

/-- `messageQueueReserve` keeps the messages, and there is a free cell after it. -/
lemma MessageQueue.Valid.reserve (h : queue.Valid) {realloc : Malloc}
    (hreserve : messageQueueReserve realloc queue = some queue') :
    queue'.Valid ∧ queue'.messages = queue.messages ∧ queue'.size < queue'.capacity := by
  unfold messageQueueReserve at hreserve
  have hpos := h.head_lt
  split at hreserve
  · rename_i hfull
    dsimp only at hreserve
    split at hreserve
    · cases hreserve
    rename_i hrealloc
    obtain ⟨hdouble, hlt⟩ :=
      doubledCapacity_of_realloc (by decide : 1 ≤ 48) (by decide) h.capacity_lt
        (by simpa [MessageQueue.grownSize] using hrealloc)
    -- the queue is full, so its tail is its head
    have htail : queue.tail = queue.head := by
      rw [h.tail_eq, hfull, Nat.add_mod_right, Nat.mod_eq_of_lt h.head_lt]
    rw [hdouble, if_pos htail.le] at hreserve
    obtain rfl := Option.some.inj hreserve
    refine ⟨⟨⟨?_, ?_, ?_, hlt⟩, h.event_eq⟩, ?_, ?_⟩
    · exact hpos.trans (by dsimp only; omega)
    · dsimp only
      omega
    · dsimp only
      rw [htail, hfull, Nat.mod_eq_of_lt (by omega)]
    · rw [messages, messages, hfull]
      refine ringList_grow le_rfl hpos ?_ ?_
      · intro i _ hi
        dsimp only
        rw [writeList_of_lt hi, writeList_of_lt hi]
      · intro i hi
        dsimp only
        rw [writeList_add (by rwa [length_readList, htail]), getElem_readList, Nat.zero_add,
          writeList_of_lt (hi.trans hpos)]
    · dsimp only
      omega
  · rename_i hfull
    obtain rfl := Option.some.inj hreserve
    exact ⟨h, rfl, lt_of_le_of_ne h.size_le hfull⟩

/-- `MessageQueue_Dispatch` fails, or appends the message. -/
lemma MessageQueue.Valid.dispatch (h : queue.Valid) {realloc : Malloc} {time : Nat}
    {message : Option Message} {ok : Bool}
    (hdispatch : messageQueueDispatch realloc time queue message = (ok, queue')) :
    queue'.Valid ∧ (ok = false ∧ queue' = queue ∨
      ok = true ∧ ∃ m, message = some m ∧
        queue'.messages = queue.messages ++ [{ m with time := time }]) := by
  unfold messageQueueDispatch at hdispatch
  split at hdispatch
  · obtain ⟨rfl, rfl⟩ := Prod.mk.inj hdispatch
    exact ⟨h, .inl ⟨rfl, rfl⟩⟩
  rename_i m
  split at hdispatch
  · obtain ⟨rfl, rfl⟩ := Prod.mk.inj hdispatch
    exact ⟨h, .inl ⟨rfl, rfl⟩⟩
  · rename_i queue₁ hreserve
    obtain ⟨rfl, rfl⟩ := Prod.mk.inj hdispatch
    obtain ⟨hvalid, hmessages, hlt⟩ := h.reserve hreserve
    refine ⟨⟨⟨hvalid.head_lt, hlt, ?_, hvalid.capacity_lt⟩, ?_⟩, .inr ⟨rfl, m, rfl, ?_⟩⟩
    · dsimp only
      rw [hvalid.tail_eq, Nat.mod_add_mod, Nat.add_assoc]
    · rw [if_pos (Nat.succ_pos _), decide_eq_true (Nat.succ_pos _)]
    · rw [← hmessages, messages, messages]
      dsimp only
      rw [hvalid.tail_eq]
      exact ringList_update hvalid.head_lt hlt

/-- There is a free cell, or memory for more. -/
def MessageQueue.HasRoom (queue : MessageQueue) (realloc : Malloc) : Prop :=
  queue.size ≠ queue.capacity ∨ realloc.succeeds queue.grownSize = true

/-- With room for it, a message is dispatched. -/
lemma MessageQueue.HasRoom.dispatch {realloc : Malloc} (h : queue.HasRoom realloc) (time : Nat)
    (message : Message) : (messageQueueDispatch realloc time queue (some message)).1 = true := by
  have hreserve : (messageQueueReserve realloc queue).isSome := by
    unfold messageQueueReserve
    split
    · rename_i hfull
      dsimp only
      rw [h.resolve_left (not_not.mpr hfull), Bool.not_true, if_neg Bool.false_ne_true]
      split <;> rfl
    · rfl
  obtain ⟨queue', hqueue⟩ := Option.isSome_iff_exists.mp hreserve
  rw [messageQueueDispatch, hqueue]

/-- The messages of a queue that is not empty. -/
lemma MessageQueue.InRing.skip (h : queue.InRing) (hsize : 0 < queue.size) :
    queue.skip.InRing ∧ queue.messages = queue.array queue.head :: queue.skip.messages := by
  obtain ⟨n, hn⟩ := Nat.exists_eq_succ_of_ne_zero hsize.ne'
  have hle := h.size_le
  have hpos : 0 < queue.capacity := Nat.zero_lt_of_lt h.head_lt
  refine ⟨⟨Nat.mod_lt _ hpos, ?_, ?_, h.capacity_lt⟩, ?_⟩
  · exact (Nat.sub_le _ _).trans h.size_le
  · rw [MessageQueue.skip]
    dsimp only
    rw [h.tail_eq, Nat.mod_add_mod, hn, Nat.succ_sub_one, Nat.succ_eq_add_one, Nat.add_comm n 1,
      Nat.add_assoc]
  · rw [messages, hn, ringList_succ h.head_lt, messages, MessageQueue.skip]
    dsimp only
    rw [hn, Nat.succ_sub_one, ringList_update_head h.head_lt (by omega)]

/-- A message is removed from a queue that is not empty. -/
lemma MessageQueue.Valid.remove (h : queue.Valid) (hsize : 0 < queue.size) :
    queue.remove.Valid ∧ queue.messages = queue.array queue.head :: queue.remove.messages := by
  obtain ⟨hring, hmessages⟩ := h.skip hsize
  rw [MessageQueue.remove]
  split
  · rename_i hlast
    refine ⟨⟨⟨hring.head_lt, hring.size_le, hring.tail_eq, hring.capacity_lt⟩, ?_⟩, hmessages⟩
    rw [eq_comm, decide_eq_false_iff_not]
    dsimp only
    omega
  · rename_i hmore
    refine ⟨⟨hring, ?_⟩, hmessages⟩
    rw [decide_eq_true (by omega : 0 < queue.skip.size), MessageQueue.skip, h.event_eq,
      decide_eq_true hsize]

/-- The loop of `MessageQueue_Clear` frees all messages in order. -/
lemma MessageQueue.InRing.clearLoop (h : queue.InRing) :
    (messageQueueClearLoop queue.size queue).1 = queue.messages ∧
      (messageQueueClearLoop queue.size queue).2.InRing ∧
      (messageQueueClearLoop queue.size queue).2.size = 0 := by
  obtain ⟨n, hn⟩ : ∃ n, queue.size = n := ⟨_, rfl⟩
  induction n generalizing queue with
  | zero =>
    rw [messages, hn]
    exact ⟨rfl, h, hn⟩
  | succ n ih =>
    obtain ⟨hring, hmessages⟩ := h.skip (by omega)
    have hsize : queue.skip.size = n := by
      rw [MessageQueue.skip]
      dsimp only
      rw [hn, Nat.add_sub_cancel]
    obtain ⟨hloop, hring', hzero⟩ := ih hring hsize
    rw [hsize] at hloop hring' hzero
    rw [hn, messageQueueClearLoop, hmessages]
    exact ⟨congrArg _ hloop, hring', hzero⟩

/-- `MessageQueue_Clear` leaves no message and the event reset. -/
lemma MessageQueue.Valid.clear (h : queue.Valid) :
    (messageQueueClear queue).1 = queue.messages ∧ (messageQueueClear queue).2.Valid ∧
      (messageQueueClear queue).2.messages = [] := by
  obtain ⟨hloop, hring, hzero⟩ := h.clearLoop
  rw [messageQueueClear]
  refine ⟨hloop, ⟨⟨hring.head_lt, hring.size_le, hring.tail_eq, hring.capacity_lt⟩, ?_⟩, ?_⟩
  · rw [eq_comm, decide_eq_false_iff_not]
    dsimp only
    omega
  · rw [messages]
    dsimp only
    rw [hzero]
    rfl

/-! ### Runs -/

/-- A call of a producer or a consumer. -/
inductive QueueCall where
  | dispatch (realloc : Malloc) (time : Nat) (message : Option Message)
  | post (realloc : Malloc) (time context type wParam lParam : Nat)
  | get
  | peek (remove : Bool)
  | clear

/-- A message that has left the queue. -/
inductive Taken where
  | removed (message : Message)
  | cleared (message : Message)

def Taken.message : Taken → Message
  | .removed message => message
  | .cleared message => message

/-- A queue, the messages that were dispatched to it and those that have left it, in order. -/
structure QueueTrace where
  queue : MessageQueue
  dispatched : List Message
  taken : List Taken

/-- A queue that is not yet used. -/
def QueueTrace.new : QueueTrace := ⟨messageQueueNew, [], []⟩

/-- A successful dispatch is traced with its time. -/
def QueueTrace.dispatch (s : QueueTrace) (time : Nat) (message : Option Message)
    (result : Bool × MessageQueue) : QueueTrace :=
  { s with
    queue := result.2
    dispatched := s.dispatched ++
      if result.1 then (message.map fun m => { m with time := time }).toList else [] }

/-- The critical section of a call. -/
def queueStep (s : QueueTrace) : QueueCall → QueueTrace
  | .dispatch realloc time message =>
    s.dispatch time message (messageQueueDispatch realloc time s.queue message)
  | .post realloc time context type wParam lParam =>
    s.dispatch time (some ⟨type, context, wParam, lParam, time, 0⟩)
      (messageQueuePost realloc time s.queue context type wParam lParam)
  | .get =>
    let (_, message, queue) := messageQueueGet s.queue
    { s with queue := queue, taken := s.taken ++ (message.map .removed).toList }
  | .peek remove =>
    let (_, message, queue) := messageQueuePeek s.queue remove
    { s with
      queue := queue
      taken := s.taken ++ if remove then (message.map .removed).toList else [] }
  | .clear =>
    let (messages, queue) := messageQueueClear s.queue
    { s with queue := queue, taken := s.taken ++ messages.map .cleared }

/-- A message is appended if there is room for it. -/
def QueueAccepts (queue : MessageQueue) (realloc : Malloc) (message : Message)
    (result : Bool × MessageQueue) : Prop :=
  queue.HasRoom realloc → result.1 = true ∧ result.2.messages = queue.messages ++ [message]

/-- What a producer puts into the queue, and a consumer gets. -/
def QueueServes (queue : MessageQueue) : QueueCall → Prop
  | .get => messageQueueGet queue = (match queue.messages with
      | [] => (-1, none, queue)
      | message :: _ => (if message.id ≠ WMQ_QUIT then 1 else 0, some message, queue.remove))
  | .peek remove => messageQueuePeek queue remove = (match queue.messages with
      | [] => (0, none, queue)
      | message :: _ => (1, some message, if remove then queue.remove else queue))
  | .clear => (messageQueueClear queue).1 = queue.messages
  | .dispatch realloc time message => ∀ m, message = some m →
      QueueAccepts queue realloc { m with time := time }
        (messageQueueDispatch realloc time queue message)
  | .post realloc time context type wParam lParam =>
      QueueAccepts queue realloc ⟨type, context, wParam, lParam, time, 0⟩
        (messageQueuePost realloc time queue context type wParam lParam)

/-- No message is lost, duplicated or moved, and the event is set if there is one. -/
structure QueueTrace.InOrder (s : QueueTrace) : Prop where
  dispatched : s.dispatched = s.taken.map (·.message) ++ s.queue.messages
  event : s.queue.event = true ↔ s.queue.messages ≠ []

lemma MessageQueue.messages_ne_nil (queue : MessageQueue) :
    queue.messages ≠ [] ↔ 0 < queue.size := by
  rw [← List.length_pos_iff, messages, length_ringList]

/-- The first message of a queue. -/
lemma MessageQueue.Valid.messages_cases (h : queue.Valid) :
    queue.size = 0 ∧ queue.messages = [] ∨
      0 < queue.size ∧ queue.remove.Valid ∧
        queue.messages = queue.array queue.head :: queue.remove.messages := by
  rcases Nat.eq_zero_or_pos queue.size with hzero | hpos
  · refine .inl ⟨hzero, ?_⟩
    rw [messages, hzero]
    rfl
  · exact .inr ⟨hpos, h.remove hpos⟩

lemma MessageQueue.Valid.accepts (h : queue.Valid) (realloc : Malloc) (time : Nat) (m : Message) :
    QueueAccepts queue realloc { m with time := time }
      (messageQueueDispatch realloc time queue (some m)) := by
  intro hroom
  have hok := hroom.dispatch time m
  rcases hdispatch : messageQueueDispatch realloc time queue (some m) with ⟨ok, queue'⟩
  rw [hdispatch] at hok
  obtain ⟨-, ⟨hfailed, -⟩ | ⟨-, m', hm, hmessages⟩⟩ := h.dispatch hdispatch
  · exact absurd (hfailed.symm.trans hok) Bool.false_ne_true
  · obtain rfl := Option.some.inj hm
    exact ⟨hok, hmessages⟩

lemma MessageQueue.Valid.serves (h : queue.Valid) (call : QueueCall) : QueueServes queue call := by
  cases call with
  | dispatch realloc time message =>
    rintro m rfl
    exact h.accepts realloc time m
  | post realloc time context type wParam lParam => exact h.accepts realloc time _
  | get =>
    rw [QueueServes, messageQueueGet]
    rcases h.messages_cases with ⟨hzero, hmessages⟩ | ⟨hpos, -, hmessages⟩
    · rw [hmessages, if_neg (by omega)]
    · rw [hmessages, if_pos hpos]
  | peek remove =>
    rw [QueueServes, messageQueuePeek]
    rcases h.messages_cases with ⟨hzero, hmessages⟩ | ⟨hpos, -, hmessages⟩
    · rw [hmessages, if_neg (by omega)]
    · rw [hmessages, if_pos hpos]
  | clear => exact h.clear.1

/-- The invariant of traces. -/
def QueueTrace.Valid (s : QueueTrace) : Prop :=
  s.queue.Valid ∧ s.dispatched = s.taken.map (·.message) ++ s.queue.messages

lemma QueueTrace.Valid.inOrder {s : QueueTrace} (h : s.Valid) : s.InOrder where
  dispatched := h.2
  event := by rw [h.1.event_eq, decide_eq_true_iff, s.queue.messages_ne_nil]

lemma QueueTrace.Valid.dispatch {s : QueueTrace} (h : s.Valid) (realloc : Malloc) (time : Nat)
    (message : Option Message) :
    (s.dispatch time message (messageQueueDispatch realloc time s.queue message)).Valid := by
  obtain ⟨hqueue, htrace⟩ := h
  rcases hdispatch : messageQueueDispatch realloc time s.queue message with ⟨ok, queue'⟩
  obtain ⟨hvalid, ⟨rfl, rfl⟩ | ⟨rfl, m, rfl, hmessages⟩⟩ := hqueue.dispatch hdispatch
  · exact ⟨hvalid, (List.append_nil _).trans htrace⟩
  · refine ⟨hvalid, ?_⟩
    rw [QueueTrace.dispatch]
    dsimp only
    rw [hmessages, htrace, List.append_assoc]
    rfl

/-- The first message leaves the queue. -/
lemma QueueTrace.Valid.remove {s : QueueTrace} (h : s.Valid) (hpos : 0 < s.queue.size) :
    QueueTrace.Valid { s with
      queue := s.queue.remove
      taken := s.taken ++ [.removed (s.queue.array s.queue.head)] } := by
  obtain ⟨hqueue, htrace⟩ := h
  obtain ⟨hvalid, hmessages⟩ := hqueue.remove hpos
  refine ⟨hvalid, ?_⟩
  rw [htrace, hmessages, List.map_append, List.append_assoc]
  rfl

/-- One critical section. -/
lemma QueueTrace.Valid.step {s : QueueTrace} (h : s.Valid) (call : QueueCall) :
    (queueStep s call).Valid := by
  cases call with
  | dispatch realloc time message => exact h.dispatch realloc time message
  | post realloc time context type wParam lParam => exact h.dispatch realloc time _
  | get =>
    rw [queueStep, messageQueueGet]
    by_cases hpos : 0 < s.queue.size
    · rw [if_pos hpos]
      exact h.remove hpos
    · rw [if_neg hpos]
      exact ⟨h.1, by rw [h.2]; simp⟩
  | peek remove =>
    rw [queueStep, messageQueuePeek]
    by_cases hpos : 0 < s.queue.size
    · rw [if_pos hpos]
      cases remove with
      | true => exact h.remove hpos
      | false => exact ⟨h.1, by rw [h.2]; simp⟩
    · rw [if_neg hpos]
      exact ⟨h.1, by rw [h.2]; simp⟩
  | clear =>
    obtain ⟨hmessages, hvalid, hempty⟩ := h.1.clear
    refine ⟨hvalid, ?_⟩
    rw [queueStep]
    dsimp only
    rw [hempty, hmessages, h.2, List.append_nil, List.map_append, List.map_map]
    congr 1
    exact (List.map_id _).symm

/-- In every run, after every critical section, the dispatched messages are those that have left the
queue and those in it, in this order, and the event is set if and only if there are some in it. A
consumer always gets the first of them. -/
theorem messageQueue_inOrder (calls : List QueueCall) :
    QueueTrace.new.InOrder ∧
      AlongRun queueStep
        (fun s call => QueueServes s.queue call ∧ (queueStep s call).InOrder) .new calls := by
  have hnew : QueueTrace.new.Valid := ⟨MessageQueue.Valid.new, rfl⟩
  refine ⟨hnew.inOrder, alongRun_of_invariant ?_ hnew calls⟩
  intro s call hs
  exact ⟨⟨hs.1.serves call, (hs.step call).inOrder⟩, hs.step call⟩

end FreeRdp
