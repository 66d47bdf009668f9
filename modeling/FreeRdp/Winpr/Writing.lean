import FreeRdp.Winpr.Crt
import FreeRdp.Winpr.Stream

/-!
# Writing to a stream

The buffer of a stream that is written to is as long as the capacity. A function that writes does
not look at the stream: what it does is a list of steps, each of which ensures a capacity, puts
bytes at the position, or gives up.
-/

namespace FreeRdp

/-- An `int` as a `size_t`. -/
def sizeOfInt (n : Int) : Nat := (n % 2 ^ 64).toNat

/-- How a stream has grown: to what is asked for, not for want of memory, or without an end. -/
inductive Growth
  | ready (s : WStream)
  | noMemory
  | endless
  deriving DecidableEq

/-- The stream, if it has grown. -/
def Growth.stream : Growth → Option WStream
  | .ready s => some s
  | _ => none

namespace WStream

/-- The capacity is doubled, once at least, as long as it is below the size. After 64 rounds it is
zero and stays zero. -/
def doubledTo (size : Nat) : Nat → Nat → Option Nat
  | 0, _ => none
  | rounds + 1, capacity =>
    let capacity := capacity * 2 % 2 ^ 64
    if capacity < size then doubledTo size rounds capacity else some capacity

/-- `Stream_EnsureCapacity`. -/
def ensureCapacity (realloc : Malloc) (s : WStream) (size : Nat) : Growth :=
  if s.buffer.length < size then
    match doubledTo size 64 s.buffer.length with
    | none => .endless
    | some capacity =>
      if realloc.succeeds capacity then
        .ready { s with buffer := s.buffer ++ List.replicate (capacity - s.buffer.length) 0 }
      else .noMemory
  else .ready s

/-- `Stream_EnsureRemainingCapacity`. -/
def ensureRemainingCapacity (realloc : Malloc) (s : WStream) (size : Nat) : Growth :=
  if s.buffer.length < (s.pos + size) % 2 ^ 64 then
    s.ensureCapacity realloc ((s.buffer.length + size) % 2 ^ 64)
  else .ready s

end WStream

/-- A step of a function that writes. -/
inductive WriteStep
  | ensure (size : Nat)
  | put (bytes : List UInt8)
  | reject
  deriving DecidableEq, Repr

/-- How a function that writes ends: it returns `TRUE`, it returns `FALSE`, or it does not end. -/
inductive WriteEnd
  | done
  | refused
  | endless
  deriving DecidableEq, Repr

/-- The steps one after the other, until one fails. -/
def runSteps (realloc : Malloc) : List WriteStep → WStream → WriteEnd × WStream
  | [], s => (.done, s)
  | .ensure size :: steps, s =>
    match s.ensureRemainingCapacity realloc size with
    | .ready s => runSteps realloc steps s
    | .noMemory => (.refused, s)
    | .endless => (.endless, s)
  | .put bytes :: steps, s => runSteps realloc steps (s.write bytes)
  | .reject :: _, s => (.refused, s)

/-- The capacity that steps ask for, up to where they give up. -/
def growFor (realloc : Malloc) : List WriteStep → WStream → Growth
  | [], s => .ready s
  | .ensure size :: steps, s =>
    match s.ensureRemainingCapacity realloc size with
    | .ready s => growFor realloc steps s
    | growth => growth
  | .put bytes :: steps, s => growFor realloc steps (s.write bytes)
  | .reject :: _, s => .ready s

/-- The bytes that steps put into the stream. -/
def putBytes : List WriteStep → List UInt8
  | [] => []
  | .ensure _ :: steps => putBytes steps
  | .put bytes :: steps => bytes ++ putBytes steps
  | .reject :: steps => putBytes steps

/-- What steps put into the stream is within its capacity, which nothing checks. -/
def PutsInside (realloc : Malloc) : List WriteStep → WStream → Prop
  | [], _ => True
  | .ensure size :: steps, s =>
    ∀ s', s.ensureRemainingCapacity realloc size = .ready s' → PutsInside realloc steps s'
  | .put bytes :: steps, s =>
    s.pos + bytes.length ≤ s.buffer.length ∧ PutsInside realloc steps (s.write bytes)
  | .reject :: _, _ => True

/-- A step that puts bytes, or gives up. -/
def WriteStep.Plain : WriteStep → Prop
  | .ensure _ => False
  | _ => True

namespace WStream

variable {realloc : Malloc} {s s' : WStream} {size : Nat}

/-- A stream that grows keeps its position and its bytes. -/
lemma ensureCapacity_ready (h : s.ensureCapacity realloc size = .ready s') :
    s'.pos = s.pos ∧ ∃ more, s'.buffer = s.buffer ++ more := by
  unfold ensureCapacity at h
  split at h
  · split at h
    · cases h
    · split at h
      · cases h
        exact ⟨rfl, _, rfl⟩
      · cases h
  · cases h
    exact ⟨rfl, [], (List.append_nil _).symm⟩

lemma ensureRemainingCapacity_ready (h : s.ensureRemainingCapacity realloc size = .ready s') :
    s'.pos = s.pos ∧ ∃ more, s'.buffer = s.buffer ++ more := by
  unfold ensureRemainingCapacity at h
  split at h
  · exact ensureCapacity_ready h
  · cases h
    exact ⟨rfl, [], (List.append_nil _).symm⟩

/-- The bytes before the position. -/
def front (s : WStream) : List UInt8 := s.buffer.take s.pos

/-- The position is within the capacity. -/
def Within (s : WStream) : Prop := s.pos ≤ s.buffer.length

lemma length_front (h : s.Within) : s.front.length = s.pos := by
  rw [front, List.length_take]
  exact Nat.min_eq_left h

lemma Within.ensured (hs : s.Within) (h : s.ensureRemainingCapacity realloc size = .ready s') :
    s'.Within ∧ s'.pos = s.pos ∧ s'.front = s.front := by
  obtain ⟨hpos, more, hbuffer⟩ := ensureRemainingCapacity_ready h
  refine ⟨?_, hpos, ?_⟩
  · rw [Within, hpos, hbuffer, List.length_append]
    exact Nat.le_add_right_of_le hs
  · rw [front, front, hpos, hbuffer, List.take_append_of_le_length hs]

lemma Within.write (hs : s.Within) (bytes : List UInt8) :
    (s.write bytes).Within ∧ (s.write bytes).front = s.front ++ bytes := by
  have hlength : (s.front ++ bytes).length = s.pos + bytes.length := by
    rw [List.length_append, length_front hs]
  refine ⟨?_, ?_⟩
  · show s.pos + bytes.length ≤ (s.front ++ bytes ++ s.buffer.drop _).length
    rw [List.length_append, hlength]
    exact Nat.le_add_right _ _
  · show (s.front ++ bytes ++ s.buffer.drop _).take (s.pos + bytes.length) = _
    rw [← hlength, List.take_left]

/-- Doubling reaches any size that is not near the largest one. -/
lemma doubledTo_eq_some {size rounds capacity : Nat} (hrounds : 0 < rounds) (hpos : 0 < capacity)
    (hcapacity : capacity < 2 ^ 62) (hsize : size < 2 ^ 62) (hreach : size ≤ capacity * 2 ^ rounds) :
    ∃ c, doubledTo size rounds capacity = some c ∧ size ≤ c ∧ capacity ≤ c ∧
      c ≤ 2 * max capacity size := by
  induction rounds generalizing capacity with
  | zero => exact absurd hrounds (lt_irrefl 0)
  | succ rounds ih =>
    have hdouble : capacity * 2 % 2 ^ 64 = capacity * 2 := Nat.mod_eq_of_lt (by omega)
    simp only [doubledTo, hdouble]
    rcases Nat.lt_or_ge (capacity * 2) size with hlt | hge
    · rw [if_pos hlt]
      have hreach' : size ≤ capacity * 2 * 2 ^ rounds := by
        rw [mul_assoc, ← pow_succ']
        exact hreach
      have hmore : 0 < rounds := by
        rcases Nat.eq_zero_or_pos rounds with rfl | hmore
        · omega
        · exact hmore
      obtain ⟨c, hc, hle, hle', hmax⟩ := ih hmore (by omega) (by omega) hreach'
      exact ⟨c, hc, hle, by omega, by omega⟩
    · rw [if_neg (not_lt.mpr hge)]
      exact ⟨_, rfl, hge, by omega, by omega⟩

/-- With memory for it, a stream grows as far as is needed, and not much further. -/
lemma ensureRemainingCapacity_grows (hrealloc : ∀ n ≤ SSIZE_MAX, realloc.succeeds n = true)
    (hs : s.Within) (hpos : 0 < s.buffer.length) (hcapacity : s.buffer.length ≤ 2 ^ 60)
    (hsize : s.pos + size ≤ 2 ^ 60) :
    ∃ s', s.ensureRemainingCapacity realloc size = .ready s' ∧
      s.pos + size ≤ s'.buffer.length ∧ s.buffer.length ≤ s'.buffer.length ∧
      s'.buffer.length ≤ max s.buffer.length (4 * (s.pos + size)) := by
  have hmod : (s.pos + size) % 2 ^ 64 = s.pos + size := Nat.mod_eq_of_lt (by omega)
  have hmod' : (s.buffer.length + size) % 2 ^ 64 = s.buffer.length + size :=
    Nat.mod_eq_of_lt (by omega)
  rw [ensureRemainingCapacity, hmod, hmod']
  rcases Nat.lt_or_ge s.buffer.length (s.pos + size) with hlt | hge
  · have hpos' : s.pos ≤ s.buffer.length := hs
    have hreach : s.buffer.length + size ≤ s.buffer.length * 2 ^ 64 := by omega
    obtain ⟨c, hc, hle, hle', hmax⟩ := doubledTo_eq_some (by norm_num : 0 < 64) hpos
      (by omega) (by omega) hreach
    have hsucceeds : realloc.succeeds c = true := hrealloc c (by rw [SSIZE_MAX]; omega)
    rw [if_pos hlt, ensureCapacity, if_pos (by omega), hc]
    simp only [hsucceeds, if_true]
    refine ⟨_, rfl, ?_⟩
    simp only [List.length_append, List.length_replicate]
    omega
  · rw [if_neg (not_lt.mpr hge)]
    exact ⟨s, rfl, hge, le_rfl, le_max_left _ _⟩

/-- A stream that has the room stays as it is. -/
lemma ensureRemainingCapacity_of_room (h : s.pos + size ≤ s.buffer.length) :
    s.ensureRemainingCapacity realloc size = .ready s :=
  if_neg (not_lt.mpr ((Nat.mod_le _ _).trans h))

lemma le_of_doubledTo {rounds capacity c : Nat} (h : doubledTo size rounds capacity = some c) :
    size ≤ c := by
  induction rounds generalizing capacity with
  | zero => cases h
  | succ rounds ih =>
    rw [doubledTo] at h
    split at h
    · exact ih h
    · cases h
      omega

/-- A stream that has grown has the room. -/
lemma Within.room_of_ready (hs : s.Within) (hlt : s.buffer.length + size < 2 ^ 64)
    (h : s.ensureRemainingCapacity realloc size = .ready s') : s.pos + size ≤ s'.buffer.length := by
  have hpos : s.pos ≤ s.buffer.length := hs
  rw [ensureRemainingCapacity, Nat.mod_eq_of_lt (by omega), Nat.mod_eq_of_lt hlt] at h
  split at h
  · rw [ensureCapacity] at h
    split at h
    · split at h
      · cases h
      · rename_i capacity hcapacity
        have hle := le_of_doubledTo hcapacity
        split at h
        · cases h
          simp only [List.length_append, List.length_replicate]
          omega
        · cases h
    · cases h
      omega
  · cases h
    omega

lemma length_write_of_room {bytes : List UInt8} (h : s.pos + bytes.length ≤ s.buffer.length) :
    (s.write bytes).buffer.length = s.buffer.length := by
  simp only [WStream.write, List.length_append, List.length_take, List.length_drop]
  omega

/-- Bytes over a gap before the position. -/
lemma front_fill {front gap body : List UInt8} {pos : Nat} (hs : s.Within)
    (hfront : s.front = front ++ gap ++ body) (hpos : pos = front.length) {bytes : List UInt8}
    (hgap : gap.length = bytes.length) :
    (((s.setPosition pos).write bytes).setPosition s.pos).front = front ++ bytes ++ body := by
  have hlength := congrArg List.length hfront
  rw [length_front hs] at hlength
  have hbuffer : s.buffer = front ++ gap ++ body ++ s.buffer.drop s.pos := by
    rw [← hfront, WStream.front, List.take_append_drop]
  have htake : s.buffer.take front.length = front := by
    rw [hbuffer, List.append_assoc, List.append_assoc, List.take_left]
  have hdrop : s.buffer.drop (front.length + bytes.length) = body ++ s.buffer.drop s.pos := by
    rw [← hgap, ← List.length_append]
    nth_rewrite 1 [hbuffer]
    rw [List.append_assoc, List.drop_left]
  subst hpos
  simp only [WStream.write, setPosition, WStream.front]
  rw [htake, hdrop, ← List.append_assoc, List.take_left']
  simp only [List.length_append] at hlength ⊢
  omega

/-- Passing over room that there is. -/
lemma Within.seek (hs : s.pos + size ≤ s.buffer.length) : (s.seek size).Within := hs

/-- The stream is used within its capacity, and this is not so large that it could not be doubled. -/
structure Roomy (s : WStream) : Prop where
  within : s.Within
  pos : 0 < s.buffer.length
  capacity : s.buffer.length ≤ 2 ^ 40

lemma Roomy.restart (h : s.Roomy) : (s.setPosition 0).Roomy :=
  ⟨Nat.zero_le _, h.pos, h.capacity⟩

/-- Bytes that the capacity has room for. -/
lemma Roomy.write (h : s.Roomy) (bytes : List UInt8)
    (hroom : s.pos + bytes.length ≤ s.buffer.length) :
    (s.write bytes).Roomy ∧ (s.write bytes).front = s.front ++ bytes ∧
      (s.write bytes).buffer.length = s.buffer.length := by
  obtain ⟨hwithin, hfront⟩ := h.within.write bytes
  have hlength := length_write_of_room hroom
  exact ⟨⟨hwithin, hlength ▸ h.pos, hlength ▸ h.capacity⟩, hfront, hlength⟩

/-- There is memory for another `n` bytes. -/
lemma Roomy.ensured (h : s.Roomy) (hrealloc : ∀ n ≤ SSIZE_MAX, realloc.succeeds n = true)
    {n : Nat} (hn : s.pos + n ≤ 2 ^ 33) :
    ∃ s', (s.ensureRemainingCapacity realloc n).stream = some s' ∧ s'.Roomy ∧
      s'.pos = s.pos ∧ s'.front = s.front ∧ s.pos + n ≤ s'.buffer.length := by
  have hcapacity := h.capacity
  obtain ⟨s', hready, hroom, hle, hmax⟩ := WStream.ensureRemainingCapacity_grows hrealloc h.within
    h.pos (by omega) (show s.pos + n ≤ 2 ^ 60 by omega)
  obtain ⟨hwithin, hpos, hfront⟩ := h.within.ensured hready
  refine ⟨s', by rw [hready]; rfl, ⟨hwithin, h.pos.trans_le hle, ?_⟩, hpos, hfront, hroom⟩
  omega

end WStream

section Runs

variable {realloc : Malloc} {s : WStream} {steps : List WriteStep}

/-- Steps never move back. -/
lemma runSteps_pos_le (realloc : Malloc) (steps : List WriteStep) (s : WStream) :
    s.pos ≤ (runSteps realloc steps s).2.pos := by
  induction steps generalizing s with
  | nil => exact le_rfl
  | cons step steps ih =>
    cases step with
    | ensure size =>
      rw [runSteps]
      split
      · rename_i s' hready
        rw [← (WStream.ensureRemainingCapacity_ready hready).1]
        exact ih s'
      · exact le_rfl
      · exact le_rfl
    | put bytes =>
      have hle := ih (s.write bytes)
      exact (Nat.le_add_right _ _).trans hle
    | reject => exact le_rfl

/-- Steps are refused where there is no memory, or else where one of them gives up. -/
lemma runSteps_refused_iff : (runSteps realloc steps s).1 = .refused ↔
    growFor realloc steps s = .noMemory ∨
      (∃ s', growFor realloc steps s = .ready s') ∧ .reject ∈ steps := by
  induction steps generalizing s with
  | nil => simp [runSteps, growFor]
  | cons step steps ih =>
    cases step with
    | ensure size =>
      rw [runSteps, growFor]
      rcases s.ensureRemainingCapacity realloc size with s' | _ | _
      · simpa using ih
      · simp
      · simp
    | put bytes => simpa [runSteps, growFor] using ih
    | reject => simp [runSteps, growFor]

/-- Steps that have been done have put their bytes behind the others. -/
lemma runSteps_done {s' : WStream} (hs : s.Within) (h : runSteps realloc steps s = (.done, s')) :
    s'.Within ∧ s'.front = s.front ++ putBytes steps ∧ .reject ∉ steps := by
  induction steps generalizing s with
  | nil =>
    cases h
    exact ⟨hs, (List.append_nil _).symm, List.not_mem_nil⟩
  | cons step steps ih =>
    cases step with
    | ensure size =>
      rw [runSteps] at h
      split at h
      · rename_i t hready
        obtain ⟨hwithin, -, hfront⟩ := hs.ensured hready
        obtain ⟨hs', hfront', hreject⟩ := ih hwithin h
        exact ⟨hs', by rw [hfront', hfront]; rfl, by simpa using hreject⟩
      · cases h
      · cases h
    | put bytes =>
      obtain ⟨hwithin, hfront⟩ := hs.write bytes
      obtain ⟨hs', hfront', hreject⟩ := ih hwithin h
      exact ⟨hs', by rw [hfront', hfront, List.append_assoc]; rfl, by simpa using hreject⟩
    | reject => cases h

/-- Steps that only put bytes are done, and stay inside if there is room for all of them. -/
lemma runSteps_plain (hplain : ∀ step ∈ steps, step.Plain) (hreject : .reject ∉ steps) :
    ∃ s', runSteps realloc steps s = (.done, s') := by
  induction steps generalizing s with
  | nil => exact ⟨s, rfl⟩
  | cons step steps ih =>
    cases step with
    | ensure size => exact absurd (hplain _ List.mem_cons_self) id
    | put bytes =>
      exact ih (fun step hstep => hplain step (List.mem_cons_of_mem _ hstep))
        (fun hmem => hreject (List.mem_cons_of_mem _ hmem))
    | reject => exact absurd List.mem_cons_self hreject

lemma putsInside_plain_iff (hplain : ∀ step ∈ steps, step.Plain) (hreject : .reject ∉ steps)
    (hs : s.Within) :
    PutsInside realloc steps s ↔ s.pos + (putBytes steps).length ≤ s.buffer.length := by
  induction steps generalizing s with
  | nil => exact iff_of_true trivial hs
  | cons step steps ih =>
    cases step with
    | ensure size => exact absurd (hplain _ List.mem_cons_self) id
    | put bytes =>
      have hrest := @ih (s.write bytes)
        (fun step hstep => hplain step (List.mem_cons_of_mem _ hstep))
        (fun hmem => hreject (List.mem_cons_of_mem _ hmem)) (hs.write bytes).1
      have hpos : (s.write bytes).pos = s.pos + bytes.length := rfl
      rw [PutsInside, putBytes, List.length_append, hrest, hpos]
      constructor
      · rintro ⟨hroom, hall⟩
        rw [WStream.length_write_of_room hroom] at hall
        omega
      · intro hall
        have hroom : s.pos + bytes.length ≤ s.buffer.length := by omega
        rw [WStream.length_write_of_room hroom]
        exact ⟨hroom, by omega⟩
    | reject => exact absurd List.mem_cons_self hreject

end Runs

end FreeRdp
