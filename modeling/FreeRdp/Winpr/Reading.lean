import FreeRdp.Library.Attempts
import FreeRdp.Library.Readers
import FreeRdp.Winpr.Stream

/-!
# Reading what has been written

A parser gets a value from some bytes if it does so wherever they stand in a stream, and moves
behind them. The same is said of a reader that fills in a record. Both go together with the
appending of bytes. Where it matters how far a parser gets that fails, it is an attempt on the stream.
-/

namespace FreeRdp

variable {α β : Type}

/-- The parser makes `a` of the bytes, and leaves what comes behind them. -/
def Parses (p : WStream → Option (α × WStream)) (bytes : List UInt8) (a : α) : Prop :=
  ∀ s rest, s.unread = bytes ++ rest → p s = some (a, s.seek bytes.length)

/-- The reader makes `a'` of the record `a` with the bytes, and leaves what comes behind them. -/
def Reader.Reads (r : Reader WStream α) (bytes : List UInt8) (a a' : α) : Prop :=
  ∀ s rest, s.unread = bytes ++ rest → r a s = (a', some (s.seek bytes.length))

/-- One parser after another. -/
def parseThen (p : WStream → Option (α × WStream)) (f : α → WStream → Option (β × WStream))
    (s : WStream) : Option (β × WStream) :=
  match p s with
  | none => none
  | some (a, s) => f a s

open WStream

section Parses

variable {p : WStream → Option (α × WStream)} {f : α → WStream → Option (β × WStream)}
  {bs bs' : List UInt8} {a : α} {b : β}

lemma Parses.andThen (hp : Parses p bs a) (hf : Parses (f a) bs' b) :
    Parses (parseThen p f) (bs ++ bs') b := by
  intro s rest hs
  rw [List.append_assoc] at hs
  rw [parseThen, hp s _ hs]
  show f a (s.seek bs.length) = _
  rw [hf (s.seek bs.length) rest (unread_seek_append hs rfl), seek_seek, List.length_append]

end Parses

namespace Reader

variable {r : Reader WStream α} {rs : List (Reader WStream α)} {bs bs' : List UInt8} {a a' a'' : α}

lemma reads_skip (a : α) : (skip : Reader WStream α).Reads [] a a := fun _ _ _ => rfl

lemma Reads.andThen {r' : Reader WStream α} (h : r.Reads bs a a') (h' : r'.Reads bs' a' a'') :
    (r.andThen r').Reads (bs ++ bs') a a'' := by
  intro s rest hs
  rw [List.append_assoc] at hs
  rw [Reader.andThen, h s _ hs]
  show r' a' (s.seek bs.length) = _
  rw [h' (s.seek bs.length) rest (unread_seek_append hs rfl), seek_seek, List.length_append]

lemma reads_nil (a : α) : (all [] : Reader WStream α).Reads [] a a := reads_skip a

lemma Reads.cons (h : r.Reads bs a a') (h' : (all rs).Reads bs' a' a'') :
    (all (r :: rs)).Reads (bs ++ bs') a a'' :=
  h.andThen h'

lemma Reads.into {m : Member α β} {r : Reader WStream β} {v : β} (h : r.Reads bs (m.get a) v) :
    (into m r).Reads bs a (m.set a v) := by
  intro s rest hs
  rw [Reader.into, h s rest hs]

lemma Reads.choose {f : α → Reader WStream α} (h : (f a).Reads bs a a') :
    (choose f).Reads bs a a' := h

/-- What is read with a parser is not stored. -/
def discard (p : WStream → Option (β × WStream)) : Reader WStream α := fun a s =>
  (a, (p s).map Prod.snd)

lemma reads_discard {p : WStream → Option (β × WStream)} {b : β} (h : Parses p bs b) (a : α) :
    (discard p).Reads bs a a := by
  intro s rest hs
  rw [discard, h s rest hs]
  rfl

/-- The value of a parser is stored in place of the record. -/
def store (p : WStream → Option (β × WStream)) (f : β → α) : Reader WStream α := fun a s =>
  match p s with
  | none => (a, none)
  | some (b, s) => (f b, some s)

lemma reads_store {p : WStream → Option (β × WStream)} {b : β} (h : Parses p bs b) (f : β → α)
    (a : α) : (store p f).Reads bs a (f b) := by
  intro s rest hs
  rw [store, h s rest hs]

end Reader

/-! ### Attempts on a stream -/

namespace Attempt

/-- The attempt makes `a` of the bytes, and leaves what comes behind them. -/
def Reads (m : Attempt WStream α) (bytes : List UInt8) (a : α) : Prop :=
  ∀ s rest, s.unread = bytes ++ rest → m s = (some a, s.seek bytes.length)

/-- The attempt makes `a` of the bytes and does not go beyond them. -/
def Gets (m : Attempt WStream α) (bytes : List UInt8) (a : α) : Prop :=
  ∀ s rest, s.unread = bytes ++ rest → ∃ n ≤ bytes.length, m s = (some a, s.seek n)

/-- On a stream with these bytes, and no others, the attempt has a result. -/
def Finishes (m : Attempt WStream α) (bytes : List UInt8) (a : α) : Prop :=
  ∀ s, s.unread = bytes → (m s).1 = some a

/-- The check that `n` bytes are left. -/
def need (n : Nat) : Attempt WStream Unit := fun s =>
  (if s.remainingLength < n then none else some (), s)

/-- `Stream_Read_UINT8`. -/
def takeUInt8 : Attempt WStream Nat := fun s => (some s.readUInt8.1, s.readUInt8.2)

/-- `Stream_Read_UINT16`. -/
def takeUInt16 : Attempt WStream Nat := fun s => (some s.readUInt16.1, s.readUInt16.2)

/-- `Stream_Read_UINT32`. -/
def takeUInt32 : Attempt WStream Nat := fun s => (some s.readUInt32.1, s.readUInt32.2)

/-- `Stream_Read`. -/
def takeBytes (n : Nat) : Attempt WStream (List UInt8) := fun s => (some (s.read n).1, (s.read n).2)

section Reads

variable {m : Attempt WStream α} {f : α → Attempt WStream β} {bs bs' : List UInt8} {a : α} {b : β}

lemma reads_pure (a : α) : (pure a : Attempt WStream α).Reads [] a := fun _ _ _ => rfl

/-- What comes behind a reading. -/
lemma Reads.bind_apply (hm : m.Reads bs a) {s : WStream} {rest : List UInt8}
    (hs : s.unread = bs ++ rest) : (m >>= f) s = f a (s.seek bs.length) := by
  show Attempt.andThen m f s = _
  unfold Attempt.andThen
  rw [hm s rest hs]

lemma Reads.bind (hm : m.Reads bs a) (hf : (f a).Reads bs' b) : (m >>= f).Reads (bs ++ bs') b := by
  intro s rest hs
  rw [List.append_assoc] at hs
  rw [hm.bind_apply hs, hf (s.seek bs.length) rest (unread_seek_append hs rfl), seek_seek,
    List.length_append]

lemma Reads.unique {a' : α} (h : m.Reads bs a) (h' : m.Reads bs a') : a = a' := by
  have hs : (ofBytes bs).unread = bs ++ [] := by
    rw [unread_ofBytes, List.append_nil]
  have heq := (h _ [] hs).symm.trans (h' _ [] hs)
  exact Option.some.inj (Prod.mk.inj heq).1

lemma Reads.gets (h : m.Reads bs a) : m.Gets bs a := fun s rest hs =>
  ⟨bs.length, le_rfl, h s rest hs⟩

lemma Reads.bind_gets (hm : m.Reads bs a) (hf : (f a).Gets bs' b) :
    (m >>= f).Gets (bs ++ bs') b := by
  intro s rest hs
  rw [List.append_assoc] at hs
  obtain ⟨n, hn, hgot⟩ := hf (s.seek bs.length) rest (unread_seek_append hs rfl)
  refine ⟨bs.length + n, ?_, ?_⟩
  · rw [List.length_append]
    omega
  · rw [hm.bind_apply hs, hgot, seek_seek]

lemma Gets.map (h : m.Gets bs a) (g : α → β) :
    (do pure (g (← m)) : Attempt WStream β).Gets bs (g a) := by
  intro s rest hs
  obtain ⟨n, hn, hgot⟩ := h s rest hs
  refine ⟨n, hn, ?_⟩
  show Attempt.andThen m _ s = _
  unfold Attempt.andThen
  rw [hgot]
  rfl

lemma Reads.map (h : m.Reads bs a) (g : α → β) :
    (do pure (g (← m)) : Attempt WStream β).Reads bs (g a) := by
  rw [← List.append_nil bs]
  exact h.bind (reads_pure (g a))

lemma reads_require_bind {c : Bool} {k : Unit → Attempt WStream β} (hc : c = true)
    (hk : (k ()).Reads bs b) : (require c >>= k).Reads bs b := by
  subst hc
  exact hk

lemma need_bind_apply {n : Nat} {k : Unit → Attempt WStream β} {s : WStream}
    (h : n ≤ s.remainingLength) : (need n >>= k) s = k () s := by
  have hneed : need n s = (some (), s) := by
    rw [need, if_neg (by omega)]
  show Attempt.andThen (need n) k s = _
  unfold Attempt.andThen
  rw [hneed]

lemma need_bind_fails {n : Nat} {k : Unit → Attempt WStream β} {s : WStream}
    (h : s.remainingLength < n) : (need n >>= k) s = (none, s) := by
  have hneed : need n s = (none, s) := by
    rw [need, if_pos h]
  show Attempt.andThen (need n) k s = _
  unfold Attempt.andThen
  rw [hneed]

/-- A check for bytes that are there. -/
lemma reads_need_bind {n : Nat} {k : Unit → Attempt WStream β} (hn : n ≤ bs.length)
    (hk : (k ()).Reads bs b) : (need n >>= k).Reads bs b := by
  intro s rest hs
  have hremaining := remainingLength_of_unread hs
  rw [need_bind_apply (by omega), hk s rest hs]

lemma gets_need_bind {n : Nat} {k : Unit → Attempt WStream β} (hn : n ≤ bs.length)
    (hk : (k ()).Gets bs b) : (need n >>= k).Gets bs b := by
  intro s rest hs
  have hremaining := remainingLength_of_unread hs
  rw [need_bind_apply (by omega)]
  exact hk s rest hs

/-- Elements one after the other. -/
lemma reads_times {γ : Type} {xs : List γ} {w : γ → List UInt8} {g : γ → α}
    (h : ∀ x ∈ xs, m.Reads (w x) (g x)) :
    (times m xs.length).Reads (xs.flatMap w) (xs.map g) := by
  induction xs with
  | nil => exact reads_pure []
  | cons x xs ih =>
    have htail := ih fun y hy => h y (List.mem_cons_of_mem x hy)
    rw [List.flatMap_cons, List.length_cons, List.map_cons]
    refine (h x List.mem_cons_self).bind ?_
    rw [← List.append_nil (xs.flatMap w)]
    exact htail.bind (reads_pure _)

lemma reads_takeUInt8 {v : Nat} (hv : v < 2 ^ 8) : takeUInt8.Reads (bytesUInt8 v) v := by
  intro s rest hs
  rw [takeUInt8, readUInt8_bytes hs hv]
  rfl

/-- Only the low byte is written. -/
lemma reads_takeUInt8_mod (v : Nat) : takeUInt8.Reads (bytesUInt8 v) (v % 2 ^ 8) := by
  have hbytes : bytesUInt8 v = bytesUInt8 (v % 2 ^ 8) := congrArg (fun b => [b])
    UInt8.ofNat_mod_size.symm
  rw [hbytes]
  exact reads_takeUInt8 (by omega)

lemma reads_takeUInt16 {v : Nat} (hv : v < 2 ^ 16) : takeUInt16.Reads (bytesUInt16 v) v := by
  intro s rest hs
  rw [takeUInt16, readUInt16_bytes hs hv]
  rfl

lemma reads_takeUInt32 {v : Nat} (hv : v < 2 ^ 32) : takeUInt32.Reads (bytesUInt32 v) v := by
  intro s rest hs
  rw [takeUInt32, readUInt32_bytes hs hv]
  rfl

lemma finishes_pure (a : α) : (pure a : Attempt WStream α).Finishes bs a := fun _ _ => rfl

lemma Reads.bind_finishes (hm : m.Reads bs a) (hf : (f a).Finishes bs' b) :
    (m >>= f).Finishes (bs ++ bs') b := by
  intro s hs
  rw [hm.bind_apply hs]
  exact hf _ (unread_seek_append hs rfl)

lemma reads_takeBytes {bytes : List UInt8} {n : Nat} (hn : bytes.length = n) :
    (takeBytes n).Reads bytes bytes := by
  intro s rest hs
  rw [takeBytes, read_of_unread hs hn, hn]

end Reads

/-! ### Attempts as parsers -/

/-- The parser that an attempt is, but for what it leaves where it fails. -/
def toParser (m : Attempt WStream α) (s : WStream) : Option (α × WStream) :=
  (m s).1.map (·, (m s).2)

/-- A parser that leaves the stream as it is where it fails. -/
def ofParser (p : WStream → Option (α × WStream)) : Attempt WStream α := fun s =>
  match p s with
  | none => (none, s)
  | some (a, s') => (some a, s')

section Parser

variable {m : Attempt WStream α} {f : α → Attempt WStream β} {bs : List UInt8} {a : α}

/-- What an attempt reads, it reads as a parser. -/
lemma reads_iff_parses : m.Reads bs a ↔ Parses m.toParser bs a := by
  refine forall_congr' fun s => forall_congr' fun rest => imp_congr_right fun _ => ?_
  unfold toParser
  rcases m s with ⟨_ | a', s'⟩
  · exact iff_of_false (fun h => nomatch h) (fun h => nomatch h)
  · show (some a', s') = (some a, _) ↔ some (a', s') = some (a, _)
    simp only [Prod.mk.injEq, Option.some.injEq]

lemma toParser_ofParser (p : WStream → Option (α × WStream)) : (ofParser p).toParser = p := by
  funext s
  unfold toParser ofParser
  rcases p s with _ | ⟨a, s'⟩ <;> rfl

lemma toParser_bind (m : Attempt WStream α) (f : α → Attempt WStream β) :
    (m >>= f).toParser = parseThen m.toParser fun a => (f a).toParser := by
  funext s
  show (Attempt.andThen m f s).1.map (·, (Attempt.andThen m f s).2) = _
  unfold Attempt.andThen parseThen toParser
  rcases m s with ⟨_ | a, s'⟩ <;> rfl

lemma toParser_need_bind (n : Nat) (k : Unit → Attempt WStream β) (s : WStream) :
    (need n >>= k).toParser s = if s.remainingLength < n then none else (k ()).toParser s := by
  unfold toParser
  split
  · rename_i h
    rw [need_bind_fails h]
    rfl
  · rename_i h
    rw [need_bind_apply (Nat.not_lt.mp h)]

lemma toParser_require_bind (c : Bool) (k : Unit → Attempt WStream β) (s : WStream) :
    (require c >>= k).toParser s = if c then (k ()).toParser s else none := by
  cases c <;> rfl

lemma toParser_ite (c : Prop) [Decidable c] (m m' : Attempt WStream α) (s : WStream) :
    (if c then m else m').toParser s = if c then m.toParser s else m'.toParser s := by
  split <;> rfl

end Parser

/-! What is read is in its range. -/

lemma ensures_takeUInt8 : takeUInt8.Ensures fun v => v < 2 ^ 8 := by
  intro s v s' hs
  cases hs
  exact UInt8.toNat_lt _

lemma ensures_takeUInt16 : takeUInt16.Ensures fun v => v < 2 ^ 16 := by
  intro s v s' hs
  cases hs
  have h : s.byteAt 0 < 2 ^ 8 := UInt8.toNat_lt _
  have h' : s.byteAt 1 < 2 ^ 8 := UInt8.toNat_lt _
  show s.byteAt 0 + s.byteAt 1 <<< 8 < 2 ^ 16
  rw [Nat.shiftLeft_eq]
  omega

end Attempt

end FreeRdp
