import FreeRdp.Core.Orders.Runs

/-!
# Counts and arrays of the drawn orders

A multi order has a count and an array of 45 rectangles, a polygon or polyline a count and an
allocated array of points. Count and array are fields of their own, and an order that is refused
leaves behind what it has stored. The counts of the drawn orders are right in a run where every
count of rectangles that comes in is at most 45, and where points that have been allocated are all
there.
-/

namespace FreeRdp

/-! ### Where the fields are -/

/-- What a field takes in the stream. -/
inductive FieldWidth
  | coord
  | bytes (n : Nat)
  deriving DecidableEq

/-- The number of bytes of a field; a difference of coordinates has one. -/
def FieldWidth.size (deltaCoordinates : Bool) : FieldWidth → Nat
  | .coord => if deltaCoordinates then 1 else 2
  | .bytes n => n

/-- The fields of a brush. -/
def brushFields : List FieldWidth := [.bytes 1, .bytes 1, .bytes 1, .bytes 1, .bytes 7]

/-- The fields in front of the count. -/
def frontFields : OrderType → List FieldWidth
  | .multiDstblt => [.coord, .coord, .coord, .coord, .bytes 1]
  | .multiPatblt => [.coord, .coord, .coord, .coord, .bytes 1, .bytes 3, .bytes 3] ++ brushFields
  | .multiScrblt => [.coord, .coord, .coord, .coord, .bytes 1, .coord, .coord]
  | .multiOpaqueRect => [.coord, .coord, .coord, .coord, .bytes 1, .bytes 1, .bytes 1]
  | .multiDrawNineGrid => [.coord, .coord, .coord, .coord, .bytes 2]
  | .polyline => [.coord, .coord, .bytes 1, .bytes 2, .bytes 3]
  | .polygonSc => [.coord, .coord, .bytes 1, .bytes 1, .bytes 3]
  | .polygonCb => [.coord, .coord, .bytes 1, .bytes 1, .bytes 3, .bytes 3] ++ brushFields
  | _ => []

/-- The bytes of the fields that are there, from field `number` on. -/
def fieldsSize (info : OrderInfo) : Nat → List FieldWidth → Nat
  | _, [] => 0
  | number, w :: ws =>
    (if orderFieldFlagIsSet info.fieldFlags number then w.size info.deltaCoordinates else 0) +
      fieldsSize info (number + 1) ws

/-- The number of the field with the count. -/
def countNumber (t : OrderType) : Nat := (frontFields t).length + 1

/-- The place of the count. -/
def countOffset (info : OrderInfo) (t : OrderType) : Nat := fieldsSize info 1 (frontFields t)

/-- A reader that leaves a part of the record alone and takes `n` bytes. -/
def Reader.Passes {α β : Type} (r : Reader WStream α) (g : α → β) (n : Nat) : Prop :=
  ∀ a s, g (r a s).1 = g a ∧ ∀ s', (r a s).2 = some s' → s' = s.seek n

section Passes

variable {α β γ : Type} {g : α → β} {info : OrderInfo} {number : Nat}

lemma WStream.byteAt_seek (s : WStream) (n i : Nat) : (s.seek n).byteAt i = s.byteAt (n + i) := by
  unfold WStream.byteAt WStream.seek
  rw [Nat.add_assoc]

lemma Reader.passes_nil : (Reader.all []).Passes g 0 := by
  intro a s
  refine ⟨rfl, ?_⟩
  rintro s' ⟨⟩
  rfl

lemma Reader.Passes.andThen {r r' : Reader WStream α} {n k : Nat} (hr : r.Passes g n)
    (hr' : r'.Passes g k) : (r.andThen r').Passes g (n + k) := by
  intro a s
  obtain ⟨hkeeps, htakes⟩ := hr a s
  unfold Reader.andThen
  rcases hra : r a s with ⟨a', _ | s₁⟩ <;> rw [hra] at hkeeps htakes
  · exact ⟨hkeeps, fun s' hs' => nomatch hs'⟩
  · obtain ⟨hkeeps', htakes'⟩ := hr' a' s₁
    refine ⟨hkeeps'.trans hkeeps, fun s' hs' => ?_⟩
    rw [htakes' s' hs', htakes s₁ rfl, WStream.seek_seek]

/-- What holds where the front readers fail, and where the others go on behind the `n` bytes. -/
lemma Reader.Passes.elim {L rs : List (Reader WStream α)} {n : Nat} {a : α} {s : WStream}
    {P : α × Option WStream → Prop} (h : (Reader.all L).Passes g n)
    (hfail : ∀ a', g a' = g a → P (a', none))
    (hrest : ∀ a', (Reader.all L a s).2 = some (s.seek n) → g a' = g a →
      P (Reader.all rs a' (s.seek n))) :
    P (Reader.all (L ++ rs) a s) := by
  rw [Reader.all_append]
  obtain ⟨hkeeps, htakes⟩ := h a s
  unfold Reader.andThen
  rcases ha : Reader.all L a s with ⟨a', _ | s₁⟩ <;> rw [ha] at hkeeps htakes hrest
  · exact hfail a' hkeeps
  · obtain rfl := htakes s₁ rfl
    exact hrest a' rfl hkeeps

/-- Where the readers behind `n` bytes end, they have been reached. -/
lemma Reader.Passes.andThen_some {r r' : Reader WStream α} {n : Nat} {a : α} {s s' : WStream}
    (hr : r.Passes g n) (h : (r.andThen r' a s).2 = some s') :
    ∃ a', g a' = g a ∧ (r' a' (s.seek n)).2 = some s' := by
  obtain ⟨hkeeps, htakes⟩ := hr a s
  unfold Reader.andThen at h
  rcases hra : r a s with ⟨a', _ | s₁⟩ <;> rw [hra] at hkeeps htakes h
  · exact nomatch h
  · obtain rfl := htakes s₁ rfl
    exact ⟨a', hkeeps, h⟩

/-- A field is there if its flag is set. -/
lemma Reader.Passes.when {r : Reader WStream α} {n : Nat} (h : r.Passes g n) (c : Bool) :
    (Reader.when c r).Passes g (if c then n else 0) := by
  cases c with
  | false => exact Reader.passes_nil
  | true => exact h

lemma Reader.passes_into {m : Member α γ} {r : Reader WStream γ} {n : Nat}
    (h : ∀ v s s', (r v s).2 = some s' → s' = s.seek n) (hm : ∀ a v, g (m.set a v) = g a) :
    (Reader.into m r).Passes g n := fun a s => ⟨hm a _, h _ s⟩

lemma readValue_takes (n : Nat) (value : WStream → γ) (v : γ) (s s' : WStream)
    (h : (readValue n value v s).2 = some s') : s' = s.seek n := by
  unfold readValue at h
  split at h
  · cases h
  · exact (Option.some.inj h).symm

lemma updateReadCoord_takes (delta : Bool) (v : Int) (s s' : WStream)
    (h : (updateReadCoord delta v s).2 = some s') : s' = s.seek (FieldWidth.coord.size delta) := by
  unfold updateReadCoord at h
  cases delta with
  | false =>
    rw [if_neg Bool.false_ne_true] at h
    exact readValue_takes 2 _ v s s' h
  | true =>
    rw [if_pos rfl] at h
    exact readValue_takes 1 _ v s s' h

lemma readColorByte_takes (mask shift v : Nat) (s s' : WStream)
    (h : (readColorByte mask shift v s).2 = some s') : s' = s.seek 1 :=
  readValue_takes 1 _ v s s' h

/-- The fields of an order one after another. -/
lemma Reader.Passes.cons {w : FieldWidth} {ws : List FieldWidth} {r : Reader WStream α}
    {rs : List (Reader WStream α)}
    (hr : r.Passes g (if orderFieldFlagIsSet info.fieldFlags number then
      w.size info.deltaCoordinates else 0))
    (hrs : (Reader.all rs).Passes g (fieldsSize info (number + 1) ws)) :
    (Reader.all (r :: rs)).Passes g (fieldsSize info number (w :: ws)) :=
  hr.andThen hrs

lemma passes_field {w : FieldWidth} {m : Member α γ} {r : Reader WStream γ}
    (h : ∀ v s s', (r v s).2 = some s' → s' = s.seek (w.size info.deltaCoordinates))
    (hm : ∀ a v, g (m.set a v) = g a) :
    (readOrderField info number m r).Passes g (if orderFieldFlagIsSet info.fieldFlags number then
      w.size info.deltaCoordinates else 0) :=
  (Reader.passes_into h hm).when _

lemma passes_coord {m : Member α Int} (hm : ∀ a v, g (m.set a v) = g a) :
    (readOrderFieldCoord info number m).Passes g (if orderFieldFlagIsSet info.fieldFlags number then
      FieldWidth.coord.size info.deltaCoordinates else 0) :=
  passes_field (updateReadCoord_takes info.deltaCoordinates) hm

lemma passes_bytes {n : Nat} {value : WStream → γ} {m : Member α γ}
    (hm : ∀ a v, g (m.set a v) = g a) :
    (readOrderField info number m (readValue n value)).Passes g
      (if orderFieldFlagIsSet info.fieldFlags number then
        (FieldWidth.bytes n).size info.deltaCoordinates else 0) :=
  passes_field (w := .bytes n) (readValue_takes n value) hm

lemma passes_colorByte {mask shift : Nat} {m : Member α Nat} (hm : ∀ a v, g (m.set a v) = g a) :
    (readOrderField info number m (readColorByte mask shift)).Passes g
      (if orderFieldFlagIsSet info.fieldFlags number then
        (FieldWidth.bytes 1).size info.deltaCoordinates else 0) :=
  passes_field (w := .bytes 1) (readColorByte_takes mask shift) hm

/-! ### Brushes -/

lemma orderFieldFlagIsSet_eq (fieldFlags number : Nat) :
    orderFieldFlagIsSet fieldFlags number = fieldFlags.testBit (number - 1) := by
  unfold orderFieldFlagIsSet
  rw [Nat.one_shiftLeft, Nat.and_two_pow]
  cases fieldFlags.testBit (number - 1) <;> simp

/-- The flags of a brush are the flags of the order behind field `k`. -/
lemma brushFlag_eq (fieldFlags k i : Nat) (hi : 1 ≤ i) (hi' : i ≤ 8) :
    orderFieldFlagIsSet ((fieldFlags >>> k) % 256) i = orderFieldFlagIsSet fieldFlags (k + i) := by
  rw [orderFieldFlagIsSet_eq, orderFieldFlagIsSet_eq, show 256 = 2 ^ 8 from rfl,
    Nat.testBit_mod_two_pow, Nat.testBit_shiftRight, Nat.add_sub_assoc hi,
    decide_eq_true (by omega), Bool.true_and]

lemma updateReadCachedBrush_takes (b : Brush) (s s' : WStream)
    (h : (updateReadCachedBrush b s).2 = some s') : s' = s := by
  unfold updateReadCachedBrush at h
  split at h
  · split at h
    · cases h
    · exact (Option.some.inj h).symm
  · exact (Option.some.inj h).symm

/-- A brush takes the bytes of its fields. -/
lemma passes_updateReadBrush (fieldFlags : Nat) :
    (updateReadBrush fieldFlags).Passes (fun _ => ())
      (fieldsSize (brushInfo fieldFlags) 1 brushFields) := by
  unfold updateReadBrush
  iterate 4
    refine Reader.Passes.cons (w := .bytes 1)
      ((Reader.passes_into (readValue_takes 1 _) fun _ _ => rfl).when _) ?_
  have hcached : updateReadCachedBrush.Passes (fun _ => ()) 0 := fun b s =>
    ⟨rfl, updateReadCachedBrush_takes b s⟩
  have hpattern : updateReadPattern.Passes (fun _ => ()) 7 := fun b s =>
    ⟨rfl, readValue_takes 7 _ b s⟩
  rw [← Nat.zero_add (fieldsSize _ _ _)]
  refine hcached.andThen (Reader.Passes.cons (w := .bytes 7) ?_ Reader.passes_nil)
  exact hpattern.when _

lemma fieldsSize_brush (k : Nat) : ∀ ws : List FieldWidth, FieldWidth.coord ∉ ws →
    ∀ i, 1 ≤ i → i + ws.length ≤ 9 →
      fieldsSize (brushInfo ((info.fieldFlags >>> k) % 256)) i ws = fieldsSize info (k + i) ws
  | [], _, _, _, _ => rfl
  | .coord :: ws, hws, _, _, _ => absurd (List.mem_cons_self ..) hws
  | .bytes n :: ws, hws, i, hi, hi' => by
    rw [List.length_cons] at hi'
    rw [fieldsSize, fieldsSize, Nat.add_assoc k i 1,
      fieldsSize_brush k ws (List.not_mem_of_not_mem_cons hws) (i + 1) (by omega) (by omega),
      show (brushInfo ((info.fieldFlags >>> k) % 256)).fieldFlags = (info.fieldFlags >>> k) % 256
        from rfl, brushFlag_eq _ _ _ hi (by omega)]
    rfl

/-- A cached brush whose style has no depth is refused. -/
def brushRefused (style : Nat) : Bool := style &&& CACHED_BRUSH ≠ 0 && (getBmfBpp style).isNone

lemma brushRefused_of_cached {b : Brush} {s s' : WStream}
    (h : (updateReadCachedBrush b s).2 = some s') : brushRefused b.style = false := by
  unfold updateReadCachedBrush at h
  unfold brushRefused
  split at h
  · split at h
    · cases h
    · rename_i hbpp
      rw [hbpp, Option.isNone_some, Bool.and_false]
  · rename_i hstyle
    rw [decide_eq_false hstyle, Bool.false_and]

/-- A value that is read if its flag is set. -/
lemma when_into_get {m : Member α γ} {c : Bool} {n : Nat} {value : WStream → γ} {a : α}
    {s s' : WStream} (h : (Reader.when c (.into m (readValue n value)) a s).2 = some s') :
    m.get (Reader.when c (.into m (readValue n value)) a s).1 =
      if c then value s else m.get a := by
  cases c with
  | false => rfl
  | true =>
    rw [if_pos rfl, show Reader.when true (.into m (readValue n value)) a s =
      (m.set a (readValue n value (m.get a) s).1, (readValue n value (m.get a) s).2) from rfl] at *
    rw [m.get_set]
    unfold readValue at h ⊢
    split at h
    · cases h
    · rename_i hlength
      rw [if_neg hlength]

/-- The style of a brush that is not refused, as it is in the stream or in the record. -/
lemma updateReadBrush_style {fieldFlags : Nat} {b : Brush} {s s' : WStream} :
    (updateReadBrush fieldFlags b s).2 = some s' →
    brushRefused (if orderFieldFlagIsSet fieldFlags 3 then
      s.byteAt (fieldsSize (brushInfo fieldFlags) 1 [.bytes 1, .bytes 1]) else b.style) = false := by
  refine Reader.Passes.elim (L := [_, _]) (g := Brush.style)
    (n := fieldsSize (brushInfo fieldFlags) 1 [.bytes 1, .bytes 1])
    (P := fun q => q.2 = some s' → brushRefused _ = false) ?_ ?_ ?_
  · iterate 2
      refine Reader.Passes.cons (w := .bytes 1)
        ((Reader.passes_into (readValue_takes 1 _) fun _ _ => rfl).when _) ?_
    exact Reader.passes_nil
  · rintro b' - ⟨⟩
  intro b₁ _ hstyle h
  obtain ⟨s₁, h₁, h⟩ := Reader.andThen_some h
  obtain ⟨s₂, -, h⟩ := Reader.andThen_some h
  obtain ⟨s₃, h₃, -⟩ := Reader.andThen_some h
  have hcached := brushRefused_of_cached h₃
  have hget := when_into_get h₁
  dsimp only at hget
  rw [((Reader.keeps_into _ fun _ _ => rfl).when _ _ _ :
    Brush.style (Reader.when _ (.into _ _) _ s₁).1 = _), hget, hstyle] at hcached
  exact hcached

end Passes

/-! ### Points that are all there -/

/-- The bytes behind a difference: it has one byte, or two if the first one has the high bit. -/
def skipDelta : List UInt8 → Option (List UInt8)
  | [] => none
  | b :: l => if b.toNat < 0x80 then some l else if l = [] then none else some l.tail

/-- The stream has `n` coordinates, from number `j` on. Each has a zero bit, and where this bit is
not set, a difference. -/
def deltasFit (zeroBits : Nat → Nat) : Nat → Nat → List UInt8 → Bool
  | 0, _, _ => true
  | n + 1, j, l =>
    if (zeroBits (j / 8)).testBit (7 - j % 8) then deltasFit zeroBits n (j + 1) l
    else (skipDelta l).any (deltasFit zeroBits n (j + 1))

/-- The stream has the zero bits and the coordinates of `num` points. -/
def deltaPointsFit (num : Nat) (s : WStream) : Bool :=
  (num + 3) / 4 ≤ s.remainingLength && deltasFit s.byteAt (2 * num) 0 (s.seek ((num + 3) / 4)).unread

lemma zeroBit_eq (z i k : Nat) (hk : k ≤ i) (hi : i < 8) :
    zeroBit ((z <<< k) % 256) (2 ^ i) = z.testBit (i - k) := by
  unfold zeroBit
  rw [Nat.and_two_pow, show 256 = 2 ^ 8 from rfl, Nat.testBit_mod_two_pow, Nat.testBit_shiftLeft,
    decide_eq_true hi, decide_eq_true hk, Bool.true_and, Bool.true_and]
  cases z.testBit (i - k) <;> simp

lemma updateReadDelta_unread (v : Int) (s : WStream) :
    (updateReadDelta v s).2.map WStream.unread = skipDelta s.unread := by
  unfold updateReadDelta
  rw [WStream.remainingLength_eq]
  rcases hs : s.unread with _ | ⟨b, l⟩
  · rfl
  rw [if_neg (by simp), WStream.readUInt8_of_unread hs]
  have hhigh : b.toNat &&& 0x80 ≠ 0 ↔ ¬ b.toNat < 0x80 := by
    rw [toNat_and_128_ne_zero, Nat.not_lt]
  dsimp only
  rw [WStream.remainingLength_eq, WStream.unread_seek_one hs]
  simp only [skipDelta, hhigh]
  by_cases hb : b.toNat < 0x80
  · rw [if_neg (not_not.mpr hb), if_pos hb]
    exact congrArg some (WStream.unread_seek_one hs)
  · rw [if_pos hb, if_neg hb]
    cases l with
    | nil => rfl
    | cons b' l =>
      rw [if_neg (by simp), if_neg (List.cons_ne_nil b' l)]
      simp [hs]

/-- A coordinate of a point, if its zero bit is not set. -/
lemma updateReadDelta_when_unread {α : Type} (c : Bool) (m : Member α Int) (a : α) (s : WStream) :
    (Reader.when (!c) (.into m updateReadDelta) a s).2.map WStream.unread =
      if c then some s.unread else skipDelta s.unread := by
  cases c with
  | false => exact updateReadDelta_unread (m.get a) s
  | true => rfl

lemma updateReadDeltaPoint_unread (flags : Nat) (p : DeltaPoint) (s : WStream) :
    (updateReadDeltaPoint flags p s).2.map WStream.unread =
      (if zeroBit flags 0x80 then some s.unread else skipDelta s.unread).bind (fun l =>
        if zeroBit flags 0x40 then some l else skipDelta l) := by
  have hx := updateReadDelta_when_unread (zeroBit flags 0x80)
    DeltaPoint.xMember p s
  have hy := updateReadDelta_when_unread (zeroBit flags 0x40)
    DeltaPoint.yMember
  unfold updateReadDeltaPoint
  rw [← hx, Option.bind_map, Reader.all, Reader.andThen_snd, Option.map_bind]
  congr 1
  funext s₁
  rw [Function.comp_apply, Reader.all, Reader.andThen_snd]
  exact (congrArg (Option.map _) (Option.bind_fun_some _)).trans (hy _ s₁)

/-- The second coordinate of point `i`. -/
private lemma deltasFit_succ_odd (zeroBits : Nat → Nat) (n i : Nat) (l : List UInt8) :
    deltasFit zeroBits (n + 1) (2 * i + 1) l =
      (if (zeroBits (i / 4)).testBit (6 - 2 * (i % 4)) then some l else skipDelta l).any
        (deltasFit zeroBits n (2 * (i + 1))) := by
  have hindex : (2 * i + 1) / 8 = i / 4 := by omega
  have hbit : 7 - (2 * i + 1) % 8 = 6 - 2 * (i % 4) := by omega
  rw [deltasFit, hindex, hbit]
  split <;> rfl

lemma updateReadDeltaPointsLoop_isSome (zeroBits : Nat → Nat) (n i : Nat) (s : WStream) :
    (updateReadDeltaPointsLoop zeroBits n i s).2.isSome =
      deltasFit zeroBits (2 * n) (2 * i) s.unread := by
  induction n generalizing i s with
  | zero => rfl
  | succ n ih =>
    have hindex : 2 * i / 8 = i / 4 := by omega
    have hbit : 7 - 2 * i % 8 = 7 - 2 * (i % 4) := by omega
    have hx := zeroBit_eq (zeroBits (i / 4)) 7 (2 * (i % 4)) (by omega) (by omega)
    have hy := zeroBit_eq (zeroBits (i / 4)) 6 (2 * (i % 4)) (by omega) (by omega)
    have hpoint := updateReadDeltaPoint_unread ((zeroBits (i / 4) <<< (2 * (i % 4))) % 256)
      default s
    have hfit : deltasFit zeroBits (2 * (n + 1)) (2 * i) s.unread =
        ((updateReadDeltaPoint ((zeroBits (i / 4) <<< (2 * (i % 4))) % 256) default s).2.map
          WStream.unread).any (deltasFit zeroBits (2 * n) (2 * (i + 1))) := by
      rw [hpoint, show (0x80 : Nat) = 2 ^ 7 from rfl, show (0x40 : Nat) = 2 ^ 6 from rfl, hx, hy,
        show 2 * (n + 1) = 2 * n + 1 + 1 by omega, deltasFit, hindex, hbit]
      cases (zeroBits (i / 4)).testBit (7 - 2 * (i % 4)) with
      | true =>
        rw [if_pos rfl, if_pos rfl, Option.bind_some, deltasFit_succ_odd]
      | false =>
        rw [if_neg Bool.false_ne_true, if_neg Bool.false_ne_true, Option.any_bind]
        exact congrArg (fun p => (skipDelta s.unread).any p)
          (funext fun l => deltasFit_succ_odd zeroBits (2 * n) i l)
    rw [hfit, updateReadDeltaPointsLoop]
    dsimp only
    rcases updateReadDeltaPoint ((zeroBits (i / 4) <<< (2 * (i % 4))) % 256) default s with
      ⟨point, _ | s₁⟩
    · rfl
    · exact ih (i + 1) s₁

lemma updateReadDeltaPointsLoop_length (zeroBits : Nat → Nat) (n i : Nat) (s : WStream) :
    (updateReadDeltaPointsLoop zeroBits n i s).1.length = n := by
  induction n generalizing i s with
  | zero => rfl
  | succ n ih =>
    rw [updateReadDeltaPointsLoop]
    dsimp only
    rcases updateReadDeltaPoint ((zeroBits (i / 4) <<< (2 * (i % 4))) % 256) default s with
      ⟨point, _ | s₁⟩
    · exact congrArg (· + 1) List.length_replicate
    · exact congrArg (· + 1) (ih (i + 1) s₁)

/-- Points that are all there are read, and they are `num`. -/
lemma updateReadDeltaPoints_of_fit {num : Nat} {s : WStream} (h : deltaPointsFit num s = true)
    (points : List DeltaPoint) :
    (updateReadDeltaPoints num points s).1.length = num ∧
      (updateReadDeltaPoints num points s).2.isSome := by
  unfold deltaPointsFit at h
  obtain ⟨hlength, hdeltas⟩ := (Bool.and_eq_true _ _).mp h
  unfold updateReadDeltaPoints
  dsimp only
  rw [if_neg (Nat.not_lt.mpr (of_decide_eq_true hlength)), updateReadDeltaPointsLoop_isSome]
  exact ⟨updateReadDeltaPointsLoop_length _ _ _ _, hdeltas⟩

/-! ### Counts -/

section Counts

variable {α : Type} {info : OrderInfo} {number n : Nat}

lemma readOrderFieldByte_get (info : OrderInfo) (number : Nat) (m : Member α Nat) (a : α)
    (s : WStream) :
    m.get (readOrderFieldByte info number m a s).1 = m.get a ∨
      orderFieldFlagIsSet info.fieldFlags number = true ∧
        m.get (readOrderFieldByte info number m a s).1 = s.byteAt 0 := by
  unfold readOrderFieldByte readOrderField
  cases orderFieldFlagIsSet info.fieldFlags number with
  | false => exact .inl rfl
  | true =>
    rw [Reader.when, if_pos rfl, Reader.into, m.get_set]
    unfold readValue
    split
    · exact .inl rfl
    · exact .inr ⟨rfl, rfl⟩

/-- The count of a multi order is the old one or the one in the stream. -/
lemma multi_count {L : List (Reader WStream α)} {count cbData : Member α Nat}
    {rectangles : Member α (Vector DeltaRect 45)} (hfront : (Reader.all L).Passes count.get n)
    (hcbData : ∀ a v, count.get (cbData.set a v) = count.get a)
    (hrectangles : ∀ a v, count.get (rectangles.set a v) = count.get a) (a : α) (s : WStream) :
    let a' := (Reader.all (L ++ [readOrderFieldByte info number count,
      readRects info (number + 1) count cbData rectangles]) a s).1
    count.get a' = count.get a ∨ orderFieldFlagIsSet info.fieldFlags number = true ∧
      (Reader.all L a s).2 = some (s.seek n) ∧ count.get a' = s.byteAt n := by
  have hrects : (readRects info (number + 1) count cbData rectangles).Keeps count.get := by
    refine Reader.Keeps.when ?_ _
    refine (Reader.keeps_into _ hcbData).andThen (Reader.Keeps.andThen ?_ (Reader.keeps_skip _))
    exact fun a s => hrectangles a _
  refine Reader.Passes.elim (P := fun q => count.get q.1 = _ ∨ _ ∧ _ ∧ count.get q.1 = _) hfront
    (fun a' ha' => .inl ha') ?_
  intro a' hread ha'
  have hafter := (hrects.andThen (Reader.keeps_skip _)).after
    (readOrderFieldByte info number count) a' (s.seek n)
  rcases readOrderFieldByte_get info number count a' (s.seek n) with hold | ⟨hset, hnew⟩
  · exact .inl (hafter.trans (hold.trans ha'))
  · exact .inr ⟨hset, hread, hafter.trans hnew⟩

/-- What an order does to a count and its points: nothing, and then it has no points or is refused,
or it is not refused and stores as many points as it says. -/
def PointsRead (isSet : Bool) (old new : Nat × List DeltaPoint) (accepted : Bool) : Prop :=
  new = old ∧ (isSet = true → accepted = false) ∨
    isSet = true ∧ accepted = true ∧ new.2.length = new.1

/-- The points of an order are missing before anything is allocated for them, or they are all
there. -/
def PointsThere (num : Nat) (s : WStream) : Prop :=
  num = 0 ∨ s.remainingLength < 1 ∨ deltaPointsFit num (s.seek 1) = true

instance (num : Nat) (s : WStream) : Decidable (PointsThere num s) :=
  inferInstanceAs (Decidable (_ ∨ _ ∨ _))

section Points

variable {count cbData : Member α Nat} {points : Member α (List DeltaPoint)}

lemma readPoints_read {num : Nat} (hcount : ∀ a v, count.get (cbData.set a v) = count.get a)
    (hpoints : ∀ a v, points.get (cbData.set a v) = points.get a)
    (hcount' : ∀ a v, count.get (points.set a v) = count.get a) {a : α} {s : WStream}
    (hfit : orderFieldFlagIsSet info.fieldFlags number = true → PointsThere num s) :
    PointsRead (orderFieldFlagIsSet info.fieldFlags number) (count.get a, points.get a)
      (count.get (readPoints info number num count cbData points a s).1,
        points.get (readPoints info number num count cbData points a s).1)
      (readPoints info number num count cbData points a s).2.isSome := by
  unfold readPoints
  revert hfit
  cases orderFieldFlagIsSet info.fieldFlags number with
  | false => exact fun _ => .inl ⟨rfl, fun h => nomatch h⟩
  | true =>
    intro hfit
    rw [Reader.when, if_pos rfl, Reader.all, Reader.andThen, Reader.check]
    by_cases hnum : num = 0
    · rw [if_neg (by simp [hnum])]
      exact .inl ⟨rfl, fun _ => rfl⟩
    rw [if_pos (by simp [hnum])]
    dsimp only
    rw [Reader.all, Reader.andThen, Reader.into, readValue]
    by_cases hlength : s.remainingLength < 1
    · rw [if_pos hlength]
      exact .inl ⟨by rw [hcount, hpoints], fun _ => rfl⟩
    rw [if_neg hlength]
    have hdeltas : deltaPointsFit num (s.seek 1) = true :=
      ((hfit rfl).resolve_left hnum).resolve_left hlength
    dsimp only
    rw [Reader.all, Reader.andThen, Reader.assign]
    dsimp only
    rw [Reader.all_singleton, Reader.into]
    dsimp only
    rw [hcount', count.get_set, points.get_set]
    obtain ⟨hlen, hsome⟩ := updateReadDeltaPoints_of_fit hdeltas _
    exact .inr ⟨rfl, hsome, hlen⟩

/-- A byte that is read if its flag is set. -/
lemma readOrderFieldByte_cases (info : OrderInfo) (number : Nat) (m : Member α Nat) (a : α)
    (s : WStream) :
    readOrderFieldByte info number m a s = (a, none) ∨
      readOrderFieldByte info number m a s =
        if orderFieldFlagIsSet info.fieldFlags number then (m.set a (s.byteAt 0), some (s.seek 1))
        else (a, some s) := by
  unfold readOrderFieldByte readOrderField
  cases orderFieldFlagIsSet info.fieldFlags number with
  | false => exact .inr rfl
  | true =>
    rw [Reader.when, if_pos rfl, Reader.into]
    unfold readValue
    split
    · exact .inl (by rw [m.set_get])
    · exact .inr rfl

/-- The count of the points an order has and where they are. -/
def pointsAt (info : OrderInfo) (number n old : Nat) (s : WStream) : Nat × WStream :=
  if orderFieldFlagIsSet info.fieldFlags number then (s.byteAt n, s.seek (n + 1))
  else (old, s.seek n)

/-- A record beside a local count. -/
abbrev fstMember : Member (α × Nat) α := .mk (·.1) fun p v => (v, p.2)

/-- A local count. -/
abbrev sndMember : Member (α × Nat) Nat := .mk (·.2) fun p v => (p.1, v)

/-- The points of a polygon or polyline. -/
lemma poly_points (count : Member α Nat) (points : Member α (List DeltaPoint))
    {L tail : List (Reader WStream (α × Nat))} {a : α} {s : WStream}
    (hfit : (Reader.all L (a, count.get a) s).2 = some (s.seek n) →
      orderFieldFlagIsSet info.fieldFlags (number + 1) = true →
        PointsThere (pointsAt info number n (count.get a) s).1
          (pointsAt info number n (count.get a) s).2)
    (hfront : (Reader.all L).Passes (fun p => ((count.get p.1, points.get p.1), p.2)) n)
    (hcount : ∀ a v, count.get (cbData.set a v) = count.get a)
    (hpoints : ∀ a v, points.get (cbData.set a v) = points.get a)
    (hcount' : ∀ a v, count.get (points.set a v) = count.get a)
    (htail : (Reader.all tail).Keeps (fun p => (count.get p.1, points.get p.1)))
    (htail' : ∀ p s, (Reader.all tail p s).2 = some s) :
    let q := withLocal count (Reader.all (L ++ readOrderFieldByte info number
      (.mk (·.2) fun p v => (p.1, v)) :: .choose (fun p => .into (.mk (·.1) fun p v => (v, p.2))
        (readPoints info (number + 1) p.2 count cbData points)) :: tail)) a s
    PointsRead (orderFieldFlagIsSet info.fieldFlags (number + 1)) (count.get a, points.get a)
      (count.get q.1, points.get q.1) q.2.isSome := by
  refine Reader.Passes.elim (P := fun q => PointsRead _ _ (count.get q.1.1, points.get q.1.1)
    q.2.isSome) hfront ?_ ?_
  · intro p hp
    exact .inl ⟨congrArg Prod.fst hp, fun _ => rfl⟩
  intro p hread hp
  have hold : (count.get p.1, points.get p.1) = (count.get a, points.get a) := congrArg Prod.fst hp
  have hlocal : p.2 = count.get a := congrArg Prod.snd hp
  rw [Reader.all, Reader.andThen]
  rcases readOrderFieldByte_cases info number sndMember p (s.seek n) with hbyte | hbyte
  · rw [hbyte]
    exact .inl ⟨hold, fun _ => rfl⟩
  have hat : readOrderFieldByte info number sndMember p (s.seek n) =
      ((p.1, (pointsAt info number n (count.get a) s).1),
        some (pointsAt info number n (count.get a) s).2) := by
    rw [hbyte]
    unfold pointsAt
    split
    · rfl
    · rw [← hlocal]
  rw [hat]
  dsimp only
  have hpart := readPoints_read hcount hpoints hcount' (a := p.1) (hfit hread)
  rw [hold] at hpart
  have hkeeps := htail.after (.choose (fun p => .into fstMember
    (readPoints info (number + 1) p.2 count cbData points)))
    (p.1, (pointsAt info number n (count.get a) s).1) (pointsAt info number n (count.get a) s).2
  rw [Reader.all, hkeeps, Reader.andThen_snd]
  simp only [htail', Option.bind_fun_some]
  exact hpart

end Points

end Counts

/-! ### The counts of the records -/

/-- The numbers of points that were decoded last. -/
structure DecodedPoints where
  polyline : Nat
  polygonSc : Nat
  polygonCb : Nat
  deriving DecidableEq, Repr

/-- The numbers after an order of which all fields have been decoded. -/
def decodedPoints (p : PrimaryUpdate) (d : DecodedPoints) : DecodedPoints :=
  let isSet number := orderFieldFlagIsSet p.orderInfo.fieldFlags number
  match OrderType.ofCode p.orderInfo.orderType with
  | some .polyline => if isSet 7 then { d with polyline := p.polyline.points.length } else d
  | some .polygonSc => if isSet 7 then { d with polygonSc := p.polygonSc.points.length } else d
  | some .polygonCb => if isSet 13 then { d with polygonCb := p.polygonCb.points.length } else d
  | _ => d

/-- The count of a record: there are at most 45 rectangles, and as many points as were allocated and
decoded last. -/
def ConsistentCount (p : PrimaryUpdate) (d : DecodedPoints) : OrderType → Prop
  | .multiDstblt => p.multiDstblt.numRectangles ≤ 45
  | .multiPatblt => p.multiPatblt.numRectangles ≤ 45
  | .multiScrblt => p.multiScrblt.numRectangles ≤ 45
  | .multiOpaqueRect => p.multiOpaqueRect.numRectangles ≤ 45
  | .multiDrawNineGrid => p.multiDrawNineGrid.nDeltaEntries ≤ 45
  | .polyline => p.polyline.numDeltaEntries = d.polyline ∧ p.polyline.points.length = d.polyline
  | .polygonSc => p.polygonSc.numPoints = d.polygonSc ∧ p.polygonSc.points.length = d.polygonSc
  | .polygonCb => p.polygonCb.numPoints = d.polygonCb ∧ p.polygonCb.points.length = d.polygonCb
  | _ => True

/-- The counts of all records. -/
structure ConsistentCounts (p : PrimaryUpdate) (d : DecodedPoints) : Prop where
  multiDstblt : ConsistentCount p d .multiDstblt
  multiPatblt : ConsistentCount p d .multiPatblt
  multiScrblt : ConsistentCount p d .multiScrblt
  multiOpaqueRect : ConsistentCount p d .multiOpaqueRect
  multiDrawNineGrid : ConsistentCount p d .multiDrawNineGrid
  polyline : ConsistentCount p d .polyline
  polygonSc : ConsistentCount p d .polygonSc
  polygonCb : ConsistentCount p d .polygonCb

/-- The style of the brush of an order, which is field `number`. -/
def brushStyle (info : OrderInfo) (t : OrderType) (number old : Nat) (s : WStream) : Nat :=
  if orderFieldFlagIsSet info.fieldFlags number then
    s.byteAt (fieldsSize info 1 ((frontFields t).take (number - 1)))
  else old

/-- The count of rectangles in the stream is at most 45. -/
def rectanglesFit (info : OrderInfo) (t : OrderType) (s : WStream) : Bool :=
  !orderFieldFlagIsSet info.fieldFlags (countNumber t) || s.byteAt (countOffset info t) ≤ 45

/-- The points in the stream are missing before anything is allocated, or they are all there. -/
def pointsFit (info : OrderInfo) (t : OrderType) (old : Nat) (s : WStream) : Bool :=
  let (num, rest) := pointsAt info (countNumber t) (countOffset info t) old s
  !orderFieldFlagIsSet info.fieldFlags (countNumber t + 1) || decide (PointsThere num rest)

/-- The counts of an order fit, unless its brush is refused before them. -/
def countsFit (p : PrimaryUpdate) (info : OrderInfo) (s : WStream) : Bool :=
  match OrderType.ofCode info.orderType with
  | some .multiDstblt => rectanglesFit info .multiDstblt s
  | some .multiPatblt =>
    brushRefused (brushStyle info .multiPatblt 10 p.multiPatblt.brush.style s) ||
      rectanglesFit info .multiPatblt s
  | some .multiScrblt => rectanglesFit info .multiScrblt s
  | some .multiOpaqueRect => rectanglesFit info .multiOpaqueRect s
  | some .multiDrawNineGrid => rectanglesFit info .multiDrawNineGrid s
  | some .polyline => pointsFit info .polyline p.polyline.numDeltaEntries s
  | some .polygonSc => pointsFit info .polygonSc p.polygonSc.numPoints s
  | some .polygonCb =>
    brushRefused (brushStyle info .polygonCb 9 p.polygonCb.brush.style s) ||
      pointsFit info .polygonCb p.polygonCb.numPoints s
  | _ => true

section Records

variable {info : OrderInfo} {s : WStream}

/-- A count of rectangles that fits stays at most 45. -/
lemma multi_count_le {α : Type} {t : OrderType} {L : List (Reader WStream α)}
    (count : Member α Nat) {cbData : Member α Nat} {rectangles : Member α (Vector DeltaRect 45)}
    {a : α} (ha : count.get a ≤ 45)
    (hfit : (Reader.all L a s).2 = some (s.seek (countOffset info t)) →
      rectanglesFit info t s = true)
    (hfront : (Reader.all L).Passes count.get (countOffset info t))
    (hcbData : ∀ a v, count.get (cbData.set a v) = count.get a)
    (hrectangles : ∀ a v, count.get (rectangles.set a v) = count.get a) :
    count.get (Reader.all (L ++ [readOrderFieldByte info (countNumber t) count,
      readRects info (countNumber t + 1) count cbData rectangles]) a s).1 ≤ 45 := by
  rcases multi_count hfront hcbData hrectangles a s with hold | ⟨hset, hread, hnew⟩
  · rw [hold]
    exact ha
  · have hle := hfit hread
    rw [rectanglesFit, hset, Bool.not_true, Bool.false_or] at hle
    rw [hnew]
    exact of_decide_eq_true hle

/-- The brush behind the fields in front of it. -/
lemma passes_brush {α β : Type} {g : α → β} {k : Nat} {m : Member α Brush}
    (hm : ∀ a v, g (m.set a v) = g a) :
    (Reader.all [Reader.into m (updateReadBrush ((info.fieldFlags >>> k) % 256))]).Passes g
      (fieldsSize info (k + 1) brushFields) := by
  rw [Reader.all_singleton,
    ← fieldsSize_brush k brushFields (by decide) 1 (Nat.le_refl 1) (by decide)]
  exact Reader.passes_into (fun v s => (passes_updateReadBrush _ v s).2) hm

lemma fieldsSize_append (info : OrderInfo) (ws ws' : List FieldWidth) (number : Nat) :
    fieldsSize info number (ws ++ ws') =
      fieldsSize info number ws + fieldsSize info (number + ws.length) ws' := by
  induction ws generalizing number with
  | nil => rw [List.nil_append, fieldsSize, List.length_nil, Nat.zero_add, Nat.add_zero]
  | cons w ws ih =>
    rw [List.cons_append, fieldsSize, fieldsSize, ih, List.length_cons, Nat.add_right_comm,
      Nat.add_assoc number]
    exact (Nat.add_assoc _ _ _).symm

/-- The style of a brush that is accepted behind the fields in front of it. -/
lemma brush_of_front {α : Type} {t : OrderType} {L : List (Reader WStream α)} {m : Member α Brush}
    (ws : List FieldWidth) (hws : frontFields t = ws ++ brushFields) {a : α} {s' : WStream}
    (hfront : (Reader.all L).Passes (fun a => (m.get a).style) (fieldsSize info 1 ws)) :
    (Reader.all (L ++ [Reader.into m
        (updateReadBrush ((info.fieldFlags >>> ws.length) % 256))]) a s).2 = some s' →
      brushRefused (brushStyle info t (ws.length + 3) (m.get a).style s) = false := by
  rw [Reader.all_append]
  intro h
  obtain ⟨a', ha', h⟩ := hfront.andThen_some h
  rw [Reader.all_singleton] at h
  have hstyle := updateReadBrush_style (s := s.seek (fieldsSize info 1 ws)) h
  rw [brushFlag_eq _ _ _ (by omega) (by omega),
    fieldsSize_brush ws.length _ (by decide) 1 (Nat.le_refl 1) (by decide), ha',
    WStream.byteAt_seek, Nat.add_comm ws.length 1, ← fieldsSize_append] at hstyle
  have htake : (frontFields t).take (ws.length + 3 - 1) =
      ws ++ [FieldWidth.bytes 1, FieldWidth.bytes 1] := by
    rw [hws, show ws.length + 3 - 1 = ws.length + 2 from rfl, List.take_length_add_append]
    rfl
  rw [brushStyle, htake]
  exact hstyle

lemma updateReadMultiDstbltOrder_count {o : MultiDstbltOrder} (ho : o.numRectangles ≤ 45)
    (hfit : rectanglesFit info .multiDstblt s = true) :
    (updateReadMultiDstbltOrder info o s).1.numRectangles ≤ 45 := by
  refine multi_count_le MultiDstbltOrder.countMember (L := [_, _, _, _, _])
    (t := .multiDstblt) ?_ (fun _ => hfit) ?_ ?_ ?_
  · exact ho
  · iterate 4 refine Reader.Passes.cons (passes_coord fun _ _ => rfl) ?_
    exact Reader.Passes.cons (passes_bytes fun _ _ => rfl) Reader.passes_nil
  · exact fun _ _ => rfl
  · exact fun _ _ => rfl

lemma updateReadMultiScrbltOrder_count {o : MultiScrbltOrder} (ho : o.numRectangles ≤ 45)
    (hfit : rectanglesFit info .multiScrblt s = true) :
    (updateReadMultiScrbltOrder info o s).1.numRectangles ≤ 45 := by
  refine multi_count_le MultiScrbltOrder.countMember (L := [_, _, _, _, _, _, _])
    (t := .multiScrblt) ?_ (fun _ => hfit) ?_ ?_ ?_
  · exact ho
  · iterate 4 refine Reader.Passes.cons (passes_coord fun _ _ => rfl) ?_
    refine Reader.Passes.cons (passes_bytes fun _ _ => rfl) ?_
    iterate 2 refine Reader.Passes.cons (passes_coord fun _ _ => rfl) ?_
    exact Reader.passes_nil
  · exact fun _ _ => rfl
  · exact fun _ _ => rfl

lemma updateReadMultiOpaqueRectOrder_count {o : MultiOpaqueRectOrder} (ho : o.numRectangles ≤ 45)
    (hfit : rectanglesFit info .multiOpaqueRect s = true) :
    (updateReadMultiOpaqueRectOrder info o s).1.numRectangles ≤ 45 := by
  refine multi_count_le MultiOpaqueRectOrder.countMember (L := [_, _, _, _, _, _, _])
    (t := .multiOpaqueRect) ?_ (fun _ => hfit) ?_ ?_ ?_
  · exact ho
  · iterate 4 refine Reader.Passes.cons (passes_coord fun _ _ => rfl) ?_
    iterate 3 refine Reader.Passes.cons (passes_colorByte fun _ _ => rfl) ?_
    exact Reader.passes_nil
  · exact fun _ _ => rfl
  · exact fun _ _ => rfl

lemma updateReadMultiDrawNineGridOrder_count {o : MultiDrawNineGridOrder}
    (ho : o.nDeltaEntries ≤ 45) (hfit : rectanglesFit info .multiDrawNineGrid s = true) :
    (updateReadMultiDrawNineGridOrder info o s).1.nDeltaEntries ≤ 45 := by
  refine multi_count_le MultiDrawNineGridOrder.countMember (L := [_, _, _, _, _])
    (t := .multiDrawNineGrid) ?_ (fun _ => hfit) ?_ ?_ ?_
  · exact ho
  · iterate 4 refine Reader.Passes.cons (passes_coord fun _ _ => rfl) ?_
    exact Reader.Passes.cons (passes_bytes fun _ _ => rfl) Reader.passes_nil
  · exact fun _ _ => rfl
  · exact fun _ _ => rfl

lemma updateReadMultiPatbltOrder_count {o : MultiPatbltOrder} (ho : o.numRectangles ≤ 45)
    (hfit : brushRefused (brushStyle info .multiPatblt 10 o.brush.style s) = true ∨
      rectanglesFit info .multiPatblt s = true) :
    (updateReadMultiPatbltOrder info o s).1.numRectangles ≤ 45 := by
  refine multi_count_le MultiPatbltOrder.countMember (L := [_, _, _, _, _, _, _, _])
    (t := .multiPatblt) ?_ ?_ ?_ ?_ ?_
  · exact ho
  · intro hread
    refine hfit.resolve_left ?_
    rw [Bool.not_eq_true]
    refine brush_of_front [.coord, .coord, .coord, .coord, .bytes 1, .bytes 3, .bytes 3] rfl
      (m := MultiPatbltOrder.brushMember)
      (L := [_, _, _, _, _, _, _]) ?_ hread
    iterate 4 refine Reader.Passes.cons (passes_coord fun _ _ => rfl) ?_
    iterate 3 refine Reader.Passes.cons (passes_bytes fun _ _ => rfl) ?_
    exact Reader.passes_nil
  · iterate 4 refine Reader.Passes.cons (passes_coord fun _ _ => rfl) ?_
    iterate 3 refine Reader.Passes.cons (passes_bytes fun _ _ => rfl) ?_
    exact passes_brush fun _ _ => rfl
  · exact fun _ _ => rfl
  · exact fun _ _ => rfl

/-- Points that fit. -/
lemma pointsThere_of_fit {t : OrderType} {old number : Nat} (hnumber : countNumber t = number)
    (h : pointsFit info t old s = true)
    (hset : orderFieldFlagIsSet info.fieldFlags (number + 1) = true) :
    PointsThere (pointsAt info number (countOffset info t) old s).1
      (pointsAt info number (countOffset info t) old s).2 := by
  subst hnumber
  rw [pointsFit, hset] at h
  exact of_decide_eq_true h

private lemma readValue_const {γ : Type} (n : Nat) (v : γ) (s : WStream) :
    (readValue n (fun _ => v) v s).1 = v := by
  unfold readValue
  split <;> rfl

lemma updateReadPolylineOrder_points {o : PolylineOrder}
    (hfit : pointsFit info .polyline o.numDeltaEntries s = true) :
    let q := updateReadPolylineOrder info o s
    PointsRead (orderFieldFlagIsSet info.fieldFlags 7) (o.numDeltaEntries, o.points)
      (q.1.numDeltaEntries, q.1.points) q.2.isSome := by
  refine poly_points PolylineOrder.countMember PolylineOrder.pointsMember (L := [_, _, _, _, _])
    (n := countOffset info .polyline) ?_ ?_ ?_ ?_ ?_ ?_ ?_
  · intro _ hset
    exact pointsThere_of_fit rfl hfit hset
  · iterate 2 refine Reader.Passes.cons (passes_coord fun _ _ => rfl) ?_
    refine Reader.Passes.cons (passes_bytes fun _ _ => rfl) ?_
    refine Reader.Passes.cons (w := .bytes 2) ?_ ?_
    · exact Reader.Passes.when
        (fun p s => ⟨by rw [readValue_const], readValue_takes 2 _ p s⟩) _
    exact Reader.Passes.cons (passes_bytes fun _ _ => rfl) Reader.passes_nil
  · exact fun _ _ => rfl
  · exact fun _ _ => rfl
  · exact fun _ _ => rfl
  · exact Reader.keeps_skip _
  · exact fun _ _ => rfl

lemma updateReadPolygonScOrder_points {o : PolygonScOrder}
    (hfit : pointsFit info .polygonSc o.numPoints s = true) :
    let q := updateReadPolygonScOrder info o s
    PointsRead (orderFieldFlagIsSet info.fieldFlags 7) (o.numPoints, o.points)
      (q.1.numPoints, q.1.points) q.2.isSome := by
  refine poly_points PolygonScOrder.countMember PolygonScOrder.pointsMember (L := [_, _, _, _, _])
    (n := countOffset info .polygonSc) ?_ ?_ ?_ ?_ ?_ ?_ ?_
  · intro _ hset
    exact pointsThere_of_fit rfl hfit hset
  · iterate 2 refine Reader.Passes.cons (passes_coord fun _ _ => rfl) ?_
    iterate 3 refine Reader.Passes.cons (passes_bytes fun _ _ => rfl) ?_
    exact Reader.passes_nil
  · exact fun _ _ => rfl
  · exact fun _ _ => rfl
  · exact fun _ _ => rfl
  · exact Reader.keeps_skip _
  · exact fun _ _ => rfl

lemma updateReadPolygonCbOrder_points {o : PolygonCbOrder}
    (hfit : brushRefused (brushStyle info .polygonCb 9 o.brush.style s) = true ∨
      pointsFit info .polygonCb o.numPoints s = true) :
    let q := updateReadPolygonCbOrder info o s
    PointsRead (orderFieldFlagIsSet info.fieldFlags 13) (o.numPoints, o.points)
      (q.1.numPoints, q.1.points) q.2.isSome := by
  refine poly_points PolygonCbOrder.countMember PolygonCbOrder.pointsMember
    (L := [_, _, _, _, _, _, _]) (n := countOffset info .polygonCb) ?_ ?_ ?_ ?_ ?_ ?_ ?_
  · intro hread
    refine pointsThere_of_fit rfl (hfit.resolve_left ?_)
    rw [Bool.not_eq_true]
    refine brush_of_front [.coord, .coord, .bytes 1, .bytes 1, .bytes 3, .bytes 3] rfl
      (m := PolygonCbOrder.brushMember) (L := [_, _, _, _, _, _]) ?_ hread
    iterate 2 refine Reader.Passes.cons (passes_coord fun _ _ => rfl) ?_
    iterate 4 refine Reader.Passes.cons (passes_bytes fun _ _ => rfl) ?_
    exact Reader.passes_nil
  · iterate 2 refine Reader.Passes.cons (passes_coord fun _ _ => rfl) ?_
    iterate 4 refine Reader.Passes.cons (passes_bytes fun _ _ => rfl) ?_
    exact passes_brush fun _ _ => rfl
  · exact fun _ _ => rfl
  · exact fun _ _ => rfl
  · exact fun _ _ => rfl
  · exact fun _ _ => rfl
  · exact fun _ _ => rfl

variable {p : PrimaryUpdate} {d : DecodedPoints} (hp : ConsistentCounts p d) {isSet accepted : Bool}
include hp

omit hp in
private lemma unchanged_of_refused {d' : DecodedPoints} (h : isSet = true → accepted = false) :
    (if accepted then if isSet then d' else d else d) = d := by
  cases isSet with
  | false => rw [if_neg Bool.false_ne_true, ite_self]
  | true => rw [h rfl, if_neg Bool.false_ne_true]

private lemma consistentCounts_polyline {o : PolylineOrder}
    (h : PointsRead isSet (p.polyline.numDeltaEntries, p.polyline.points)
      (o.numDeltaEntries, o.points) accepted) :
    ConsistentCounts { p with polyline := o } (if accepted then
      if isSet then { d with polyline := o.points.length } else d else d) := by
  rcases h with ⟨hold, hrefused⟩ | ⟨rfl, rfl, hnew⟩
  · obtain ⟨hcount, hpoints⟩ := Prod.mk.inj hold
    rw [unchanged_of_refused hrefused]
    exact { hp with polyline := ⟨hcount.trans hp.polyline.1, hpoints ▸ hp.polyline.2⟩ }
  · rw [if_pos rfl, if_pos rfl]
    exact { hp with polyline := ⟨hnew.symm, rfl⟩ }

private lemma consistentCounts_polygonSc {o : PolygonScOrder}
    (h : PointsRead isSet (p.polygonSc.numPoints, p.polygonSc.points)
      (o.numPoints, o.points) accepted) :
    ConsistentCounts { p with polygonSc := o } (if accepted then
      if isSet then { d with polygonSc := o.points.length } else d else d) := by
  rcases h with ⟨hold, hrefused⟩ | ⟨rfl, rfl, hnew⟩
  · obtain ⟨hcount, hpoints⟩ := Prod.mk.inj hold
    rw [unchanged_of_refused hrefused]
    exact { hp with polygonSc := ⟨hcount.trans hp.polygonSc.1, hpoints ▸ hp.polygonSc.2⟩ }
  · rw [if_pos rfl, if_pos rfl]
    exact { hp with polygonSc := ⟨hnew.symm, rfl⟩ }

private lemma consistentCounts_polygonCb {o : PolygonCbOrder}
    (h : PointsRead isSet (p.polygonCb.numPoints, p.polygonCb.points)
      (o.numPoints, o.points) accepted) :
    ConsistentCounts { p with polygonCb := o } (if accepted then
      if isSet then { d with polygonCb := o.points.length } else d else d) := by
  rcases h with ⟨hold, hrefused⟩ | ⟨rfl, rfl, hnew⟩
  · obtain ⟨hcount, hpoints⟩ := Prod.mk.inj hold
    rw [unchanged_of_refused hrefused]
    exact { hp with polygonCb := ⟨hcount.trans hp.polygonCb.1, hpoints ▸ hp.polygonCb.2⟩ }
  · rw [if_pos rfl, if_pos rfl]
    exact { hp with polygonCb := ⟨hnew.symm, rfl⟩ }

omit hp in
lemma readPrimaryOrder_orderInfo (info : OrderInfo) (p : PrimaryUpdate) (s : WStream) :
    (readPrimaryOrder info p s).1.orderInfo = p.orderInfo := by
  unfold readPrimaryOrder
  rcases OrderType.ofCode info.orderType with _ | t
  · rfl
  · cases t <;> rfl

/-- The fields of an order whose counts fit, whether it is refused or not. -/
lemma readPrimaryOrder_counts (hinfo : p.orderInfo = info) (hfit : countsFit p info s = true) :
    ConsistentCounts (readPrimaryOrder info p s).1 (if (readPrimaryOrder info p s).2.isSome then
      decodedPoints (readPrimaryOrder info p s).1 d else d) := by
  have hkept := (readPrimaryOrder_orderInfo info p s).trans hinfo
  unfold decodedPoints
  rw [hkept]
  unfold readPrimaryOrder
  unfold countsFit at hfit
  generalize OrderType.ofCode info.orderType = orderType at hfit ⊢
  rcases orderType with _ | t
  · exact hp
  cases t with
  | multiDstblt =>
    rw [ite_self]
    exact { hp with multiDstblt := updateReadMultiDstbltOrder_count hp.multiDstblt hfit }
  | multiPatblt =>
    rw [ite_self]
    exact { hp with
      multiPatblt := updateReadMultiPatbltOrder_count hp.multiPatblt ((Bool.or_eq_true _ _).mp hfit) }
  | multiScrblt =>
    rw [ite_self]
    exact { hp with multiScrblt := updateReadMultiScrbltOrder_count hp.multiScrblt hfit }
  | multiOpaqueRect =>
    rw [ite_self]
    exact { hp with
      multiOpaqueRect := updateReadMultiOpaqueRectOrder_count hp.multiOpaqueRect hfit }
  | multiDrawNineGrid =>
    rw [ite_self]
    exact { hp with
      multiDrawNineGrid := updateReadMultiDrawNineGridOrder_count hp.multiDrawNineGrid hfit }
  | polyline => exact consistentCounts_polyline hp (updateReadPolylineOrder_points hfit)
  | polygonSc => exact consistentCounts_polygonSc hp (updateReadPolygonScOrder_points hfit)
  | polygonCb =>
    exact consistentCounts_polygonCb hp
      (updateReadPolygonCbOrder_points ((Bool.or_eq_true _ _).mp hfit))
  | _ =>
    rw [ite_self]
    exact { hp with }

end Records

/-! ### Runs -/

/-- The records, with the numbers of points that were decoded last. -/
structure TracedUpdate where
  primary : PrimaryUpdate
  decoded : DecodedPoints

/-- The counts of the records are right. -/
def TracedUpdate.Valid (u : TracedUpdate) : Prop := ConsistentCounts u.primary u.decoded

/-- The callback that is called when all fields have been decoded. -/
def OrderEvent.isOrderInfo : OrderEvent → Bool
  | .orderInfo _ => true
  | _ => false

section Runs

variable (settings : OrderSettings) (callbacks : OrderCallbacks)

/-- The records after an order, and the numbers of points, if all its fields have been decoded. -/
def tracedStep (u : TracedUpdate) (o : ReceivedOrder) : TracedUpdate :=
  let r := updateRecvPrimaryOrder settings callbacks u.primary o.stream o.flags
  ⟨r.primary, if r.events.any OrderEvent.isOrderInfo then decodedPoints r.primary u.decoded
    else u.decoded⟩

/-- The counts of what is drawn for an order. -/
def DrawsConsistentCounts (u : TracedUpdate) (o : ReceivedOrder) : Prop :=
  ∀ t p, .draw t p ∈ (updateRecvPrimaryOrder settings callbacks u.primary o.stream o.flags).events →
    ConsistentCount p (tracedStep settings callbacks u o).decoded t

/-- An order has bounds, and their callback fails. -/
def boundsRefused (flags : Nat) (bounds : Bounds) : Bool :=
  flags &&& ORDER_BOUNDS ≠ 0 && !callbacks (.setBounds (some bounds))

/-- The condition for an order with its header, unless its fields are not read for its bounds. -/
def CountsFitOrder (u : TracedUpdate) (o : ReceivedOrder) : Prop :=
  (readOrderInfo settings u.primary o).all (fun q =>
    boundsRefused callbacks o.flags q.1.bounds || countsFit u.primary q.1 q.2) = true

instance (u : TracedUpdate) (o : ReceivedOrder) : Decidable (CountsFitOrder settings callbacks u o) :=
  inferInstanceAs (Decidable (_ = true))

/-- The records at the start, with no points. -/
def TracedUpdate.init : TracedUpdate := ⟨updateResetState, ⟨0, 0, 0⟩⟩

variable {settings callbacks} {u : TracedUpdate} {o : ReceivedOrder}

lemma TracedUpdate.init_valid : TracedUpdate.init.Valid :=
  ⟨Nat.zero_le _, Nat.zero_le _, Nat.zero_le _, Nat.zero_le _, Nat.zero_le _, ⟨rfl, rfl⟩, ⟨rfl, rfl⟩,
    ⟨rfl, rfl⟩⟩

lemma ConsistentCounts.count {p : PrimaryUpdate} {d : DecodedPoints} (h : ConsistentCounts p d)
    (t : OrderType) : ConsistentCount p d t := by
  cases t with
  | multiDstblt => exact h.multiDstblt
  | multiPatblt => exact h.multiPatblt
  | multiScrblt => exact h.multiScrblt
  | multiOpaqueRect => exact h.multiOpaqueRect
  | multiDrawNineGrid => exact h.multiDrawNineGrid
  | polyline => exact h.polyline
  | polygonSc => exact h.polygonSc
  | polygonCb => exact h.polygonCb
  | _ => trivial

/-- The callbacks after the fields. A drawing callback is given the records. -/
lemma updateDrawPrimaryOrder_events (flags : Nat) (p : PrimaryUpdate) (events : List OrderEvent)
    (s : WStream) :
    ∃ more, (updateDrawPrimaryOrder callbacks flags p events s).events =
        events ++ .orderInfo p.orderInfo :: more ∧
      ∀ t q, .draw t q ∈ more → q = p := by
  unfold updateDrawPrimaryOrder
  dsimp only
  rcases OrderType.ofCode p.orderInfo.orderType with _ | t
  · repeat' split
    all_goals simp
  · repeat' split
    all_goals simp

/-- The fields of an order whose counts fit, and its callbacks. -/
lemma updateReadOrderFields_counts {flags : Nat} {p : PrimaryUpdate} {d : DecodedPoints}
    {s : WStream} (hp : ConsistentCounts p d)
    (hfit : boundsRefused callbacks flags p.orderInfo.bounds = true ∨ countsFit p { p.orderInfo with
      deltaCoordinates := decide (flags &&& ORDER_DELTA_COORDINATES ≠ 0) } s = true) :
    let r := updateReadOrderFields callbacks flags p s
    ConsistentCounts r.primary
        (if r.events.any OrderEvent.isOrderInfo then decodedPoints r.primary d else d) ∧
      ∀ t q, .draw t q ∈ r.events → q = r.primary := by
  have hbounds : (if flags &&& ORDER_BOUNDS ≠ 0 then
        [OrderEvent.setBounds (some p.orderInfo.bounds)] else []).any OrderEvent.isOrderInfo = false ∧
      ∀ t q, .draw t q ∉ (if flags &&& ORDER_BOUNDS ≠ 0 then
        [OrderEvent.setBounds (some p.orderInfo.bounds)] else []) := by
    split <;> simp [OrderEvent.isOrderInfo]
  unfold updateReadOrderFields
  dsimp only
  generalize (if flags &&& ORDER_BOUNDS ≠ 0 then
    [OrderEvent.setBounds (some p.orderInfo.bounds)] else []) = events at hbounds ⊢
  obtain ⟨hinfo, hdraw⟩ := hbounds
  split
  · rw [hinfo]
    exact ⟨hp, fun t q h => absurd h (hdraw t q)⟩
  rename_i haccepted
  have hcounts := hfit.resolve_left (by simpa [boundsRefused] using haccepted)
  have hread := readPrimaryOrder_counts (p := { p with orderInfo := { p.orderInfo with
    deltaCoordinates := decide (flags &&& ORDER_DELTA_COORDINATES ≠ 0) } }) { hp with } rfl hcounts
  split <;> rename_i hq <;> rw [hq] at hread
  · rw [hinfo]
    exact ⟨hread, fun t q h => absurd h (hdraw t q)⟩
  · rename_i p' s'
    obtain ⟨more, hevents, hmore⟩ := updateDrawPrimaryOrder_events flags p' events s'
    rw [updateDrawPrimaryOrder_primary, hevents]
    refine ⟨?_, fun t q h => ?_⟩
    · rw [List.any_append, List.any_cons, OrderEvent.isOrderInfo, Bool.true_or, Bool.or_true]
      exact hread
    · rcases List.mem_append.mp h with h | h
      · exact absurd h (hdraw t q)
      · exact hmore t q ((List.mem_cons.mp h).resolve_left (fun h => nomatch h))

/-- One order: what it draws has the right counts, and the invariant is kept. -/
lemma countsFit_step (hu : u.Valid) (hfit : CountsFitOrder settings callbacks u o) :
    DrawsConsistentCounts settings callbacks u o ∧ (tracedStep settings callbacks u o).Valid := by
  suffices h : (tracedStep settings callbacks u o).Valid ∧ ∀ t q, .draw t q ∈
      (updateRecvPrimaryOrder settings callbacks u.primary o.stream o.flags).events →
        q = (tracedStep settings callbacks u o).primary by
    refine ⟨fun t q hq => ?_, h.1⟩
    rw [h.2 t q hq]
    exact h.1.count t
  unfold CountsFitOrder readOrderInfo at hfit
  unfold TracedUpdate.Valid tracedStep updateRecvPrimaryOrder
  dsimp only
  rcases hheader : Reader.all [updateReadOrderHeader settings o.flags, updateReadOrderBounds o.flags]
    u.primary.orderInfo o.stream with ⟨info, _ | s⟩
  · exact ⟨{ hu with }, fun t q h => nomatch h⟩
  · rw [Reader.accepted, hheader] at hfit
    exact updateReadOrderFields_counts { hu with } ((Bool.or_eq_true _ _).mp hfit)

variable (settings callbacks)

/-- In a run where all counts of rectangles that come in are at most 45, and points that have been
allocated are all there, the counts of all drawn orders are right. -/
theorem primaryRun_consistentCounts (orders : List ReceivedOrder)
    (h : AlongRun (tracedStep settings callbacks) (CountsFitOrder settings callbacks) .init orders) :
    AlongRun (tracedStep settings callbacks) (DrawsConsistentCounts settings callbacks) .init
      orders := by
  refine AlongRun.imp ?_ TracedUpdate.init_valid h
  intro u o hu ho
  exact countsFit_step hu ho

end Runs

/-- A MultiDstBlt order with two rectangles, a Polyline with two points, and the same line again at
another place. -/
theorem primaryRun_consistentCounts_multiDstblt :
    AlongRun (tracedStep allOrders allCallbacks) (DrawsConsistentCounts allOrders allCallbacks) .init
      [⟨0x09, .ofBytes [0x0F, 0x60, 0x02, 0x05, 0x00, 0x00, 0x01, 0x01, 0x02, 0x02, 0x05, 0x05, 0x01,
          0x01]⟩,
        ⟨0x09, .ofBytes [0x16, 0x60, 0x02, 0x05, 0x00, 0x01, 0x01, 0x02, 0x02]⟩,
        ⟨0x01, .ofBytes [0x01, 0x07, 0x00]⟩] :=
  primaryRun_consistentCounts allOrders allCallbacks _ (by decide +kernel)

/-- A MultiDstBlt order with the count 200 and no rectangles is drawn, and so is a line after an
order that was refused for its second point was missing. -/
theorem primaryRun_count_inconsistent :
    ¬ AlongRun (tracedStep allOrders allCallbacks) (DrawsConsistentCounts allOrders allCallbacks)
        .init [⟨0x09, .ofBytes [0x0F, 0x20, 200]⟩] ∧
      ¬ AlongRun (tracedStep allOrders allCallbacks) (DrawsConsistentCounts allOrders allCallbacks)
        .init [⟨0x09, .ofBytes [0x16, 0x60, 0x02, 0x05, 0x00, 0x01, 0x01]⟩,
          ⟨0x01, .ofBytes [0x01, 0x07, 0x00]⟩] := by
  constructor
  · rintro ⟨h, -⟩
    have hcount : (tracedStep allOrders allCallbacks .init
        ⟨0x09, .ofBytes [0x0F, 0x20, 200]⟩).primary.multiDstblt.numRectangles ≤ 45 :=
      h .multiDstblt _ (by decide +kernel)
    exact absurd hcount (by decide +kernel)
  · rintro ⟨-, h, -⟩
    have hcount := (h .polyline (tracedStep allOrders allCallbacks (tracedStep allOrders allCallbacks
      .init ⟨0x09, .ofBytes [0x16, 0x60, 0x02, 0x05, 0x00, 0x01, 0x01]⟩)
      ⟨0x01, .ofBytes [0x01, 0x07, 0x00]⟩).primary (by decide +kernel)).1
    exact absurd hcount (by decide +kernel)

end FreeRdp
