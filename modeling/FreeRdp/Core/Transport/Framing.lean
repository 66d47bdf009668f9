import FreeRdp.Library.Bits
import FreeRdp.Core.Transport.Basic

/-!
# The framing that the PDU headers declare

`pduHeader` reads a length off the first bytes of a stream, in the three formats of the protocol:
TPKT, fast-path, and the DER length of a TSRequest. `pduFrames` cuts a whole stream accordingly.
Neither knows anything about reads, buffers or arrivals. `transportReadPdu_spec` compares one call
of `transport_read_pdu` with it.
-/

namespace FreeRdp

/-- What the first bytes of a PDU say about its length. -/
inductive PduHeader where
  | incomplete
  | malformed
  | declares (headerLength pduLength : Nat)
  deriving DecidableEq, Repr

/-- The header at the front of a byte sequence. -/
def pduHeader : Bool → List UInt8 → PduHeader
  | true, tag :: l :: rest =>
    if tag.toNat ≠ 0x30 then .malformed
    else if l.toNat < 0x80 then .declares 2 (l.toNat + 2)
    else if l.toNat = 0x81 then
      match rest with
      | n :: _ => .declares 3 (n.toNat + 3)
      | [] => .incomplete
    else if l.toNat = 0x82 then
      match rest with
      | a :: b :: _ => .declares 4 (a.toNat * 256 + b.toNat + 4)
      | _ => .incomplete
    else .malformed
  | false, version :: l :: rest =>
    if version.toNat = 3 then
      match rest with
      | a :: b :: _ =>
        if a.toNat * 256 + b.toNat < 7 then .malformed
        else .declares 4 (a.toNat * 256 + b.toNat)
      | _ => .incomplete
    else if l.toNat < 0x80 then
      if l.toNat < 3 then .malformed else .declares 2 l.toNat
    else
      match rest with
      | a :: _ =>
        if (l.toNat - 0x80) * 256 + a.toNat < 3 then .malformed
        else .declares 3 ((l.toNat - 0x80) * 256 + a.toNat)
      | [] => .incomplete
  | _, _ => .incomplete

/-- A PDU that ends with its header. -/
def HeaderOnly (nlaMode : Bool) (pdu : List UInt8) : Prop :=
  ∃ n, pduHeader nlaMode pdu = .declares n n

lemma pduHeader_bounds {nla : Bool} {s : List UInt8} {h n : Nat}
    (hd : pduHeader nla s = .declares h n) :
    2 ≤ h ∧ h ≤ s.length ∧ h ≤ n ∧ n < 2 ^ 32 := by
  unfold pduHeader at hd
  split at hd
  · rename_i tag l rest
    have hl := l.toNat_lt
    split_ifs at hd
    · cases hd
      simp only [List.length_cons]
      omega
    · split at hd
      · rename_i b _
        have hb := b.toNat_lt
        cases hd
        simp only [List.length_cons]
        omega
      · cases hd
    · split at hd
      · rename_i a b _
        have ha := a.toNat_lt
        have hb := b.toNat_lt
        cases hd
        simp only [List.length_cons]
        omega
      · cases hd
  · rename_i version l rest
    have hl := l.toNat_lt
    split_ifs at hd
    · split at hd
      · rename_i a b _
        have ha := a.toNat_lt
        have hb := b.toNat_lt
        split_ifs at hd
        cases hd
        simp only [List.length_cons]
        omega
      · cases hd
    · cases hd
      simp only [List.length_cons]
      omega
    · split at hd
      · rename_i a _
        have ha := a.toNat_lt
        split_ifs at hd
        cases hd
        simp only [List.length_cons]
        omega
      · cases hd
  · cases hd

/-- The PDUs in a stream, behind the PDUs `before`. -/
def pduFrames (nlaMode : List (List UInt8) → Bool) (before : List (List UInt8))
    (stream : List UInt8) : List (List UInt8) :=
  match _hd : pduHeader (nlaMode before) stream with
  | .declares _ n =>
    if _hn : n ≤ stream.length then
      stream.take n :: pduFrames nlaMode (before ++ [stream.take n]) (stream.drop n)
    else []
  | _ => []
  termination_by stream.length
  decreasing_by
    have hb := pduHeader_bounds _hd
    rw [List.length_drop]
    omega

/-- A complete header does not depend on what follows it. -/
lemma pduHeader_append {nla : Bool} {s : List UInt8} (hd : pduHeader nla s ≠ .incomplete)
    (t : List UInt8) : pduHeader nla (s ++ t) = pduHeader nla s := by
  match nla, s, hd with
  | true, [tag, l], hd =>
    simp only [pduHeader, List.cons_append, List.nil_append] at hd ⊢
    split_ifs at hd ⊢ <;> simp at hd ⊢
  | true, [tag, l, a], hd =>
    simp only [pduHeader, List.cons_append, List.nil_append] at hd ⊢
    split_ifs at hd ⊢ <;> simp at hd ⊢
  | true, tag :: l :: a :: b :: rest, hd => simp only [pduHeader, List.cons_append]
  | false, [version, l], hd =>
    simp only [pduHeader, List.cons_append, List.nil_append] at hd ⊢
    split_ifs at hd ⊢ <;> simp at hd ⊢
  | false, [version, l, a], hd =>
    simp only [pduHeader, List.cons_append, List.nil_append] at hd ⊢
    split_ifs at hd ⊢ <;> simp at hd ⊢
  | false, version :: l :: a :: b :: rest, hd => simp only [pduHeader, List.cons_append]
  | true, [], hd => exact absurd rfl hd
  | true, [_], hd => exact absurd rfl hd
  | false, [], hd => exact absurd rfl hd
  | false, [_], hd => exact absurd rfl hd

/-- A header is incomplete for at most three bytes. -/
lemma length_of_pduHeader_incomplete {nla : Bool} {s : List UInt8}
    (hd : pduHeader nla s = .incomplete) : s.length ≤ 3 := by
  match nla, s, hd with
  | _, [], _ => simp
  | _, [_], _ => simp
  | _, [_, _], _ => simp
  | _, [_, _, _], _ => simp
  | true, tag :: l :: a :: b :: rest, hd =>
    simp only [pduHeader] at hd
    split_ifs at hd
  | false, version :: l :: a :: b :: rest, hd =>
    simp only [pduHeader] at hd
    split_ifs at hd

/-- A header is read off its own bytes. -/
lemma pduHeader_take {nla : Bool} {s : List UInt8} {h n m : Nat}
    (hd : pduHeader nla s = .declares h n) (hm : h ≤ m) :
    pduHeader nla (s.take m) = .declares h n := by
  have h2 := (pduHeader_bounds hd).1
  obtain ⟨k, rfl⟩ : ∃ k, m = k + 2 := ⟨m - 2, by omega⟩
  rcases s with _ | ⟨x, _ | ⟨y, rest⟩⟩
  · cases nla <;> cases hd
  · cases nla <;> cases hd
  · -- only the next two bytes matter, and only as far as `m` reaches
    rcases rest with _ | ⟨a, _ | ⟨b, rest⟩⟩ <;> rcases k with _ | _ | k <;> cases nla <;>
      simp only [pduHeader, List.take_succ_cons, List.take_zero, List.take_nil] at hd ⊢ <;>
      split_ifs at hd ⊢ <;> first | exact hd | (cases hd; omega)

/-! ### One call of `transport_read_pdu` -/

/-- The stream and the BIO after a read that got all it asked for. -/
structure ReadOn (s : List UInt8) (bio : Bio) (s' : List UInt8) (bio' : Bio) : Prop where
  available : s' ++ Arrival.available bio' = s ++ Arrival.available bio
  content : s' ++ Arrival.content bio' = s ++ Arrival.content bio
  reliable : Arrival.Reliable bio'
  length : bio'.length ≤ bio.length

/-- The BIO after a read that used up all there was. -/
structure ReadOut (s : List UInt8) (bio bio' : Bio) : Prop where
  content : s ++ Arrival.available bio ++ Arrival.content bio' = s ++ Arrival.content bio
  reliable : Arrival.Reliable bio'
  length : bio' = [] ∨ bio'.length < bio.length

lemma ReadOn.refl {s : List UInt8} {bio : Bio} (h : Arrival.Reliable bio) : ReadOn s bio s bio :=
  ⟨rfl, rfl, h, le_rfl⟩

lemma ReadOn.trans {s₁ s₂ s₃ : List UInt8} {b₁ b₂ b₃ : Bio} (h : ReadOn s₁ b₁ s₂ b₂)
    (h' : ReadOn s₂ b₂ s₃ b₃) : ReadOn s₁ b₁ s₃ b₃ :=
  ⟨h'.1.trans h.1, h'.2.trans h.2, h'.3, h'.4.trans h.4⟩

lemma ReadOn.out {s₁ s₂ : List UInt8} {b₁ b₂ b₃ : Bio} (h : ReadOn s₁ b₁ s₂ b₂)
    (h' : ReadOut s₂ b₂ b₃) : ReadOut s₁ b₁ b₃ :=
  ⟨by rw [← h.1, h'.1, h.2], h'.2, h'.3.imp_right fun hlt => hlt.trans_le h.4⟩

section Reads

variable {s : List UInt8} {bio : Bio} (hrel : Arrival.Reliable bio)
include hrel

lemma transportReadLayerBytes_enough {k : Nat} (hpos : 0 < k) (hmax : k ≤ SSIZE_MAX)
    (hk : k ≤ (Arrival.available bio).length) :
    ∃ bio', transportReadLayerBytes s bio k = (1, s ++ (Arrival.available bio).take k, bio') ∧
      ReadOn s bio (s ++ (Arrival.available bio).take k) bio' := by
  obtain ⟨bio', hr⟩ := Arrival.exists_readOf hrel k
  refine ⟨bio', ?_, ?_, ?_, hr.reliable, hr.length⟩
  · have hlen : ((Arrival.available bio).take k).length = k := by simp [hk]
    unfold transportReadLayerBytes transportReadLayer
    rw [if_neg (by omega), hr.eq]
    cases hget : (Arrival.available bio).take k with
    | nil =>
      rw [hget, List.length_nil] at hlen
      omega
    | cons b bs =>
      rw [hget] at hlen
      simp only [hlen, if_true]
  · rw [hr.enough hk, List.append_assoc, List.take_append_drop]
  · rw [List.append_assoc, ← hr.content]

lemma transportReadLayerBytes_short {k : Nat} (hmax : k ≤ SSIZE_MAX)
    (hk : (Arrival.available bio).length < k) :
    ∃ bio', transportReadLayerBytes s bio k = (0, s ++ Arrival.available bio, bio') ∧
      ReadOut s bio bio' := by
  obtain ⟨bio', hr⟩ := Arrival.exists_readOf hrel k
  have htake : (Arrival.available bio).take k = Arrival.available bio :=
    List.take_of_length_le hk.le
  refine ⟨bio', ?_, ?_, hr.reliable, ?_⟩
  · unfold transportReadLayerBytes transportReadLayer
    rw [if_neg (by omega), hr.eq, htake]
    cases hget : Arrival.available bio with
    | nil => simp
    | cons b bs =>
      rw [hget] at hk
      simp only [if_neg (Nat.ne_of_lt hk)]
  · rw [hr.content, htake, List.append_assoc]
  · rcases hr.short hk with hlt | hnil
    · exact Or.inr hlt
    · have hle := hr.length
      rw [hnil] at hle
      exact Or.inl (List.eq_nil_of_length_eq_zero (Nat.le_zero.mp hle))

lemma transportEnsure_enough {n : Nat} (hmax : n ≤ SSIZE_MAX)
    (hn : n ≤ (s ++ Arrival.available bio).length) :
    ∃ s' bio', transportEnsure n s bio = (1, s', bio') ∧ ReadOn s bio s' bio' ∧
      s'.length = max n s.length := by
  unfold transportEnsure
  by_cases hlt : s.length < n
  · rw [if_pos hlt]
    rw [List.length_append] at hn
    obtain ⟨bio', hr, hon⟩ := transportReadLayerBytes_enough hrel (s := s)
      (k := n - s.length) (by omega) (by omega) (by omega)
    refine ⟨_, bio', hr, hon, ?_⟩
    rw [List.length_append, List.length_take]
    omega
  · rw [if_neg hlt]
    exact ⟨s, bio, rfl, ReadOn.refl hrel, by omega⟩

lemma transportEnsure_short {n : Nat} (hmax : n ≤ SSIZE_MAX)
    (hn : (s ++ Arrival.available bio).length < n) :
    ∃ bio', transportEnsure n s bio = (0, s ++ Arrival.available bio, bio') ∧
      ReadOut s bio bio' := by
  rw [List.length_append] at hn
  unfold transportEnsure
  rw [if_pos (by omega)]
  exact transportReadLayerBytes_short hrel (by omega) (by omega)

lemma transportEnsureThen_enough {n : Nat} (hmax : n ≤ SSIZE_MAX)
    (hn : n ≤ (s ++ Arrival.available bio).length)
    (next : List UInt8 → Bio → Int × Nat × List UInt8 × Bio) :
    ∃ s' bio', transportEnsureThen n s bio next = next s' bio' ∧ ReadOn s bio s' bio' ∧
      s'.length = max n s.length := by
  obtain ⟨s', bio', hr, hon⟩ := transportEnsure_enough hrel hmax hn
  exact ⟨s', bio', by simp [transportEnsureThen, hr], hon⟩

lemma transportEnsureThen_short {n : Nat} (hmax : n ≤ SSIZE_MAX)
    (hn : (s ++ Arrival.available bio).length < n)
    (next : List UInt8 → Bio → Int × Nat × List UInt8 × Bio) :
    ∃ bio', transportEnsureThen n s bio next = (0, 0, s ++ Arrival.available bio, bio') ∧
      ReadOut s bio bio' := by
  obtain ⟨bio', hr, hout⟩ := transportEnsure_short hrel hmax hn
  exact ⟨bio', by simp [transportEnsureThen, hr], hout⟩

end Reads

/-- The bytes already in the stream are the first ones of what can be read. -/
lemma headerByte_of_append {s u t : List UInt8} (h : s ++ u = t) {i : Nat} (hi : i < s.length) :
    headerByte s i = headerByte t i := by
  unfold headerByte
  rw [← h, List.getD_append _ _ _ _ hi]

/-- What the header part of `transport_read_pdu` does, by the header in the bytes at hand. -/
def HeaderOutcome (nla : Bool) (s : List UInt8) (bio : Bio) : PduHeader → Prop
  | .incomplete =>
    ∃ bio', transportReadHeader nla s bio = (0, 0, s ++ Arrival.available bio, bio') ∧
      ReadOut s bio bio'
  | .malformed =>
    ∃ status s' bio', transportReadHeader nla s bio = (status, 0, s', bio') ∧
      (status = -1 ∨ status = 1) ∧ 0 < s'.length ∧ s'.length ≤ max 4 s.length ∧
      ReadOn s bio s' bio'
  | .declares h n =>
    ∃ s' bio', transportReadHeader nla s bio = (1, n, s', bio') ∧ ReadOn s bio s' bio' ∧
      s'.length = max h s.length

section Header

variable {s s₁ : List UInt8} {bio b₁ : Bio}

/-- A further header read, behind the first two bytes. -/
lemma ReadOn.ensureThen_enough (hon : ReadOn s bio s₁ b₁) (hlen : s₁.length = max 2 s.length)
    {n : Nat} (h2 : 2 ≤ n) (hmax : n ≤ SSIZE_MAX) (hn : n ≤ (s ++ Arrival.available bio).length)
    (next : List UInt8 → Bio → Int × Nat × List UInt8 × Bio) :
    ∃ s' bio', transportEnsureThen n s₁ b₁ next = next s' bio' ∧ ReadOn s bio s' bio' ∧
      s'.length = max n s.length := by
  obtain ⟨s', bio', h, hon', hlen'⟩ :=
    transportEnsureThen_enough hon.reliable hmax (hn.trans_eq (congrArg _ hon.available.symm)) next
  exact ⟨s', bio', h, hon.trans hon', by omega⟩

lemma ReadOn.ensureThen_short (hon : ReadOn s bio s₁ b₁) {n : Nat} (hmax : n ≤ SSIZE_MAX)
    (hn : (s ++ Arrival.available bio).length < n)
    (next : List UInt8 → Bio → Int × Nat × List UInt8 × Bio) :
    ∃ bio', transportEnsureThen n s₁ b₁ next = (0, 0, s ++ Arrival.available bio, bio') ∧
      ReadOut s bio bio' := by
  obtain ⟨bio', h, hout⟩ := transportEnsureThen_short hon.reliable hmax
    ((congrArg _ hon.available).trans_lt hn) next
  exact ⟨bio', hon.available ▸ h, hon.out hout⟩

/-- Fewer than two bytes are no header yet. -/
lemma transportReadHeader_short (hrel : Arrival.Reliable bio) (nla : Bool)
    (h : (s ++ Arrival.available bio).length < 2) : HeaderOutcome nla s bio .incomplete :=
  transportEnsureThen_short hrel (by decide) h _

section Cases

variable {x y : UInt8} {rest : List UInt8}

/-- The first two bytes are read where they are there. -/
lemma exists_twoRead (hrel : Arrival.Reliable bio)
    (hT : s ++ Arrival.available bio = x :: y :: rest) :
    ∃ s₁ b₁, ReadOn s bio s₁ b₁ ∧ s₁.length = max 2 s.length ∧ headerByte s₁ 0 = x.toNat ∧
      headerByte s₁ 1 = y.toNat ∧ ∀ next, transportEnsureThen 2 s bio next = next s₁ b₁ := by
  obtain ⟨s₁, b₁, h, hon, hlen⟩ := transportEnsure_enough hrel (n := 2) (by decide)
    (by rw [hT]; simp)
  refine ⟨s₁, b₁, hon, hlen, ?_, ?_, fun next => by simp [transportEnsureThen, h]⟩
  · exact headerByte_of_append (hon.available.trans hT) (by omega)
  · exact headerByte_of_append (hon.available.trans hT) (by omega)

/-- A header that needs more bytes, up to `n` of them: it is incomplete without them, and parsed
with them. -/
lemma headerOutcome_further {nla : Bool} {n : Nat} (h2 : 2 ≤ n) (hmax : n ≤ SSIZE_MAX)
    (hon : ReadOn s bio s₁ b₁) (hlen : s₁.length = max 2 s.length)
    (next : List UInt8 → Bio → Int × Nat × List UInt8 × Bio)
    (hcode : transportReadHeader nla s bio = transportEnsureThen n s₁ b₁ next) {header : PduHeader}
    (hshort : (s ++ Arrival.available bio).length < n → header = .incomplete)
    (henough : n ≤ (s ++ Arrival.available bio).length → ∀ s₂ b₂, ReadOn s bio s₂ b₂ →
      s₂.length = max n s.length → transportReadHeader nla s bio = next s₂ b₂ →
      HeaderOutcome nla s bio header) : HeaderOutcome nla s bio header := by
  rcases Nat.lt_or_ge (s ++ Arrival.available bio).length n with hlt | hle
  · rw [hshort hlt]
    obtain ⟨b₂, h₂, hout⟩ := hon.ensureThen_short hmax hlt next
    exact ⟨b₂, hcode.trans h₂, hout⟩
  · obtain ⟨s₂, b₂, h₂, hon₂, hlen₂⟩ := hon.ensureThen_enough hlen h2 hmax hle next
    exact henough hle s₂ b₂ hon₂ hlen₂ (hcode.trans h₂)

lemma highBit_iff (hy : headerByte s₁ 1 = y.toNat) :
    headerByte s₁ 1 &&& 0x80 ≠ 0 ↔ ¬y.toNat < 0x80 := by
  have hbyte := y.toNat_lt
  rw [hy, toNat_and_128_ne_zero y]
  omega

/-! TSRequest headers: the tag, and one to three bytes for the length. -/

/-- Another tag. -/
lemma transportReadHeader_nla_tag (hrel : Arrival.Reliable bio)
    (hT : s ++ Arrival.available bio = x :: y :: rest) (htag : x.toNat ≠ 0x30) :
    HeaderOutcome true s bio (pduHeader true (x :: y :: rest)) := by
  obtain ⟨s₁, b₁, hon₁, hlen₁, hx, -, h₁⟩ := exists_twoRead hrel hT
  have hd : pduHeader true (x :: y :: rest) = .malformed := by simp [pduHeader, htag]
  rw [hd]
  refine ⟨1, s₁, b₁, ?_, Or.inr rfl, by omega, by omega, hon₁⟩
  rw [transportReadHeader, h₁]
  simp only [if_true, hx, htag, if_false]

/-- The length is the second byte. -/
lemma transportReadHeader_nla_short (hrel : Arrival.Reliable bio)
    (hT : s ++ Arrival.available bio = x :: y :: rest) (htag : x.toNat = 0x30)
    (hshort : y.toNat < 0x80) : HeaderOutcome true s bio (pduHeader true (x :: y :: rest)) := by
  obtain ⟨s₁, b₁, hon₁, hlen₁, hx, hy, h₁⟩ := exists_twoRead hrel hT
  have hd : pduHeader true (x :: y :: rest) = .declares 2 (y.toNat + 2) := by
    simp [pduHeader, htag, hshort]
  rw [hd]
  refine ⟨s₁, b₁, ?_, hon₁, hlen₁⟩
  rw [transportReadHeader, h₁]
  simp only [if_true, hx, htag]
  rw [if_neg (mt (highBit_iff hy).mp (not_not_intro hshort)), hy]

/-- The length is a third byte. -/
lemma transportReadHeader_nla_one (hrel : Arrival.Reliable bio)
    (hT : s ++ Arrival.available bio = x :: y :: rest) (htag : x.toNat = 0x30)
    (hone : y.toNat = 0x81) : HeaderOutcome true s bio (pduHeader true (x :: y :: rest)) := by
  obtain ⟨s₁, b₁, hon₁, hlen₁, hx, hy, h₁⟩ := exists_twoRead hrel hT
  have hhigh := (highBit_iff hy).mpr (by omega)
  have hcount : headerByte s₁ 1 &&& 0x7F = y.toNat % 128 := by rw [hy, toNat_and_127]
  refine headerOutcome_further (by decide : 2 ≤ 3) (by decide) hon₁ hlen₁
    (fun s bio => (1, headerByte s 2 + 3, s, bio)) ?_ (fun hlt => ?_)
    fun hle s₂ b₂ hon₂ hlen₂ hcode => ?_
  · rw [transportReadHeader, h₁]
    simp only [if_true, hx, htag, if_pos hhigh, hcount, hone, Nat.reduceMod]
  · rcases rest with _ | ⟨a, rest⟩
    · simp [pduHeader, htag, hone]
    · simp only [hT, List.length_cons] at hlt
      omega
  · rcases rest with _ | ⟨a, rest⟩
    · simp [hT] at hle
    have hd : pduHeader true (x :: y :: a :: rest) = .declares 3 (a.toNat + 3) := by
      simp [pduHeader, htag, hone]
    have ha : headerByte s₂ 2 = a.toNat := headerByte_of_append (hon₂.available.trans hT) (by omega)
    rw [hd]
    exact ⟨s₂, b₂, by rw [hcode, ha], hon₂, hlen₂⟩

/-- The length is a third and a fourth byte. -/
lemma transportReadHeader_nla_two (hrel : Arrival.Reliable bio)
    (hT : s ++ Arrival.available bio = x :: y :: rest) (htag : x.toNat = 0x30)
    (htwo : y.toNat = 0x82) : HeaderOutcome true s bio (pduHeader true (x :: y :: rest)) := by
  obtain ⟨s₁, b₁, hon₁, hlen₁, hx, hy, h₁⟩ := exists_twoRead hrel hT
  have hhigh := (highBit_iff hy).mpr (by omega)
  have hcount : headerByte s₁ 1 &&& 0x7F = y.toNat % 128 := by rw [hy, toNat_and_127]
  refine headerOutcome_further (by decide : 2 ≤ 4) (by decide) hon₁ hlen₁
    (fun s bio => (1, (headerByte s 2 <<< 8 ||| headerByte s 3) + 4, s, bio)) ?_
    (fun hlt => ?_) fun hle s₂ b₂ hon₂ hlen₂ hcode => ?_
  · rw [transportReadHeader, h₁]
    simp only [if_true, hx, htag, if_pos hhigh, hcount, htwo, Nat.reduceMod, Nat.reduceEqDiff,
      if_false]
  · rcases rest with _ | ⟨a, _ | ⟨b, rest⟩⟩
    · simp [pduHeader, htag, htwo]
    · simp [pduHeader, htag, htwo]
    · simp only [hT, List.length_cons] at hlt
      omega
  · rcases rest with _ | ⟨a, _ | ⟨b, rest⟩⟩
    · simp [hT] at hle
    · simp [hT] at hle
    have hd : pduHeader true (x :: y :: a :: b :: rest) =
        .declares 4 (a.toNat * 256 + b.toNat + 4) := by
      simp [pduHeader, htag, htwo]
    have ha : headerByte s₂ 2 = a.toNat := headerByte_of_append (hon₂.available.trans hT) (by omega)
    have hb : headerByte s₂ 3 = b.toNat := headerByte_of_append (hon₂.available.trans hT) (by omega)
    rw [hd]
    exact ⟨s₂, b₂, by rw [hcode, ha, hb, shiftLeft_or_toNat], hon₂, hlen₂⟩

/-- Other lengths are refused. -/
lemma transportReadHeader_nla_long (hrel : Arrival.Reliable bio)
    (hT : s ++ Arrival.available bio = x :: y :: rest) (htag : x.toNat = 0x30)
    (hshort : ¬y.toNat < 0x80) (hone : y.toNat ≠ 0x81) (htwo : y.toNat ≠ 0x82) :
    HeaderOutcome true s bio (pduHeader true (x :: y :: rest)) := by
  obtain ⟨s₁, b₁, hon₁, hlen₁, hx, hy, h₁⟩ := exists_twoRead hrel hT
  have hbyte := y.toNat_lt
  have hhigh := (highBit_iff hy).mpr hshort
  have hcount : headerByte s₁ 1 &&& 0x7F = y.toNat % 128 := by rw [hy, toNat_and_127]
  have hd : pduHeader true (x :: y :: rest) = .malformed := by
    simp [pduHeader, htag, hshort, hone, htwo]
  rw [hd]
  refine ⟨-1, s₁, b₁, ?_, Or.inl rfl, by omega, by omega, hon₁⟩
  rw [transportReadHeader, h₁]
  simp only [if_true, hx, htag, if_pos hhigh, hcount]
  rw [if_neg (by omega), if_neg (by omega)]

/-! TPKT and fast-path headers. -/

/-- A TPKT. -/
lemma transportReadHeader_tpkt (hrel : Arrival.Reliable bio)
    (hT : s ++ Arrival.available bio = x :: y :: rest) (hversion : x.toNat = 3) :
    HeaderOutcome false s bio (pduHeader false (x :: y :: rest)) := by
  obtain ⟨s₁, b₁, hon₁, hlen₁, hx, -, h₁⟩ := exists_twoRead hrel hT
  refine headerOutcome_further (by decide : 2 ≤ 4) (by decide) hon₁ hlen₁
    (fun s bio =>
      transportCheckTpktLength (headerByte s 2 <<< 8 ||| headerByte s 3) s bio) ?_
    (fun hlt => ?_) fun hle s₂ b₂ hon₂ hlen₂ hcode => ?_
  · rw [transportReadHeader, h₁]
    simp only [Bool.false_eq_true, if_false, hx, hversion, if_true]
  · rcases rest with _ | ⟨a, _ | ⟨b, rest⟩⟩
    · simp [pduHeader, hversion]
    · simp [pduHeader, hversion]
    · simp only [hT, List.length_cons] at hlt
      omega
  · rcases rest with _ | ⟨a, _ | ⟨b, rest⟩⟩
    · simp [hT] at hle
    · simp [hT] at hle
    have ha : headerByte s₂ 2 = a.toNat := headerByte_of_append (hon₂.available.trans hT) (by omega)
    have hb : headerByte s₂ 3 = b.toNat := headerByte_of_append (hon₂.available.trans hT) (by omega)
    have ha' := a.toNat_lt
    have hb' := b.toNat_lt
    rw [ha, hb, shiftLeft_or_toNat, transportCheckTpktLength] at hcode
    by_cases hlow : a.toNat * 256 + b.toNat < 7
    · have hd : pduHeader false (x :: y :: a :: b :: rest) = .malformed := by
        simp [pduHeader, hversion, hlow]
      rw [hd]
      rw [if_pos (Or.inl hlow)] at hcode
      exact ⟨-1, s₂, b₂, hcode, Or.inl rfl, by omega, by omega, hon₂⟩
    · have hd : pduHeader false (x :: y :: a :: b :: rest) =
          .declares 4 (a.toNat * 256 + b.toNat) := by
        simp [pduHeader, hversion, hlow]
      rw [hd]
      rw [if_neg (by omega)] at hcode
      exact ⟨s₂, b₂, hcode, hon₂, hlen₂⟩

/-- The length of a fast-path PDU is the second byte. -/
lemma transportReadHeader_fastPath_short (hrel : Arrival.Reliable bio)
    (hT : s ++ Arrival.available bio = x :: y :: rest) (hversion : x.toNat ≠ 3)
    (hshort : y.toNat < 0x80) : HeaderOutcome false s bio (pduHeader false (x :: y :: rest)) := by
  obtain ⟨s₁, b₁, hon₁, hlen₁, hx, hy, h₁⟩ := exists_twoRead hrel hT
  have hcode : transportReadHeader false s bio = transportCheckFastPathLength y.toNat s₁ b₁ := by
    rw [transportReadHeader, h₁]
    simp only [Bool.false_eq_true, if_false, hx, hversion]
    rw [if_neg (mt (highBit_iff hy).mp (not_not_intro hshort)), hy]
  rw [transportCheckFastPathLength] at hcode
  by_cases hthree : y.toNat < 3
  · have hd : pduHeader false (x :: y :: rest) = .malformed := by
      simp [pduHeader, hversion, hshort, hthree]
    rw [hd]
    rw [if_pos (Or.inl hthree)] at hcode
    exact ⟨-1, s₁, b₁, hcode, Or.inl rfl, by omega, by omega, hon₁⟩
  · have hd : pduHeader false (x :: y :: rest) = .declares 2 y.toNat := by
      simp [pduHeader, hversion, hshort, hthree]
    rw [hd]
    rw [if_neg (by omega)] at hcode
    exact ⟨s₁, b₁, hcode, hon₁, hlen₁⟩

/-- The length of a fast-path PDU is a part of the second byte and the third one. -/
lemma transportReadHeader_fastPath_long (hrel : Arrival.Reliable bio)
    (hT : s ++ Arrival.available bio = x :: y :: rest) (hversion : x.toNat ≠ 3)
    (hshort : ¬y.toNat < 0x80) : HeaderOutcome false s bio (pduHeader false (x :: y :: rest)) := by
  obtain ⟨s₁, b₁, hon₁, hlen₁, hx, hy, h₁⟩ := exists_twoRead hrel hT
  have hbyte := y.toNat_lt
  refine headerOutcome_further (by decide : 2 ≤ 3) (by decide) hon₁ hlen₁
    (fun s bio => transportCheckFastPathLength
      ((headerByte s 1 &&& 0x7F) <<< 8 ||| headerByte s 2) s bio) ?_
    (fun hlt => ?_) fun hle s₂ b₂ hon₂ hlen₂ hcode => ?_
  · rw [transportReadHeader, h₁]
    simp only [Bool.false_eq_true, if_false, hx, hversion, if_pos ((highBit_iff hy).mpr hshort)]
  · rcases rest with _ | ⟨a, rest⟩
    · simp [pduHeader, hversion, hshort]
    · simp only [hT, List.length_cons] at hlt
      omega
  · rcases rest with _ | ⟨a, rest⟩
    · simp [hT] at hle
    have hy₂ : headerByte s₂ 1 = y.toNat := headerByte_of_append (hon₂.available.trans hT) (by omega)
    have ha : headerByte s₂ 2 = a.toNat := headerByte_of_append (hon₂.available.trans hT) (by omega)
    have ha' := a.toNat_lt
    have hmod : y.toNat % 128 = y.toNat - 0x80 := by omega
    rw [hy₂, ha, toNat_and_127, hmod, shiftLeft_or_toNat, transportCheckFastPathLength] at hcode
    by_cases hthree : (y.toNat - 0x80) * 256 + a.toNat < 3
    · have hd : pduHeader false (x :: y :: a :: rest) = .malformed := by
        simp [pduHeader, hversion, hshort, hthree]
      rw [hd]
      rw [if_pos (Or.inl hthree)] at hcode
      exact ⟨-1, s₂, b₂, hcode, Or.inl rfl, by omega, by omega, hon₂⟩
    · have hd : pduHeader false (x :: y :: a :: rest) =
          .declares 3 ((y.toNat - 0x80) * 256 + a.toNat) := by
        simp [pduHeader, hversion, hshort, hthree]
      rw [hd]
      rw [if_neg (by omega)] at hcode
      exact ⟨s₂, b₂, hcode, hon₂, hlen₂⟩

end Cases

/-- TSRequest headers. -/
lemma transportReadHeader_nla (hrel : Arrival.Reliable bio) :
    HeaderOutcome true s bio (pduHeader true (s ++ Arrival.available bio)) := by
  rcases hT : s ++ Arrival.available bio with _ | ⟨x, _ | ⟨y, rest⟩⟩
  · exact transportReadHeader_short hrel true (by simp [hT])
  · exact transportReadHeader_short hrel true (by simp [hT])
  by_cases htag : x.toNat = 0x30
  · by_cases hshort : y.toNat < 0x80
    · exact transportReadHeader_nla_short hrel hT htag hshort
    by_cases hone : y.toNat = 0x81
    · exact transportReadHeader_nla_one hrel hT htag hone
    by_cases htwo : y.toNat = 0x82
    · exact transportReadHeader_nla_two hrel hT htag htwo
    · exact transportReadHeader_nla_long hrel hT htag hshort hone htwo
  · exact transportReadHeader_nla_tag hrel hT htag

/-- TPKT and fast-path headers. -/
lemma transportReadHeader_rdp (hrel : Arrival.Reliable bio) :
    HeaderOutcome false s bio (pduHeader false (s ++ Arrival.available bio)) := by
  rcases hT : s ++ Arrival.available bio with _ | ⟨x, _ | ⟨y, rest⟩⟩
  · exact transportReadHeader_short hrel false (by simp [hT])
  · exact transportReadHeader_short hrel false (by simp [hT])
  by_cases hversion : x.toNat = 3
  · exact transportReadHeader_tpkt hrel hT hversion
  by_cases hshort : y.toNat < 0x80
  · exact transportReadHeader_fastPath_short hrel hT hversion hshort
  · exact transportReadHeader_fastPath_long hrel hT hversion hshort

/-- The header part of a call, by the header in the bytes at hand. -/
lemma transportReadHeader_spec (hrel : Arrival.Reliable bio) (nla : Bool) :
    HeaderOutcome nla s bio (pduHeader nla (s ++ Arrival.available bio)) := by
  cases nla
  · exact transportReadHeader_rdp hrel
  · exact transportReadHeader_nla hrel

end Header

end FreeRdp
