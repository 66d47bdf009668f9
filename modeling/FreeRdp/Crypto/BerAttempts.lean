import FreeRdp.Crypto.Ber

/-!
# BER on untrusted bytes

The readers of `crypto/ber.c` again, with the position they leave in the stream when they fail. A
position moves over every byte that is read, so that a stream whose position is not behind its end
has only been read inside.
-/

namespace FreeRdp

open WStream

def BER_CLASS_CTXT : Nat := 0x80

/-- The first byte of a contextual tag. -/
def berContextualByte (tag : Nat) (pc : Bool) : Nat :=
  BER_CLASS_CTXT ||| berPc pc ||| BER_TAG_MASK &&& tag

/-- A stream on the buffer of which no byte behind the end has been read. -/
def WStream.Inside (buffer : List UInt8) (s : WStream) : Prop :=
  s.buffer = buffer ∧ s.pos ≤ buffer.length

instance (buffer : List UInt8) (s : WStream) : Decidable (s.Inside buffer) :=
  inferInstanceAs (Decidable (_ ∧ _))

namespace Attempt

variable {α β : Type}

/-! ### Readers -/

/-- `Stream_Read_UINT16_BE`. -/
def takeUInt16BE : Attempt WStream Nat := fun s => (some s.readUInt16BE.1, s.readUInt16BE.2)

/-- `ber_read_length`. -/
def takeBerLength : Attempt WStream Nat := do
  need 1
  let byte ← takeUInt8
  if byte &&& 0x80 ≠ 0 then
    need (byte &&& 0x7F)
    if byte &&& 0x7F = 1 then takeUInt8
    else if byte &&& 0x7F = 2 then takeUInt16BE
    else fail
  else pure byte

/-- The next byte must be the given one. -/
def takeByteIs (byte : Nat) : Attempt WStream Unit := do
  need 1
  require ((← takeUInt8) = byte)

/-- `ber_read_universal_tag`. -/
def takeBerUniversalTag (tag : Nat) (pc : Bool) : Attempt WStream Unit :=
  takeByteIs (BER_CLASS_UNIV ||| berPc pc ||| BER_TAG_MASK &&& tag)

/-- `ber_read_contextual_tag`: another byte is left in the stream. -/
def takeBerContextualTag (tag : Nat) (pc : Bool) : Attempt WStream Nat := do
  need 1
  let byte ← takeUInt8
  if byte ≠ berContextualByte tag pc then
    modify (·.rewind 1)
    fail
  else takeBerLength

/-- `ber_read_sequence_tag`. -/
def takeBerSequenceTag : Attempt WStream Nat := do
  takeByteIs (BER_CLASS_UNIV ||| BER_CONSTRUCT ||| BER_TAG_SEQUENCE_OF)
  takeBerLength

/-- `ber_read_octet_string_tag`. -/
def takeBerOctetStringTag : Attempt WStream Nat := do
  takeBerUniversalTag BER_TAG_OCTET_STRING false
  takeBerLength

/-- `ber_read_integer` without a place for the value. -/
def skipBerInteger : Attempt WStream Unit := do
  takeBerUniversalTag BER_TAG_INTEGER false
  let length ← takeBerLength
  need length
  modify (·.seek length)

/-- `ber_read_integer`. -/
def takeBerInteger : Attempt WStream Nat := do
  takeBerUniversalTag BER_TAG_INTEGER false
  let length ← takeBerLength
  ofParser (berReadIntegerContent length)

/-! ### The same readers

Where they succeed, these readers are those of `Ber`. -/

lemma toParser_takeByteIs (byte : Nat) : (takeByteIs byte).toParser = readByteIs byte := by
  funext s
  rw [takeByteIs, toParser_need_bind, readByteIs]
  congr 1
  show (require (s.readUInt8.1 = byte) : Attempt WStream Unit).toParser (s.seek 1) = _
  rw [ite_not]
  unfold toParser require
  split_ifs with h <;> simp_all

lemma toParser_takeBerLength : takeBerLength.toParser = berReadLength := by
  funext s
  rw [takeBerLength, toParser_need_bind, berReadLength]
  congr 1
  show (if s.readUInt8.1 &&& 0x80 ≠ 0 then _ else _ : Attempt WStream Nat).toParser (s.seek 1) = _
  rw [toParser_ite, toParser_need_bind, toParser_ite, toParser_ite]
  rfl

lemma toParser_takeBerUniversalTag (tag : Nat) (pc : Bool) :
    (takeBerUniversalTag tag pc).toParser = berReadUniversalTag tag pc :=
  toParser_takeByteIs _

lemma toParser_takeBerSequenceTag : takeBerSequenceTag.toParser = berReadSequenceTag := by
  rw [takeBerSequenceTag, toParser_bind, toParser_takeByteIs, toParser_takeBerLength]
  rfl

lemma toParser_takeBerOctetStringTag :
    takeBerOctetStringTag.toParser = berReadOctetStringTag := by
  rw [takeBerOctetStringTag, toParser_bind, toParser_takeBerUniversalTag, toParser_takeBerLength]
  rfl

lemma toParser_takeBerInteger : takeBerInteger.toParser = berReadInteger := by
  rw [takeBerInteger, toParser_bind, toParser_takeBerUniversalTag]
  simp only [toParser_bind, toParser_takeBerLength, toParser_ofParser]
  rfl

/-! ### Nothing behind the end is read -/

variable {buffer : List UInt8}

lemma inside_seek {s : WStream} {n : Nat} (hs : s.Inside buffer) (hn : n ≤ s.remainingLength) :
    (s.seek n).Inside buffer := by
  obtain ⟨rfl, hpos⟩ := hs
  unfold remainingLength at hn
  refine ⟨rfl, ?_⟩
  rw [pos_seek]
  omega

section Inside

variable {m : Attempt WStream α} {f : α → Attempt WStream β}

/-- What an attempt that stays inside leaves. -/
lemma Keeps.inside (h : m.Keeps (Inside buffer)) {s s' : WStream} (hs : s.Inside buffer) {a : α}
    (hm : m s = (some a, s')) : s'.Inside buffer := by
  have hinside := h s hs
  rwa [hm] at hinside

/-- Two attempts that have a result. -/
lemma bind_eq_some {s s'' : WStream} {b : β} (h : (m >>= f) s = (some b, s'')) :
    ∃ a s', m s = (some a, s') ∧ f a s' = (some b, s'') := by
  change andThen m f s = _ at h
  unfold andThen at h
  rcases hms : m s with ⟨_ | a, s'⟩
  · rw [hms] at h
    cases h
  · rw [hms] at h
    exact ⟨a, s', rfl, h⟩

/-- Of two attempts, the second one starts inside if the first one has a result. -/
lemma inside_bind_iff {s : WStream} (h : ∀ a s', m s = (some a, s') → s'.Inside buffer) :
    ((m >>= f) s).2.Inside buffer ↔
      (m s).2.Inside buffer ∧ ∀ a s', m s = (some a, s') → (f a s').2.Inside buffer := by
  show (andThen m f s).2.Inside buffer ↔ _
  unfold andThen
  rcases hms : m s with ⟨_ | a, s'⟩
  · exact (and_iff_left nofun).symm
  · constructor
    · intro hf
      refine ⟨h a s' hms, ?_⟩
      rintro a' s'' ⟨⟩
      exact hf
    · exact fun hf => hf.2 a s' rfl

/-- What comes behind a check may read the bytes that are there. -/
lemma keeps_need_bind {n : Nat} {k : Unit → Attempt WStream β}
    (h : ∀ s : WStream, s.Inside buffer → n ≤ s.remainingLength → (k () s).2.Inside buffer) :
    (need n >>= k).Keeps (Inside buffer) := by
  intro s hs
  by_cases hn : n ≤ s.remainingLength
  · rw [need_bind_apply hn]
    exact h s hs hn
  · rw [need_bind_fails (Nat.not_le.mp hn)]
    exact hs

lemma keeps_takeByteIs (byte : Nat) : (takeByteIs byte).Keeps (Inside buffer) :=
  keeps_need_bind fun _ hs hn => keeps_require _ _ (inside_seek hs hn)

lemma keeps_takeBerLength : takeBerLength.Keeps (Inside buffer) := by
  refine keeps_need_bind fun s hs hn => ?_
  have hseek := inside_seek hs hn
  show ((if s.readUInt8.1 &&& 0x80 ≠ 0 then _ else _ : Attempt WStream Nat) (s.seek 1)).2.Inside
    buffer
  refine keeps_ite (fun _ => ?_) (fun _ => keeps_pure _) _ hseek
  refine keeps_need_bind fun s hs hn => ?_
  split
  · rename_i hone
    exact inside_seek hs (hone ▸ hn)
  split
  · rename_i htwo
    exact inside_seek hs (htwo ▸ hn)
  · exact hs

lemma keeps_takeBerContextualTag (tag : Nat) (pc : Bool) :
    (takeBerContextualTag tag pc).Keeps (Inside buffer) := by
  refine keeps_need_bind fun s hs hn => ?_
  show ((if s.readUInt8.1 ≠ _ then _ else _ : Attempt WStream Nat) (s.seek 1)).2.Inside buffer
  split
  · -- the byte is left in the stream
    refine ⟨hs.1, ?_⟩
    show s.pos + 1 - 1 ≤ buffer.length
    rw [Nat.add_sub_cancel]
    exact hs.2
  · exact keeps_takeBerLength _ (inside_seek hs hn)

lemma keeps_takeBerSequenceTag : takeBerSequenceTag.Keeps (Inside buffer) :=
  (keeps_takeByteIs _).bind fun _ => keeps_takeBerLength

lemma keeps_takeBerOctetStringTag : takeBerOctetStringTag.Keeps (Inside buffer) :=
  (keeps_takeByteIs _).bind fun _ => keeps_takeBerLength

lemma keeps_skipBerInteger : skipBerInteger.Keeps (Inside buffer) :=
  (keeps_takeByteIs _).bind fun _ => keeps_takeBerLength.bind fun _ =>
    keeps_need_bind fun _ hs hn => inside_seek hs hn

end Inside

end Attempt

/-! ### Writers -/

/-- `ber_write_contextual_tag`. -/
def berWriteContextualTag (tag length : Nat) (pc : Bool) : List UInt8 :=
  bytesUInt8 (berContextualByte tag pc) ++ berWriteLength length

/-- `ber_sizeof_contextual_tag` and `ber_sizeof_sequence_tag`. -/
def berSizeofTag (length : Nat) : Nat := 1 + berSizeofLength length

def berSizeofContextualTag (length : Nat) : Nat := berSizeofTag length

def berSizeofSequenceTag (length : Nat) : Nat := berSizeofTag length

/-- `ber_write_octet_string_tag`. -/
def berWriteOctetStringTag (length : Nat) : List UInt8 :=
  berWriteUniversalTag BER_TAG_OCTET_STRING false ++ berWriteLength length

/-- `ber_write_sequence_octet_string`. -/
def berWriteSequenceOctetString (tag : Nat) (octStr : List UInt8) : List UInt8 :=
  berWriteContextualTag tag (berSizeofOctetString octStr.length) true ++ berWriteOctetString octStr

/-- `ber_sizeof_sequence_octet_string`. -/
def berSizeofSequenceOctetString (length : Nat) : Nat :=
  berSizeofContextualTag (berSizeofOctetString length) + berSizeofOctetString length

lemma length_berWriteContextualTag (tag length : Nat) (pc : Bool) :
    (berWriteContextualTag tag length pc).length = berSizeofContextualTag length := by
  rw [berWriteContextualTag, List.length_append, length_berWriteLength]
  rfl

lemma length_berWriteSequenceTag (length : Nat) :
    (berWriteSequenceTag length).length = berSizeofSequenceTag length := by
  rw [berWriteSequenceTag, List.length_append, length_berWriteLength]
  rfl

lemma length_berWriteSequenceOctetString (tag : Nat) (octStr : List UInt8) :
    (berWriteSequenceOctetString tag octStr).length =
      berSizeofSequenceOctetString octStr.length := by
  rw [berWriteSequenceOctetString, List.length_append, length_berWriteContextualTag,
    length_berWriteOctetString]
  rfl

/-- The tag of an octet string, and its bytes. -/
lemma berWriteOctetString_eq (octStr : List UInt8) :
    berWriteOctetString octStr = berWriteOctetStringTag octStr.length ++ octStr := rfl

namespace Attempt

section Reads

/-- Of a length, the lower 16 bits are read back. -/
lemma reads_takeBerLength (length : Nat) :
    takeBerLength.Reads (berWriteLength length) (length % 2 ^ 16) := by
  rw [reads_iff_parses, toParser_takeBerLength]
  exact parses_berReadLength_mod length

lemma reads_takeByteIs {byte : Nat} (h : byte < 2 ^ 8) :
    (takeByteIs byte).Reads (bytesUInt8 byte) () := by
  rw [reads_iff_parses, toParser_takeByteIs]
  exact parses_readByteIs h

lemma berContextualByte_lt (tag : Nat) (pc : Bool) : berContextualByte tag pc < 2 ^ 8 := by
  have htag : BER_TAG_MASK &&& tag < 2 ^ 8 := Nat.and_le_left.trans_lt (by decide)
  refine Nat.or_lt_two_pow (Nat.or_lt_two_pow (by decide) ?_) htag
  cases pc <;> decide

lemma reads_takeBerContextualTag (tag length : Nat) (pc : Bool) :
    (takeBerContextualTag tag pc).Reads (berWriteContextualTag tag length pc) (length % 2 ^ 16) := by
  refine reads_need_bind ?_ ((reads_takeUInt8 (berContextualByte_lt tag pc)).bind ?_)
  · rw [berWriteContextualTag, List.length_append]
    exact Nat.le_add_right 1 _
  · rw [if_neg (not_not_intro rfl)]
    exact reads_takeBerLength length

/-- Another byte, or the end of the stream, is left where it is. -/
lemma takeBerContextualTag_other {tag : Nat} {pc : Bool} {s : WStream}
    (h : ∀ b rest, s.unread = b :: rest → b.toNat ≠ berContextualByte tag pc) :
    takeBerContextualTag tag pc s = (none, s) := by
  unfold takeBerContextualTag
  rcases hunread : s.unread with _ | ⟨b, rest⟩
  · exact need_bind_fails (by rw [remainingLength_eq, hunread]; exact Nat.one_pos)
  · rw [need_bind_apply (by rw [remainingLength_eq, hunread, List.length_cons]; omega)]
    show (if s.readUInt8.1 ≠ berContextualByte tag pc then _ else _ : Attempt WStream Nat)
      (s.seek 1) = _
    rw [readUInt8_of_unread hunread, if_pos (h b rest hunread)]
    rfl

lemma reads_takeBerSequenceTag (length : Nat) :
    takeBerSequenceTag.Reads (berWriteSequenceTag length) (length % 2 ^ 16) :=
  (reads_takeByteIs (by decide)).bind (reads_takeBerLength length)

lemma reads_takeBerUniversalTag (tag : Nat) (pc : Bool) :
    (takeBerUniversalTag tag pc).Reads (berWriteUniversalTag tag pc) () := by
  rw [reads_iff_parses, toParser_takeBerUniversalTag]
  exact parses_berReadUniversalTag pc

lemma reads_takeBerOctetStringTag (length : Nat) :
    takeBerOctetStringTag.Reads (berWriteOctetStringTag length) (length % 2 ^ 16) :=
  (reads_takeBerUniversalTag _ _).bind (reads_takeBerLength length)

lemma berIntegerLength_lt (value : Nat) : berIntegerLength value < 2 ^ 16 := by
  unfold berIntegerLength
  split_ifs <;> decide

lemma reads_takeBerInteger {value : Nat} (h : value < 2 ^ 32) :
    takeBerInteger.Reads (berWriteInteger value) value := by
  rw [reads_iff_parses, toParser_takeBerInteger]
  exact parses_berReadInteger h

lemma reads_skipBerInteger (value : Nat) : skipBerInteger.Reads (berWriteInteger value) () := by
  rw [berWriteInteger, List.append_assoc]
  refine (reads_takeBerUniversalTag _ _).bind ((reads_takeBerLength _).bind ?_)
  rw [Nat.mod_eq_of_lt (berIntegerLength_lt value), ← length_berIntegerContent]
  refine reads_need_bind le_rfl fun s rest _ => ?_
  rfl

end Reads

end Attempt

end FreeRdp
