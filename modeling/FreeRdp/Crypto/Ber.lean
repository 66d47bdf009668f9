import FreeRdp.Winpr.Reading

/-!
# BER

The elements of `crypto/ber.c` that connection PDUs are made of: a tag, the length of the content in
one to three bytes, and the content. Each reader is followed by what the writer writes for it; the
writers give their bytes.
-/

namespace FreeRdp

open WStream

def BER_CLASS_UNIV : Nat := 0x00
def BER_CLASS_APPL : Nat := 0x40
def BER_PRIMITIVE : Nat := 0x00
def BER_CONSTRUCT : Nat := 0x20
def BER_TAG_MASK : Nat := 0x1F
def BER_TAG_BOOLEAN : Nat := 0x01
def BER_TAG_INTEGER : Nat := 0x02
def BER_TAG_OCTET_STRING : Nat := 0x04
def BER_TAG_ENUMERATED : Nat := 0x0A
def BER_TAG_SEQUENCE : Nat := 0x10
def BER_TAG_SEQUENCE_OF : Nat := 0x10

/-- `BER_PC`. -/
def berPc (pc : Bool) : Nat := if pc then BER_CONSTRUCT else BER_PRIMITIVE

/-- The next byte must be the given one. -/
def readByteIs (byte : Nat) (s : WStream) : Option (Unit × WStream) :=
  if s.remainingLength < 1 then none
  else if s.readUInt8.1 ≠ byte then none
  else some ((), s.seek 1)

/-! ### Lengths -/

/-- `ber_read_length`. -/
def berReadLength (s : WStream) : Option (Nat × WStream) :=
  if s.remainingLength < 1 then none
  else
    let (byte, s) := s.readUInt8
    if byte &&& 0x80 ≠ 0 then
      let byte := byte &&& 0x7F
      if s.remainingLength < byte then none
      else if byte = 1 then some s.readUInt8
      else if byte = 2 then some s.readUInt16BE
      else none
    else some (byte, s)

/-- `ber_write_length`. -/
def berWriteLength (length : Nat) : List UInt8 :=
  if length > 0xFF then bytesUInt8 (0x80 ^^^ 2) ++ bytesUInt16BE length
  else if length > 0x7F then bytesUInt8 (0x80 ^^^ 1) ++ bytesUInt8 length
  else bytesUInt8 length

/-- `_ber_sizeof_length`. -/
def berSizeofLength (length : Nat) : Nat :=
  if length > 0xFF then 3 else if length > 0x7F then 2 else 1

/-! ### Tags -/

/-- `ber_read_universal_tag`. -/
def berReadUniversalTag (tag : Nat) (pc : Bool) : WStream → Option (Unit × WStream) :=
  readByteIs (BER_CLASS_UNIV ||| berPc pc ||| BER_TAG_MASK &&& tag)

/-- `ber_write_universal_tag`. -/
def berWriteUniversalTag (tag : Nat) (pc : Bool) : List UInt8 :=
  bytesUInt8 (BER_CLASS_UNIV ||| berPc pc ||| BER_TAG_MASK &&& tag)

/-- `ber_read_application_tag`: the length of the content. -/
def berReadApplicationTag (tag : Nat) : WStream → Option (Nat × WStream) :=
  if tag > 30 then
    parseThen (readByteIs (BER_CLASS_APPL ||| BER_CONSTRUCT ||| BER_TAG_MASK)) fun _ =>
      parseThen (readByteIs tag) fun _ => berReadLength
  else
    parseThen (readByteIs (BER_CLASS_APPL ||| BER_CONSTRUCT ||| BER_TAG_MASK &&& tag)) fun _ =>
      berReadLength

/-- `ber_write_application_tag`. -/
def berWriteApplicationTag (tag length : Nat) : List UInt8 :=
  if tag > 30 then
    bytesUInt8 (BER_CLASS_APPL ||| BER_CONSTRUCT ||| BER_TAG_MASK) ++
      (bytesUInt8 tag ++ berWriteLength length)
  else
    bytesUInt8 (BER_CLASS_APPL ||| BER_CONSTRUCT ||| BER_TAG_MASK &&& tag) ++ berWriteLength length

/-- `ber_read_sequence_tag`. -/
def berReadSequenceTag : WStream → Option (Nat × WStream) :=
  parseThen (readByteIs (BER_CLASS_UNIV ||| BER_CONSTRUCT ||| BER_TAG_SEQUENCE_OF)) fun _ =>
    berReadLength

/-- `ber_write_sequence_tag`. -/
def berWriteSequenceTag (length : Nat) : List UInt8 :=
  bytesUInt8 (BER_CLASS_UNIV ||| BER_CONSTRUCT ||| BER_TAG_MASK &&& BER_TAG_SEQUENCE) ++
    berWriteLength length

/-- `ber_read_octet_string_tag`. -/
def berReadOctetStringTag : WStream → Option (Nat × WStream) :=
  parseThen (berReadUniversalTag BER_TAG_OCTET_STRING false) fun _ => berReadLength

/-- `ber_write_octet_string`. -/
def berWriteOctetString (octStr : List UInt8) : List UInt8 :=
  berWriteUniversalTag BER_TAG_OCTET_STRING false ++ berWriteLength octStr.length ++ octStr

/-- `ber_sizeof_octet_string`. -/
def berSizeofOctetString (length : Nat) : Nat := 1 + berSizeofLength length + length

/-- `ber_sizeof_sequence`. -/
def berSizeofSequence (length : Nat) : Nat := 1 + berSizeofLength length + length

/-! ### Values -/

/-- An element of one byte. -/
def berReadByte (tag : Nat) : WStream → Option (Nat × WStream) :=
  parseThen (berReadUniversalTag tag false) fun _ =>
    parseThen berReadLength fun length s =>
      if length ≠ 1 ∨ s.remainingLength < 1 then none else some s.readUInt8

/-- `ber_read_enumerated`. -/
def berReadEnumerated (count : Nat) : WStream → Option (Nat × WStream) :=
  parseThen (berReadByte BER_TAG_ENUMERATED) fun enumerated s =>
    if enumerated + 1 > count then none else some (enumerated, s)

/-- `ber_write_enumerated`. -/
def berWriteEnumerated (enumerated : Nat) : List UInt8 :=
  berWriteUniversalTag BER_TAG_ENUMERATED false ++ berWriteLength 1 ++ bytesUInt8 enumerated

/-- `ber_read_BOOL`. -/
def berReadBOOL : WStream → Option (Bool × WStream) :=
  parseThen (berReadByte BER_TAG_BOOLEAN) fun v s => some (v ≠ 0, s)

/-- `ber_write_BOOL`. -/
def berWriteBOOL (value : Bool) : List UInt8 :=
  berWriteUniversalTag BER_TAG_BOOLEAN false ++ berWriteLength 1 ++
    bytesUInt8 (if value then 0xFF else 0)

/-- The content of an integer of one to four bytes. -/
def berReadIntegerContent (length : Nat) (s : WStream) : Option (Nat × WStream) :=
  if s.remainingLength < length then none
  else
    match length with
    | 1 => some s.readUInt8
    | 2 => some s.readUInt16BE
    | 3 =>
      let (byte, s) := s.readUInt8
      let (value, s) := s.readUInt16BE
      some ((value + byte <<< 16) % 2 ^ 32, s)
    | 4 => some s.readUInt32BE
    | _ => none

/-- `ber_read_integer`. -/
def berReadInteger : WStream → Option (Nat × WStream) :=
  parseThen (berReadUniversalTag BER_TAG_INTEGER false) fun _ =>
    parseThen berReadLength berReadIntegerContent

/-- The content that `ber_write_integer` writes. -/
def berIntegerContent (value : Nat) : List UInt8 :=
  if value < 0x80 then bytesUInt8 value
  else if value < 0x8000 then bytesUInt16BE value
  else if value < 0x800000 then bytesUInt8 (value >>> 16) ++ bytesUInt16BE (value &&& 0xFFFF)
  else bytesUInt32BE value

/-- The length that `ber_write_integer` writes. -/
def berIntegerLength (value : Nat) : Nat :=
  if value < 0x80 then 1 else if value < 0x8000 then 2 else if value < 0x800000 then 3 else 4

/-- `ber_write_integer`. -/
def berWriteInteger (value : Nat) : List UInt8 :=
  berWriteUniversalTag BER_TAG_INTEGER false ++ berWriteLength (berIntegerLength value) ++
    berIntegerContent value

/-- `ber_sizeof_integer`. -/
def berSizeofInteger (value : Nat) : Nat :=
  if value < 0x80 then 3
  else if value < 0x8000 then 4
  else if value < 0x800000 then 5
  else 6

/-! ### Reading what has been written -/

lemma parses_readByteIs {byte : Nat} (h : byte < 2 ^ 8) :
    Parses (readByteIs byte) (bytesUInt8 byte) () := by
  intro s rest hs
  have hremaining := remainingLength_of_unread hs
  have hlength : (bytesUInt8 byte).length = 1 := rfl
  rw [readByteIs, readUInt8_bytes hs h, if_neg (by omega), if_neg (not_not.mpr rfl)]
  rfl

lemma length_berWriteLength (length : Nat) :
    (berWriteLength length).length = berSizeofLength length := by
  unfold berWriteLength berSizeofLength
  split
  · rfl
  · split <;> rfl

lemma bytesUInt16BE_mod (v : Nat) : bytesUInt16BE (v % 2 ^ 16) = bytesUInt16BE v := by
  have hhigh : UInt8.ofNat ((v % 2 ^ 16) >>> 8) = UInt8.ofNat (v >>> 8) := by
    rw [← UInt8.toNat_inj, UInt8.toNat_ofNat', UInt8.toNat_ofNat', Nat.shiftRight_eq_div_pow,
      Nat.shiftRight_eq_div_pow]
    omega
  have hlow : UInt8.ofNat (v % 2 ^ 16) = UInt8.ofNat v := by
    rw [← UInt8.toNat_inj, UInt8.toNat_ofNat', UInt8.toNat_ofNat']
    omega
  rw [bytesUInt16BE, bytesUInt16BE, hhigh, hlow]

/-- Of a length, the lower 16 bits are read back. -/
lemma parses_berReadLength_mod (length : Nat) :
    Parses berReadLength (berWriteLength length) (length % 2 ^ 16) := by
  intro s rest hs
  have hremaining := remainingLength_of_unread hs
  have hsize := length_berWriteLength length
  unfold berWriteLength at hs
  unfold berSizeofLength at hsize
  rw [hsize] at hremaining ⊢
  unfold berReadLength
  split at hs <;> rename_i hlong
  · rw [List.append_assoc, ← bytesUInt16BE_mod] at hs
    have hrest : (s.seek 1).unread = bytesUInt16BE (length % 2 ^ 16) ++ rest :=
      unread_seek_append hs rfl
    have hremaining' := remainingLength_of_unread hrest
    have hlength : (bytesUInt16BE (length % 2 ^ 16)).length = 2 := rfl
    rw [if_pos hlong] at hremaining ⊢
    rw [hlength] at hremaining'
    rw [if_neg (by omega), readUInt8_bytes hs (by decide)]
    have hread := readUInt16BE_bytes hrest (Nat.mod_lt _ (Nat.two_pow_pos 16))
    simp only [seek_seek] at hread
    simp [hread, hremaining']
    omega
  · split at hs <;> rename_i hmiddle
    · rw [List.append_assoc] at hs
      have hrest : (s.seek 1).unread = bytesUInt8 length ++ rest := unread_seek_append hs rfl
      have hremaining' := remainingLength_of_unread hrest
      have hlength : (bytesUInt8 length).length = 1 := rfl
      rw [if_neg hlong, if_pos hmiddle] at hremaining ⊢
      rw [if_neg (by omega), readUInt8_bytes hs (by decide), Nat.mod_eq_of_lt (by omega)]
      have hread := readUInt8_bytes hrest (by omega)
      simp only [seek_seek] at hread
      simp [hread, hremaining', hlength]
    · rw [if_neg hlong, if_neg hmiddle] at hremaining ⊢
      have hbit : length &&& 0x80 = 0 := by
        rw [show (0x80 : Nat) = 2 ^ 7 from rfl, Nat.and_two_pow, Nat.testBit_lt_two_pow (by omega)]
        rfl
      rw [if_neg (by omega), readUInt8_bytes hs (by omega), Nat.mod_eq_of_lt (by omega)]
      simp [hbit]

/-- A length of at most 16 bits is read back. -/
lemma parses_berReadLength {length : Nat} (h : length < 2 ^ 16) :
    Parses berReadLength (berWriteLength length) length := by
  have hmod := parses_berReadLength_mod length
  rwa [Nat.mod_eq_of_lt h] at hmod

lemma parses_berReadUniversalTag {tag : Nat} (pc : Bool) :
    Parses (berReadUniversalTag tag pc) (berWriteUniversalTag tag pc) () := by
  have htag : BER_TAG_MASK &&& tag < 2 ^ 8 := Nat.and_le_left.trans_lt (by decide)
  refine parses_readByteIs (Nat.or_lt_two_pow (Nat.or_lt_two_pow (by decide) ?_) htag)
  cases pc <;> decide

lemma parses_berReadApplicationTag {tag length : Nat} (htag : 30 < tag) (hbyte : tag < 2 ^ 8)
    (h : length < 2 ^ 16) :
    Parses (berReadApplicationTag tag) (berWriteApplicationTag tag length) length := by
  rw [berReadApplicationTag, berWriteApplicationTag, if_pos htag, if_pos htag]
  refine (parses_readByteIs (by decide)).andThen ?_
  exact (parses_readByteIs hbyte).andThen (parses_berReadLength h)

lemma parses_berReadSequenceTag {length : Nat} (h : length < 2 ^ 16) :
    Parses berReadSequenceTag (berWriteSequenceTag length) length :=
  (parses_readByteIs (by decide)).andThen (parses_berReadLength h)

/-- The tag and length of an octet string. -/
lemma parses_berReadOctetStringTag {length : Nat} (h : length < 2 ^ 16) :
    Parses berReadOctetStringTag
      (berWriteUniversalTag BER_TAG_OCTET_STRING false ++ berWriteLength length) length :=
  (parses_berReadUniversalTag false).andThen (parses_berReadLength h)

lemma parses_berReadByte (tag : Nat) {value : Nat} (h : value < 2 ^ 8) :
    Parses (berReadByte tag)
      (berWriteUniversalTag tag false ++ berWriteLength 1 ++ bytesUInt8 value) value := by
  rw [List.append_assoc]
  refine (parses_berReadUniversalTag false).andThen ?_
  refine (parses_berReadLength (by decide)).andThen fun s rest hs => ?_
  have hremaining := remainingLength_of_unread hs
  have hlength : (bytesUInt8 value).length = 1 := rfl
  rw [if_neg (by omega), readUInt8_bytes hs h]
  rfl

lemma parses_berReadEnumerated {enumerated count : Nat} (h : enumerated < count)
    (hcount : count ≤ 2 ^ 8) :
    Parses (berReadEnumerated count) (berWriteEnumerated enumerated) enumerated := by
  rw [← List.append_nil (berWriteEnumerated enumerated)]
  refine (parses_berReadByte _ (by omega)).andThen fun s rest _ => ?_
  rw [if_neg (by omega)]
  rfl

lemma parses_berReadBOOL (value : Bool) : Parses berReadBOOL (berWriteBOOL value) value := by
  rw [← List.append_nil (berWriteBOOL value)]
  refine (parses_berReadByte _ (by split <;> decide)).andThen fun s rest _ => ?_
  cases value <;> rfl

lemma length_berIntegerContent (value : Nat) :
    (berIntegerContent value).length = berIntegerLength value := by
  unfold berIntegerContent berIntegerLength
  split
  · rfl
  split
  · rfl
  split <;> rfl

/-- The content of an integer is read back, whatever its width. -/
lemma parses_berReadIntegerContent {value : Nat} (h : value < 2 ^ 32) :
    Parses (berReadIntegerContent (berIntegerLength value)) (berIntegerContent value) value := by
  intro s rest hs
  have hremaining := remainingLength_of_unread hs
  rw [length_berIntegerContent] at hremaining ⊢
  unfold berReadIntegerContent
  rw [if_neg (by omega)]
  unfold berIntegerContent at hs
  unfold berIntegerLength
  split at hs <;> rename_i h₁
  · simp only [h₁, if_true]
    rw [readUInt8_bytes hs (by omega)]
  split at hs <;> rename_i h₂
  · simp only [h₁, h₂, if_true, if_false]
    rw [readUInt16BE_bytes hs (by omega)]
  split at hs <;> rename_i h₃
  · simp only [h₁, h₂, h₃, if_true, if_false]
    rw [List.append_assoc] at hs
    have hrest : (s.seek 1).unread = bytesUInt16BE (value &&& 0xFFFF) ++ rest :=
      unread_seek_append hs rfl
    have hlow : value &&& 0xFFFF = value % 2 ^ 16 := Nat.and_two_pow_sub_one_eq_mod value 16
    have hhigh : value >>> 16 = value / 2 ^ 16 := Nat.shiftRight_eq_div_pow value 16
    rw [readUInt8_bytes hs (by omega)]
    dsimp only
    rw [readUInt16BE_bytes hrest (by omega), hlow, hhigh, Nat.shiftLeft_eq, seek_seek]
    have hvalue : (value % 2 ^ 16 + value / 2 ^ 16 * 2 ^ 16) % 2 ^ 32 = value := by omega
    rw [hvalue]
  · simp only [h₁, h₂, h₃, if_false]
    rw [readUInt32BE_bytes hs h]

lemma parses_berReadInteger {value : Nat} (h : value < 2 ^ 32) :
    Parses berReadInteger (berWriteInteger value) value := by
  rw [berWriteInteger, List.append_assoc]
  refine (parses_berReadUniversalTag false).andThen ?_
  refine (parses_berReadLength ?_).andThen (parses_berReadIntegerContent h)
  unfold berIntegerLength
  split_ifs <;> decide

/-! ### Sizes -/

lemma length_berWriteInteger (value : Nat) :
    (berWriteInteger value).length = berSizeofInteger value := by
  simp only [berWriteInteger, List.length_append, length_berIntegerContent, length_berWriteLength]
  unfold berIntegerLength berSizeofInteger
  split_ifs <;> rfl

lemma length_berWriteOctetString (octStr : List UInt8) :
    (berWriteOctetString octStr).length = berSizeofOctetString octStr.length := by
  simp only [berWriteOctetString, List.length_append, length_berWriteLength]
  rfl

/-- Bytes that are elements one after the other, where the length that each of them declares is the
length of the content that follows it. -/
inductive BerEncoded : List UInt8 → Prop
  | nil : BerEncoded []
  | primitive {tag : UInt8} {length content rest : List UInt8} (htag : tag ≠ 0x30 ∧ tag ≠ 0x7F)
      (hlength : Parses berReadLength length content.length) (hrest : BerEncoded rest) :
      BerEncoded ([tag] ++ length ++ content ++ rest)
  | sequence {length content rest : List UInt8}
      (hlength : Parses berReadLength length content.length) (hcontent : BerEncoded content)
      (hrest : BerEncoded rest) : BerEncoded ([0x30] ++ length ++ content ++ rest)
  | application (tag : UInt8) {length content rest : List UInt8}
      (hlength : Parses berReadLength length content.length) (hcontent : BerEncoded content)
      (hrest : BerEncoded rest) : BerEncoded ([0x7F, tag] ++ length ++ content ++ rest)

lemma BerEncoded.integer {rest : List UInt8} (hrest : BerEncoded rest) (value : Nat) :
    BerEncoded (berWriteInteger value ++ rest) := by
  refine .primitive (by decide) ?_ hrest
  rw [length_berIntegerContent]
  refine parses_berReadLength ?_
  unfold berIntegerLength
  split_ifs <;> decide

lemma BerEncoded.octetString {rest octStr : List UInt8} (hrest : BerEncoded rest)
    (h : octStr.length < 2 ^ 16) : BerEncoded (berWriteOctetString octStr ++ rest) :=
  .primitive (by decide) (parses_berReadLength h) hrest

end FreeRdp
