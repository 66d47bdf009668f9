import FreeRdp.Core.Nla.Credentials

/-!
# TSRequest

The messages of `nla.c` that carry the tokens of CredSSP. The length of every field is computed
before anything is written, and is compared with what has been written behind it. The decoder takes
the fields in the same order, and passes over those that are not there.
-/

namespace FreeRdp

open WStream Attempt

/-- The versions and the fields of `rdpNla` that a `TSRequest` is written from and read to. -/
structure Nla where
  version : UInt32
  peerVersion : UInt32
  errorCode : UInt32
  negoToken : List UInt8
  authInfo : List UInt8
  pubKeyAuth : List UInt8
  clientNonce : List UInt8
  deriving DecidableEq, Repr

/-! ### Sizes -/

/-- An octet string behind a contextual tag. -/
def nlaSizeofField (length : Nat) : Nat :=
  let length := berSizeofOctetString length
  length + berSizeofContextualTag length

/-- `nla_sizeof_nego_token`. -/
def nlaSizeofNegoToken (length : Nat) : Nat := nlaSizeofField length

/-- `nla_sizeof_nego_tokens`. -/
def nlaSizeofNegoTokens (length : Nat) : Nat :=
  let length := nlaSizeofNegoToken length
  let length := length + berSizeofSequenceTag length
  let length := length + berSizeofSequenceTag length
  length + berSizeofContextualTag length

/-- `nla_sizeof_pub_key_auth`. -/
def nlaSizeofPubKeyAuth (length : Nat) : Nat := nlaSizeofField length

/-- `nla_sizeof_auth_info`. -/
def nlaSizeofAuthInfo (length : Nat) : Nat := nlaSizeofField length

/-- `nla_sizeof_client_nonce`. -/
def nlaSizeofClientNonce (length : Nat) : Nat := nlaSizeofField length

/-- `nla_sizeof_ts_request`. -/
def nlaSizeofTsRequest (length : Nat) : Nat :=
  length + berSizeofInteger 2 + berSizeofContextualTag 3

namespace Nla

/-- The length of a field that is only there if it is not empty. -/
def fieldLength (size : Nat → Nat) (bytes : List UInt8) : Nat :=
  if 0 < bytes.length then size bytes.length else 0

/-- An error code is sent to a peer that knows of it. -/
def SendsErrorCode (nla : Nla) : Prop :=
  3 ≤ nla.peerVersion ∧ nla.peerVersion ≠ 5 ∧ nla.errorCode ≠ 0

instance (nla : Nla) : Decidable nla.SendsErrorCode := inferInstanceAs (Decidable (_ ∧ _ ∧ _))

def errorCodeLength (nla : Nla) : Nat :=
  if nla.SendsErrorCode then berSizeofInteger nla.errorCode.toNat else 0

def errorCodeContextLength (nla : Nla) : Nat :=
  if nla.SendsErrorCode then berSizeofContextualTag nla.errorCodeLength else 0

/-- The length of the fields of a message. -/
def length (nla : Nla) : Nat :=
  fieldLength nlaSizeofNegoTokens nla.negoToken +
    fieldLength nlaSizeofPubKeyAuth nla.pubKeyAuth +
    fieldLength nlaSizeofAuthInfo nla.authInfo +
    nla.errorCodeContextLength + nla.errorCodeLength +
    fieldLength nlaSizeofClientNonce nla.clientNonce

end Nla

/-! ### Writing -/

/-- A field of a length above 0, which must be the number of its bytes. -/
def nlaWriteField (length : Nat) (bytes : List UInt8) : Option (List UInt8) :=
  if 0 < length then if bytes.length ≠ length then none else some bytes else some []

/-- `negoTokens` in their two sequences. -/
def nlaWriteNegoTokens (negoToken : List UInt8) : List UInt8 :=
  berWriteContextualTag 1 (berSizeofSequence (berSizeofSequence
    (berSizeofSequenceOctetString negoToken.length))) true ++
  (berWriteSequenceTag (berSizeofSequence (berSizeofSequenceOctetString negoToken.length)) ++
    (berWriteSequenceTag (berSizeofSequenceOctetString negoToken.length) ++
      berWriteSequenceOctetString 0 negoToken))

/-- The error code, which has no check of its length. -/
def nlaWriteErrorCode (nla : Nla) : List UInt8 :=
  if 0 < nla.errorCodeLength then
    berWriteContextualTag 4 nla.errorCodeLength true ++ berWriteInteger nla.errorCode.toNat
  else []

/-- `nla_send`: the length of the stream, and the bytes of the message. -/
def nlaSend (nla : Nla) : Option (Nat × List UInt8) := do
  let tsRequestLength := nlaSizeofTsRequest nla.length
  let version := berWriteSequenceTag tsRequestLength ++
    (berWriteContextualTag 0 3 true ++ berWriteInteger nla.version.toNat)
  -- [1] negoTokens (NegoData)
  let negoTokens ← nlaWriteField (Nla.fieldLength nlaSizeofNegoTokens nla.negoToken)
    (nlaWriteNegoTokens nla.negoToken)
  -- [2] authInfo (OCTET STRING)
  let authInfo ← nlaWriteField (Nla.fieldLength nlaSizeofAuthInfo nla.authInfo)
    (berWriteSequenceOctetString 2 nla.authInfo)
  -- [3] pubKeyAuth (OCTET STRING)
  let pubKeyAuth ← nlaWriteField (Nla.fieldLength nlaSizeofPubKeyAuth nla.pubKeyAuth)
    (berWriteSequenceOctetString 3 nla.pubKeyAuth)
  -- [5] clientNonce (OCTET STRING), behind the error code
  let clientNonce ← nlaWriteField (Nla.fieldLength nlaSizeofClientNonce nla.clientNonce)
    (berWriteSequenceOctetString 5 nla.clientNonce)
  some (berSizeofSequence tsRequestLength, version ++
    (negoTokens ++ (authInfo ++ (pubKeyAuth ++ (nlaWriteErrorCode nla ++ (clientNonce ++ []))))))

/-! ### Reading -/

/-- What stands behind a contextual tag, if the tag is read; else the field is left as it is. -/
def nlaReadField {α : Type} (tag : Nat) (element : Attempt WStream α) (field : α) :
    Attempt WStream α := fun s =>
  match takeBerContextualTag tag true s with
  | (none, s) => (some field, s)
  | (some _, s) => element s

/-- An octet string that is copied to a new buffer. -/
def nlaReadOctetString (malloc : Malloc) : Attempt WStream (List UInt8) := do
  let length ← takeBerOctetStringTag
  need length
  require (malloc.succeeds length)
  takeBytes length

/-- The first of the `negoTokens`. -/
def nlaReadNegoTokens (malloc : Malloc) : Attempt WStream (List UInt8) := do
  let _ ← takeBerSequenceTag
  let _ ← takeBerSequenceTag
  let _ ← takeBerContextualTag 0 true
  nlaReadOctetString malloc

/-- The version of the peer is taken from the first message, and must not change afterwards. -/
def nlaReadVersion (nla : Nla) : Attempt WStream Nla := do
  let _ ← takeBerSequenceTag
  let _ ← takeBerContextualTag 0 true
  let version := UInt32.ofNat (← takeBerInteger)
  let nla := if nla.peerVersion = 0 then { nla with peerVersion := version } else nla
  require (nla.peerVersion = version)
  pure nla

/-- `nla_decode_ts_request`. -/
def nlaDecodeTsRequest (malloc : Malloc) (nla : Nla) : Attempt WStream Nla := do
  let nla ← nlaReadVersion nla
  let negoToken ← nlaReadField 1 (nlaReadNegoTokens malloc) nla.negoToken
  let authInfo ← nlaReadField 2 (nlaReadOctetString malloc) nla.authInfo
  let pubKeyAuth ← nlaReadField 3 (nlaReadOctetString malloc) nla.pubKeyAuth
  let nla := { nla with negoToken := negoToken, authInfo := authInfo, pubKeyAuth := pubKeyAuth }
  if 3 ≤ nla.peerVersion then
    let errorCode ← nlaReadField 4 takeBerInteger nla.errorCode.toNat
    let nla := { nla with errorCode := UInt32.ofNat errorCode }
    if 5 ≤ nla.peerVersion then
      let clientNonce ← nlaReadField 5 (nlaReadOctetString malloc) nla.clientNonce
      pure { nla with clientNonce := clientNonce }
    else pure nla
  else pure nla

/-! ### Reading what has been written -/

/-- The field of the sender if it is there, else the field of the receiver. -/
def receivedField (sent kept : List UInt8) : List UInt8 := if 0 < sent.length then sent else kept

/-- What a receiver of the version of the sender makes of a message. -/
def Nla.received (receiver sender : Nla) : Nla where
  version := receiver.version
  peerVersion := sender.version
  errorCode :=
    if 3 ≤ sender.version then
      if sender.SendsErrorCode then sender.errorCode else receiver.errorCode
    else receiver.errorCode
  negoToken := receivedField sender.negoToken receiver.negoToken
  authInfo := receivedField sender.authInfo receiver.authInfo
  pubKeyAuth := receivedField sender.pubKeyAuth receiver.pubKeyAuth
  clientNonce :=
    if 5 ≤ sender.version then receivedField sender.clientNonce receiver.clientNonce
    else receiver.clientNonce

section Field

variable {α β : Type} {bytes rest body : List UInt8} {a field : α} {b : β} {tag n : Nat}

/-- Bytes whose first one is above the byte of a tag, if there is any. -/
def StartsAbove (tag : Nat) (bytes : List UInt8) : Prop :=
  ∀ b rest, bytes = b :: rest → berContextualByte tag true < b.toNat

lemma startsAbove_nil (tag : Nat) : StartsAbove tag [] := nofun

/-- A field that has been written is read. -/
lemma reads_nlaReadField {element : Attempt WStream α} (h : element.Reads body a) (tag n : Nat)
    (field : α) :
    (nlaReadField tag element field).Reads (berWriteContextualTag tag n true ++ body) a := by
  intro s rest hs
  rw [List.append_assoc] at hs
  unfold nlaReadField
  rw [reads_takeBerContextualTag tag n true s _ hs]
  show element (s.seek _) = _
  rw [h _ rest (unread_seek_append hs rfl), seek_seek, List.length_append]

/-- A field is left if a later one comes next. -/
lemma nlaReadField_absent {element : Attempt WStream α} {s : WStream}
    (h : StartsAbove tag s.unread) : nlaReadField tag element field s = (some field, s) := by
  unfold nlaReadField
  rw [takeBerContextualTag_other fun b rest hs => (h b rest hs).ne']

/-- A field is read exactly if it has been written. -/
lemma finishes_nlaReadField {present : Prop} [Decidable present] {element : Attempt WStream α}
    {f : α → Attempt WStream β} (helement : present → element.Reads body a)
    (hrest : StartsAbove tag rest) (hf : (f (if present then a else field)).Finishes rest b) :
    (nlaReadField tag element field >>= f).Finishes
      ((if present then berWriteContextualTag tag n true ++ body else []) ++ rest) b := by
  by_cases hpresent : present
  · rw [if_pos hpresent] at hf ⊢
    exact (reads_nlaReadField (helement hpresent) tag n field).bind_finishes hf
  · rw [if_neg hpresent] at hf
    rw [if_neg hpresent, List.nil_append]
    intro s hs
    show (andThen (nlaReadField tag element field) f s).1 = some b
    rw [andThen, nlaReadField_absent (hs ▸ hrest)]
    exact hf s hs

/-- A field stands above the tags of the fields before it. -/
lemma startsAbove_field {present : Prop} [Decidable present] {tag' : Nat}
    (htag : berContextualByte tag true < berContextualByte tag' true)
    (hrest : StartsAbove tag rest) :
    StartsAbove tag
      ((if present then berWriteContextualTag tag' n true ++ body else []) ++ rest) := by
  split
  · rintro b rest' ⟨⟩
    rw [UInt8.toNat_ofNat_of_lt' (berContextualByte_lt tag' true)]
    exact htag
  · exact hrest

end Field

/-! ### The fields -/

section Fields

variable {bytes : List UInt8}

lemma nlaWriteField_eq {size : Nat → Nat} {written : List UInt8}
    (hsize : written.length = size bytes.length) (hpos : 0 < size bytes.length) :
    nlaWriteField (Nla.fieldLength size bytes) written =
      some (if 0 < bytes.length then written else []) := by
  unfold nlaWriteField Nla.fieldLength
  by_cases hbytes : 0 < bytes.length
  · rw [if_pos hbytes, if_pos hpos, if_neg (not_not_intro hsize), if_pos hbytes]
  · rw [if_neg hbytes, if_neg (Nat.lt_irrefl 0), if_neg hbytes]

lemma nlaSizeofField_eq (length : Nat) :
    nlaSizeofField length = berSizeofSequenceOctetString length := by
  unfold nlaSizeofField berSizeofSequenceOctetString
  exact Nat.add_comm _ _

lemma berSizeofSequence_eq (length : Nat) :
    berSizeofSequence length = length + berSizeofSequenceTag length := Nat.add_comm _ _

lemma length_nlaWriteNegoTokens (negoToken : List UInt8) :
    (nlaWriteNegoTokens negoToken).length = nlaSizeofNegoTokens negoToken.length := by
  unfold nlaWriteNegoTokens nlaSizeofNegoTokens nlaSizeofNegoToken
  simp only [List.length_append, length_berWriteContextualTag, length_berWriteSequenceTag,
    length_berWriteSequenceOctetString, nlaSizeofField_eq, berSizeofSequence_eq]
  omega

lemma berSizeofSequenceOctetString_pos (length : Nat) :
    0 < berSizeofSequenceOctetString length := by
  unfold berSizeofSequenceOctetString berSizeofOctetString
  omega

lemma reads_nlaReadOctetString (hbytes : bytes.length < 2 ^ 16) :
    (nlaReadOctetString mallocAll).Reads (berWriteOctetString bytes) bytes := by
  rw [berWriteOctetString_eq]
  refine (reads_takeBerOctetStringTag _).bind ?_
  rw [Nat.mod_eq_of_lt hbytes]
  have hmalloc : mallocAll.succeeds bytes.length = true :=
    decide_eq_true (by rw [SSIZE_MAX]; omega)
  exact reads_need_bind (Nat.le_refl _) (reads_require_bind hmalloc (reads_takeBytes rfl))

lemma reads_nlaReadNegoTokens (hbytes : bytes.length < 2 ^ 16) (length length' length'' : Nat) :
    (nlaReadNegoTokens mallocAll).Reads (berWriteSequenceTag length ++
      (berWriteSequenceTag length' ++ (berWriteContextualTag 0 length'' true ++
        berWriteOctetString bytes))) bytes :=
  (reads_takeBerSequenceTag _).bind <| (reads_takeBerSequenceTag _).bind <|
    (reads_takeBerContextualTag _ _ _).bind (reads_nlaReadOctetString hbytes)

lemma nlaWriteErrorCode_eq (nla : Nla) :
    nlaWriteErrorCode nla = if nla.SendsErrorCode then
      berWriteContextualTag 4 nla.errorCodeLength true ++ berWriteInteger nla.errorCode.toNat
    else [] := by
  unfold nlaWriteErrorCode
  by_cases h : nla.SendsErrorCode
  · have hpos : 0 < nla.errorCodeLength := by
      rw [Nla.errorCodeLength, if_pos h, berSizeofInteger]
      split_ifs <;> decide
    rw [if_pos hpos, if_pos h]
  · rw [if_neg (by rw [Nla.errorCodeLength, if_neg h]; exact Nat.lt_irrefl 0), if_neg h]

end Fields

/-! ### Messages -/

section Messages

variable {sender receiver : Nla}

/-- The fields of a message behind its version. -/
def nlaFields (nla : Nla) : List UInt8 :=
  (if 0 < nla.negoToken.length then nlaWriteNegoTokens nla.negoToken else []) ++
    ((if 0 < nla.authInfo.length then berWriteSequenceOctetString 2 nla.authInfo else []) ++
      ((if 0 < nla.pubKeyAuth.length then berWriteSequenceOctetString 3 nla.pubKeyAuth else []) ++
        (nlaWriteErrorCode nla ++
          ((if 0 < nla.clientNonce.length then berWriteSequenceOctetString 5 nla.clientNonce
            else []) ++ []))))

/-- No check of a length fails. -/
lemma nlaSend_eq (nla : Nla) :
    nlaSend nla = some (berSizeofSequence (nlaSizeofTsRequest nla.length),
      (berWriteSequenceTag (nlaSizeofTsRequest nla.length) ++
        (berWriteContextualTag 0 3 true ++ berWriteInteger nla.version.toNat)) ++
          nlaFields nla) := by
  have hfield (tag : Nat) (bytes : List UInt8) :
      nlaWriteField (Nla.fieldLength nlaSizeofField bytes) (berWriteSequenceOctetString tag bytes) =
        some (if 0 < bytes.length then berWriteSequenceOctetString tag bytes else []) := by
    apply nlaWriteField_eq
    · rw [length_berWriteSequenceOctetString, nlaSizeofField_eq]
    · rw [nlaSizeofField_eq]
      exact berSizeofSequenceOctetString_pos _
  have hnego : nlaWriteField (Nla.fieldLength nlaSizeofNegoTokens nla.negoToken)
      (nlaWriteNegoTokens nla.negoToken) =
        some (if 0 < nla.negoToken.length then nlaWriteNegoTokens nla.negoToken else []) := by
    apply nlaWriteField_eq (length_nlaWriteNegoTokens _)
    rw [← length_nlaWriteNegoTokens, nlaWriteNegoTokens, List.length_append,
      length_berWriteContextualTag]
    exact Nat.add_pos_left (Nat.add_pos_left Nat.one_pos _) _
  unfold nlaSend
  rw [hnego]
  show ((nlaWriteField (Nla.fieldLength nlaSizeofField nla.authInfo) _).bind fun _ =>
    (nlaWriteField (Nla.fieldLength nlaSizeofField nla.pubKeyAuth) _).bind fun _ =>
      (nlaWriteField (Nla.fieldLength nlaSizeofField nla.clientNonce) _).bind _) = _
  rw [hfield, hfield, hfield]
  rfl

lemma length_fieldLength {size : Nat → Nat} {bytes written : List UInt8}
    (h : written.length = size bytes.length) :
    (if 0 < bytes.length then written else []).length = Nla.fieldLength size bytes := by
  unfold Nla.fieldLength
  split
  · exact h
  · rfl

lemma length_nlaFields (nla : Nla) : (nlaFields nla).length = nla.length := by
  have hfield (tag : Nat) (bytes : List UInt8) :
      (if 0 < bytes.length then berWriteSequenceOctetString tag bytes else []).length =
        Nla.fieldLength nlaSizeofField bytes :=
    length_fieldLength (by rw [length_berWriteSequenceOctetString, nlaSizeofField_eq])
  have herror : (nlaWriteErrorCode nla).length =
      nla.errorCodeContextLength + nla.errorCodeLength := by
    rw [nlaWriteErrorCode_eq, Nla.errorCodeContextLength]
    split
    · rename_i h
      rw [List.length_append, length_berWriteContextualTag, length_berWriteInteger,
        Nla.errorCodeLength, if_pos h]
    · rename_i h
      rw [Nla.errorCodeLength, if_neg h]
      rfl
  unfold nlaFields
  rw [List.length_append, List.length_append, List.length_append, List.length_append,
    List.length_append, length_fieldLength (length_nlaWriteNegoTokens _), hfield, hfield, hfield,
    herror]
  show _ = Nla.fieldLength nlaSizeofNegoTokens nla.negoToken +
    Nla.fieldLength nlaSizeofField nla.pubKeyAuth + Nla.fieldLength nlaSizeofField nla.authInfo +
    nla.errorCodeContextLength + nla.errorCodeLength +
    Nla.fieldLength nlaSizeofField nla.clientNonce
  rw [List.length_nil]
  omega

/-- The version of both sides fits into the length that is written for it. -/
lemma length_nlaSend {capacity : Nat} {bytes : List UInt8} (hversion : sender.version < 0x80)
    (h : nlaSend sender = some (capacity, bytes)) : bytes.length = capacity := by
  rw [nlaSend_eq] at h
  cases h
  have hinteger : berSizeofInteger sender.version.toNat = berSizeofInteger 2 := by
    have hlt : sender.version.toNat < 0x80 := UInt32.lt_iff_toNat_lt.mp hversion
    unfold berSizeofInteger
    rw [if_pos hlt, if_pos (by decide)]
  rw [List.length_append, List.length_append, List.length_append, length_nlaFields,
    length_berWriteInteger, hinteger, length_berWriteSequenceTag, length_berWriteContextualTag]
  unfold berSizeofSequence berSizeofSequenceTag berSizeofTag nlaSizeofTsRequest
  omega

lemma reads_nlaReadVersion
    (hpeer : receiver.peerVersion = 0 ∨ receiver.peerVersion = sender.version) (length : Nat) :
    (nlaReadVersion receiver).Reads (berWriteSequenceTag length ++
      (berWriteContextualTag 0 3 true ++ berWriteInteger sender.version.toNat))
        { receiver with peerVersion := sender.version } := by
  refine (reads_takeBerSequenceTag _).bind ((reads_takeBerContextualTag _ _ _).bind ?_)
  rw [← List.append_nil (berWriteInteger _)]
  refine (reads_takeBerInteger (UInt32.toNat_lt _)).bind ?_
  rw [UInt32.ofNat_toNat]
  have hpeer' : (if receiver.peerVersion = 0 then { receiver with peerVersion := sender.version }
      else receiver) = { receiver with peerVersion := sender.version } := by
    split
    · rfl
    · rename_i hne
      rw [← hpeer.resolve_left hne]
  dsimp only
  rw [hpeer']
  exact reads_require_bind (decide_eq_true rfl) (reads_pure _)

/-- The fields of a message are read one after the other, as far as the version allows. -/
lemma finishes_nlaFields (hnego : sender.negoToken.length < 2 ^ 16)
    (hauth : sender.authInfo.length < 2 ^ 16) (hkey : sender.pubKeyAuth.length < 2 ^ 16)
    (hnonce : sender.clientNonce.length < 2 ^ 16) {length : Nat}
    (hpeer : receiver.peerVersion = 0 ∨ receiver.peerVersion = sender.version) :
    (nlaDecodeTsRequest mallocAll receiver).Finishes ((berWriteSequenceTag length ++
      (berWriteContextualTag 0 3 true ++ berWriteInteger sender.version.toNat)) ++
        nlaFields sender) (receiver.received sender) := by
  unfold nlaDecodeTsRequest
  refine (reads_nlaReadVersion hpeer length).bind_finishes ?_
  unfold nlaFields
  rw [nlaWriteErrorCode_eq]
  have hnil (tag : Nat) := startsAbove_nil tag
  refine finishes_nlaReadField (fun _ => reads_nlaReadNegoTokens hnego _ _ _) ?_ ?_
  · exact startsAbove_field (by decide) <| startsAbove_field (by decide) <|
      startsAbove_field (by decide) <| startsAbove_field (by decide) (hnil 1)
  refine finishes_nlaReadField (fun _ => reads_nlaReadOctetString hauth) ?_ ?_
  · exact startsAbove_field (by decide) <| startsAbove_field (by decide) <|
      startsAbove_field (by decide) (hnil 2)
  refine finishes_nlaReadField (fun _ => reads_nlaReadOctetString hkey) ?_ ?_
  · exact startsAbove_field (by decide) <| startsAbove_field (by decide) (hnil 3)
  dsimp only
  split
  · rename_i hthree
    refine finishes_nlaReadField (fun _ => reads_takeBerInteger (UInt32.toNat_lt _)) ?_ ?_
    · exact startsAbove_field (by decide) (hnil 4)
    have herror : UInt32.ofNat (if sender.SendsErrorCode then sender.errorCode.toNat
        else receiver.errorCode.toNat) =
          if sender.SendsErrorCode then sender.errorCode else receiver.errorCode := by
      split <;> exact UInt32.ofNat_toNat
    rw [herror]
    split
    · rename_i hfive
      refine finishes_nlaReadField (fun _ => reads_nlaReadOctetString hnonce) (hnil 5) ?_
      rw [Nla.received, if_pos hthree, if_pos hfive]
      exact finishes_pure _
    · rename_i hfive
      rw [Nla.received, if_pos hthree, if_neg hfive]
      exact finishes_pure _
  · rename_i hthree
    have hfive : ¬5 ≤ sender.version := fun hfive => hthree (UInt32.le_trans (by decide) hfive)
    rw [Nla.received, if_neg hthree, if_neg hfive]
    exact finishes_pure _

/-- A field of a message is shorter than the message. -/
lemma length_lt_of_nlaFields (h : (nlaFields sender).length < 2 ^ 16) :
    sender.negoToken.length < 2 ^ 16 ∧ sender.authInfo.length < 2 ^ 16 ∧
      sender.pubKeyAuth.length < 2 ^ 16 ∧ sender.clientNonce.length < 2 ^ 16 := by
  have hsize (n : Nat) : n ≤ nlaSizeofField n := by
    show n ≤ 1 + berSizeofLength n + n + _
    omega
  have hfield (bytes : List UInt8) : bytes.length ≤ Nla.fieldLength nlaSizeofField bytes := by
    unfold Nla.fieldLength
    split
    · exact hsize _
    · omega
  have hnego : sender.negoToken.length ≤ Nla.fieldLength nlaSizeofNegoTokens sender.negoToken := by
    unfold Nla.fieldLength
    split
    · refine (hsize _).trans ?_
      exact Nat.le_add_right_of_le (Nat.le_add_right_of_le (Nat.le_add_right _ _))
    · omega
  have hauth := hfield sender.authInfo
  have hkey := hfield sender.pubKeyAuth
  have hnonce := hfield sender.clientNonce
  have hlength : (nlaFields sender).length = Nla.fieldLength nlaSizeofNegoTokens sender.negoToken +
    Nla.fieldLength nlaSizeofField sender.pubKeyAuth +
    Nla.fieldLength nlaSizeofField sender.authInfo +
    sender.errorCodeContextLength + sender.errorCodeLength +
    Nla.fieldLength nlaSizeofField sender.clientNonce := length_nlaFields sender
  omega

/-- A message of at most 65535 bytes is decoded to the fields that the version of the peer knows. -/
lemma nlaDecodeTsRequest_nlaSend {capacity : Nat} {bytes : List UInt8}
    (hpeer : receiver.peerVersion = 0 ∨ receiver.peerVersion = sender.version)
    (h : nlaSend sender = some (capacity, bytes)) (hlength : bytes.length ≤ 65535) :
    (nlaDecodeTsRequest mallocAll receiver (ofBytes bytes)).1 =
      some (receiver.received sender) := by
  rw [nlaSend_eq] at h
  cases h
  rw [List.length_append] at hlength
  have hfields : (nlaFields sender).length < 2 ^ 16 := by omega
  obtain ⟨hnego, hauth, hkey, hnonce⟩ := length_lt_of_nlaFields hfields
  exact finishes_nlaFields hnego hauth hkey hnonce hpeer _ (unread_ofBytes _)

/-- A message is written whatever its fields are, it fills its stream, and up to 65535 bytes it is
decoded to its fields. Credentials that are delegated are read back if their strings have less than
32768 characters, and the length of all three together does not look like 0. -/
theorem nla_roundTrip :
    (∀ sender receiver : Nla, sender.version < 0x80 →
      receiver.peerVersion = 0 ∨ receiver.peerVersion = sender.version →
        ∃ capacity bytes, nlaSend sender = some (capacity, bytes) ∧ bytes.length = capacity ∧
          (bytes.length ≤ 65535 → (nlaDecodeTsRequest mallocAll receiver (ofBytes bytes)).1 =
            some (receiver.received sender))) ∧
    ∀ identity : NlaIdentity, identity.domain.length < 32768 → identity.user.length < 32768 →
      identity.password.length < 32768 →
        nlaSizeofTsPasswordCreds (some identity) % 65536 ≠ 0 →
          (nlaReadTsCredentials mallocAll
            (ofBytes (nlaEncodeTsCredentials false (some identity)).2)).1.map
              CopiedCreds.identity = some identity := by
  constructor
  · intro sender receiver hversion hpeer
    obtain ⟨capacity, bytes, h⟩ : ∃ capacity bytes, nlaSend sender = some (capacity, bytes) :=
      ⟨_, _, nlaSend_eq sender⟩
    exact ⟨capacity, bytes, h, length_nlaSend hversion h, nlaDecodeTsRequest_nlaSend hpeer h⟩
  · intro identity hdomain huser hpassword hsize
    exact nlaReadTsCredentials_encode (by omega) (by omega) (by omega) hsize

theorem nla_roundTrip_token :
    (∃ bytes, nlaSend ⟨6, 6, 0, [1, 2], [], [], []⟩ = some (19, bytes) ∧
      (nlaDecodeTsRequest mallocAll ⟨6, 0, 0, [], [], [], []⟩ (ofBytes bytes)).1 =
        some ⟨6, 6, 0, [1, 2], [], [], []⟩) ∧
    (nlaReadTsCredentials mallocAll (ofBytes (nlaEncodeTsCredentials false
      (some ⟨[0x44], [0x55], [0x50]⟩)).2)).1.map CopiedCreds.identity =
        some ⟨[0x44], [0x55], [0x50]⟩ := by
  constructor
  · obtain ⟨capacity, bytes, hsend, hlength, h⟩ := nla_roundTrip.1 ⟨6, 6, 0, [1, 2], [], [], []⟩
      ⟨6, 0, 0, [], [], [], []⟩ (by decide) (Or.inl rfl)
    have hcapacity : (nlaSend ⟨6, 6, 0, [1, 2], [], [], []⟩).map Prod.fst = some 19 := by decide
    rw [hsend] at hcapacity
    obtain rfl : capacity = 19 := Option.some.inj hcapacity
    exact ⟨bytes, hsend, h (by omega)⟩
  · exact nla_roundTrip.2 ⟨[0x44], [0x55], [0x50]⟩ (by decide) (by decide) (by decide) (by decide)

end Messages

end FreeRdp
