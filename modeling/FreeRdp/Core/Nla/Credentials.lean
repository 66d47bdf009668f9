import FreeRdp.Crypto.BerAttempts
import FreeRdp.Winpr.Crt

/-!
# Credentials

The part of `nla.c` that writes `TSCredentials` and reads them from a decrypted buffer. A string is
copied with the length that its octet string declares, without a look at what is left of the buffer.
The bytes behind the buffer are not known, so the model stops where they are copied, behind the end.
-/

namespace FreeRdp

open WStream Attempt

/-- `SEC_WINNT_AUTH_IDENTITY`: each string with its characters. -/
structure NlaIdentity where
  domain : List UInt16
  user : List UInt16
  password : List UInt16
  deriving DecidableEq, Repr

/-! ### Reading -/

/-- The characters of a copied string; an odd last byte is not one of them. -/
def utf16OfBytes : List UInt8 → List UInt16
  | b :: b' :: bytes => UInt16.ofNat (b.toNat + b'.toNat <<< 8) :: utf16OfBytes bytes
  | _ => []

/-- `CopyMemory` from the stream, and the seek behind the copied bytes. -/
def copyMemory (n : Nat) : Attempt WStream (List UInt8) := fun s =>
  (if s.remainingLength < n then none else some (s.read n).1, s.seek n)

/-- The tags of a string: its declared length. -/
def nlaReadStringTags (tag : Nat) : Attempt WStream Nat := do
  let _ ← takeBerContextualTag tag true
  takeBerOctetStringTag

/-- The bytes of a string, which are copied if there are any. -/
def copyString (malloc : Malloc) (length : Nat) : Attempt WStream (List UInt8) :=
  if 0 < length then do
    require (malloc.succeeds length)
    copyMemory length
  else pure []

/-- A string of `TSPasswordCreds`: the bytes that are copied. -/
def nlaReadString (malloc : Malloc) (tag : Nat) : Attempt WStream (List UInt8) := do
  copyString malloc (← nlaReadStringTags tag)

/-- The copied bytes of the three strings. -/
structure CopiedCreds where
  domain : List UInt8
  user : List UInt8
  password : List UInt8
  deriving DecidableEq, Repr

/-- The identity that is made of the copied bytes. -/
def CopiedCreds.identity (creds : CopiedCreds) : NlaIdentity :=
  ⟨utf16OfBytes creds.domain, utf16OfBytes creds.user, utf16OfBytes creds.password⟩

/-- `nla_read_ts_password_creds`. -/
def nlaReadTsPasswordCreds (malloc : Malloc) : Attempt WStream CopiedCreds := do
  let length ← takeBerSequenceTag
  if length = 0 then pure ⟨[], [], []⟩
  else
    let domain ← nlaReadString malloc 0
    let user ← nlaReadString malloc 1
    let password ← nlaReadString malloc 2
    pure ⟨domain, user, password⟩

/-- The elements of `TSCredentials` in front of the credentials. -/
def nlaReadTsCredentialsTags : Attempt WStream Unit := do
  let _ ← takeBerSequenceTag
  -- [0] credType (INTEGER)
  let _ ← takeBerContextualTag 0 true
  skipBerInteger
  -- [1] credentials (OCTET STRING)
  let _ ← takeBerContextualTag 1 true
  let _ ← takeBerOctetStringTag
  pure ()

/-- `nla_read_ts_credentials`. -/
def nlaReadTsCredentials (malloc : Malloc) : Attempt WStream CopiedCreds := do
  nlaReadTsCredentialsTags
  nlaReadTsPasswordCreds malloc

/-! ### What is read -/

/-- The string at the position declares no more bytes than are left. -/
def StringFits (malloc : Malloc) (tag : Nat) (s : WStream) : Prop :=
  ∀ length s', nlaReadStringTags tag s = (some length, s') → malloc.succeeds length = true →
    length ≤ s'.remainingLength

/-- Each string that `nla_read_ts_password_creds` comes to declares no more bytes than are left. -/
def PasswordCredsFit (malloc : Malloc) (s : WStream) : Prop :=
  ∀ length s₀, takeBerSequenceTag s = (some length, s₀) → length ≠ 0 →
    StringFits malloc 0 s₀ ∧ ∀ domain s₁, nlaReadString malloc 0 s₀ = (some domain, s₁) →
      StringFits malloc 1 s₁ ∧ ∀ user s₂, nlaReadString malloc 1 s₁ = (some user, s₂) →
        StringFits malloc 2 s₂

/-- Each string of a buffer declares no more bytes than are left. -/
def CredentialsFit (malloc : Malloc) (s : WStream) : Prop :=
  ∀ u s', nlaReadTsCredentialsTags s = (some u, s') → PasswordCredsFit malloc s'

section Inside

variable {malloc : Malloc} {tag : Nat} {s : WStream} {buffer : List UInt8}

lemma keeps_nlaReadStringTags (tag : Nat) : (nlaReadStringTags tag).Keeps (Inside buffer) :=
  (keeps_takeBerContextualTag _ _).bind fun _ => keeps_takeBerOctetStringTag

lemma keeps_nlaReadTsCredentialsTags : nlaReadTsCredentialsTags.Keeps (Inside buffer) :=
  keeps_takeBerSequenceTag.bind fun _ => (keeps_takeBerContextualTag _ _).bind fun _ =>
    keeps_skipBerInteger.bind fun _ => (keeps_takeBerContextualTag _ _).bind fun _ =>
      keeps_takeBerOctetStringTag.bind fun _ => keeps_pure _

/-- Bytes are copied inside exactly if they are there. -/
lemma copyString_inside (hs : s.Inside buffer) (length : Nat) :
    ((copyString malloc length s).2.Inside buffer ↔
      (malloc.succeeds length = true → length ≤ s.remainingLength)) ∧
      ∀ bytes s', copyString malloc length s = (some bytes, s') →
        s'.Inside buffer ∧ bytes <:+: buffer := by
  unfold copyString
  split
  · cases hmalloc : malloc.succeeds length with
    | false => exact ⟨iff_of_true hs nofun, nofun⟩
    | true =>
      show ((copyMemory length s).2.Inside buffer ↔ _) ∧ ∀ bytes s', copyMemory length s = _ → _
      unfold copyMemory
      obtain ⟨rfl, hpos⟩ := hs
      by_cases hlength : length ≤ s.remainingLength
      · rw [if_neg (Nat.not_lt.mpr hlength)]
        have hseek := inside_seek ⟨rfl, hpos⟩ hlength
        refine ⟨iff_of_true hseek fun _ => hlength, ?_⟩
        rintro bytes s' ⟨⟩
        exact ⟨hseek, (List.take_prefix _ _).isInfix.trans (List.drop_suffix _ _).isInfix⟩
      · rw [if_pos (Nat.not_le.mp hlength)]
        refine ⟨iff_of_false (fun hseek => hlength ?_) fun hle => hlength (hle rfl), nofun⟩
        have hle := hseek.2
        rw [pos_seek] at hle
        unfold remainingLength
        omega
  · refine ⟨iff_of_true hs fun _ => by omega, ?_⟩
    rintro bytes s' ⟨⟩
    exact ⟨hs, List.nil_infix⟩

/-- A copied string is inside, and it is copied inside exactly if it fits. -/
lemma nlaReadString_inside (hs : s.Inside buffer) :
    ((nlaReadString malloc tag s).2.Inside buffer ↔ StringFits malloc tag s) ∧
      ∀ bytes s', nlaReadString malloc tag s = (some bytes, s') →
        s'.Inside buffer ∧ bytes <:+: buffer := by
  have htags : ∀ length s', nlaReadStringTags tag s = (some length, s') → s'.Inside buffer :=
    fun length s' h => (keeps_nlaReadStringTags tag).inside hs h
  constructor
  · refine (inside_bind_iff htags).trans ?_
    rw [and_iff_right (keeps_nlaReadStringTags tag s hs)]
    refine forall₃_congr fun length s' h => ?_
    exact (copyString_inside (htags length s' h) length).1
  · intro bytes s' hread
    obtain ⟨length, s₁, h₁, hread⟩ := bind_eq_some hread
    exact (copyString_inside (htags length s₁ h₁) length).2 bytes s' hread

lemma nlaReadTsPasswordCreds_inside (hs : s.Inside buffer) :
    ((nlaReadTsPasswordCreds malloc s).2.Inside buffer ↔ PasswordCredsFit malloc s) ∧
      ∀ creds s', nlaReadTsPasswordCreds malloc s = (some creds, s') →
        creds.domain <:+: buffer ∧ creds.user <:+: buffer ∧ creds.password <:+: buffer := by
  have htag : ∀ length s₀, takeBerSequenceTag s = (some length, s₀) → s₀.Inside buffer :=
    fun length s₀ h => keeps_takeBerSequenceTag.inside hs h
  constructor
  · refine (inside_bind_iff htag).trans ?_
    rw [and_iff_right (keeps_takeBerSequenceTag s hs)]
    refine forall₃_congr fun length s₀ h₀ => ?_
    have hs₀ := htag length s₀ h₀
    split
    · rename_i hzero
      exact iff_of_true hs₀ fun hne => absurd hzero hne
    rename_i hne
    rw [imp_iff_right hne]
    -- the three strings, each behind the one before
    refine (inside_bind_iff fun _ _ h => ((nlaReadString_inside hs₀).2 _ _ h).1).trans ?_
    refine and_congr (nlaReadString_inside hs₀).1 (forall₃_congr fun domain s₁ h₁ => ?_)
    have hs₁ := ((nlaReadString_inside hs₀).2 _ _ h₁).1
    refine (inside_bind_iff fun _ _ h => ((nlaReadString_inside hs₁).2 _ _ h).1).trans ?_
    refine and_congr (nlaReadString_inside hs₁).1 (forall₃_congr fun user s₂ h₂ => ?_)
    have hs₂ := ((nlaReadString_inside hs₁).2 _ _ h₂).1
    refine (inside_bind_iff fun _ _ h => ((nlaReadString_inside hs₂).2 _ _ h).1).trans ?_
    refine (and_iff_left ?_).trans (nlaReadString_inside hs₂).1
    exact fun _ _ h => ((nlaReadString_inside hs₂).2 _ _ h).1
  · intro creds s' hread
    obtain ⟨length, s₀, h₀, hread⟩ := bind_eq_some hread
    have hs₀ := htag length s₀ h₀
    split at hread
    · cases hread
      exact ⟨List.nil_infix, List.nil_infix, List.nil_infix⟩
    obtain ⟨domain, s₁, h₁, hread⟩ := bind_eq_some hread
    obtain ⟨hs₁, hdomain⟩ := (nlaReadString_inside hs₀).2 _ _ h₁
    obtain ⟨user, s₂, h₂, hread⟩ := bind_eq_some hread
    obtain ⟨hs₂, huser⟩ := (nlaReadString_inside hs₁).2 _ _ h₂
    obtain ⟨password, s₃, h₃, hread⟩ := bind_eq_some hread
    obtain ⟨-, hpassword⟩ := (nlaReadString_inside hs₂).2 _ _ h₃
    cases hread
    exact ⟨hdomain, huser, hpassword⟩

/-- Credentials are read inside of the buffer if and only if each string that the reader comes to
declares no more bytes than are left; the strings of a reading are parts of the buffer. -/
theorem nlaReadTsCredentials_inside_iff (malloc : Malloc) (bytes : List UInt8) :
    ((nlaReadTsCredentials malloc (ofBytes bytes)).2.Inside bytes ↔
        CredentialsFit malloc (ofBytes bytes)) ∧
      ∀ creds s', nlaReadTsCredentials malloc (ofBytes bytes) = (some creds, s') →
        creds.domain <:+: bytes ∧ creds.user <:+: bytes ∧ creds.password <:+: bytes := by
  have hs : (ofBytes bytes).Inside bytes := ⟨rfl, Nat.zero_le _⟩
  have htags : ∀ u s', nlaReadTsCredentialsTags (ofBytes bytes) = (some u, s') → s'.Inside bytes :=
    fun u s' h => keeps_nlaReadTsCredentialsTags.inside hs h
  constructor
  · refine (inside_bind_iff htags).trans ?_
    rw [and_iff_right (keeps_nlaReadTsCredentialsTags _ hs)]
    exact forall₃_congr fun u s' h => (nlaReadTsPasswordCreds_inside (htags u s' h)).1
  · intro creds s' hread
    obtain ⟨u, s₁, h₁, hread⟩ := bind_eq_some hread
    exact (nlaReadTsPasswordCreds_inside (htags u s₁ h₁)).2 creds s' hread

/-- The domain declares 127 bytes at the end of the buffer. -/
theorem nlaReadTsCredentials_overrun :
    ¬(nlaReadTsCredentials mallocAll (ofBytes [0x30, 0x0F, 0xA0, 0x03, 0x02, 0x01, 0x01, 0xA1, 0x08,
      0x04, 0x06, 0x30, 0x04, 0xA0, 0x02, 0x04, 0x7F])).2.Inside
        [0x30, 0x0F, 0xA0, 0x03, 0x02, 0x01, 0x01, 0xA1, 0x08,
          0x04, 0x06, 0x30, 0x04, 0xA0, 0x02, 0x04, 0x7F] := by
  decide

end Inside

/-! ### Writing -/

/-- `nla_sizeof_ts_password_creds`. -/
def nlaSizeofTsPasswordCreds (identity : Option NlaIdentity) : Nat :=
  match identity with
  | none => 0
  | some identity =>
    berSizeofSequenceOctetString (identity.domain.length * 2) +
      berSizeofSequenceOctetString (identity.user.length * 2) +
      berSizeofSequenceOctetString (identity.password.length * 2)

/-- `nla_sizeof_ts_credentials`. -/
def nlaSizeofTsCredentials (identity : Option NlaIdentity) : Nat :=
  berSizeofInteger 1 + berSizeofContextualTag (berSizeofInteger 1) +
    berSizeofSequenceOctetString (berSizeofSequence (nlaSizeofTsPasswordCreds identity))

/-- `nla_write_ts_password_creds`. -/
def nlaWriteTsPasswordCreds (identity : Option NlaIdentity) : List UInt8 :=
  berWriteSequenceTag (nlaSizeofTsPasswordCreds identity) ++
    match identity with
    | none => []
    | some identity =>
      berWriteSequenceOctetString 0 (bytesUtf16 identity.domain) ++
        (berWriteSequenceOctetString 1 (bytesUtf16 identity.user) ++
          berWriteSequenceOctetString 2 (bytesUtf16 identity.password))

/-- `nla_write_ts_credentials`. -/
def nlaWriteTsCredentials (identity : Option NlaIdentity) : List UInt8 :=
  let passwordSize := berSizeofSequence (nlaSizeofTsPasswordCreds identity)
  berWriteSequenceTag (nlaSizeofTsCredentials identity) ++
    (berWriteContextualTag 0 (berSizeofInteger 1) true ++ (berWriteInteger 1 ++
      (berWriteContextualTag 1 (berSizeofOctetString passwordSize) true ++
        berWriteOctetStringTag passwordSize))) ++
    nlaWriteTsPasswordCreds identity

/-- `nla_encode_ts_credentials`: the length of the buffer and the bytes that are written. -/
def nlaEncodeTsCredentials (disableCredentialsDelegation : Bool) (identity : Option NlaIdentity) :
    Nat × List UInt8 :=
  let identity := if disableCredentialsDelegation then identity.map fun _ => ⟨[], [], []⟩
    else identity
  (berSizeofSequence (nlaSizeofTsCredentials identity), nlaWriteTsCredentials identity)

/-! ### Reading what has been written -/

section RoundTrip

variable {identity : NlaIdentity} {string : List UInt16}

lemma length_bytesUtf16 (string : List UInt16) :
    (bytesUtf16 string).length = string.length * 2 := by
  rw [bytesUtf16, List.length_flatMap]
  simp [bytesUInt16]

lemma utf16OfBytes_bytesUtf16 (string : List UInt16) :
    utf16OfBytes (bytesUtf16 string) = string := by
  induction string with
  | nil => rfl
  | cons c string ih =>
    have hlt := UInt16.toNat_lt c
    have hchar : UInt16.ofNat ((UInt8.ofNat c.toNat).toNat +
        (UInt8.ofNat (c.toNat >>> 8)).toNat <<< 8) = c := by
      rw [← UInt16.toNat_inj, UInt16.toNat_ofNat', UInt8.toNat_ofNat', UInt8.toNat_ofNat',
        Nat.shiftLeft_eq, Nat.shiftRight_eq_div_pow]
      omega
    show UInt16.ofNat _ :: utf16OfBytes (bytesUtf16 string) = _
    rw [ih, hchar]

lemma reads_copyMemory {bytes : List UInt8} : (copyMemory bytes.length).Reads bytes bytes := by
  intro s rest hs
  have hremaining := remainingLength_of_unread hs
  rw [copyMemory, if_neg (by omega), read_of_unread hs rfl]

/-- A string of less than 64 KiB is read back. -/
lemma reads_nlaReadString (tag : Nat) {bytes : List UInt8} (h : bytes.length < 2 ^ 16) :
    (nlaReadString mallocAll tag).Reads (berWriteSequenceOctetString tag bytes) bytes := by
  rw [berWriteSequenceOctetString, berWriteOctetString_eq, ← List.append_assoc]
  refine ((reads_takeBerContextualTag _ _ _).bind (reads_takeBerOctetStringTag _)).bind ?_
  rw [Nat.mod_eq_of_lt h]
  unfold copyString
  split
  · have hmalloc : mallocAll.succeeds bytes.length = true :=
      decide_eq_true (by rw [SSIZE_MAX]; omega)
    exact reads_require_bind hmalloc reads_copyMemory
  · rename_i hempty
    obtain rfl := List.length_eq_zero_iff.mp (Nat.eq_zero_of_not_pos hempty)
    exact reads_pure []

/-- `TSPasswordCreds` of which the reader does not take the length for 0. -/
lemma reads_nlaReadTsPasswordCreds (hdomain : identity.domain.length * 2 < 2 ^ 16)
    (huser : identity.user.length * 2 < 2 ^ 16) (hpassword : identity.password.length * 2 < 2 ^ 16)
    (hsize : nlaSizeofTsPasswordCreds (some identity) % 2 ^ 16 ≠ 0) :
    (nlaReadTsPasswordCreds mallocAll).Reads (nlaWriteTsPasswordCreds (some identity))
      ⟨bytesUtf16 identity.domain, bytesUtf16 identity.user, bytesUtf16 identity.password⟩ := by
  rw [← length_bytesUtf16] at hdomain huser hpassword
  refine (reads_takeBerSequenceTag _).bind ?_
  rw [if_neg hsize]
  refine (reads_nlaReadString 0 hdomain).bind ((reads_nlaReadString 1 huser).bind ?_)
  rw [← List.append_nil (berWriteSequenceOctetString 2 _)]
  exact (reads_nlaReadString 2 hpassword).bind (reads_pure _)

/-- The elements of `TSCredentials` in front of the credentials are read back. -/
lemma reads_nlaReadTsCredentialsTags (size length passwordSize : Nat) :
    nlaReadTsCredentialsTags.Reads (berWriteSequenceTag size ++
      (berWriteContextualTag 0 (berSizeofInteger 1) true ++ (berWriteInteger 1 ++
        (berWriteContextualTag 1 length true ++ berWriteOctetStringTag passwordSize)))) () := by
  refine (reads_takeBerSequenceTag _).bind ((reads_takeBerContextualTag _ _ _).bind ?_)
  refine (reads_skipBerInteger 1).bind ((reads_takeBerContextualTag _ _ _).bind ?_)
  rw [← List.append_nil (berWriteOctetStringTag passwordSize)]
  exact (reads_takeBerOctetStringTag _).bind (reads_pure ())

/-- The encoded credentials of an identity whose strings have less than 64 KiB are read back. -/
lemma nlaReadTsCredentials_encode (hdomain : identity.domain.length * 2 < 2 ^ 16)
    (huser : identity.user.length * 2 < 2 ^ 16) (hpassword : identity.password.length * 2 < 2 ^ 16)
    (hsize : nlaSizeofTsPasswordCreds (some identity) % 2 ^ 16 ≠ 0) :
    (nlaReadTsCredentials mallocAll
      (ofBytes (nlaEncodeTsCredentials false (some identity)).2)).1.map CopiedCreds.identity =
        some identity := by
  have hreads : (nlaReadTsCredentials mallocAll).Reads (nlaWriteTsCredentials (some identity))
      ⟨bytesUtf16 identity.domain, bytesUtf16 identity.user, bytesUtf16 identity.password⟩ :=
    (reads_nlaReadTsCredentialsTags _ _ _).bind
      (reads_nlaReadTsPasswordCreds hdomain huser hpassword hsize)
  have hread := hreads (ofBytes (nlaEncodeTsCredentials false (some identity)).2) [] (by
    rw [unread_ofBytes, List.append_nil]
    rfl)
  rw [hread]
  simp only [Option.map_some, CopiedCreds.identity, utf16OfBytes_bytesUtf16]

/-- The first two strings are read back, and the last one is lost if the length of its octet string
is a multiple of 65536. -/
lemma nlaReadTsCredentials_wrapped (hdomain : identity.domain.length * 2 < 2 ^ 16)
    (huser : identity.user.length * 2 < 2 ^ 16)
    (hpassword : identity.password.length * 2 % 2 ^ 16 = 0)
    (hsize : nlaSizeofTsPasswordCreds (some identity) % 2 ^ 16 ≠ 0) :
    (nlaReadTsCredentials mallocAll).Finishes (nlaWriteTsCredentials (some identity))
      ⟨bytesUtf16 identity.domain, bytesUtf16 identity.user, []⟩ := by
  rw [← length_bytesUtf16] at hdomain huser hpassword
  refine (reads_nlaReadTsCredentialsTags _ _ _).bind_finishes ?_
  refine (reads_takeBerSequenceTag _).bind_finishes ?_
  rw [if_neg hsize]
  refine (reads_nlaReadString 0 hdomain).bind_finishes ?_
  refine (reads_nlaReadString 1 huser).bind_finishes ?_
  rw [berWriteSequenceOctetString, berWriteOctetString_eq, ← List.append_assoc]
  refine Reads.bind_finishes ?_ (finishes_pure _)
  rw [← List.append_nil (_ ++ _)]
  refine ((reads_takeBerContextualTag _ _ _).bind (reads_takeBerOctetStringTag _)).bind ?_
  rw [hpassword]
  exact reads_pure []

/-- A sequence whose length looks like 0 is not read. -/
lemma nlaReadTsCredentials_unread (hsize : nlaSizeofTsPasswordCreds (some identity) % 2 ^ 16 = 0) :
    (nlaReadTsCredentials mallocAll).Finishes (nlaWriteTsCredentials (some identity))
      ⟨[], [], []⟩ := by
  refine (reads_nlaReadTsCredentialsTags _ _ _).bind_finishes ?_
  refine (reads_takeBerSequenceTag _).bind_finishes ?_
  rw [if_pos hsize]
  exact finishes_pure _

/-- A password of 32768 characters is lost. -/
private lemma nlaReadTsCredentials_longPassword {password : List UInt16}
    (h : password.length = 32768) :
    (nlaReadTsCredentials mallocAll (ofBytes (nlaEncodeTsCredentials false
      (some ⟨[], [], password⟩)).2)).1.map CopiedCreds.identity = some ⟨[], [], []⟩ := by
  have hsize : nlaSizeofTsPasswordCreds (some ⟨[], [], password⟩) % 2 ^ 16 ≠ 0 := by
    simp only [nlaSizeofTsPasswordCreds, h]
    decide
  have hempty : ([] : List UInt16).length * 2 < 2 ^ 16 := by decide
  have hpassword : password.length * 2 % 2 ^ 16 = 0 := by omega
  have hread : (nlaReadTsCredentials mallocAll).Finishes
      (nlaWriteTsCredentials (some ⟨[], [], password⟩)) ⟨[], [], []⟩ :=
    nlaReadTsCredentials_wrapped hempty hempty hpassword hsize
  exact congrArg (Option.map CopiedCreds.identity) (hread _ (unread_ofBytes _))

/-- Without delegation the strings are not encoded; a password of 65536 bytes is lost, and so are
strings whose elements have 65536 bytes together. -/
theorem nlaEncodeTsCredentials_differs :
    (nlaReadTsCredentials mallocAll (ofBytes (nlaEncodeTsCredentials true
      (some ⟨[0x44], [0x55], [0x50]⟩)).2)).1.map CopiedCreds.identity = some ⟨[], [], []⟩ ∧
    (nlaReadTsCredentials mallocAll (ofBytes (nlaEncodeTsCredentials false
      (some ⟨[], [], List.replicate 32768 0x50⟩)).2)).1.map CopiedCreds.identity =
        some ⟨[], [], []⟩ ∧
    (nlaReadTsCredentials mallocAll (ofBytes (nlaEncodeTsCredentials false
      (some ⟨[], List.replicate 16379 0x55, List.replicate 16379 0x50⟩)).2)).1.map
        CopiedCreds.identity = some ⟨[], [], []⟩ := by
  refine ⟨by decide, nlaReadTsCredentials_longPassword List.length_replicate, ?_⟩
  have hsize : nlaSizeofTsPasswordCreds (some ⟨[], List.replicate 16379 0x55,
      List.replicate 16379 0x50⟩) % 2 ^ 16 = 0 := by
    simp only [nlaSizeofTsPasswordCreds, List.length_replicate]
    decide
  exact congrArg (Option.map CopiedCreds.identity)
    (nlaReadTsCredentials_unread hsize _ (unread_ofBytes _))

end RoundTrip

end FreeRdp
