import FreeRdp.Winpr.Crt

/-!
# A BIO

The read side of a non-blocking BIO is the list of what its reads will find: data, of which a read
takes as much as it asks for, and reads without data. `BIO_read` and `BIO_write` take an `int`; a
length that is not positive reads and writes nothing.
-/

namespace FreeRdp

/-- What a read can find: at least one byte, or no data with the result `-n`. -/
inductive BioEvent where
  | data (byte : UInt8) (bytes : List UInt8)
  | noData (n : Nat)
  deriving DecidableEq, Repr

/-- Everything that will be read. -/
def bioContent : List BioEvent → List UInt8
  | [] => []
  | .data byte bytes :: bio => byte :: bytes ++ bioContent bio
  | .noData _ :: bio => bioContent bio

/-- The number of reads that a BIO has an answer for, if they are as short as possible. -/
def bioSize : List BioEvent → Nat
  | [] => 0
  | .data _ bytes :: bio => 1 + bytes.length + bioSize bio
  | .noData _ :: bio => 1 + bioSize bio

/-- The number of reads without data that will be found before the end. -/
def bioWaits : List BioEvent → Nat
  | [] => 0
  | .data _ _ :: bio => bioWaits bio
  | .noData _ :: bio => 1 + bioWaits bio

/-- Data that was not taken stays in front. -/
def bioPutBack (bytes : List UInt8) (bio : List BioEvent) : List BioEvent :=
  match bytes with
  | [] => bio
  | byte :: bytes => .data byte bytes :: bio

/-- `BIO_read` of `n` bytes: the result, the bytes and the BIO. At the end it has no data. -/
def bioRead (n : Nat) : List BioEvent → Int × List UInt8 × List BioEvent
  | [] => (-1, [], [])
  | .noData k :: bio => (-(k : Int), [], bio)
  | .data byte bytes :: bio =>
    (((byte :: bytes).take n).length, (byte :: bytes).take n, bioPutBack ((byte :: bytes).drop n) bio)

/-- `BIO_read` with a length that is a `size_t`. -/
def bioReadSize (n : Nat) (bio : List BioEvent) : Int × List UInt8 × List BioEvent :=
  let dlen := Int.bmod n (2 ^ 32)
  if dlen ≤ 0 then (0, [], bio) else bioRead dlen.toNat bio

/-- `BIO_write` with a length that is a `size_t`: the bytes it gets, if it gets any. -/
def bioWriteSize (bytes : List UInt8) : Option (List UInt8) :=
  let dlen := intOfSize bytes.length
  if dlen ≤ 0 then none else some (bytes.take dlen.toNat)

lemma bioWriteSize_eq {bytes : List UInt8} (hpos : bytes ≠ []) (hle : bytes.length ≤ INT_MAX) :
    bioWriteSize bytes = some bytes := by
  have hlen := List.length_pos_iff.mpr hpos
  unfold bioWriteSize
  rw [intOfSize_of_le hle]
  dsimp only
  rw [if_neg (by omega), Int.toNat_natCast, List.take_length]

/-- A length above `INT_MAX` is a negative `int`, up to the size of a message. -/
lemma bioWriteSize_of_gt {bytes : List UInt8} (hgt : INT_MAX < bytes.length)
    (hlt : bytes.length < 2 ^ 32) : bioWriteSize bytes = none := by
  have hneg : intOfSize bytes.length ≤ 0 := by
    rw [INT_MAX] at hgt
    unfold intOfSize
    rw [Int.bmod_def, if_neg (by omega)]
    omega
  unfold bioWriteSize
  dsimp only
  rw [if_pos hneg]

lemma bioContent_putBack (bytes : List UInt8) (bio : List BioEvent) :
    bioContent (bioPutBack bytes bio) = bytes ++ bioContent bio := by
  cases bytes with
  | nil => rfl
  | cons byte bytes => rfl

lemma bioSize_putBack (bytes : List UInt8) (bio : List BioEvent) :
    bioSize (bioPutBack bytes bio) = bytes.length + bioSize bio := by
  cases bytes with
  | nil => rw [bioPutBack, List.length_nil, Nat.zero_add]
  | cons byte bytes => rw [bioPutBack, bioSize, List.length_cons, Nat.add_comm 1]

/-- A read finds no data, or takes bytes from the front of the content. -/
lemma bioRead_cases {n : Nat} (hn : 0 < n) (bio : List BioEvent) :
    (∃ status bio', bioRead n bio = (status, [], bio') ∧ status ≤ 0 ∧
        bioContent bio = bioContent bio' ∧
        (bioSize bio' < bioSize bio ∨ bio = [] ∧ bio' = [] ∧ status < 0)) ∨
      ∃ byte bytes bio', bioRead n bio = (((byte :: bytes).length : Int), byte :: bytes, bio') ∧
        (byte :: bytes).length ≤ n ∧ bioContent bio = byte :: bytes ++ bioContent bio' ∧
        bioSize bio' < bioSize bio := by
  cases bio with
  | nil => exact .inl ⟨-1, [], rfl, by decide, rfl, .inr ⟨rfl, rfl, by decide⟩⟩
  | cons event bio =>
    cases event with
    | noData k =>
      refine .inl ⟨_, bio, rfl, by omega, rfl, .inl ?_⟩
      rw [bioSize]
      omega
    | data byte bytes =>
      right
      obtain ⟨k, rfl⟩ := Nat.exists_eq_succ_of_ne_zero hn.ne'
      refine ⟨byte, bytes.take k, _, rfl, ?_, ?_, ?_⟩
      · rw [List.length_cons]
        exact Nat.succ_le_succ (List.length_take_le k bytes)
      · rw [bioContent_putBack, bioContent, List.drop_succ_cons, List.cons_append,
          List.cons_append, ← List.append_assoc, List.take_append_drop]
      · rw [bioSize_putBack, bioSize, List.drop_succ_cons, List.length_drop]
        omega

/-- A read of one byte. -/
lemma bioRead_one_cases (bio : List BioEvent) :
    (∃ status bio', bioRead 1 bio = (status, [], bio') ∧ status ≤ 0 ∧
        bioContent bio = bioContent bio' ∧
        (bioSize bio' < bioSize bio ∨ bio = [] ∧ bio' = [] ∧ status < 0)) ∨
      ∃ byte bio', bioRead 1 bio = (1, [byte], bio') ∧
        bioContent bio = byte :: bioContent bio' ∧ bioSize bio' < bioSize bio := by
  rcases bioRead_cases Nat.one_pos bio with h | ⟨byte, bytes, bio', hread, hle, hcontent, hsize⟩
  · exact .inl h
  · obtain rfl : bytes = [] := by
      rw [List.length_cons] at hle
      exact List.length_eq_zero_iff.mp (by omega)
    exact .inr ⟨byte, bio', hread, hcontent, hsize⟩

lemma bioWaits_putBack (bytes : List UInt8) (bio : List BioEvent) :
    bioWaits (bioPutBack bytes bio) = bioWaits bio := by
  cases bytes with
  | nil => rfl
  | cons byte bytes => rfl

lemma bioWaits_le_bioRead (n : Nat) (bio : List BioEvent) :
    bioWaits bio ≤ bioWaits (bioRead n bio).2.2 + 1 := by
  cases bio with
  | nil => exact Nat.zero_le _
  | cons event bio =>
    cases event with
    | noData k => rw [bioRead, bioWaits, Nat.add_comm]
    | data byte bytes =>
      rw [bioRead, bioWaits, bioWaits_putBack]
      exact Nat.le_succ _

/-- A read that gets data does not wait. -/
lemma bioWaits_eq_of_data {n : Nat} {bio bio' : List BioEvent} {status : Int} {byte : UInt8}
    {bytes : List UInt8} (h : bioRead n bio = (status, byte :: bytes, bio')) :
    bioWaits bio' = bioWaits bio := by
  cases bio with
  | nil => cases h
  | cons event bio =>
    cases event with
    | noData k => cases h
    | data b bs =>
      rw [bioRead] at h
      obtain ⟨-, -, rfl⟩ := Prod.mk.inj h |>.imp_right Prod.mk.inj
      rw [bioWaits, bioWaits_putBack]

/-- The result of a read without data is negative, unless a zero is what comes next. -/
lemma bioRead_neg_of_noData {n : Nat} (hn : 0 < n) {bio bio' : List BioEvent} {status : Int}
    (h : bioRead n bio = (status, [], bio')) (hzero : bio.head? ≠ some (.noData 0)) :
    status < 0 := by
  cases bio with
  | nil =>
    obtain ⟨rfl, -⟩ := Prod.mk.inj h
    decide
  | cons event bio =>
    cases event with
    | noData k =>
      obtain ⟨rfl, -⟩ := Prod.mk.inj h
      have hk : k ≠ 0 := fun hk => hzero (by rw [hk]; rfl)
      omega
    | data b bs =>
      rw [bioRead] at h
      have hnil := (Prod.mk.inj (Prod.mk.inj h).2).1
      rw [List.take_eq_nil_iff] at hnil
      rcases hnil with hnil | hnil
      · omega
      · cases hnil

/-- A length that is a positive `int`. -/
lemma bioReadSize_eq {n : Nat} (hpos : 0 < n) (hle : n ≤ INT_MAX) (bio : List BioEvent) :
    bioReadSize n bio = bioRead n bio := by
  have hint : Int.bmod n (2 ^ 32) = n := by
    rw [INT_MAX] at hle
    exact Int.bmod_eq_of_le (by omega) (by omega)
  unfold bioReadSize
  rw [hint]
  dsimp only
  rw [if_neg (by omega), Int.toNat_natCast]

lemma bioSize_pos {bio : List BioEvent} (h : bio ≠ []) : 0 < bioSize bio := by
  cases bio with
  | nil => exact absurd rfl h
  | cons event bio =>
    cases event with
    | data byte bytes => rw [bioSize]; omega
    | noData k => rw [bioSize]; omega

lemma bioContent_of_size_eq_zero {bio : List BioEvent} (h : bioSize bio = 0) :
    bioContent bio = [] := by
  by_contra hne
  have hbio : bio ≠ [] := fun hnil => hne (hnil ▸ rfl)
  exact absurd h (bioSize_pos hbio).ne'

end FreeRdp
