import FreeRdp.Crypto.Base64

/-!
# The round trip of base64

The decoder rebuilds what was encoded. Block by block, four characters hold the bits of three
bytes; the remainder is a block of its own, whose missing bytes the terminator writes over.
-/

namespace FreeRdp

variable {s m : Nat → UInt8} {d : Decoder} {q q0 q1 q2 : UInt8} {x rest : List UInt8}
  {malloc : Malloc}

/-! ### Six bits and eight bits -/

lemma base64DecodeChar_base64 {n : Nat} (h : n < 64) : base64DecodeChar (base64 n) = some n := by
  have hall : ∀ n < 64, base64DecodeChar (base64 n) = some n := by decide +kernel
  exact hall n h

@[simp] lemma base64DecodeChar_pad : base64DecodeChar '='.toUInt8 = none := by decide +kernel

lemma ofNat_eq_of_mod {n : Nat} (h : n % 256 = q.toNat) : UInt8.ofNat n = q := by
  apply UInt8.toNat_inj.mp
  rw [UInt8.toNat_ofNat', h]

/-- The six bits from bit `j` on. -/
def sextet (c j : Nat) : Nat := c / 2 ^ j % 64

lemma sextet_lt (c j : Nat) : sextet c j < 64 := Nat.mod_lt _ (by decide)

/-- The mask of the encoder and its shift. -/
lemma and_shiftRight_eq_sextet (c j : Nat) : (c &&& 63 * 2 ^ j) >>> j = sextet c j := by
  rw [show 63 = 2 ^ 6 - 1 from rfl, and_mask_shiftLeft, Nat.shiftRight_eq_div_pow,
    Nat.mul_div_cancel _ (Nat.two_pow_pos j)]
  rfl

@[simp] lemma base64DecodeChar_sextet (c j : Nat) :
    base64DecodeChar (base64 (sextet c j)) = some (sextet c j) :=
  base64DecodeChar_base64 (sextet_lt c j)

/-- The bytes of a block from its sextets. -/
lemma octets_of_sextets {c : Nat} (hc : c = q0.toNat * 2 ^ 16 + q1.toNat * 2 ^ 8 + q2.toNat) :
    UInt8.ofNat (sextet c 18 <<< 2 + sextet c 12 >>> 4) = q0 ∧
      UInt8.ofNat ((sextet c 12 &&& 15) <<< 4 + sextet c 6 >>> 2) = q1 ∧
      UInt8.ofNat ((sextet c 6 &&& 3) <<< 6 + sextet c 0) = q2 := by
  have h0 := q0.toNat_lt
  have h1 := q1.toNat_lt
  have h2 := q2.toNat_lt
  simp only [sextet, show 15 = 2 ^ 4 - 1 from rfl, show 3 = 2 ^ 2 - 1 from rfl, and_mask_eq_mod,
    Nat.shiftLeft_eq, Nat.shiftRight_eq_div_pow]
  refine ⟨ofNat_eq_of_mod ?_, ofNat_eq_of_mod ?_, ofNat_eq_of_mod ?_⟩ <;> omega

/-! ### Blocks -/

/-- The characters of a complete block. -/
def encodeBlock (c : Nat) : List UInt8 :=
  [base64 (sextet c 18), base64 (sextet c 12), base64 (sextet c 6), base64 (sextet c 0)]

lemma encodeBlocks_block (q0 q1 q2 : UInt8) (rest : List UInt8) :
    encodeBlocks (q0 :: q1 :: q2 :: rest) =
      encodeBlock (q0.toNat * 2 ^ 16 + q1.toNat * 2 ^ 8 + q2.toNat) ++ encodeBlocks rest := by
  simp only [encodeBlocks, encodeBlock, ← and_shiftRight_eq_sextet, Nat.shiftLeft_eq]
  rfl

lemma encodeBlocks_two {c : Nat} (hc : c = q0.toNat * 2 ^ 16 + q1.toNat * 2 ^ 8) :
    encodeBlocks [q0, q1] = [base64 (sextet c 18), base64 (sextet c 12), base64 (sextet c 6),
      '='.toUInt8] := by
  simp only [encodeBlocks, ← and_shiftRight_eq_sextet, Nat.shiftLeft_eq, hc]
  rfl

lemma encodeBlocks_one {c : Nat} (hc : c = q0.toNat * 2 ^ 16) :
    encodeBlocks [q0] = [base64 (sextet c 18), base64 (sextet c 12), '='.toUInt8,
      '='.toUInt8] := by
  simp only [encodeBlocks, ← and_shiftRight_eq_sextet, Nat.shiftLeft_eq, hc]
  rfl

lemma length_encodeBlocks (x : List UInt8) :
    (encodeBlocks x).length = 4 * ((x.length + 2) / 3) := by
  induction x using encodeBlocks.induct with
  | case1 q0 q1 q2 rest ih =>
    rw [encodeBlocks_block, List.length_append, ih]
    simp only [encodeBlock, List.length_cons, List.length_nil]
    omega
  | case2 q0 q1 => simp [encodeBlocks_two rfl]
  | case3 q0 => simp [encodeBlocks_one rfl]
  | case4 => rfl

/-- Four characters that are in the memory, one by one. -/
lemma readList_four {c0 c1 c2 c3 : UInt8} {a n : Nat}
    (h : readList s a (n + 4) = c0 :: c1 :: c2 :: c3 :: rest) :
    s a = c0 ∧ s (a + 1) = c1 ∧ s (a + 2) = c2 ∧ s (a + 3) = c3 ∧ readList s (a + 4) n = rest := by
  simpa only [readList_succ, List.cons.injEq] using h

/-- A complete block puts its three bytes. -/
lemma decodeBlock_encodeBlock {c n : Nat}
    (hc : c = q0.toNat * 2 ^ 16 + q1.toNat * 2 ^ 8 + q2.toNat)
    (h : readList s d.s (n + 4) = encodeBlock c ++ rest) :
    decodeBlock s d = (⟨d.s + 4, d.q + 3, d.outputLen + 3,
      writeList d.data d.q [q0, q1, q2]⟩, true) := by
  obtain ⟨hs0, hs1, hs2, hs3, -⟩ := readList_four h
  obtain ⟨ho0, ho1, ho2⟩ := octets_of_sextets hc
  simp only [decodeBlock, hs0, hs1, hs2, hs3, base64DecodeChar_sextet, ho0, ho1, ho2]

/-- What the last block leaves behind the bytes, for the terminator to write over. -/
def padding (length : Nat) : List UInt8 := if length % 3 = 0 then [] else [0]

lemma padding_add_three (length : Nat) : padding (length + 3) = padding length := by
  rw [padding, padding, Nat.add_mod_right]

lemma update_writeList_padding (m : Nat → UInt8) (a : Nat) (x : List UInt8) :
    Function.update (writeList m a (x ++ padding x.length)) (a + x.length) 0 =
      writeList m a (x ++ [0]) := by
  rw [padding]
  split
  · rw [List.append_nil, writeList_append]
    rfl
  · rw [writeList_append]
    exact Function.update_idem ..

/-- The last block of the encoder is decoded. -/
lemma decodeLast_encodeBlocks (hx : x ≠ []) (hlast : x.length ≤ 3)
    (h : readList s d.s (encodeBlocks x).length = encodeBlocks x) :
    decodeLast s d = (⟨d.s + 4, d.q, d.outputLen + x.length,
      writeList d.data d.q (x ++ padding x.length)⟩, true) := by
  match x with
  | [q0] =>
    have hc : q0.toNat * 2 ^ 16 = q0.toNat * 2 ^ 16 + (0 : UInt8).toNat * 2 ^ 8 +
      (0 : UInt8).toNat := by simp
    obtain ⟨ho0, ho1, -⟩ := octets_of_sextets hc
    have hsextet : sextet (q0.toNat * 2 ^ 16) 6 = 0 := by
      rw [sextet]
      omega
    rw [hsextet] at ho1
    rw [encodeBlocks_one rfl] at h
    obtain ⟨hs0, hs1, hs2, hs3, -⟩ := readList_four h
    simp only [decodeLast, hs0, hs1, hs2, hs3, base64DecodeChar_sextet, base64DecodeChar_pad, ho0]
    rw [Nat.zero_shiftRight, Nat.add_zero] at ho1
    rw [ho1]
    rfl
  | [q0, q1] =>
    have hc : q0.toNat * 2 ^ 16 + q1.toNat * 2 ^ 8 = q0.toNat * 2 ^ 16 + q1.toNat * 2 ^ 8 +
      (0 : UInt8).toNat := by simp
    obtain ⟨ho0, ho1, ho2⟩ := octets_of_sextets hc
    have hsextet : sextet (q0.toNat * 2 ^ 16 + q1.toNat * 2 ^ 8) 0 = 0 := by
      rw [sextet]
      omega
    rw [hsextet, Nat.add_zero] at ho2
    rw [encodeBlocks_two rfl] at h
    obtain ⟨hs0, hs1, hs2, hs3, -⟩ := readList_four h
    simp only [decodeLast, hs0, hs1, hs2, hs3, base64DecodeChar_sextet, base64DecodeChar_pad, ho0,
      ho1, ho2]
    rfl
  | [q0, q1, q2] =>
    obtain ⟨c, hc⟩ : ∃ c, c = q0.toNat * 2 ^ 16 + q1.toNat * 2 ^ 8 + q2.toNat := ⟨_, rfl⟩
    obtain ⟨ho0, ho1, ho2⟩ := octets_of_sextets hc
    rw [encodeBlocks_block, ← hc] at h
    obtain ⟨hs0, hs1, hs2, hs3, -⟩ := readList_four h
    simp only [decodeLast, hs0, hs1, hs2, hs3, base64DecodeChar_sextet, ho0, ho1, ho2]
    rw [show padding [q0, q1, q2].length = [] by simp [padding], List.append_nil]
    rfl

/-- Every block of the encoder is decoded. -/
lemma decodeAll_encodeBlocks (hx : x ≠ [])
    (h : readList s d.s (encodeBlocks x).length = encodeBlocks x) :
    ∃ q', decodeAll s ((x.length + 2) / 3 - 1) d = (⟨d.s + 4 * ((x.length + 2) / 3), q',
      d.outputLen + x.length, writeList d.data d.q (x ++ padding x.length)⟩, true) := by
  induction hn : (x.length + 2) / 3 - 1 generalizing x d with
  | zero =>
    have hpos := List.length_pos_iff.mpr hx
    refine ⟨d.q, ?_⟩
    rw [decodeAll_zero, decodeLast_encodeBlocks hx (by omega) h,
      show (x.length + 2) / 3 = 1 by omega]
  | succ n ih =>
    obtain ⟨q0, q1, q2, rest, rfl⟩ : ∃ q0 q1 q2 rest, x = q0 :: q1 :: q2 :: rest := by
      match x with
      | q0 :: q1 :: q2 :: rest => exact ⟨q0, q1, q2, rest, rfl⟩
      | [q0, q1] | [q0] => simp at hn
      | [] => exact absurd rfl hx
    have hlength : (q0 :: q1 :: q2 :: rest).length = rest.length + 3 := rfl
    have hrest : rest ≠ [] := by
      rintro rfl
      simp at hn
    rw [encodeBlocks_block, List.length_append, Nat.add_comm] at h
    have hread := (readList_four h).2.2.2.2
    obtain ⟨q', hall⟩ := ih (d := ⟨d.s + 4, d.q + 3, d.outputLen + 3,
      writeList d.data d.q [q0, q1, q2]⟩) hrest hread (by omega)
    refine ⟨q', ?_⟩
    rw [decodeAll_succ, decodeBlock_encodeBlock rfl h]
    dsimp only
    rw [hall, hlength]
    congr 2
    · show d.s + 4 + 4 * ((rest.length + 2) / 3) = d.s + 4 * ((rest.length + 3 + 2) / 3)
      omega
    · show d.outputLen + 3 + rest.length = d.outputLen + (rest.length + 3)
      omega
    · rw [padding_add_three]
      rfl

/-- The size that the encoder allocates has room for the characters and the terminator. -/
lemma encodeSize_eq {length : Nat} (h : length + 3 ≤ INT_MAX / 4) :
    encodeSize length = ((length + 3) * 4 / 3 + 1 : Nat) := by
  have hmax : length + 3 ≤ 536870911 := by
    norm_num [INT_MAX] at h
    exact h
  have hwrap : Int.bmod ((length + 3) * 4) (2 ^ 32) = (length + 3) * 4 :=
    Int.bmod_eq_of_le (by omega) (by omega)
  have htdiv : Int.tdiv ((length + 3) * 4) 3 = (length + 3) * 4 / 3 :=
    Int.tdiv_eq_ediv_of_nonneg (by omega)
  unfold encodeSize
  rw [hwrap, htdiv]
  omega

lemma reallocSize_one {n : Nat} (h : n < 2 ^ 64) : reallocSize 1 n = n := by
  simp only [reallocSize, Nat.cast_one, one_mul]
  omega

/-- **The round trip.** Encoding a byte string that is not empty gives four characters for every
three bytes begun, and the terminator, inside the allocation. Decoding those characters from
wherever they are in memory gives the byte string, and writes nothing outside the allocation. -/
theorem cryptoBase64Decode_cryptoBase64Encode {x : List UInt8} (hx : x ≠ [])
    (hlength : x.length + 3 ≤ INT_MAX / 4)
    (hencode : malloc.succeeds ((x.length + 3) * 4 / 3 + 1) = true)
    (hdecode : malloc.succeeds ((x.length + 2) / 3 * 3 + 1) = true) :
    ∃ chars, cryptoBase64Encode malloc x = some (chars ++ [0]) ∧
      chars.length = 4 * ((x.length + 2) / 3) ∧
      (chars ++ [0]).length ≤ (x.length + 3) * 4 / 3 + 1 ∧
      ∀ m s : Nat → UInt8, readList s 0 chars.length = chars →
        ∃ data, (cryptoBase64Decode malloc m s chars.length).result = some (data, x.length) ∧
          readList data 0 x.length = x ∧
          ∀ i, chars.length / 4 * 3 + 1 ≤ i → data i = m i := by
  have hmax : x.length + 3 ≤ 2 ^ 29 := by
    rw [INT_MAX] at hlength
    omega
  have hchars := length_encodeBlocks x
  refine ⟨encodeBlocks x, ?_, hchars, ?_, ?_⟩
  · rw [cryptoBase64Encode, encodeSize_eq hlength, reallocSize_one (by omega), if_pos hencode]
  · rw [List.length_append, hchars, List.length_singleton]
    omega
  · intro m s hread
    obtain ⟨q', hall⟩ := decodeAll_encodeBlocks (d := ⟨0, 0, 0, m⟩) hx hread
    have hdiv : Int.tdiv (encodeBlocks x).length 4 = ((x.length + 2) / 3 : Nat) := by
      rw [hchars, show (4 : Int) = (4 : Nat) from rfl, ← Int.ofNat_tdiv,
        Nat.mul_div_cancel_left _ (by decide)]
    have hmod : Int.tmod (encodeBlocks x).length 4 = 0 := by
      rw [hchars, show (4 : Int) = (4 : Nat) from rfl, ← Int.ofNat_tmod, Nat.mul_mod_right]
      rfl
    have hblocks : (((x.length + 2) / 3 : Nat) - 1 : Int).toNat = (x.length + 2) / 3 - 1 := by
      omega
    have hsize : (((x.length + 2) / 3 : Nat) * 3 + 1 : Int) =
        ((x.length + 2) / 3 * 3 + 1 : Nat) := by
      omega
    refine ⟨writeList m 0 (x ++ [0]), ?_, ?_, ?_⟩
    · have hterminator := update_writeList_padding m 0 x
      rw [Nat.zero_add] at hterminator
      rw [cryptoBase64Decode, base64Decode, hmod, if_neg (by decide), hdiv, hsize,
        reallocSize_one (by omega), if_pos hdecode, hblocks, hall]
      simp only [Nat.zero_add, hterminator]
    · have hwritten : readList (writeList m 0 (x ++ [0])) 0 (x ++ [0]).length = x ++ [0] :=
        readList_writeList
      rw [List.length_append, readList_add] at hwritten
      exact List.append_inj_left hwritten (length_readList ..)
    · intro i hi
      apply writeList_of_ge
      rw [List.length_append, List.length_singleton]
      omega

/-- The string of the test, `90123456`. -/
theorem cryptoBase64Decode_cryptoBase64Encode_test :
    ∃ chars, cryptoBase64Encode mallocAll [0x39, 0x30, 0x31, 0x32, 0x33, 0x34, 0x35, 0x36] =
        some (chars ++ [0]) ∧
      chars.length = 12 ∧ (chars ++ [0]).length ≤ 15 ∧
      ∀ m s : Nat → UInt8, readList s 0 chars.length = chars →
        ∃ data, (cryptoBase64Decode mallocAll m s chars.length).result = some (data, 8) ∧
          readList data 0 8 = [0x39, 0x30, 0x31, 0x32, 0x33, 0x34, 0x35, 0x36] ∧
          ∀ i, chars.length / 4 * 3 + 1 ≤ i → data i = m i :=
  cryptoBase64Decode_cryptoBase64Encode (by decide) (by decide) (by decide) (by decide)

end FreeRdp
