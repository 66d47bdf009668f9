import FreeRdp.Codec.Rlgr.Stream

/-!
# What is encoded is decoded

Every round of the decoder takes what a round of the encoder has put, and both change the
parameters in the same way. Only a last coefficient 0 that is reached in a run comes back as 1.
-/

namespace FreeRdp

open RfxBitstream

/-! ### The bits that are put -/

@[simp] lemma bitsOfPuts_nil : bitsOfPuts [] = [] := rfl

@[simp] lemma bitsOfPuts_append (puts puts' : List BitPut) :
    bitsOfPuts (puts ++ puts') = bitsOfPuts puts ++ bitsOfPuts puts' := List.flatMap_append

@[simp] lemma bitsOfPuts_cons (put : BitPut) (puts : List BitPut) :
    bitsOfPuts (put :: puts) = put.toBits ++ bitsOfPuts puts := rfl

lemma toBits_equal {n : Nat} (hn : n ≤ 16) (bit : Bool) :
    BitPut.toBits ⟨if bit then 0xFFFF else 0, n⟩ = List.replicate n bit := by
  refine List.ext_getElem (by simp [BitPut.toBits]) fun i hi _ => ?_
  have hi' : i < n := by simpa [BitPut.toBits] using hi
  simp only [BitPut.toBits, msbBits, List.getElem_map, List.getElem_range, List.getElem_replicate]
  cases bit with
  | false => simp
  | true =>
    have hlt : n - 1 - i < 16 := by omega
    rw [if_pos rfl, show 0xFFFF % 2 ^ 16 = 2 ^ 16 - 1 by rfl, Nat.testBit_two_pow_sub_one,
      decide_eq_true hlt]

lemma bitsOfPuts_outputBit (count : Nat) (bit : Bool) :
    bitsOfPuts (outputBit count bit) = List.replicate count bit := by
  induction count using Nat.strong_induction_on with
  | _ count ih =>
    rw [outputBit]
    rcases Nat.eq_zero_or_pos count with rfl | hpos
    · rfl
    · have hle : (if 16 < count then 16 else count) ≤ 16 := by
        split_ifs <;> omega
      rw [dif_pos hpos, bitsOfPuts_cons, ih _ (by omega), toBits_equal hle, ← List.replicate_add]
      congr 1
      split_ifs <;> omega

/-- The bits of a Golomb-Rice code. -/
lemma bitsOfPuts_rlgrCodeGr {krp val : Nat} (hkrp : krp ≤ KPMAX) :
    bitsOfPuts (rlgrCodeGr krp val).1 = List.replicate (val >>> (krp >>> LSGR)) true ++
      [!true] ++ msbBits (krp >>> LSGR) (val % 2 ^ (krp >>> LSGR)) := by
  have hkr : krp >>> LSGR ≤ 16 := by
    rw [LSGR, Nat.shiftRight_eq_div_pow]
    rw [KPMAX] at hkrp
    omega
  rw [rlgrCodeGr]
  dsimp only
  rw [bitsOfPuts_append, bitsOfPuts_append, bitsOfPuts_outputBit, bitsOfPuts_outputBit]
  congr 1
  split_ifs with hzero
  · rw [bitsOfPuts_cons, bitsOfPuts_nil, List.append_nil, BitPut.toBits, Nat.one_shiftLeft,
      and_mask_eq_mod, msbBits_mod _ _ hkr]
  · rw [not_not.mp hzero]
    rfl

/-! ### Values -/

lemma asInt16_neg_asInt16 (x : Int) : asInt16 (-asInt16 x) = asInt16 (-x) := Int.bmod_neg_bmod

/-- The values of an `INT16`. -/
def IsInt16 (x : Int) : Prop := -2 ^ 15 ≤ x ∧ x < 2 ^ 15

lemma asInt16_of_isInt16 {x : Int} (h : IsInt16 x) : asInt16 x = x := by
  obtain ⟨hle, hlt⟩ := h
  refine Int.bmod_eq_of_le_mul_two ?_ ?_
  · norm_num
    omega
  · norm_num
    omega

lemma get2MagSign_lt {x : Int} (h : IsInt16 x) : get2MagSign x < 2 ^ 16 := by
  obtain ⟨hle, hlt⟩ := h
  rw [get2MagSign]
  split_ifs <;> omega

/-- A doubled magnitude with its sign is undone. -/
lemma magOf_get2MagSign {x : Int} (h : IsInt16 x) : magOf (get2MagSign x) = x := by
  have hmask := and_mask_eq_mod (get2MagSign x) 1
  rw [pow_one] at hmask
  rw [magOf, hmask, Nat.shiftRight_eq_div_pow, Nat.shiftRight_eq_div_pow, pow_one,
    asInt16_neg_asInt16]
  rcases lt_or_ge x 0 with hneg | hpos
  · have heq : (get2MagSign x : Int) = -2 * x - 1 := by
      rw [get2MagSign, if_neg (not_le.mpr hneg)]
      omega
    rw [if_pos (by omega)]
    refine Eq.trans ?_ (asInt16_of_isInt16 h)
    congr 1
    omega
  · have heq : (get2MagSign x : Int) = 2 * x := by
      rw [get2MagSign, if_pos hpos]
      omega
    rw [if_neg (by omega)]
    refine Eq.trans ?_ (asInt16_of_isInt16 h)
    congr 1
    omega

/-! ### Parameters -/

lemma updateParam_le (param : Nat) (deltaP : Int) : updateParam param deltaP ≤ KPMAX := by
  rw [updateParam]
  omega

lemma updateParam_add {param : Nat} (deltaP : Nat) :
    updateParam param deltaP = min (param + deltaP) KPMAX := by
  rw [updateParam]
  omega

lemma updateParam_sub {param : Nat} (h : param ≤ KPMAX) (deltaP : Nat) :
    updateParam param (-deltaP) = param - deltaP := by
  rw [updateParam]
  omega

lemma rlgrCode_eq {krp val : Nat} (hkrp : krp ≤ KPMAX) (hval : val < 2 ^ 16) :
    rlgrCode krp (val >>> (krp >>> LSGR)) (val % 2 ^ (krp >>> LSGR)) =
      (val, (rlgrCodeGr krp val).2) := by
  have hcode : (val % 2 ^ (krp >>> LSGR) ||| val >>> (krp >>> LSGR) <<< (krp >>> LSGR)) = val := by
    rw [or_shiftLeft_eq_add (Nat.mod_lt _ (Nat.two_pow_pos _)), Nat.shiftRight_eq_div_pow,
      Nat.mul_comm, Nat.div_add_mod]
  rw [rlgrCode, rlgrCodeGr, hcode, Nat.mod_eq_of_lt hval]
  dsimp only
  congr 1
  obtain ⟨vk, hvk⟩ : ∃ vk, vk = val >>> (krp >>> LSGR) := ⟨_, rfl⟩
  rw [← hvk]
  rcases Nat.lt_trichotomy vk 1 with hlt | heq | hgt
  · rw [if_pos (by omega), if_pos (by omega)]
    exact (updateParam_sub hkrp 2).symm
  · rw [heq]
    rfl
  · have hzero : vk ≠ 0 := by omega
    rw [if_neg hzero, if_pos hgt.ne', if_neg hzero, if_pos hgt, updateParam_add]

/-! ### Codes -/

namespace WBitStream

variable {bs : WBitStream}

/-- A Golomb-Rice code is taken. -/
lemma Inside.decodeGr_spec (h : bs.Inside) {krp val : Nat} (hkrp : krp ≤ KPMAX)
    (hval : val < 2 ^ 16)
    (hbits : Stands (bitsOf bs.buffer) bs.position (bitsOfPuts (rlgrCodeGr krp val).1))
    (hle : bs.position + (bitsOfPuts (rlgrCodeGr krp val).1).length ≤ 8 * bs.buffer.length) :
    ∃ bs', decodeGr krp bs = some (val, (rlgrCodeGr krp val).2, bs') ∧ bs'.Inside ∧
      bs'.buffer = bs.buffer ∧
      bs'.position = bs.position + (bitsOfPuts (rlgrCodeGr krp val).1).length := by
  rw [bitsOfPuts_rlgrCodeGr hkrp] at hbits hle ⊢
  obtain ⟨hunary, hrest⟩ := stands_append.mp hbits
  simp only [List.length_append, List.length_replicate, List.length_singleton, length_msbBits]
    at hrest hle ⊢
  have hkr : krp >>> LSGR < 32 := by
    rw [LSGR, Nat.shiftRight_eq_div_pow]
    rw [KPMAX] at hkrp
    omega
  have hroom := Nat.zero_le (krp >>> LSGR)
  obtain ⟨bs₁, bs₂, hcount, hskip, hinside, hbuffer, hposition⟩ := h.unary hunary (by omega)
  obtain ⟨bs', htake, hinside', hbuffer', hposition'⟩ :=
    hinside.takeNumber hkr (Nat.mod_lt val (Nat.two_pow_pos _))
      (by rw [hbuffer, hposition, Nat.add_assoc]; exact hrest) (by rw [hbuffer, hposition]; omega)
  refine ⟨bs', ?_, hinside', hbuffer'.trans hbuffer, by rw [hposition', hposition]; omega⟩
  rw [decodeGr, hcount]
  dsimp only
  rw [hskip, Option.bind_eq_bind, Option.bind_some, htake, Option.bind_eq_bind, Option.bind_some]
  dsimp only
  rw [rlgrCode_eq hkrp hval]

end WBitStream

/-! ### Runs -/

lemma addRuns_add (vk kp run : Nat) :
    addRuns vk kp run = (run + (addRuns vk kp 0).1, (addRuns vk kp 0).2) := by
  induction vk generalizing kp run with
  | zero => rfl
  | succ vk ih =>
    rw [addRuns, addRuns, ih, ih _ (0 + _)]
    simp only [Nat.zero_add, Nat.add_assoc]

/-- The zeros that are put for whole runs are added up again. -/
lemma outputZeros_spec (kp numZeros : Nat) :
    ∃ puts rest kp' vk, outputZeros kp numZeros = (puts, rest, kp') ∧
      bitsOfPuts puts = List.replicate vk false ∧
      addRuns vk kp 0 = (numZeros - rest, kp') ∧ rest ≤ numZeros ∧
      rest < 2 ^ (kp' >>> LSGR) ∧ (kp ≤ KPMAX → kp ≤ kp' ∧ kp' ≤ KPMAX) := by
  induction numZeros using Nat.strong_induction_on generalizing kp with
  | _ numZeros ih =>
    have hpos : 0 < 1 <<< (kp >>> LSGR) := by
      rw [Nat.one_shiftLeft]
      exact Nat.two_pow_pos _
    rw [outputZeros]
    split_ifs with hrun
    · obtain ⟨puts, rest, kp', vk, hputs, hbits, hadd, hle, hlt, hkp⟩ :=
        ih (numZeros - 1 <<< (kp >>> LSGR)) (by omega) (updateParam kp UP_GR)
      rw [hputs]
      refine ⟨_, rest, kp', vk + 1, rfl, ?_, ?_, by omega, hlt, fun hmax => ?_⟩
      · rw [bitsOfPuts_append, bitsOfPuts_outputBit, hbits, List.replicate_append_replicate,
          Nat.add_comm]
      · rw [updateParam_add] at hadd
        rw [addRuns, addRuns_add, hadd]
        congr 1
        omega
      · rw [updateParam_add] at hkp
        have := hkp (Nat.min_le_right _ _)
        omega
    · refine ⟨[], numZeros, kp, 0, rfl, rfl, ?_, le_rfl, ?_, fun hmax => ⟨le_rfl, hmax⟩⟩
      · rw [Nat.sub_self]
        rfl
      · rw [← Nat.one_shiftLeft]
        omega

/-- The run is zeros, and the coefficient behind it is 0 only at the end. -/
lemma collectZeros_spec {data : List Int} (hne : data ≠ []) :
    ∃ numZeros input rest, collectZeros data = (numZeros, input, rest) ∧
      data = List.replicate numZeros 0 ++ input :: rest ∧ (input = 0 → rest = []) := by
  induction data with
  | nil => exact absurd rfl hne
  | cons x data ih =>
    cases data with
    | nil => exact ⟨0, x, [], rfl, rfl, fun _ => rfl⟩
    | cons y data =>
      rcases eq_or_ne x 0 with rfl | hx
      · obtain ⟨numZeros, input, rest, hcollect, hdata, hzero⟩ := ih (List.cons_ne_nil _ _)
        refine ⟨numZeros + 1, input, rest, ?_, ?_, hzero⟩
        · rw [collectZeros, if_pos rfl, hcollect]
          exact List.cons_ne_nil _ _
        · rw [hdata, List.replicate_succ]
          rfl
      · refine ⟨0, x, y :: data, ?_, rfl, fun h => absurd h hx⟩
        rw [collectZeros, if_neg hx]
        exact List.cons_ne_nil _ _

/-! ### Rounds -/

/-- What comes back: a last 0 that is reached in a run is 1. -/
def restored (inRun : Bool) (data : List Int) : List Int :=
  if inRun = true ∧ data.getLast? = some 0 then data.dropLast ++ [1] else data

/-- The decoder stands in front of the bits. -/
structure RlgrDecoder.At (src : List UInt8) (d : RlgrDecoder) (params : RlgrParams)
    (bits : List Bool) (output : List Int) : Prop where
  inside : d.bs.Inside
  buffer : d.bs.buffer = src
  same : d.params = params
  kp : params.kp ≤ KPMAX
  krp : params.krp ≤ KPMAX
  stands : Stands (bitsOf src) d.bs.position bits
  fits : d.bs.position + bits.length ≤ 8 * src.length
  written : d.output = output

variable {src : List UInt8} {d : RlgrDecoder} {params : RlgrParams} {bits : List Bool}
  {done data : List Int} {dst : Nat}

lemma rlgrCodeGr_krp_le {krp : Nat} (h : krp ≤ KPMAX) (val : Nat) :
    (rlgrCodeGr krp val).2 ≤ KPMAX := by
  rw [rlgrCodeGr]
  dsimp only
  split_ifs
  · exact updateParam_le _ _
  · exact updateParam_le _ _
  · exact h

/-- The coefficient behind a run. -/
lemma asInt16_mag {input : Int} (h : IsInt16 input) (hne : input ≠ 0) :
    (if input < 0 then asInt16 (-asInt16 ((input.natAbs - 1 : Nat) + 1))
      else asInt16 ((input.natAbs - 1 : Nat) + 1)) = input := by
  split_ifs with hneg
  · rw [asInt16_neg_asInt16]
    refine Eq.trans ?_ (asInt16_of_isInt16 h)
    congr 1
    omega
  · refine Eq.trans ?_ (asInt16_of_isInt16 h)
    congr 1
    omega

lemma restored_run (n : Nat) (input : Int) :
    restored true (List.replicate n 0 ++ [input]) =
      List.replicate n 0 ++ [if input = 0 then 1 else input] := by
  rw [restored, List.getLast?_concat, List.dropLast_concat]
  rcases eq_or_ne input 0 with rfl | hne
  · rfl
  · rw [if_neg (by simp [hne]), if_neg hne]

/-- What a round of the run length mode puts for a run and the coefficient behind it: a bit for each
part of the run that is counted in full, the length of what is left of it, the sign and the
magnitude less one. -/
lemma encodeRunLength_spec (hne : data ≠ []) (hrange : ∀ x ∈ data, IsInt16 x)
    (hkp : params.kp ≤ KPMAX) :
    ∃ numZeros input rest vk left kp val,
      data = List.replicate numZeros 0 ++ input :: rest ∧ (input = 0 → rest = []) ∧
      bitsOfPuts (encodeRunLength params data).1 = List.replicate vk false ++ [!false] ++
        (msbBits (kp >>> LSGR) left ++ (msbBits 1 (if input < 0 then 1 else 0) ++
          bitsOfPuts (rlgrCodeGr params.krp val).1)) ∧
      (encodeRunLength params data).2 =
        (rest, ⟨updateParam kp (-DN_GR), (rlgrCodeGr params.krp val).2⟩) ∧
      addRuns vk params.kp 0 = (numZeros - left, kp) ∧ left ≤ numZeros ∧
      left < 2 ^ (kp >>> LSGR) ∧ kp ≤ KPMAX ∧ val < 2 ^ 16 ∧
      (if (if input < 0 then 1 else 0) ≠ 0 then asInt16 (-asInt16 ((val : Int) + 1))
        else asInt16 ((val : Int) + 1)) = if input = 0 then 1 else input := by
  obtain ⟨numZeros, input, rest, hcollect, hdata, hzero⟩ := collectZeros_spec hne
  obtain ⟨zeros, left, kp, vk, hzeros, hvk, hadd, hleft, hlt, hkpmax⟩ :=
    outputZeros_spec params.kp numZeros
  obtain ⟨val, hval⟩ : ∃ val, val = if input.natAbs ≠ 0 then input.natAbs - 1 else 0 := ⟨_, rfl⟩
  have hencode : encodeRunLength params data =
      (zeros ++ outputBit 1 true ++ [⟨left, kp >>> LSGR⟩] ++ outputBit 1 (decide (input < 0)) ++
        (rlgrCodeGr params.krp val).1, rest,
          ⟨updateParam kp (-DN_GR), (rlgrCodeGr params.krp val).2⟩) := by
    rw [hval, encodeRunLength, hcollect]
    dsimp only
    rw [hzeros]
  have hinput : IsInt16 input := hrange input (by rw [hdata]; simp)
  have hk : kp >>> LSGR ≤ 16 := by
    have hle := (hkpmax hkp).2
    rw [KPMAX] at hle
    rw [LSGR, Nat.shiftRight_eq_div_pow]
    omega
  refine ⟨numZeros, input, rest, vk, left, kp, val, hdata, hzero, ?_, by rw [hencode], hadd, hleft,
    hlt, (hkpmax hkp).2, ?_, ?_⟩
  · have hsign : [decide (input < 0)] = msbBits 1 (if input < 0 then 1 else 0) := by
      by_cases hneg : input < 0 <;> simp [hneg, msbBits]
    rw [hencode, ← hsign]
    simp only [bitsOfPuts_append, bitsOfPuts_cons, bitsOfPuts_nil, bitsOfPuts_outputBit, hvk,
      BitPut.toBits, msbBits_mod _ _ hk, List.append_nil, List.append_assoc, List.replicate_one,
      Bool.not_false]
  · obtain ⟨hge, hlt⟩ := hinput
    rw [hval]
    split_ifs <;> omega
  · rcases eq_or_ne input 0 with rfl | hinput0
    · rw [hval]
      rfl
    · rw [if_neg hinput0, hval, if_pos (Int.natAbs_ne_zero.mpr hinput0)]
      refine Eq.trans ?_ (asInt16_mag hinput hinput0)
      by_cases hneg : input < 0 <;> simp [hneg]

/-- The parts of a round of the run length mode are taken one after the other. -/
lemma takes_runLength {bs : WBitStream} (h : bs.Inside) {vk k left sign krp val : Nat}
    (hk : k < 32) (hleft : left < 2 ^ k) (hsign : sign < 2 ^ 1) (hkrp : krp ≤ KPMAX)
    (hval : val < 2 ^ 16) {parts : List Bool}
    (hparts : parts = List.replicate vk false ++ [!false] ++
      (msbBits k left ++ (msbBits 1 sign ++ bitsOfPuts (rlgrCodeGr krp val).1)))
    (hbits : Stands (bitsOf bs.buffer) bs.position parts)
    (hle : bs.position + parts.length ≤ 8 * bs.buffer.length) :
    ∃ bs₁ bs₂ bs₃ bs₄ bs', countLeading false bs = (vk, bs₁) ∧ skipBit bs₁ = some bs₂ ∧
      takeBits k bs₂ = some (left, bs₃) ∧ takeBits 1 bs₃ = some (sign, bs₄) ∧
      decodeGr krp bs₄ = some (val, (rlgrCodeGr krp val).2, bs') ∧ bs'.Inside ∧
      bs'.buffer = bs.buffer ∧ bs'.position = bs.position + parts.length := by
  have hlength : parts.length =
      vk + 1 + (k + (1 + (bitsOfPuts (rlgrCodeGr krp val).1).length)) := by
    simp only [hparts, List.length_append, List.length_replicate, List.length_singleton,
      length_msbBits]
  rw [hparts] at hbits
  obtain ⟨hunary, hbits⟩ := stands_append.mp hbits
  obtain ⟨hremainder, hbits⟩ := stands_append.mp hbits
  obtain ⟨hsignBit, hcode⟩ := stands_append.mp hbits
  simp only [List.length_append, List.length_replicate, List.length_singleton, length_msbBits]
    at hremainder hsignBit hcode
  rw [← Nat.add_assoc] at hremainder hsignBit hcode
  obtain ⟨bs₁, bs₂, hcount, hskip, hinside₂, hbuffer₂, hposition₂⟩ := h.unary hunary (by omega)
  rw [← hbuffer₂, ← hposition₂] at hremainder hsignBit hcode
  obtain ⟨bs₃, htake, hinside₃, hbuffer₃, hposition₃⟩ := hinside₂.takeNumber hk hleft hremainder
    (by rw [hbuffer₂]; omega)
  rw [← hbuffer₃, ← hposition₃] at hsignBit hcode
  obtain ⟨bs₄, htakeSign, hinside₄, hbuffer₄, hposition₄⟩ := hinside₃.takeNumber
    (show 1 < 32 by decide) hsign hsignBit (by rw [hbuffer₃, hbuffer₂]; omega)
  rw [← hbuffer₄, ← hposition₄] at hcode
  obtain ⟨bs', hgr, hinside, hbuffer, hposition⟩ := hinside₄.decodeGr_spec hkrp hval hcode
    (by rw [hbuffer₄, hbuffer₃, hbuffer₂]; omega)
  exact ⟨bs₁, bs₂, bs₃, bs₄, bs', hcount, hskip, htake, htakeSign, hgr, hinside,
    by rw [hbuffer, hbuffer₄, hbuffer₃, hbuffer₂], by omega⟩

/-- A round of the run length mode. -/
lemma decodeRunLength_spec (hne : data ≠ []) (hrange : ∀ x ∈ data, IsInt16 x)
    (hdst : done.length + data.length ≤ dst)
    (h : d.At src params (bitsOfPuts (encodeRunLength params data).1 ++ bits) done) :
    ∃ d' front, decodeRunLength dst d = some d' ∧
      data = front ++ (encodeRunLength params data).2.1 ∧
      d'.At src (encodeRunLength params data).2.2 bits (done ++ restored true front) ∧
      front ≠ [] ∧ ((encodeRunLength params data).2.1 ≠ [] → restored true front = front) := by
  obtain ⟨numZeros, input, rest, vk, left, kp, val, hdata, hzero, hparts, hnext, hadd, hleft, hlt,
    hkp, hval, hmag⟩ := encodeRunLength_spec hne hrange h.kp
  have hk : kp >>> LSGR < 32 := by
    rw [KPMAX] at hkp
    rw [LSGR, Nat.shiftRight_eq_div_pow]
    omega
  obtain ⟨hbits, hbehind⟩ := stands_append.mp h.stands
  have hfits := h.fits
  rw [List.length_append] at hfits
  rw [← h.buffer] at hbits hfits
  obtain ⟨bs₁, bs₂, bs₃, bs₄, bs', hcount, hskip, htake, htakeSign, hgr, hinside, hbuffer,
    hposition⟩ := takes_runLength h.inside hk hlt (by split_ifs <;> decide) h.krp hval hparts hbits
      (by omega)
  rw [hnext]
  have houtput : putCoefficient dst (done ++ List.replicate (min (numZeros - left + left)
      (dst - done.length)) 0) (if input = 0 then 1 else input) =
        done ++ restored true (List.replicate numZeros 0 ++ [input]) := by
    have hlength : data.length = numZeros + (rest.length + 1) := by
      rw [hdata, List.length_append, List.length_replicate, List.length_cons]
    rw [Nat.sub_add_cancel hleft, Nat.min_eq_left (by omega), putCoefficient, restored_run,
      if_pos (by rw [List.length_append, List.length_replicate]; omega), List.append_assoc]
  refine ⟨⟨bs', ⟨kp - DN_GR, (rlgrCodeGr params.krp val).2⟩,
    done ++ restored true (List.replicate numZeros 0 ++ [input])⟩,
    List.replicate numZeros 0 ++ [input], ?_, ?_, ⟨hinside, hbuffer.trans h.buffer, ?_,
      updateParam_le _ _, rlgrCodeGr_krp_le h.krp _, ?_, ?_, rfl⟩, by simp, fun hrest => ?_⟩
  · rw [decodeRunLength, hcount]
    dsimp only
    rw [hskip, Option.bind_eq_bind, Option.bind_some, h.same, hadd]
    dsimp only
    rw [htake, Option.bind_eq_bind, Option.bind_some]
    dsimp only
    rw [htakeSign, Option.bind_eq_bind, Option.bind_some]
    dsimp only
    rw [hgr, Option.bind_some]
    dsimp only
    rw [hmag, h.written, houtput]
  · rw [hdata, List.append_assoc]
    rfl
  · dsimp only
    rw [← updateParam_sub hkp]
  · rw [hposition]
    exact hbehind
  · rw [hposition, ← h.buffer]
    omega
  · rw [restored_run, if_neg fun hinput0 => hrest (hzero hinput0)]

/-- A round of the Golomb-Rice mode with one coefficient. -/
lemma decodeGolombRice_rlgr1 {x : Int} {rest : List Int} (hx : IsInt16 x)
    (hdst : done.length < dst)
    (h : d.At src params (bitsOfPuts (encodeGolombRice .rlgr1 params (x :: rest)).1 ++ bits) done) :
    ∃ d', decodeGolombRice .rlgr1 dst d = some d' ∧
      d'.At src (encodeGolombRice .rlgr1 params (x :: rest)).2.2 bits (done ++ [x]) := by
  obtain ⟨twoMs, htwoMs⟩ : ∃ twoMs, twoMs = get2MagSign x := ⟨_, rfl⟩
  have hencode : encodeGolombRice .rlgr1 params (x :: rest) =
      ((rlgrCodeGr params.krp twoMs).1, rest,
        ⟨if twoMs ≠ 0 then updateParam params.kp (-DQ_GR) else updateParam params.kp UQ_GR,
          (rlgrCodeGr params.krp twoMs).2⟩) := by
    rw [htwoMs]
    rfl
  rw [hencode] at h ⊢
  dsimp only at h ⊢
  obtain ⟨hcode, hbits⟩ := stands_append.mp h.stands
  have hfits := h.fits
  rw [List.length_append] at hfits
  rw [← h.buffer] at hcode hfits
  obtain ⟨bs', hgr, hinside, hbuffer, hposition⟩ := h.inside.decodeGr_spec h.krp
    (htwoMs ▸ get2MagSign_lt hx) hcode (by omega)
  refine ⟨⟨bs', ⟨if twoMs = 0 then min (params.kp + UQ_GR) KPMAX else params.kp - DQ_GR,
    (rlgrCodeGr params.krp twoMs).2⟩, done ++ [x]⟩, ?_, hinside, hbuffer.trans h.buffer, ?_, ?_,
      rlgrCodeGr_krp_le h.krp _, ?_, ?_, rfl⟩
  · rw [decodeGolombRice, h.same, hgr, Option.bind_eq_bind, Option.bind_some]
    dsimp only
    rw [htwoMs, magOf_get2MagSign hx, h.written, putCoefficient, if_pos hdst]
  · dsimp only
    rw [updateParam_sub h.kp, updateParam_add, ite_not]
  · dsimp only
    split_ifs
    · exact updateParam_le _ _
    · exact updateParam_le _ _
  · dsimp only
    rw [hposition]
    exact hbits
  · dsimp only
    rw [hposition, ← h.buffer]
    omega

/-- Two neighbours fit into one code of `RLGR3`; the last coefficient is coded with a 0. -/
def PairsFit (data : List Int) : Prop :=
  (data ++ [0]).IsChain fun x y => get2MagSign x + get2MagSign y < 2 ^ 15

lemma codeBits_eq {code : Nat} (h : code < 2 ^ 15) : codeBits code = Nat.size code := by
  rw [codeBits, if_pos h]
  rcases eq_or_ne code 0 with rfl | hne
  · rw [if_neg (not_not.mpr rfl), Nat.size_zero]
  · have hsize : Nat.size code ≤ 15 := Nat.size_le.mpr h
    rw [if_pos hne, lzcntS_eq (h.trans (by decide))]
    omega

/-- What is written for two coefficients: the second one if there is room. -/
lemma putCoefficient_two {x y : Int} {rest : List Int}
    (hdst : done.length + (x :: rest).length = dst) (hy : y = (getNextInput rest).1) :
    putCoefficient dst (putCoefficient dst done x) y =
      done ++ (x :: rest).take 2 := by
  rw [List.length_cons] at hdst
  have hfirst : putCoefficient dst done x = done ++ [x] := by
    rw [putCoefficient, if_pos (by omega)]
  rw [hfirst, putCoefficient, List.length_append, List.length_singleton]
  cases rest with
  | nil => rw [if_neg (by rw [List.length_nil] at hdst; omega)]; rfl
  | cons z rest =>
    rw [if_pos (by rw [List.length_cons] at hdst; omega), hy, List.append_assoc]
    rfl

/-- A round of the Golomb-Rice mode with two coefficients. -/
lemma decodeGolombRice_rlgr3 {x : Int} {rest : List Int} (hrange : ∀ z ∈ x :: rest, IsInt16 z)
    (hpairs : PairsFit (x :: rest)) (hdst : done.length + (x :: rest).length = dst)
    (h : d.At src params (bitsOfPuts (encodeGolombRice .rlgr3 params (x :: rest)).1 ++ bits) done) :
    ∃ d', decodeGolombRice .rlgr3 dst d = some d' ∧
      d'.At src (encodeGolombRice .rlgr3 params (x :: rest)).2.2 bits
        (done ++ (x :: rest).take 2) := by
  obtain ⟨y, hy⟩ : ∃ y, y = (getNextInput rest).1 := ⟨_, rfl⟩
  have hy16 : IsInt16 y := by
    rw [hy]
    cases rest with
    | nil => exact ⟨by decide, by decide⟩
    | cons z rest => exact hrange z (by simp)
  have hsum : get2MagSign x + get2MagSign y < 2 ^ 15 := by
    rw [hy]
    cases rest with
    | nil => exact (List.isChain_cons_cons.mp hpairs).1
    | cons z rest => exact (List.isChain_cons_cons.mp hpairs).1
  obtain ⟨m, hm⟩ : ∃ m, m = get2MagSign x := ⟨_, rfl⟩
  obtain ⟨n, hn⟩ : ∃ n, n = get2MagSign y := ⟨_, rfl⟩
  rw [← hm, ← hn] at hsum
  have hencode : encodeGolombRice .rlgr3 params (x :: rest) =
      ((rlgrCodeGr params.krp (m + n)).1 ++ [⟨m, getMinBits (m + n)⟩], (getNextInput rest).2,
        ⟨if m ≠ 0 ∧ n ≠ 0 then updateParam params.kp (-2 * DQ_GR)
          else if m = 0 ∧ n = 0 then updateParam params.kp (2 * UQ_GR) else params.kp,
          (rlgrCodeGr params.krp (m + n)).2⟩) := by
    rw [hm, hn, hy]
    rfl
  rw [hencode] at h ⊢
  dsimp only at h ⊢
  have hsize : Nat.size (m + n) ≤ 15 := Nat.size_le.mpr hsum
  have hstands := h.stands
  have hfits := h.fits
  rw [bitsOfPuts_append, bitsOfPuts_cons, bitsOfPuts_nil, List.append_nil, List.append_assoc,
    BitPut.toBits, getMinBits] at hstands hfits
  dsimp only at hstands hfits
  rw [msbBits_mod _ _ (by omega)] at hstands hfits
  obtain ⟨hcode, hstands⟩ := stands_append.mp hstands
  obtain ⟨hfirst, hstands⟩ := stands_append.mp hstands
  rw [List.length_append, List.length_append, length_msbBits] at hfits
  rw [length_msbBits] at hstands
  rw [← h.buffer] at hcode hfirst hfits
  obtain ⟨bs₁, hgr, hinside₁, hbuffer₁, hposition₁⟩ := h.inside.decodeGr_spec h.krp
    (hsum.trans (by decide)) hcode (by omega)
  obtain ⟨bs', htake, hinside, hbuffer, hposition⟩ := hinside₁.takeNumber
    (show Nat.size (m + n) < 32 by omega)
    ((Nat.le_add_right m n).trans_lt (Nat.lt_size_self (m + n)))
    (by rw [hbuffer₁, hposition₁]; exact hfirst) (by rw [hbuffer₁, hposition₁]; omega)
  have hsecond : (m + n + 2 ^ 32 - m) % 2 ^ 32 = n := by
    rw [Nat.add_assoc, Nat.add_sub_cancel_left, Nat.add_mod_right]
    exact Nat.mod_eq_of_lt (by omega)
  have hx16 : IsInt16 x := hrange x (by simp)
  refine ⟨⟨bs', ⟨if m ≠ 0 ∧ n ≠ 0 then params.kp - 2 * DQ_GR
      else if m = 0 ∧ n = 0 then min (params.kp + 2 * UQ_GR) KPMAX else params.kp,
    (rlgrCodeGr params.krp (m + n)).2⟩, done ++ (x :: rest).take 2⟩, ?_, hinside,
      (hbuffer.trans hbuffer₁).trans h.buffer, ?_, ?_, rlgrCodeGr_krp_le h.krp _, ?_, ?_, rfl⟩
  · rw [decodeGolombRice, h.same, hgr, Option.bind_eq_bind, Option.bind_some]
    dsimp only
    rw [codeBits_eq hsum, htake, Option.bind_eq_bind, Option.bind_some]
    dsimp only
    rw [hsecond, hm, hn, magOf_get2MagSign hx16, magOf_get2MagSign hy16, h.written,
      putCoefficient_two hdst hy]
  · dsimp only
    have hdown := updateParam_sub h.kp (2 * DQ_GR)
    have hup := @updateParam_add params.kp (2 * UQ_GR)
    rw [← hdown, ← hup]
    rfl
  · dsimp only
    split_ifs
    · exact updateParam_le _ _
    · exact updateParam_le _ _
    · exact h.kp
  · dsimp only
    rw [hposition, hposition₁]
    exact hstands
  · dsimp only
    rw [hposition, hposition₁, ← h.buffer]
    omega

/-- A round with `k = 0`. -/
lemma decodeGolombRice_spec {mode : RlgrMode} (hne : data ≠ []) (hrange : ∀ x ∈ data, IsInt16 x)
    (hpairs : mode = .rlgr3 → PairsFit data) (hdst : done.length + data.length = dst)
    (h : d.At src params (bitsOfPuts (encodeGolombRice mode params data).1 ++ bits) done) :
    ∃ d' front, decodeGolombRice mode dst d = some d' ∧
      data = front ++ (encodeGolombRice mode params data).2.1 ∧
      d'.At src (encodeGolombRice mode params data).2.2 bits (done ++ front) ∧ front ≠ [] := by
  cases data with
  | nil => exact absurd rfl hne
  | cons x rest =>
    cases mode with
    | rlgr1 =>
      obtain ⟨d', hround, hat⟩ := decodeGolombRice_rlgr1 (hrange x (by simp))
        (show done.length < dst by rw [List.length_cons] at hdst; omega) h
      exact ⟨d', [x], hround, rfl, hat, by simp⟩
    | rlgr3 =>
      obtain ⟨d', hround, hat⟩ := decodeGolombRice_rlgr3 hrange (hpairs rfl) hdst h
      refine ⟨d', (x :: rest).take 2, hround, ?_, hat, by simp⟩
      cases rest with
      | nil => rfl
      | cons y rest => rfl

/-- A round of the decoder takes what a round of the encoder has put. -/
lemma rlgrDecodeRound_spec {mode : RlgrMode} (hne : data ≠ []) (hrange : ∀ x ∈ data, IsInt16 x)
    (hpairs : mode = .rlgr3 → PairsFit data) (hdst : done.length + data.length = dst)
    (h : d.At src params (bitsOfPuts (rlgrEncodeRound mode params data).1 ++ bits) done) :
    ∃ d' front, rlgrDecodeRound mode dst d = some d' ∧
      data = front ++ (rlgrEncodeRound mode params data).2.1 ∧
      d'.At src (rlgrEncodeRound mode params data).2.2 bits
        (done ++ restored (decide (params.k ≠ 0)) front) ∧
      front ≠ [] ∧ ((rlgrEncodeRound mode params data).2.1 ≠ [] →
        restored (decide (params.k ≠ 0)) front = front) := by
  rw [rlgrDecodeRound, h.same]
  rw [rlgrEncodeRound] at h ⊢
  rcases eq_or_ne params.k 0 with hk | hk
  · rw [if_neg (not_not.mpr hk)] at h ⊢
    obtain ⟨d', front, hround, hdata, hat, hfront⟩ :=
      decodeGolombRice_spec hne hrange hpairs hdst h
    have hsame : restored (decide (params.k ≠ 0)) front = front := by
      rw [restored, decide_eq_false (not_not.mpr hk), if_neg fun h => Bool.noConfusion h.1]
    rw [if_neg (not_not.mpr hk)]
    exact ⟨d', front, hround, hdata, hsame.symm ▸ hat, hfront, fun _ => hsame⟩
  · rw [if_pos hk] at h ⊢
    rw [decide_eq_true hk, if_pos hk]
    exact decodeRunLength_spec hne hrange hdst.le h

/-! ### Runs of the loops -/

/-- Whether the encoder's last round is one of the run length mode. -/
def endsInRun (mode : RlgrMode) : Nat → RlgrParams → List Int → Bool
  | 0, _, _ => false
  | fuel + 1, params, data =>
    if (rlgrEncodeRound mode params data).2.1 = [] then decide (params.k ≠ 0)
    else
      endsInRun mode fuel (rlgrEncodeRound mode params data).2.2
        (rlgrEncodeRound mode params data).2.1

lemma restored_append (inRun : Bool) (front : List Int) {rest : List Int} (hne : rest ≠ []) :
    restored inRun (front ++ rest) = front ++ restored inRun rest := by
  have hlast : (front ++ rest).getLast? = rest.getLast? := by
    rw [List.getLast?_append, List.getLast?_eq_some_getLast hne, Option.some_or]
  rw [restored, restored, hlast]
  split_ifs
  · rw [List.dropLast_append_of_ne_nil hne, List.append_assoc]
  · rfl

lemma PairsFit.of_append {front rest : List Int} (h : PairsFit (front ++ rest)) :
    PairsFit rest := by
  rw [PairsFit, List.append_assoc] at h
  exact h.right_of_append

lemma length_restored (inRun : Bool) (data : List Int) :
    (restored inRun data).length = data.length := by
  rw [restored]
  split_ifs with h
  · cases data with
    | nil => exact absurd h.2 (by simp)
    | cons x data => simp
  · rfl

lemma restored_nil (inRun : Bool) : restored inRun [] = [] := by simp [restored]

lemma rlgrEncodeLoop_round (mode : RlgrMode) (fuel : Nat) (params : RlgrParams) (hne : data ≠ []) :
    rlgrEncodeLoop mode (fuel + 1) params data = (rlgrEncodeRound mode params data).1 ++
      rlgrEncodeLoop mode fuel (rlgrEncodeRound mode params data).2.2
        (rlgrEncodeRound mode params data).2.1 := by
  rw [rlgrEncodeLoop, if_neg hne]

/-- Every round puts a bit. -/
lemma rlgrEncodeRound_pos (mode : RlgrMode) (params : RlgrParams) (data : List Int) :
    0 < (bitsOfPuts (rlgrEncodeRound mode params data).1).length := by
  have hcode : ∀ krp val, 0 < (bitsOfPuts (rlgrCodeGr krp val).1).length := by
    intro krp val
    simp [rlgrCodeGr, bitsOfPuts_outputBit]
  rw [rlgrEncodeRound]
  split_ifs
  · simp only [encodeRunLength, bitsOfPuts_append, List.length_append]
    exact Nat.add_pos_right _ (hcode _ _)
  · cases mode with
    | rlgr1 => exact hcode _ _
    | rlgr3 =>
      simp only [encodeGolombRice, bitsOfPuts_append, List.length_append]
      exact Nat.add_pos_left (hcode _ _) _

/-- The loop of the decoder ends when the output is full. -/
lemma rlgrDecodeLoop_full (mode : RlgrMode) (fuel : Nat) (hfull : dst ≤ d.output.length) :
    rlgrDecodeLoop mode dst fuel d = d := by
  cases fuel with
  | zero => rfl
  | succ fuel => rw [rlgrDecodeLoop, if_neg fun hgo => absurd hgo.2 (not_lt.mpr hfull)]

/-- The decoder's loop takes what the encoder's loop has put. -/
lemma rlgrDecodeLoop_spec {mode : RlgrMode} {fuel fuel' : Nat} (hfuel : data.length ≤ fuel)
    (hrange : ∀ x ∈ data, IsInt16 x) (hpairs : mode = .rlgr3 → PairsFit data)
    (hdst : done.length + data.length = dst)
    (hfuel' : (bitsOfPuts (rlgrEncodeLoop mode fuel params data)).length ≤ fuel')
    (h : d.At src params (bitsOfPuts (rlgrEncodeLoop mode fuel params data)) done) :
    (rlgrDecodeLoop mode dst fuel' d).output =
      done ++ restored (endsInRun mode fuel params data) data := by
  induction fuel generalizing data params d done fuel' with
  | zero =>
    obtain rfl := List.length_eq_zero_iff.mp (Nat.le_zero.mp hfuel)
    rw [restored_nil, List.append_nil, rlgrDecodeLoop_full _ _ (by rw [h.written]; exact hdst.ge)]
    exact h.written
  | succ fuel ih =>
    rcases eq_or_ne data [] with rfl | hne
    · rw [restored_nil, List.append_nil,
        rlgrDecodeLoop_full _ _ (by rw [h.written]; exact hdst.ge)]
      exact h.written
    rw [rlgrEncodeLoop_round _ _ _ hne, bitsOfPuts_append] at h hfuel'
    have hpos := rlgrEncodeRound_pos mode params data
    obtain ⟨d', front, hround, hdata, hat, hfront, hsame⟩ :=
      rlgrDecodeRound_spec hne hrange hpairs hdst h
    have hfits := h.fits
    rw [List.length_append] at hfuel' hfits
    obtain ⟨fuel', rfl⟩ := Nat.exists_eq_add_of_le' (show 1 ≤ fuel' by omega)
    have hgo : 0 < d.bs.remainingLength ∧ d.output.length < dst := by
      have hlen := List.length_pos_iff.mpr hne
      rw [h.inside.remainingLength, h.buffer, h.written]
      omega
    rw [rlgrDecodeLoop, if_pos hgo, hround]
    dsimp only
    obtain ⟨rest, hrest⟩ : ∃ rest, rest = (rlgrEncodeRound mode params data).2.1 := ⟨_, rfl⟩
    obtain ⟨params', hparams⟩ : ∃ params', params' = (rlgrEncodeRound mode params data).2.2 :=
      ⟨_, rfl⟩
    rw [endsInRun]
    rw [← hrest] at hdata hat hsame hfuel' ⊢
    rw [← hparams] at hat hfuel' ⊢
    have hlen : data.length = front.length + rest.length := by rw [hdata, List.length_append]
    have hfront' := List.length_pos_iff.mpr hfront
    have hsub : ∀ x ∈ rest, IsInt16 x := fun x hx => hrange x (by rw [hdata]; simp [hx])
    rw [ih (by omega) hsub (fun hmode => PairsFit.of_append (hdata ▸ hpairs hmode))
      (by rw [List.length_append, length_restored]; omega) (by omega) hat, List.append_assoc]
    congr 1
    rcases eq_or_ne rest [] with hnil | hmore
    · rw [if_pos hnil, hdata, hnil, restored_nil, List.append_nil, List.append_nil]
    · rw [if_neg hmore, hsame hmore, hdata, restored_append _ _ hmore]

/-! ### The codec -/

lemma RlgrParams.start_le : RlgrParams.start.kp ≤ KPMAX ∧ RlgrParams.start.krp ≤ KPMAX :=
  ⟨by decide, by decide⟩

/-- What is encoded into a buffer that is large enough is decoded, up to a last coefficient 0 that
is reached in a run. In `RLGR3` two neighbours have to fit into one code. The bits and the
coefficients are few enough to be counted in an `int`, as both sides do. -/
theorem rfxRlgrDecode_encode {mode : RlgrMode} {data : List Int} {bufferSize : Nat}
    (hne : data ≠ []) (hrange : ∀ x ∈ data, IsInt16 x) (hpairs : mode = .rlgr3 → PairsFit data)
    (hroom : (bitsOfPuts (rlgrPuts mode data)).length ≤ 8 * bufferSize)
    (hsize : 8 * bufferSize < 2 ^ 31) (_hcount : data.length < 2 ^ 31) :
    rfxRlgrDecode mode (rfxRlgrEncode mode data bufferSize) data.length =
      some (restored (endsInRun mode data.length .start data) data) := by
  obtain ⟨hstands, hfits, hlength⟩ := stands_rfxRlgrEncode hroom
  obtain ⟨src, hsrc⟩ : ∃ src, src = rfxRlgrEncode mode data bufferSize := ⟨_, rfl⟩
  rw [← hsrc] at hstands hfits hlength ⊢
  have hpos : 0 < (bitsOfPuts (rlgrPuts mode data)).length := by
    obtain ⟨fuel, hfuel⟩ := Nat.exists_eq_add_of_le' (List.length_pos_iff.mpr hne)
    rw [rlgrPuts, hfuel, rlgrEncodeLoop_round _ _ _ hne, bitsOfPuts_append, List.length_append]
    exact Nat.add_pos_left (rlgrEncodeRound_pos _ _ _) _
  have hat : RlgrDecoder.At src ⟨(WBitStream.attach src).fetch, .start, []⟩ .start
      (bitsOfPuts (rlgrPuts mode data)) [] := by
    refine ⟨⟨WBitStream.reads_attach src, ?_, ?_⟩, rfl, rfl, RlgrParams.start_le.1,
      RlgrParams.start_le.2, hstands, ?_, rfl⟩
    · exact (Nat.mul_le_mul_left 8 hlength).trans_lt (hsize.trans (by norm_num))
    · exact Nat.zero_le _
    · exact (Nat.zero_add _).trans_le hfits
  have hrun := rlgrDecodeLoop_spec le_rfl hrange hpairs (Nat.zero_add _) hfits hat
  have hsome : ¬(src = [] ∨ data.length = 0) := by
    rintro (hnil | hzero)
    · rw [hnil, List.length_nil] at hfits
      omega
    · exact hne (List.length_eq_zero_iff.mp hzero)
  rw [rfxRlgrDecode, if_neg hsome]
  dsimp only
  rw [hrun, List.nil_append, length_restored, Nat.sub_self, List.replicate_zero, List.append_nil]

theorem rfxRlgrDecode_encode_last : rfxRlgrDecode .rlgr3
    (rfxRlgrEncode .rlgr3 [0, 0, 0, 0, 0, 0, 7, 0] 16) 8 = some [0, 0, 0, 0, 0, 0, 7, 1] := by
  have hrestored : restored (endsInRun .rlgr3 8 .start [0, 0, 0, 0, 0, 0, 7, 0])
      [0, 0, 0, 0, 0, 0, 7, 0] = [0, 0, 0, 0, 0, 0, 7, 1] := by decide +kernel
  rw [← hrestored]
  exact @rfxRlgrDecode_encode .rlgr3 [0, 0, 0, 0, 0, 0, 7, 0] 16 (by decide)
    (by unfold IsInt16; decide) (fun _ => by unfold PairsFit; decide) (by decide +kernel)
    (by decide) (by decide)

end FreeRdp
