import FreeRdp.Codec.Rlgr.RoundTrip

/-!
# The decoder on arbitrary bytes

Whatever the bytes are, the decoder stays in its input and in its output, and every round takes a
bit; so the loop ends. The length of a run is an `int`, which holds it if the input has 256 KiB at
most.
-/

namespace FreeRdp

namespace WBitStream

variable {bs bs' : WBitStream}

/-- The stream is inside the same buffer, and not in front of where it was. -/
structure Ahead (bs bs' : WBitStream) : Prop where
  inside : bs'.Inside
  buffer : bs'.buffer = bs.buffer
  position : bs.position ≤ bs'.position

lemma Ahead.trans {bs'' : WBitStream} (h : bs.Ahead bs') (h' : bs'.Ahead bs'') : bs.Ahead bs'' :=
  ⟨h'.inside, h'.buffer.trans h.buffer, h.position.trans h'.position⟩

lemma Inside.ahead_countLeading (h : bs.Inside) (bit : Bool) :
    bs.Ahead (countLeading bit bs).2 := by
  obtain ⟨vk, bs', hcount, hinside, hbuffer, hposition, -⟩ := h.countLeading_spec bit
  rw [hcount]
  exact ⟨hinside, hbuffer, by rw [hposition]; exact Nat.le_add_right _ _⟩

lemma Inside.ahead_skipBit (h : bs.Inside) (hskip : skipBit bs = some bs') :
    bs.Ahead bs' ∧ bs.position < bs'.position := by
  rw [skipBit, h.remainingLength] at hskip
  split_ifs at hskip with hleft
  obtain rfl := Option.some.inj hskip
  obtain ⟨hinside, hbuffer, hposition⟩ := h.shift (show 1 < 32 by decide) (by omega)
  exact ⟨⟨hinside, hbuffer, by omega⟩, by omega⟩

/-- A shift by 32 or more does nothing, so that no number of bits leaves the buffer. -/
lemma Inside.ahead_takeBits (h : bs.Inside) {n v : Nat} (htake : takeBits n bs = some (v, bs')) :
    bs.Ahead bs' := by
  have hshift : bs' = bs.shift n ∧ n ≤ 8 * bs.buffer.length - bs.position := by
    rw [takeBits, h.remainingLength] at htake
    rcases Nat.lt_or_ge (8 * bs.buffer.length - bs.position) n with hlt | hge
    · rw [if_pos hlt] at htake
      exact absurd htake (by simp)
    · rw [if_neg (not_lt.mpr hge)] at htake
      exact ⟨(congrArg Prod.snd (Option.some.inj htake)).symm, hge⟩
  obtain ⟨rfl, hle⟩ := hshift
  have hwithin := h.within
  rcases Nat.lt_or_ge n 32 with hlt | hge
  · obtain ⟨hinside, hbuffer, hposition⟩ := h.shift hlt (by omega)
    exact ⟨hinside, hbuffer, by omega⟩
  · have hsame : bs.shift n = bs := by
      rw [WBitStream.shift, if_neg (by omega), if_neg (by omega)]
    rw [hsame]
    exact ⟨h, rfl, le_rfl⟩

/-- The new `krp` is in its range. -/
lemma rlgrCode_krp_le {krp : Nat} (hkrp : krp ≤ KPMAX) (vk rest : Nat) :
    (rlgrCode krp vk rest).2 ≤ KPMAX := by
  rw [rlgrCode]
  dsimp only
  split_ifs
  · exact (Nat.sub_le _ _).trans hkrp
  · exact Nat.min_le_right _ _
  · exact hkrp

lemma Inside.ahead_decodeGr (h : bs.Inside) {krp krp' code : Nat} (hkrp : krp ≤ KPMAX)
    (hgr : decodeGr krp bs = some (code, krp', bs')) :
    bs.Ahead bs' ∧ bs.position < bs'.position ∧ krp' ≤ KPMAX := by
  have hcounted := h.ahead_countLeading true
  obtain ⟨⟨vk, bs₁⟩, hcount⟩ : ∃ c, c = countLeading true bs := ⟨_, rfl⟩
  rw [decodeGr, ← hcount] at hgr
  rw [← hcount] at hcounted
  dsimp only at hgr hcounted
  obtain ⟨bs₂, hskip, hgr⟩ := Option.bind_eq_some_iff.mp hgr
  obtain ⟨⟨rest, bs₃⟩, htake, hgr⟩ := Option.bind_eq_some_iff.mp hgr
  obtain ⟨hskipped, hlt⟩ := hcounted.inside.ahead_skipBit hskip
  have htaken := hskipped.inside.ahead_takeBits htake
  dsimp only at hgr
  obtain ⟨-, hgr⟩ := Prod.mk.inj (Option.some.inj hgr)
  obtain ⟨rfl, rfl⟩ := Prod.mk.inj hgr
  exact ⟨hcounted.trans (hskipped.trans htaken),
    hcounted.position.trans_lt (hlt.trans_le htaken.position), rlgrCode_krp_le hkrp _ _⟩

end WBitStream

/-! ### Rounds -/

/-- The decoder is in its input and in its output, and its parameters are in their range. -/
structure RlgrDecoder.Sound (src : List UInt8) (dstSize : Nat) (d : RlgrDecoder) : Prop where
  inside : d.bs.Inside
  buffer : d.bs.buffer = src
  kp : d.params.kp ≤ KPMAX
  krp : d.params.krp ≤ KPMAX
  room : d.output.length ≤ dstSize
  range : ∀ x ∈ d.output, IsInt16 x

variable {src : List UInt8} {mode : RlgrMode} {dst : Nat} {d d' : RlgrDecoder}

lemma isInt16_asInt16 (x : Int) : IsInt16 (asInt16 x) :=
  ⟨Int.le_bmod (by norm_num), Int.bmod_lt (by norm_num)⟩

lemma isInt16_magOf (val : Nat) : IsInt16 (magOf val) := by
  rw [magOf]
  split_ifs
  · exact isInt16_asInt16 _
  · exact isInt16_asInt16 _

/-- What is written stays in the output. -/
lemma putCoefficient_sound {output : List Int} {mag : Int} (hroom : output.length ≤ dst)
    (hrange : ∀ x ∈ output, IsInt16 x) (hmag : IsInt16 mag) :
    (putCoefficient dst output mag).length ≤ dst ∧
      ∀ x ∈ putCoefficient dst output mag, IsInt16 x := by
  rw [putCoefficient]
  split_ifs with hlt
  · constructor
    · rw [List.length_append, List.length_singleton]
      exact hlt
    · intro x hx
      rcases List.mem_append.mp hx with hold | hnew
      · exact hrange x hold
      · rw [List.mem_singleton.mp hnew]
        exact hmag
  · exact ⟨hroom, hrange⟩

lemma addRuns_kp_le {vk kp : Nat} (hkp : kp ≤ KPMAX) (run : Nat) :
    (addRuns vk kp run).2 ≤ KPMAX := by
  induction vk generalizing kp run with
  | zero => exact hkp
  | succ vk ih => exact ih (Nat.min_le_right _ _) _

/-- A run of zeros adds 1024 coefficients at most for every bit. -/
lemma addRuns_run_le {vk kp : Nat} (hkp : kp ≤ KPMAX) (run : Nat) :
    (addRuns vk kp run).1 ≤ run + vk * 2 ^ 10 := by
  induction vk generalizing kp run with
  | zero => exact Nat.le_add_right _ _
  | succ vk ih =>
    have hk : kp >>> LSGR ≤ 10 := by
      rw [LSGR, Nat.shiftRight_eq_div_pow]
      rw [KPMAX] at hkp
      omega
    have hadd : 1 <<< (kp >>> LSGR) ≤ 2 ^ 10 := by
      rw [Nat.one_shiftLeft]
      exact Nat.pow_le_pow_right (by norm_num) hk
    have hrest := @ih (min (kp + UP_GR) KPMAX) (Nat.min_le_right _ _) (run + 1 <<< (kp >>> LSGR))
    rw [addRuns]
    omega

/-- The `int` that holds the length of a run does not overflow in the round that comes next: there
are at most 10 bits behind the zeros, which add less than 1024. -/
def RlgrDecoder.RunFits (d : RlgrDecoder) : Prop :=
  ∀ bs, skipBit (countLeading false d.bs).2 = some bs →
    (addRuns (countLeading false d.bs).1 d.params.kp 0).2 >>> LSGR ≤ 10 ∧
      (addRuns (countLeading false d.bs).1 d.params.kp 0).1 + 2 ^ 10 ≤ 2 ^ 31

lemma RlgrDecoder.Sound.runFits (h : d.Sound src dst) (hsize : src.length ≤ 2 ^ 18) :
    d.RunFits := by
  intro bs hskip
  have hkp := @addRuns_kp_le (countLeading false d.bs).1 _ h.kp 0
  have hrun := @addRuns_run_le (countLeading false d.bs).1 _ h.kp 0
  obtain ⟨vk, bs', hcount, hinside, hbuffer, hposition, -⟩ := h.inside.countLeading_spec false
  rw [hcount] at hskip hkp hrun ⊢
  obtain ⟨hskipped, hlt⟩ := hinside.ahead_skipBit hskip
  have hwithin := hskipped.inside.within
  rw [hskipped.buffer, hbuffer, h.buffer] at hwithin
  refine ⟨?_, by omega⟩
  rw [LSGR, Nat.shiftRight_eq_div_pow]
  rw [KPMAX] at hkp
  omega

/-- A round of the run length mode. -/
lemma RlgrDecoder.Sound.decodeRunLength (h : d.Sound src dst)
    (hround : decodeRunLength dst d = some d') :
    d'.Sound src dst ∧ d.bs.position < d'.bs.position := by
  have hcounted := h.inside.ahead_countLeading false
  obtain ⟨⟨vk, bs₁⟩, hcount⟩ : ∃ c, c = countLeading false d.bs := ⟨_, rfl⟩
  have hkp := @addRuns_kp_le vk _ h.kp 0
  obtain ⟨⟨run, kp⟩, hruns⟩ : ∃ r, r = addRuns vk d.params.kp 0 := ⟨_, rfl⟩
  rw [FreeRdp.decodeRunLength, ← hcount] at hround
  rw [← hcount] at hcounted
  dsimp only at hround hcounted
  rw [← hruns] at hround hkp
  obtain ⟨bs₂, hskip, hround⟩ := Option.bind_eq_some_iff.mp hround
  obtain ⟨⟨rest, bs₃⟩, htake, hround⟩ := Option.bind_eq_some_iff.mp hround
  obtain ⟨⟨sign, bs₄⟩, hsign, hround⟩ := Option.bind_eq_some_iff.mp hround
  obtain ⟨⟨code, krp, bs₅⟩, hgr, hround⟩ := Option.bind_eq_some_iff.mp hround
  obtain ⟨hskipped, hlt⟩ := hcounted.inside.ahead_skipBit hskip
  have htaken := hskipped.inside.ahead_takeBits htake
  have hsigned := htaken.inside.ahead_takeBits hsign
  obtain ⟨hcoded, -, hkrp⟩ := hsigned.inside.ahead_decodeGr h.krp hgr
  have hbs := hcounted.trans (hskipped.trans (htaken.trans (hsigned.trans hcoded)))
  have hposition := hskipped.trans (htaken.trans (hsigned.trans hcoded))
  obtain ⟨mag, hmag⟩ : ∃ mag, mag = if sign ≠ 0 then asInt16 (-asInt16 (code + 1))
      else asInt16 (code + 1) := ⟨_, rfl⟩
  have hmag16 : IsInt16 mag := by
    rw [hmag]
    split_ifs
    · exact isInt16_asInt16 _
    · exact isInt16_asInt16 _
  obtain ⟨size, hsize⟩ : ∃ size, size = min (run + rest) (dst - d.output.length) := ⟨_, rfl⟩
  have hroom := h.room
  obtain ⟨hroom', hrange'⟩ := @putCoefficient_sound dst (d.output ++ List.replicate size 0) mag
    (by rw [List.length_append, List.length_replicate]; omega)
    (by
      intro x hx
      rcases List.mem_append.mp hx with hold | hzero
      · exact h.range x hold
      · rw [List.eq_of_mem_replicate hzero]
        exact ⟨by decide, by decide⟩) hmag16
  dsimp only at hround
  rw [← hmag, ← hsize] at hround
  obtain rfl := Option.some.inj hround
  refine ⟨⟨hbs.inside, hbs.buffer.trans h.buffer, (Nat.sub_le _ _).trans hkp, hkrp, hroom',
    hrange'⟩, ?_⟩
  have hlast := (htaken.trans (hsigned.trans hcoded)).position
  exact hcounted.position.trans_lt (hlt.trans_le hlast)

/-- A round with `k = 0`. -/
lemma RlgrDecoder.Sound.decodeGolombRice (h : d.Sound src dst)
    (hround : decodeGolombRice mode dst d = some d') :
    d'.Sound src dst ∧ d.bs.position < d'.bs.position := by
  obtain ⟨⟨code, krp, bs₁⟩, hgr, hround⟩ := Option.bind_eq_some_iff.mp hround
  obtain ⟨hcoded, hlt, hkrp⟩ := h.inside.ahead_decodeGr h.krp hgr
  dsimp only at hround
  have hdown := (Nat.sub_le d.params.kp DQ_GR).trans h.kp
  have hdown2 := (Nat.sub_le d.params.kp (2 * DQ_GR)).trans h.kp
  cases mode with
  | rlgr1 =>
    obtain ⟨hroom, hrange⟩ := putCoefficient_sound h.room h.range (isInt16_magOf code)
    obtain rfl := Option.some.inj hround
    refine ⟨⟨hcoded.inside, hcoded.buffer.trans h.buffer, ?_, hkrp, hroom, hrange⟩, hlt⟩
    dsimp only
    split_ifs
    · exact Nat.min_le_right _ _
    · exact hdown
  | rlgr3 =>
    obtain ⟨⟨val1, bs₂⟩, htake, hround⟩ := Option.bind_eq_some_iff.mp hround
    have htaken := hcoded.inside.ahead_takeBits htake
    obtain ⟨hroom, hrange⟩ := putCoefficient_sound h.room h.range (isInt16_magOf val1)
    obtain ⟨hroom', hrange'⟩ := putCoefficient_sound hroom hrange
      (isInt16_magOf ((code + 2 ^ 32 - val1) % 2 ^ 32))
    obtain rfl := Option.some.inj hround
    refine ⟨⟨htaken.inside, (htaken.buffer.trans hcoded.buffer).trans h.buffer, ?_, hkrp, hroom',
      hrange'⟩, hlt.trans_le htaken.position⟩
    dsimp only
    split_ifs
    · exact hdown2
    · exact Nat.min_le_right _ _
    · exact h.kp

/-- A round keeps the decoder sound, and takes a bit. -/
lemma RlgrDecoder.Sound.round (h : d.Sound src dst)
    (hround : rlgrDecodeRound mode dst d = some d') :
    d'.Sound src dst ∧ d.bs.position < d'.bs.position := by
  rw [rlgrDecodeRound] at hround
  split_ifs at hround
  · exact h.decodeRunLength hround
  · exact h.decodeGolombRice hround

/-! ### The loop -/

/-- A round that the loop goes on behind. -/
def RlgrStep (mode : RlgrMode) (dstSize : Nat) (d d' : RlgrDecoder) : Prop :=
  (0 < d.bs.remainingLength ∧ d.output.length < dstSize) ∧
    rlgrDecodeRound mode dstSize d = some d'

/-- The decoder at the start. -/
def RlgrDecoder.start (src : List UInt8) : RlgrDecoder :=
  ⟨(WBitStream.attach src).fetch, .start, []⟩

lemma sound_start (hsize : 8 * src.length < 2 ^ 32) (dst : Nat) :
    (RlgrDecoder.start src).Sound src dst :=
  ⟨⟨WBitStream.reads_attach src, hsize, Nat.zero_le _⟩, rfl, RlgrParams.start_le.1,
    RlgrParams.start_le.2, Nat.zero_le _, fun _ hx => absurd hx List.not_mem_nil⟩

lemma RlgrDecoder.Sound.steps (h : d.Sound src dst)
    (hsteps : Relation.ReflTransGen (RlgrStep mode dst) d d') : d'.Sound src dst := by
  induction hsteps with
  | refl => exact h
  | tail _ hstep ih => exact (ih.round hstep.2).1

/-- With a round for every bit that is left, the loop ends at its condition or at a `break`. -/
lemma rlgrDecodeLoop_ends {fuel : Nat} (h : d.Sound src dst)
    (hfuel : 8 * src.length - d.bs.position ≤ fuel) :
    Relation.ReflTransGen (RlgrStep mode dst) d (rlgrDecodeLoop mode dst fuel d) ∧
      ∀ d', ¬RlgrStep mode dst (rlgrDecodeLoop mode dst fuel d) d' := by
  induction fuel generalizing d with
  | zero =>
    refine ⟨.refl, fun d' hstep => ?_⟩
    have hleft := hstep.1.1
    rw [rlgrDecodeLoop, h.inside.remainingLength, h.buffer] at hleft
    omega
  | succ fuel ih =>
    rw [rlgrDecodeLoop]
    split_ifs with hgo
    · rcases hround : rlgrDecodeRound mode dst d with _ | d₁
      · refine ⟨.refl, fun d' hstep => ?_⟩
        exact absurd (hround.symm.trans hstep.2) (by simp)
      · obtain ⟨hsound, hlt⟩ := h.round hround
        have hwithin := hsound.inside.within
        rw [hsound.buffer] at hwithin
        obtain ⟨hreach, hend⟩ := ih hsound (by omega)
        exact ⟨.head ⟨hgo, hround⟩ hreach, hend⟩
    · exact ⟨.refl, fun d' hstep => hgo hstep.1⟩

end FreeRdp
