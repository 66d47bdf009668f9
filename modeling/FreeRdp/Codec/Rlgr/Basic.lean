import FreeRdp.Winpr.BitStream

/-!
# Adaptive run lengths and Golomb-Rice codes

`rfx_rlgr.c`: the entropy coder of the RemoteFX codec. While `k` is above 0 a run of zeros and the
coefficient behind it are coded; with `k = 0` one coefficient (`RLGR1`) or two (`RLGR3`) are. Both
sides keep the scaled parameters `kp` and `krp`, of which `k` and `kr` are the upper bits.
-/

namespace FreeRdp

def KPMAX : Nat := 80
def LSGR : Nat := 3
def UP_GR : Nat := 4
def DN_GR : Nat := 6
def UQ_GR : Nat := 3
def DQ_GR : Nat := 3

/-- `RLGR_MODE`. -/
inductive RlgrMode
  | rlgr1 | rlgr3
  deriving DecidableEq, Repr

/-- The scaled parameters. -/
structure RlgrParams where
  kp : Nat
  krp : Nat
  deriving DecidableEq, Repr

namespace RlgrParams

def k (params : RlgrParams) : Nat := params.kp >>> LSGR

def kr (params : RlgrParams) : Nat := params.krp >>> LSGR

/-- The parameters at the start. -/
def start : RlgrParams := ⟨1 <<< LSGR, 1 <<< LSGR⟩

end RlgrParams

/-! ### Encoding -/

/-- A call of `rfx_bitstream_put_bits`: the bits and their number. -/
structure BitPut where
  bits : Nat
  nbits : Nat
  deriving DecidableEq, Repr

/-- `UpdateParam`. -/
def updateParam (param : Nat) (deltaP : Int) : Nat :=
  (max 0 (min (param + deltaP) KPMAX)).toNat

/-- `OutputBit`: the bit is put 16 times at once as long as it can be. -/
def outputBit (count : Nat) (bit : Bool) : List BitPut :=
  if h : 0 < count then
    ⟨if bit then 0xFFFF else 0, if 16 < count then 16 else count⟩ :: outputBit (count - 16) bit
  else []
termination_by count

/-- `Get2MagSign`. -/
def get2MagSign (input : Int) : Nat :=
  (if 0 ≤ input then 2 * input else -2 * input - 1).toNat

/-- `rfx_rlgr_code_gr`: what is put, and the new `krp`. -/
def rlgrCodeGr (krp val : Nat) : List BitPut × Nat :=
  let kr := krp >>> LSGR
  let vk := val >>> kr
  (outputBit vk true ++ outputBit 1 false ++
      (if kr ≠ 0 then [⟨val &&& (1 <<< kr - 1), kr⟩] else []),
    if vk = 0 then updateParam krp (-2) else if 1 < vk then updateParam krp vk else krp)

/-- The run of zeros at the front of the data, the coefficient behind it, and the rest: the last
coefficient is no part of the run. -/
def collectZeros : List Int → Nat × Int × List Int
  | [] => (0, 0, [])
  | [input] => (0, input, [])
  | input :: data =>
    if input = 0 then
      let (numZeros, input, data) := collectZeros data
      (numZeros + 1, input, data)
    else (0, input, data)

/-- The zeros that are put for whole runs, what is left of the run, and the new `kp`. -/
def outputZeros (kp numZeros : Nat) : List BitPut × Nat × Nat :=
  if _h : 1 <<< (kp >>> LSGR) ≤ numZeros then
    let (puts, rest, kp) := outputZeros (updateParam kp UP_GR) (numZeros - 1 <<< (kp >>> LSGR))
    (outputBit 1 false ++ puts, rest, kp)
  else ([], numZeros, kp)
termination_by numZeros
decreasing_by
  have hpos : 0 < 1 <<< (kp >>> LSGR) := by
    rw [Nat.one_shiftLeft]
    exact Nat.two_pow_pos _
  omega

/-- The run length mode: what is put, the rest of the data, and the new parameters. -/
def encodeRunLength (params : RlgrParams) (data : List Int) :
    List BitPut × List Int × RlgrParams :=
  let (numZeros, input, data) := collectZeros data
  let (zeros, rest, kp) := outputZeros params.kp numZeros
  let mag := input.natAbs
  let (code, krp) := rlgrCodeGr params.krp (if mag ≠ 0 then mag - 1 else 0)
  (zeros ++ outputBit 1 true ++ [⟨rest, kp >>> LSGR⟩] ++ outputBit 1 (decide (input < 0)) ++ code,
    data, ⟨updateParam kp (-DN_GR), krp⟩)

/-- The next coefficient, 0 behind the end. -/
def getNextInput : List Int → Int × List Int
  | [] => (0, [])
  | input :: data => (input, data)

/-- `GetMinBits`. -/
def getMinBits (val : Nat) : Nat := Nat.size val

/-- The Golomb-Rice mode: what is put, the rest of the data, and the new parameters. -/
def encodeGolombRice (mode : RlgrMode) (params : RlgrParams) (data : List Int) :
    List BitPut × List Int × RlgrParams :=
  match mode with
  | .rlgr1 =>
    let (input, data) := getNextInput data
    let twoMs := get2MagSign input
    let (code, krp) := rlgrCodeGr params.krp twoMs
    (code, data,
      ⟨if twoMs ≠ 0 then updateParam params.kp (-DQ_GR) else updateParam params.kp UQ_GR, krp⟩)
  | .rlgr3 =>
    let (input, data) := getNextInput data
    let twoMs1 := get2MagSign input
    let (input, data) := getNextInput data
    let twoMs2 := get2MagSign input
    let sum2Ms := twoMs1 + twoMs2
    let (code, krp) := rlgrCodeGr params.krp sum2Ms
    (code ++ [⟨twoMs1, getMinBits sum2Ms⟩], data,
      ⟨if twoMs1 ≠ 0 ∧ twoMs2 ≠ 0 then updateParam params.kp (-2 * DQ_GR)
        else if twoMs1 = 0 ∧ twoMs2 = 0 then updateParam params.kp (2 * UQ_GR)
        else params.kp, krp⟩)

/-- A round of the loop of the encoder. -/
def rlgrEncodeRound (mode : RlgrMode) (params : RlgrParams) (data : List Int) :
    List BitPut × List Int × RlgrParams :=
  if params.k ≠ 0 then encodeRunLength params data else encodeGolombRice mode params data

/-- The loop of the encoder; every round takes a coefficient. -/
def rlgrEncodeLoop (mode : RlgrMode) : Nat → RlgrParams → List Int → List BitPut
  | 0, _, _ => []
  | fuel + 1, params, data =>
    if data = [] then []
    else
      let (puts, data, params) := rlgrEncodeRound mode params data
      puts ++ rlgrEncodeLoop mode fuel params data

/-- What `rfx_rlgr_encode` puts. -/
def rlgrPuts (mode : RlgrMode) (data : List Int) : List BitPut :=
  rlgrEncodeLoop mode data.length .start data

/-! ### Decoding -/

/-- A step of `lzcnt_s`: if the upper part is not 0, it is gone on with there. -/
def lzcntStep (shift : Nat) : Nat × Nat → Nat × Nat
  | (n, x) => if x >>> shift ≠ 0 then (n - shift, x >>> shift) else (n, x)

/-- `lzcnt_s`, the portable path. -/
def lzcntS (x : Nat) : Nat :=
  if x = 0 then 32
  else
    let (n, x) := lzcntStep 2 (lzcntStep 4 (lzcntStep 8 (lzcntStep 16 (32, x))))
    if x >>> 1 ≠ 0 then n - 2 else n - x

/-- The number of leading bits `bit` of the accumulator, as many as there are bits left, which are
counted in an `int` in the source. -/
def leadingBits (bit : Bool) (bs : WBitStream) : Nat :=
  min (lzcntS (if bit then 2 ^ 32 - 1 - bs.accumulator else bs.accumulator)) bs.remainingLength

/-- The loop that goes on behind 32 leading bits: the count, and the stream. -/
def countLoop (bit : Bool) : Nat → Nat → Nat → WBitStream → Nat × WBitStream
  | 0, _, vk, bs => (vk, bs)
  | fuel + 1, cnt, vk, bs =>
    if cnt = 32 ∧ 0 < bs.remainingLength then
      let bs := (bs.shift 16).shift 16
      let cnt := leadingBits bit bs
      countLoop bit fuel cnt (vk + cnt) bs
    else (vk, bs)

/-- The leading bits `bit` are counted and passed over. -/
def countLeading (bit : Bool) (bs : WBitStream) : Nat × WBitStream :=
  let cnt := leadingBits bit bs
  let next := countLoop bit (bs.remainingLength + 1) cnt cnt bs
  (next.1, next.2.shift (next.1 % 32))

/-- The decoder: its stream, its parameters, and what it has written. -/
structure RlgrDecoder where
  bs : WBitStream
  params : RlgrParams
  output : List Int
  deriving DecidableEq, Repr

/-- A value as an `INT16`. -/
def asInt16 (x : Int) : Int := Int.bmod x (2 ^ 16)

/-- The runs of zeros: the length of the run, an `int` in the source, and the new `kp`. -/
def addRuns : Nat → Nat → Nat → Nat × Nat
  | 0, kp, run => (run, kp)
  | vk + 1, kp, run => addRuns vk (min (kp + UP_GR) KPMAX) (run + 1 <<< (kp >>> LSGR))

/-- The next bits, which have to be there. The mask of 32 bits, `1 << 32`, is not defined in the
source; the model takes all of the accumulator. -/
def takeBits (n : Nat) (bs : WBitStream) : Option (Nat × WBitStream) :=
  if bs.remainingLength < n then none
  else
    some (if 0 < n then bs.accumulator >>> (32 - n) &&& (1 <<< n - 1) else 0, bs.shift n)

/-- A bit that is passed over. -/
def skipBit (bs : WBitStream) : Option WBitStream :=
  if bs.remainingLength < 1 then none else some (bs.shift 1)

/-- The code behind its unary part, and the new `krp`. -/
def rlgrCode (krp vk rest : Nat) : Nat × Nat :=
  ((rest ||| vk <<< (krp >>> LSGR)) % 2 ^ 16,
    if vk = 0 then krp - 2 else if vk ≠ 1 then min (krp + vk) KPMAX else krp)

/-- A Golomb-Rice code: the leading ones, a bit, and `kr` bits. -/
def decodeGr (krp : Nat) (bs : WBitStream) : Option (Nat × Nat × WBitStream) := do
  let (vk, bs) := countLeading true bs
  let bs ← skipBit bs
  let (rest, bs) ← takeBits (krp >>> LSGR) bs
  let (code, krp) := rlgrCode krp vk rest
  some (code, krp, bs)

/-- A coefficient is written if there is room. -/
def putCoefficient (dstSize : Nat) (output : List Int) (mag : Int) : List Int :=
  if output.length < dstSize then output ++ [mag] else output

/-- The run length mode; `none` stands for the end of the loop. -/
def decodeRunLength (dstSize : Nat) (d : RlgrDecoder) : Option RlgrDecoder := do
  let (vk, bs) := countLeading false d.bs
  let bs ← skipBit bs
  let (run, kp) := addRuns vk d.params.kp 0
  let (rest, bs) ← takeBits (kp >>> LSGR) bs
  let (sign, bs) ← takeBits 1 bs
  let (code, krp, bs) ← decodeGr d.params.krp bs
  let mag := if sign ≠ 0 then asInt16 (-asInt16 (code + 1)) else asInt16 (code + 1)
  let size := min (run + rest) (dstSize - d.output.length)
  some ⟨bs, ⟨kp - DN_GR, krp⟩, putCoefficient dstSize (d.output ++ List.replicate size 0) mag⟩

/-- The coefficient for a doubled magnitude with its sign. -/
def magOf (val : Nat) : Int :=
  if val &&& 1 ≠ 0 then asInt16 (-asInt16 ((val + 1) >>> 1 : Nat)) else asInt16 (val >>> 1 : Nat)

/-- The number of bits of a code. The code goes through an `INT16`, which is extended with its
sign. -/
def codeBits (code : Nat) : Nat :=
  if code ≠ 0 then 32 - lzcntS (if code < 2 ^ 15 then code else code + (2 ^ 32 - 2 ^ 16)) else 0

/-- The Golomb-Rice mode; `none` stands for the end of the loop. -/
def decodeGolombRice (mode : RlgrMode) (dstSize : Nat) (d : RlgrDecoder) : Option RlgrDecoder := do
  let (code, krp, bs) ← decodeGr d.params.krp d.bs
  match mode with
  | .rlgr1 =>
    let kp := if code = 0 then min (d.params.kp + UQ_GR) KPMAX else d.params.kp - DQ_GR
    some ⟨bs, ⟨kp, krp⟩, putCoefficient dstSize d.output (magOf code)⟩
  | .rlgr3 =>
    let (val1, bs) ← takeBits (codeBits code) bs
    let val2 := (code + 2 ^ 32 - val1) % 2 ^ 32
    let kp :=
      if val1 ≠ 0 ∧ val2 ≠ 0 then d.params.kp - 2 * DQ_GR
      else if val1 = 0 ∧ val2 = 0 then min (d.params.kp + 2 * UQ_GR) KPMAX
      else d.params.kp
    some ⟨bs, ⟨kp, krp⟩,
      putCoefficient dstSize (putCoefficient dstSize d.output (magOf val1)) (magOf val2)⟩

/-- A round of the loop of the decoder. -/
def rlgrDecodeRound (mode : RlgrMode) (dstSize : Nat) (d : RlgrDecoder) : Option RlgrDecoder :=
  if d.params.k ≠ 0 then decodeRunLength dstSize d else decodeGolombRice mode dstSize d

/-- The loop of the decoder; every round takes a bit. -/
def rlgrDecodeLoop (mode : RlgrMode) (dstSize : Nat) : Nat → RlgrDecoder → RlgrDecoder
  | 0, d => d
  | fuel + 1, d =>
    if 0 < d.bs.remainingLength ∧ d.output.length < dstSize then
      match rlgrDecodeRound mode dstSize d with
      | some d => rlgrDecodeLoop mode dstSize fuel d
      | none => d
    else d

/-- `rfx_rlgr_decode`: the coefficients, if the sizes are not 0. What is missing is 0. -/
def rfxRlgrDecode (mode : RlgrMode) (src : List UInt8) (dstSize : Nat) : Option (List Int) :=
  if src = [] ∨ dstSize = 0 then none
  else
    let bs := (WBitStream.attach src).fetch
    let d := rlgrDecodeLoop mode dstSize (8 * src.length) ⟨bs, .start, []⟩
    some (d.output ++ List.replicate (dstSize - d.output.length) 0)

end FreeRdp
