import Mathlib.Data.Nat.Size
import FreeRdp.Codec.Rlgr.Basic
import FreeRdp.Library.BitLists
import FreeRdp.Winpr.BitStreamRoundTrip

/-!
# The bits of the coder

The encoder puts bits into a zeroed buffer with `rfx_bitstream_put_bits`; the decoder takes them
out of a `wBitStream`. Both are described by the bits that stand in the buffer.
-/

namespace FreeRdp

/-! ### Putting bits -/

/-- `RFX_BITSTREAM`. -/
structure RfxBitstream where
  buffer : List UInt8
  bytePos : Nat
  bitsLeft : Nat
  deriving DecidableEq, Repr

namespace RfxBitstream

/-- `rfx_bitstream_attach`. -/
def attach (buffer : List UInt8) : RfxBitstream := ⟨buffer, 0, 8⟩

/-- Bits for the byte that is written to. -/
def putByte (bs : RfxBitstream) (bits nbits : Nat) : RfxBitstream :=
  let b := min nbits bs.bitsLeft
  let byte := (bs.buffer.getD bs.bytePos 0).toNat |||
    ((bits >>> (nbits - b)) &&& (1 <<< b - 1)) <<< (bs.bitsLeft - b)
  { buffer := bs.buffer.set bs.bytePos (UInt8.ofNat byte)
    bytePos := if bs.bitsLeft - b = 0 then bs.bytePos + 1 else bs.bytePos
    bitsLeft := if bs.bitsLeft - b = 0 then 8 else bs.bitsLeft - b }

/-- The loop of `rfx_bitstream_put_bits`. -/
def putLoop (bits : Nat) : Nat → Nat → RfxBitstream → RfxBitstream
  | 0, _, bs => bs
  | fuel + 1, nbits, bs =>
    if bs.bytePos < bs.buffer.length ∧ 0 < nbits then
      putLoop bits fuel (nbits - min nbits bs.bitsLeft) (bs.putByte bits nbits)
    else bs

/-- `rfx_bitstream_put_bits`; the bits are a `UINT16`. -/
def putBits (bs : RfxBitstream) (put : BitPut) : RfxBitstream :=
  putLoop (put.bits % 2 ^ 16) put.nbits put.nbits bs

/-- `rfx_bitstream_flush`. -/
def flush (bs : RfxBitstream) : RfxBitstream :=
  if bs.bitsLeft ≠ 8 then bs.putBits ⟨0, 8 - bs.bitsLeft⟩ else bs

/-- `rfx_bitstream_get_processed_bytes`. -/
def processedBytes (bs : RfxBitstream) : Nat :=
  if bs.bitsLeft < 8 then bs.bytePos + 1 else bs.bytePos

end RfxBitstream

/-- `rfx_rlgr_encode` into a zeroed buffer of the given size: the bytes that are processed. -/
def rfxRlgrEncode (mode : RlgrMode) (data : List Int) (bufferSize : Nat) : List UInt8 :=
  let bs := ((rlgrPuts mode data).foldl RfxBitstream.putBits
    (.attach (List.replicate bufferSize 0))).flush
  bs.buffer.take bs.processedBytes

/-- The bits of a put. -/
def BitPut.toBits (put : BitPut) : List Bool := msbBits put.nbits (put.bits % 2 ^ 16)

namespace RfxBitstream

/-- The position in bits. -/
def position (bs : RfxBitstream) : Nat := 8 * bs.bytePos + (8 - bs.bitsLeft)

/-- The bits `f` are written, up to the position. -/
structure Wrote (bs : RfxBitstream) (f : Nat → Bool) : Prop where
  left : 0 < bs.bitsLeft ∧ bs.bitsLeft ≤ 8
  bits : bitsOf bs.buffer = f
  rest : ∀ i, bs.position ≤ i → f i = false

variable {bs : RfxBitstream} {f : Nat → Bool} {bits nbits : Nat}

lemma wrote_attach (n : Nat) : (attach (List.replicate n 0)).Wrote fun _ => false := by
  refine ⟨⟨Nat.succ_pos 7, le_rfl⟩, bitsOf_eq (fun i hi => ?_) fun _ _ => rfl, fun _ _ => rfl⟩
  have hi' : i < n := by simpa [attach] using hi
  rw [window_eq_zero fun _ _ => rfl]
  simp [attach, hi']

lemma bitsOf_set {bytes : List UInt8} {k : Nat} (hk : k < bytes.length) {byte : Nat}
    (hbyte : byte < 2 ^ 8) (i : Nat) :
    bitsOf (bytes.set k (UInt8.ofNat byte)) i =
      if i / 8 = k then byte.testBit (7 - i % 8) else bitsOf bytes i := by
  rw [bitsOf, bitsOf, List.getD_eq_getElem?_getD, List.getElem?_set]
  rcases eq_or_ne (i / 8) k with h | h
  · rw [if_pos h, if_pos h.symm, if_pos (h ▸ hk), Option.getD_some, toNat_ofNat_of_lt hbyte]
  · rw [if_neg h, if_neg h.symm, List.getD_eq_getElem?_getD]

/-- The bits for a byte. -/
lemma Wrote.putByte (h : bs.Wrote f) (hin : bs.bytePos < bs.buffer.length) (bits nbits : Nat) :
    let b := min nbits bs.bitsLeft
    (bs.putByte bits nbits).Wrote (setBits f bs.position b (bits >>> (nbits - b))) ∧
      (bs.putByte bits nbits).position = bs.position + b ∧
      (bs.putByte bits nbits).buffer.length = bs.buffer.length := by
  obtain ⟨buffer, k, left⟩ := bs
  obtain ⟨⟨hleft, hleft'⟩, hbits, hrest⟩ := h
  dsimp only at hin hleft hleft' hbits
  simp only [position] at hrest
  obtain ⟨b, hb⟩ : ∃ b, b = min nbits left := ⟨_, rfl⟩
  obtain ⟨x, hx⟩ : ∃ x, x = bits >>> (nbits - b) := ⟨_, rfl⟩
  have hble : b ≤ left := hb ▸ Nat.min_le_right _ _
  have hold : (buffer.getD k 0).toNat < 2 ^ 8 := UInt8.toNat_lt _
  have hnew : (x &&& (1 <<< b - 1)) <<< (left - b) < 2 ^ 8 := by
    rw [Nat.one_shiftLeft, and_mask_eq_mod, Nat.shiftLeft_eq]
    have hpow : 2 ^ b * 2 ^ (left - b) = 2 ^ left := by rw [← pow_add, Nat.add_sub_cancel' hble]
    have hmod : x % 2 ^ b * 2 ^ (left - b) < 2 ^ b * 2 ^ (left - b) :=
      Nat.mul_lt_mul_of_pos_right (Nat.mod_lt _ (Nat.two_pow_pos _)) (Nat.two_pow_pos _)
    exact hmod.trans_le (hpow ▸ Nat.pow_le_pow_right (by decide) hleft')
  have hput : RfxBitstream.putByte ⟨buffer, k, left⟩ bits nbits =
      ⟨buffer.set k
          (UInt8.ofNat ((buffer.getD k 0).toNat ||| (x &&& (1 <<< b - 1)) <<< (left - b))),
        if left - b = 0 then k + 1 else k, if left - b = 0 then 8 else left - b⟩ := by
    rw [hx, hb]
    rfl
  have hposition : (RfxBitstream.putByte ⟨buffer, k, left⟩ bits nbits).position =
      8 * k + (8 - left) + b := by
    rw [hput, position]
    dsimp only
    split_ifs <;> omega
  have hposition' : position ⟨buffer, k, left⟩ = 8 * k + (8 - left) := rfl
  dsimp only
  rw [← hb, ← hx, hposition']
  refine ⟨⟨?_, ?_, fun i hi => ?_⟩, hposition, by rw [hput, List.length_set]⟩
  · rw [hput]
    dsimp only
    split_ifs <;> omega
  · rw [hput]
    funext i
    rw [bitsOf_set hin (Nat.or_lt_two_pow hold hnew)]
    have hi : 8 * (i / 8) + i % 8 = i := by omega
    split_ifs with h8
    · have hfi : (buffer.getD k 0).toNat.testBit (7 - i % 8) = f i := by
        rw [← hbits, bitsOf, h8]
      rw [Nat.testBit_or, hfi, Nat.one_shiftLeft, and_mask_eq_mod, Nat.testBit_shiftLeft,
        Nat.testBit_mod_two_pow]
      rcases Nat.lt_or_ge i (8 * k + (8 - left)) with hlt | hge
      · rw [setBits_of_lt hlt, decide_eq_false (show ¬7 - i % 8 - (left - b) < b by omega)]
        simp
      · rw [hrest i hge, setBits, if_neg (by omega)]
        rcases Nat.lt_or_ge i (8 * k + (8 - left) + b) with hlt' | hge'
        · rw [decide_eq_true (show left - b ≤ 7 - i % 8 by omega), decide_eq_true hlt',
            decide_eq_true (show 7 - i % 8 - (left - b) < b by omega),
            show 8 * k + (8 - left) + b - 1 - i = 7 - i % 8 - (left - b) by omega]
          simp
        · rw [decide_eq_false (show ¬left - b ≤ 7 - i % 8 by omega),
            decide_eq_false (not_lt.mpr hge')]
          simp
    · rw [hbits]
      rcases Nat.lt_or_ge i (8 * k + (8 - left)) with hlt | hge
      · rw [setBits_of_lt hlt]
      · rw [hrest i hge, setBits_of_ge (by omega)]
  · rw [hposition] at hi
    exact setBits_of_ge hi

lemma setBits_setBits (f : Nat → Bool) (p : Nat) {m n : Nat} (hm : m ≤ n) (v : Nat) :
    setBits (setBits f p m (v >>> (n - m))) (p + m) (n - m) v = setBits f p n v := by
  funext i
  rcases Nat.lt_or_ge i p with hlt | hge
  · rw [setBits_of_lt (by omega), setBits_of_lt hlt, setBits_of_lt hlt]
  · rcases Nat.lt_or_ge i (p + m) with hlt' | hge'
    · rw [setBits_of_lt hlt', setBits, setBits, if_neg (by omega), if_neg (by omega),
        decide_eq_true hlt', decide_eq_true (show i < p + n by omega), Nat.testBit_shiftRight]
      congr 2
      omega
    · rw [setBits, if_neg (by omega), setBits, if_neg (by omega),
        show p + m + (n - m) = p + n by omega]

lemma setBits_nothing {p : Nat} (h : ∀ i, p ≤ i → f i = false) (v : Nat) : setBits f p 0 v = f := by
  funext i
  rcases Nat.lt_or_ge i p with hlt | hge
  · rw [setBits_of_lt hlt]
  · rw [setBits_of_ge hge, h i hge]

/-- The bits are put behind what is written, if there is room. -/
lemma Wrote.putLoop {fuel : Nat} (h : bs.Wrote f) (hfuel : nbits ≤ fuel)
    (hroom : bs.position + nbits ≤ 8 * bs.buffer.length) :
    (RfxBitstream.putLoop bits fuel nbits bs).Wrote (setBits f bs.position nbits bits) ∧
      (RfxBitstream.putLoop bits fuel nbits bs).position = bs.position + nbits ∧
      (RfxBitstream.putLoop bits fuel nbits bs).buffer.length = bs.buffer.length := by
  induction fuel generalizing bs f nbits with
  | zero =>
    obtain rfl := Nat.le_zero.mp hfuel
    rw [RfxBitstream.putLoop, setBits_nothing h.rest]
    exact ⟨h, rfl, rfl⟩
  | succ fuel ih =>
    rw [RfxBitstream.putLoop]
    rcases Nat.eq_zero_or_pos nbits with rfl | hpos
    · rw [if_neg (by omega), setBits_nothing h.rest]
      exact ⟨h, rfl, rfl⟩
    · have hleft := h.left
      have hin : bs.bytePos < bs.buffer.length := by
        rw [position] at hroom
        omega
      obtain ⟨hput, hposition, hlength⟩ := h.putByte hin bits nbits
      rw [if_pos ⟨hin, hpos⟩]
      obtain ⟨hrest, hposition', hlength'⟩ := ih hput
        (show nbits - min nbits bs.bitsLeft ≤ fuel by omega) (by rw [hposition, hlength]; omega)
      rw [hposition, setBits_setBits _ _ (Nat.min_le_left _ _)] at hrest
      refine ⟨hrest, ?_, hlength'.trans hlength⟩
      rw [hposition', hposition]
      omega

/-- The bits of a put. -/
lemma Wrote.putBits (h : bs.Wrote f) {put : BitPut}
    (hroom : bs.position + put.toBits.length ≤ 8 * bs.buffer.length) :
    ∃ g, (bs.putBits put).Wrote g ∧ (∀ i < bs.position, g i = f i) ∧
      Stands g bs.position put.toBits ∧
      (bs.putBits put).position = bs.position + put.toBits.length ∧
      (bs.putBits put).buffer.length = bs.buffer.length := by
  rw [BitPut.toBits, length_msbBits] at hroom
  obtain ⟨hwrote, hposition, hlength⟩ := @Wrote.putLoop bs f (put.bits % 2 ^ 16) _ _ h le_rfl hroom
  refine ⟨_, hwrote, fun i hi => setBits_of_lt hi, stands_setBits _ _ _ _, ?_, hlength⟩
  rw [BitPut.toBits, length_msbBits]
  exact hposition

/-- The bits of several puts. -/
def bitsOfPuts (puts : List BitPut) : List Bool := puts.flatMap BitPut.toBits

lemma Wrote.putAll {puts : List BitPut} (h : bs.Wrote f)
    (hroom : bs.position + (bitsOfPuts puts).length ≤ 8 * bs.buffer.length) :
    ∃ g, (puts.foldl RfxBitstream.putBits bs).Wrote g ∧ (∀ i < bs.position, g i = f i) ∧
      Stands g bs.position (bitsOfPuts puts) ∧
      (puts.foldl RfxBitstream.putBits bs).position = bs.position + (bitsOfPuts puts).length ∧
      (puts.foldl RfxBitstream.putBits bs).buffer.length = bs.buffer.length := by
  induction puts generalizing bs f with
  | nil => exact ⟨f, h, fun _ _ => rfl, stands_nil _ _, rfl, rfl⟩
  | cons put puts ih =>
    have hcons : bitsOfPuts (put :: puts) = put.toBits ++ bitsOfPuts puts := List.flatMap_cons
    rw [hcons, List.length_append] at hroom
    obtain ⟨g, hwrote, hold, hstands, hposition, hlength⟩ := @Wrote.putBits bs f h put (by omega)
    obtain ⟨g', hwrote', hold', hstands', hposition', hlength'⟩ :=
      ih hwrote (by rw [hposition, hlength]; omega)
    rw [hposition] at hold' hstands' hposition'
    refine ⟨g', hwrote', fun i hi => ?_, ?_, ?_, hlength'.trans hlength⟩
    · rw [hold' i (by omega), hold i hi]
    · rw [hcons, stands_append]
      exact ⟨hstands.congr fun i _ hi => hold' i hi, hstands'⟩
    · rw [List.foldl_cons, hposition', hcons, List.length_append, Nat.add_assoc]

/-- Zeros change nothing but the position. -/
lemma putLoop_zero {fuel : Nat} (hleft : 0 < bs.bitsLeft ∧ bs.bitsLeft ≤ 8) :
    bitsOf (RfxBitstream.putLoop 0 fuel nbits bs).buffer = bitsOf bs.buffer ∧
      (RfxBitstream.putLoop 0 fuel nbits bs).buffer.length = bs.buffer.length ∧
      (0 < (RfxBitstream.putLoop 0 fuel nbits bs).bitsLeft ∧
        (RfxBitstream.putLoop 0 fuel nbits bs).bitsLeft ≤ 8) ∧
      bs.position ≤ (RfxBitstream.putLoop 0 fuel nbits bs).position := by
  induction fuel generalizing bs nbits with
  | zero => exact ⟨rfl, rfl, hleft, le_rfl⟩
  | succ fuel ih =>
    rw [RfxBitstream.putLoop]
    split_ifs with hgo
    · have hbuffer : bitsOf (bs.putByte 0 nbits).buffer = bitsOf bs.buffer := by
        funext i
        simp only [putByte, Nat.zero_shiftRight, Nat.zero_and, Nat.zero_shiftLeft, Nat.or_zero]
        rw [bitsOf_set hgo.1 (UInt8.toNat_lt _)]
        split_ifs with h
        · rw [bitsOf, h]
        · rfl
      have hlength : (bs.putByte 0 nbits).buffer.length = bs.buffer.length := List.length_set
      have hleft' : 0 < (bs.putByte 0 nbits).bitsLeft ∧ (bs.putByte 0 nbits).bitsLeft ≤ 8 := by
        simp only [putByte]
        split_ifs <;> omega
      have hposition : bs.position ≤ (bs.putByte 0 nbits).position := by
        simp only [position, putByte]
        split_ifs <;> omega
      obtain ⟨hbits, hlen, hend, hpos⟩ :=
        @ih (bs.putByte 0 nbits) (nbits - min nbits bs.bitsLeft) hleft'
      exact ⟨hbits.trans hbuffer, hlen.trans hlength, hend, hposition.trans hpos⟩
    · exact ⟨rfl, rfl, hleft, le_rfl⟩

lemma position_le_processedBytes (hleft : 0 < bs.bitsLeft ∧ bs.bitsLeft ≤ 8) :
    bs.position ≤ 8 * bs.processedBytes := by
  rw [position, processedBytes]
  split_ifs <;> omega

/-- What is flushed. -/
lemma Wrote.flush (h : bs.Wrote f) : bitsOf bs.flush.buffer = f ∧
    bs.flush.buffer.length = bs.buffer.length ∧ bs.position ≤ 8 * bs.flush.processedBytes := by
  rw [RfxBitstream.flush]
  split_ifs
  · obtain ⟨hbits, hlength, hleft, hposition⟩ :=
      @putLoop_zero bs (8 - bs.bitsLeft) (8 - bs.bitsLeft) h.left
    exact ⟨hbits.trans h.bits, hlength, hposition.trans (position_le_processedBytes hleft)⟩
  · exact ⟨h.bits, rfl, position_le_processedBytes h.left⟩

end RfxBitstream

/-- The bits of the encoded data stand at its front. -/
lemma stands_rfxRlgrEncode {mode : RlgrMode} {data : List Int} {bufferSize : Nat}
    (hroom : (RfxBitstream.bitsOfPuts (rlgrPuts mode data)).length ≤ 8 * bufferSize) :
    let src := rfxRlgrEncode mode data bufferSize
    Stands (bitsOf src) 0 (RfxBitstream.bitsOfPuts (rlgrPuts mode data)) ∧
      (RfxBitstream.bitsOfPuts (rlgrPuts mode data)).length ≤ 8 * src.length ∧
      src.length ≤ bufferSize := by
  have hstart := RfxBitstream.wrote_attach bufferSize
  have hposition : (RfxBitstream.attach (List.replicate bufferSize 0)).position = 0 := rfl
  have hlength : (RfxBitstream.attach (List.replicate bufferSize 0)).buffer.length = bufferSize :=
    List.length_replicate
  obtain ⟨g, hwrote, -, hstands, hend, hbuffer⟩ :=
    @RfxBitstream.Wrote.putAll _ _ (rlgrPuts mode data) hstart (by rw [hposition, hlength]; omega)
  obtain ⟨hbits, hflushed, hprocessed⟩ := hwrote.flush
  rw [hposition, Nat.zero_add] at hend
  rw [hposition] at hstands
  rw [hend] at hprocessed
  dsimp only
  rw [rfxRlgrEncode]
  refine ⟨hstands.congr fun i _ hi => ?_, ?_, ?_⟩
  · rw [Nat.zero_add] at hi
    rw [bitsOf_take _ (by omega), hbits]
  · rw [List.length_take, hflushed, hbuffer, hlength]
    omega
  · rw [List.length_take, hflushed, hbuffer, hlength]
    omega

/-! ### Taking bits -/

lemma size_shiftRight {x s : Nat} (h : x >>> s ≠ 0) : Nat.size x = Nat.size (x >>> s) + s := by
  rw [Nat.shiftRight_eq_div_pow] at h ⊢
  refine le_antisymm (Nat.size_le.mpr ?_) ?_
  · have hlt := Nat.lt_size_self (x / 2 ^ s)
    rw [Nat.div_lt_iff_lt_mul (Nat.two_pow_pos s), ← pow_add] at hlt
    exact hlt
  · have hpos : 0 < Nat.size (x / 2 ^ s) := Nat.size_pos.mpr (Nat.pos_of_ne_zero h)
    have hle : 2 ^ (Nat.size (x / 2 ^ s) - 1) ≤ x / 2 ^ s := Nat.lt_size.mp (by omega)
    rw [Nat.le_div_iff_mul_le (Nat.two_pow_pos s), ← pow_add] at hle
    have := Nat.lt_size.mpr hle
    omega

/-- A step keeps what is looked for. -/
lemma lzcntStep_size (shift : Nat) {s : Nat × Nat} (hx : s.2 ≠ 0) (hn : Nat.size s.2 ≤ s.1) :
    (lzcntStep shift s).2 ≠ 0 ∧
      (lzcntStep shift s).1 - Nat.size (lzcntStep shift s).2 = s.1 - Nat.size s.2 ∧
      Nat.size (lzcntStep shift s).2 ≤ (lzcntStep shift s).1 ∧
      (Nat.size s.2 ≤ 2 * shift → Nat.size (lzcntStep shift s).2 ≤ shift) := by
  obtain ⟨n, x⟩ := s
  dsimp only at hx hn ⊢
  rw [lzcntStep]
  split_ifs with h
  · have hsize := size_shiftRight h
    refine ⟨h, ?_, ?_, fun _ => ?_⟩ <;> dsimp only <;> omega
  · refine ⟨hx, rfl, hn, fun _ => ?_⟩
    rw [not_not, Nat.shiftRight_eq_div_pow, Nat.div_eq_zero_iff] at h
    exact Nat.size_le.mpr (h.resolve_left (Nat.two_pow_pos shift).ne')

/-- The leading zeros of a word. -/
lemma lzcntS_eq {x : Nat} (hx : x < 2 ^ 32) : lzcntS x = 32 - Nat.size x := by
  rw [lzcntS]
  split_ifs with hzero
  · rw [hzero, Nat.size_zero]
  · obtain ⟨h1, e1, l1, s1⟩ := @lzcntStep_size 16 (32, x) hzero (Nat.size_le.mpr hx)
    obtain ⟨h2, e2, l2, s2⟩ := lzcntStep_size 8 h1 l1
    obtain ⟨h3, e3, l3, s3⟩ := lzcntStep_size 4 h2 l2
    obtain ⟨h4, e4, l4, s4⟩ := lzcntStep_size 2 h3 l3
    have hsize := s4 (s3 (s2 (s1 (Nat.size_le.mpr hx))))
    have heq := e4.trans (e3.trans (e2.trans e1))
    obtain ⟨s, hs⟩ : ∃ s, s = lzcntStep 2 (lzcntStep 4 (lzcntStep 8 (lzcntStep 16 (32, x)))) :=
      ⟨_, rfl⟩
    rw [← hs] at h4 hsize heq l4 ⊢
    obtain ⟨n, y⟩ := s
    dsimp only at h4 hsize heq l4 ⊢
    split_ifs with hy
    · have hsize' := size_shiftRight hy
      have hpos : 0 < Nat.size (y >>> 1) := Nat.size_pos.mpr (Nat.pos_of_ne_zero hy)
      omega
    · rw [not_not, Nat.shiftRight_eq_div_pow, pow_one] at hy
      obtain rfl : y = 1 := by omega
      rw [← heq, Nat.size_one]

/-! ### Leading bits -/

lemma window_eq_zero_iff {f : Nat → Bool} {p n : Nat} :
    window f p n = 0 ↔ ∀ i < n, f (p + i) = false := by
  constructor
  · intro h i hi
    have hzero : window f p n = window (fun _ => false) p n := by
      rw [h, window_eq_zero fun _ _ => rfl]
    exact eq_of_window_eq hzero hi
  · intro h
    have hzero : window f p n = window (fun _ => false) p n := by
      refine window_congr fun i hp hi => ?_
      obtain ⟨j, rfl⟩ := Nat.exists_eq_add_of_le hp
      exact h j (by omega)
    rw [hzero, window_eq_zero fun _ _ => rfl]

/-- The complement of a window. -/
lemma window_not (f : Nat → Bool) (p n : Nat) :
    2 ^ n - 1 - window f p n = window (fun i => !f i) p n := by
  induction n with
  | zero => rfl
  | succ n ih =>
    have hlt := window_lt f p n
    rw [window, window, ← ih, pow_succ]
    cases f (p + n) <;> simp <;> omega

/-- The leading zeros of a window. -/
lemma leadingZeros_window (f : Nat → Bool) (p : Nat) :
    lzcntS (window f p 32) ≤ 32 ∧ (∀ i < lzcntS (window f p 32), f (p + i) = false) ∧
      (lzcntS (window f p 32) < 32 → f (p + lzcntS (window f p 32)) = true) := by
  have hlt := window_lt f p 32
  have hsize := Nat.size_le.mpr hlt
  rw [lzcntS_eq hlt]
  obtain ⟨s, hs⟩ : ∃ s, s = Nat.size (window f p 32) := ⟨_, rfl⟩
  rw [← hs] at hsize ⊢
  have hzeros : window f p (32 - s) = 0 := by
    rw [window_eq_div f p (32 - s) s, Nat.sub_add_cancel hsize, Nat.div_eq_zero_iff]
    exact Or.inr (Nat.size_le.mp hs.ge)
  refine ⟨Nat.sub_le _ _, window_eq_zero_iff.mp hzeros, fun hpos => ?_⟩
  have hone : window f p (32 - s + 1) ≠ 0 := by
    rw [window_eq_div f p (32 - s + 1) (s - 1), show 32 - s + 1 + (s - 1) = 32 by omega,
      Ne, Nat.div_eq_zero_iff, not_or, not_lt]
    exact ⟨(Nat.two_pow_pos _).ne', Nat.lt_size.mp (by omega)⟩
  rw [window, hzeros] at hone
  cases hbit : f (p + (32 - s)) with
  | false => simp [hbit] at hone
  | true => rfl

namespace WBitStream

variable {bs : WBitStream}

/-- The stream reads, and its position is in the buffer. -/
structure Inside (bs : WBitStream) : Prop where
  reads : bs.Reads
  size : 8 * bs.buffer.length < 2 ^ 32
  within : bs.position ≤ 8 * bs.buffer.length

lemma Inside.remainingLength (h : bs.Inside) :
    bs.remainingLength = 8 * bs.buffer.length - bs.position := by
  have hsize := h.size
  have hwithin := h.within
  rw [WBitStream.remainingLength, WBitStream.length]
  omega

/-- A shift within the buffer. -/
lemma Inside.shift (h : bs.Inside) {n : Nat} (hn : n < 32)
    (hle : bs.position + n ≤ 8 * bs.buffer.length) :
    (bs.shift n).Inside ∧ (bs.shift n).buffer = bs.buffer ∧
      (bs.shift n).position = bs.position + n := by
  rcases Nat.eq_zero_or_pos n with rfl | hpos
  · exact ⟨h, rfl, rfl⟩
  · obtain ⟨hreads, hbuffer, hposition⟩ := h.reads.shift hpos hn
    refine ⟨⟨hreads, ?_, ?_⟩, hbuffer, hposition⟩
    · rw [hbuffer]
      exact h.size
    · rw [hbuffer, hposition]
      exact hle

/-- The leading bits of the accumulator are those at the position. -/
lemma Inside.leadingBits_spec (h : bs.Inside) (bit : Bool) :
    leadingBits bit bs ≤ 32 ∧ (∀ i < leadingBits bit bs, bitsOf bs.buffer (bs.position + i) = bit) ∧
      bs.position + leadingBits bit bs ≤ 8 * bs.buffer.length ∧
      (leadingBits bit bs < 32 → bs.position + leadingBits bit bs < 8 * bs.buffer.length →
        bitsOf bs.buffer (bs.position + leadingBits bit bs) ≠ bit) := by
  have hwithin := h.within
  obtain ⟨z, hz⟩ : ∃ z, z = lzcntS (if bit then 2 ^ 32 - 1 - bs.accumulator else bs.accumulator) :=
    ⟨_, rfl⟩
  have hspec : z ≤ 32 ∧ (∀ i < z, bitsOf bs.buffer (bs.position + i) = bit) ∧
      (z < 32 → bitsOf bs.buffer (bs.position + z) ≠ bit) := by
    rw [h.reads.accumulator] at hz
    cases bit with
    | false =>
      obtain ⟨hle, hequal, hend⟩ := leadingZeros_window (bitsOf bs.buffer) bs.position
      rw [if_neg Bool.false_ne_true] at hz
      rw [← hz] at hle hequal hend
      exact ⟨hle, hequal, fun hlt => by rw [hend hlt]; decide⟩
    | true =>
      obtain ⟨hle, hequal, hend⟩ := leadingZeros_window (fun i => !bitsOf bs.buffer i) bs.position
      rw [if_pos rfl, window_not] at hz
      rw [← hz] at hle hequal hend
      refine ⟨hle, fun i hi => ?_, fun hlt => ?_⟩
      · simpa using hequal i hi
      · simpa using hend hlt
  obtain ⟨hle, hequal, hend⟩ := hspec
  rw [leadingBits, ← hz, h.remainingLength]
  refine ⟨(Nat.min_le_left _ _).trans hle,
    fun i hi => hequal i (hi.trans_le (Nat.min_le_left _ _)), by omega, fun hlt hin => ?_⟩
  rw [show min z (8 * bs.buffer.length - bs.position) = z by omega] at hlt ⊢
  exact hend hlt

/-- The loop goes on over whole words of the bit. -/
lemma Inside.countLoop_spec (h : bs.Inside) (bit : Bool) {fuel : Nat} (vk : Nat)
    (hfuel : 8 * bs.buffer.length - bs.position < 32 * fuel) :
    ∃ j vk' bs', countLoop bit fuel (leadingBits bit bs) vk bs = (vk', bs') ∧ bs'.Inside ∧
      bs'.buffer = bs.buffer ∧ bs'.position = bs.position + 32 * j ∧
      vk' + leadingBits bit bs = vk + 32 * j + leadingBits bit bs' ∧ leadingBits bit bs' < 32 ∧
      ∀ i < 32 * j, bitsOf bs.buffer (bs.position + i) = bit := by
  induction fuel generalizing bs vk with
  | zero => omega
  | succ fuel ih =>
    obtain ⟨hle, hequal, hin, -⟩ := h.leadingBits_spec bit
    rw [countLoop, h.remainingLength]
    split_ifs with hgo
    · obtain ⟨hfull, -⟩ := hgo
      rw [hfull] at hequal hin
      obtain ⟨h₁, hbuffer₁, hposition₁⟩ := h.shift (show 16 < 32 by decide) (by omega)
      obtain ⟨h₂, hbuffer₂, hposition₂⟩ := h₁.shift (show 16 < 32 by decide)
        (by rw [hbuffer₁, hposition₁]; omega)
      rw [hposition₁] at hposition₂
      rw [hbuffer₁] at hbuffer₂
      obtain ⟨j, vk', bs', hloop, hinside, hbuffer, hposition, hcount, hlast, hbits⟩ :=
        ih h₂ (vk + leadingBits bit ((bs.shift 16).shift 16))
          (by rw [hbuffer₂, hposition₂]; omega)
      rw [hbuffer₂] at hbuffer hbits
      rw [hposition₂] at hposition hbits
      refine ⟨j + 1, vk', bs', hloop, hinside, hbuffer, by omega, by omega, hlast, fun i hi => ?_⟩
      rcases Nat.lt_or_ge i 32 with hlt | hge
      · exact hequal i hlt
      · obtain ⟨i', rfl⟩ := Nat.exists_eq_add_of_le hge
        rw [← hbits i' (by omega)]
        congr 1
        omega
    · refine ⟨0, vk, bs, rfl, h, rfl, rfl, rfl, ?_, fun i hi => absurd hi (by omega)⟩
      omega

/-- The run of the bit at the position is counted and passed over. -/
lemma Inside.countLeading_spec (h : bs.Inside) (bit : Bool) :
    ∃ vk bs', countLeading bit bs = (vk, bs') ∧ bs'.Inside ∧ bs'.buffer = bs.buffer ∧
      bs'.position = bs.position + vk ∧
      RunAt (bitsOf bs.buffer) bit bs.position (8 * bs.buffer.length) vk := by
  obtain ⟨j, vk, bs', hloop, hinside, hbuffer, hposition, hcount, hlast, hbits⟩ :=
    h.countLoop_spec bit (leadingBits bit bs)
      (show 8 * bs.buffer.length - bs.position < 32 * (bs.remainingLength + 1) by
        rw [h.remainingLength]
        omega)
  obtain ⟨-, hequal, hin, hend⟩ := hinside.leadingBits_spec bit
  have hvk : vk = 32 * j + leadingBits bit bs' := by omega
  have hmod : vk % 32 = leadingBits bit bs' := by omega
  obtain ⟨hinside', hbuffer', hposition'⟩ := hinside.shift hlast hin
  rw [hbuffer, hposition] at hequal hin hend
  refine ⟨vk, bs'.shift (vk % 32), ?_, ?_, ?_, ?_, ?_, by omega, fun hlt => ?_⟩
  · rw [countLeading, hloop]
  · rw [hmod]
    exact hinside'
  · rw [hmod, hbuffer', hbuffer]
  · rw [hmod, hposition', hposition]
    omega
  · intro i hi
    rcases Nat.lt_or_ge i (32 * j) with hlt | hge
    · exact hbits i hlt
    · obtain ⟨i', rfl⟩ := Nat.exists_eq_add_of_le hge
      rw [← Nat.add_assoc]
      exact hequal i' (by omega)
  · have hne := hend hlast (by omega)
    rwa [Nat.add_assoc, ← hvk] at hne

/-- Bits that are there are taken as a window. -/
lemma Inside.takeBits_spec (h : bs.Inside) {n : Nat} (hn : n < 32)
    (hle : bs.position + n ≤ 8 * bs.buffer.length) :
    ∃ bs', takeBits n bs = some (window (bitsOf bs.buffer) bs.position n, bs') ∧ bs'.Inside ∧
      bs'.buffer = bs.buffer ∧ bs'.position = bs.position + n := by
  refine ⟨bs.shift n, ?_, h.shift hn hle⟩
  rw [takeBits, h.remainingLength, if_neg (by omega)]
  rcases Nat.eq_zero_or_pos n with rfl | hpos
  · rfl
  · rw [if_pos hpos, Nat.shiftRight_eq_div_pow, h.reads.accumulator_div hn.le, Nat.one_shiftLeft,
      and_mask_eq_mod, Nat.mod_eq_of_lt (window_lt _ _ _)]

lemma Inside.skipBit_spec (h : bs.Inside) (hle : bs.position + 1 ≤ 8 * bs.buffer.length) :
    ∃ bs', skipBit bs = some bs' ∧ bs'.Inside ∧ bs'.buffer = bs.buffer ∧
      bs'.position = bs.position + 1 := by
  refine ⟨bs.shift 1, ?_, h.shift (by decide) hle⟩
  rw [skipBit, h.remainingLength, if_neg (by omega)]

/-! ### Taking what has been put -/

/-- A unary code is counted, and the bit behind it passed over. -/
lemma Inside.unary (h : bs.Inside) {bit : Bool} {n : Nat}
    (hbits : Stands (bitsOf bs.buffer) bs.position (List.replicate n bit ++ [!bit]))
    (hle : bs.position + n + 1 ≤ 8 * bs.buffer.length) :
    ∃ bs₁ bs', countLeading bit bs = (n, bs₁) ∧ skipBit bs₁ = some bs' ∧
      bs'.Inside ∧ bs'.buffer = bs.buffer ∧ bs'.position = bs.position + n + 1 := by
  obtain ⟨vk, bs₁, hcount, hinside, hbuffer, hposition, hrun⟩ := h.countLeading_spec bit
  obtain rfl := hrun.unique hbits (by omega)
  obtain ⟨bs', hskip, hinside', hbuffer', hposition'⟩ := hinside.skipBit_spec
    (by rw [hbuffer, hposition]; omega)
  exact ⟨bs₁, bs', hcount, hskip, hinside', hbuffer'.trans hbuffer, by rw [hposition', hposition]⟩

/-- The bits of a number are taken. -/
lemma Inside.takeNumber (h : bs.Inside) {n v : Nat} (hn : n < 32) (hv : v < 2 ^ n)
    (hbits : Stands (bitsOf bs.buffer) bs.position (msbBits n v))
    (hle : bs.position + n ≤ 8 * bs.buffer.length) :
    ∃ bs', takeBits n bs = some (v, bs') ∧ bs'.Inside ∧ bs'.buffer = bs.buffer ∧
      bs'.position = bs.position + n := by
  obtain ⟨bs', htake, hrest⟩ := h.takeBits_spec hn hle
  rw [window_of_stands hbits, Nat.mod_eq_of_lt hv] at htake
  exact ⟨bs', htake, hrest⟩

end WBitStream

end FreeRdp
