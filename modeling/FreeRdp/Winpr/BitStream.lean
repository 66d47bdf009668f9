import FreeRdp.Library.BitWindow

/-!
# Bit streams

`wBitStream` of `winpr/bitstream.h`: a 32 bit accumulator over a byte buffer, the highest bit
first. A reader keeps the next 32 bits in the accumulator and refills it from a prefetched word; a
writer collects bits and spills whole words. Both are described by windows of one bit string.
-/

namespace FreeRdp

/-- `wBitStream`. The capacity is the length of `buffer`; `mask` is a scratch value of the macros
and is left out. -/
structure WBitStream where
  buffer : List UInt8
  pointer : Nat
  position : Nat
  offset : Nat
  prefetch : Nat
  accumulator : Nat
  deriving DecidableEq, Repr

namespace WBitStream

/-- `BitStream_Attach`; the prefetched word is not touched, and not looked at before a fetch. -/
def attach (buffer : List UInt8) : WBitStream := ⟨buffer, 0, 0, 0, 0, 0⟩

/-- `bs->length`. -/
def length (bs : WBitStream) : Nat := bs.buffer.length * 8 % 2 ^ 32

/-- `BitStream_GetRemainingLength`, the difference of two 32 bit numbers. -/
def remainingLength (bs : WBitStream) : Nat := (bs.length + 2 ^ 32 - bs.position) % 2 ^ 32

/-- The byte `i` places after the pointer, zero outside of the buffer. -/
def byteAt (bs : WBitStream) (i : Nat) : Nat := (bs.buffer.getD (bs.pointer + i) 0).toNat

/-- `BitStream_Prefetch`. -/
def doPrefetch (bs : WBitStream) : WBitStream :=
  { bs with
    prefetch := bs.byteAt 4 <<< 24 ||| bs.byteAt 5 <<< 16 ||| bs.byteAt 6 <<< 8 ||| bs.byteAt 7 }

/-- `BitStream_Fetch`. -/
def fetch (bs : WBitStream) : WBitStream :=
  { bs with
    accumulator := bs.byteAt 0 <<< 24 ||| bs.byteAt 1 <<< 16 ||| bs.byteAt 2 <<< 8 |||
      bs.byteAt 3 }.doPrefetch

/-- `BitStream_Flush`; a byte outside of the buffer is not written. -/
def flush (bs : WBitStream) : WBitStream :=
  { bs with
    buffer := (((bs.buffer.set bs.pointer (UInt8.ofNat (bs.accumulator >>> 24))).set
      (bs.pointer + 1) (UInt8.ofNat (bs.accumulator >>> 16))).set
      (bs.pointer + 2) (UInt8.ofNat (bs.accumulator >>> 8))).set
      (bs.pointer + 3) (UInt8.ofNat bs.accumulator) }

/-- `BitStream_Shift`. -/
def shift (bs : WBitStream) (nbits : Nat) : WBitStream :=
  if nbits = 0 then bs
  else if nbits < 32 then
    let bs := { bs with
      accumulator := bs.accumulator <<< nbits % 2 ^ 32 |||
        (bs.prefetch >>> (32 - nbits) &&& (1 <<< nbits - 1))
      prefetch := bs.prefetch <<< nbits % 2 ^ 32
      position := bs.position + nbits
      offset := bs.offset + nbits }
    if bs.offset < 32 then bs
    else
      let bs := { bs with offset := bs.offset - 32, pointer := bs.pointer + 4 }.doPrefetch
      if bs.offset ≠ 0 then
        { bs with
          accumulator := bs.accumulator |||
            (bs.prefetch >>> (32 - bs.offset) &&& (1 <<< bs.offset - 1))
          prefetch := bs.prefetch <<< bs.offset % 2 ^ 32 }
      else bs
  else bs

/-- `BitStream_Write_Bits`. -/
def writeBits (bs : WBitStream) (bits nbits : Nat) : WBitStream :=
  let bs := { bs with position := bs.position + nbits, offset := bs.offset + nbits }
  if bs.offset < 32 then
    { bs with accumulator := bs.accumulator ||| bits <<< (32 - bs.offset) % 2 ^ 32 }
  else
    let offset := bs.offset - 32
    let bs := { bs with
      offset := offset
      accumulator := bs.accumulator ||| (bits >>> offset &&& (1 <<< (nbits - offset) - 1)) }.flush
    { bs with
      pointer := bs.pointer + 4
      accumulator :=
        if offset ≠ 0 then (bits &&& (1 <<< offset - 1)) <<< (32 - offset) % 2 ^ 32 else 0 }

/-! ### Words -/

lemma word_eq_add {a b c d : Nat} (hb : b < 2 ^ 8) (hc : c < 2 ^ 8) (hd : d < 2 ^ 8) :
    a <<< 24 ||| b <<< 16 ||| c <<< 8 ||| d = ((a * 2 ^ 8 + b) * 2 ^ 8 + c) * 2 ^ 8 + d := by
  have h1 : a <<< 24 ||| b <<< 16 = (a * 2 ^ 8 + b) <<< 16 := by
    rw [show a <<< 24 = (a <<< 8) <<< 16 from Nat.shiftLeft_add a 8 16,
      ← Nat.shiftLeft_or_distrib, shiftLeft_or_eq_add hb]
  have h2 : (a * 2 ^ 8 + b) <<< 16 ||| c <<< 8 = ((a * 2 ^ 8 + b) * 2 ^ 8 + c) <<< 8 := by
    rw [show (a * 2 ^ 8 + b) <<< 16 = ((a * 2 ^ 8 + b) <<< 8) <<< 8 from
      Nat.shiftLeft_add _ 8 8, ← Nat.shiftLeft_or_distrib, shiftLeft_or_eq_add hc]
  rw [h1, h2, shiftLeft_or_eq_add hd]

/-- Four bytes are a window of 32 bits. -/
lemma window_word (f : Nat → Bool) (p : Nat) :
    window f p 32 = ((window f p 8 * 2 ^ 8 + window f (p + 8) 8) * 2 ^ 8 +
      window f (p + 16) 8) * 2 ^ 8 + window f (p + 24) 8 := by
  rw [show 32 = 8 + 8 + 8 + 8 from rfl, window_add, window_add, window_add]

lemma byteAt_eq (bs : WBitStream) (i : Nat) :
    bs.byteAt i = window (bitsOf bs.buffer) (8 * (bs.pointer + i)) 8 := by
  rw [window_bitsOf]
  rfl

lemma bytes_eq_window (bs : WBitStream) (i : Nat) :
    bs.byteAt i <<< 24 ||| bs.byteAt (i + 1) <<< 16 ||| bs.byteAt (i + 2) <<< 8 |||
      bs.byteAt (i + 3) = window (bitsOf bs.buffer) (8 * (bs.pointer + i)) 32 := by
  have hlt : ∀ j, bs.byteAt j < 2 ^ 8 := fun j => UInt8.toNat_lt _
  rw [word_eq_add (hlt _) (hlt _) (hlt _), window_word, byteAt_eq, byteAt_eq, byteAt_eq, byteAt_eq]
  simp only [Nat.mul_add, Nat.add_assoc]

lemma doPrefetch_eq (bs : WBitStream) :
    bs.doPrefetch =
      { bs with prefetch := window (bitsOf bs.buffer) (8 * (bs.pointer + 4)) 32 } := by
  rw [doPrefetch, bytes_eq_window bs 4]

lemma fetch_eq (bs : WBitStream) :
    bs.fetch = { bs with
      accumulator := window (bitsOf bs.buffer) (8 * bs.pointer) 32
      prefetch := window (bitsOf bs.buffer) (8 * (bs.pointer + 4)) 32 } := by
  rw [fetch, bytes_eq_window bs 0, doPrefetch_eq, Nat.add_zero]

/-- A word of which `o` bits are used up, after `n` more are shifted out. -/
lemma window_shiftLeft (f : Nat → Bool) (p : Nat) {o n : Nat} (h : o + n ≤ 32) :
    (window f p (32 - o) * 2 ^ o) <<< n % 2 ^ 32 = window f (p + n) (32 - (o + n)) * 2 ^ (o + n) := by
  have hsplit := window_add f p n (32 - (o + n))
  rw [show n + (32 - (o + n)) = 32 - o by omega] at hsplit
  have hpow : 2 ^ (32 - (o + n)) * 2 ^ (o + n) = 2 ^ 32 := by
    rw [← pow_add, Nat.sub_add_cancel h]
  have hlt : window f (p + n) (32 - (o + n)) * 2 ^ (o + n) < 2 ^ 32 := by
    rw [← hpow]
    exact Nat.mul_lt_mul_of_pos_right (window_lt _ _ _) (Nat.two_pow_pos _)
  rw [Nat.shiftLeft_eq, Nat.mul_assoc, ← pow_add, hsplit, Nat.add_mul, Nat.mul_assoc, hpow,
    Nat.mul_add_mod_self_right, Nat.mod_eq_of_lt hlt]

lemma window_shiftLeft_word (f : Nat → Bool) (p : Nat) {n : Nat} (hn : n ≤ 32) :
    window f p 32 <<< n % 2 ^ 32 = window f (p + n) (32 - n) * 2 ^ n := by
  simpa using window_shiftLeft f p (o := 0) (n := n) (by omega)

/-! ### Reading -/

/-- The reader stands at `bs.position` in the bits of its buffer. -/
structure Reads (bs : WBitStream) : Prop where
  offset : bs.offset = bs.position % 32
  pointer : bs.pointer = 4 * (bs.position / 32)
  accumulator : bs.accumulator = window (bitsOf bs.buffer) bs.position 32
  prefetch : bs.prefetch =
    window (bitsOf bs.buffer) (bs.position + 32) (32 - bs.offset) * 2 ^ bs.offset

lemma reads_attach (buffer : List UInt8) : (attach buffer).fetch.Reads := by
  rw [fetch_eq]
  constructor <;> simp [attach]

/-- The top `n` bits of a prefetched word of which `o` bits are used up. -/
lemma prefetch_shiftRight (f : Nat → Bool) (p : Nat) {o n : Nat} (h : o + n ≤ 32) :
    (window f p (32 - o) * 2 ^ o) >>> (32 - n) &&& (1 <<< n - 1) = window f p n := by
  have hsplit := window_add f p n (32 - o - n)
  rw [Nat.add_sub_cancel' (by omega)] at hsplit
  have hpow : 2 ^ (32 - n) = 2 ^ (32 - o - n) * 2 ^ o := by
    rw [← pow_add, show 32 - o - n + o = 32 - n by omega]
  rw [Nat.one_shiftLeft, and_mask_eq_mod, Nat.shiftRight_eq_div_pow, hpow,
    Nat.mul_div_mul_right _ _ (Nat.two_pow_pos o), hsplit, Nat.add_comm,
    Nat.add_mul_div_right _ _ (Nat.two_pow_pos _), Nat.div_eq_of_lt (window_lt _ _ _),
    Nat.zero_add, Nat.mod_eq_of_lt (window_lt _ _ _)]

/-- The same when the word has fewer than `n` bits left: zeros follow. -/
lemma prefetch_shiftRight_short (f : Nat → Bool) (p : Nat) {o n : Nat} (ho : o ≤ 32) (hn : n ≤ 32)
    (h : 32 ≤ o + n) :
    (window f p (32 - o) * 2 ^ o) >>> (32 - n) &&& (1 <<< n - 1) =
      window f p (32 - o) * 2 ^ (o + n - 32) := by
  have hpow : 2 ^ o = 2 ^ (o + n - 32) * 2 ^ (32 - n) := by
    rw [← pow_add, show o + n - 32 + (32 - n) = o by omega]
  have hlt : window f p (32 - o) * 2 ^ (o + n - 32) < 2 ^ n := by
    rw [show n = 32 - o + (o + n - 32) by omega, pow_add,
      show 32 - o + (o + n - 32) = n by omega]
    exact Nat.mul_lt_mul_of_pos_right (window_lt _ _ _) (Nat.two_pow_pos _)
  rw [Nat.one_shiftLeft, and_mask_eq_mod, Nat.shiftRight_eq_div_pow, hpow, ← Nat.mul_assoc,
    Nat.mul_div_cancel _ (Nat.two_pow_pos _), Nat.mod_eq_of_lt hlt]

/-- Bits moved into the accumulator from behind. -/
lemma window_shift_or (f : Nat → Bool) (p : Nat) {n : Nat} (hn : n ≤ 32) :
    window f p 32 <<< n % 2 ^ 32 ||| window f (p + 32) n = window f (p + n) 32 := by
  have hsplit := window_add f (p + n) (32 - n) n
  rw [Nat.sub_add_cancel hn, show p + n + (32 - n) = p + 32 by omega] at hsplit
  rw [window_shiftLeft_word f p hn, hsplit, ← Nat.shiftLeft_eq, shiftLeft_or_eq_add (window_lt _ _ _),
    Nat.shiftLeft_eq]

/-- A shift moves the reader on. -/
lemma Reads.shift {bs : WBitStream} (h : bs.Reads) {n : Nat} (hn0 : 0 < n) (hn : n < 32) :
    (bs.shift n).Reads ∧ (bs.shift n).buffer = bs.buffer ∧
      (bs.shift n).position = bs.position + n := by
  obtain ⟨buffer, pointer, p, o, pre, acc⟩ := bs
  obtain ⟨ho, hptr, hacc, hpre⟩ := h
  dsimp only at ho hptr hacc hpre
  have ho32 : o < 32 := by omega
  by_cases hlt : o + n < 32
  · -- the prefetched word has enough bits
    have hshift : WBitStream.shift ⟨buffer, pointer, p, o, pre, acc⟩ n =
        ⟨buffer, pointer, p + n, o + n, pre <<< n % 2 ^ 32,
          acc <<< n % 2 ^ 32 ||| (pre >>> (32 - n) &&& (1 <<< n - 1))⟩ := by
      simp only [WBitStream.shift, if_neg hn0.ne', if_pos hn, if_pos hlt]
    rw [hshift]
    refine ⟨⟨?_, ?_, ?_, ?_⟩, rfl, rfl⟩ <;> dsimp only
    · omega
    · omega
    · rw [hacc, hpre, prefetch_shiftRight _ _ hlt.le, window_shift_or _ _ hn.le]
    · rw [hpre, window_shiftLeft _ _ hlt.le, show p + 32 + n = p + n + 32 by omega]
  · -- the rest of the prefetched word, and the front of the next one
    obtain ⟨o', ho'⟩ : ∃ o', o + n = 32 + o' := ⟨o + n - 32, by omega⟩
    have hjoin : window (bitsOf buffer) (p + 32) (32 - o) * 2 ^ o' |||
        window (bitsOf buffer) (p + 32 + (32 - o)) o' = window (bitsOf buffer) (p + 32) n := by
      rw [show n = 32 - o + o' by omega, window_add, ← Nat.shiftLeft_eq,
        shiftLeft_or_eq_add (window_lt _ _ _), Nat.shiftLeft_eq]
    have hfront : window (bitsOf buffer) (p + 32 + (32 - o)) 32 >>> (32 - o') &&& (1 <<< o' - 1) =
        window (bitsOf buffer) (p + 32 + (32 - o)) o' := by
      simpa using prefetch_shiftRight (bitsOf buffer) (p + 32 + (32 - o)) (o := 0) (n := o')
        (by omega)
    have hshift : WBitStream.shift ⟨buffer, pointer, p, o, pre, acc⟩ n =
        ⟨buffer, pointer + 4, p + n, o', window (bitsOf buffer) (p + n + 32) (32 - o') * 2 ^ o',
          window (bitsOf buffer) (p + n) 32⟩ := by
      have hacc' : acc <<< n % 2 ^ 32 ||| (pre >>> (32 - n) &&& (1 <<< n - 1)) |||
          window (bitsOf buffer) (p + 32 + (32 - o)) o' = window (bitsOf buffer) (p + n) 32 := by
        rw [hpre, prefetch_shiftRight_short _ _ ho32.le hn.le (by omega), Nat.or_assoc,
          show o + n - 32 = o' by omega, hjoin, hacc, window_shift_or _ _ hn.le]
      have hoff : o + n - 32 = o' := by omega
      have hnext : 8 * (pointer + 4 + 4) = p + 32 + (32 - o) := by omega
      have hrest : p + 32 + (32 - o) + o' = p + n + 32 := by omega
      simp only [WBitStream.shift, if_neg hn0.ne', if_pos hn, if_neg hlt, doPrefetch_eq, hoff,
        hnext, hfront, hacc', window_shiftLeft_word _ _ (show o' ≤ 32 by omega), hrest]
      split
      · rfl
      · -- nothing of the next word is needed yet
        rename_i h0
        rw [not_ne_iff] at h0
        subst h0
        rw [show window (bitsOf buffer) (p + 32 + (32 - o)) 0 = 0 from rfl, Nat.or_zero] at hacc'
        rw [hacc', Nat.sub_zero, pow_zero, Nat.mul_one, ← hrest,
          Nat.add_zero (p + 32 + (32 - o))]
    rw [hshift]
    refine ⟨⟨?_, ?_, rfl, rfl⟩, rfl, rfl⟩ <;> dsimp only <;> omega

/-- Taking `n` bits off the front of the accumulator. -/
lemma Reads.accumulator_div {bs : WBitStream} (h : bs.Reads) {n : Nat} (hn : n ≤ 32) :
    bs.accumulator / 2 ^ (32 - n) = window (bitsOf bs.buffer) bs.position n := by
  rw [h.accumulator, window_eq_div (bitsOf bs.buffer) bs.position n (32 - n),
    Nat.add_sub_cancel' hn]

/-! ### Writing -/

/-- The bits `f`, up to `bs.position`, are written: whole words to the buffer as far as it
reaches, the rest to the accumulator. -/
structure Wrote (bs : WBitStream) (f : Nat → Bool) : Prop where
  offset : bs.offset = bs.position % 32
  pointer : bs.pointer = 4 * (bs.position / 32)
  rest : ∀ i, bs.position ≤ i → f i = false
  accumulator : bs.accumulator = window f (8 * bs.pointer) 32
  bytes : ∀ i < bs.pointer, i < bs.buffer.length →
    (bs.buffer.getD i 0).toNat = window f (8 * i) 8

lemma wrote_attach (buffer : List UInt8) : (attach buffer).Wrote fun _ => false where
  offset := rfl
  pointer := by simp [attach]
  rest _ _ := rfl
  accumulator := (window_eq_zero (fun _ _ => rfl) 32).symm
  bytes i hi := absurd hi (Nat.not_lt_zero i)

@[simp] lemma flush_length (bs : WBitStream) : bs.flush.buffer.length = bs.buffer.length := by
  simp [flush]

/-- The four bytes of a word. -/
lemma toNat_ofNat_shiftRight (f : Nat → Bool) (p k : Nat) (hk : k ≤ 3) :
    (UInt8.ofNat (window f p 32 >>> (8 * (3 - k)))).toNat = window f (p + 8 * k) 8 := by
  have hfront := window_eq_div f p (8 * k + 8) (8 * (3 - k))
  have hsplit := window_add f p (8 * k) 8
  have hlt := window_lt f (p + 8 * k) 8
  rw [show 8 * k + 8 + 8 * (3 - k) = 32 by omega] at hfront
  rw [UInt8.toNat_ofNat', Nat.shiftRight_eq_div_pow, ← hfront, hsplit, Nat.mul_add_mod_self_right,
    Nat.mod_eq_of_lt hlt]

/-- What `BitStream_Flush` leaves in the buffer. -/
lemma getD_flush (bs : WBitStream) {f : Nat → Bool}
    (hacc : bs.accumulator = window f (8 * bs.pointer) 32) {i : Nat} (hi : i < bs.buffer.length) :
    (bs.flush.buffer.getD i 0).toNat =
      if bs.pointer ≤ i ∧ i < bs.pointer + 4 then window f (8 * i) 8
      else (bs.buffer.getD i 0).toNat := by
  have hbyte : ∀ k ≤ 3, (UInt8.ofNat (bs.accumulator >>> (8 * (3 - k)))).toNat =
      window f (8 * (bs.pointer + k)) 8 := fun k hk => by
    rw [hacc, toNat_ofNat_shiftRight f _ k hk, Nat.mul_add]
  simp only [flush, List.getD_eq_getElem?_getD, List.getElem?_set, List.length_set]
  by_cases h : bs.pointer ≤ i ∧ i < bs.pointer + 4
  · obtain ⟨k, rfl⟩ := Nat.exists_eq_add_of_le h.1
    have hk : k ≤ 3 := by omega
    have hi0 : bs.pointer < bs.buffer.length := by omega
    rw [if_pos h, ← hbyte k hk]
    interval_cases k <;> simp [hi, hi0]
  · rw [if_neg h, if_neg (by omega), if_neg (by omega), if_neg (by omega), if_neg (by omega)]

/-- `BitStream_Write_Bits` appends the bits. -/
lemma Wrote.writeBits {bs : WBitStream} {f : Nat → Bool} (h : bs.Wrote f) {v n : Nat} (hn0 : 0 < n)
    (hn : n < 32) (hv : v < 2 ^ n) :
    (bs.writeBits v n).Wrote (setBits f bs.position n v) ∧
      (bs.writeBits v n).position = bs.position + n ∧
      (bs.writeBits v n).buffer.length = bs.buffer.length := by
  obtain ⟨buffer, pointer, p, o, pre, acc⟩ := bs
  obtain ⟨ho, hptr, hrest, hacc, hbytes⟩ := h
  dsimp only at ho hptr hrest hacc hbytes ⊢
  obtain ⟨g, hg⟩ : ∃ g, setBits f p n v = g := ⟨_, rfl⟩
  have hold : ∀ i < p, g i = f i := fun i hi => by rw [← hg, setBits_of_lt hi]
  have hnew : window g p n = v := by rw [← hg, window_setBits hv]
  have hend : ∀ i, p + n ≤ i → g i = false := fun i hi => by rw [← hg, setBits_of_ge hi]
  have ho32 : o < 32 := by omega
  have hp : 8 * pointer + o = p := by omega
  -- the bits of the unfinished word stand at the top of the accumulator
  have htop : acc = window g (8 * pointer) o * 2 ^ (32 - o) := by
    have hsplit := window_add f (8 * pointer) o (32 - o)
    rw [Nat.add_sub_cancel' ho32.le, hp, window_eq_zero hrest, Nat.add_zero] at hsplit
    rw [hacc, hsplit, window_congr fun i _ hi => (hold i (by omega)).symm]
  have hbytes' : ∀ i < pointer, i < buffer.length →
      (buffer.getD i 0).toNat = window g (8 * i) 8 := fun i hi hlen => by
    rw [hbytes i hi hlen, window_congr fun j _ hj => (hold j (by omega)).symm]
  rw [hg]
  by_cases hlt : o + n < 32
  · -- the word is not full yet
    have hshift : v <<< (32 - (o + n)) < 2 ^ (32 - o) := by
      rw [Nat.shiftLeft_eq, show 32 - o = n + (32 - (o + n)) by omega, pow_add]
      exact Nat.mul_lt_mul_of_pos_right hv (Nat.two_pow_pos _)
    have hmod : v <<< (32 - (o + n)) % 2 ^ 32 = v <<< (32 - (o + n)) :=
      Nat.mod_eq_of_lt (hshift.trans_le (Nat.pow_le_pow_right (by omega) (by omega)))
    have hacc' : acc ||| v <<< (32 - (o + n)) = window g (8 * pointer) 32 := by
      have hsplit := window_add g (8 * pointer) o (32 - o)
      have hsplit' := window_add g p n (32 - (o + n))
      rw [Nat.add_sub_cancel' ho32.le, hp] at hsplit
      rw [show n + (32 - (o + n)) = 32 - o by omega, hnew, window_eq_zero hend, Nat.add_zero]
        at hsplit'
      rw [htop, ← Nat.shiftLeft_eq, shiftLeft_or_eq_add hshift, hsplit, hsplit', Nat.shiftLeft_eq]
    have hwrite : WBitStream.writeBits ⟨buffer, pointer, p, o, pre, acc⟩ v n =
        ⟨buffer, pointer, p + n, o + n, pre, window g (8 * pointer) 32⟩ := by
      simp only [WBitStream.writeBits, if_pos hlt, hmod, hacc']
    rw [hwrite]
    exact ⟨⟨by dsimp only; omega, by dsimp only; omega, hend, rfl, hbytes'⟩, rfl, rfl⟩
  · -- the word is full and goes to the buffer
    obtain ⟨o', ho'⟩ : ∃ o', o + n = 32 + o' := ⟨o + n - 32, by omega⟩
    have hoff : o + n - 32 = o' := by omega
    have hsplit := window_add g p (n - o') o'
    rw [Nat.sub_add_cancel (by omega), hnew] at hsplit
    have hlow := window_lt g (p + (n - o')) o'
    have hhigh : v >>> o' &&& (1 <<< (n - o') - 1) = window g p (n - o') := by
      rw [Nat.one_shiftLeft, and_mask_eq_mod, Nat.shiftRight_eq_div_pow, hsplit, Nat.add_comm,
        Nat.add_mul_div_right _ _ (Nat.two_pow_pos _), Nat.div_eq_of_lt hlow, Nat.zero_add,
        Nat.mod_eq_of_lt (window_lt _ _ _)]
    have hlow' : v &&& (1 <<< o' - 1) = window g (p + (n - o')) o' := by
      rw [Nat.one_shiftLeft, and_mask_eq_mod, hsplit, Nat.mul_add_mod_self_right,
        Nat.mod_eq_of_lt hlow]
    have hacc' : acc ||| window g p (n - o') = window g (8 * pointer) 32 := by
      have hword := window_add g (8 * pointer) o (32 - o)
      rw [Nat.add_sub_cancel' ho32.le, hp] at hword
      rw [htop, ← Nat.shiftLeft_eq, show n - o' = 32 - o by omega,
        shiftLeft_or_eq_add (window_lt _ _ _), hword]
    have hnext : (if o' ≠ 0 then window g (p + (n - o')) o' <<< (32 - o') % 2 ^ 32 else 0) =
        window g (8 * (pointer + 4)) 32 := by
      have hword := window_add g (8 * (pointer + 4)) o' (32 - o')
      have hzero : window g (8 * (pointer + 4) + o') (32 - o') = 0 :=
        window_eq_zero (fun i hi => hend i (by omega)) _
      rw [Nat.add_sub_cancel' (by omega), hzero, show 8 * (pointer + 4) = p + (n - o') by omega,
        Nat.add_zero] at hword
      rw [show 8 * (pointer + 4) = p + (n - o') by omega, hword]
      split
      · rw [Nat.shiftLeft_eq, ← hword, Nat.mod_eq_of_lt (window_lt _ _ _)]
      · rename_i h0
        rw [not_ne_iff.mp h0]
        simp [window]
    have hwrite : WBitStream.writeBits ⟨buffer, pointer, p, o, pre, acc⟩ v n =
        ⟨(flush ⟨buffer, pointer, p + n, o', pre, window g (8 * pointer) 32⟩).buffer, pointer + 4,
          p + n, o', pre, window g (8 * (pointer + 4)) 32⟩ := by
      simp only [WBitStream.writeBits, if_neg hlt, hoff, hhigh, hacc', hlow', hnext]
      rfl
    rw [hwrite]
    refine ⟨⟨by dsimp only; omega, by dsimp only; omega, hend, rfl, fun i hi hlen => ?_⟩, rfl,
      flush_length _⟩
    dsimp only at hi hlen ⊢
    rw [flush_length] at hlen
    rw [getD_flush _ rfl hlen]
    split
    · rfl
    · exact hbytes' i (by dsimp only at *; omega) hlen

/-- The bytes of a flushed writer are the bits that were written. -/
lemma Wrote.bitsOf_flush {bs : WBitStream} {f : Nat → Bool} (h : bs.Wrote f)
    (hfit : (bs.position + 7) / 8 ≤ bs.buffer.length) :
    bitsOf (bs.flush.buffer.take ((bs.position + 7) / 8)) = f := by
  have hlength : (bs.flush.buffer.take ((bs.position + 7) / 8)).length = (bs.position + 7) / 8 := by
    rw [List.length_take, flush_length]
    omega
  refine bitsOf_eq (fun i hi => ?_) fun i hi => h.rest i (by omega)
  rw [hlength] at hi
  rw [List.getD_eq_getElem?_getD, List.getElem?_take_of_lt hi, ← List.getD_eq_getElem?_getD,
    getD_flush bs h.accumulator (by omega)]
  have hpointer := h.pointer
  split
  · rfl
  · exact (h.bytes i (by omega) (by omega)).symm

end WBitStream

end FreeRdp
