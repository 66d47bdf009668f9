import FreeRdp.Core.Gateway.Websocket
import FreeRdp.Library.Runs

/-!
# Websocket frames

Frames as they are sent over the wire: those of a server, which are not masked, and those of a client,
which are.
-/

namespace FreeRdp

/-! ### Frames of a client -/

/-- The number in some bytes, in big endian order. -/
def valueBE (bytes : List UInt8) : Nat := bytes.foldl (fun v b => v * 256 + b.toNat) 0

/-- Data masked, or unmasked, with a key of four bytes. -/
def websocketUnmask (key data : List UInt8) : List UInt8 :=
  data.mapIdx fun i b => b ^^^ key.getD (i % 4) 0

/-- The first byte and the payload of a masked frame. -/
def decodeClientFrame : List UInt8 → Option (Nat × List UInt8)
  | first :: second :: rest =>
    let len7 := second.toNat % 128
    let n := if len7 < 126 then 0 else if len7 = 126 then 2 else 8
    let len := if n = 0 then len7 else valueBE (rest.take n)
    let key := (rest.drop n).take 4
    let data := rest.drop (n + 4)
    if 128 ≤ second.toNat ∧ key.length = 4 ∧ data.length = len then
      some (first.toNat, websocketUnmask key data)
    else none
  | _ => none

lemma length_rdgWebsocketMask (key : MaskingKey) (data : List UInt8) :
    (rdgWebsocketMask key data).length = data.length := by
  induction data using rdgWebsocketMask.induct with
  | case1 b0 b1 b2 b3 data ih => rw [rdgWebsocketMask]; simp [ih]
  | case2 b0 b1 b2 => rfl
  | case3 b0 b1 => rfl
  | case4 b0 => rfl
  | case5 => rfl

lemma xor_xor_cancel (b k : UInt8) : b ^^^ k ^^^ k = b := by
  rw [UInt8.xor_assoc, UInt8.xor_self, UInt8.xor_zero]

/-- Unmasking undoes the masking. -/
lemma websocketUnmask_mask (key : MaskingKey) (data : List UInt8) :
    websocketUnmask key.bytes (rdgWebsocketMask key data) = data := by
  induction data using rdgWebsocketMask.induct with
  | case1 b0 b1 b2 b3 data ih =>
    rw [websocketUnmask] at ih
    rw [rdgWebsocketMask, websocketUnmask]
    simp only [List.mapIdx_cons, MaskingKey.bytes, Nat.add_assoc, Nat.reduceAdd, Nat.add_mod_right,
      Nat.zero_mod, Nat.reduceMod, List.getD_cons_zero, List.getD_cons_succ, xor_xor_cancel]
    rw [MaskingKey.bytes] at ih
    rw [ih]
  | case2 b0 b1 b2 =>
    simp only [rdgWebsocketMask, websocketUnmask, List.mapIdx_cons, List.mapIdx_nil,
      MaskingKey.bytes, Nat.zero_add, Nat.reduceAdd, Nat.zero_mod, Nat.reduceMod,
      List.getD_cons_zero, List.getD_cons_succ, xor_xor_cancel]
  | case3 b0 b1 =>
    simp only [rdgWebsocketMask, websocketUnmask, List.mapIdx_cons, List.mapIdx_nil,
      MaskingKey.bytes, Nat.zero_add, Nat.zero_mod, Nat.reduceMod, List.getD_cons_zero,
      List.getD_cons_succ, xor_xor_cancel]
  | case4 b0 =>
    simp only [rdgWebsocketMask, websocketUnmask, List.mapIdx_cons, List.mapIdx_nil,
      MaskingKey.bytes, Nat.zero_mod, List.getD_cons_zero, xor_xor_cancel]
  | case5 => rfl

lemma length_bytesBE (n v : Nat) : (bytesBE n v).length = n := by
  induction n with
  | zero => rfl
  | succ n ih => rw [bytesBE, List.length_cons, ih]

lemma valueBE_from_bytesBE (n v start : Nat) :
    (bytesBE n v).foldl (fun v b => v * 256 + b.toNat) start = start * 256 ^ n + v % 256 ^ n := by
  induction n generalizing start with
  | zero => rw [bytesBE, List.foldl_nil, pow_zero, Nat.mod_one, Nat.mul_one, Nat.add_zero]
  | succ n ih =>
    have hbyte : (UInt8.ofNat (v >>> (8 * n))).toNat = v / 256 ^ n % 256 := by
      rw [UInt8.toNat_ofNat', Nat.shiftRight_eq_div_pow, pow_mul]
      norm_num
    rw [bytesBE, List.foldl_cons, ih, hbyte, pow_succ, Nat.mod_mul]
    ring

lemma valueBE_bytesBE {n v : Nat} (h : v < 256 ^ n) : valueBE (bytesBE n v) = v := by
  rw [valueBE, valueBE_from_bytesBE, Nat.zero_mul, Nat.zero_add, Nat.mod_eq_of_lt h]

lemma valueBE_concat (bytes : List UInt8) (b : UInt8) :
    valueBE (bytes ++ [b]) = valueBE bytes * 256 + b.toNat := by
  rw [valueBE, List.foldl_append]
  rfl

lemma valueBE_lt (bytes : List UInt8) : valueBE bytes < 256 ^ bytes.length := by
  induction bytes using List.reverseRecOn with
  | nil => decide
  | append_singleton bytes b ih =>
    have hb := b.toNat_lt
    rw [valueBE_concat, List.length_append, List.length_singleton, pow_succ]
    omega

/-- A masked frame, whose second byte says how long its length is. -/
lemma decodeClientFrame_masked {first second : UInt8} (ext : List UInt8) (key : MaskingKey)
    (data : List UInt8) (hmask : 128 ≤ second.toNat)
    (hext : (if second.toNat % 128 < 126 then 0 else if second.toNat % 128 = 126 then 2 else 8) =
      ext.length)
    (hlen : (if ext.length = 0 then second.toNat % 128 else valueBE ext) = data.length) :
    decodeClientFrame (first :: second :: (ext ++ key.bytes ++ rdgWebsocketMask key data)) =
      some (first.toNat, data) := by
  have hkey : key.bytes.length = 4 := rfl
  rw [decodeClientFrame, hext, List.append_assoc, List.take_left, List.drop_left,
    List.take_left' hkey, ← List.drop_drop, List.drop_left, List.drop_left' hkey, hlen,
    websocketUnmask_mask, if_pos]
  exact ⟨hmask, hkey, length_rdgWebsocketMask key data⟩

lemma or_mask_bit {len : Nat} (h : len < 128) : len ||| WEBSOCKET_MASK_BIT = 128 + len := by
  have hor := Nat.two_pow_add_eq_or_of_lt (i := 7) h 1
  rw [WEBSOCKET_MASK_BIT, Nat.or_comm]
  exact hor.symm

/-- `fullLen` is the length of the frame. -/
lemma length_rdgWebsocketFrame {malloc : Malloc} {key : MaskingKey} {packet frame : List UInt8}
    {opcode : Nat} (h : rdgWebsocketFrame malloc key packet opcode = some frame) :
    frame.length = rdgWebsocketFullLen packet.length := by
  have hkey : key.bytes.length = 4 := rfl
  rw [rdgWebsocketFrame] at h
  dsimp only at h
  split at h
  · cases h
  · split at h
    · cases h
    · rw [← Option.some.inj h, List.length_append, List.length_append, List.length_cons,
        length_rdgWebsocketMask, hkey, rdgWebsocketFullLen]
      split
      · rw [List.length_singleton]
        omega
      · split
        · rw [List.length_cons, length_bytesBE]
          omega
        · rw [List.length_cons, List.length_append, length_bytesBE, length_bytesBE]
          omega

/-- The frame of `rdg_write_websocket` is masked and has the packet. -/
lemma decodeClientFrame_rdgWebsocketFrame {malloc : Malloc} {packet : List UInt8}
    (key : MaskingKey) {opcode : Nat} (hopcode : opcode < 128) (hlen : packet.length ≤ INT_MAX)
    (hmalloc : malloc.succeeds (rdgWebsocketFullLen packet.length) = true) :
    ∃ frame, rdgWebsocketFrame malloc key packet opcode = some frame ∧
      decodeClientFrame frame = some (128 + opcode, packet) := by
  have hfirst : (UInt8.ofNat (WEBSOCKET_FIN_BIT ||| opcode)).toNat = 128 + opcode := by
    rw [show WEBSOCKET_FIN_BIT = WEBSOCKET_MASK_BIT from rfl, Nat.or_comm, or_mask_bit hopcode,
      UInt8.toNat_ofNat']
    omega
  have hsecond : ∀ n < 128, (UInt8.ofNat (n ||| WEBSOCKET_MASK_BIT)).toNat = 128 + n := by
    intro n hn
    rw [or_mask_bit hn, UInt8.toNat_ofNat']
    omega
  rw [rdgWebsocketFrame]
  dsimp only
  rw [if_neg (by omega), if_neg (by rw [hmalloc]; decide)]
  refine ⟨_, rfl, ?_⟩
  rw [← hfirst]
  split
  · rename_i hshort
    refine decodeClientFrame_masked [] key packet ?_ ?_ ?_
    · rw [hsecond _ (by omega)]
      omega
    · rw [hsecond _ (by omega), if_pos (by omega)]
      rfl
    · rw [hsecond _ (by omega), if_pos List.length_nil]
      omega
  · split
    · rename_i hlong hshort
      refine decodeClientFrame_masked (bytesBE 2 packet.length) key packet ?_ ?_ ?_
      · rw [hsecond _ (by omega)]
        omega
      · rw [hsecond _ (by omega), length_bytesBE]
        rfl
      · rw [length_bytesBE]
        exact valueBE_bytesBE hshort
    · refine decodeClientFrame_masked (bytesBE 4 0 ++ bytesBE 4 packet.length) key packet
        ?_ ?_ ?_
      · rw [hsecond _ (by omega)]
        omega
      · rw [hsecond _ (by omega), List.length_append, length_bytesBE, length_bytesBE]
        rfl
      · rw [List.length_append, length_bytesBE, length_bytesBE, if_neg (by omega), valueBE,
          List.foldl_append, valueBE_from_bytesBE, valueBE_from_bytesBE]
        rw [INT_MAX] at hlen
        omega

/-! ### Frames of a server -/

/-- The three forms of a payload length. -/
inductive LengthForm where
  | seven
  | sixteen
  | sixtyFour
  deriving DecidableEq, Repr

/-- The number of bytes behind the second byte of a frame. -/
def LengthForm.size : LengthForm → Nat
  | .seven => 0
  | .sixteen => 2
  | .sixtyFour => 8

/-- The lengths that a form can have. -/
def LengthForm.bound : LengthForm → Nat
  | .seven => 126
  | .sixteen => 256 ^ 2
  | .sixtyFour => 256 ^ 8

lemma LengthForm.size_le (form : LengthForm) : form.size ≤ 8 := by
  cases form with
  | seven => decide
  | sixteen => decide
  | sixtyFour => decide

/-- A frame that is not masked: its first byte, with the opcode, and its payload. -/
structure ServerFrame where
  opcode : UInt8
  form : LengthForm
  payload : List UInt8
  fits : payload.length < form.bound

namespace ServerFrame

/-- The second byte. -/
def lengthByte (f : ServerFrame) : UInt8 := match f.form with
  | .seven => UInt8.ofNat f.payload.length
  | .sixteen => 126
  | .sixtyFour => 127

/-- The longer forms of the length. -/
def extendedLength (f : ServerFrame) : List UInt8 := bytesBE f.form.size f.payload.length

/-- A frame on the wire. -/
def encode (f : ServerFrame) : List UInt8 :=
  f.opcode :: f.lengthByte :: (f.extendedLength ++ f.payload)

/-- The opcode itself. -/
def kind (f : ServerFrame) : Nat := f.opcode.toNat &&& 0xf

/-- The opcode of the message that continuation frames belong to, after this frame. -/
def original (orig : Nat) (f : ServerFrame) : Nat :=
  if f.kind ≠ WebsocketContinuationOpcode ∧ f.kind < 0x08 then f.opcode.toNat else orig

/-- The opcode of the frame, or of the message that it continues. -/
def effective (orig : Nat) (f : ServerFrame) : Nat :=
  if f.kind = WebsocketContinuationOpcode then orig &&& 0xf else f.kind

/-- The payload of a frame of a binary message. -/
def binary (orig : Nat) (f : ServerFrame) : List UInt8 :=
  if f.effective orig = WebsocketBinaryOpcode then f.payload else []

/-- The answer to a control frame: a pong with the payload of a ping. -/
def answer (f : ServerFrame) : Option (Nat × List UInt8) :=
  if f.kind = WebsocketPingOpcode then some (0x80 + WebsocketPongOpcode, f.payload)
  else if f.kind = WebsocketCloseOpcode then
    some (0x80 + WebsocketPongOpcode, if 2 ≤ f.payload.length then f.payload.take 2 else [])
  else none

end ServerFrame

/-- Frames on the wire. -/
def encodeFrames (frames : List ServerFrame) : List UInt8 := (frames.map (·.encode)).flatten

/-- The opcode of the message that continuation frames belong to, after some frames. -/
def originalAfter (frames : List ServerFrame) : Nat := frames.foldl ServerFrame.original 0

/-- The payloads of the binary messages, where a message is the frame with its opcode and the
continuation frames behind it. -/
def binaryPayload (orig : Nat) : List ServerFrame → List UInt8
  | [] => []
  | f :: frames => f.binary orig ++ binaryPayload (f.original orig) frames

/-- The answers to control frames. -/
def frameAnswers (frames : List ServerFrame) : List (Nat × List UInt8) :=
  frames.filterMap ServerFrame.answer

@[simp] lemma encodeFrames_nil : encodeFrames [] = [] := rfl

@[simp] lemma encodeFrames_cons (f : ServerFrame) (frames : List ServerFrame) :
    encodeFrames (f :: frames) = f.encode ++ encodeFrames frames := rfl

lemma encodeFrames_cons_bytes (f : ServerFrame) (frames : List ServerFrame) :
    encodeFrames (f :: frames) =
      f.opcode :: f.lengthByte :: (f.extendedLength ++ (f.payload ++ encodeFrames frames)) := by
  rw [encodeFrames_cons, ServerFrame.encode, List.cons_append, List.cons_append,
    List.append_assoc]

lemma ServerFrame.length_extendedLength (f : ServerFrame) :
    f.extendedLength.length = f.form.size := length_bytesBE _ _

lemma and_mask_bit_of_lt {n : Nat} (h : n < 2 ^ 7) : n &&& WEBSOCKET_MASK_BIT = 0 := by
  refine Nat.eq_of_testBit_eq fun i => ?_
  rw [Nat.testBit_and, Nat.zero_testBit, WEBSOCKET_MASK_BIT, show 0x80 = 2 ^ 7 from rfl,
    Nat.testBit_two_pow]
  by_cases hi : 7 = i
  · rw [← hi, Nat.testBit_lt_two_pow h, Bool.false_and]
  · rw [decide_eq_false hi, Bool.and_false]

/-- The second byte has no mask bit, and says which form the length has. -/
lemma ServerFrame.lengthByte_spec (f : ServerFrame) :
    f.lengthByte.toNat &&& WEBSOCKET_MASK_BIT = 0 ∧
      f.lengthByte.toNat &&& 0x7f = (match f.form with
        | .seven => f.payload.length
        | .sixteen => 126
        | .sixtyFour => 127) := by
  have hfits := f.fits
  rw [lengthByte]
  cases hform : f.form with
  | seven =>
    rw [hform, LengthForm.bound] at hfits
    have hlt : f.payload.length < 2 ^ 7 := by omega
    dsimp only
    rw [UInt8.toNat_ofNat', Nat.mod_eq_of_lt (by omega)]
    refine ⟨?_, ?_⟩
    · exact and_mask_bit_of_lt hlt
    · rw [show 0x7f = 2 ^ 7 - 1 from rfl, Nat.and_two_pow_sub_one_eq_mod, Nat.mod_eq_of_lt hlt]
  | sixteen =>
    dsimp only
    decide
  | sixtyFour =>
    dsimp only
    decide

lemma originalAfter_concat (frames : List ServerFrame) (f : ServerFrame) :
    originalAfter (frames ++ [f]) = f.original (originalAfter frames) := by
  rw [originalAfter, List.foldl_append]
  rfl

lemma binaryPayload_concat (orig : Nat) (frames : List ServerFrame) (f : ServerFrame) :
    binaryPayload orig (frames ++ [f]) =
      binaryPayload orig frames ++ f.binary (frames.foldl ServerFrame.original orig) := by
  induction frames generalizing orig with
  | nil => exact List.append_nil _
  | cons g frames ih =>
    rw [List.cons_append, binaryPayload, ih, binaryPayload, List.append_assoc]
    rfl

lemma frameAnswers_concat (frames : List ServerFrame) (f : ServerFrame) :
    frameAnswers (frames ++ [f]) = frameAnswers frames ++ f.answer.toList := by
  rw [frameAnswers, List.filterMap_append]
  congr 1

/-- A message is never one of control frames. -/
lemma originalAfter_lt (frames : List ServerFrame) : originalAfter frames &&& 0xf < 8 := by
  induction frames using List.reverseRecOn with
  | nil => decide
  | append_singleton frames f ih =>
    rw [originalAfter_concat, ServerFrame.original]
    split
    · rename_i hkind
      exact hkind.2
    · exact ih

end FreeRdp
