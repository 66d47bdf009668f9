import FreeRdp.Core.Gateway.Chunked
import FreeRdp.Core.Gateway.WebsocketFrames
import FreeRdp.Winpr.Stream

/-!
# Sending over the websocket transport of a gateway

`rdg.c` has two writers of websocket frames. `rdg_write_websocket` masks a packet that is there as
a whole. `rdg_write_websocket_data_packet` never builds the packet: it masks the fields of its
header one by one, turns the key by two bytes and masks the data with it. Both send the same frame.

The masking key is a `uint32_t` in the memory of a little-endian host.
-/

namespace FreeRdp

/-- A `uint32_t` in memory. -/
def wordOfBytes (b0 b1 b2 b3 : UInt8) : Nat :=
  b0.toNat ||| b1.toNat <<< 8 ||| b2.toNat <<< 16 ||| b3.toNat <<< 24

/-- `maskingKey`. -/
def MaskingKey.word (key : MaskingKey) : Nat := wordOfBytes key.k0 key.k1 key.k2 key.k3

/-- The two loops of `rdg_write_websocket_data_packet`: words, then the other bytes. -/
def rdgMaskData (maskingKey : Nat) : List UInt8 → List UInt8
  | b0 :: b1 :: b2 :: b3 :: buf =>
    bytesUInt32 (wordOfBytes b0 b1 b2 b3 ^^^ maskingKey) ++ rdgMaskData maskingKey buf
  | buf => buf.mapIdx fun i b => b ^^^ (bytesUInt32 maskingKey).getD (i % 4) 0

/-- `rdg_write_websocket_data_packet`: the bytes for `tls_write_all`, if it comes to that. -/
def rdgWriteWebsocketDataPacket (malloc : Malloc) (key : MaskingKey) (buf : List UInt8) :
    Option (List UInt8) :=
  let isize := buf.length
  let payloadSize := isize + 10
  if isize > UINT16_MAX then none
  else if !malloc.succeeds (rdgWebsocketFullLen payloadSize) then none
  else
    let length :=
      if payloadSize < 126 then [UInt8.ofNat (payloadSize ||| WEBSOCKET_MASK_BIT)]
      else if payloadSize < 0x10000 then
        UInt8.ofNat (126 ||| WEBSOCKET_MASK_BIT) :: bytesBE 2 payloadSize
      else UInt8.ofNat (127 ||| WEBSOCKET_MASK_BIT) :: (bytesBE 4 0 ++ bytesBE 4 payloadSize)
    let maskingKey := key.word
    let header :=
      bytesUInt16 (PKT_TYPE_DATA ^^^ (key.k0.toNat ||| key.k1.toNat <<< 8)) ++
      bytesUInt16 (0 ^^^ (key.k2.toNat ||| key.k3.toNat <<< 8)) ++
      bytesUInt32 (payloadSize ^^^ maskingKey) ++
      bytesUInt16 (isize ^^^ (key.k0.toNat ||| key.k1.toNat <<< 8))
    -- the key is off by two bytes now
    let turned := (maskingKey &&& 0xffff) <<< 16 ||| maskingKey >>> 16
    some (UInt8.ofNat (WEBSOCKET_FIN_BIT ||| WebsocketBinaryOpcode) :: length ++
      bytesUInt32 maskingKey ++ header ++ rdgMaskData turned buf)

/-! ### Frames -/

/-- The length of a masked payload in the shortest of its three forms. -/
def shortestLength (n : Nat) : List UInt8 :=
  if n ≤ 125 then [UInt8.ofNat (0x80 + n)]
  else if n ≤ 0xFFFF then UInt8.ofNat (0x80 + 126) :: bytesBE 2 n
  else UInt8.ofNat (0x80 + 127) :: bytesBE 8 n

/-- A final frame with a masked payload. -/
def maskedFrame (opcode : Nat) (key masked : List UInt8) : List UInt8 :=
  UInt8.ofNat (0x80 + opcode) :: (shortestLength masked.length ++ key ++ masked)

/-- The bytes are one final frame, whose payload is unmasked to the packet. -/
def FramesPacket (opcode : Nat) (key packet frame : List UInt8) : Prop :=
  ∃ masked, frame = maskedFrame opcode key masked ∧ websocketUnmask key masked = packet

lemma bytesBE_add (m n v : Nat) : bytesBE (m + n) v = bytesBE m (v >>> (8 * n)) ++ bytesBE n v := by
  induction m with
  | zero => rw [Nat.zero_add, bytesBE, List.nil_append]
  | succ m ih =>
    rw [Nat.succ_add, bytesBE, bytesBE, ih, List.cons_append, ← Nat.shiftRight_add, Nat.mul_add,
      Nat.add_comm (8 * m)]

/-- Eight bytes of a length that fits into four. -/
lemma bytesBE_eight {n : Nat} (h : n < 2 ^ 32) : bytesBE 8 n = bytesBE 4 0 ++ bytesBE 4 n := by
  have hhigh : n >>> (8 * 4) = 0 := by
    rw [Nat.shiftRight_eq_div_pow, Nat.div_eq_of_lt h]
  rw [show 8 = 4 + 4 from rfl, bytesBE_add, hhigh]

/-- `rdg_write_websocket` makes the frame of the packet. -/
lemma rdgWebsocketFrame_frames {malloc : Malloc} {key : MaskingKey} {packet frame : List UInt8}
    {opcode : Nat} (hopcode : opcode < 0x10)
    (h : rdgWebsocketFrame malloc key packet opcode = some frame) :
    FramesPacket opcode key.bytes packet frame := by
  rw [rdgWebsocketFrame] at h
  dsimp only at h
  split at h
  · cases h
  · rename_i hlen
    split at h
    · cases h
    · refine ⟨rdgWebsocketMask key packet, ?_, websocketUnmask_mask key packet⟩
      have hfirst : WEBSOCKET_FIN_BIT ||| opcode = 0x80 + opcode := by
        rw [show WEBSOCKET_FIN_BIT = WEBSOCKET_MASK_BIT from rfl, Nat.or_comm]
        exact or_mask_bit (by omega)
      have hlong : packet.length < 2 ^ 32 := by
        rw [INT_MAX] at hlen
        omega
      rw [← Option.some.inj h, maskedFrame, hfirst, length_rdgWebsocketMask, shortestLength,
        bytesBE_eight hlong]
      by_cases h126 : packet.length < 126
      · rw [if_pos h126, if_pos (by omega), or_mask_bit (by omega)]
        rfl
      · by_cases h64k : packet.length < 0x10000
        · rw [if_neg h126, if_pos h64k, if_neg (by omega), if_pos (by omega)]
          rfl
        · rw [if_neg h126, if_neg h64k, if_neg (by omega), if_neg (by omega)]
          rfl

lemma exists_rdgWebsocketFrame {malloc : Malloc} {packet : List UInt8} (key : MaskingKey)
    (opcode : Nat) (hlen : packet.length ≤ INT_MAX)
    (hmalloc : malloc.succeeds (rdgWebsocketFullLen packet.length) = true) :
    ∃ frame, rdgWebsocketFrame malloc key packet opcode = some frame := by
  rw [rdgWebsocketFrame]
  dsimp only
  rw [if_neg (by omega), if_neg (by simp [hmalloc])]
  exact ⟨_, rfl⟩

lemma rdgWebsocketFullLen_le_iff {n : Nat} : rdgWebsocketFullLen n ≤ INT_MAX ↔ n + 14 ≤ INT_MAX := by
  rw [rdgWebsocketFullLen, INT_MAX]
  split_ifs <;> omega

/-- What the BIO gets of a frame: all of it, or nothing if its length is negative as an `int`. -/
lemma rdgWriteWebsocket_of_frame {malloc : Malloc} {key : MaskingKey} {packet frame : List UInt8}
    {opcode : Nat} (hlen : packet.length ≤ INT_MAX)
    (h : rdgWebsocketFrame malloc key packet opcode = some frame) :
    rdgWriteWebsocket malloc key packet opcode =
      if packet.length + 14 ≤ INT_MAX then some frame else none := by
  have hfull := length_rdgWebsocketFrame h
  have hlt : rdgWebsocketFullLen packet.length ≤ packet.length + 14 := by
    rw [rdgWebsocketFullLen]
    split_ifs <;> omega
  have hpos : frame ≠ [] := by
    rintro rfl
    rw [List.length_nil, rdgWebsocketFullLen] at hfull
    split_ifs at hfull
  rw [rdgWriteWebsocket, h, Option.bind_some]
  split_ifs with hfits
  · exact bioWriteSize_eq hpos (hfull.trans_le (rdgWebsocketFullLen_le_iff.mpr hfits))
  · refine bioWriteSize_of_gt ?_ ?_
    · rw [hfull]
      exact Nat.not_le.mp (mt rdgWebsocketFullLen_le_iff.mp hfits)
    · rw [INT_MAX] at hlen
      omega

/-! ### Masking by words -/

lemma bytesUInt16_xor (a b : Nat) :
    bytesUInt16 (a ^^^ b) = List.zipWith (· ^^^ ·) (bytesUInt16 a) (bytesUInt16 b) := by
  simp [bytesUInt16, Nat.shiftRight_xor_distrib]

lemma bytesUInt32_xor (a b : Nat) :
    bytesUInt32 (a ^^^ b) = List.zipWith (· ^^^ ·) (bytesUInt32 a) (bytesUInt32 b) := by
  simp [bytesUInt32, Nat.shiftRight_xor_distrib]

/-- A byte put on top of smaller ones is on top again after the shift. -/
lemma or_shiftLeft_shiftRight {low high n : Nat} (h : low < 2 ^ n) :
    (low ||| high <<< n) >>> n = high := by
  rw [Nat.or_comm, shiftLeft_or_eq_add h, Nat.shiftRight_eq_div_pow, Nat.add_comm,
    Nat.add_mul_div_right _ _ (Nat.two_pow_pos n), Nat.div_eq_of_lt h, Nat.zero_add]

lemma ofNat_or_shiftLeft (b : UInt8) {high n : Nat} (hn : 8 ≤ n) :
    UInt8.ofNat (b.toNat ||| high <<< n) = b := by
  apply UInt8.toNat_inj.mp
  have hmod : high <<< n % 2 ^ 8 = 0 := by
    rw [Nat.shiftLeft_eq, show n = n - 8 + 8 by omega, pow_add, ← Nat.mul_assoc, Nat.mul_mod_left]
  rw [UInt8.toNat_ofNat', Nat.or_mod_two_pow, hmod, Nat.or_zero, Nat.mod_eq_of_lt b.toNat_lt]

lemma bytesUInt16_or (b0 b1 : UInt8) : bytesUInt16 (b0.toNat ||| b1.toNat <<< 8) = [b0, b1] := by
  rw [bytesUInt16, ofNat_or_shiftLeft b0 le_rfl, or_shiftLeft_shiftRight b0.toNat_lt,
    UInt8.ofNat_toNat]

/-- The word above a byte. -/
lemma wordOfBytes_eq (b0 b1 b2 b3 : UInt8) :
    wordOfBytes b0 b1 b2 b3 =
      b0.toNat ||| (b1.toNat ||| (b2.toNat ||| b3.toNat <<< 8) <<< 8) <<< 8 := by
  simp only [wordOfBytes, Nat.shiftLeft_or_distrib, ← Nat.shiftLeft_add, Nat.or_assoc]

/-- The bytes of a word in memory. -/
lemma bytesUInt32_wordOfBytes (b0 b1 b2 b3 : UInt8) :
    bytesUInt32 (wordOfBytes b0 b1 b2 b3) = [b0, b1, b2, b3] := by
  have h8 : wordOfBytes b0 b1 b2 b3 >>> 8 = b1.toNat ||| (b2.toNat ||| b3.toNat <<< 8) <<< 8 := by
    rw [wordOfBytes_eq, or_shiftLeft_shiftRight b0.toNat_lt]
  have h16 : wordOfBytes b0 b1 b2 b3 >>> 16 = b2.toNat ||| b3.toNat <<< 8 := by
    rw [show 16 = 8 + 8 from rfl, Nat.shiftRight_add, h8, or_shiftLeft_shiftRight b1.toNat_lt]
  have h24 : wordOfBytes b0 b1 b2 b3 >>> 24 = b3.toNat := by
    rw [show 24 = 16 + 8 from rfl, Nat.shiftRight_add, h16, or_shiftLeft_shiftRight b2.toNat_lt]
  rw [bytesUInt32, h8, h16, h24, ofNat_or_shiftLeft b1 le_rfl, ofNat_or_shiftLeft b2 le_rfl,
    UInt8.ofNat_toNat, wordOfBytes_eq, ofNat_or_shiftLeft b0 le_rfl]

/-- The key turned by two bytes. -/
def MaskingKey.turned (key : MaskingKey) : MaskingKey := ⟨key.k2, key.k3, key.k0, key.k1⟩

lemma word_turned (key : MaskingKey) :
    (key.word &&& 0xffff) <<< 16 ||| key.word >>> 16 = key.turned.word := by
  obtain ⟨k0, k1, k2, k3⟩ := key
  have h0 : k0.toNat < 2 ^ 8 := k0.toNat_lt
  have h1 : k1.toNat < 2 ^ 8 := k1.toNat_lt
  have hlow : k0.toNat ||| k1.toNat <<< 8 < 2 ^ 16 := by
    have hadd : k0.toNat ||| k1.toNat <<< 8 = k1.toNat * 2 ^ 8 + k0.toNat := by
      rw [Nat.or_comm, shiftLeft_or_eq_add h0]
    omega
  have hword : wordOfBytes k0 k1 k2 k3 =
      (k0.toNat ||| k1.toNat <<< 8) ||| (k2.toNat ||| k3.toNat <<< 8) <<< 16 := by
    simp only [wordOfBytes, Nat.shiftLeft_or_distrib, ← Nat.shiftLeft_add, Nat.or_assoc]
  have hmod : wordOfBytes k0 k1 k2 k3 &&& 0xffff = k0.toNat ||| k1.toNat <<< 8 := by
    have hhigh : (k2.toNat ||| k3.toNat <<< 8) <<< 16 % 2 ^ 16 = 0 := by
      rw [Nat.shiftLeft_eq, Nat.mul_mod_left]
    rw [show 0xffff = 2 ^ 16 - 1 from rfl, Nat.and_two_pow_sub_one_eq_mod, hword,
      Nat.or_mod_two_pow, hhigh, Nat.or_zero, Nat.mod_eq_of_lt hlow]
  have hdiv : wordOfBytes k0 k1 k2 k3 >>> 16 = k2.toNat ||| k3.toNat <<< 8 := by
    rw [hword, or_shiftLeft_shiftRight hlow]
  rw [MaskingKey.word, hmod, hdiv, MaskingKey.word, MaskingKey.turned, Nat.or_comm]
  simp only [wordOfBytes, Nat.shiftLeft_or_distrib, ← Nat.shiftLeft_add, Nat.or_assoc,
    Nat.reduceAdd]

/-- Masking byte by byte is what both pairs of loops do. -/
lemma rdgWebsocketMask_eq (key : MaskingKey) (data : List UInt8) :
    rdgWebsocketMask key data = websocketUnmask key.bytes data := by
  induction data using rdgWebsocketMask.induct with
  | case1 b0 b1 b2 b3 data ih =>
    rw [rdgWebsocketMask, ih]
    simp [websocketUnmask, MaskingKey.bytes, Nat.add_assoc]
  | case2 b0 b1 b2 => simp [rdgWebsocketMask, websocketUnmask, MaskingKey.bytes]
  | case3 b0 b1 => simp [rdgWebsocketMask, websocketUnmask, MaskingKey.bytes]
  | case4 b0 => simp [rdgWebsocketMask, websocketUnmask, MaskingKey.bytes]
  | case5 => rfl

lemma rdgMaskData_word (key : MaskingKey) (buf : List UInt8) :
    rdgMaskData key.word buf = websocketUnmask key.bytes buf := by
  induction buf using rdgMaskData.induct with
  | case1 b0 b1 b2 b3 buf ih =>
    rw [rdgMaskData, ih, bytesUInt32_xor, bytesUInt32_wordOfBytes, MaskingKey.word,
      bytesUInt32_wordOfBytes]
    simp [websocketUnmask, MaskingKey.bytes, Nat.add_assoc]
  | case2 buf hbuf =>
    rw [rdgMaskData, MaskingKey.word, bytesUInt32_wordOfBytes]
    · rfl
    · exact hbuf

/-- After ten bytes the key is off by two. -/
lemma websocketUnmask_ten (key : MaskingKey) {header : List UInt8} (h : header.length = 10)
    (buf : List UInt8) :
    websocketUnmask key.bytes (header ++ buf) =
      websocketUnmask key.bytes header ++ websocketUnmask key.turned.bytes buf := by
  rw [websocketUnmask, List.mapIdx_append, h]
  congr 1
  rw [websocketUnmask]
  congr 1
  funext i b
  have hi : i % 4 < 4 := Nat.mod_lt i (by decide)
  have hturn : (i + 10) % 4 = (i % 4 + 2) % 4 := by omega
  rw [hturn]
  interval_cases i % 4 <;> rfl

/-! ### Both writers -/

/-- The fields of the header, masked one by one, are its bytes masked one by one. -/
lemma maskedHeader_eq (key : MaskingKey) (type reserved length size : Nat) :
    bytesUInt16 (type ^^^ (key.k0.toNat ||| key.k1.toNat <<< 8)) ++
      bytesUInt16 (reserved ^^^ (key.k2.toNat ||| key.k3.toNat <<< 8)) ++
      bytesUInt32 (length ^^^ key.word) ++
      bytesUInt16 (size ^^^ (key.k0.toNat ||| key.k1.toNat <<< 8)) =
    websocketUnmask key.bytes
      (bytesUInt16 type ++ bytesUInt16 reserved ++ bytesUInt32 length ++ bytesUInt16 size) := by
  rw [bytesUInt16_xor, bytesUInt16_xor, bytesUInt16_xor, bytesUInt32_xor, bytesUInt16_or,
    bytesUInt16_or, MaskingKey.word, bytesUInt32_wordOfBytes]
  simp [bytesUInt16, bytesUInt32, websocketUnmask, MaskingKey.bytes]

/-- The data packet is never built, and sent as if it had been. -/
lemma rdgWriteWebsocketDataPacket_eq (malloc : Malloc) (key : MaskingKey) {buf : List UInt8}
    (h : buf.length ≤ 65535) :
    rdgWriteWebsocketDataPacket malloc key buf =
      rdgWriteWebsocket malloc key (dataPacket buf) WebsocketBinaryOpcode := by
  have hlen : (dataPacket buf).length = buf.length + 10 := by
    simp [dataPacket, bytesUInt16, bytesUInt32]
  have hkey : bytesUInt32 key.word = key.bytes := by
    rw [MaskingKey.word, bytesUInt32_wordOfBytes, MaskingKey.bytes]
  have hmask : rdgWebsocketMask key (dataPacket buf) =
      websocketUnmask key.bytes (bytesUInt16 PKT_TYPE_DATA ++ bytesUInt16 0 ++
        bytesUInt32 (buf.length + 10) ++ bytesUInt16 buf.length) ++
      websocketUnmask key.turned.bytes buf := by
    rw [rdgWebsocketMask_eq, dataPacket, websocketUnmask_ten key rfl]
  have hsize : ¬ buf.length > UINT16_MAX := by
    rw [UINT16_MAX]
    omega
  have hpayload : ¬ buf.length + 10 > INT_MAX := by
    rw [INT_MAX]
    omega
  have hframe : rdgWriteWebsocketDataPacket malloc key buf =
      rdgWebsocketFrame malloc key (dataPacket buf) WebsocketBinaryOpcode := by
    rw [rdgWriteWebsocketDataPacket, rdgWebsocketFrame, hlen, hmask]
    dsimp only
    rw [if_neg hsize, if_neg hpayload, hkey, maskedHeader_eq, word_turned, rdgMaskData_word,
      ← List.append_assoc]
  rw [hframe]
  cases hwrite : rdgWebsocketFrame malloc key (dataPacket buf) WebsocketBinaryOpcode with
  | none => rw [rdgWriteWebsocket, hwrite, Option.bind_none]
  | some frame =>
    have hfits : (dataPacket buf).length + 14 ≤ INT_MAX := by
      rw [hlen, INT_MAX]
      omega
    rw [rdgWriteWebsocket_of_frame (by omega) hwrite, if_pos hfits]

/-- What `rdg_write_websocket` hands to the BIO is the shortest final masked frame of the packet, as
long as was computed, just when this length is an `int`. Data is sent as the frame of its data
packet. -/
theorem rdgWriteWebsocket_framing_iff (malloc : Malloc) (key : MaskingKey) :
    (∀ packet opcode, packet.length ≤ INT_MAX → opcode < 0x10 →
      malloc.succeeds (rdgWebsocketFullLen packet.length) = true →
      ((∃ frame, rdgWriteWebsocket malloc key packet opcode = some frame ∧
          FramesPacket opcode key.bytes packet frame ∧
          frame.length = rdgWebsocketFullLen packet.length) ↔ packet.length + 14 ≤ INT_MAX)) ∧
    ∀ buf : List UInt8, buf.length ≤ 65535 →
      rdgWriteWebsocketDataPacket malloc key buf =
        rdgWriteWebsocket malloc key (dataPacket buf) WebsocketBinaryOpcode := by
  constructor
  · intro packet opcode hlen hopcode hmalloc
    obtain ⟨frame, hframe⟩ := exists_rdgWebsocketFrame key opcode hlen hmalloc
    rw [rdgWriteWebsocket_of_frame hlen hframe]
    constructor
    · rintro ⟨frame', hwrite, -⟩
      by_contra hlong
      rw [if_neg hlong] at hwrite
      cases hwrite
    · intro hfits
      exact ⟨frame, if_pos hfits, rdgWebsocketFrame_frames hopcode hframe,
        length_rdgWebsocketFrame hframe⟩
  · intro buf hbuf
    exact rdgWriteWebsocketDataPacket_eq malloc key hbuf

theorem rdgWriteWebsocket_framing_iff_short :
    ∃ frame, rdgWriteWebsocket mallocAll ⟨1, 2, 3, 4⟩ [5, 6, 7, 8, 9] WebsocketBinaryOpcode =
        some frame ∧
      FramesPacket WebsocketBinaryOpcode [1, 2, 3, 4] [5, 6, 7, 8, 9] frame ∧
      frame.length = 11 :=
  ((rdgWriteWebsocket_framing_iff mallocAll ⟨1, 2, 3, 4⟩).1 [5, 6, 7, 8, 9] WebsocketBinaryOpcode
    (by decide) (by decide) (by decide)).mpr (by decide)

/-- Of the longest packet that is not refused, no byte is written. -/
theorem rdgWriteWebsocket_longest :
    (List.replicate INT_MAX (0 : UInt8)).length ≤ INT_MAX ∧
      mallocAll.succeeds (rdgWebsocketFullLen (List.replicate INT_MAX (0 : UInt8)).length) = true ∧
      rdgWriteWebsocket mallocAll ⟨1, 2, 3, 4⟩ (List.replicate INT_MAX 0)
        WebsocketBinaryOpcode = none := by
  have hlen : (List.replicate INT_MAX (0 : UInt8)).length = INT_MAX := List.length_replicate
  have hmalloc : mallocAll.succeeds (rdgWebsocketFullLen INT_MAX) = true := by decide
  refine ⟨hlen.le, by rw [hlen, hmalloc], ?_⟩
  obtain ⟨frame, hframe⟩ := @exists_rdgWebsocketFrame mallocAll _ ⟨1, 2, 3, 4⟩
    WebsocketBinaryOpcode hlen.le (by rw [hlen, hmalloc])
  rw [rdgWriteWebsocket_of_frame hlen.le hframe, hlen, if_neg (by omega)]

end FreeRdp
