import FreeRdp.Winpr.BitStream
import FreeRdp.Library.Copy

/-!
# MPPC

The bulk compressor of RDP 4 and RDP 5, `mppc.c`. Both ends keep a history buffer. The compressor
looks the next three bytes up in a table of places where they were seen before and sends either a
literal or a reference into the history; the decompressor repeats the copy.

The buffers are functions from indices to cells. Pointers into the history are indices.
-/

namespace FreeRdp

def PACKET_COMPRESSED : Nat := 0x20
def PACKET_AT_FRONT : Nat := 0x40
def PACKET_FLUSHED : Nat := 0x80

/-- The two compression levels: the 8K history of RDP 4 and the 64K history of RDP 5. -/
inductive MppcLevel where
  | rdp4 | rdp5
  deriving DecidableEq, Repr

namespace MppcLevel

/-- `CompressionLevel`. -/
def code : MppcLevel → Nat
  | rdp4 => 0
  | rdp5 => 1

/-- `HistoryBufferSize`. -/
def historyBufferSize : MppcLevel → Nat
  | rdp4 => 8192
  | rdp5 => 65536

end MppcLevel

/-- `MPPC_CONTEXT`; the bit stream is attached anew by every call. -/
structure MppcContext where
  historyPtr : Nat
  historyOffset : Nat
  historyBuffer : Nat → UInt8
  matchBuffer : Nat → Nat
  compressionLevel : MppcLevel

/-- `HistoryBufferSize` of a context. -/
def MppcContext.historyBufferSize (mppc : MppcContext) : Nat :=
  mppc.compressionLevel.historyBufferSize

/-- `mppc_context_reset`. -/
def mppcContextReset (mppc : MppcContext) (flush : Bool) : MppcContext :=
  { mppc with
    historyBuffer := fun _ => 0
    matchBuffer := fun _ => 0
    historyOffset := if flush then mppc.historyBufferSize + 1 else 0
    historyPtr := 0 }

/-- `mppc_context_new`. -/
def mppcContextNew (compressionLevel : Nat) : MppcContext :=
  mppcContextReset
    ⟨0, 0, fun _ => 0, fun _ => 0, if compressionLevel < 1 then .rdp4 else .rdp5⟩ false

def MPPC_MATCH_TABLE : List Nat := [
  0x00000000, 0x009CCF93, 0x01399F26, 0x01D66EB9, 0x02733E4C, 0x03100DDF, 0x03ACDD72, 0x0449AD05,
  0x04E67C98, 0x05834C2B, 0x06201BBE, 0x06BCEB51, 0x0759BAE4, 0x07F68A77, 0x08935A0A, 0x0930299D,
  0x09CCF930, 0x0A69C8C3, 0x0B069856, 0x0BA367E9, 0x0C40377C, 0x0CDD070F, 0x0D79D6A2, 0x0E16A635,
  0x0EB375C8, 0x0F50455B, 0x0FED14EE, 0x1089E481, 0x1126B414, 0x11C383A7, 0x1260533A, 0x12FD22CD,
  0x1399F260, 0x1436C1F3, 0x14D39186, 0x15706119, 0x160D30AC, 0x16AA003F, 0x1746CFD2, 0x17E39F65,
  0x18806EF8, 0x191D3E8B, 0x19BA0E1E, 0x1A56DDB1, 0x1AF3AD44, 0x1B907CD7, 0x1C2D4C6A, 0x1CCA1BFD,
  0x1D66EB90, 0x1E03BB23, 0x1EA08AB6, 0x1F3D5A49, 0x1FDA29DC, 0x2076F96F, 0x2113C902, 0x21B09895,
  0x224D6828, 0x22EA37BB, 0x2387074E, 0x2423D6E1, 0x24C0A674, 0x255D7607, 0x25FA459A, 0x2697152D,
  0x2733E4C0, 0x27D0B453, 0x286D83E6, 0x290A5379, 0x29A7230C, 0x2A43F29F, 0x2AE0C232, 0x2B7D91C5,
  0x2C1A6158, 0x2CB730EB, 0x2D54007E, 0x2DF0D011, 0x2E8D9FA4, 0x2F2A6F37, 0x2FC73ECA, 0x30640E5D,
  0x3100DDF0, 0x319DAD83, 0x323A7D16, 0x32D74CA9, 0x33741C3C, 0x3410EBCF, 0x34ADBB62, 0x354A8AF5,
  0x35E75A88, 0x36842A1B, 0x3720F9AE, 0x37BDC941, 0x385A98D4, 0x38F76867, 0x399437FA, 0x3A31078D,
  0x3ACDD720, 0x3B6AA6B3, 0x3C077646, 0x3CA445D9, 0x3D41156C, 0x3DDDE4FF, 0x3E7AB492, 0x3F178425,
  0x3FB453B8, 0x4051234B, 0x40EDF2DE, 0x418AC271, 0x42279204, 0x42C46197, 0x4361312A, 0x43FE00BD,
  0x449AD050, 0x45379FE3, 0x45D46F76, 0x46713F09, 0x470E0E9C, 0x47AADE2F, 0x4847ADC2, 0x48E47D55,
  0x49814CE8, 0x4A1E1C7B, 0x4ABAEC0E, 0x4B57BBA1, 0x4BF48B34, 0x4C915AC7, 0x4D2E2A5A, 0x4DCAF9ED,
  0x4E67C980, 0x4F049913, 0x4FA168A6, 0x503E3839, 0x50DB07CC, 0x5177D75F, 0x5214A6F2, 0x52B17685,
  0x534E4618, 0x53EB15AB, 0x5487E53E, 0x5524B4D1, 0x55C18464, 0x565E53F7, 0x56FB238A, 0x5797F31D,
  0x5834C2B0, 0x58D19243, 0x596E61D6, 0x5A0B3169, 0x5AA800FC, 0x5B44D08F, 0x5BE1A022, 0x5C7E6FB5,
  0x5D1B3F48, 0x5DB80EDB, 0x5E54DE6E, 0x5EF1AE01, 0x5F8E7D94, 0x602B4D27, 0x60C81CBA, 0x6164EC4D,
  0x6201BBE0, 0x629E8B73, 0x633B5B06, 0x63D82A99, 0x6474FA2C, 0x6511C9BF, 0x65AE9952, 0x664B68E5,
  0x66E83878, 0x6785080B, 0x6821D79E, 0x68BEA731, 0x695B76C4, 0x69F84657, 0x6A9515EA, 0x6B31E57D,
  0x6BCEB510, 0x6C6B84A3, 0x6D085436, 0x6DA523C9, 0x6E41F35C, 0x6EDEC2EF, 0x6F7B9282, 0x70186215,
  0x70B531A8, 0x7152013B, 0x71EED0CE, 0x728BA061, 0x73286FF4, 0x73C53F87, 0x74620F1A, 0x74FEDEAD,
  0x759BAE40, 0x76387DD3, 0x76D54D66, 0x77721CF9, 0x780EEC8C, 0x78ABBC1F, 0x79488BB2, 0x79E55B45,
  0x7A822AD8, 0x7B1EFA6B, 0x7BBBC9FE, 0x7C589991, 0x7CF56924, 0x7D9238B7, 0x7E2F084A, 0x7ECBD7DD,
  0x7F68A770, 0x80057703, 0x80A24696, 0x813F1629, 0x81DBE5BC, 0x8278B54F, 0x831584E2, 0x83B25475,
  0x844F2408, 0x84EBF39B, 0x8588C32E, 0x862592C1, 0x86C26254, 0x875F31E7, 0x87FC017A, 0x8898D10D,
  0x8935A0A0, 0x89D27033, 0x8A6F3FC6, 0x8B0C0F59, 0x8BA8DEEC, 0x8C45AE7F, 0x8CE27E12, 0x8D7F4DA5,
  0x8E1C1D38, 0x8EB8ECCB, 0x8F55BC5E, 0x8FF28BF1, 0x908F5B84, 0x912C2B17, 0x91C8FAAA, 0x9265CA3D,
  0x930299D0, 0x939F6963, 0x943C38F6, 0x94D90889, 0x9575D81C, 0x9612A7AF, 0x96AF7742, 0x974C46D5,
  0x97E91668, 0x9885E5FB, 0x9922B58E, 0x99BF8521, 0x9A5C54B4, 0x9AF92447, 0x9B95F3DA, 0x9C32C36D]

/-- `MPPC_MATCH_INDEX`. -/
def mppcMatchIndex (sym1 sym2 sym3 : UInt8) : Nat :=
  ((MPPC_MATCH_TABLE.getD sym3.toNat 0 <<< 16 + MPPC_MATCH_TABLE.getD sym2.toNat 0 <<< 8 +
    MPPC_MATCH_TABLE.getD sym1.toNat 0) % 2 ^ 32 &&& 0x07FFF000) >>> 12

/-! ### The codes

A code is a number with its width in bits; a decoder gets the accumulator of the bit stream, with
the code at its top, and returns the value with the width to shift out. -/

/-- The code of a literal. -/
def mppcLiteralCode (sym : UInt8) : Nat × Nat :=
  if sym.toNat < 0x80 then (sym.toNat, 8) else (0x100 ||| (sym.toNat &&& 0x7F), 9)

/-- The code of `CopyOffset`; an offset out of range is not written. -/
def mppcCopyOffsetCode (level : MppcLevel) (copyOffset : Nat) : Option (Nat × Nat) :=
  match level with
  | .rdp5 =>
    if copyOffset < 64 then some (0x07C0 ||| (copyOffset &&& 0x003F), 11)
    else if copyOffset ≥ 64 ∧ copyOffset < 320 then
      some (0x1E00 ||| (copyOffset - 64 &&& 0x00FF), 13)
    else if copyOffset ≥ 320 ∧ copyOffset < 2368 then
      some (0x7000 ||| (copyOffset - 320 &&& 0x07FF), 15)
    else some (0x060000 ||| (copyOffset - 2368 &&& 0xFFFF), 19)
  | .rdp4 =>
    if copyOffset < 64 then some (0x03C0 ||| (copyOffset &&& 0x003F), 10)
    else if copyOffset ≥ 64 ∧ copyOffset < 320 then
      some (0x0E00 ||| (copyOffset - 64 &&& 0x00FF), 12)
    else if copyOffset ≥ 320 ∧ copyOffset < 8192 then
      some (0xC000 ||| (copyOffset - 320 &&& 0x1FFF), 16)
    else none

/-- The code of `LengthOfMatch`; a length out of range is not written. -/
def mppcLengthCode (level : MppcLevel) (len : Nat) : Option (Nat × Nat) :=
  if len = 3 then some (0, 1)
  else if len ≥ 4 ∧ len < 8 then some (0x0008 ||| (len &&& 0x0003), 4)
  else if len ≥ 8 ∧ len < 16 then some (0x0030 ||| (len &&& 0x0007), 6)
  else if len ≥ 16 ∧ len < 32 then some (0x00E0 ||| (len &&& 0x000F), 8)
  else if len ≥ 32 ∧ len < 64 then some (0x03C0 ||| (len &&& 0x001F), 10)
  else if len ≥ 64 ∧ len < 128 then some (0x0F80 ||| (len &&& 0x003F), 12)
  else if len ≥ 128 ∧ len < 256 then some (0x3F00 ||| (len &&& 0x007F), 14)
  else if len ≥ 256 ∧ len < 512 then some (0xFE00 ||| (len &&& 0x00FF), 16)
  else if len ≥ 512 ∧ len < 1024 then some (0x3FC00 ||| (len &&& 0x01FF), 18)
  else if len ≥ 1024 ∧ len < 2048 then some (0xFF800 ||| (len &&& 0x03FF), 20)
  else if len ≥ 2048 ∧ len < 4096 then some (0x3FF000 ||| (len &&& 0x07FF), 22)
  else if len ≥ 4096 ∧ len < 8192 then some (0xFFE000 ||| (len &&& 0x0FFF), 24)
  else if (len ≥ 8192 ∧ len < 16384) ∧ level = .rdp5 then
    some (0x3FFC000 ||| (len &&& 0x1FFF), 26)
  else if (len ≥ 16384 ∧ len < 32768) ∧ level = .rdp5 then
    some (0xFFF8000 ||| (len &&& 0x3FFF), 28)
  else if (len ≥ 32768 ∧ len < 65536) ∧ level = .rdp5 then
    some (0x3FFF0000 ||| (len &&& 0x7FFF), 30)
  else none

/-- Reading a literal; `none` when a match starts here. -/
def mppcReadLiteral (accumulator : Nat) : Option (UInt8 × Nat) :=
  if accumulator &&& 0x80000000 = 0x00000000 then
    some (UInt8.ofNat ((accumulator &&& 0x7F000000) >>> 24), 8)
  else if accumulator &&& 0xC0000000 = 0x80000000 then
    some (UInt8.ofNat ((accumulator &&& 0x3F800000) >>> 23 + 0x80), 9)
  else none

/-- Reading `CopyOffset`; the errors are -1001 and -1002. -/
def mppcReadCopyOffset (level : MppcLevel) (accumulator : Nat) : Except Int (Nat × Nat) :=
  match level with
  | .rdp5 =>
    if accumulator &&& 0xF8000000 = 0xF8000000 then .ok (accumulator >>> 21 &&& 0x3F, 11)
    else if accumulator &&& 0xF8000000 = 0xF0000000 then
      .ok ((accumulator >>> 19 &&& 0xFF) + 64, 13)
    else if accumulator &&& 0xF0000000 = 0xE0000000 then
      .ok ((accumulator >>> 17 &&& 0x7FF) + 320, 15)
    else if accumulator &&& 0xE0000000 = 0xC0000000 then
      .ok ((accumulator >>> 13 &&& 0xFFFF) + 2368, 19)
    else .error (-1001)
  | .rdp4 =>
    if accumulator &&& 0xF0000000 = 0xF0000000 then .ok (accumulator >>> 22 &&& 0x3F, 10)
    else if accumulator &&& 0xF0000000 = 0xE0000000 then
      .ok ((accumulator >>> 20 &&& 0xFF) + 64, 12)
    else if accumulator &&& 0xE0000000 = 0xC0000000 then
      .ok ((accumulator >>> 16 &&& 0x1FFF) + 320, 16)
    else .error (-1002)

/-- Reading `LengthOfMatch`. -/
def mppcReadLength (level : MppcLevel) (accumulator : Nat) : Except Int (Nat × Nat) :=
  if accumulator &&& 0x80000000 = 0x00000000 then .ok (3, 1)
  else if accumulator &&& 0xC0000000 = 0x80000000 then
    .ok ((accumulator >>> 28 &&& 0x0003) + 0x0004, 4)
  else if accumulator &&& 0xE0000000 = 0xC0000000 then
    .ok ((accumulator >>> 26 &&& 0x0007) + 0x0008, 6)
  else if accumulator &&& 0xF0000000 = 0xE0000000 then
    .ok ((accumulator >>> 24 &&& 0x000F) + 0x0010, 8)
  else if accumulator &&& 0xF8000000 = 0xF0000000 then
    .ok ((accumulator >>> 22 &&& 0x001F) + 0x0020, 10)
  else if accumulator &&& 0xFC000000 = 0xF8000000 then
    .ok ((accumulator >>> 20 &&& 0x003F) + 0x0040, 12)
  else if accumulator &&& 0xFE000000 = 0xFC000000 then
    .ok ((accumulator >>> 18 &&& 0x007F) + 0x0080, 14)
  else if accumulator &&& 0xFF000000 = 0xFE000000 then
    .ok ((accumulator >>> 16 &&& 0x00FF) + 0x0100, 16)
  else if accumulator &&& 0xFF800000 = 0xFF000000 then
    .ok ((accumulator >>> 14 &&& 0x01FF) + 0x0200, 18)
  else if accumulator &&& 0xFFC00000 = 0xFF800000 then
    .ok ((accumulator >>> 12 &&& 0x03FF) + 0x0400, 20)
  else if accumulator &&& 0xFFE00000 = 0xFFC00000 then
    .ok ((accumulator >>> 10 &&& 0x07FF) + 0x0800, 22)
  else if accumulator &&& 0xFFF00000 = 0xFFE00000 then
    .ok ((accumulator >>> 8 &&& 0x0FFF) + 0x1000, 24)
  else if accumulator &&& 0xFFF80000 = 0xFFF00000 ∧ level = .rdp5 then
    .ok ((accumulator >>> 6 &&& 0x1FFF) + 0x2000, 26)
  else if accumulator &&& 0xFFFC0000 = 0xFFF80000 ∧ level = .rdp5 then
    .ok ((accumulator >>> 4 &&& 0x3FFF) + 0x4000, 28)
  else if accumulator &&& 0xFFFE0000 = 0xFFFC0000 ∧ level = .rdp5 then
    .ok ((accumulator >>> 2 &&& 0x7FFF) + 0x8000, 30)
  else .error (-1003)

/-- A difference of two pointers into the history, taken modulo its size by a mask. -/
def mppcMaskOffset (level : MppcLevel) (a b : Nat) : Nat :=
  (((a : Int) - b) % level.historyBufferSize).toNat

/-! ### Compression -/

/-- The state of the loops in `mppc_compress`: the bit stream, the context, and the local
`HistoryPtr`. -/
structure MppcEncoder where
  bs : WBitStream
  mppc : MppcContext
  historyPtr : Nat

/-- Writing a code that may be missing. -/
def mppcWriteCode (bs : WBitStream) : Option (Nat × Nat) → WBitStream
  | none => bs
  | some (code, nbits) => bs.writeBits code nbits

/-- The loop that extends a match, with `limit` for `mppc->HistoryPtr`: the rest of the source,
the history, `HistoryPtr` and `LengthOfMatch`. The last byte of the source is never taken. -/
def mppcExtendMatch (limit : Nat) :
    List UInt8 → (Nat → UInt8) → Nat → Nat → Nat → List UInt8 × (Nat → UInt8) × Nat × Nat
  | [], history, historyPtr, _, len => ([], history, historyPtr, len)
  | sym :: rest, history, historyPtr, matchPtr, len =>
    if sym = history matchPtr ∧ rest ≠ [] ∧ matchPtr ≤ limit then
      mppcExtendMatch limit rest (Function.update history historyPtr sym) (historyPtr + 1)
        (matchPtr + 1) (len + 1)
    else (sym :: rest, history, historyPtr, len)

/-- `DstSize - 1`. -/
def mppcDstLimit (dstSize : Nat) : Nat := (dstSize + 2 ^ 32 - 1) % 2 ^ 32

/-- One round of the main loop, with the three symbols at the source pointer and the bytes after
them. `none` means that the output may not fit and the packet is flushed. -/
def mppcEncodeSymbol (dstSize : Nat) (e : MppcEncoder) (sym1 sym2 sym3 : UInt8)
    (tail : List UInt8) : Option (MppcEncoder × List UInt8) :=
  let level := e.mppc.compressionLevel
  let history := Function.update e.mppc.historyBuffer e.historyPtr sym1
  let historyPtr := e.historyPtr + 1
  let matchIndex := mppcMatchIndex sym1 sym2 sym3
  let matchPtr := e.mppc.matchBuffer matchIndex
  let matchBuffer := if matchPtr ≠ historyPtr - 1 then
    Function.update e.mppc.matchBuffer matchIndex (historyPtr % 2 ^ 16) else e.mppc.matchBuffer
  let limit := if e.mppc.historyPtr < historyPtr then historyPtr else e.mppc.historyPtr
  -- for `matchPtr = 0` the source reads the byte before the buffer, and ignores it
  if sym1 ≠ history (matchPtr - 1) ∨ sym2 ≠ history matchPtr ∨ sym3 ≠ history (matchPtr + 1) ∨
      matchPtr + 1 > limit ∨ matchPtr = 0 ∨ matchPtr = historyPtr - 1 ∨ matchPtr = historyPtr then
    if e.bs.position / 8 + 2 > mppcDstLimit dstSize then none
    else
      some (⟨mppcWriteCode e.bs (mppcLiteralCode sym1),
        { e.mppc with historyBuffer := history, matchBuffer := matchBuffer, historyPtr := limit },
        historyPtr⟩, sym2 :: sym3 :: tail)
  else
    let copyOffset := mppcMaskOffset level historyPtr matchPtr
    let history := Function.update history historyPtr sym2
    let history := Function.update history (historyPtr + 1) sym3
    let (rest, history, historyPtr, len) :=
      mppcExtendMatch limit tail history (historyPtr + 2) (matchPtr + 2) 3
    if e.bs.position / 8 + 7 > mppcDstLimit dstSize then none
    else
      some (⟨mppcWriteCode (mppcWriteCode e.bs (mppcCopyOffsetCode level copyOffset))
          (mppcLengthCode level len),
        { e.mppc with historyBuffer := history, matchBuffer := matchBuffer, historyPtr := limit },
        historyPtr⟩, rest)

/-- The main loop, which runs while more than three bytes are left; `fuel` bounds the rounds. -/
def mppcEncodeLoop (dstSize : Nat) :
    Nat → MppcEncoder → List UInt8 → Option (MppcEncoder × List UInt8)
  | fuel + 1, e, sym1 :: sym2 :: sym3 :: sym4 :: tail =>
    match mppcEncodeSymbol dstSize e sym1 sym2 sym3 (sym4 :: tail) with
    | none => none
    | some (e, rest) => mppcEncodeLoop dstSize fuel e rest
  | _, e, rest => some (e, rest)

/-- The trailing symbols, encoded as literals. -/
def mppcEncodeTrailing (dstSize : Nat) : MppcEncoder → List UInt8 → Option MppcEncoder
  | e, [] => some e
  | e, sym :: rest =>
    if e.bs.position / 8 + 2 > mppcDstLimit dstSize then none
    else
      mppcEncodeTrailing dstSize ⟨mppcWriteCode e.bs (mppcLiteralCode sym),
        { e.mppc with
          historyBuffer := Function.update e.mppc.historyBuffer e.historyPtr sym },
        e.historyPtr + 1⟩ rest

/-- Both loops. -/
def mppcEncode (dstSize : Nat) (e : MppcEncoder) (src : List UInt8) : Option MppcEncoder :=
  match mppcEncodeLoop dstSize src.length e src with
  | none => none
  | some (e, rest) => mppcEncodeTrailing dstSize e rest

/-- `mppc_compress` into the buffer `dst`: the output, the flags and the context. -/
def mppcCompress (mppc : MppcContext) (src dst : List UInt8) :
    List UInt8 × Nat × MppcContext :=
  let level := mppc.compressionLevel
  let packetAtFront : Bool :=
    ¬(mppc.historyOffset + src.length < mppc.historyBufferSize - 3 ∧ mppc.historyOffset ≠ 0)
  let packetFlushed : Bool := packetAtFront && mppc.historyOffset = mppc.historyBufferSize + 1
  let historyOffset := if packetAtFront then 0 else mppc.historyOffset
  let dstSize := if dst.length > src.length then src.length else dst.length
  match mppcEncode dstSize ⟨WBitStream.attach (dst.take dstSize), mppc, historyOffset⟩ src with
  | none => (src, PACKET_FLUSHED ||| level.code, mppcContextReset mppc true)
  | some e =>
    (e.bs.flush.buffer.take ((e.bs.position + 7) / 8),
      PACKET_COMPRESSED ||| level.code ||| (if packetAtFront then PACKET_AT_FRONT else 0) |||
        (if packetFlushed then PACKET_FLUSHED else 0),
      { e.mppc with historyPtr := e.historyPtr, historyOffset := e.historyPtr })

/-! ### Decompression -/

/-- One round of the loop in `mppc_decompress`: the bit stream, the history and `HistoryPtr`. -/
def mppcDecompressSymbol (level : MppcLevel) (bs : WBitStream) (history : Nat → UInt8)
    (historyPtr : Nat) : Except Int (WBitStream × (Nat → UInt8) × Nat) :=
  if historyPtr > level.historyBufferSize - 1 then .error (-1004)
  else
    match mppcReadLiteral bs.accumulator with
    | some (literal, nbits) =>
      .ok (bs.shift nbits, Function.update history historyPtr literal, historyPtr + 1)
    | none => do
      let (copyOffset, nbits) ← mppcReadCopyOffset level bs.accumulator
      let bs := bs.shift nbits
      let (len, nbits) ← mppcReadLength level bs.accumulator
      let bs := bs.shift nbits
      if historyPtr + len - 1 > level.historyBufferSize - 1 then .error (-1005)
      else
        .ok (bs, copyCells history (mppcMaskOffset level historyPtr copyOffset) historyPtr len,
          historyPtr + len)

/-- The loop of `mppc_decompress`: `HistoryPtr` or an error, and the history. Every round moves
`HistoryPtr`, which is checked against the end of the history; `fuel` is never used up. -/
def mppcDecompressLoop (level : MppcLevel) :
    Nat → WBitStream → (Nat → UInt8) → Nat → Except Int Nat × (Nat → UInt8)
  | 0, _, history, historyPtr => (.ok historyPtr, history)
  | fuel + 1, bs, history, historyPtr =>
    if bs.remainingLength ≥ 8 then
      match mppcDecompressSymbol level bs history historyPtr with
      | .error e => (.error e, history)
      | .ok (bs, history, historyPtr) => mppcDecompressLoop level fuel bs history historyPtr
    else (.ok historyPtr, history)

/-- The start of `mppc_decompress`: what the flags of a packet do to the history. -/
def mppcApplyFlags (mppc : MppcContext) (flags : Nat) : MppcContext :=
  let mppc := if flags &&& PACKET_AT_FRONT ≠ 0 then
    { mppc with historyOffset := 0, historyPtr := 0 } else mppc
  if flags &&& PACKET_FLUSHED ≠ 0 then
    { mppc with
      historyOffset := 0
      historyPtr := 0
      historyBuffer := fun i => if i < mppc.historyBufferSize then 0 else mppc.historyBuffer i }
  else mppc

/-- `mppc_decompress`: the data or a negative status, and the context. -/
def mppcDecompress (mppc : MppcContext) (src : List UInt8) (flags : Nat) :
    Except Int (List UInt8) × MppcContext :=
  let mppc := mppcApplyFlags mppc flags
  if flags &&& PACKET_COMPRESSED = 0 then (.ok src, mppc)
  else
    match mppcDecompressLoop mppc.compressionLevel (mppc.historyBufferSize + 1)
      (WBitStream.attach src).fetch mppc.historyBuffer mppc.historyPtr with
    | (.error e, history) => (.error e, { mppc with historyBuffer := history })
    | (.ok historyPtr, history) =>
      (.ok (readList history mppc.historyPtr (historyPtr - mppc.historyPtr)),
        { mppc with historyBuffer := history, historyPtr := historyPtr })

end FreeRdp
