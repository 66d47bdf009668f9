import FreeRdp.Winpr.Stream

/-!
# Numbers in memory

The little-endian reads of `winpr/endian.h`.
-/

namespace FreeRdp

/-- `Data_Read_UINT16`. -/
def dataReadUInt16 (memory : Nat → UInt8) (a : Nat) : Nat :=
  (memory a).toNat + (memory (a + 1)).toNat <<< 8

/-- `Data_Read_UINT32`. -/
def dataReadUInt32 (memory : Nat → UInt8) (a : Nat) : Nat :=
  dataReadUInt16 memory a + dataReadUInt16 memory (a + 2) <<< 16

end FreeRdp
