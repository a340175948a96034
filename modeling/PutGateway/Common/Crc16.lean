import Mathlib.Data.UInt
/-!
# CRC-16/CCITT-FALSE

`common/src/crc16.c`: the checksum of descriptors, CAN messages and
route tables. Sixteen bits, initial value `0xFFFF`, polynomial `0x1021`,
most significant bit first.
-/

namespace PutGateway

/-- One shift of the register. -/
def crcShift (crc : UInt16) : UInt16 :=
  if crc &&& 0x8000 ≠ 0 then (crc <<< 1) ^^^ 0x1021 else crc <<< 1

/-- Feed one byte: eight shifts after folding it into the top half. -/
def crcByte (crc : UInt16) (byte : UInt8) : UInt16 :=
  crcShift^[8] (crc ^^^ (byte.toUInt16 <<< 8))

/-- `unified_crc16_ccitt_false`. -/
def unifiedCrc16CcittFalse (data : List UInt8) : UInt16 := data.foldl crcByte 0xFFFF

/-- The low byte first, as both cores store a 16-bit field. -/
def le16 (x : UInt16) : List UInt8 := [x.toUInt8, (x >>> 8).toUInt8]

/-- The low byte first, as both cores store a 32-bit field. -/
def le32 (x : UInt32) : List UInt8 :=
  [x.toUInt8, (x >>> 8).toUInt8, (x >>> 16).toUInt8, (x >>> 24).toUInt8]

/-- The check value of the CRC-16/CCITT-FALSE parameter set. -/
example : unifiedCrc16CcittFalse [0x31, 0x32, 0x33, 0x34, 0x35, 0x36, 0x37, 0x38, 0x39] = 0x29B1 := by
  decide +kernel

end PutGateway
