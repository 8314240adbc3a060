/-! # Checksums

The cyclic redundancy check of 32 bits by which archives protect their contents.
-/

namespace Scaffold.Archive

/-- One bit of the division by the polynomial. -/
def checksumBit (state : UInt32) : UInt32 :=
  if state &&& 1 = 1 then (state >>> 1) ^^^ 0xEDB88320 else state >>> 1

/-- Take one byte into a checksum. -/
def checksumByte (state : UInt32) (byte : UInt8) : UInt32 :=
  Nat.repeat checksumBit 8 (state ^^^ byte.toUInt32)

/-- The checksum of some bytes. -/
def checksum (data : ByteArray) : Nat :=
  ((data.foldl checksumByte 0xFFFFFFFF) ^^^ 0xFFFFFFFF).toNat

end Scaffold.Archive
