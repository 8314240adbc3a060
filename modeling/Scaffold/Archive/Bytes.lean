/-! # Fields of binary files

Bytes by their position, slices, and little-endian words. What lies beyond the end has no bytes.
-/

namespace Scaffold.Archive

/-- The byte at a position; zero beyond the end. -/
def byteAt (data : ByteArray) (position : Nat) : Nat :=
  if inside : position < data.size then data[position].toNat else 0

/-- The bytes from a position on, as far as there are any. -/
def slice (data : ByteArray) (position length : Nat) : ByteArray :=
  data.extract position (position + length)

/-- The bytes from a position on, if all of them are there. -/
def slice? (data : ByteArray) (position length : Nat) : Option ByteArray :=
  if position + length ≤ data.size then some (slice data position length) else none

/-- Two bytes as a number, the lower one first. -/
def word16 (data : ByteArray) (position : Nat) : Nat :=
  byteAt data position + 256 * byteAt data (position + 1)

/-- Four bytes as a number, the lowest one first. -/
def word32 (data : ByteArray) (position : Nat) : Nat :=
  word16 data position + 65536 * word16 data (position + 2)

/-- Eight bytes as a number, the lowest one first. -/
def word64 (data : ByteArray) (position : Nat) : Nat :=
  word32 data position + 0x100000000 * word32 data (position + 4)

/-- Whether some bytes stand at a position. -/
def hasAt (data : ByteArray) (position : Nat) (bytes : List Nat) : Bool :=
  position + bytes.length ≤ data.size &&
    bytes.zipIdx.all fun (byte, index) => byteAt data (position + index) = byte

/-- The bytes of an ASCII text. -/
def ascii (text : String) : List Nat := text.toList.map Char.toNat

end Scaffold.Archive
