import Scaffold.Archive.Checksum
import Scaffold.Archive.Inflate

/-! # Compressed streams

A stream is what can be read one byte after another, and then either ends or fails. Of compressed data only the
first member is read, and its checksum and length are looked at when its end is reached.
-/

namespace Scaffold.Archive

/-- Bytes to read one after another. -/
structure Stream where
  bytes : ByteArray
  /-- Whether there is an end after the bytes; else reading on fails. -/
  ends : Bool
  deriving Inhabited

namespace Gzip

/-- The first bytes of compressed data. -/
def magic : List Nat := [0x1F, 0x8B]

/-- Whether one of the flags of a header is set. -/
def hasFlag (data : ByteArray) (flag : Nat) : Bool := byteAt data 3 / flag % 2 = 1

/-- The position after the next zero byte. The fuel bounds how far it is. -/
def afterZero? (data : ByteArray) (position : Nat) : Nat → Option Nat
  | 0 => none
  | fuel + 1 =>
    if data.size ≤ position then none
    else if byteAt data position = 0 then some (position + 1)
    else afterZero? data (position + 1) fuel

/-- The position after a part of a header that a flag announces. -/
def passPart? (data : ByteArray) (flag : Nat) (pass : Nat → Option Nat) (position : Nat) : Option Nat :=
  if hasFlag data flag then pass position else some position

/-- The flags from this one on have no meaning, and none of them may be set. -/
def firstUnknownFlag : Nat := 32

/-- The position after the header. -/
def headerEnd? (data : ByteArray) : Option Nat := do
  if data.size < 10 || !hasAt data 0 magic || byteAt data 2 ≠ 8 then none
  if firstUnknownFlag ≤ byteAt data 3 then none
  let position ← passPart? data 4 (fun position => some (position + 2 + word16 data position)) 10
  let position ← passPart? data 8 (fun position => afterZero? data position data.size) position
  let position ← passPart? data 16 (fun position => afterZero? data position data.size) position
  let checked := fun position =>
    if word16 data position = checksum (slice data 0 position) % 65536 then some (position + 2) else none
  let position ← passPart? data 2 checked position
  if position ≤ data.size then some position else none

/-- Whether the checksum and the length at a position are those of some bytes. -/
def isSealed (data : ByteArray) (position : Nat) (bytes : ByteArray) : Bool :=
  position + 8 ≤ data.size && word32 data position = checksum bytes
    && word32 data (position + 4) = bytes.size % 0x100000000

/-- The stream that compressed data hold. -/
def stream (data : ByteArray) : Stream :=
  match headerEnd? data with
  | none => ⟨ByteArray.empty, false⟩
  | some start =>
    let (bytes, taken, stop?) := inflate (slice data start data.size)
    ⟨bytes, stop? = none && isSealed data (start + taken) bytes⟩

end Gzip

end Scaffold.Archive
