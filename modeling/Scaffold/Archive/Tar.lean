import Scaffold.Archive.Entry
import Scaffold.Archive.Gzip
import Scaffold.Text.Blank
import Scaffold.Text.Escaped
import Scaffold.Text.Number
import Scaffold.Text.Utf8

/-! # Tape archives

A tape archive is a stream of blocks: the header of a member, then its contents. Some members only describe the
next one, giving it a longer path or another size. A sparse file is told in parts, and more of them may stand in
blocks behind its header. A block of zeros ends the archive, and so does the end of the stream.
-/

namespace Scaffold.Archive.Tar

/-- The length of a block. -/
def blockSize : Nat := 512

/-- A length rounded up to whole blocks. -/
def padded (length : Nat) : Nat := (length + blockSize - 1) / blockSize * blockSize

/-- The bytes up to the first zero. -/
def untilZero (bytes : ByteArray) : List UInt8 := bytes.toList.takeWhile (· ≠ 0)

/-- The value of octal digits; at least one is needed. -/
def octalValue? (digits : List Char) : Option Nat :=
  if digits.isEmpty || !digits.all (fun c => '0' ≤ c && c ≤ '7') then none
  else some (digits.foldl (fun value c => 8 * value + (c.toNat - '0'.toNat)) 0)

/-- A number in octal digits, with blanks around it and perhaps a plus sign in front. -/
def octal? (bytes : ByteArray) : Option Nat := do
  let text ← Text.fromUtf8? (ByteArray.mk (untilZero bytes).toArray)
  octalValue? (Text.withoutPlus (Text.trim text.toList))

/-- The number of some bytes, the highest first. -/
def bigEndian (bytes : List UInt8) : Nat := bytes.foldl (fun value byte => 256 * value + byte.toNat) 0

/-- A length in octal digits, or in the last eight bytes if the highest bit of the first one is set. -/
def length? (bytes : ByteArray) : Option Nat :=
  if byteAt bytes 0 < 0x80 then octal? bytes else some (bigEndian (bytes.toList.drop (bytes.size - 8)))

/-- The kind of a member that a header tells. -/
inductive Kind
  | file
  | directory
  /-- The contents are the path of the next member. -/
  | longName
  /-- The contents are the target of the next member, a link. -/
  | longLink
  /-- The contents are records about the next member. -/
  | records
  /-- A file that is not told in one piece. -/
  | sparse
  | other
  deriving DecidableEq, Repr, Inhabited

/-- Whether a header has the form that knows long paths in members of their own. -/
def isGnu (header : ByteArray) : Bool := hasAt header 257 (ascii "ustar  " ++ [0])

/-- Whether a header has the form that knows a second part of the path. -/
def isStandard (header : ByteArray) : Bool := hasAt header 257 (ascii "ustar" ++ [0] ++ ascii "00")

/-- The kind of a member. -/
def kindOf (header : ByteArray) : Kind :=
  let flag := byteAt header 156
  if flag = 0 || flag = '0'.toNat then .file
  else if flag = '5'.toNat then .directory
  else if flag = 'S'.toNat then .sparse
  else if !isGnu header && !isStandard header then .other
  else if flag = 'L'.toNat then .longName
  else if flag = 'K'.toNat then .longLink
  else if flag = 'x'.toNat then .records
  else .other

/-- The path in a header. -/
def pathIn (header : ByteArray) : List UInt8 :=
  let name := untilZero (slice header 0 100)
  let opening := if isStandard header then untilZero (slice header 345 155) else []
  if opening.isEmpty then name else opening ++ '/'.toNat.toUInt8 :: name

/-- Whether a header has the checksum that it tells. The checksum counts as blanks. -/
def isIntact (header : ByteArray) : Bool :=
  let sum := ((slice header 0 148).toList ++ (slice header 156 356).toList).foldl
    (fun sum byte => sum + byte.toNat) (8 * ' '.toNat)
  octal? (slice header 148 8) = some sum

/-- The lines of some bytes. -/
def lines (bytes : ByteArray) : List (List UInt8) :=
  bytes.toList.splitOn '\n'.toNat.toUInt8

/-- The key and the value of a record, whose length stands in front of it. -/
def record? (line : List UInt8) : Option (List UInt8 × List UInt8) := do
  let isNot (c : Char) (byte : UInt8) : Bool := byte ≠ c.toNat.toUInt8
  let digits ← Text.fromUtf8? (ByteArray.mk (line.takeWhile (isNot ' ')).toArray)
  let content := (line.dropWhile (isNot ' ')).drop 1
  if Text.number? digits.toList = some (line.length + 1) && content.any (· = '='.toNat.toUInt8) then
    some (content.takeWhile (isNot '='), (content.dropWhile (isNot '=')).drop 1)
  else none

/-- The records in some bytes, with nothing in place of a line that is none. -/
def recordsIn (bytes : ByteArray) : List (Option (List UInt8 × List UInt8)) :=
  ((lines bytes).takeWhile (!·.isEmpty)).map record?

/-- The path that records tell. -/
def recordedPath? (bytes : ByteArray) : Option (List UInt8) :=
  ((recordsIn bytes).filterMap id).lookup "path".toUTF8.toList

/-- The size that records tell, unless a line before it is no record. -/
def recordedSize? (bytes : ByteArray) : Option Nat := do
  let digits ← (((recordsIn bytes).takeWhile Option.isSome).filterMap id).lookup "size".toUTF8.toList
  Text.number? (← Text.fromUtf8? (ByteArray.mk digits.toArray)).toList

/-- What the members read so far say about the next one. -/
structure Description where
  longName? : Option ByteArray := none
  longLink? : Option ByteArray := none
  records? : Option ByteArray := none
  deriving Inhabited

/-- Whether something is said about the next member. -/
def Description.isPending (description : Description) : Bool :=
  description.longName?.isSome || description.longLink?.isSome || description.records?.isSome

/-- The path of a member: as described, or as in its header. Bytes that are no text are kept. -/
def memberPath (header : ByteArray) (description : Description) : Path :=
  let bytes :=
    match description.longName? with
    | some name => if name.toList.getLast? = some 0 then name.toList.dropLast else name.toList
    | none => (description.records?.bind recordedPath?).getD (pathIn header)
  ⟨Text.ofBytes bytes⟩

/-- How far the parts of a sparse file have been told. -/
structure Coverage where
  /-- Where in the file the last part ends. -/
  reached : Nat
  /-- How many bytes of the member are in none of the parts. -/
  left : Nat
  deriving DecidableEq, Repr, Inhabited

/-- Add the part that a block tells at a position: where in the file it starts, and its length. The member has so
many bytes. -/
def addPart? (block : ByteArray) (size : Nat) (coverage : Coverage) (position : Nat) : Option Coverage := do
  if byteAt block position = 0 || byteAt block (position + 12) = 0 then some coverage
  else
    let start ← octal? (slice block position 12)
    let length ← octal? (slice block (position + 12) 12)
    if length ≠ 0 && (size - coverage.left) % blockSize ≠ 0 then none
    if start < coverage.reached || coverage.left < length then none
    some ⟨start + length, coverage.left - length⟩

/-- Add so many parts that a block tells from a position on. -/
def addParts? (block : ByteArray) (size position count : Nat) (coverage : Coverage) : Option Coverage :=
  ((List.range count).map (position + 24 * ·)).foldlM (addPart? block size) coverage

/-- Add the parts in the blocks from a position on, and count these blocks. The fuel bounds their number. -/
def extensions? (stream : Stream) (size : Nat) : Nat → Nat → Coverage → Option (Nat × Coverage)
  | 0, _, _ => none
  | fuel + 1, position, coverage => do
    let block ← slice? stream.bytes position blockSize
    let coverage ← addParts? block size 0 21 coverage
    if byteAt block 504 = 1 then
      let (count, coverage) ← extensions? stream size fuel (position + blockSize) coverage
      some (count + 1, coverage)
    else some (1, coverage)

/-- How many blocks with parts follow the header of a sparse file, if all of its parts are in order and make up the
length that the header tells. -/
def sparseBlocks? (stream : Stream) (header : ByteArray) (start size : Nat) : Option Nat := do
  if !isGnu header then none
  let coverage ← addParts? header size 386 4 ⟨0, size⟩
  let (count, coverage) ←
    if byteAt header 482 = 1 then extensions? stream size (stream.bytes.size / blockSize + 1) start coverage
    else some (0, coverage)
  if octal? (slice header 483 12) = some coverage.reached && coverage.left = 0 then some count else none

/-- The next block of a stream; `some none` where the stream ends. -/
def block? (stream : Stream) (position : Nat) : Option (Option ByteArray) :=
  if position = stream.bytes.size && stream.ends then some none
  else (slice? stream.bytes position blockSize).map some

/-- Whether a block has nothing but zeros. -/
def isZero (block : ByteArray) : Bool := block.toList.all (· = 0)

/-- The entries from a position on. The fuel bounds the number of members. -/
def entriesFrom (stream : Stream) (fuel position : Nat) (description : Description) : Option (List Entry) :=
  match fuel with
  | 0 => none
  | fuel + 1 => do
    match (← block? stream position).filter (!isZero ·) with
    | none => if description.isPending then none else some []
    | some header =>
      if !isIntact header then none
      let told ← length? (slice header 124 12)
      let size := (description.records?.bind recordedSize?).getD told
      let start := position + blockSize
      let next := start + padded size
      let contents := slice stream.bytes start size
      let entry : Entry :=
        { path := memberPath header description
          mode? := octal? (slice header 100 8)
          contents? := some contents }
      let rest := fun next description =>
        if next ≤ stream.bytes.size then entriesFrom stream fuel next description else none
      match kindOf header with
      | .file => (rest next {}).map (entry :: ·)
      | .directory => (rest next {}).map ({ entry with isDirectory := true } :: ·)
      | .longName =>
        if description.longName?.isSome then none else rest next { description with longName? := some contents }
      | .longLink =>
        if description.longLink?.isSome then none else rest next { description with longLink? := some contents }
      | .records =>
        if description.records?.isSome then none else rest next { description with records? := some contents }
      | .sparse => do
        let blocks ← sparseBlocks? stream header start size
        rest (next + blockSize * blocks) {}
      | .other => rest next {}

/-- The entries of a tape archive, if all of it can be read. -/
def entries? (stream : Stream) : Option (List Entry) :=
  entriesFrom stream (stream.bytes.size / blockSize + 1) 0 {}

end Scaffold.Archive.Tar
