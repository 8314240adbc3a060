import Scaffold.Archive.CodePage
import Scaffold.Archive.Entry
import Scaffold.Archive.Gzip

/-! # Zip archives

A directory at the end of the archive lists its members and tells where each one starts. Other bytes may stand
before the archive and after it. Numbers that are too large for their places are told elsewhere, those of a member in
the extra parts of its entry and those of the directory in an end of its own. A member that is listed again replaces
the earlier one in its place. How members are unpacked that are neither stored nor deflated is left open.
-/

namespace Scaffold.Archive.Zip

/-- What the directory tells about a member. -/
structure Member where
  name : String
  /-- The system on which the member was made. -/
  system : Nat
  flags : Nat
  method : Nat
  checksum : Nat
  /-- The length of its data in the archive. -/
  length : Nat
  /-- The length of what it holds. -/
  size : Nat
  attributes : Nat
  /-- Where its own header starts. -/
  start : Nat
  deriving Inhabited, DecidableEq

/-- The first bytes of a member. -/
def memberMagic : List Nat := ascii "PK" ++ [3, 4]

/-- The first bytes of an entry of the directory. -/
def directoryMagic : List Nat := ascii "PK" ++ [1, 2]

/-- The first bytes of what ends the directory. -/
def endMagic : List Nat := ascii "PK" ++ [5, 6]

/-- The first bytes of what ends the directory of a large archive. -/
def largeEndMagic : List Nat := ascii "PK" ++ [6, 6]

/-- The first bytes of what tells where the directory of a large archive ends. -/
def locatorMagic : List Nat := ascii "PK" ++ [6, 7]

/-- A name in the encoding that the flags tell. -/
def nameText (flags : Nat) (bytes : ByteArray) : String :=
  if flags / 0x800 % 2 = 1 then Text.fromUtf8Lossy bytes else pageText bytes

/-! ## Extra parts -/

/-- The number in place of one that does not fit into four bytes. -/
def tooLarge : Nat := 0xFFFFFFFF

/-- Positions in an archive are below this. -/
def positionLimit : Nat := 0x10000000000000000

/-- A number that may be told at full length instead, and where the next one stands. -/
def widen? (extra : ByteArray) (all : Bool) (number position : Nat) : Option (Nat × Nat) :=
  if all || number = tooLarge then
    if position + 8 ≤ extra.size then some (word64 extra position, position + 8) else none
  else some (number, position)

/-- A member whose lengths and position are told at full length. -/
def widened? (extra : ByteArray) (position length : Nat) (member : Member) : Option Member := do
  let all := 24 ≤ length
  let (size, next) ← widen? extra all member.size position
  let (packed, next) ← widen? extra all member.length next
  let (start, next) ← widen? extra all member.start next
  if position + length < next then none
  some { member with size, length := packed, start }

/-- A member whose name is told once more. The checksum is that of the name that it replaces. -/
def renamed? (name extra : ByteArray) (position length : Nat) (member : Member) : Option Member := do
  if length < 5 || word32 extra (position + 1) ≠ checksum name then none
  let name ← Text.fromUtf8? (slice extra (position + 5) (length - 5))
  some { member with name }

/-- A member as the extra parts of its entry tell it, from a position on. The fuel bounds their number. -/
def revised? (name extra : ByteArray) (fuel position : Nat) (member : Member) : Option Member :=
  match fuel with
  | 0 => none
  | fuel + 1 => do
    if extra.size < position + 4 then some member
    else
      let kind := word16 extra position
      let length := word16 extra (position + 2)
      let start := position + 4
      if extra.size < start + length then none
      let member ←
        if kind = 1 then widened? extra start length member
        else if kind = 0x7075 then renamed? name extra start length member
        else some member
      revised? name extra fuel (start + length) member

/-! ## The directory -/

/-- The member in an entry of the directory, and where the entry ends. Members start so much later than they
are said to. -/
def member? (data : ByteArray) (shift position : Nat) : Option (Member × Nat) := do
  if !hasAt data position directoryMagic then none
  let word := fun offset => word16 data (position + offset)
  let long := fun offset => word32 data (position + offset)
  let flags := word 8
  let name ← slice? data (position + 46) (word 28)
  let extra ← slice? data (position + 46 + word 28) (word 30)
  let finish := position + 46 + word 28 + word 30 + word 32
  if data.size < finish then none
  let told : Member :=
    { name := nameText flags name
      system := byteAt data (position + 5)
      flags
      method := word 10
      checksum := long 16
      length := long 20
      size := long 24
      attributes := long 38
      start := long 42 }
  let member ← revised? name extra (extra.size / 4 + 1) 0 told
  if positionLimit ≤ shift + member.start then none
  pure ({ member with start := shift + member.start }, finish)

/-- So many members from a position of the directory on. -/
def members? (data : ByteArray) (shift : Nat) : Nat → Nat → Option (List Member)
  | 0, _ => some []
  | count + 1, position => do
    let (member, next) ← member? data shift position
    pure (member :: (← members? data shift count next))

/-- Where a directory starts and how many members it lists. They start so much later than they are said to. -/
structure Listing where
  start : Nat
  shift : Nat
  count : Nat
  deriving Inhabited, DecidableEq

/-- Where a directory starts that is said to start at one position and ends at another. Bytes in front of the
archive can only have moved its first entry towards the end. -/
def directoryStart? (data : ByteArray) (told finish : Nat) : Option Nat :=
  (List.range' told (finish - told)).find? fun position => hasAt data position directoryMagic

/-- The directory that ends at a position. -/
def listing? (data : ByteArray) (position : Nat) : Option Listing := do
  let word := fun offset => word16 data (position + offset)
  let told := word32 data (position + 16)
  if word 4 ≠ word 6 then none
  let start ← if word 10 = 0 then some (max told position) else directoryStart? data told position
  some ⟨start, start - told, word 8⟩

/-- Whether the directory of a large archive ends at a position, in front of what locates this end. -/
def endsLarge (data : ByteArray) (locator position : Nat) : Bool :=
  let long := fun offset => word32 data (position + offset)
  let wide := fun offset => word64 data (position + offset)
  hasAt data position largeEndMagic && 56 ≤ wide 4 + 12 && position + wide 4 + 12 = locator
    && long 20 = word32 data (locator + 4) && 46 * wide 32 + wide 48 ≤ position

/-- The directory of a large archive. -/
def largeListing? (data : ByteArray) (locator : Nat) : Option Listing := do
  let told := word64 data (locator + 8)
  if 1 < word32 data (locator + 16) then none
  let position ← (List.range' told (locator - told)).find? (endsLarge data locator)
  let long := fun offset => word32 data (position + offset)
  let wide := fun offset => word64 data (position + offset)
  if wide 32 < wide 24 || word16 data (position + 12) < word16 data (position + 14) || long 16 ≠ long 20 then none
  some ⟨wide 48 + (position - told), position - told, wide 32⟩

/-- What locates the end of the directory of a large archive, in front of a position at which another one seems to
end. -/
def locator? (data : ByteArray) (position : Nat) : Option Nat :=
  let large := word16 data (position + 10) = 0xFFFF || word32 data (position + 16) = tooLarge
  if large && 20 ≤ position && hasAt data (position - 20) locatorMagic then some (position - 20) else none

/-- The members of a directory that ends at a position. -/
def directoryAt? (data : ByteArray) (position : Nat) : Option (List Member) := do
  if data.size < position + 22 + word16 data (position + 20) then none
  let listing ←
    match locator? data position with
    | some locator => largeListing? data locator
    | none => listing? data position
  members? data listing.shift listing.count listing.start

/-- The members of the last directory that ends before a position. -/
def directoryBefore? (data : ByteArray) : Nat → Option (List Member)
  | 0 => none
  | position + 1 =>
    if hasAt data position endMagic then
      (directoryAt? data position).or (directoryBefore? data position)
    else directoryBefore? data position

/-- Put a member in the place of one of the same name, or at the end. -/
def placeMember (member : Member) : List Member → List Member
  | [] => [member]
  | other :: rest =>
    if other.name = member.name then member :: rest else other :: placeMember member rest

/-! ## Members -/

/-- How the data of a member are unpacked: what they hold, unless they are broken. -/
def method? (unpack : Unpack) (member : Member) : Option (ByteArray → Option ByteArray) :=
  if member.method = 0 then some some
  else if member.method = 8 then
    some fun packed =>
      let (bytes, _, stop?) := inflate packed
      if stop? ≠ some .corrupt then some bytes else none
  else (unpack member.method).map fun read packed => read packed member.size

/-- Where the data of a member start, if the member can be read at all. -/
def dataStart? (unpack : Unpack) (data : ByteArray) (member : Member) : Option Nat :=
  if member.flags % 2 = 1 || (method? unpack member).isNone then none
  else if hasAt data member.start memberMagic && member.start + 30 ≤ data.size then
    some (member.start + 30 + word16 data (member.start + 26) + word16 data (member.start + 28))
  else none

/-- What a member holds, if it is what its checksum tells. -/
def contents? (unpack : Unpack) (data : ByteArray) (member : Member) (start : Nat) : Option ByteArray := do
  let read ← method? unpack member
  let bytes ← read (slice data start member.length)
  if checksum bytes = member.checksum then some bytes else none

/-- The permission bits of a member, told in the way of the system on which it was made. -/
def mode? (member : Member) : Option Nat :=
  if member.attributes = 0 then none
  else if member.system = 3 then some (member.attributes / 65536)
  else if member.system = 0 then
    let mode := if member.attributes / 16 % 2 = 1 then 0o040775 else 0o100664
    some (if member.attributes % 2 = 1 then mode &&& 0o555 else mode)
  else none

/-- How deep the components of a path lead below its start; none if they lead above it. -/
def depth? (route : Route) : Option Nat :=
  route.foldlM
    (fun depth component =>
      match component with
      | .root => none
      | .here => some depth
      | .up => if depth = 0 then none else some (depth - 1)
      | .name _ => some (depth + 1))
    0

/-- Whether a name stays inside the place where the archive is laid out. -/
def isEnclosed (name : String) : Bool :=
  !name.toList.any (·.toNat = 0) && (depth? (Path.mk name).components).isSome

/-- Whether a name is that of a directory. -/
def namesDirectory (name : String) : Bool :=
  let last? := name.toList.getLast?
  last? = some '/' || last? = some '\\'

/-- The entry of a member. -/
def entryOf (unpack : Unpack) (data : ByteArray) (member : Member) : Except Obstacle Entry :=
  match dataStart? unpack data member with
  | none => .error .unreadableZipEntry
  | some start =>
    if isEnclosed member.name then
      .ok ⟨⟨member.name⟩, namesDirectory member.name, mode? member, contents? unpack data member start⟩
    else .error (.unsafePath ⟨member.name⟩)

/-- The entries of a zip archive. -/
def entries (unpack : Unpack) (data : ByteArray) : Except Obstacle (List Entry) :=
  match directoryBefore? data data.size with
  | none => .error .unopenableZip
  | some members =>
    (members.foldl (fun members member => placeMember member members) []).mapM (entryOf unpack data)

end Scaffold.Archive.Zip
