import Scaffold.Archive

/-! # Members of tape archives

A tape archive lists its members, of which those that only describe the next one do not count. Its entries are the
members that are files or directories, in the order of the members; what is neither, such as a link, is no entry.
-/

namespace Scaffold.Archive.Tar

/-- What a tape archive tells of a member: its header, what was said about it before, and what follows the header. -/
structure Member where
  header : ByteArray
  description : Description := {}
  contents : ByteArray := ByteArray.empty
  deriving Inhabited

namespace Member

def path (member : Member) : Path := memberPath member.header member.description

/-- The entry of a member, if it is a file or a directory. -/
def entryOf? (member : Member) : Option Entry :=
  match kindOf member.header with
  | .file => some ⟨member.path, false, octal? (slice member.header 100 8), some member.contents⟩
  | .directory => some ⟨member.path, true, octal? (slice member.header 100 8), some member.contents⟩
  | _ => none

variable {member : Member}

theorem entryOf?_of_file (kind : kindOf member.header = .file) :
    member.entryOf? = some ⟨member.path, false, octal? (slice member.header 100 8), some member.contents⟩ := by
  rw [entryOf?, kind]

theorem entryOf?_of_directory (kind : kindOf member.header = .directory) :
    member.entryOf? = some ⟨member.path, true, octal? (slice member.header 100 8), some member.contents⟩ := by
  rw [entryOf?, kind]

theorem entryOf?_of_other (kind : kindOf member.header = .other) : member.entryOf? = none := by
  rw [entryOf?, kind]

/-- Whether a member is a symbolic link. -/
def isLink (member : Member) : Bool := byteAt member.header 156 = '2'.toNat

/-- A link is no entry. -/
theorem entryOf?_of_isLink (link : member.isLink = true) : member.entryOf? = none := by
  refine entryOf?_of_other ?_
  rw [kindOf, of_decide_eq_true link]
  simp

end Member

/-- The members that are files, directories or links. -/
def listed (members : List Member) : List Member :=
  members.filter fun member => member.entryOf?.isSome || member.isLink

theorem filterMap_listed (members : List Member) :
    (listed members).filterMap Member.entryOf? = members.filterMap Member.entryOf? := by
  rw [listed, List.filterMap_filter]
  congr
  funext member
  cases member.entryOf? <;> simp

/-- The members from a position on, of which those that describe the next one are not told. -/
def membersFrom (stream : Stream) (fuel position : Nat) (description : Description) : Option (List Member) :=
  match fuel with
  | 0 => none
  | fuel + 1 => do
    match (← block? stream position).filter (!isZero ·) with
    | none => if description.isPending then none else some []
    | some header =>
      if !isIntact header then none
      let told ← length? (slice header 124 12)
      let size := (description.records?.bind recordedSize?).getD told
      let start := position + blockSize
      let next := start + padded size
      let contents := slice stream.bytes start size
      let rest := fun next description =>
        if next ≤ stream.bytes.size then membersFrom stream fuel next description else none
      match kindOf header with
      | .longName =>
        if description.longName?.isSome then none else rest next { description with longName? := some contents }
      | .longLink =>
        if description.longLink?.isSome then none else rest next { description with longLink? := some contents }
      | .records =>
        if description.records?.isSome then none else rest next { description with records? := some contents }
      | .sparse => do
        let blocks ← sparseBlocks? stream header start size
        (rest (next + blockSize * blocks) {}).map (⟨header, description, contents⟩ :: ·)
      | _ => (rest next {}).map (⟨header, description, contents⟩ :: ·)

/-- The members of a tape archive, if all of it can be read. -/
def members? (stream : Stream) : Option (List Member) :=
  membersFrom stream (stream.bytes.size / blockSize + 1) 0 {}

theorem block?_of_inside {data : ByteArray} {position : Nat} (inside : position + blockSize ≤ data.size) (ends : Bool) :
    block? ⟨data, ends⟩ position = some (some (slice data position blockSize)) := by
  have before : position ≠ data.size := by
    unfold blockSize at inside
    omega
  simp [block?, before, slice?, inside]

/-- A member that describes no other one is told, and the reading goes on behind it. -/
theorem membersFrom_of_header {stream : Stream} {fuel position size : Nat} {header : ByteArray}
    (block : block? stream position = some (some header)) (filled : isZero header = false)
    (intact : isIntact header = true) (told : length? (slice header 124 12) = some size)
    (inside : position + blockSize + padded size ≤ stream.bytes.size)
    (kind : kindOf header = .file ∨ kindOf header = .directory ∨ kindOf header = .other) :
    membersFrom stream (fuel + 1) position {} =
      (membersFrom stream fuel (position + blockSize + padded size) {}).map
        (⟨header, {}, slice stream.bytes (position + blockSize) size⟩ :: ·) := by
  rw [membersFrom, block]
  rcases kind with kind | kind | kind <;> simp [Option.filter_some, filled, intact, told, inside, kind]

/-- A block of zeros ends the archive. -/
theorem membersFrom_of_zeros {stream : Stream} {fuel position : Nat} {header : ByteArray}
    (block : block? stream position = some (some header)) (zeros : isZero header = true) :
    membersFrom stream (fuel + 1) position {} = some [] := by
  rw [membersFrom, block]
  simp [Option.filter_some, zeros, Description.isPending]

theorem entriesFrom_eq (stream : Stream) (fuel position : Nat) (description : Description) :
    entriesFrom stream fuel position description =
      (membersFrom stream fuel position description).map (List.filterMap Member.entryOf?) := by
  induction fuel generalizing position description with
  | zero => rfl
  | succ fuel ih =>
    rw [entriesFrom, membersFrom]
    cases block? stream position with
    | none => rfl
    | some block? =>
      simp only [Option.bind_eq_bind, Option.bind_some]
      cases block?.filter (!isZero ·) with
      | none =>
        dsimp only
        split <;> rfl
      | some header =>
        dsimp only
        split
        · rfl
        · cases length? (slice header 124 12) with
          | none => rfl
          | some told =>
            simp only [Option.bind_some]
            -- The two readings go on alike, whatever is said about the next member.
            generalize (description.records?.bind recordedSize?).getD told = size
            generalize slice stream.bytes (position + blockSize) size = contents
            generalize position + blockSize = start
            generalize start + padded size = next
            have onward : ∀ next description,
                (if next ≤ stream.bytes.size then entriesFrom stream fuel next description else none) =
                  (if next ≤ stream.bytes.size then membersFrom stream fuel next description else none).map
                    (List.filterMap Member.entryOf?) := by
              intro next description
              split
              · exact ih next description
              · rfl
            simp only [onward]
            cases kind : kindOf header with
            | longName | longLink | records =>
              dsimp only
              split <;> rfl
            | sparse =>
              dsimp only
              cases sparseBlocks? stream header start size with
              | none => rfl
              | some blocks =>
                simp only [Option.bind_some, Option.map_map]
                generalize next + blockSize * blocks = next
                cases (if next ≤ stream.bytes.size then membersFrom stream fuel next {} else none) with
                | none => rfl
                | some members => simp [Member.entryOf?, kind]
            | file | directory | other =>
              dsimp only
              rw [Option.map_map]
              cases (if next ≤ stream.bytes.size then membersFrom stream fuel next {} else none) with
              | none => rfl
              | some members => simp [Member.entryOf?, Member.path, kind]

/-- The entries of a tape archive are its members that are files or directories. -/
theorem entries?_eq (stream : Stream) :
    entries? stream = (members? stream).map (List.filterMap Member.entryOf?) :=
  entriesFrom_eq stream _ _ _

end Scaffold.Archive.Tar
