import Scaffold.Archive
import Scaffold.Proofs.Data.Traverse

/-! # What is wrong with an archive

A tape is read header by header, and what is wrong with it is told by the first position at which nothing can be read.
Of a zip archive the directory is looked for, and then each member is opened. What cannot be read in this way makes the
archive malformed, and a malformed archive has no entries.
-/

namespace Scaffold.Archive

namespace Tar

variable {stream : Stream} {fuel position next : Nat} {description onward : Description} {item? : Option Entry}
  {entries : List Entry}

/-! ## Header by header -/

/-- The contents of a member, unless reading on fails before they are complete. -/
def contentsAt? (stream : Stream) (start size : Nat) : Option ByteArray :=
  if start + size ≤ stream.bytes.size || stream.ends then some (slice stream.bytes start size) else none

/-- What is found at a position of a tape. -/
inductive Found
  /-- Nothing that can be read. -/
  | nothing
  /-- The end of the archive. -/
  | finish
  /-- A member, perhaps an entry; where the next one starts, and what is said about it. -/
  | member (item? : Option Entry) (next : Nat) (description : Description)
  deriving Inhabited

/-- Read one header, and the contents of its member if they describe the next one. -/
def find (stream : Stream) (position : Nat) (description : Description) : Found :=
  match block? stream position with
  | none => .nothing
  | some block? =>
    match block?.filter (!isZero ·) with
    | none => if description.isPending then .nothing else .finish
    | some header =>
      if !isIntact header then .nothing
      else
        match length? (slice header 124 12) with
        | none => .nothing
        | some told =>
          let size := (description.records?.bind recordedSize?).getD told
          let start := position + blockSize
          let next := start + padded size
          let contents := slice stream.bytes start size
          let entry : Entry :=
            { path := memberPath header description
              mode? := octal? (slice header 100 8)
              contents? := contentsAt? stream start size }
          match kindOf header with
          | .file => .member (some entry) next {}
          | .directory => .member (some { entry with isDirectory := true }) next {}
          | .longName =>
            if description.longName?.isSome then .nothing
            else .member none next { description with longName? := some contents }
          | .longLink =>
            if description.longLink?.isSome then .nothing
            else .member none next { description with longLink? := some contents }
          | .records =>
            if description.records?.isSome then .nothing
            else .member none next { description with records? := some contents }
          | .sparse =>
            match sparseBlocks? stream header start size with
            | none => .nothing
            | some blocks => .member none (next + blockSize * blocks) {}
          | .other => .member none next {}

theorem le_padded (size : Nat) : size ≤ padded size := by
  unfold padded blockSize
  omega

/-- Behind the end of a stream there is no block. -/
theorem block?_of_outside (outside : stream.bytes.size < position) : block? stream position = none := by
  have other : position ≠ stream.bytes.size := by omega
  have beyond : ¬ position + blockSize ≤ stream.bytes.size := by omega
  simp [block?, other, slice?, beyond]

theorem find_of_outside (outside : stream.bytes.size < position) : find stream position description = .nothing := by
  rw [find, block?_of_outside outside]

theorem entriesFrom_of_outside (outside : stream.bytes.size < position) :
    entriesFrom stream fuel position description = none := by
  cases fuel with
  | zero => rfl
  | succ fuel => simp [entriesFrom, block?_of_outside outside]

/-- Reading on behind the end is reading nothing. -/
private theorem entriesFrom_onward (stream : Stream) (fuel next : Nat) (description : Description) :
    (if next ≤ stream.bytes.size then entriesFrom stream fuel next description else none) =
      entriesFrom stream fuel next description := by
  split
  · rfl
  · rename_i outside
    exact (entriesFrom_of_outside (Nat.lt_of_not_le outside)).symm

/-- An entry is told once all of its contents are there. -/
private theorem map_entriesFrom {size start : Nat} (told : Option ByteArray → Entry) :
    (entriesFrom stream fuel (start + padded size) description).map (told (some (slice stream.bytes start size)) :: ·) =
      (entriesFrom stream fuel (start + padded size) description).map
        ((some (told (contentsAt? stream start size))).toList ++ ·) := by
  rcases Nat.lt_or_ge stream.bytes.size (start + padded size) with outside | inside
  · rw [entriesFrom_of_outside outside]
    rfl
  · have complete : start + size ≤ stream.bytes.size := by
      have fits := le_padded size
      omega
    rw [contentsAt?, decide_eq_true complete]
    rfl

/-- The entries from a position on are found one after another. -/
theorem entriesFrom_succ (stream : Stream) (fuel position : Nat) (description : Description) :
    entriesFrom stream (fuel + 1) position description =
      match find stream position description with
      | .nothing => none
      | .finish => some []
      | .member item? next onward => (entriesFrom stream fuel next onward).map (item?.toList ++ ·) := by
  rw [entriesFrom, find]
  cases block? stream position with
  | none => rfl
  | some block? =>
    simp only [Option.bind_eq_bind, Option.bind_some]
    cases block?.filter (!isZero ·) with
    | none =>
      dsimp only
      split <;> rfl
    | some header =>
      dsimp only
      split
      · rfl
      · cases length? (slice header 124 12) with
        | none => rfl
        | some told =>
          -- A member that is cut off is missed only when the next block is looked for.
          simp only [Option.bind_some, entriesFrom_onward]
          generalize (description.records?.bind recordedSize?).getD told = size
          have unchanged : ∀ read : Option (List Entry), read.map (([] : List Entry) ++ ·) = read := fun read =>
            Option.map_id_apply
          cases kindOf header with
          | file => exact map_entriesFrom fun contents? => ⟨_, false, _, contents?⟩
          | directory => exact map_entriesFrom fun contents? => ⟨_, true, _, contents?⟩
          | longName | longLink | records =>
            dsimp only
            split
            · rfl
            · exact (unchanged _).symm
          | sparse =>
            dsimp only
            cases sparseBlocks? stream header (position + blockSize) size with
            | none => rfl
            | some blocks => exact (unchanged _).symm
          | other => exact (unchanged _).symm

/-! ## Where reading breaks off -/

/-- Reading a tape from a position on comes to one at which nothing can be read. -/
inductive Breaks (stream : Stream) : Nat → Description → Prop
  | here (position : Nat) (description : Description) (missing : find stream position description = .nothing) :
      Breaks stream position description
  | later (position next : Nat) (description onward : Description) (item? : Option Entry)
      (found : find stream position description = .member item? next onward) (breaks : Breaks stream next onward) :
      Breaks stream position description

/-- A member takes at least its header. -/
theorem next_of_find (found : find stream position description = .member item? next onward) :
    position + blockSize ≤ next := by
  unfold find at found
  dsimp only at found
  repeat' split at found
  all_goals cases found
  all_goals omega

/-- The fuel for a tape lasts: its entries are missing exactly if reading it breaks off. -/
theorem entriesFrom_eq_none_iff (enough : stream.bytes.size < position + blockSize * fuel) :
    entriesFrom stream fuel position description = none ↔ Breaks stream position description := by
  constructor
  · intro unread
    induction fuel generalizing position description with
    | zero =>
      -- The fuel is used up only behind the end of the stream.
      exact .here _ _ (find_of_outside enough)
    | succ fuel ih =>
      rw [entriesFrom_succ] at unread
      cases found : find stream position description with
      | nothing => exact .here _ _ found
      | finish =>
        rw [found] at unread
        cases unread
      | member item? next onward =>
        rw [found] at unread
        refine .later _ _ _ _ _ found (ih ?_ (Option.map_eq_none_iff.mp unread))
        have past := next_of_find found
        rw [Nat.mul_succ] at enough
        omega
  · intro breaks
    clear enough
    induction breaks generalizing fuel with
    | here position description missing =>
      cases fuel with
      | zero => rfl
      | succ fuel => rw [entriesFrom_succ, missing]
    | later position next description onward item? found _ ih =>
      cases fuel with
      | zero => rfl
      | succ fuel =>
        rw [entriesFrom_succ, found]
        exact Option.map_eq_none_iff.mpr ih

theorem entries?_eq_none_iff : entries? stream = none ↔ Breaks stream 0 {} := by
  refine entriesFrom_eq_none_iff ?_
  unfold blockSize
  omega

end Tar

/-! ## Malformed archives -/

/-- The members that the directory of a zip archive lists, each name once. -/
def Zip.listed? (data : ByteArray) : Option (List Zip.Member) :=
  (Zip.directoryBefore? data data.size).map (List.foldl (fun members member => Zip.placeMember member members) [])

theorem Zip.entries_eq (unpack : Unpack) (data : ByteArray) :
    Zip.entries unpack data =
      match Zip.listed? data with
      | none => .error .unopenableZip
      | some members => members.mapM (Zip.entryOf unpack data) := by
  rw [Zip.entries, Zip.listed?]
  cases Zip.directoryBefore? data data.size <;> rfl

/-- The tape that an archive is, or holds in compressed form. -/
def tape? (data : ByteArray) : Option Stream :=
  match format? data with
  | some .compressedTar => some (Gzip.stream data)
  | some .tar => some ⟨data, true⟩
  | _ => none

theorem entries_of_tape {unpack : Unpack} {data : ByteArray} {stream : Stream} (tape : tape? data = some stream) :
    entries unpack data = tarEntries stream := by
  unfold tape? at tape
  unfold entries
  split at tape
  · rename_i compressed
    rw [compressed, ← Option.some.inj tape]
  · rename_i plain
    rw [plain, ← Option.some.inj tape]
  · cases tape

/-- What is wrong with an archive, and the obstacle that tells of it. -/
inductive Malformed (unpack : Unpack) (data : ByteArray) : Obstacle → Prop
  | unsupported (unknown : format? data = none) : Malformed unpack data .unsupportedFormat
  | unopenable (zip : format? data = some .zip) (missing : Zip.listed? data = none) : Malformed unpack data .unopenableZip
  | unreadable (members : List Zip.Member) (member : Zip.Member) (zip : format? data = some .zip)
      (listed : Zip.listed? data = some members) (among : member ∈ members)
      (missing : Zip.dataStart? unpack data member = none) : Malformed unpack data .unreadableZipEntry
  | escaping (members : List Zip.Member) (member : Zip.Member) (zip : format? data = some .zip)
      (listed : Zip.listed? data = some members) (among : member ∈ members)
      (outside : Zip.isEnclosed member.name = false) : Malformed unpack data (.unsafePath ⟨member.name⟩)
  | broken (stream : Stream) (tape : tape? data = some stream) (breaks : Tar.Breaks stream 0 {}) :
      Malformed unpack data .unreadableTarEntry

section

variable {unpack : Unpack} {data : ByteArray} {obstacle : Obstacle}

theorem Malformed.of_entries_tape {stream : Stream} (tape : tape? data = some stream)
    (failed : entries unpack data = .error obstacle) : Malformed unpack data obstacle := by
  rw [entries_of_tape tape, tarEntries] at failed
  split at failed
  · cases failed
  · rename_i unread
    cases failed
    exact .broken stream tape (Tar.entries?_eq_none_iff.mp unread)

theorem Malformed.of_entries_zip (zip : format? data = some .zip) (failed : Zip.entries unpack data = .error obstacle) :
    Malformed unpack data obstacle := by
  rw [Zip.entries_eq] at failed
  split at failed
  · rename_i missing
    cases failed
    exact .unopenable zip missing
  · rename_i members listed
    obtain ⟨member, among, failed⟩ := exists_of_mapM_eq_error failed
    unfold Zip.entryOf at failed
    split at failed
    · rename_i missing
      cases failed
      exact .unreadable members member zip listed among missing
    · split at failed
      · cases failed
      · rename_i outside
        cases failed
        exact .escaping members member zip listed among (by simpa using outside)

/-- An archive without entries is malformed, in the way that is told of it. -/
theorem malformed_of_entries (failed : entries unpack data = .error obstacle) : Malformed unpack data obstacle := by
  cases form : format? data with
  | none =>
    rw [entries, form] at failed
    cases failed
    exact .unsupported form
  | some format =>
    cases format with
    | zip =>
      rw [entries, form] at failed
      exact .of_entries_zip form failed
    | compressedTar => exact .of_entries_tape (by rw [tape?, form]) failed
    | tar => exact .of_entries_tape (by rw [tape?, form]) failed

/-- A zip archive with a member that is no entry has no entries at all. -/
private theorem entries_of_member {members : List Zip.Member} {member : Zip.Member} (zip : format? data = some .zip)
    (listed : Zip.listed? data = some members) (among : member ∈ members) (failed : Zip.entryOf unpack data member = .error obstacle) :
    ∃ told, entries unpack data = .error told := by
  obtain ⟨told, unread⟩ := mapM_eq_error_of_mem among failed
  rw [entries, zip]
  dsimp only
  rw [Zip.entries_eq, listed]
  exact ⟨told, unread⟩

/-- A malformed archive has no entries, in whatever ways it is malformed. -/
theorem Malformed.entries (malformed : Malformed unpack data obstacle) : ∃ told, Archive.entries unpack data = .error told := by
  cases malformed with
  | unsupported unknown => exact ⟨_, by rw [Archive.entries, unknown]⟩
  | unopenable zip missing => exact ⟨_, by rw [Archive.entries, zip, Zip.entries_eq, missing]⟩
  | unreadable members member zip listed among missing =>
    have failed : Zip.entryOf unpack data member = .error .unreadableZipEntry := by rw [Zip.entryOf, missing]
    exact entries_of_member zip listed among failed
  | escaping members member zip listed among outside =>
    obtain ⟨obstacle, failed⟩ : ∃ obstacle, Zip.entryOf unpack data member = .error obstacle := by
      unfold Zip.entryOf
      split
      · exact ⟨_, rfl⟩
      · rw [outside]
        exact ⟨_, rfl⟩
    exact entries_of_member zip listed among failed
  | broken stream tape breaks =>
    rw [entries_of_tape tape, tarEntries, Tar.entries?_eq_none_iff.mpr breaks]
    exact ⟨_, rfl⟩

end

end Scaffold.Archive
