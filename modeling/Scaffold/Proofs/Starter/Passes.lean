import Scaffold.Proofs.Archive.Defects
import Scaffold.Proofs.Starter.Agreement

/-! # Reading an archive twice

Which directory is left out of the paths of an archive is known once all of its entries are. So an archive can be read
a first time for its paths only, and a second time, entry by entry, while it is laid out. The second reading finds what
the first one found, and laying out the entries that were read at once is the same. Hence what is wrong with an archive
is told before anything is written, and what stops a layout later on concerns one entry.
-/

namespace Scaffold.Overlay

open Archive (Entry Obstacle Zip.Member Tar.Description Stream)

variable {σ : Type} [Storage σ] {overlay : Overlay} {top? : Option String} {written : Nat} {unpack : Archive.Unpack}
  {data : ByteArray}

/-! ## The second reading -/

/-- Lay out a member of a zip archive, which is opened again for its contents. -/
def placeMember (overlay : Overlay) (top? : Option String) (unpack : Archive.Unpack) (data : ByteArray) (written : Nat) (member : Zip.Member) :
    Run σ Interruption Nat := do
  match overlay.target? (Archive.below top? ⟨member.name⟩) with
  | .error obstacle => throw ⟨obstacle, written⟩
  | .ok none => pure written
  | .ok (some target) =>
    if Archive.Zip.namesDirectory member.name then createDirectory written target
    else
      match Archive.Zip.dataStart? unpack data member with
      | none => throw ⟨.unreadableZipEntry, written⟩
      | some start =>
        match Archive.Zip.contents? unpack data member start with
        | some contents => writeFile written target contents (Archive.Zip.mode? member)
        | none => throw ⟨.unreadableContents ⟨member.name⟩, written⟩

/-- Lay out the members of a zip archive one after another. -/
def placeMembers (overlay : Overlay) (top? : Option String) (unpack : Archive.Unpack) (data : ByteArray) :
    Nat → List Zip.Member → Run σ Interruption Nat
  | written, [] => pure written
  | written, member :: rest => do
    let written ← overlay.placeMember top? unpack data written member
    overlay.placeMembers top? unpack data written rest

/-- Lay out a tape from a position on, each entry before the next header is read. -/
def placeTape (overlay : Overlay) (top? : Option String) (stream : Stream) :
    Nat → Nat → Tar.Description → Nat → Run σ Interruption Nat
  | 0, _, _, written => throw ⟨.unreadableTarEntry, written⟩
  | fuel + 1, position, description, written =>
    match Archive.Tar.find stream position description with
    | .nothing => throw ⟨.unreadableTarEntry, written⟩
    | .finish => pure written
    | .member none next onward => overlay.placeTape top? stream fuel next onward written
    | .member (some entry) next onward => do
      let written ← overlay.place top? written entry
      overlay.placeTape top? stream fuel next onward written

/-- The directory at the top of the entries that were read, of which only paths and kinds are looked at. -/
def topOf? (entries : List Entry) : Option String := Archive.commonTop? (entries.map Entry.outline)

/-- Lay out a tape that is read twice. -/
def tapeTwice (overlay : Overlay) (stream : Stream) : Run σ Interruption Nat :=
  match Archive.Tar.entries? stream with
  | none => throw ⟨.unreadableTarEntry, 0⟩
  | some entries =>
    overlay.placeTape (topOf? entries) stream (stream.bytes.size / Archive.Tar.blockSize + 1) 0 {} 0

/-- Lay out a zip archive that is read twice. -/
def zipTwice (overlay : Overlay) (unpack : Archive.Unpack) (data : ByteArray) : Run σ Interruption Nat :=
  match Archive.Zip.listed? data with
  | none => throw ⟨.unopenableZip, 0⟩
  | some members =>
    match members.mapM (Archive.Zip.entryOf unpack data) with
    | .error obstacle => throw ⟨obstacle, 0⟩
    | .ok entries => overlay.placeMembers (topOf? entries) unpack data 0 members

/-- Lay out an archive that is read twice. -/
def extractTwice (overlay : Overlay) (unpack : Archive.Unpack) (data : ByteArray) : Run σ Interruption Nat :=
  match Archive.format? data with
  | none => throw ⟨.unsupportedFormat, 0⟩
  | some .zip => overlay.zipTwice unpack data
  | some .compressedTar => overlay.tapeTwice (Archive.Gzip.stream data)
  | some .tar => overlay.tapeTwice ⟨data, true⟩

/-- A member that was opened once is opened again with the same contents. -/
theorem placeMember_eq {member : Zip.Member} {entry : Entry} (read : Archive.Zip.entryOf unpack data member = .ok entry) :
    (overlay.placeMember top? unpack data written member : Run σ _ _) = overlay.place top? written entry := by
  unfold Archive.Zip.entryOf at read
  split at read
  · cases read
  · rename_i start opened
    split at read
    · cases read
      rw [placeMember, place]
      cases overlay.target? (Archive.below top? ⟨member.name⟩) with
      | error obstacle => rfl
      | ok target? =>
        cases target? with
        | none => rfl
        | some target =>
          generalize Archive.Zip.dataStart? unpack data member = start? at opened
          subst opened
          rfl
    · cases read

theorem placeMembers_eq {members : List Zip.Member} {entries : List Entry}
    (read : members.mapM (Archive.Zip.entryOf unpack data) = .ok entries) :
    (overlay.placeMembers top? unpack data written members : Run σ _ _) = overlay.placeAll top? written entries := by
  induction members generalizing written entries with
  | nil =>
    cases read
    rfl
  | cons member rest ih =>
    rw [List.mapM_cons] at read
    cases opened : Archive.Zip.entryOf unpack data member with
    | error obstacle =>
      rw [opened] at read
      cases read
    | ok entry =>
      cases others : rest.mapM (Archive.Zip.entryOf unpack data) with
      | error obstacle =>
        rw [opened, others] at read
        cases read
      | ok later =>
        rw [opened, others] at read
        cases read
        rw [placeMembers, placeAll, placeMember_eq opened]
        exact bind_congr fun count => ih others

theorem placeTape_eq {stream : Stream} {fuel position : Nat} {description : Tar.Description} {entries : List Entry}
    (read : Archive.Tar.entriesFrom stream fuel position description = some entries) :
    (overlay.placeTape top? stream fuel position description written : Run σ _ _) =
      overlay.placeAll top? written entries := by
  induction fuel generalizing position description written entries with
  | zero => cases read
  | succ fuel ih =>
    rw [Archive.Tar.entriesFrom_succ] at read
    rw [placeTape]
    cases found : Archive.Tar.find stream position description with
    | nothing =>
      rw [found] at read
      cases read
    | finish =>
      rw [found] at read
      cases read
      rfl
    | member item? next onward =>
      rw [found] at read
      obtain ⟨later, others, rfl⟩ := Option.map_eq_some_iff.mp read
      cases item? with
      | none => exact ih others
      | some entry =>
        rw [Option.toList_some, List.singleton_append, placeAll]
        exact bind_congr fun count => ih others

theorem tapeTwice_eq (overlay : Overlay) (stream : Stream) :
    (overlay.tapeTwice stream : Run σ _ _) =
      match Archive.tarEntries stream with
      | .error obstacle => throw ⟨obstacle, 0⟩
      | .ok entries => overlay.placeAll (Archive.commonTop? entries) 0 entries := by
  rw [tapeTwice, Archive.tarEntries]
  cases read : Archive.Tar.entries? stream with
  | none => rfl
  | some entries =>
    dsimp only
    rw [topOf?, Archive.commonTop?_outline]
    exact placeTape_eq read

theorem zipTwice_eq (overlay : Overlay) (unpack : Archive.Unpack) (data : ByteArray) :
    (overlay.zipTwice unpack data : Run σ _ _) =
      match Archive.Zip.entries unpack data with
      | .error obstacle => throw ⟨obstacle, 0⟩
      | .ok entries => overlay.placeAll (Archive.commonTop? entries) 0 entries := by
  rw [zipTwice, Archive.Zip.entries_eq]
  cases Archive.Zip.listed? data with
  | none => rfl
  | some members =>
    dsimp only
    cases read : members.mapM (Archive.Zip.entryOf unpack data) with
    | error obstacle => rfl
    | ok entries =>
      dsimp only
      rw [topOf?, Archive.commonTop?_outline]
      exact placeMembers_eq read

/-- Reading an archive a second time while it is laid out is the same as laying out what was read at first. -/
theorem extractTwice_eq (overlay : Overlay) (unpack : Archive.Unpack) (data : ByteArray) :
    (overlay.extractTwice unpack data : Run σ _ _) = overlay.extract unpack data := by
  rw [extractTwice, extract, Archive.entries]
  rcases Archive.format? data with _ | _ | _ | _
  · rfl
  · exact zipTwice_eq overlay unpack data
  · exact tapeTwice_eq overlay _
  · exact tapeTwice_eq overlay _

/-! ## What stops a layout -/

/-- The obstacle that is told of a failed call. -/
def obstacleOf? : FileCall → IoError → Option Obstacle
  | .createDirs path, error => some (.notCreated path error.message)
  | .write path _, error => some (.notWritten path error.message)
  | .setMode path _, error => some (.modeNotSet path error.message)
  | _, _ => none

/-- What stops a layout of entries: a path that escapes, an entry without its contents, or the call with which the
session ends. -/
inductive Stops (entries : List Entry) (after : Session σ) : Obstacle → Prop
  | refused (path : Path) (escapes : path.Escapes) : Stops entries after (.unsafePath path)
  | unreadable (entry : Entry) (member : entry ∈ entries) (missing : entry.contents? = none) :
      Stops entries after (.unreadableContents entry.path)
  | failed (call : FileCall) (error : IoError) (obstacle : Obstacle)
      (last : after.log.head? = some (.files call (some error))) (told : obstacleOf? call error = some obstacle) :
      Stops entries after obstacle

/-- A step that fails only for what stops a layout of entries. -/
def StopsBy {α : Type} (entries : List Entry) (step : Run σ Interruption α) : Prop :=
  ∀ session interruption after, step.apply session = (.error interruption, after) →
    Stops entries after interruption.obstacle

section

variable {α β : Type} {entries rest : List Entry} {entry : Entry} {target : Path} {after : Session σ}

omit [Storage σ] in
theorem stopsBy_pure (value : α) : StopsBy entries (pure value : Run σ Interruption α) := by
  rintro session interruption after ⟨⟩

omit [Storage σ] in
theorem stopsBy_throw {interruption : Interruption}
    (stops : ∀ session : Session σ, Stops entries session interruption.obstacle) :
    StopsBy entries (throw interruption : Run σ Interruption α) := by
  rintro session _ after ⟨⟩
  exact stops session

omit [Storage σ] in
theorem stopsBy_bind {step : Run σ Interruption α} {next : α → Run σ Interruption β} (first : StopsBy entries step)
    (onward : ∀ value, StopsBy entries (next value)) : StopsBy entries (step >>= next) := by
  intro session interruption after failed
  rcases Run.bind_eq_error failed with failed | ⟨value, middle, _, failed⟩
  · exact first _ _ _ failed
  · exact onward value _ _ _ failed

theorem stopsBy_call {file : FileCall} {obstacle : String → Obstacle}
    (told : ∀ error, obstacleOf? file error = some (obstacle error.message)) :
    StopsBy entries (call written obstacle (Run.call file) : Run σ _ _) := by
  intro session interruption after failed
  obtain ⟨error, stopped, rfl⟩ := Run.mapError_eq_error.mp failed
  have logged := (Session.leads_of_answer stopped).log
  exact .failed file error _ (by rw [logged]; rfl) (told error)

theorem createDirectory_stops : StopsBy entries (createDirectory written target : Run σ _ _) :=
  stopsBy_bind (stopsBy_call fun _ => rfl) fun _ => stopsBy_pure _

theorem writeFile_stops {contents : ByteArray} {mode? : Option Nat} :
    StopsBy entries (writeFile written target contents mode? : Run σ _ _) := by
  have parent : StopsBy entries (createParent written target : Run σ _ _) := by
    unfold createParent
    split
    · exact stopsBy_call fun _ => rfl
    · exact stopsBy_pure _
  have mode : StopsBy entries (applyMode (written + 1) target mode? : Run σ _ _) := by
    unfold applyMode
    split
    · exact stopsBy_call fun _ => rfl
    · exact stopsBy_pure _
  exact stopsBy_bind parent fun _ => stopsBy_bind (stopsBy_call fun _ => rfl) fun _ => stopsBy_bind mode fun _ =>
    stopsBy_pure _

/-- What stops the layout of one entry. -/
theorem place_stops (member : entry ∈ entries) : StopsBy entries (overlay.place top? written entry : Run σ _ _) := by
  unfold place
  split
  · rename_i obstacle aimed
    obtain ⟨escapes, rfl⟩ := target?_eq_error.mp aimed
    exact stopsBy_throw fun _ => .refused _ escapes
  · exact stopsBy_pure _
  · split
    · exact createDirectory_stops
    · split
      · exact writeFile_stops
      · rename_i missing
        exact stopsBy_throw fun _ => .unreadable entry member missing

theorem placeAll_stops (within : rest ⊆ entries) : StopsBy entries (overlay.placeAll top? written rest : Run σ _ _) := by
  induction rest generalizing written with
  | nil => exact stopsBy_pure _
  | cons entry others ih =>
    exact stopsBy_bind (place_stops (within List.mem_cons_self)) fun _ => ih (List.subset_of_cons_subset within)

omit [Storage σ] in
/-- The contents of what a tape holds can be read. -/
theorem contents_of_tape {stream : Stream} (read : Archive.tarEntries stream = .ok entries) (member : entry ∈ entries) :
    entry.contents? ≠ none := by
  have read := Archive.tarEntries_eq_ok read
  rw [Archive.Tar.entries?_eq] at read
  obtain ⟨members, _, rfl⟩ := Option.map_eq_some_iff.mp read
  obtain ⟨header, _, told⟩ := List.mem_filterMap.mp member
  unfold Archive.Tar.Member.entryOf? at told
  split at told <;> cases told <;> nofun

omit [Storage σ] in
/-- Only what is in a zip archive can turn out to be unreadable once the archive was read. -/
theorem Stops.zip_of_unreadable {path : Path} {obstacle : Obstacle} (stops : Stops entries after obstacle)
    (read : Archive.entries unpack data = .ok entries) (unreadable : obstacle = .unreadableContents path) :
    Archive.format? data = some .zip := by
  cases stops with
  | refused _ _ => cases unreadable
  | failed call error _ _ told =>
    subst unreadable
    cases call <;> cases told
  | unreadable entry member missing =>
    cases form : Archive.format? data with
    | none =>
      rw [Archive.entries, form] at read
      cases read
    | some format =>
      have taped : ∀ stream, Archive.tape? data = some stream → False := fun stream tape =>
        contents_of_tape ((Archive.entries_of_tape tape).symm.trans read) member missing
      cases format with
      | zip => rfl
      | compressedTar => exact (taped _ (by rw [Archive.tape?, form])).elim
      | tar => exact (taped _ (by rw [Archive.tape?, form])).elim

/-- An archive can as well be read again while it is laid out. If it is malformed, that is told before anything is
written; what is told once something was written is that a path is refused, that a call failed or, of a zip archive only,
that the contents of an entry cannot be read. -/
theorem extract_tells_defects_first (overlay : Overlay) (unpack : Archive.Unpack) (data : ByteArray)
    (session : Session σ) :
    (overlay.extractTwice unpack data : Run σ _ _) = overlay.extract unpack data ∧
      (∀ defect, Archive.Malformed unpack data defect → ∃ told, Archive.Malformed unpack data told ∧
        (overlay.extract unpack data).apply session = (.error ⟨told, 0⟩, session)) ∧
      ∀ interruption after, (overlay.extract unpack data).apply session = (.error interruption, after) →
        0 < interruption.written → ∃ entries, Archive.entries unpack data = .ok entries ∧
          Stops entries after interruption.obstacle ∧
          ∀ path, interruption.obstacle = .unreadableContents path → Archive.format? data = some .zip := by
  refine ⟨extractTwice_eq overlay unpack data, fun defect malformed => ?_, fun interruption after failed counted => ?_⟩
  · obtain ⟨told, unread⟩ := malformed.entries
    refine ⟨told, Archive.malformed_of_entries unread, ?_⟩
    rw [extract, unread]
    rfl
  · rw [extract] at failed
    cases read : Archive.entries unpack data with
    | error obstacle =>
      rw [read] at failed
      cases failed
      cases counted
    | ok entries =>
      rw [read] at failed
      have stops := placeAll_stops (List.Subset.refl entries) _ _ _ failed
      exact ⟨entries, rfl, stops, fun path unreadable => stops.zip_of_unreadable read unreadable⟩

end

/-- A zip archive of two files, the second of which does not have the contents that its checksum tells. -/
def spoiltZip : ByteArray := (storedMembers [("a", 0o100644, "1"), ("b", 0o100644, "2")]).set! 63 'X'.toNat.toUInt8

/-- The first file was written before the second one was found to be spoilt. -/
theorem extract_tells_defects_first_spoilt :
    ∃ interruption after,
      ((⟨⟨"/app"⟩, []⟩ : Overlay).extract .nothing spoiltZip).apply Acquisition.emptySession = (.error interruption, after) ∧
        0 < interruption.written ∧ interruption.obstacle = .unreadableContents ⟨"b"⟩ ∧
        ∃ entries, Archive.entries .nothing spoiltZip = .ok entries ∧ Stops entries after interruption.obstacle := by
  have stopped : (((⟨⟨"/app"⟩, []⟩ : Overlay).extract .nothing spoiltZip).apply Acquisition.emptySession).1 =
      .error ⟨.unreadableContents ⟨"b"⟩, 1⟩ := by
    decide +kernel
  rcases ran : ((⟨⟨"/app"⟩, []⟩ : Overlay).extract .nothing spoiltZip).apply Acquisition.emptySession with ⟨outcome, after⟩
  obtain rfl : outcome = .error ⟨.unreadableContents ⟨"b"⟩, 1⟩ := (congrArg Prod.fst ran).symm.trans stopped
  obtain ⟨entries, read, stops, _⟩ := (extract_tells_defects_first _ _ _ _).2.2 _ _ ran Nat.one_pos
  exact ⟨_, after, rfl, Nat.one_pos, rfl, entries, read, stops⟩

end Scaffold.Overlay
