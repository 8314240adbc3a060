import Scaffold.Proofs.Starter.Download

/-! # What a download leaves that touched nothing

A setback tells whether an entry was counted, and a file counts only once it is written. The directory that was made
for it just before does not count. So a download that reports nothing touched has created and changed no file, and it
leaves the directories as they were too, unless its last call was the write of a file that failed in a directory that
was not there before.
-/

namespace Scaffold

namespace Session

variable {before after : Session (Faulty FileTree)}

/-- The last call since a session was a write that failed. -/
def EndsWriting (target : Path) (before after : Session (Faulty FileTree)) : Prop :=
  ∃ contents error events, after.log = .files (.write target contents) (some error) :: (events ++ before.log)

/-- A session that only reads does not end with a write. -/
theorem Advances.not_endsWriting {target : Path} (advance : before.Advances Event.Reads after) :
    ¬ before.EndsWriting target after := by
  rintro ⟨contents, error, events, last⟩
  obtain ⟨read, leads, fit⟩ := advance
  rw [leads.log, ← List.cons_append, List.append_cancel_right_eq] at last
  have member : Event.files (.write target contents) (some error) ∈ read :=
    List.mem_reverse.mp (last ▸ List.mem_cons_self)
  cases fit _ member

/-- The last call is the one at the head of the log. -/
theorem EndsWriting.of_log {target : Path} {file : FileCall} {error? : Option IoError} {events : List Event}
    (ends : before.EndsWriting target after) (last : after.log = .files file error? :: events) :
    ∃ contents, file = .write target contents := by
  obtain ⟨contents, error, _, log⟩ := ends
  rw [last] at log
  injection log with same _
  injection same with same _
  exact ⟨contents, same⟩

theorem EndsWriting.unique {target other : Path} (left : before.EndsWriting target after)
    (right : before.EndsWriting other after) : target = other := by
  obtain ⟨_, _, _, log⟩ := left
  obtain ⟨_, same⟩ := right.of_log log
  injection same

end Session

namespace Overlay.Cleared

variable {directory : Path} {before after : FileTree}

theorem resolve (cleared : Cleared directory before after) (path : Path) : after.resolve path = before.resolve path := by
  rcases cleared with rfl | removed
  · rfl
  · rw [(FileTree.remove_eq_ok.mp removed).2]
    rfl

/-- Removing a file leaves the directories. -/
theorem isDirectoryAt (cleared : Cleared directory before after) (route : Route) :
    after.isDirectoryAt route = before.isDirectoryAt route := by
  rcases cleared with rfl | removed
  · rfl
  · obtain ⟨contents, file⟩ := FileTree.isFileAt_iff.mp (FileTree.remove_eq_ok.mp removed).1
    unfold FileTree.isDirectoryAt
    rw [FileTree.get?_remove removed]
    by_cases same : before.resolve (manifestPath directory) = route
    · rw [if_pos same, ← same, file]
    · rw [if_neg same]

theorem file (cleared : Cleared directory before after) {route : Route} {contents : ByteArray}
    (present : after.get? route = some (.file contents)) : before.get? route = some (.file contents) := by
  rcases cleared with rfl | removed
  · exact present
  · rw [FileTree.get?_remove removed] at present
    split at present
    · cases present
    · exact present

end Overlay.Cleared

namespace Devfile.StarterProject

open Overlay (Cleared)

variable {starter : StarterProject} {directory : Path} {session middle after : Session (Faulty FileTree)} {cause : Cause}

/-- No directory above the file that the last call failed to write had to be made. -/
def FoundDirectories (session after : Session (Faulty FileTree)) : Prop :=
  ∀ target parent, session.EndsWriting target after → target.parent? = some parent →
    ∀ above ∈ (session.files.inner.resolve parent).ancestors, session.files.inner.isDirectoryAt above = true

/-- What a download leaves that touched nothing: the tree, perhaps without the manifest, and besides that at most the
directory of the file that the last call failed to write. -/
inductive Leaves (directory : Path) (session after : Session (Faulty FileTree)) : Prop
  | kept (cleared : Cleared directory session.files.inner after.files.inner)
      (unmade : ∀ target, session.EndsWriting target after → target.parent? = none)
  | made (tree : FileTree) (target parent : Path) (cleared : Cleared directory session.files.inner tree)
      (ends : session.EndsWriting target after) (climbed : target.parent? = some parent)
      (created : tree.createDirs parent = .ok after.files.inner)

theorem Leaves.cleared_iff (leaves : Leaves directory session after) :
    Cleared directory session.files.inner after.files.inner ↔ FoundDirectories session after := by
  cases leaves with
  | kept cleared unmade =>
    refine ⟨fun _ target parent ends climbed => ?_, fun _ => cleared⟩
    rw [unmade target ends] at climbed
    cases climbed
  | made tree target parent cleared ends climbed created =>
    obtain ⟨free, same⟩ := FileTree.createDirs_eq_ok.mp created
    rw [cleared.resolve] at free same
    constructor
    · intro untouched other above otherEnds otherClimbed route member
      obtain rfl := ends.unique otherEnds
      rw [climbed] at otherClimbed
      obtain rfl := Option.some.inj otherClimbed
      rw [← untouched.isDirectoryAt, same]
      exact FileTree.isDirectoryAt_addDirs free member
    · intro found
      have nothing : after.files.inner = tree := by
        rw [same]
        refine FileTree.addDirs_eq_self fun route member => ?_
        have directories := found target parent ends climbed route member
        rw [← cleared.isDirectoryAt, FileTree.isDirectoryAt_iff] at directories
        simp [directories]
      exact nothing ▸ cleared

/-- Every file that is left was there before, with the same contents. -/
theorem Leaves.file (leaves : Leaves directory session after) {route : Route} {contents : ByteArray}
    (present : after.files.inner.get? route = some (.file contents)) :
    session.files.inner.get? route = some (.file contents) := by
  cases leaves with
  | kept cleared _ => exact cleared.file present
  | made tree target parent cleared _ _ created =>
    obtain ⟨_, same⟩ := FileTree.createDirs_eq_ok.mp created
    rw [same, FileTree.get?_addDirs] at present
    refine cleared.file ?_
    split at present
    · cases found : tree.get? route with
      | none => simp [found] at present
      | some node => simpa [found] using present
    · exact present

/-- A call that failed leaves the tree, and only a failed write can have been the last one. -/
private theorem leaves_of_call_error {file : FileCall} {error : IoError}
    (cleared : Cleared directory session.files.inner middle.files.inner)
    (failed : (Run.call file).apply middle = (.error error, after))
    (unmade : ∀ target contents, file = .write target contents → target.parent? = none) :
    Leaves directory session after := by
  refine .kept ((Run.call_error failed).1 ▸ cleared) fun target ends => ?_
  obtain ⟨contents, same⟩ := ends.of_log (Run.log_of_call failed)
  exact unmade target contents same

theorem leaves_of_interrupted {overlay : Overlay} (advance : session.Logs middle)
    (cleared : Cleared directory session.files.inner middle.files.inner)
    (unmade : ∀ target, ¬ session.EndsWriting target middle) (interrupted : overlay.Interrupted middle after) :
    Leaves directory session after := by
  cases interrupted with
  | silent same =>
    subst same
    exact .kept cleared fun target ends => absurd ends (unmade target)
  | creating path error failed => exact leaves_of_call_error cleared failed fun _ _ same => by cases same
  | writing path target contents error ready aimed made failed =>
    cases climbed : target.parent? with
    | none =>
      rw [Overlay.ParentMade, climbed] at made
      subst made
      exact leaves_of_call_error cleared failed fun _ _ same => by
        injection same with same _
        exact same ▸ climbed
    | some parent =>
      rw [Overlay.ParentMade, climbed] at made
      obtain ⟨events, leads, _⟩ := advance.trans (Run.call_logs made)
      have last := Run.log_of_call failed
      rw [leads.log] at last
      refine .made middle.files.inner target parent cleared ⟨contents, error, _, last⟩ climbed ?_
      rw [(Run.call_error failed).1]
      exact Run.createDirs_ok made

theorem download_leaves (failed : (starter.download directory).apply session = (.error ⟨cause, false⟩, after)) :
    Leaves directory session after := by
  rcases (starter.download_endsLayingOut directory).cases failed with
    ⟨_, _, _, advance⟩ | ⟨_, acquired, ⟨overlay, step, rfl, lays, rfl⟩, advance, failed⟩
  · exact .kept (.inl advance.inner) fun target ends => absurd ends advance.not_endsWriting
  · rcases layOut_eq_error failed with ⟨error, failed, _⟩ | ⟨cleared, interruption, clearing, failed, uncounted⟩
    · obtain ⟨answer, removed, _⟩ := Overlay.clearManifest_cases failed
      refine .kept ?_ fun target ends => ?_
      · rw [← advance.inner]
        exact Overlay.clearManifest_cleared failed
      · obtain ⟨_, impossible⟩ := ends.of_log (Run.log_of_call removed)
        cases impossible
    · obtain ⟨answer, removed, _⟩ := Overlay.clearManifest_cases clearing
      refine leaves_of_interrupted
        (advance.logs.trans (Run.call_logs removed)) ?_ (fun target ends => ?_)
        (lays.interrupted failed (by simpa using congrArg Setback.touched uncounted))
      · rw [← advance.inner]
        exact Overlay.clearManifest_cleared clearing
      · obtain ⟨_, impossible⟩ := ends.of_log (Run.log_of_call removed)
        cases impossible

/-- A download that reports nothing touched has created and changed no file; the tree is left as it was, perhaps without
the manifest, exactly if no directory had to be made for the file that the last call failed to write. -/
theorem untouched_iff_foundDirectories
    (failed : (starter.download directory).apply session = (.error ⟨cause, false⟩, after)) :
    (Cleared directory session.files.inner after.files.inner ↔ FoundDirectories session after) ∧
      ∀ route contents, after.files.inner.get? route = some (.file contents) →
        session.files.inner.get? route = some (.file contents) :=
  ⟨(download_leaves failed).cleared_iff, fun _ _ => (download_leaves failed).file⟩

/-! ## A directory that is left behind -/

/-- A zip archive of one file, stored as it is. -/
def storedArchive (path : String) (contents : ByteArray) : ByteArray :=
  let zeros (count : Nat) : List Nat := List.replicate count 0
  let long (value : Nat) : List Nat := [value % 256, value / 256 % 256, value / 65536 % 256, value / 16777216]
  let facts := long (Archive.checksum contents) ++ long contents.size ++ long contents.size ++ [path.length, 0]
  let file := Archive.Zip.memberMagic ++ zeros 10 ++ facts ++ zeros 2 ++ Archive.ascii path ++
    contents.toList.map UInt8.toNat
  let listing := Archive.Zip.directoryMagic ++ zeros 12 ++ facts ++ zeros 16 ++ Archive.ascii path
  let finish := Archive.Zip.endMagic ++ zeros 4 ++ [1, 0, 1, 0] ++ long listing.length ++ long file.length ++ zeros 2
  ⟨((file ++ listing ++ finish).map Nat.toUInt8).toArray⟩

/-- A project with one empty file, two directories deep. -/
def nestedStarter : StarterProject := { name := "s", zip? := some { location := "http://dl.test/s.zip" } }

/-- An empty directory in which the file of the project cannot be written. -/
def refusingSession : Session (Faulty FileTree) :=
  { files :=
      { inner := FileTree.new ⟨"/app"⟩
        faults := [⟨.write, ⟨"/app/src/a"⟩, 0, none, ⟨.other, "refused"⟩⟩]
        special := []
        modes := [] }
    network := { pages := [("http://dl.test/s.zip", [.answer 200 (storedArchive "r/src/a" ByteArray.empty) none true])] } }

private theorem nestedStarter_refused :
    ((nestedStarter.download ⟨"/app"⟩).apply refusingSession).1 =
      .error ⟨.extractFailed "s" "failed to write /app/src/a: refused", false⟩ := by
  decide +kernel

private theorem nestedStarter_not_cleared :
    ¬ Cleared ⟨"/app"⟩ refusingSession.files.inner
      ((nestedStarter.download ⟨"/app"⟩).apply refusingSession).2.files.inner := by
  intro cleared
  have same := cleared.isDirectoryAt [.root, .name "app", .name "src"]
  revert same
  decide +kernel

/-- Nothing is reported touched, though a directory was made. -/
theorem nestedStarter_leaves_directory :
    ((nestedStarter.download ⟨"/app"⟩).apply refusingSession).1 =
        .error ⟨.extractFailed "s" "failed to write /app/src/a: refused", false⟩ ∧
      ¬ Cleared ⟨"/app"⟩ refusingSession.files.inner
        ((nestedStarter.download ⟨"/app"⟩).apply refusingSession).2.files.inner :=
  ⟨nestedStarter_refused, nestedStarter_not_cleared⟩

/-- The file that could not be written is the reason. -/
theorem nestedStarter_not_foundDirectories :
    ((nestedStarter.download ⟨"/app"⟩).apply refusingSession).1 =
        .error ⟨.extractFailed "s" "failed to write /app/src/a: refused", false⟩ ∧
      ¬ FoundDirectories refusingSession ((nestedStarter.download ⟨"/app"⟩).apply refusingSession).2 := by
  refine ⟨nestedStarter_refused, fun found => nestedStarter_not_cleared ?_⟩
  exact (untouched_iff_foundDirectories (Prod.ext nestedStarter_refused rfl)).1.mpr found

end Devfile.StarterProject

end Scaffold
