import Scaffold.Manifest.Edit
import Scaffold.Proofs.Files.Ordered
import Scaffold.Proofs.Manifest.Rereading

/-! # Manifests and their files in step

A manifest at hand goes through a sequence of edits, over a store whose calls may fail at any time. What succeeds
leaves a file that is read as the manifest at hand. What fails leaves the files as they were, and the manifest at hand
too, unless it was to be renamed: it bears its new name from then on, and what is saved later bears it as well.
-/

namespace Scaffold

open Manifest

theorem FileTree.read_of_write {tree after : FileTree} {path : Path} {contents : ByteArray}
    (wrote : tree.write path contents = .ok after) : after.read path = .ok contents := by
  rw [FileTree.read_eq_ok, FileTree.resolve_of_write wrote, FileTree.get?_write wrote, if_pos rfl]

namespace Manifest

variable {manifest : Manifest} {edit : Edit}

theorem withName_eq_self {name : String} :
    manifest.withName name = manifest ↔ manifest.devfile.metadata.name? = some name := by
  constructor
  · intro same
    rw [← same]
    rfl
  · intro named
    rw [withName, Devfile.withName, ← named]

/-- A manifest that was read is read from the bytes that are written for it. -/
theorem Accepted.reread (accepted : manifest.Accepted) (back : manifest.devfile.toValue.ReadsBack)
    (origin : String) : ofContents manifest.contents origin manifest.path = .ok manifest := by
  obtain ⟨_, _, read⟩ := accepted
  obtain ⟨parsed, sound, _⟩ := ofContents_eq_ok.mp read
  exact ofContents_text (Devfile.apart_of_ofContents? parsed) sound back origin manifest.path

/-- Which bytes are a manifest does not depend on their origin. -/
theorem ofContents_anyOrigin {contents : ByteArray} {origin : String} {path : Path}
    (read : ofContents contents origin path = .ok manifest) (other : String) :
    ofContents contents other manifest.path = .ok manifest := by
  obtain ⟨parsed, sound, _⟩ := ofContents_eq_ok.mp read
  exact ofContents_eq_ok.mpr ⟨parsed, sound, rfl⟩

namespace Edit

/-- The manifest that an edit is about: the one at hand, under its new name if it is to be renamed. -/
def subject? (current? : Option Manifest) : Edit → Option Manifest
  | rename name => current?.map fun manifest => manifest.withName name
  | _ => current?

/-- Where the manifest is kept that an edit acquires. -/
def place? : Edit → Option Path
  | stage directory _ _ => some (manifestPath directory)
  | read path => some path
  | _ => none

variable {current? : Option Manifest}

/-- What is at hand stays as it is but for a new name. -/
theorem subject?_eq_self :
    edit.subject? current? = current? ↔
      ∀ name, edit = .rename name → ∀ manifest ∈ current?, manifest.devfile.metadata.name? = some name := by
  cases edit with
  | rename name =>
    cases current? with
    | none => simp [subject?]
    | some manifest => simp [subject?, withName_eq_self]
  | _ => simp [subject?]

theorem subject?_eq_none : edit.subject? current? = none ↔ current? = none := by
  cases edit with
  | rename name => exact Option.map_eq_none_iff
  | _ => exact Iff.rfl

theorem accepted_of_subject? (accepted : ∀ manifest ∈ current?, manifest.Accepted)
    (about : edit.subject? current? = some manifest) (back : manifest.devfile.toValue.ReadsBack) : manifest.Accepted := by
  cases edit with
  | rename name =>
    obtain ⟨old, hand, rfl⟩ := Option.map_eq_some_iff.mp about
    exact ⟨_, "", (accepted old hand).ofContents_withName back⟩
  | _ => exact accepted manifest about

end Edit

end Manifest

/-! ## A manifest on a desk -/

/-- The manifest at hand, if there is one, and the session in which it is edited. -/
structure Desk where
  current? : Option Manifest
  session : Session (Faulty FileTree)

namespace Desk

/-- The files as they are. -/
def tree (desk : Desk) : FileTree := desk.session.files.inner

/-- Edit the manifest at hand. -/
def perform (desk : Desk) (edit : Edit) : Except Cause Unit × Desk :=
  match (edit.perform desk.current? : Run (Faulty FileTree) Empty _).apply desk.session with
  | (.ok (current?, outcome), session) => (outcome, ⟨current?, session⟩)
  | (.error impossible, _) => nomatch impossible

/-- A manifest is what the file at its path is read as, whatever the origin is called. -/
def Filed (desk : Desk) (manifest : Manifest) : Prop :=
  ∃ contents, desk.tree.read manifest.path = .ok contents ∧
    ∀ origin, ofContents contents origin manifest.path = .ok manifest

/-- How an edit comes out. -/
inductive Came (desk : Desk) (edit : Edit) : Except Cause Unit → Desk → Prop
  /-- Another manifest is at hand, as its file is read. -/
  | acquired {after : Desk} {manifest : Manifest} (placed : edit.place? = some manifest.path)
      (hand : after.current? = some manifest) (filed : after.Filed manifest) : Came desk edit (.ok ()) after
  /-- What the edit is about is at hand and was written. -/
  | saved {after : Desk} {manifest : Manifest} (placeless : edit.place? = none)
      (about : edit.subject? desk.current? = some manifest) (hand : after.current? = some manifest)
      (written : after.tree.read manifest.path = .ok manifest.contents) : Came desk edit (.ok ()) after
  /-- Nothing is at hand that could be written. -/
  | idle (placeless : edit.place? = none) (bare : desk.current? = none) : Came desk edit (.ok ()) ⟨none, desk.session⟩
  /-- What the edit is about is at hand, and nothing was written. -/
  | failed {after : Desk} (cause : Cause) (hand : after.current? = edit.subject? desk.current?)
      (still : after.tree = desk.tree) : Came desk edit (.error cause) after

variable {desk after : Desk} {edit : Edit} {manifest : Manifest} {outcome : Except Cause Unit}
  {step : Run (Faulty FileTree) Cause Manifest} {session : Session (Faulty FileTree)}

theorem Filed.accepted (filed : desk.Filed manifest) : manifest.Accepted := by
  obtain ⟨contents, _, read⟩ := filed
  exact ⟨contents, "", read ""⟩

theorem filed_of_stage {directory : Path} {contents : ByteArray} {origin : String}
    (staged : (stage directory contents origin).apply desk.session = (.ok manifest, session)) :
    manifest.path = manifestPath directory ∧ Filed ⟨some manifest, session⟩ manifest := by
  obtain ⟨accepted, wrote⟩ := stage_eq_ok staged
  have place := (ofContents_eq_ok.mp accepted).2.2
  refine ⟨place, contents, ?_, ofContents_anyOrigin accepted⟩
  rw [place]
  exact FileTree.read_of_write (Run.write_ok wrote)

theorem filed_of_read {path : Path} (ran : (read path).apply desk.session = (.ok manifest, session)) :
    manifest.path = path ∧ Filed ⟨some manifest, session⟩ manifest := by
  obtain ⟨contents, told, accepted⟩ := read_eq_ok ran
  obtain ⟨there, still⟩ := Run.read_ok told
  have place := (ofContents_eq_ok.mp accepted).2.2
  refine ⟨place, contents, ?_, ofContents_anyOrigin accepted⟩
  rw [place, tree, still]
  exact there

/-- An edit that acquires a manifest does so or leaves all as it was. -/
theorem came_of_replace
    (same : (edit.perform desk.current? : Run (Faulty FileTree) Empty _) = replace desk.current? step)
    (plain : edit.subject? desk.current? = desk.current?)
    (acquired : ∀ {manifest session}, step.apply desk.session = (.ok manifest, session) →
      edit.place? = some manifest.path ∧ Filed ⟨some manifest, session⟩ manifest)
    (still : ∀ {cause session}, step.apply desk.session = (.error cause, session) →
      session.files.inner = desk.session.files.inner) :
    desk.Came edit (desk.perform edit).1 (desk.perform edit).2 := by
  rw [perform, same, replace, Run.apply_bind_of_ok (Run.apply_attempt _ _)]
  rcases ran : step.apply desk.session with ⟨cause | manifest, session⟩
  · exact .failed cause plain.symm (still ran)
  · exact .acquired (acquired ran).1 rfl (acquired ran).2

/-- An edit that saves what it is about does so or leaves the files as they were. -/
theorem came_of_saved
    (same : (edit.perform desk.current? : Run (Faulty FileTree) Empty _) =
      Edit.perform.saved (edit.subject? desk.current?)) (placeless : edit.place? = none) :
    desk.Came edit (desk.perform edit).1 (desk.perform edit).2 := by
  rw [perform, same]
  cases about : edit.subject? desk.current? with
  | none => exact .idle placeless (Edit.subject?_eq_none.mp about)
  | some manifest =>
    unfold Edit.perform.saved
    rw [Run.apply_bind_of_ok (Run.apply_attempt _ _)]
    rcases ran : manifest.save.apply desk.session with ⟨cause | ⟨⟩, session⟩
    · rw [save, Run.during] at ran
      obtain ⟨error, failed, _⟩ := Run.mapError_eq_error.mp ran
      exact .failed cause about.symm (Run.call_error failed).1
    · have wrote := Run.write_ok (Run.mapError_eq_ok.mp ran)
      exact .saved placeless about rfl (FileTree.read_of_write wrote)

theorem perform_came (desk : Desk) (edit : Edit) : desk.Came edit (desk.perform edit).1 (desk.perform edit).2 := by
  cases edit with
  | stage directory contents origin =>
    refine came_of_replace rfl rfl (fun staged => ?_) fun failed => ?_
    · obtain ⟨place, filed⟩ := filed_of_stage staged
      exact ⟨congrArg some place.symm, filed⟩
    · rcases stage_eq_error failed with rfl | ⟨error, refused⟩
      · rfl
      · exact (Run.call_error refused).1
  | read path =>
    refine came_of_replace rfl rfl (fun ran => ?_) fun failed => ?_
    · obtain ⟨place, filed⟩ := filed_of_read ran
      exact ⟨congrArg some place.symm, filed⟩
    · exact ((read_looks path).reads.advances failed).inner
  | rename name => exact came_of_saved rfl rfl
  | save => exact came_of_saved rfl rfl

/-- What is at hand was read from some bytes, before an edit and after it. -/
theorem Came.accepted (came : desk.Came edit outcome after) (start : ∀ manifest ∈ desk.current?, manifest.Accepted)
    (back : ∀ manifest ∈ after.current?, manifest.devfile.toValue.ReadsBack) :
    ∀ manifest ∈ after.current?, manifest.Accepted := by
  intro manifest member
  cases came with
  | acquired _ hand filed => exact Option.some.inj (hand.symm.trans member) ▸ filed.accepted
  | saved _ about hand _ => exact Edit.accepted_of_subject? start (about.trans (hand.symm.trans member)) (back _ member)
  | idle => cases member
  | failed _ hand _ => exact Edit.accepted_of_subject? start (hand.symm.trans member) (back _ member)

/-! ## A sequence of edits -/

/-- An edit with what it came from and what it came to. -/
structure Moment where
  before : Desk
  edit : Edit
  outcome : Except Cause Unit
  after : Desk

/-- The edits of a sequence as they are made, one after the other. -/
def history (desk : Desk) : List Edit → List Moment
  | [] => []
  | edit :: rest => ⟨desk, edit, (desk.perform edit).1, (desk.perform edit).2⟩ :: (desk.perform edit).2.history rest

/-- What an edit does to the manifest at hand and to the files. -/
structure Moment.InStep (moment : Moment) : Prop where
  /-- After an edit that succeeds, what is at hand is what its file is read as. -/
  filed : moment.outcome = .ok () → ∀ manifest ∈ moment.after.current?, moment.after.Filed manifest
  /-- What was to be staged or read is then at hand. -/
  acquired : moment.outcome = .ok () → ∀ path ∈ moment.edit.place?,
    ∃ manifest ∈ moment.after.current?, manifest.path = path
  /-- An edit that fails changes no file. -/
  still : ∀ cause, moment.outcome = .error cause → moment.after.tree = moment.before.tree
  /-- It changes what is at hand just if this was to be given another name. -/
  kept : ∀ cause, moment.outcome = .error cause →
    (moment.after.current? = moment.before.current? ↔
      ∀ name, moment.edit = .rename name → ∀ manifest ∈ moment.before.current?,
        manifest.devfile.metadata.name? = some name)
  /-- What is renamed bears its new name, saved or not. -/
  named : ∀ name, moment.edit = .rename name →
    moment.after.current? = moment.before.current?.map fun manifest => manifest.withName name
  /-- What is saved is what was at hand. -/
  same : moment.edit = .save → moment.after.current? = moment.before.current?

/-- What is at hand after an edit that acquires nothing is what the edit is about. -/
theorem Came.current?_eq (came : desk.Came edit outcome after) (placeless : edit.place? = none) :
    after.current? = edit.subject? desk.current? := by
  cases came with
  | acquired placed => exact absurd (placeless.symm.trans placed) nofun
  | saved _ about hand => rw [hand, about]
  | idle _ bare => exact (Edit.subject?_eq_none.mpr bare).symm
  | failed _ hand => exact hand

theorem Came.inStep (came : desk.Came edit outcome after) (start : ∀ manifest ∈ desk.current?, manifest.Accepted)
    (back : ∀ manifest ∈ after.current?, manifest.devfile.toValue.ReadsBack) :
    Moment.InStep ⟨desk, edit, outcome, after⟩ where
  filed := by
    rintro rfl manifest member
    have accepted := came.accepted start back manifest member
    cases came with
    | acquired _ hand filed => exact Option.some.inj (hand.symm.trans member) ▸ filed
    | saved _ _ hand written =>
      obtain rfl := Option.some.inj (hand.symm.trans member)
      exact ⟨_, written, accepted.reread (back _ member)⟩
    | idle => cases member
  acquired := by
    rintro rfl path placed
    cases came with
    | acquired place hand => exact ⟨_, hand, Option.some.inj (place.symm.trans placed)⟩
    | saved placeless | idle placeless => exact absurd (placeless.symm.trans placed) nofun
  still := by
    rintro cause rfl
    cases came with
    | failed _ _ still => exact still
  kept := by
    rintro cause rfl
    cases came with
    | failed _ hand =>
      rw [hand]
      exact Edit.subject?_eq_self
  named := by
    rintro name rfl
    exact came.current?_eq rfl
  same := by
    rintro rfl
    exact came.current?_eq rfl

/-- Whichever calls fail, each edit of a sequence leaves the manifest at hand and its file in step. -/
theorem history_inStep {edits : List Edit} (start : ∀ manifest ∈ desk.current?, manifest.Accepted)
    (back : ∀ moment ∈ desk.history edits, ∀ manifest ∈ moment.after.current?, manifest.devfile.toValue.ReadsBack) :
    ∀ moment ∈ desk.history edits, moment.InStep := by
  induction edits generalizing desk with
  | nil => exact fun _ member => absurd member List.not_mem_nil
  | cons edit rest ih =>
    have came := desk.perform_came edit
    rw [history, List.forall_mem_cons] at back ⊢
    obtain ⟨firstBack, restBack⟩ := back
    exact ⟨came.inStep start firstBack, ih (came.accepted start firstBack) restBack⟩

/-- Nothing is at hand, and of two writes of the manifest the second fails. -/
def strainedDesk : Desk :=
  { current? := none
    session :=
      { files :=
          { inner := FileTree.new ⟨"/app"⟩
            faults := [⟨.write, ⟨"/app/devfile.yaml"⟩, 1, some 1, ⟨.storageFull, "full"⟩⟩]
            special := []
            modes := [] } } }

/-- Stage a manifest, give it another name and save it. -/
def newNameEdits : List Edit :=
  [.stage ⟨"/app"⟩ "schemaVersion: 2.2.0\nmetadata:\n  name: one\n".toUTF8 "test", .rename "two", .save]

theorem history_inStep_strained :
    (∀ moment ∈ strainedDesk.history newNameEdits, ∀ manifest ∈ moment.after.current?,
      manifest.devfile.toValue.ReadsBack) ∧
    ∀ moment ∈ strainedDesk.history newNameEdits, moment.InStep := by
  have back : ∀ moment ∈ strainedDesk.history newNameEdits, ∀ manifest ∈ moment.after.current?,
      manifest.devfile.toValue.ReadsBack := by
    decide +kernel
  exact ⟨back, history_inStep nofun back⟩

/-- The new name that could not be written is at hand all the same, and in the file once that is saved. -/
theorem strainedDesk_keeps_name :
    (strainedDesk.history newNameEdits).map (fun moment =>
      (moment.outcome, moment.after.current?.bind (·.devfile.metadata.name?),
        moment.after.tree.contents? ⟨"/app/devfile.yaml"⟩)) =
      [(.ok (), some "one", some "schemaVersion: 2.2.0\nmetadata:\n  name: one\n"),
        (.error (.io "write devfile" ⟨"/app/devfile.yaml"⟩ "full"), some "two",
          some "schemaVersion: 2.2.0\nmetadata:\n  name: one\n"),
        (.ok (), some "two", some "schemaVersion: 2.2.0\nmetadata:\n  name: two\n")] := by
  decide +kernel

end Desk

end Scaffold
