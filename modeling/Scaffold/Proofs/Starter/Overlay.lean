import Scaffold.Proofs.Session.Files
import Scaffold.Proofs.Starter.Target

/-! # What an interrupted layout leaves

A layout that is interrupted before any entry counts has skipped all entries up to the one it failed on, so that only
the calls for this entry can have changed anything. The one that can is the call that makes the directory of a file:
where the file can then not be written, that directory stays without being counted.
-/

namespace Scaffold.Overlay

open Archive (Obstacle)

variable {σ : Type} [Storage σ] {overlay : Overlay} {session middle after : Session σ}

/-! ## Interruptions -/

/-- The directory that a file is to be written in was made, if the path tells one. -/
def ParentMade (target : Path) (session middle : Session σ) : Prop :=
  match target.parent? with
  | some parent => (Run.createDirs parent).apply session = (.ok (), middle)
  | none => middle = session

/-- How a layout stops before any entry counts: before any call, or with a failed call that makes a directory, or
with the failed write of a file whose directory was made. -/
inductive Interrupted (overlay : Overlay) (session after : Session σ) : Prop
  | silent (same : after = session)
  | creating (path : Path) (error : IoError) (failed : (Run.createDirs path).apply session = (.error error, after))
  | writing (path target : Path) (contents : ByteArray) (error : IoError) (middle : Session σ)
      (aimed : overlay.target? path = .ok (some target)) (ready : ParentMade target session middle)
      (failed : (Run.write target contents).apply middle = (.error error, after))

/-- A layout that starts to count with its first entry. -/
def Lays (overlay : Overlay) (step : Run σ Interruption Nat) : Prop :=
  (∃ obstacle, step = throw ⟨obstacle, 0⟩) ∨ ∃ top? entries stop?, step = overlay.placeListed top? entries stop?

/-- A layout of entries of which no one is missing. -/
theorem placeListed_none (overlay : Overlay) (top? : Option String) (entries : List Archive.Entry) :
    (overlay.placeListed top? entries none : Run σ _ _) = overlay.placeAll top? 0 entries :=
  bind_pure _

section

variable {written count : Nat} {interruption : Interruption} {target : Path} {contents : ByteArray}
  {mode? : Option Nat} {top? : Option String} {entry : Archive.Entry} {entries : List Archive.Entry}

omit [Storage σ] in
theorem call_eq_error {α : Type} {obstacle : String → Obstacle} {step : Run σ IoError α}
    (failed : (call written obstacle step).apply session = (.error interruption, after)) :
    interruption.written = written ∧ ∃ error, step.apply session = (.error error, after) := by
  obtain ⟨error, stopped, rfl⟩ := Run.mapError_eq_error.mp failed
  exact ⟨rfl, error, stopped⟩

theorem createDirectory_eq_error
    (failed : (createDirectory written target).apply session = (.error interruption, after)) :
    interruption.written = written ∧ overlay.Interrupted session after := by
  rcases Run.bind_eq_error failed with failed | ⟨_, _, _, impossible⟩
  · obtain ⟨counted, error, stopped⟩ := call_eq_error failed
    exact ⟨counted, .creating target error stopped⟩
  · cases impossible

theorem createParent_eq_ok (made : (createParent written target).apply session = (.ok (), after)) :
    ParentMade target session after := by
  unfold createParent at made
  unfold ParentMade
  cases climbed : target.parent? with
  | some parent =>
    rw [climbed] at made
    exact Run.mapError_eq_ok.mp made
  | none =>
    rw [climbed] at made
    exact (Prod.mk.inj made).2.symm

theorem writeFile_eq_ok (wrote : (writeFile written target contents mode?).apply session = (.ok count, after)) :
    count = written + 1 := by
  obtain ⟨_, _, _, rest⟩ := Run.bind_eq_ok wrote
  obtain ⟨_, _, _, rest⟩ := Run.bind_eq_ok rest
  obtain ⟨_, _, _, returned⟩ := Run.bind_eq_ok rest
  cases returned
  rfl

/-- A file that was written counts even if its permission bits could not be set. -/
theorem writeFile_eq_error {path : Path} (aimed : overlay.target? path = .ok (some target))
    (failed : (writeFile written target contents mode?).apply session = (.error interruption, after)) :
    (interruption.written = written ∧ overlay.Interrupted session after) ∨ interruption.written = written + 1 := by
  rcases Run.bind_eq_error failed with failed | ⟨_, middle, made, failed⟩
  · unfold createParent at failed
    split at failed
    · rename_i parent _
      obtain ⟨counted, error, stopped⟩ := call_eq_error failed
      exact .inl ⟨counted, .creating parent error stopped⟩
    · cases failed
  · rcases Run.bind_eq_error failed with failed | ⟨_, _, _, failed⟩
    · obtain ⟨counted, error, stopped⟩ := call_eq_error failed
      exact .inl ⟨counted, .writing path target contents error middle aimed (createParent_eq_ok made) stopped⟩
    · right
      rcases Run.bind_eq_error failed with failed | ⟨_, _, _, impossible⟩
      · unfold applyMode at failed
        split at failed
        · exact (call_eq_error failed).1
        · cases failed
      · cases impossible

/-- An entry that was skipped changed nothing, and an entry that was laid out counts. -/
theorem place_eq_ok (placed : (overlay.place top? written entry).apply session = (.ok count, after)) :
    (count = written ∧ after = session) ∨ count = written + 1 := by
  unfold place at placed
  split at placed
  · cases placed
  · cases placed
    exact .inl ⟨rfl, rfl⟩
  · right
    split at placed
    · obtain ⟨_, _, _, returned⟩ := Run.bind_eq_ok placed
      cases returned
      rfl
    · split at placed
      · exact writeFile_eq_ok placed
      · cases placed

theorem place_eq_error (failed : (overlay.place top? written entry).apply session = (.error interruption, after)) :
    (interruption.written = written ∧ overlay.Interrupted session after) ∨ interruption.written = written + 1 := by
  unfold place at failed
  split at failed
  · cases failed
    exact .inl ⟨rfl, .silent rfl⟩
  · cases failed
  · rename_i aimed
    split at failed
    · exact .inl (createDirectory_eq_error failed)
    · split at failed
      · exact writeFile_eq_error aimed failed
      · cases failed
        exact .inl ⟨rfl, .silent rfl⟩

/-- A layout never loses count, and where it did not count further nothing but its last entry was begun. -/
theorem placeAll_eq_error
    (failed : (overlay.placeAll top? written entries).apply session = (.error interruption, after)) :
    written ≤ interruption.written ∧ (interruption.written = written → overlay.Interrupted session after) := by
  induction entries generalizing written session with
  | nil => cases failed
  | cons entry rest ih =>
    rcases Run.bind_eq_error failed with failed | ⟨count, middle, placed, failed⟩
    · rcases place_eq_error failed with ⟨same, interrupted⟩ | counted
      · exact ⟨Nat.le_of_eq same.symm, fun _ => interrupted⟩
      · exact ⟨by omega, fun same => by omega⟩
    · obtain ⟨more, interrupted⟩ := ih failed
      rcases place_eq_ok placed with ⟨rfl, rfl⟩ | rfl
      · exact ⟨more, interrupted⟩
      · exact ⟨by omega, fun same => by omega⟩

/-- A layout that has not counted further has done nothing. -/
theorem placeAll_eq_ok (laid : (overlay.placeAll top? written entries).apply session = (.ok count, after)) :
    written ≤ count ∧ (count = written → after = session) := by
  induction entries generalizing written session with
  | nil =>
    cases laid
    exact ⟨Nat.le_refl _, fun _ => rfl⟩
  | cons entry rest ih =>
    obtain ⟨counted, middle, placed, laid⟩ := Run.bind_eq_ok laid
    obtain ⟨more, still⟩ := ih laid
    rcases place_eq_ok placed with ⟨rfl, rfl⟩ | rfl
    · exact ⟨more, still⟩
    · exact ⟨by omega, fun same => by omega⟩

theorem placeListed_eq_error {stop? : Option Obstacle}
    (failed : (overlay.placeListed top? entries stop?).apply session = (.error interruption, after)) :
    (overlay.placeAll top? 0 entries).apply session = (.error interruption, after) ∨
      ∃ obstacle, stop? = some obstacle ∧ interruption.obstacle = obstacle ∧
        (overlay.placeAll top? 0 entries).apply session = (.ok interruption.written, after) := by
  rcases Run.bind_eq_error failed with failed | ⟨count, middle, laid, failed⟩
  · exact .inl failed
  · cases stop? with
    | none => cases failed
    | some obstacle =>
      cases failed
      exact .inr ⟨obstacle, rfl, rfl, laid⟩

theorem placeListed_eq_ok {stop? : Option Obstacle}
    (laid : (overlay.placeListed top? entries stop?).apply session = (.ok count, after)) :
    stop? = none ∧ (overlay.placeAll top? 0 entries).apply session = (.ok count, after) := by
  obtain ⟨counted, middle, placed, returned⟩ := Run.bind_eq_ok laid
  cases stop? with
  | none =>
    cases returned
    exact ⟨rfl, placed⟩
  | some obstacle => cases returned

/-- A layout that is interrupted before anything counts. -/
theorem Lays.interrupted {step : Run σ Interruption Nat} (lays : overlay.Lays step)
    (failed : step.apply session = (.error interruption, after)) (uncounted : interruption.written = 0) :
    overlay.Interrupted session after := by
  rcases lays with ⟨obstacle, rfl⟩ | ⟨top?, entries, stop?, rfl⟩
  · exact .silent (Prod.mk.inj failed).2.symm
  · rcases placeListed_eq_error failed with failed | ⟨_, _, _, laid⟩
    · exact (placeAll_eq_error failed).2 uncounted
    · exact .silent ((placeAll_eq_ok laid).2 uncounted)

end

/-! ## What is left -/

/-- Without faults a well-formed tree is left as it was: a file whose directory had to be made can be written. -/
theorem Interrupted.files_of_clear {session after : Session (Faulty FileTree)} (clear : session.files.Clear)
    (wellFormed : session.files.inner.WellFormed) (rooted : overlay.destination.isAbsolute = true)
    (interrupted : overlay.Interrupted session after) : after.files = session.files := by
  cases interrupted with
  | silent same => rw [same]
  | creating path error failed => exact Run.call_error_of_clear clear failed
  | writing path target contents error middle aimed ready failed =>
    cases climbed : target.parent? with
    | none =>
      rw [ParentMade, climbed] at ready
      subst ready
      exact Run.call_error_of_clear clear failed
    | some parent =>
      rw [ParentMade, climbed] at ready
      have above := parent?_resolve_target rooted session.files.inner aimed climbed
      obtain ⟨still, modes⟩ := Run.createDirs_ok_of_clear clear ready
      obtain ⟨refusal, refused⟩ := Run.write_error_of_clear still failed
      have same := wellFormed.createDirs_of_write_error above (Run.createDirs_ok ready) refused
      exact (Run.call_error_of_clear still failed).trans (clear.eq_of still same modes)

end Scaffold.Overlay
