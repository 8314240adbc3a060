import Scaffold.Proofs.Starter.Acquisition

/-! # What a download does to the files

A download only reads until the starter project has been acquired. Then it removes the staged manifest and lays the
project out, and the setback it may meet tells whether an entry was counted by then.
-/

namespace Scaffold

namespace Overlay

section

variable {σ : Type} [Storage σ] {overlay : Overlay} {allowed : Event → Prop} {session after : Session σ}

/-- Clearing the manifest removes it, and makes no other call. -/
theorem clearManifest_only (fit : ∀ error?, allowed (.files (.remove (manifestPath overlay.destination)) error?)) :
    (overlay.clearManifest : Run σ _ _).Only allowed := by
  refine Run.only_bind (Run.only_attempt (Run.only_call fit)) fun answer => ?_
  split
  · exact Run.only_pure _
  · split
    · exact Run.only_pure _
    · exact Run.only_throw _

/-- Clearing the manifest is one call, and it also succeeds if there was none. -/
theorem clearManifest_cases {outcome : Except IoError Unit}
    (ran : overlay.clearManifest.apply session = (outcome, after)) :
    ∃ answer, (Run.remove (manifestPath overlay.destination)).apply session = (answer, after) ∧
      ((outcome = answer) ∨ ∃ error, answer = .error error ∧ error.kind = .notFound) := by
  unfold clearManifest at ran
  rw [Run.apply_bind_of_ok (Run.apply_attempt _ _)] at ran
  rcases removed : (Run.remove (manifestPath overlay.destination)).apply session with ⟨error | ⟨⟩, left⟩
  · rw [removed] at ran
    dsimp only at ran
    split at ran
    · cases ran
      exact ⟨_, rfl, .inr ⟨error, rfl, ‹_›⟩⟩
    · cases ran
      exact ⟨_, rfl, .inl rfl⟩
  · rw [removed] at ran
    cases ran
    exact ⟨_, rfl, .inl rfl⟩

end

variable {overlay : Overlay} {session after : Session (Faulty FileTree)}

/-- The tree of a directory is left as it was, but perhaps without the manifest. -/
def Cleared (directory : Path) (before after : FileTree) : Prop :=
  after = before ∨ before.remove (manifestPath directory) = .ok after

theorem clearManifest_cleared {outcome : Except IoError Unit}
    (ran : overlay.clearManifest.apply session = (outcome, after)) :
    Cleared overlay.destination session.files.inner after.files.inner := by
  obtain ⟨answer, removed, _⟩ := clearManifest_cases ran
  cases answer with
  | error error => exact .inl (Run.call_error removed).1
  | ok _ => exact .inr (Run.remove_ok removed)

end Overlay

namespace Devfile.StarterProject

variable {σ : Type} [Storage σ] {starter : StarterProject} {overlay : Overlay} {directory : Path}
  {step : Run σ Interruption Nat} {session after : Session σ}

theorem layOut_eq_error {setback : Setback}
    (failed : (starter.layOut overlay step).apply session = (.error setback, after)) :
    (∃ error, overlay.clearManifest.apply session = (.error error, after) ∧
        setback = ⟨.extractFailed starter.name error.message, false⟩) ∨
      ∃ middle interruption, overlay.clearManifest.apply session = (.ok (), middle) ∧
        step.apply middle = (.error interruption, after) ∧
        setback = ⟨.extractFailed starter.name interruption.obstacle.message, 0 < interruption.written⟩ := by
  rcases Run.bind_eq_error failed with failed | ⟨_, middle, cleared, failed⟩
  · obtain ⟨_, told, rfl⟩ := Run.mapError_eq_error.mp failed
    obtain ⟨error, stopped, rfl⟩ := Run.mapError_eq_error.mp told
    exact .inl ⟨error, stopped, rfl⟩
  · have cleared := Run.mapError_eq_ok.mp (Run.mapError_eq_ok.mp cleared)
    rcases Run.bind_eq_error failed with failed | ⟨_, _, _, impossible⟩
    · obtain ⟨interruption, stopped, rfl⟩ := Run.mapError_eq_error.mp failed
      exact .inr ⟨middle, interruption, cleared, stopped, rfl⟩
    · cases impossible

theorem layOut_eq_ok (ran : (starter.layOut overlay step).apply session = (.ok (), after)) :
    ∃ middle count, overlay.clearManifest.apply session = (.ok (), middle) ∧ step.apply middle = (.ok count, after) := by
  obtain ⟨_, middle, cleared, ran⟩ := Run.bind_eq_ok ran
  obtain ⟨count, _, laid, returned⟩ := Run.bind_eq_ok ran
  cases returned
  exact ⟨middle, count, Run.mapError_eq_ok.mp (Run.mapError_eq_ok.mp cleared), Run.mapError_eq_ok.mp laid⟩

/-- Once the manifest is cleared away, a layout comes out as its step does. -/
theorem layOut_of_cleared {middle : Session σ} {outcome : Except Interruption Nat}
    (clearing : overlay.clearManifest.apply session = (.ok (), middle)) (laid : step.apply middle = (outcome, after)) :
    (starter.layOut overlay step).apply session =
      (match outcome with
        | .ok _ => .ok ()
        | .error interruption =>
          .error ⟨.extractFailed starter.name interruption.obstacle.message, 0 < interruption.written⟩, after) := by
  have first : (untouched (overlay.clearManifest.mapError fun error => Cause.extractFailed starter.name error.message)).apply
      session = (.ok (), middle) := Run.mapError_eq_ok.mpr (Run.mapError_eq_ok.mpr clearing)
  rw [layOut, Run.apply_bind_of_ok first]
  cases outcome with
  | ok count => exact Run.apply_bind_of_ok (Run.mapError_eq_ok.mpr laid)
  | error interruption => exact Run.apply_bind_of_error (Run.mapError_eq_error.mpr ⟨interruption, laid, rfl⟩)

theorem layOut_only {allowed : Event → Prop}
    (clear : ∀ error?, allowed (.files (.remove (manifestPath overlay.destination)) error?)) (lays : step.Only allowed) :
    (starter.layOut overlay step).Only allowed :=
  Run.only_bind (Run.only_mapError (Run.only_mapError (Overlay.clearManifest_only clear))) fun _ =>
    Run.only_bind (Run.only_mapError lays) fun _ => Run.only_pure _

/-- The last step of a download: the project is laid out in a directory. -/
def LaysOut (starter : StarterProject) (directory : Path) (tail : Run σ Setback Unit) : Prop :=
  ∃ overlay step, overlay.destination = directory ∧ overlay.Lays step ∧ tail = starter.layOut overlay step

/-- A download reads, and has touched nothing, until it lays the project out. -/
abbrev EndsLayingOut (starter : StarterProject) (directory : Path) (step : Run σ Setback Unit) : Prop :=
  step.EndsAs Event.Reads (fun setback => setback.touched = false) (starter.LaysOut directory)

theorem download_endsLayingOut (starter : StarterProject) (directory : Path) :
    starter.EndsLayingOut directory (starter.download directory : Run σ Setback Unit) := by
  intro session
  rcases ran : (starter.download directory).apply session with ⟨outcome, after⟩
  rcases download_cases ran with ⟨cause, _, _, advance⟩ | ⟨overlay, acquisition, acquired, acquires, laid⟩
  · exact .inl ⟨_, after, rfl, advance.reads, rfl⟩
  · exact .inr ⟨_, acquired, ⟨overlay, _, acquires.destination, acquisition.lays overlay, rfl⟩, acquires.advances.reads,
      laid.symm⟩

theorem download_logged (starter : StarterProject) (directory : Path) :
    (starter.download directory : Run σ Setback Unit).Logged :=
  (starter.download_endsLayingOut directory).only (fun _ _ => trivial) fun _ ⟨_, _, _, lays, same⟩ =>
    same ▸ layOut_only (fun _ => trivial) lays.logged

end Devfile.StarterProject

end Scaffold
