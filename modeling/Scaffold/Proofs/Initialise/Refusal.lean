import Scaffold.Proofs.Careful
import Scaffold.Proofs.Initialise.Rollback
import Scaffold.Proofs.Starter.Setbacks

/-! # Refusals

Flags are rejected and directories refused before anything else is done: a run that fails for such a cause has only
looked at files, and everything that comes after the checks fails for other causes. So whoever reads that nothing was
written can rely on it, and the checks that the backends make again are never the ones that fail.
-/

namespace Scaffold

/-- Causes that come up while flags and directory are checked. -/
def Cause.Early (cause : Cause) : Prop :=
  cause.category = .validation ∨ cause.category = .precondition ∨ cause.category = .runtime

theorem Flags.category_of_check {flags : Flags} {registries : List Registry} {cause : Cause}
    (rejected : flags.check registries = .error cause) : cause.category = .validation := by
  rw [check_eq] at rejected
  split at rejected
  · rename_i broken
    cases rejected
    have member := mem_of_conflict? broken
    simp only [List.mem_cons, List.not_mem_nil, or_false] at member
    rcases member with rfl | rfl | rfl | rfl <;> rfl
  · split at rejected
    · rename_i named
      cases rejected
      obtain ⟨_, _, rfl⟩ := eq_nameInvalid_of_checkName named
      rfl
    · unfold checkRegistry at rejected
      repeat' split at rejected
      all_goals cases rejected <;> rfl

namespace Run

variable {σ : Type} [Storage σ] {registries : List Registry} {flags : Flags} {directory : Path} {empty : Bool}
  {session after : Session σ}

/-! ## Checking -/

theorem validateFlags_failsWith (flags : Flags) (directory : Path) (registries : List Registry) :
    (validateFlags flags directory registries : Run σ Cause Unit).FailsWith
      fun cause => cause.category = .validation := by
  have path : (checkDevfilePath flags directory : Run σ Cause Unit).FailsWith
      fun cause => cause.category = .validation := checkDevfilePath_failsWith fun _ => rfl
  unfold validateFlags
  split
  · exact failsWith_pure _
  · split
    · rename_i rejected
      exact failsWith_bind (failsWith_throw (Flags.category_of_check rejected)) fun _ => path
    · exact path

/-- Flags that passed were accepted. -/
theorem accepted_of_validateFlags (passed : (validateFlags flags directory registries).apply session = (.ok (), after))
    (given : flags.isEmpty = false) : flags.Accepted registries := by
  unfold validateFlags at passed
  rw [if_neg (by simp [given])] at passed
  split at passed
  · rcases bind_eq_ok passed with ⟨_, _, impossible, _⟩
    cases impossible
  · rename_i accepted
    exact Flags.accepted_of_check accepted

theorem inspect_failsWith (registries : List Registry) (flags : Flags) :
    (inspect registries flags : Run σ Cause (Path × Bool)).FailsWith Cause.Early := by
  have told : ∀ {α : Type} (action : String) (path : Path) (step : Run σ IoError α),
      (during action path step).FailsWith Cause.Early :=
    fun _ _ _ => failsWith_mapError fun _ => .inr (.inr rfl)
  refine failsWith_bind (told _ _ _) fun directory => failsWith_bind (failsWith_update _) fun _ =>
    failsWith_bind (failsWith_bind (told _ _ _) fun present => ?_) fun _ =>
      failsWith_bind (fun _ _ _ failed => .inl (validateFlags_failsWith _ _ _ _ _ _ failed)) fun _ =>
        failsWith_bind (told _ _ _) fun _ => failsWith_pure _
  split
  · exact failsWith_throw (.inr (.inl rfl))
  · exact failsWith_pure _

theorem accepted_of_inspect (passed : (inspect registries flags).apply session = (.ok (directory, empty), after))
    (given : flags.isEmpty = false) : flags.Accepted registries := by
  obtain ⟨_, _, _, ran⟩ := bind_eq_ok passed
  obtain ⟨_, _, _, ran⟩ := bind_eq_ok ran
  obtain ⟨_, _, _, ran⟩ := bind_eq_ok ran
  obtain ⟨_, _, validation, _⟩ := bind_eq_ok ran
  exact accepted_of_validateFlags validation given

end Run

/-! ## After the checks -/

namespace Devfile.StarterProject

variable {σ : Type} [Storage σ]

theorem download_failsLate (starter : StarterProject) (directory : Path) :
    (starter.download directory : Run σ Setback Unit).FailsWith fun setback => setback.cause.Late := by
  intro session setback after failed
  cases download_fails failed with
  | acquiring cause _ unmet _ => cases unmet <;> trivial
  | layingOut _ _ _ _ => trivial

end Devfile.StarterProject

namespace Run

section

variable {σ : Type} [Storage σ] {registries : List Registry} {flags : Flags}

theorem settledManifest_failsLate (staged : Manifest) : (settledManifest staged : Run σ Cause Manifest).FailsLate := by
  refine failsWith_bind (isFile_failsWith _) fun found => ?_
  split
  · exact Manifest.read_failsLate _
  · exact failsWith_pure _

theorem withStarter_failsLate (starter? : Option Devfile.StarterProject) (staged : Manifest) (directory : Path) :
    (withStarter starter? staged directory : Run σ Setback Manifest).FailsWith fun setback => setback.cause.Late := by
  cases starter? with
  | none => exact failsWith_pure _
  | some starter =>
    exact failsWith_bind (starter.download_failsLate directory) fun _ =>
      (settledManifest_failsLate staged).mapError fun _ late => late

theorem setUp_failsLate (accepted : flags.isEmpty = false → flags.Accepted registries) (directory : Path)
    (empty : Bool) :
    (setUp registries flags directory empty : Run σ Setback Component).FailsWith fun setback => setback.cause.Late := by
  have commits : ∀ manifest, (commit manifest : Run σ Cause Unit).FailsLate := fun _ =>
    failsWith_bind checkCancelled_failsLate fun _ => during_failsLate _ _ _
  refine failsWith_bind ((BackendKind.prepare_careful accepted directory).late.mapError fun _ late => late) fun plan =>
    failsWith_bind (withStarter_failsLate _ _ _) fun manifest =>
      failsWith_bind ((commits _).mapError fun _ late => late) fun _ =>
        failsWith_bind (failsWith_of_ok fun session => ⟨(), _, recordComponent_apply _ session⟩) fun _ => failsWith_pure _

end

/-! ## The whole run -/

variable {registries : List Registry} {flags : Flags} {failure : Failure} {session after : Session (Faulty FileTree)}

/-- A run that fails because flags were rejected or the directory was refused has written nothing; and one that has
written nothing has only looked at files, failed while it checked, and is reported as failed. The checks that are made
again later never fail once the flags have passed. -/
theorem refused_before_effects (failed : (initialise registries flags).apply session = (.error failure, after)) :
    (failure.cause.category = .validation ∨ failure.cause.category = .precondition →
      failure.cleanup = .nothingWritten) ∧
    (failure.cleanup = .nothingWritten →
      session.KeepsTo Event.Looks after ∧ after.files.inner = session.files.inner ∧
        after.files.modes = session.files.modes ∧ after.files.special = session.files.special ∧
        failure.cause.Early ∧ failure.exitCode = 1) ∧
    ∀ (directory : Path) (checked passed : Session (Faulty FileTree)),
      (validateFlags flags directory registries).apply checked = (.ok (), passed) → flags.isEmpty = false →
        (∀ devfile place, ∃ name, flags.chooseName devfile place = .ok name) ∧
        (∀ name, (Registry.locate registries name flags.devfileRegistry : Run (Faulty FileTree) _ _).FailsLate) ∧
        ∀ place, (flags.selectManifest registries place : Run (Faulty FileTree) _ _).FailsLate := by
  have late : ∀ {directory : Path} {empty : Bool} {inspected stopped : Session (Faulty FileTree)} {setback : Setback},
      (inspect registries flags).apply session = (.ok (directory, empty), inspected) →
      (setUp registries flags directory empty).apply inspected = (.error setback, stopped) →
      ¬ (setback.cause.category = .validation ∨ setback.cause.category = .precondition) := by
    intro directory empty inspected stopped setback passed failed
    have late := (setUp_failsLate (accepted_of_inspect passed) directory empty _ _ _ failed).category
    exact not_or.mpr late
  refine ⟨fun refusal => ?_, fun nothing => ?_, fun directory checked passed validation given => ?_⟩
  · cases initialise_ends failed with
    | refused _ _ _ => rfl
    | preserved _ _ _ _ _ passed stopping => exact absurd refusal (late passed stopping)
    | rolledBack _ _ _ _ _ _ _ passed stopping _ => exact absurd refusal (late passed stopping)
  · cases initialise_ends failed with
    | refused cause _ failed =>
      have looks := inspect_keepsTo failed
      have reads := looks.weaken fun _ looks => looks.reads
      have early := inspect_failsWith registries flags _ _ _ failed
      refine ⟨looks, reads.inner, reads.modes, reads.special, early, ?_⟩
      unfold Failure.exitCode
      rcases early with same | same | same <;> rw [same]
    | preserved _ _ _ _ _ _ _ => cases nothing
    | rolledBack _ _ _ _ _ _ _ _ _ _ => cases nothing
  · have accepted := accepted_of_validateFlags validation given
    exact ⟨accepted.chooseName, fun name => (Registry.locate_careful accepted.configured name).late, fun place =>
      (accepted.selectManifest_careful place).late⟩

/-- Asking for a devfile at two places at once. -/
def conflictingFlags : Flags := { devfile := some "go", devfilePath := some "/t/d.yaml" }

/-- The conflict is told before anything is done. -/
theorem refused_before_effects_conflict :
    ((initialise [] conflictingFlags).apply sampleSession).1 = .error ⟨.flagConflict, .nothingWritten⟩ ∧
      sampleSession.KeepsTo Event.Looks ((initialise [] conflictingFlags).apply sampleSession).2 := by
  have failed : ((initialise [] conflictingFlags).apply sampleSession).1 = .error ⟨.flagConflict, .nothingWritten⟩ := by
    decide +kernel
  exact ⟨failed, ((refused_before_effects (Prod.ext failed rfl)).2.1 rfl).1⟩

end Run

end Scaffold
