import Scaffold.Proofs.Initialise

/-! # How a run turns out

A run that succeeds has made the working directory a component: the manifest is in place under the valid name that is
reported, its devfile is read again as it was meant, all facts are recorded, and whoever tries again is refused. A run
that fails has recorded nothing about a component. All this holds whatever calls to the files fail on the way.
-/

namespace Scaffold

namespace Telemetry

variable {telemetry : Telemetry} {value : Json} {key : TelemetryKey}

/-- The first record of a telemetry is all that it tells. -/
theorem fact?_record_of_empty (other : key ≠ .interactive) :
    (Telemetry.empty.record .interactive value).fact? key = none := by
  rw [fact?_record]
  simp [other, empty]

end Telemetry

namespace Run

section

variable {σ : Type} [Storage σ] {registries : List Registry} {flags : Flags} {directory : Path} {empty : Bool}
  {backend : BackendKind} {session after : Session σ}

/-! ## The manifest that is settled -/

theorem settledManifest_accepted {staged manifest : Manifest} (accepted : staged.Accepted)
    (ran : (settledManifest staged).apply session = (.ok manifest, after)) :
    manifest.Accepted ∧ manifest.path = staged.path := by
  obtain ⟨found, _, _, ran⟩ := bind_eq_ok ran
  cases found with
  | true =>
    obtain ⟨_, _, read⟩ := Manifest.read_eq_ok ran
    exact Manifest.accepted_of_ofContents read
  | false =>
    obtain ⟨same, _⟩ := Prod.mk.inj ran
    cases same
    exact ⟨accepted, rfl⟩

theorem withStarter_accepted {starter? : Option Devfile.StarterProject} {staged manifest : Manifest}
    (accepted : staged.Accepted)
    (ran : (withStarter starter? staged directory).apply session = (.ok manifest, after)) :
    manifest.Accepted ∧ manifest.path = staged.path := by
  cases starter? with
  | none =>
    obtain ⟨same, _⟩ := Prod.mk.inj ran
    cases same
    exact ⟨accepted, rfl⟩
  | some starter =>
    obtain ⟨_, _, settlement⟩ := withStarter_eq_ok ran
    exact settledManifest_accepted accepted settlement

variable {component : Component}

/-- The manifest that is settled was read from some bytes, for its place in the directory. -/
theorem accepted_of_settling {plan : Plan} {manifest : Manifest} {prepared settled : Session σ}
    (preparing : (prepare backend registries flags directory empty).apply session = (.ok plan, prepared))
    (settling : (withStarter plan.starter? plan.staged directory).apply prepared = (.ok manifest, settled)) :
    manifest.Accepted ∧ manifest.path = manifestPath directory := by
  obtain ⟨_, prepares⟩ := prepare_eq_ok preparing
  obtain ⟨_, _, _, _, staging, _⟩ := prepares.staging
  obtain ⟨staged, place⟩ := Manifest.accepted_of_ofContents (Manifest.stage_eq_ok staging).1
  obtain ⟨accepted, same⟩ := withStarter_accepted staged settling
  exact ⟨accepted, same.trans place⟩

theorem SetsUp.validate (sets : SetsUp registries flags directory empty session component after) :
    Name.validate sets.plan.name = .ok () := by
  obtain ⟨_, prepares⟩ := prepare_eq_ok sets.preparing
  obtain ⟨_, _, chosen⟩ := prepares.naming
  exact BackendKind.validate_of_chooseName chosen

/-! ## What is recorded -/

omit [Storage σ] in
theorem fact?_describe (devfile : Devfile) (value : Json) (key : TelemetryKey) :
    (describe devfile (Telemetry.empty.record .interactive value)).fact? key =
      some (match key with
        | .interactive => value
        | .componentType => .string devfile.componentType
        | .language => .string (devfile.metadata.language?.getD Devfile.notAvailable)
        | .projectType => .string (devfile.metadata.projectType?.getD Devfile.notAvailable)
        | .devfileName => .string (devfile.metadata.name?.getD Devfile.notAvailable)) := by
  cases key <;> simp [describe, Telemetry.fact?_record, Telemetry.empty]

/-- Setting up records nothing unless it succeeds. -/
theorem SetUpStops.telemetry {setback : Setback}
    (stops : SetUpStops registries flags directory empty session setback after) :
    after.telemetry = session.telemetry := by
  cases stops with
  | preparing cause failed _ => exact ((prepare_logged _ _ _ _ _).advances failed).telemetry
  | starting plan prepared ran failed =>
    exact (((prepare_logged _ _ _ _ _).advances ran).trans ((withStarter_logged _ _ _).advances failed)).telemetry
  | committing plan manifest prepared settled cause ran settling failed _ =>
    exact (((prepare_logged _ _ _ _ _).advances ran).trans
      (((withStarter_logged _ _ _).advances settling).trans ((commit_logged _).advances failed))).telemetry

/-- A run that fails records at most whether the user gave no flags. -/
theorem telemetry_of_failure {failure : Failure}
    (ran : (initialise registries flags).apply session = (.error failure, after)) :
    after.telemetry = session.telemetry ∨
      after.telemetry = session.telemetry.record .interactive (.bool flags.isEmpty) := by
  cases initialise_ends ran with
  | refused cause _ failed =>
    rcases inspect_cases failed with advance | ⟨located, first, advance⟩
    · exact .inl advance.telemetry
    · rw [advance.telemetry, recorded, first.telemetry]
      exact .inr rfl
  | preserved directory empty inspected cause _ passed failed =>
    rw [(setUp_eq_error failed).telemetry, inspect_telemetry passed]
    exact .inr rfl
  | rolledBack directory empty inspected stopped cause answer _ passed failed removed =>
    have undone := (call_logged (.remove (manifestPath directory))).advances removed
    rw [undone.telemetry, (setUp_eq_error failed).telemetry, inspect_telemetry passed]
    exact .inr rfl

end

variable {registries : List Registry} {flags : Flags} {directory : Path} {empty : Bool}
  {session after : Session (Faulty FileTree)}

/-! ## Trying again -/

/-- Where there is a manifest a run is refused before it changes anything. -/
theorem refused_of_manifest (here : session.files.inner.workingDirectory = directory)
    (quiet : session.files.faults = []) (ordinary : session.files.isSpecial (manifestPath directory) = false)
    (present : session.files.inner.isFileAt (session.files.inner.resolve (manifestPath directory)) = true)
    (registries : List Registry) (flags : Flags) :
    ∃ after, (initialise registries flags).apply session =
        (.error ⟨.alreadyInitialised directory, .nothingWritten⟩, after) ∧ after.files = session.files := by
  obtain ⟨located, told, same⟩ := workingDirectory_of_quiet quiet
  rw [here] at told
  have found : (during "determine working directory" ⟨"."⟩ workingDirectory).apply session = (.ok directory, located) :=
    mapError_eq_ok.mpr told
  obtain ⟨looked, answered, unchanged⟩ :=
    containsManifest_of_quiet (show (recorded flags located).files.faults = [] from same ▸ quiet) (same ▸ ordinary)
  rw [show (recorded flags located).files = session.files from same, present] at answered
  have seen : (during "inspect" (manifestPath directory) (containsManifest directory)).apply (recorded flags located) =
      (.ok true, looked) := mapError_eq_ok.mpr answered
  have refusal : (refuseManifest directory).apply (recorded flags located) =
      (.error (.alreadyInitialised directory), looked) := by
    rw [refuseManifest, apply_bind_of_ok seen]
    rfl
  have stopped : (inspect registries flags).apply session = (.error (.alreadyInitialised directory), looked) := by
    rw [inspect, apply_bind_of_ok found, apply_bind_of_ok (apply_record _ _ _)]
    exact apply_bind_of_error refusal
  refine ⟨looked, ?_, unchanged.trans same⟩
  rw [initialise]
  exact apply_bind_of_error (mapError_eq_error.mpr ⟨_, stopped, rfl⟩)

/-! ## The whole run -/

/-- What a run leaves that has made a directory a component. -/
structure Establishes (directory : Path) (component : Component) (after : Session (Faulty FileTree))
    (devfile : Devfile) : Prop where
  place : component.manifestPath = manifestPath directory
  present : after.files.inner.get? (after.files.inner.resolve component.manifestPath) =
    some (.file devfile.text.toUTF8)
  ordinary : after.files.isSpecial component.manifestPath = false
  named : devfile.metadata.name? = some component.name
  valid : Name.validate component.name = .ok ()
  deploys : component.hasDeployCommand = devfile.hasDeployCommand
  told : ∀ key, (after.telemetry.fact? key).isSome = true
  toldName : after.telemetry.fact? .devfileName = some (.string component.name)
  /-- The manifest is read as the devfile, given that its text says what was to be written. -/
  readAgain : devfile.toValue.ReadsBack → ∀ later : Session (Faulty FileTree), later.files = after.files.quiet →
    ∃ last, (Manifest.read component.manifestPath).apply later = (.ok ⟨component.manifestPath, devfile⟩, last) ∧
      last.files = later.files
  /-- Whoever tries again is refused, and changes nothing. -/
  refusedAgain : ∀ registries flags (later : Session (Faulty FileTree)), later.files = after.files.quiet →
    ∃ last, (initialise registries flags).apply later =
        (.error ⟨.alreadyInitialised directory, .nothingWritten⟩, last) ∧ last.files = later.files

variable {component : Component}

theorem SetsUp.files (sets : SetsUp registries flags directory empty session component after) :
    after.files = sets.committed.files :=
  (congrArg Session.files sets.recording).trans rfl

theorem SetsUp.present (sets : SetsUp registries flags directory empty session component after) :
    after.files.inner.get? (after.files.inner.resolve sets.manifest.path) =
      some (.file (sets.manifest.withName sets.plan.name).contents) := by
  have wrote := commit_eq_ok sets.committing
  rw [sets.files, resolve_of_advances sets.advances.2, get?_of_write_ok wrote]
  exact if_pos rfl

/-- The directory and the special paths are those from before. -/
theorem SetsUp.keeps (sets : SetsUp registries flags directory empty session component after) :
    after.files.inner.workingDirectory = session.files.inner.workingDirectory ∧
      after.files.special = session.files.special := by
  have advance := sets.advances.1.trans sets.advances.2
  rw [sets.files]
  exact ⟨advance.workingDirectory, advance.special⟩

theorem SetsUp.establishes (sets : SetsUp registries flags directory empty session component after)
    (here : session.files.inner.workingDirectory = directory)
    (ordinary : session.files.isSpecial (manifestPath directory) = false)
    (fresh : session.telemetry = Telemetry.empty.record .interactive (.bool flags.isEmpty)) :
    Establishes directory component after (sets.manifest.devfile.withName sets.plan.name) := by
  obtain ⟨accepted, place⟩ := accepted_of_settling sets.preparing sets.settling
  obtain ⟨still, special⟩ := sets.keeps
  have path : component.manifestPath = sets.manifest.path := congrArg Component.manifestPath sets.result
  have name : component.name = sets.plan.name := congrArg Component.name sets.result
  have facts := sets.telemetry
  rw [fresh] at facts
  have present := sets.present
  have plain : after.files.isSpecial (manifestPath directory) = false := by
    rw [Faulty.isSpecial, special]
    exact ordinary
  exact
    { place := path.trans place
      present := path ▸ present
      ordinary := (path.trans place) ▸ plain
      named := congrArg some name.symm
      valid := name ▸ sets.validate
      deploys := congrArg Component.hasDeployCommand sets.result
      told := fun key => by rw [facts, fact?_describe]; rfl
      toldName := by rw [facts, fact?_describe, name]; rfl
      readAgain := fun back later same => by
        have there : later.files.inner = after.files.inner := by rw [same]; rfl
        rw [← there] at present
        obtain ⟨last, returned, unchanged⟩ := read_of_quiet (congrArg Faulty.faults same) present
        rw [path]
        exact ⟨last, (Manifest.read_of_told returned).trans (congrArg (·, last) (accepted.ofContents_withName back)),
          unchanged⟩
      refusedAgain := fun registries flags later same => by
        have there : later.files.inner = after.files.inner := by rw [same]; rfl
        refine refused_of_manifest ?_ (congrArg Faulty.faults same) ?_ ?_ registries flags
        · rw [there, still, here]
        · rw [Faulty.isSpecial, show later.files.special = after.files.special by rw [same]; rfl]
          exact plain
        · rw [there, ← place]
          exact FileTree.isFileAt_iff.mpr ⟨_, present⟩ }

/-- Whatever calls to the files fail on the way, a run that succeeds makes the working directory a component, and one
that fails has recorded nothing about a component. -/
theorem initialise_establishes {outcome : Except Failure Component} (fresh : session.telemetry = Telemetry.empty)
    (ordinary : session.files.isSpecial (manifestPath session.files.inner.workingDirectory) = false)
    (ran : (initialise registries flags).apply session = (outcome, after)) :
    match outcome with
    | .ok component => ∃ devfile, Establishes session.files.inner.workingDirectory component after devfile
    | .error _ => ∀ key, key ≠ .interactive → after.telemetry.fact? key = none := by
  cases outcome with
  | ok component =>
    cases initialise_ends ran with
    | settled directory empty inspected _ _ passed ran =>
      obtain ⟨rfl, kept, special⟩ := inspect_keeps passed
      obtain ⟨sets⟩ := setUp_eq_ok ran
      refine ⟨_, sets.establishes (congrArg FileTree.workingDirectory kept) ?_ ?_⟩
      · rw [Faulty.isSpecial, special]
        exact ordinary
      · rw [inspect_telemetry passed, fresh]
  | error failure =>
    intro key other
    rcases telemetry_of_failure ran with same | same
    · rw [same, fresh]
      rfl
    · rw [same, fresh, Telemetry.fact?_record_of_empty other]

/-- A session in an empty directory, with a devfile at another place and a call that fails once. -/
def shopSession : Session (Faulty FileTree) :=
  { files :=
      { inner := (FileTree.new ⟨"/app"⟩).withFile ⟨"/t/d.yaml"⟩ "schemaVersion: 2.2.0".toUTF8
        faults := [⟨.stat, ⟨"/app/devfile.yaml"⟩, 0, some 1, ⟨.notFound, "gone"⟩⟩]
        special := []
        modes := [] } }

/-- Asking for a devfile under a name. -/
def shopFlags : Flags := { devfilePath := some "/t/d.yaml", name := some "shop" }

private theorem shopSession_succeeds :
    ((initialise [] shopFlags).apply shopSession).1 = .ok ⟨"shop", ⟨"/app/devfile.yaml"⟩, .flags, none, false⟩ := by
  decide +kernel

/-- The component of that name is established. -/
theorem initialise_establishes_shop :
    ((initialise [] shopFlags).apply shopSession).1 = .ok ⟨"shop", ⟨"/app/devfile.yaml"⟩, .flags, none, false⟩ ∧
      ∃ devfile, Establishes ⟨"/app"⟩ ⟨"shop", ⟨"/app/devfile.yaml"⟩, .flags, none, false⟩
        ((initialise [] shopFlags).apply shopSession).2 devfile :=
  ⟨shopSession_succeeds, initialise_establishes rfl (by decide +kernel) (Prod.ext shopSession_succeeds rfl)⟩

end Run

end Scaffold
