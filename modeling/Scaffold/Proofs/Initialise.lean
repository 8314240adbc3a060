import Scaffold.Initialise
import Scaffold.Proofs.Decision
import Scaffold.Proofs.Manifest
import Scaffold.Proofs.Starter.Download

/-! # The phases of a run

A run inspects the directory, prepares a plan, lays out the starter project if there is one and commits the manifest.
The lemmas here name the sessions between the phases: each phase that returned leads to the next, and the one that
failed, if any, is the last. What a phase does is told by the lemmas about its steps.
-/

namespace Scaffold.Run

variable {σ : Type} [Storage σ] {registries : List Registry} {flags : Flags} {directory : Path} {empty : Bool}
  {backend : BackendKind} {session after : Session σ} {cause : Cause}

/-! ## Inspecting -/

theorem containsManifest_looks (directory : Path) :
    (containsManifest directory : Run σ IoError Bool).Only Event.Looks := by
  refine only_bind (only_attempt (call_looks rfl)) fun answer => ?_
  split
  · exact only_pure _
  · split
    · exact only_pure _
    · exact only_throw _

theorem validateFlags_looks (flags : Flags) (directory : Path) (registries : List Registry) :
    (validateFlags flags directory registries : Run σ Cause Unit).Only Event.Looks := by
  have path : (checkDevfilePath flags directory : Run σ Cause Unit).Only Event.Looks := by
    unfold checkDevfilePath
    split
    · exact only_pure _
    · split
      · exact only_pure _
      · refine only_bind (isFile_looks _) fun found => ?_
        split
        · exact only_pure _
        · exact only_throw _
  unfold validateFlags
  split
  · exact only_pure _
  · split
    · exact only_throw _
    · exact path

/-- A session in which it is recorded whether the user gave no flags. -/
def recorded (flags : Flags) (session : Session σ) : Session σ :=
  { session with telemetry := session.telemetry.record .interactive (.bool flags.isEmpty) }

/-- An inspection that passed found the working directory without a manifest and read on. -/
theorem inspect_eq_ok (ran : (inspect registries flags).apply session = (.ok (directory, empty), after)) :
    ∃ located looked, workingDirectory.apply session = (.ok directory, located) ∧
      (containsManifest directory).apply (recorded flags located) = (.ok false, looked) ∧
      looked.Advances Event.Reads after := by
  obtain ⟨place, located, found, ran⟩ := bind_eq_ok ran
  obtain ⟨_, _, first, ran⟩ := bind_eq_ok ran
  obtain ⟨_, rfl⟩ := Prod.mk.inj first
  obtain ⟨_, looked, refusal, ran⟩ := bind_eq_ok ran
  obtain ⟨_, checked, validation, ran⟩ := bind_eq_ok ran
  obtain ⟨_, listed, listing, returned⟩ := bind_eq_ok ran
  obtain ⟨same, rfl⟩ := Prod.mk.inj returned
  obtain ⟨rfl, rfl⟩ := Prod.mk.inj (Except.ok.inj same)
  obtain ⟨present, _, lookedFor, refusal⟩ := bind_eq_ok refusal
  cases present with
  | true => cases refusal
  | false =>
    obtain ⟨_, rfl⟩ := Prod.mk.inj refusal
    exact ⟨located, _, mapError_eq_ok.mp found, mapError_eq_ok.mp lookedFor,
      ((validateFlags_looks _ _ _).reads.advances validation).trans
        ((only_mapError (isEmptyDir_looks _)).reads.advances listing)⟩

theorem inspect_telemetry (ran : (inspect registries flags).apply session = (.ok (directory, empty), after)) :
    after.telemetry = session.telemetry.record .interactive (.bool flags.isEmpty) := by
  obtain ⟨located, looked, found, absent, onward⟩ := inspect_eq_ok ran
  have first : session.Advances Event.Reads located := (call_reads rfl).advances found
  rw [onward.telemetry, ((containsManifest_looks _).advances absent).telemetry, recorded, first.telemetry]

/-- An inspection that passed is one of the working directory, and keeps the tree and the special paths. -/
theorem inspect_keeps {session after : Session (Faulty FileTree)}
    (passed : (inspect registries flags).apply session = (.ok (directory, empty), after)) :
    directory = session.files.inner.workingDirectory ∧ after.files.inner = session.files.inner ∧
      after.files.special = session.files.special := by
  obtain ⟨located, looked, found, absent, onward⟩ := inspect_eq_ok passed
  have first : session.Advances Event.Reads located := (call_reads rfl).advances found
  have second := (containsManifest_looks directory).reads.advances absent
  exact ⟨workingDirectory_ok found, onward.inner.trans (second.inner.trans first.inner),
    onward.special.trans (second.special.trans first.special)⟩

/-- An inspection only looks at the files, and records nothing but whether the user gave no flags. -/
theorem inspect_cases {outcome : Except Cause (Path × Bool)}
    (ran : (inspect registries flags).apply session = (outcome, after)) :
    session.Advances Event.Looks after ∨
      ∃ located, session.Advances Event.Looks located ∧ (recorded flags located).Advances Event.Looks after := by
  have place : (during "determine working directory" ⟨"."⟩ workingDirectory : Run σ Cause Path).Only Event.Looks :=
    only_mapError (call_looks rfl)
  rcases bind_cases ran with ⟨_, _, failed⟩ | ⟨directory, located, found, ran⟩
  · exact .inl (place.advances failed)
  · refine .inr ⟨located, place.advances found, ?_⟩
    rcases bind_cases ran with ⟨_, _, impossible⟩ | ⟨_, _, first, ran⟩
    · cases impossible
    · obtain ⟨_, rfl⟩ := Prod.mk.inj first
      have refuse : (refuseManifest directory : Run σ Cause Unit).Only Event.Looks := by
        refine only_bind (only_mapError (containsManifest_looks _)) fun present => ?_
        split
        · exact only_throw _
        · exact only_pure _
      refine Only.advances ?_ ran
      exact only_bind refuse fun _ => only_bind (validateFlags_looks _ _ _) fun _ =>
        only_bind (only_mapError (isEmptyDir_looks _)) fun _ => only_pure _

theorem inspect_keepsTo {outcome : Except Cause (Path × Bool)}
    (ran : (inspect registries flags).apply session = (outcome, after)) : session.KeepsTo Event.Looks after := by
  rcases inspect_cases ran with advance | ⟨located, first, advance⟩
  · exact advance.keepsTo
  · exact first.keepsTo.trans ((located.keepsTo_record _).trans advance.keepsTo)

theorem inspect_reads {outcome : Except Cause (Path × Bool)}
    (ran : (inspect registries flags).apply session = (outcome, after)) : session.KeepsTo Event.Reads after :=
  (inspect_keepsTo ran).weaken fun _ looks => looks.reads

/-! ## Preparing -/

theorem greet_consults (flags : Flags) (empty : Bool) : (greet flags empty : Run σ Cause Unit).Consults := by
  unfold greet
  split
  · exact notice_consults _
  · exact only_pure _

theorem greet_reads (flags : Flags) (empty : Bool) : (greet flags empty : Run σ Cause Unit).Only Event.Reads :=
  (greet_consults _ _).outside.reads

theorem planFor_reads (backend : BackendKind) (flags : Flags) (directory : Path) (staged : Manifest) :
    (planFor backend flags directory staged : Run σ Cause Plan).Only Event.Reads :=
  only_bind only_checkCancelled fun _ => only_bind (backend.selectStarter_consults _ _).outside.reads fun _ =>
    only_bind (backend.chooseName_reads _ _ _) fun _ => only_bind only_checkCancelled fun _ => only_pure _

/-- A plan is made for the manifest that was staged, under a name that was chosen. -/
theorem planFor_eq_ok {staged : Manifest} {plan : Plan}
    (ran : (planFor backend flags directory staged).apply session = (.ok plan, after)) :
    plan.staged = staged ∧
      ∃ asked named : Session σ,
        (backend.chooseName flags staged.devfile directory).apply asked = (.ok plan.name, named) := by
  obtain ⟨_, _, _, ran⟩ := bind_eq_ok ran
  obtain ⟨_, asked, _, ran⟩ := bind_eq_ok ran
  obtain ⟨_, named, chose, ran⟩ := bind_eq_ok ran
  obtain ⟨_, _, _, returned⟩ := bind_eq_ok ran
  cases returned
  exact ⟨rfl, asked, named, chose⟩

/-- How a plan comes about: some bytes are staged between steps that only read. -/
structure Prepares (backend : BackendKind) (flags : Flags) (directory : Path) (session : Session σ) (plan : Plan)
    (acquired : ByteArray) (after : Session σ) : Prop where
  staging : ∃ origin opened staged, session.Advances Event.Reads opened ∧
    (Manifest.stage directory acquired origin).apply opened = (.ok plan.staged, staged) ∧
    staged.Advances Event.Reads after
  naming : ∃ asked named : Session σ,
    (backend.chooseName flags plan.staged.devfile directory).apply asked = (.ok plan.name, named)

theorem prepare_eq_ok {plan : Plan}
    (ran : (prepare backend registries flags directory empty).apply session = (.ok plan, after)) :
    ∃ acquired, Prepares backend flags directory session plan acquired after := by
  obtain ⟨_, greeted, first, ran⟩ := bind_eq_ok ran
  obtain ⟨manifest, selected, selection, ran⟩ := bind_eq_ok ran
  obtain ⟨rfl, naming⟩ := planFor_eq_ok ran
  rcases (backend.selectManifest_endsStaging registries flags directory).cases selection with
    ⟨_, _, impossible, _⟩ | ⟨_, opened, ⟨acquired, origin, rfl⟩, advance, staging⟩
  · cases impossible
  · exact ⟨acquired, ⟨origin, opened, selected, ((greet_reads _ _).advances first).trans advance, staging,
      (planFor_reads _ _ _ _).advances ran⟩, naming⟩

/-- Preparing reads and writes the manifest of the directory, and makes no other call. -/
theorem prepare_only {allowed : Event → Prop} (reads : ∀ event : Event, event.Reads → allowed event)
    (fit : ∀ contents error?, allowed (.files (.write (manifestPath directory) contents) error?)) :
    (prepare backend registries flags directory empty : Run σ Cause Plan).Only allowed := by
  have select : (backend.selectManifest registries flags directory : Run σ Cause Manifest).Only allowed :=
    (backend.selectManifest_endsStaging registries flags directory).only reads
      fun _ ⟨contents, origin, same⟩ => same ▸ Manifest.stage_only (fit contents)
  exact only_bind ((greet_reads _ _).weaken reads) fun _ => only_bind select fun _ =>
    (planFor_reads _ _ _ _).weaken reads

theorem prepare_logged (backend : BackendKind) (registries : List Registry) (flags : Flags) (directory : Path)
    (empty : Bool) : (prepare backend registries flags directory empty : Run σ Cause Plan).Logged :=
  prepare_only (fun _ _ => trivial) fun _ _ => trivial

/-- Where preparing fails: before staging, in it, or after it. -/
inductive PrepareStops (directory : Path) (session after : Session σ) : Prop
  | reading (advance : session.Advances Event.Reads after)
  | staging (contents : ByteArray) (origin : String) (cause : Cause) (opened : Session σ)
      (advance : session.Advances Event.Reads opened)
      (failed : (Manifest.stage directory contents origin).apply opened = (.error cause, after))
  | planning (contents : ByteArray) (origin : String) (manifest : Manifest) (opened staged : Session σ)
      (advance : session.Advances Event.Reads opened)
      (ran : (Manifest.stage directory contents origin).apply opened = (.ok manifest, staged))
      (onward : staged.Advances Event.Reads after)

theorem prepare_eq_error
    (failed : (prepare backend registries flags directory empty).apply session = (.error cause, after)) :
    PrepareStops directory session after := by
  rcases bind_eq_error failed with failed | ⟨_, greeted, first, failed⟩
  · exact .reading ((greet_reads _ _).advances failed)
  · have opening := (greet_reads _ _).advances first
    rcases bind_eq_error failed with failed | ⟨manifest, selected, selection, failed⟩
    · rcases (backend.selectManifest_endsStaging registries flags directory).cases failed with
        ⟨_, _, _, advance⟩ | ⟨_, opened, ⟨contents, origin, rfl⟩, advance, stopped⟩
      · exact .reading (opening.trans advance)
      · exact .staging contents origin cause opened (opening.trans advance) stopped
    · rcases (backend.selectManifest_endsStaging registries flags directory).cases selection with
        ⟨_, _, impossible, _⟩ | ⟨_, opened, ⟨contents, origin, rfl⟩, advance, staging⟩
      · cases impossible
      · exact .planning contents origin manifest opened selected (opening.trans advance) staging
          ((planFor_reads _ _ _ _).advances failed)

/-! ## Setting up -/

theorem settledManifest_looks (staged : Manifest) : (settledManifest staged : Run σ Cause Manifest).Only Event.Looks := by
  refine only_bind (isFile_looks _) fun found => ?_
  split
  · exact Manifest.read_looks _
  · exact only_pure _

theorem withStarter_logged (starter? : Option Devfile.StarterProject) (staged : Manifest) (directory : Path) :
    (withStarter starter? staged directory : Run σ Setback Manifest).Logged := by
  cases starter? with
  | none => exact only_pure _
  | some starter =>
    exact only_bind (starter.download_logged directory) fun _ => only_mapError (settledManifest_looks staged).logged

/-- A project that was laid out leaves the manifest it brought or else the one that was staged. -/
theorem withStarter_eq_ok {starter : Devfile.StarterProject} {staged manifest : Manifest}
    (ran : (withStarter (some starter) staged directory).apply session = (.ok manifest, after)) :
    ∃ laid, (starter.download directory).apply session = (.ok (), laid) ∧
      (settledManifest staged).apply laid = (.ok manifest, after) := by
  obtain ⟨_, laid, downloaded, settled⟩ := bind_eq_ok ran
  exact ⟨laid, downloaded, mapError_eq_ok.mp settled⟩

theorem withStarter_eq_error {starter? : Option Devfile.StarterProject} {staged : Manifest} {setback : Setback}
    (failed : (withStarter starter? staged directory).apply session = (.error setback, after)) :
    ∃ starter, starter? = some starter ∧
      ((starter.download directory).apply session = (.error setback, after) ∨
        setback.touched = true ∧ ∃ laid cause, (starter.download directory).apply session = (.ok (), laid) ∧
          (settledManifest staged).apply laid = (.error cause, after) ∧ setback.cause = cause) := by
  cases starter? with
  | none => cases failed
  | some starter =>
    refine ⟨starter, rfl, ?_⟩
    rcases bind_eq_error failed with failed | ⟨_, laid, downloaded, failed⟩
    · exact .inl failed
    · obtain ⟨cause, stopped, rfl⟩ := mapError_eq_error.mp failed
      exact .inr ⟨rfl, laid, cause, downloaded, stopped, rfl⟩

theorem commit_eq_ok {manifest : Manifest} (ran : (commit manifest).apply session = (.ok (), after)) :
    (write manifest.path manifest.contents).apply session = (.ok (), after) := by
  obtain ⟨_, _, first, wrote⟩ := bind_eq_ok ran
  obtain ⟨_, rfl⟩ := Prod.mk.inj first
  exact mapError_eq_ok.mp wrote

/-- Committing fails without a call or with the one that writes. -/
theorem commit_eq_error {manifest : Manifest} (failed : (commit manifest).apply session = (.error cause, after)) :
    after = session ∨ ∃ error, (write manifest.path manifest.contents).apply session = (.error error, after) := by
  rcases bind_eq_error failed with refused | ⟨_, _, first, failed⟩
  · exact .inl (Prod.mk.inj refused).2.symm
  · obtain ⟨_, rfl⟩ := Prod.mk.inj first
    unfold Manifest.save at failed
    obtain ⟨error, stopped, _⟩ := mapError_eq_error.mp failed
    exact .inr ⟨error, stopped⟩

/-- Committing writes the manifest, and makes no other call. -/
theorem commit_only {manifest : Manifest} {allowed : Event → Prop}
    (fit : ∀ contents error?, allowed (.files (.write manifest.path contents) error?)) :
    (commit manifest : Run σ Cause Unit).Only allowed :=
  only_bind only_checkCancelled fun _ => only_mapError (only_call (fit _))

theorem commit_logged (manifest : Manifest) : (commit manifest : Run σ Cause Unit).Logged :=
  commit_only fun _ _ => trivial

/-- The facts recorded about a component besides those recorded before. -/
def describe (devfile : Devfile) (telemetry : Telemetry) : Telemetry :=
  let told := fun (text? : Option String) => Json.string (text?.getD Devfile.notAvailable)
  (((telemetry.record .componentType (.string devfile.componentType)).record .language
    (told devfile.metadata.language?)).record .projectType (told devfile.metadata.projectType?)).record .devfileName
      (told devfile.metadata.name?)

omit [Storage σ] in
theorem recordComponent_apply {ε : Type} (devfile : Devfile) (session : Session σ) :
    (recordComponent devfile : Run σ ε Unit).apply session =
      (.ok (), { session with telemetry := describe devfile session.telemetry }) := rfl

/-- The sessions between the phases of a directory that was set up. -/
structure SetsUp (registries : List Registry) (flags : Flags) (directory : Path) (empty : Bool) (session : Session σ)
    (component : Component) (after : Session σ) where
  plan : Plan
  prepared : Session σ
  manifest : Manifest
  settled : Session σ
  committed : Session σ
  preparing : (prepare (BackendKind.choose flags empty) registries flags directory empty).apply session =
    (.ok plan, prepared)
  settling : (withStarter plan.starter? plan.staged directory).apply prepared = (.ok manifest, settled)
  committing : (commit (manifest.withName plan.name)).apply settled = (.ok (), committed)
  recording : after = { committed with telemetry := describe (manifest.devfile.withName plan.name) committed.telemetry }
  result : component = componentOf (BackendKind.choose flags empty) plan (manifest.withName plan.name)

theorem setUp_eq_ok {component : Component}
    (ran : (setUp registries flags directory empty).apply session = (.ok component, after)) :
    Nonempty (SetsUp registries flags directory empty session component after) := by
  obtain ⟨plan, prepared, preparing, ran⟩ := bind_eq_ok ran
  obtain ⟨manifest, settled, settling, ran⟩ := bind_eq_ok ran
  obtain ⟨_, committed, committing, ran⟩ := bind_eq_ok ran
  obtain ⟨_, _, recording, returned⟩ := bind_eq_ok ran
  obtain ⟨same, rfl⟩ := Prod.mk.inj returned
  rw [recordComponent_apply] at recording
  exact ⟨plan, prepared, manifest, settled, committed, mapError_eq_ok.mp preparing, settling,
    mapError_eq_ok.mp committing, (Prod.mk.inj recording).2.symm, (Except.ok.inj same).symm⟩

/-- All that a set-up does before it records is logged. -/
theorem SetsUp.advances {component : Component}
    (sets : SetsUp registries flags directory empty session component after) :
    session.Logs sets.settled ∧ sets.settled.Logs sets.committed :=
  ⟨((prepare_logged _ _ _ _ _).advances sets.preparing).trans ((withStarter_logged _ _ _).advances sets.settling),
    (commit_logged _).advances sets.committing⟩

theorem SetsUp.telemetry {component : Component}
    (sets : SetsUp registries flags directory empty session component after) :
    after.telemetry = describe (sets.manifest.devfile.withName sets.plan.name) session.telemetry :=
  (congrArg Session.telemetry sets.recording).trans
    (congrArg (describe _) (sets.advances.1.trans sets.advances.2).telemetry)

/-- Where setting up meets its setback: in preparing, with the starter project, or in committing. -/
inductive SetUpStops (registries : List Registry) (flags : Flags) (directory : Path) (empty : Bool)
    (session : Session σ) (setback : Setback) (after : Session σ) : Prop
  | preparing (cause : Cause)
      (failed : (prepare (BackendKind.choose flags empty) registries flags directory empty).apply session =
        (.error cause, after))
      (same : setback = ⟨cause, false⟩)
  | starting (plan : Plan) (prepared : Session σ)
      (ran : (prepare (BackendKind.choose flags empty) registries flags directory empty).apply session =
        (.ok plan, prepared))
      (failed : (withStarter plan.starter? plan.staged directory).apply prepared = (.error setback, after))
  | committing (plan : Plan) (manifest : Manifest) (prepared settled : Session σ) (cause : Cause)
      (ran : (prepare (BackendKind.choose flags empty) registries flags directory empty).apply session =
        (.ok plan, prepared))
      (settling : (withStarter plan.starter? plan.staged directory).apply prepared = (.ok manifest, settled))
      (failed : (commit (manifest.withName plan.name)).apply settled = (.error cause, after))
      (same : setback = ⟨cause, plan.starter?.isSome⟩)

theorem setUp_eq_error {setback : Setback}
    (failed : (setUp registries flags directory empty).apply session = (.error setback, after)) :
    SetUpStops registries flags directory empty session setback after := by
  rcases bind_eq_error failed with failed | ⟨plan, prepared, preparing, failed⟩
  · obtain ⟨cause, stopped, same⟩ := mapError_eq_error.mp failed
    exact .preparing cause stopped same.symm
  · have preparing := mapError_eq_ok.mp preparing
    rcases bind_eq_error failed with failed | ⟨manifest, settled, settling, failed⟩
    · exact .starting plan prepared preparing failed
    · rcases bind_eq_error failed with failed | ⟨_, committed, _, failed⟩
      · obtain ⟨cause, stopped, same⟩ := mapError_eq_error.mp failed
        exact .committing plan manifest prepared settled cause preparing settling stopped same.symm
      -- Nothing fails after the manifest is committed.
      · rcases bind_eq_error failed with impossible | ⟨_, _, _, impossible⟩
        · cases impossible
        · cases impossible

/-! ## The whole run -/

/-- How a run ends: it is refused, it sets the directory up, or it meets a setback and rolls back. -/
inductive Ends (registries : List Registry) (flags : Flags) (session : Session σ) :
    Except Failure Component → Session σ → Prop
  | refused (cause : Cause) (after : Session σ)
      (failed : (inspect registries flags).apply session = (.error cause, after)) :
      Ends registries flags session (.error ⟨cause, .nothingWritten⟩) after
  | settled (directory : Path) (empty : Bool) (inspected : Session σ) (component : Component) (after : Session σ)
      (passed : (inspect registries flags).apply session = (.ok (directory, empty), inspected))
      (ran : (setUp registries flags directory empty).apply inspected = (.ok component, after)) :
      Ends registries flags session (.ok component) after
  | preserved (directory : Path) (empty : Bool) (inspected : Session σ) (cause : Cause) (after : Session σ)
      (passed : (inspect registries flags).apply session = (.ok (directory, empty), inspected))
      (failed : (setUp registries flags directory empty).apply inspected = (.error ⟨cause, true⟩, after)) :
      Ends registries flags session (.error ⟨cause, .preserved⟩) after
  | rolledBack (directory : Path) (empty : Bool) (inspected stopped : Session σ) (cause : Cause)
      (answer : Except IoError Unit) (after : Session σ)
      (passed : (inspect registries flags).apply session = (.ok (directory, empty), inspected))
      (failed : (setUp registries flags directory empty).apply inspected = (.error ⟨cause, false⟩, stopped))
      (removed : (remove (manifestPath directory)).apply stopped = (answer, after)) :
      Ends registries flags session (.error ⟨cause, .devfileRemoved⟩) after

/-- A run that meets a setback in a directory that was inspected rolls back. -/
theorem initialise_of_setback {inspected stopped : Session σ} {setback : Setback}
    (passed : (inspect registries flags).apply session = (.ok (directory, empty), inspected))
    (failed : (setUp registries flags directory empty).apply inspected = (.error setback, stopped)) :
    (initialise registries flags).apply session =
      (do throw (← rollBack directory setback) : Run σ Failure Component).apply stopped := by
  have first : (beforeWriting (inspect registries flags)).apply session = (.ok (directory, empty), inspected) :=
    mapError_eq_ok.mpr passed
  rw [initialise, apply_bind_of_ok first, apply_bind_of_ok (apply_attempt _ _), failed]

theorem initialise_ends {outcome : Except Failure Component}
    (ran : (initialise registries flags).apply session = (outcome, after)) :
    Ends registries flags session outcome after := by
  rcases bind_cases ran with ⟨failure, rfl, failed⟩ | ⟨⟨directory, empty⟩, inspected, passed, ran⟩
  · obtain ⟨cause, stopped, rfl⟩ := mapError_eq_error.mp failed
    exact .refused cause after stopped
  · have passed := mapError_eq_ok.mp passed
    dsimp only at ran
    rw [apply_bind_of_ok (apply_attempt _ _)] at ran
    rcases failed : (setUp registries flags directory empty).apply inspected with ⟨⟨cause, touched⟩ | component, stopped⟩
    · rw [failed] at ran
      cases touched with
      | true =>
        cases ran
        exact .preserved directory empty inspected cause _ passed failed
      | false =>
        cases ran
        exact .rolledBack directory empty inspected stopped cause _ _ passed failed rfl
    · rw [failed] at ran
      cases ran
      exact .settled directory empty inspected component _ passed failed

/-! ## Coming to a starter project -/

/-- A run has decided on a starter project in a directory, by a plan. -/
structure ReachesStarter (registries : List Registry) (flags : Flags) (session : Session σ) (directory : Path)
    (plan : Plan) (starter : Devfile.StarterProject) (prepared : Session σ) : Prop where
  phases : ∃ empty inspected, (inspect registries flags).apply session = (.ok (directory, empty), inspected) ∧
    (prepare (BackendKind.choose flags empty) registries flags directory empty).apply inspected = (.ok plan, prepared)
  chosen : plan.starter? = some starter

end Scaffold.Run
