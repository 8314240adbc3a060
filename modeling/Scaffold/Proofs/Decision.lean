import Scaffold.Proofs.Name
import Scaffold.Proofs.Session.Reading

/-! # Decisions only read

Whichever backend serves a run, deciding on the starter project and on the name changes no file, and selecting a
manifest changes none until the bytes acquired are staged. The one write of each backend is thus the last step
of its selection. A name that is chosen is valid, wherever it comes from.
-/

namespace Scaffold

variable {σ : Type} [Storage σ]

/-- The steps that acquire a devfile, each with the origin that the devfile is told by: it is at a place that a flag
names, or it is that of a stack. -/
inductive Acquiring (flags : Flags) (directory : Path) : Run σ Cause ByteArray → String → Prop
  | place (place : String) (given : flags.devfilePath = some place) :
      Acquiring flags directory (Flags.acquire place directory) place
  | stack (registry : Registry) (stack : Stack) :
      Acquiring flags directory (registry.devfile stack.name) (registry.name ++ "/" ++ stack.name)

/-- The last steps of a selection: some bytes are acquired and, unless the run was cancelled meanwhile, staged in a
directory. -/
def AcquiresAndStages (flags : Flags) (directory : Path) (tail : Run σ Cause Manifest) : Prop :=
  ∃ step origin, Acquiring flags directory step origin ∧
    tail = do
      let contents ← step
      Run.checkCancelled
      Manifest.stage directory contents origin

/-- A selection that reads until it fails or comes to acquire a devfile. -/
abbrev EndsAcquiring (flags : Flags) (directory : Path) (step : Run σ Cause Manifest) : Prop :=
  step.EndsAs Event.Reads (fun _ => True) (AcquiresAndStages flags directory)

/-- The last step of a selection: some bytes are staged in a directory. -/
def Stages (directory : Path) (tail : Run σ Cause Manifest) : Prop :=
  ∃ contents origin, tail = Manifest.stage directory contents origin

/-- A selection that reads until it fails or stages what it acquired. -/
abbrev EndsStaging (directory : Path) (step : Run σ Cause Manifest) : Prop :=
  step.EndsAs Event.Reads (fun _ => True) (Stages directory)

section

variable {flags : Flags} {directory : Path}

/-- Reading in front of a selection. -/
theorem endsAcquiring_bind {α : Type} {step : Run σ Cause α} {next : α → Run σ Cause Manifest}
    (first : step.Only Event.Reads) (rest : ∀ value, EndsAcquiring flags directory (next value)) :
    EndsAcquiring flags directory (step >>= next) :=
  Run.endsAs_bind first (fun _ => trivial) rest

theorem endsAcquiring_throw {cause : Cause} :
    EndsAcquiring flags directory (throw cause : Run σ Cause Manifest) := Run.endsAs_throw trivial

theorem Registry.stage_endsAcquiring (registry : Registry) (stack : Stack) :
    EndsAcquiring flags directory (registry.stage stack directory : Run σ Cause Manifest) :=
  Run.endsAs_last ⟨_, _, .stack registry stack, rfl⟩

theorem Flags.acquire_reads (place : String) (directory : Path) :
    (Flags.acquire place directory : Run σ Cause ByteArray).Only Event.Reads := by
  unfold acquire
  split
  · exact (Run.fetch_outside _).reads
  · exact Run.only_mapError (Run.call_reads rfl)

/-- Whichever step acquires a devfile, it changes no file. -/
theorem Acquiring.reads {step : Run σ Cause ByteArray} {origin : String}
    (acquiring : Acquiring flags directory step origin) : step.Only Event.Reads := by
  cases acquiring with
  | place _ _ => exact Flags.acquire_reads _ _
  | stack registry stack => exact (Run.fetch_outside _).reads

/-- A selection that comes to acquire a devfile comes to stage it. -/
theorem EndsAcquiring.endsStaging {step : Run σ Cause Manifest} (ends : EndsAcquiring flags directory step) :
    EndsStaging directory step := by
  refine Run.EndsAs.trans ends ?_
  rintro _ ⟨step, origin, acquiring, rfl⟩
  exact Run.endsAs_bind acquiring.reads (fun _ => trivial) fun contents =>
    Run.endsAs_bind Run.only_checkCancelled (fun _ => trivial) fun _ => Run.endsAs_last ⟨contents, origin, rfl⟩

end

namespace Flags

theorem selectManifest_endsAcquiring (flags : Flags) (registries : List Registry) (directory : Path) :
    EndsAcquiring flags directory (flags.selectManifest registries directory : Run σ Cause Manifest) := by
  unfold selectManifest
  split
  · rename_i place given
    exact Run.endsAs_last ⟨_, _, .place place given, rfl⟩
  · split
    · exact endsAcquiring_throw
    · exact endsAcquiring_bind (Registry.locate_outside _ _ _).reads fun _ => Registry.stage_endsAcquiring _ _

theorem validate_of_chooseName {flags : Flags} {devfile : Devfile} {directory : Path} {name : String}
    (chosen : flags.chooseName devfile directory = .ok name) : Name.validate name = .ok () := by
  unfold chooseName at chosen
  split at chosen
  · rename_i given _
    cases accepted : Name.validate given with
    | error cause =>
      rw [accepted] at chosen
      cases chosen
    | ok _ =>
      rw [accepted] at chosen
      exact Except.ok.inj chosen ▸ accepted
  · exact Except.ok.inj chosen ▸ Name.validate_suggest _ _

end Flags

namespace Detection

theorem bestFrom_outside (signals : Signals) (directory : Path) (best? : Option Match) (failure? : Option Cause)
    (registries : List Registry) :
    (bestFrom signals directory best? failure? registries : Run σ Cause Match).Outside := by
  induction registries generalizing best? failure? with
  | nil =>
    unfold bestFrom
    split
    · exact Run.only_pure _
    · exact Run.only_throw _
    · exact Run.only_throw _
  | cons registry rest ih =>
    refine Run.only_bind (Run.only_attempt registry.index_outside) fun answer => ?_
    split
    · exact Run.only_throw _
    · exact ih _ _
    · split
      · exact ih _ _
      · exact ih _ _

theorem selectManifest_endsAcquiring (given : Flags) (registries : List Registry) (directory : Path) :
    EndsAcquiring given directory (selectManifest registries directory : Run σ Cause Manifest) :=
  endsAcquiring_bind (Run.scan_looks directory).reads fun signals => Run.endsAs_refuse trivial <|
    endsAcquiring_bind (bestFrom_outside signals directory none none registries).reads fun best =>
      endsAcquiring_bind (Run.notice_consults _).outside.reads fun _ => best.registry.stage_endsAcquiring best.stack

theorem chooseName_reads (devfile : Devfile) (directory : Path) :
    (chooseName devfile directory : Run σ Cause String).Only Event.Reads :=
  Run.only_bind (Run.scan_looks directory).reads fun _ => Run.only_pure _

theorem validate_of_chooseName {devfile : Devfile} {directory : Path} {name : String} {session after : Session σ}
    (chosen : (chooseName devfile directory).apply session = (.ok name, after)) : Name.validate name = .ok () := by
  obtain ⟨signals, _, _, returned⟩ := Run.bind_eq_ok chosen
  obtain ⟨same, _⟩ := Prod.mk.inj returned
  exact Except.ok.inj same ▸ Name.validate_suggest _ _

end Detection

namespace Interactive

theorem choose_consults {α : Type} (prompt : String) (label : α → String) (choices : List α) :
    (choose prompt label choices : Run σ Cause α).Consults :=
  Run.only_bind (Run.select_consults _ _) fun _ => Run.only_pure _

theorem selectRegistry_consults (registries : List Registry) :
    (selectRegistry registries : Run σ Cause Registry).Consults := by
  unfold selectRegistry
  split
  · exact Run.only_throw _
  · exact Run.only_pure _
  · exact choose_consults _ _ _

theorem selectManifest_endsAcquiring (given : Flags) (registries : List Registry) (directory : Path) :
    EndsAcquiring given directory (selectManifest registries directory : Run σ Cause Manifest) :=
  endsAcquiring_bind (selectRegistry_consults registries).outside.reads fun registry =>
    endsAcquiring_bind registry.index_outside.reads fun _ => Run.endsAs_refuse trivial <|
      endsAcquiring_bind (choose_consults _ _ _).outside.reads fun _ =>
        endsAcquiring_bind (choose_consults _ _ _).outside.reads fun stack => registry.stage_endsAcquiring stack

theorem selectStarter_consults (devfile : Devfile) :
    (selectStarter devfile : Run σ Cause (Option Devfile.StarterProject)).Consults := by
  unfold selectStarter
  split
  · exact Run.only_pure _
  · exact choose_consults _ _ _

theorem askName_consults (offered : String) (fuel : Nat) :
    (askName offered fuel : Run σ Cause String).Consults := by
  induction fuel with
  | zero => exact Run.only_throw _
  | succ fuel ih =>
    refine Run.only_bind (Run.input_consults _ _) fun answer => ?_
    dsimp only
    split
    · exact Run.only_pure _
    · exact Run.only_bind (Run.notice_consults _) fun _ => ih

theorem chooseName_consults (devfile : Devfile) (directory : Path) :
    (chooseName devfile directory : Run σ Cause String).Consults :=
  Run.only_bind Run.only_get fun _ => askName_consults _ _

omit [Storage σ] in
/-- Asking goes on until an answer is valid. -/
theorem validate_of_askName {offered name : String} {fuel : Nat} {session after : Session σ}
    (chosen : (askName offered fuel).apply session = (.ok name, after)) : Name.validate name = .ok () := by
  induction fuel generalizing session with
  | zero => cases chosen
  | succ fuel ih =>
    obtain ⟨answer, asked, _, chosen⟩ := Run.bind_eq_ok chosen
    dsimp only at chosen
    split at chosen
    · rename_i accepted
      obtain ⟨same, _⟩ := Prod.mk.inj chosen
      exact Except.ok.inj same ▸ accepted
    · obtain ⟨_, _, _, again⟩ := Run.bind_eq_ok chosen
      exact ih again

omit [Storage σ] in
theorem validate_of_chooseName {devfile : Devfile} {directory : Path} {name : String} {session after : Session σ}
    (chosen : (chooseName devfile directory).apply session = (.ok name, after)) : Name.validate name = .ok () := by
  obtain ⟨_, _, _, asked⟩ := Run.bind_eq_ok chosen
  exact validate_of_askName asked

end Interactive

namespace BackendKind

/-- Selecting a manifest reads until a devfile is acquired, whichever backend serves. -/
theorem selectManifest_endsAcquiring (kind : BackendKind) (registries : List Registry) (given : Flags)
    (directory : Path) :
    EndsAcquiring given directory (kind.selectManifest registries given directory : Run σ Cause Manifest) := by
  cases kind with
  | flags => exact given.selectManifest_endsAcquiring registries directory
  | detection => exact Detection.selectManifest_endsAcquiring given registries directory
  | interactive => exact Interactive.selectManifest_endsAcquiring given registries directory

/-- Selecting a manifest reads until the bytes acquired are staged. -/
theorem selectManifest_endsStaging (kind : BackendKind) (registries : List Registry) (given : Flags)
    (directory : Path) :
    EndsStaging directory (kind.selectManifest registries given directory : Run σ Cause Manifest) :=
  (kind.selectManifest_endsAcquiring registries given directory).endsStaging

theorem selectStarter_consults (kind : BackendKind) (given : Flags) (devfile : Devfile) :
    (kind.selectStarter given devfile : Run σ Cause (Option Devfile.StarterProject)).Consults := by
  cases kind with
  | flags => exact Run.only_ofExcept _
  | detection => exact Run.only_pure _
  | interactive => exact Interactive.selectStarter_consults devfile

theorem chooseName_reads (kind : BackendKind) (given : Flags) (devfile : Devfile) (directory : Path) :
    (kind.chooseName given devfile directory : Run σ Cause String).Only Event.Reads := by
  cases kind with
  | flags => exact Run.only_ofExcept _
  | detection => exact Detection.chooseName_reads devfile directory
  | interactive => exact (Interactive.chooseName_consults devfile directory).outside.reads

/-- Every backend chooses a valid name. -/
theorem validate_of_chooseName {kind : BackendKind} {given : Flags} {devfile : Devfile} {directory : Path}
    {name : String} {session after : Session σ}
    (chosen : (kind.chooseName given devfile directory).apply session = (.ok name, after)) :
    Name.validate name = .ok () := by
  cases kind with
  | flags => exact Flags.validate_of_chooseName (Prod.mk.inj chosen).1
  | detection => exact Detection.validate_of_chooseName chosen
  | interactive => exact Interactive.validate_of_chooseName chosen

end BackendKind

end Scaffold
