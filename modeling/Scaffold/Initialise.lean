import Scaffold.Backend
import Scaffold.Component
import Scaffold.Flags.Validate
import Scaffold.Starter.Download

/-! # Initialising a directory

A run turns the working directory into a component. It refuses a directory that has a manifest already, checks
the flags, stages a devfile, decides on a starter project and a name, lays the starter project out and writes
the devfile under the name. A run that fails after the checks removes the manifest again, unless a starter
project has been laid out by then, even in part.
-/

namespace Scaffold

namespace Run

variable {σ : Type} [Storage σ]

/-- What a user without flags is told about the directory. -/
def greeting (directoryIsEmpty : Bool) : String :=
  if directoryIsEmpty then
    "The current directory is empty. devinit will help you start a new project."
  else
    "The current directory already contains source code. devinit will try to autodetect the language and " ++
      "project type in order to select the best suited devfile for your project."

/-- A step before a starter project is laid out. -/
def beforeStarter {α : Type} (step : Run σ Cause α) : Run σ Setback α :=
  step.mapError fun cause => ⟨cause, false⟩

/-- A step after a starter project was laid out, if there is one. -/
def afterStarter {α : Type} (starter? : Option Devfile.StarterProject) (step : Run σ Cause α) :
    Run σ Setback α :=
  step.mapError fun cause => ⟨cause, starter?.isSome⟩

/-- The manifest after the starter project was laid out: its own if it brought one. -/
def settledManifest (staged : Manifest) : Run σ Cause Manifest := do
  if ← isFile staged.path then Manifest.read staged.path else pure staged

/-- Lay a starter project out, and take its manifest if it brings one. -/
def withStarter (starter? : Option Devfile.StarterProject) (staged : Manifest) (directory : Path) :
    Run σ Setback Manifest :=
  match starter? with
  | none => pure staged
  | some starter => do
    starter.download directory
    afterStarter starter? (settledManifest staged)

/-- Record what the component is. -/
def recordComponent {ε : Type} (devfile : Devfile) : Run σ ε Unit := do
  let told := fun (text? : Option String) => Json.string (text?.getD Devfile.notAvailable)
  record .componentType (.string devfile.componentType)
  record .language (told devfile.metadata.language?)
  record .projectType (told devfile.metadata.projectType?)
  record .devfileName (told devfile.metadata.name?)

/-- Write the devfile under the name of the component. -/
def commit (manifest : Manifest) : Run σ Cause Unit := do
  checkCancelled
  manifest.save

/-- What is decided before a starter project is laid out: the devfile that was staged, the starter project and
the name. -/
structure Plan where
  staged : Manifest
  starter? : Option Devfile.StarterProject
  name : String
  deriving Inhabited, Repr

/-- Tell a user without flags about the directory. -/
def greet (flags : Flags) (directoryIsEmpty : Bool) : Run σ Cause Unit :=
  if flags.isEmpty then notice (greeting directoryIsEmpty) else pure ()

/-- Decide on a starter project and a name for a devfile that was staged. -/
def planFor (backend : BackendKind) (flags : Flags) (directory : Path) (staged : Manifest) : Run σ Cause Plan := do
  checkCancelled
  let starter? ← backend.selectStarter flags staged.devfile
  let name ← backend.chooseName flags staged.devfile directory
  checkCancelled
  pure { staged, starter?, name }

/-- Stage a devfile, and decide on a starter project and a name. -/
def prepare (backend : BackendKind) (registries : List Registry) (flags : Flags) (directory : Path)
    (directoryIsEmpty : Bool) : Run σ Cause Plan := do
  greet flags directoryIsEmpty
  let staged ← backend.selectManifest registries flags directory
  planFor backend flags directory staged

/-- The component that a run has made of a directory. -/
def componentOf (backend : BackendKind) (plan : Plan) (manifest : Manifest) : Component :=
  { name := plan.name
    manifestPath := manifest.path
    backend
    starter? := plan.starter?.map Devfile.StarterProject.name
    hasDeployCommand := manifest.devfile.hasDeployCommand }

/-- Set the component up in a directory that was checked. -/
def setUp (registries : List Registry) (flags : Flags) (directory : Path) (directoryIsEmpty : Bool) :
    Run σ Setback Component := do
  let backend := BackendKind.choose flags directoryIsEmpty
  let plan ← beforeStarter (prepare backend registries flags directory directoryIsEmpty)
  let manifest := (← withStarter plan.starter? plan.staged directory).withName plan.name
  afterStarter plan.starter? (commit manifest)
  recordComponent manifest.devfile
  pure (componentOf backend plan manifest)

/-- A step before anything is written. -/
def beforeWriting {α : Type} (step : Run σ Cause α) : Run σ Failure α :=
  step.mapError fun cause => ⟨cause, .nothingWritten⟩

/-- Undo what a run did that met a setback: remove the manifest, if nothing but that was written. -/
def rollBack (directory : Path) (setback : Setback) : Run σ Failure Failure := do
  if setback.touched then pure ⟨setback.cause, .preserved⟩
  else
    let _ ← attempt (remove (manifestPath directory))
    pure ⟨setback.cause, .devfileRemoved⟩

/-- Refuse a directory that has a manifest. -/
def refuseManifest (directory : Path) : Run σ Cause Unit := do
  if ← during "inspect" (manifestPath directory) (containsManifest directory) then
    throw (.alreadyInitialised directory)

/-- Check the working directory and the flags: the directory, and whether it is empty. -/
def inspect (registries : List Registry) (flags : Flags) : Run σ Cause (Path × Bool) := do
  let directory ← during "determine working directory" ⟨"."⟩ workingDirectory
  record .interactive (.bool flags.isEmpty)
  refuseManifest directory
  validateFlags flags directory registries
  let directoryIsEmpty ← during "read directory" directory (isEmptyDir directory)
  pure (directory, directoryIsEmpty)

/-- Initialise the working directory. -/
def initialise (registries : List Registry) (flags : Flags) : Run σ Failure Component := do
  let (directory, directoryIsEmpty) ← beforeWriting (inspect registries flags)
  match ← attempt (setUp registries flags directory directoryIsEmpty) with
  | .ok component => pure component
  | .error setback => throw (← rollBack directory setback)

end Run

end Scaffold
