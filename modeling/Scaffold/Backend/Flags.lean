import Scaffold.Backend.Staging
import Scaffold.Flags
import Scaffold.Name
import Scaffold.Url

/-! # Deciding by flags

The devfile is fetched or read from the place that a flag names, or is that of a stack named by a flag. The
starter project and the name are those of their flags.
-/

namespace Scaffold.Flags

variable {σ : Type} [Storage σ]

/-- The bytes at a place: a web address, or a path in a directory. -/
def acquire (place : String) (directory : Path) : Run σ Cause ByteArray :=
  if Url.isUrl place then Run.fetch place
  else
    let path := directory.join ⟨place⟩
    Run.during "read devfile" path (Run.read path)

/-- Stage the devfile that the flags ask for. -/
def selectManifest (flags : Flags) (registries : List Registry) (directory : Path) :
    Run σ Cause Manifest := do
  match flags.devfilePath with
  | some place =>
    let contents ← acquire place directory
    Run.checkCancelled
    Manifest.stage directory contents place
  | none =>
    match flags.devfile with
    | none => throw .devfileRequired
    | some name =>
      let (registry, stack) ← Registry.locate registries name flags.devfileRegistry
      registry.stage stack directory

/-- The names of starter projects in a message. -/
def starterNames (starters : List Devfile.StarterProject) : String :=
  if starters.isEmpty then "none" else ", ".intercalate (starters.map Devfile.StarterProject.name)

/-- The starter project that a flag names. -/
def selectStarter (flags : Flags) (devfile : Devfile) : Except Cause (Option Devfile.StarterProject) :=
  match flags.starter with
  | none => .ok none
  | some name =>
    match devfile.starterProject? name with
    | some starter => .ok (some starter)
    | none => .error (.starterNotFound name (starterNames devfile.starterProjects))

/-- The name that a flag gives, or one that is made up. -/
def chooseName (flags : Flags) (devfile : Devfile) (directory : Path) : Except Cause String :=
  match flags.name with
  | some name => (Name.validate name).map fun () => name
  | none => .ok (Name.suggest devfile.metadata.name?.toList directory)

end Scaffold.Flags
