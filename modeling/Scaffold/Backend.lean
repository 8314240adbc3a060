import Scaffold.Backend.Detection
import Scaffold.Backend.Flags
import Scaffold.Backend.Interactive
import Scaffold.Backend.Kind

/-! # Decisions of a run

What the devfile, the starter project and the name are, each decided by the backend that serves the run.
-/

namespace Scaffold.BackendKind

variable {σ : Type} [Storage σ]

/-- Whether a backend serves a run with some flags in a directory that is empty or not. -/
def serves (kind : BackendKind) (flags : Flags) (directoryIsEmpty : Bool) : Bool :=
  choose flags directoryIsEmpty = kind

/-- Select a devfile and stage it. -/
def selectManifest (kind : BackendKind) (registries : List Registry) (given : Flags) (directory : Path) :
    Run σ Cause Manifest :=
  match kind with
  | flags => given.selectManifest registries directory
  | detection => Detection.selectManifest registries directory
  | interactive => Interactive.selectManifest registries directory

/-- Select a starter project, if one is wanted. -/
def selectStarter (kind : BackendKind) (given : Flags) (devfile : Devfile) :
    Run σ Cause (Option Devfile.StarterProject) :=
  match kind with
  | flags => Run.ofExcept (given.selectStarter devfile)
  | detection => pure none
  | interactive => Interactive.selectStarter devfile

/-- Choose the name of the component. -/
def chooseName (kind : BackendKind) (given : Flags) (devfile : Devfile) (directory : Path) : Run σ Cause String :=
  match kind with
  | flags => Run.ofExcept (given.chooseName devfile directory)
  | detection => Detection.chooseName devfile directory
  | interactive => Interactive.chooseName devfile directory

end Scaffold.BackendKind
