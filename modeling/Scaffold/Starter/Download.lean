import Scaffold.Devfile
import Scaffold.Session.Clone
import Scaffold.Session.Fetch
import Scaffold.Starter.Overlay
import Scaffold.Starter.WorkTree

/-! # Downloading starter projects

A starter project is acquired from an archive or a repository before anything is changed. Then the staged
manifest is removed, since the project may bring its own, and the project is laid out.
-/

namespace Scaffold

/-- Why something failed, and whether a starter project left something behind before that. -/
structure Setback where
  cause : Cause
  touched : Bool
  deriving Repr, Inhabited, DecidableEq

namespace Devfile.StarterProject

variable {σ : Type} [Storage σ]

/-- A step that leaves nothing behind when it fails. -/
def untouched {α : Type} (step : Run σ Cause α) : Run σ Setback α :=
  step.mapError fun cause => ⟨cause, false⟩

/-- The cause of a failed acquisition. Cancellation stays what it is. -/
def notDownloaded (name : String) : Cause → Cause
  | .cancelled => .cancelled
  | cause => .downloadFailed name cause.message

/-- The names of the subdirectory to take. -/
def subDirectory (starter : StarterProject) : Except Cause (List String) :=
  match starter.subDir? with
  | none => .ok []
  | some text =>
    match Overlay.names? ⟨text⟩ with
    | some names => .ok names
    | none => .error (.downloadFailed starter.name ("invalid subDir " ++ Text.quoted text))

/-- Remove the staged manifest and lay the project out. -/
def layOut (starter : StarterProject) (overlay : Overlay) (step : Run σ Interruption Nat) :
    Run σ Setback Unit := do
  untouched (overlay.clearManifest.mapError fun error => .extractFailed starter.name error.message)
  let _ ← step.mapError fun interruption =>
    (⟨.extractFailed starter.name interruption.obstacle.message, 0 < interruption.written⟩ : Setback)

/-- Download an archive and lay it out. -/
def fromArchive (starter : StarterProject) (overlay : Overlay) (source : ZipSource) :
    Run σ Setback Unit := do
  let archive ← untouched ((Run.fetch source.location).mapError (notDownloaded starter.name))
  untouched Run.checkCancelled
  starter.layOut overlay (overlay.extract (← get).unpack archive)

/-- Clone a repository and lay its work tree out. -/
def fromRepository (starter : StarterProject) (overlay : Overlay) (source : GitSource) :
    Run σ Setback Unit := do
  match source.remoteUrl? with
  | none => throw ⟨.downloadFailed starter.name "git starter project has no usable remote", false⟩
  | some url =>
    let checkout ← untouched (Run.clone url source.revision? (.downloadFailed starter.name))
    untouched Run.checkCancelled
    starter.layOut overlay (overlay.placeListed none (WorkTree.listed checkout) (WorkTree.stop? checkout))

/-- Download a starter project into a directory. -/
def download (starter : StarterProject) (directory : Path) : Run σ Setback Unit := do
  let overlay : Overlay := ⟨directory, ← untouched (Run.ofExcept starter.subDirectory)⟩
  match starter.zip?, starter.git? with
  | some source, _ => starter.fromArchive overlay source
  | none, some source => starter.fromRepository overlay source
  | none, none => throw ⟨.downloadFailed starter.name "starter project declares no source", false⟩

end Devfile.StarterProject

end Scaffold
