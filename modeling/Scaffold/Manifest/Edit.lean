import Scaffold.Manifest

/-! # Editing manifests

A manifest at hand goes through staging, reading, renaming and saving. What fails leaves the one at hand, except
that a renamed manifest keeps its new name even if it could not be saved.
-/

namespace Scaffold.Manifest

/-- What can be done with a manifest at hand. -/
inductive Edit
  | stage (directory : Path) (contents : ByteArray) (origin : String)
  | read (path : Path)
  | rename (name : String)
  | save

variable {σ : Type} [Storage σ] {ε : Type}

/-- Take what a step acquires in place of the manifest at hand. -/
def replace (current? : Option Manifest) (step : Run σ Cause Manifest) :
    Run σ ε (Option Manifest × Except Cause Unit) := do
  match ← Run.attempt step with
  | .ok manifest => pure (some manifest, .ok ())
  | .error cause => pure (current?, .error cause)

/-- Do something with the manifest at hand, if there is one: the manifest at hand then, and what came of it. -/
def Edit.perform (current? : Option Manifest) : Edit → Run σ ε (Option Manifest × Except Cause Unit)
  | stage directory contents origin => replace current? (Manifest.stage directory contents origin)
  | read path => replace current? (Manifest.read path)
  | rename name => saved (current?.map fun manifest => manifest.withName name)
  | save => saved current?
where
  /-- Save the manifest that is now at hand. -/
  saved (current? : Option Manifest) : Run σ ε (Option Manifest × Except Cause Unit) := do
    match current? with
    | some manifest => pure (current?, ← Run.attempt manifest.save)
    | none => pure (none, .ok ())

end Scaffold.Manifest
