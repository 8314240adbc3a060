import Scaffold.Session.Files

/-! # The context directory

What is looked for in the directory that becomes a component. Nothing here writes.
-/

namespace Scaffold

/-- The name of the manifest. -/
def manifestName : String := "devfile.yaml"

/-- Where the manifest of a directory is. -/
def manifestPath (directory : Path) : Path := directory.join ⟨manifestName⟩

namespace Run

variable {σ : Type} [Storage σ]

/-- Whether a directory holds a regular file of the name of the manifest. -/
def containsManifest (directory : Path) : Run σ IoError Bool := do
  match ← attempt (stat (manifestPath directory)) with
  | .ok metadata => pure metadata.isFile
  | .error error => if error.kind = .notFound then pure false else throw error

end Run

end Scaffold
