import Scaffold.Manifest
import Scaffold.Registry.Search

/-! # Staging the devfile of a stack -/

namespace Scaffold.Registry

variable {σ : Type} [Storage σ]

/-- Fetch the devfile of a stack and stage it in a directory. -/
def stage (registry : Registry) (stack : Stack) (directory : Path) : Run σ Cause Manifest := do
  let contents ← registry.devfile stack.name
  Run.checkCancelled
  Manifest.stage directory contents (registry.name ++ "/" ++ stack.name)

end Scaffold.Registry
