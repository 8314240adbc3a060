import Scaffold.Backend.Kind
import Scaffold.Json
import Scaffold.Path

/-! # Components

What a successful run has made of a directory, and what the user is told about it.
-/

namespace Scaffold

/-- A component that was set up. -/
structure Component where
  name : String
  manifestPath : Path
  backend : BackendKind
  /-- The name of the starter project it started from. -/
  starter? : Option String
  hasDeployCommand : Bool
  deriving DecidableEq, Repr, Inhabited

namespace Component

/-- The last words of a successful run. -/
def exitMessage (component : Component) : String :=
  "Your new component '" ++ component.name ++ "' is ready in the current directory.\n" ++
    "To start editing your component, use 'devinit dev' and open this folder in your favorite IDE.\n" ++
    "Changes will be directly reflected on the cluster." ++
    if component.hasDeployCommand then
      "\nTo deploy your component to a cluster use \"devinit deploy\"."
    else ""

/-- The fields of a component in a report. -/
def report (component : Component) : List (String × Json) :=
  [("name", .string component.name), ("devfilePath", .string component.manifestPath.text),
    ("backend", .string component.backend.name), ("starter", .ofText? component.starter?),
    ("hasDeployCommand", .bool component.hasDeployCommand)]

end Component

end Scaffold
