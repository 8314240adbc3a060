import Scaffold.Data.OrderedMap
import Scaffold.Yaml.Value

/-! # Devfiles

The document that describes a component. What a run has to know of it has fields of its own; everything else
stays in the extras of the part it was found in, in its order, so that writing a devfile loses nothing.
-/

namespace Scaffold

/-- The entries of a part of a devfile that a run does not need to understand. -/
abbrev Extras := List (String × Yaml.Value)

namespace Devfile

/-- What a devfile says about itself. -/
structure Metadata where
  name? : Option String := none
  language? : Option String := none
  projectType? : Option String := none
  extras : Extras := []
  deriving Inhabited, Repr

/-- A command, of which only the name is needed. -/
structure Command where
  id : String
  body : Extras := []
  deriving Inhabited, Repr

/-- What is checked out of a repository. -/
structure Checkout where
  remote? : Option String := none
  revision? : Option String := none
  deriving Inhabited, Repr, DecidableEq

/-- A repository under the names of its remotes. -/
structure GitSource where
  remotes : OrderedMap String String := OrderedMap.empty
  checkout? : Option Checkout := none
  extras : Extras := []
  deriving Inhabited, Repr

/-- An archive and where it is. -/
structure ZipSource where
  location : String
  extras : Extras := []
  deriving Inhabited, Repr

/-- A project that a component may start from. -/
structure StarterProject where
  name : String
  description? : Option String := none
  subDir? : Option String := none
  zip? : Option ZipSource := none
  git? : Option GitSource := none
  extras : Extras := []
  deriving Inhabited, Repr

end Devfile

/-- A devfile. -/
structure Devfile where
  schemaVersion : String
  metadata : Devfile.Metadata := {}
  commands : List Devfile.Command := []
  starterProjects : List Devfile.StarterProject := []
  extras : Extras := []
  deriving Inhabited, Repr

namespace Devfile

namespace Command

/-- The kinds of commands that may belong to a group. -/
def groupedKinds : List String := ["exec", "apply", "composite"]

/-- The kind of the group of a command: that of the first of its grouped kinds that tells one. -/
def groupKind? (command : Command) : Option String :=
  groupedKinds.findSome? fun kind => do
    let body ← command.body.lookup kind
    let group ← body.get? "group"
    let kind ← group.get? "kind"
    kind.text?

end Command

namespace GitSource

/-- The address to clone from: the remote that is named, or the only one. -/
def remoteUrl? (source : GitSource) : Option String :=
  match source.checkout?.bind Checkout.remote? with
  | some remote => source.remotes.get? remote
  | none =>
    match source.remotes.entries with
    | [(_, url)] => some url
    | _ => none

/-- The revision to check out. -/
def revision? (source : GitSource) : Option String := source.checkout?.bind Checkout.revision?

end GitSource

/-- The commands of a group. -/
def commandsOfGroup (devfile : Devfile) (kind : String) : List Command :=
  devfile.commands.filter fun command => command.groupKind? = some kind

/-- Whether some command deploys the component. -/
def hasDeployCommand (devfile : Devfile) : Bool := !(devfile.commandsOfGroup "deploy").isEmpty

/-- What stands for a fact that a devfile does not tell. -/
def notAvailable : String := "Not available"

/-- The type of the component: the type of the project, or else its language. -/
def componentType (devfile : Devfile) : String :=
  let told := fun (text? : Option String) => text?.filter fun text => !text.isEmpty
  ((told devfile.metadata.projectType?).or (told devfile.metadata.language?)).getD notAvailable

/-- The first starter project of a name. -/
def starterProject? (devfile : Devfile) (name : String) : Option StarterProject :=
  devfile.starterProjects.find? fun starter => starter.name = name

/-- The same devfile under another name. -/
def withName (devfile : Devfile) (name : String) : Devfile :=
  { devfile with metadata := { devfile.metadata with name? := some name } }

end Devfile

end Scaffold
