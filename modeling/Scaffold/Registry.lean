import Scaffold.Json.Document
import Scaffold.Text.Blank

/-! # Registries

A registry has a name and an address, under which it serves the index of its stacks and the devfile of each
stack. The index is a JSON array; a stack in it is an object, or an array of its fields in order, and what
is missing is empty.
-/

namespace Scaffold

/-- A devfile registry. -/
structure Registry where
  name : String
  url : String
  deriving DecidableEq, Repr, Inhabited

/-- One stack that a registry lists. -/
structure Stack where
  name : String := ""
  displayName : String := ""
  description : String := ""
  language : String := ""
  projectType : String := ""
  tags : List String := []
  starterProjects : List String := []
  deriving DecidableEq, Repr, Inhabited

namespace Registry

/-- The address of a path below the registry. -/
def endpoint (registry : Registry) (path : String) : String :=
  String.ofList (Text.trimEnd (· = '/') registry.url.toList ++
    '/' :: Text.trimStart (· = '/') path.toList)

/-- The address of the index. -/
def indexUrl (registry : Registry) : String := registry.endpoint "index"

/-- The address of the devfile of a stack. -/
def devfileUrl (registry : Registry) (stack : String) : String := registry.endpoint ("devfiles/" ++ stack)

/-- The names of some registries. -/
def names (registries : List Registry) : String := ", ".intercalate (registries.map Registry.name)

/-- The first registry of a name. -/
def named? (registries : List Registry) (name : String) : Option Registry :=
  registries.find? fun registry => registry.name = name

end Registry

namespace Stack

open Json

/-- The line of a stack in a menu. -/
def label (stack : Stack) : String :=
  if stack.projectType.isEmpty then stack.name else stack.projectType ++ " (" ++ stack.name ++ ")"

/-- The fields of a stack in order. -/
def fieldNames : List String :=
  ["name", "displayName", "description", "language", "projectType", "tags", "starterProjects"]

/-- Give a field its value. -/
def set? (stack : Stack) (field : String) (value : Document) : Option Stack :=
  match field with
  | "name" => value.text?.map fun name => { stack with name }
  | "displayName" => value.text?.map fun displayName => { stack with displayName }
  | "description" => value.text?.map fun description => { stack with description }
  | "language" => value.text?.map fun language => { stack with language }
  | "projectType" => value.text?.map fun projectType => { stack with projectType }
  | "tags" => value.texts?.map fun tags => { stack with tags }
  | "starterProjects" => value.texts?.map fun starterProjects => { stack with starterProjects }
  | _ => some stack

/-- Whether a field of a stack is given more than once. -/
def hasRepeatedField (keys : List String) : Bool :=
  fieldNames.any fun field => 1 < keys.count field

/-- The stack that a document describes. -/
def ofDocument? : Document → Option Stack
  | .object fields => do
    let keyed ← fields.mapM fun (key?, value) => key?.map fun key => (key, value)
    if hasRepeatedField (keyed.map Prod.fst) then none
    else keyed.foldlM (fun stack (field, value) => stack.set? field value) {}
  | .array items =>
    if fieldNames.length < items.length then none
    else (fieldNames.zip items).foldlM (fun stack (field, value) => stack.set? field value) {}
  | _ => none

/-- The stacks of an index. -/
def index? (contents : ByteArray) : Option (List Stack) := do
  match ← Document.parse? contents with
  | .array items => items.mapM ofDocument?
  | _ => none

end Stack

end Scaffold
