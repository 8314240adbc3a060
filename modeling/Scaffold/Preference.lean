import Scaffold.Devfile.Decode
import Scaffold.Preference.Duration
import Scaffold.Registry
import Scaffold.Session.Files
import Scaffold.Text.Utf8

/-! # Preferences

The registries to search, in order, and how long to wait for them. A file without registries leaves the usual
one; a list of registries must have at least one, each of a name of its own.
-/

namespace Scaffold

/-- What a user prefers. -/
structure Preferences where
  registries : List Registry
  timeout : Duration
  deriving DecidableEq, Repr, Inhabited

namespace Preferences

/-- Why preferences cannot be used. -/
inductive Problem
  | unreadable
  | malformed
  | noRegistry
  | repeatedRegistry (name : String)
  deriving DecidableEq, Repr, Inhabited

/-- The text of a problem with a file. -/
def Problem.message (path : Path) : Problem → String
  | unreadable => "failed to read preference file " ++ path.text ++ ": " ++ undisclosed
  | malformed => "failed to parse preference file " ++ path.text ++ ": " ++ undisclosed
  | noRegistry => "preference file " ++ path.text ++ " configures no registry"
  | repeatedRegistry name =>
    "preference file " ++ path.text ++ " configures registry " ++ Text.quoted name ++ " more than once"

/-- The registry that is searched unless others are configured. -/
def defaultRegistry : Registry := ⟨"DefaultDevfileRegistry", "https://registry.devfile.io"⟩

/-- The preferences of a user without a preference file. -/
def default : Preferences := ⟨[defaultRegistry], ⟨30, 0⟩⟩

/-- What a preference file says. -/
structure Document where
  registries? : Option (List Registry) := none
  timeout? : Option Duration := none
  deriving DecidableEq, Repr, Inhabited

open Yaml Tree in
/-- Read a registry. Other fields are passed over. -/
def registryOfTree? (tree : Tree) : Option Registry := do
  let fields := (← tree.fields?).filter fun field => ["name", "url"].contains field.1
  if !(fields.map Prod.fst).Nodup then failure
  pure { name := ← required? fields "name" text?, url := ← required? fields "url" text? }

open Yaml Tree in
/-- Read a preference file, which has no other fields. -/
def Document.ofTree? (tree : Tree) : Option Document := do
  let fields ← tree.record?
  if !fields.all fun field => ["registries", "timeout"].contains field.1 then failure
  pure
    { registries? := ← fieldOption? fields "registries" (list? registryOfTree?)
      timeout? := ← fieldOption? fields "timeout" fun tree => tree.text?.bind Duration.ofText? }

/-- The first name in a list that is among those before it or some already seen. -/
def firstRepeated? (seen : List String) : List String → Option String
  | [] => none
  | name :: rest => if seen.contains name then some name else firstRepeated? (name :: seen) rest

/-- The preferences that a file says. -/
def ofDocument (document : Document) : Except Problem Preferences :=
  let registries := document.registries?.getD default.registries
  if registries.isEmpty then .error .noRegistry
  else
    match firstRepeated? [] (registries.map Registry.name) with
    | some name => .error (.repeatedRegistry name)
    | none => .ok ⟨registries, document.timeout?.getD default.timeout⟩

/-- The preferences that a text writes. -/
def ofText (text : String) : Except Problem Preferences :=
  match (Yaml.Tree.ofText? text.toList).bind Document.ofTree? with
  | none => .error .malformed
  | some document => ofDocument document

variable {σ : Type} [Storage σ]

/-- The preferences in a file; without the file, the usual ones. -/
def load (path : Path) : Run σ Problem Preferences := do
  match ← Run.attempt (Run.read path) with
  | .ok contents =>
    match Text.fromUtf8? contents with
    | some text => Run.ofExcept (ofText text)
    | none => throw .unreadable
  | .error error => if error.kind = .notFound then pure default else throw .unreadable

end Preferences

end Scaffold
