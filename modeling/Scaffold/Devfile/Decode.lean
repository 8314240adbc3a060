import Scaffold.Devfile
import Scaffold.Yaml.Value.Tree

/-! # Reading devfiles

A devfile is read from the tree of its document. A field that is a text takes the source text of any scalar.
What is not a field of a part becomes a value among the extras of that part.
-/

namespace Scaffold

namespace Yaml.Tree

/-- The fields of a mapping none of whose keys comes twice. -/
def record? (tree : Tree) : Option (List (String × Tree)) :=
  tree.fields?.filter fun fields => (fields.map Prod.fst).Nodup

/-- A field that has to be there. -/
def required? {α : Type} (fields : List (String × Tree)) (name : String) (decode : Tree → Option α) :
    Option α := (fields.lookup name).bind decode

/-- A field that may be left out, for which something stands then. -/
def defaulted? {α : Type} (fields : List (String × Tree)) (name : String) (default : α)
    (decode : Tree → Option α) : Option α :=
  match fields.lookup name with
  | some tree => decode tree
  | none => some default

/-- A field that may be left out or missing. -/
def fieldOption? {α : Type} (fields : List (String × Tree)) (name : String) (decode : Tree → Option α) :
    Option (Option α) := defaulted? fields name none (optional? decode)

/-- The values of the fields that are not among those with the given names. -/
def extras? (fields : List (String × Tree)) (known : List String) : Option (List (String × Value)) :=
  (fields.filter fun field => !known.contains field.1).mapM fun (name, tree) =>
    (Value.ofTree? tree).map fun value => (name, value)

/-- The values of a sequence. -/
def list? {α : Type} (decode : Tree → Option α) (tree : Tree) : Option (List α) := do
  (← tree.items?).mapM decode

end Yaml.Tree

namespace Devfile

open Yaml Tree

/-- Read metadata. -/
def Metadata.ofTree? (tree : Tree) : Option Metadata := do
  let fields ← tree.record?
  pure
    { name? := ← fieldOption? fields "name" text?
      language? := ← fieldOption? fields "language" text?
      projectType? := ← fieldOption? fields "projectType" text?
      extras := ← extras? fields ["name", "language", "projectType"] }

/-- Read a command. -/
def Command.ofTree? (tree : Tree) : Option Command := do
  let fields ← tree.record?
  pure { id := ← required? fields "id" text?, body := ← extras? fields ["id"] }

/-- Read what is checked out. Other fields are passed over. -/
def Checkout.ofTree? (tree : Tree) : Option Checkout := do
  let fields := (← tree.fields?).filter fun field => ["remote", "revision"].contains field.1
  if !(fields.map Prod.fst).Nodup then failure
  pure
    { remote? := ← fieldOption? fields "remote" text?
      revision? := ← fieldOption? fields "revision" text? }

/-- Read remotes; of two with the same name the later stays. -/
def remotesOfTree? (tree : Tree) : Option (OrderedMap String String) := do
  let remotes ← (← tree.fields?).mapM fun (name, url) => url.text?.map fun text => (name, text)
  pure (OrderedMap.ofList remotes)

/-- Read a repository. -/
def GitSource.ofTree? (tree : Tree) : Option GitSource := do
  let fields ← tree.record?
  pure
    { remotes := ← defaulted? fields "remotes" OrderedMap.empty remotesOfTree?
      checkout? := ← fieldOption? fields "checkoutFrom" Checkout.ofTree?
      extras := ← extras? fields ["remotes", "checkoutFrom"] }

/-- Read an archive. -/
def ZipSource.ofTree? (tree : Tree) : Option ZipSource := do
  let fields ← tree.record?
  pure { location := ← required? fields "location" text?, extras := ← extras? fields ["location"] }

/-- Read a starter project. -/
def StarterProject.ofTree? (tree : Tree) : Option StarterProject := do
  let fields ← tree.record?
  pure
    { name := ← required? fields "name" text?
      description? := ← fieldOption? fields "description" text?
      subDir? := ← fieldOption? fields "subDir" text?
      zip? := ← fieldOption? fields "zip" ZipSource.ofTree?
      git? := ← fieldOption? fields "git" GitSource.ofTree?
      extras := ← extras? fields ["name", "description", "subDir", "zip", "git"] }

/-- Read a devfile. -/
def ofTree? (tree : Tree) : Option Devfile := do
  let fields ← tree.record?
  pure
    { schemaVersion := ← required? fields "schemaVersion" text?
      metadata := ← defaulted? fields "metadata" {} Metadata.ofTree?
      commands := ← defaulted? fields "commands" [] (list? Command.ofTree?)
      starterProjects := ← defaulted? fields "starterProjects" [] (list? StarterProject.ofTree?)
      extras := ← extras? fields ["schemaVersion", "metadata", "commands", "starterProjects"] }

end Devfile

end Scaffold
