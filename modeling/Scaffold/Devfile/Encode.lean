import Scaffold.Devfile

/-! # Writing devfiles

The fields of each part come first, in a fixed order, and then its extras in theirs. Fields without anything in
them are left out; the schema version, the metadata and the remotes are always there.
-/

namespace Scaffold.Devfile

open Yaml (Value)

/-- A mapping with these fields. -/
def record (fields : List (String × Value)) : Value :=
  .mapping (fields.map fun (name, value) => (.string name, value))

/-- A field if there is something to write. -/
def field? {α : Type} (name : String) (encode : α → Value) : Option α → List (String × Value)
  | some value => [(name, encode value)]
  | none => []

/-- A field with a sequence unless this is empty. -/
def fieldList {α : Type} (name : String) (encode : α → Value) (items : List α) : List (String × Value) :=
  if items.isEmpty then [] else [(name, .sequence (items.map encode))]

/-- Metadata as a value. -/
def Metadata.toValue (metadata : Metadata) : Value :=
  record (field? "name" .string metadata.name? ++ field? "language" .string metadata.language? ++
    field? "projectType" .string metadata.projectType? ++ metadata.extras)

/-- A command as a value. -/
def Command.toValue (command : Command) : Value := record (("id", .string command.id) :: command.body)

/-- What is checked out as a value. -/
def Checkout.toValue (checkout : Checkout) : Value :=
  record (field? "remote" .string checkout.remote? ++ field? "revision" .string checkout.revision?)

/-- A repository as a value. -/
def GitSource.toValue (source : GitSource) : Value :=
  let remotes := record (source.remotes.entries.map fun (name, url) => (name, .string url))
  record (("remotes", remotes) :: field? "checkoutFrom" Checkout.toValue source.checkout? ++ source.extras)

/-- An archive as a value. -/
def ZipSource.toValue (source : ZipSource) : Value :=
  record (("location", .string source.location) :: source.extras)

/-- A starter project as a value. -/
def StarterProject.toValue (starter : StarterProject) : Value :=
  record (("name", .string starter.name) :: field? "description" .string starter.description? ++
    field? "subDir" .string starter.subDir? ++ field? "zip" ZipSource.toValue starter.zip? ++
    field? "git" GitSource.toValue starter.git? ++ starter.extras)

/-- A devfile as a value. -/
def toValue (devfile : Devfile) : Value :=
  record (("schemaVersion", .string devfile.schemaVersion) :: ("metadata", devfile.metadata.toValue) ::
    fieldList "commands" Command.toValue devfile.commands ++
    fieldList "starterProjects" StarterProject.toValue devfile.starterProjects ++ devfile.extras)

end Scaffold.Devfile
