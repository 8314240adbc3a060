import Scaffold.Devfile
import Scaffold.Text.Number
import Scaffold.Text.Quoted
import Scaffold.Text.Split

/-! # Defects of devfiles

A devfile is usable if its schema has version 2, its commands and starter projects have names of their own, and
each starter project comes from one place.
-/

namespace Scaffold.Devfile

/-- Why a devfile cannot be used. -/
inductive Defect
  | unsupportedSchema (version : String)
  | commandWithoutId
  | repeatedCommand (id : String)
  | starterWithoutName
  | repeatedStarter (name : String)
  | unclearRemote (name : String)
  | unclearSource (name : String)
  deriving DecidableEq, Repr, Inhabited

/-- The text of a defect. -/
def Defect.message : Defect → String
  | unsupportedSchema version => "unsupported schemaVersion " ++ Text.quoted version
  | commandWithoutId => "command with empty id"
  | repeatedCommand id => "duplicate command id " ++ Text.quoted id
  | starterWithoutName => "starter project with empty name"
  | repeatedStarter name => "duplicate starter project " ++ Text.quoted name
  | unclearRemote name =>
    "starter project " ++ Text.quoted name ++ " must name a single git remote or set checkoutFrom.remote"
  | unclearSource name =>
    "starter project " ++ Text.quoted name ++ " must declare exactly one of zip.location or git"

/-- Whether a part of a version starts with a number that ends at a dash. -/
def isNumbered (part : List Char) : Bool := (Text.number? (part.takeWhile (· ≠ '-'))).isSome

/-- Whether a schema version is supported: parts between dots, the first of them the number 2. -/
def isSupported (version : String) : Bool :=
  match Text.split '.' version.toList with
  | major :: rest => Text.number? major = some 2 && rest.all isNumbered
  | [] => false

/-- The first name in a list that is empty or comes again after some names already seen. -/
def firstUnusable? (seen : List String) : List String → Option String
  | [] => none
  | name :: rest =>
    if name.isEmpty || seen.contains name then some name else firstUnusable? (name :: seen) rest

/-- The first defect among commands. -/
def commandDefect? (commands : List Command) : Option Defect :=
  (firstUnusable? [] (commands.map Command.id)).map fun id =>
    if id.isEmpty then .commandWithoutId else .repeatedCommand id

/-- What is wrong with the place a starter project comes from. -/
def sourceDefect? (starter : StarterProject) : Option Defect :=
  match starter.zip?, starter.git? with
  | some zip, none => if zip.location.isEmpty then some (.unclearSource starter.name) else none
  | none, some git => if git.remoteUrl?.isSome then none else some (.unclearRemote starter.name)
  | _, _ => some (.unclearSource starter.name)

/-- The first defect among starter projects, given the names of those before. -/
def starterDefect? (seen : List String) : List StarterProject → Option Defect
  | [] => none
  | starter :: rest =>
    if starter.name.isEmpty then some .starterWithoutName
    else if seen.contains starter.name then some (.repeatedStarter starter.name)
    else (sourceDefect? starter).or (starterDefect? (starter.name :: seen) rest)

/-- The first defect of a devfile. -/
def defect? (devfile : Devfile) : Option Defect :=
  if isSupported devfile.schemaVersion then
    (commandDefect? devfile.commands).or (starterDefect? [] devfile.starterProjects)
  else some (.unsupportedSchema devfile.schemaVersion)

end Scaffold.Devfile
