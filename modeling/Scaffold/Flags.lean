import Scaffold.Failure

/-! # Flags

The flags that a run understands, each with a text that is never empty. No flag at all means that the user
is asked, or that the sources decide.
-/

namespace Scaffold

/-- The keys of the flags. -/
inductive Flag
  | name
  | devfile
  | devfileRegistry
  | starter
  | devfilePath
  deriving DecidableEq, Repr, Inhabited

/-- The value of each flag that was given. -/
structure Flags where
  name : Option String := none
  devfile : Option String := none
  devfileRegistry : Option String := none
  starter : Option String := none
  devfilePath : Option String := none
  deriving DecidableEq, Repr, Inhabited

namespace Flag

/-- All flags in the order of their keys. -/
def all : List Flag := [devfile, devfilePath, devfileRegistry, name, starter]

/-- The text of a key. -/
def key : Flag → String
  | name => "name"
  | devfile => "devfile"
  | devfileRegistry => "devfile-registry"
  | starter => "starter"
  | devfilePath => "devfile-path"

/-- The flag of a key. -/
def ofKey? (key : String) : Option Flag := all.find? fun flag => flag.key = key

end Flag

namespace Flags

/-- The value of a flag. -/
def get? (flags : Flags) : Flag → Option String
  | .name => flags.name
  | .devfile => flags.devfile
  | .devfileRegistry => flags.devfileRegistry
  | .starter => flags.starter
  | .devfilePath => flags.devfilePath

/-- Give a flag a value. -/
def set (flags : Flags) (value : String) : Flag → Flags
  | .name => { flags with name := some value }
  | .devfile => { flags with devfile := some value }
  | .devfileRegistry => { flags with devfileRegistry := some value }
  | .starter => { flags with starter := some value }
  | .devfilePath => { flags with devfilePath := some value }

/-- The flags of a list of keys and values. Unknown keys and empty values are left out, and a later value
replaces an earlier one. -/
def ofList (given : List (String × String)) : Flags :=
  given.foldl
    (fun flags (key, value) =>
      match Flag.ofKey? key with
      | none => flags
      | some flag => if value.isEmpty then flags else flags.set value flag)
    {}

/-- The given flags in the order of their keys. -/
def toList (flags : Flags) : List (String × String) :=
  Flag.all.filterMap fun flag => (flags.get? flag).map fun value => (flag.key, value)

/-- Whether no flag was given. -/
def isEmpty (flags : Flags) : Bool := flags.toList.isEmpty

/-- The first rule about combinations that the flags break. -/
def conflict? (flags : Flags) : Option Cause :=
  let devfile := flags.devfile.isSome
  let devfilePath := flags.devfilePath.isSome
  if devfile && devfilePath then some .flagConflict
  else if flags.devfileRegistry.isSome && !devfile then some .flagDependency
  else if flags.starter.isSome && !devfile && !devfilePath then some .starterWithoutDevfile
  else if !devfile && !devfilePath then some .devfileRequired
  else none

theorem get?_set (flags : Flags) (value : String) (flag other : Flag) :
    (flags.set value flag).get? other = if other = flag then some value else flags.get? other := by
  cases flag <;> cases other <;> simp [set, get?]

end Flags

end Scaffold
