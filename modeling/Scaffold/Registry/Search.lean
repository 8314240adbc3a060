import Scaffold.Registry
import Scaffold.Session.Fetch

/-! # Searching registries

Registries are searched in order for a stack. One that cannot be read is passed over, and its failure is
reported only if no other registry lists the stack; cancellation ends the search at once.
-/

namespace Scaffold

variable {σ : Type}

namespace Registry

/-- The stacks that a registry lists. -/
def index (registry : Registry) : Run σ Cause (List Stack) := do
  match Stack.index? (← Run.fetch registry.indexUrl) with
  | some listed => pure listed
  | none => throw (.fetchFailed registry.indexUrl ("invalid registry index: " ++ undisclosed))

/-- The devfile of a stack. -/
def devfile (registry : Registry) (stack : String) : Run σ Cause ByteArray :=
  Run.fetch (registry.devfileUrl stack)

/-- The first stack of a name that one of the registries lists; else the first failure met. -/
def searchFrom (name : String) (failure? : Option Cause) :
    List Registry → Run σ Cause (Option (Registry × Stack))
  | [] =>
    match failure? with
    | some failure => throw failure
    | none => pure none
  | registry :: rest => do
    match ← Run.attempt registry.index with
    | .error .cancelled => throw .cancelled
    | .error failure => searchFrom name (failure? <|> some failure) rest
    | .ok listed =>
      match listed.find? fun stack => stack.name = name with
      | some stack => pure (some (registry, stack))
      | none => searchFrom name failure? rest

/-- No registry lists a stack. -/
def missing (name : String) (searched : List Registry) : Cause :=
  .devfileNotFound name (names searched)

/-- The registry that lists a stack, and the stack: in one registry if it is named, else in any. -/
def locate (registries : List Registry) (name : String) :
    Option String → Run σ Cause (Registry × Stack)
  | none => do
    match ← searchFrom name none registries with
    | some found => pure found
    | none => throw (missing name registries)
  | some wanted =>
    match named? registries wanted with
    | none => throw (.registryNotFound wanted (names registries))
    | some registry => do
      match (← registry.index).find? fun stack => stack.name = name with
      | some stack => pure (registry, stack)
      | none => throw (missing name [registry])

end Registry

end Scaffold
