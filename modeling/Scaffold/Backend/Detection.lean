import Scaffold.Backend.Staging
import Scaffold.Detect.Scan
import Scaffold.Name
import Scaffold.Session.Ask

/-! # Deciding by the sources

The stack that fits the sources best is taken, whichever registry lists it. There is no starter project, since
there are sources already, and the name is that of the project.
-/

namespace Scaffold.Detection

variable {σ : Type} [Storage σ]

/-- A stack with its score and the registry that lists it. -/
structure Match where
  registry : Registry
  stack : Stack
  score : Nat
  deriving DecidableEq, Repr, Inhabited

/-- The better of the best so far and the best of one more registry, which has to beat it. -/
def better (best? : Option Match) (challenger : Match) : Option Match :=
  match best? with
  | none => some challenger
  | some best =>
    if Signals.beats (challenger.stack, challenger.score) (best.stack, best.score) then some challenger
    else some best

/-- The best of a registry that lists some stacks. -/
def matchIn? (signals : Signals) (registry : Registry) (listed : List Stack) : Option Match :=
  (signals.bestMatch listed).map fun (stack, score) => ⟨registry, stack, score⟩

/-- The best match among registries, given what was found before. A registry without an index is passed over;
the first such failure is reported if nothing else is found. -/
def bestFrom (signals : Signals) (directory : Path) (best? : Option Match) (failure? : Option Cause) :
    List Registry → Run σ Cause Match
  | [] =>
    match best?, failure? with
    | some best, _ => pure best
    | none, some failure => throw failure
    | none, none => throw (.detectionFailed directory)
  | registry :: rest => do
    match ← Run.attempt registry.index with
    | .error .cancelled => throw .cancelled
    | .error failure => bestFrom signals directory best? (failure? <|> some failure) rest
    | .ok listed =>
      match matchIn? signals registry listed with
      | none => bestFrom signals directory best? failure? rest
      | some challenger => bestFrom signals directory (better best? challenger) failure? rest

/-- What the user is told about the stack that was selected. -/
def report (stack : Stack) : String :=
  let line (label value : String) : String :=
    if value.isEmpty then "" else "\n  " ++ label ++ ": " ++ value
  "Based on the files in the current directory, the " ++ stack.name ++ " devfile was selected" ++
    line "Language" stack.language ++ line "Project type" stack.projectType

/-- Stage the devfile of the stack that fits the sources best. -/
def selectManifest (registries : List Registry) (directory : Path) : Run σ Cause Manifest := do
  let signals ← Run.scan directory
  if signals.isEmpty then throw (.detectionFailed directory)
  let best ← bestFrom signals directory none none registries
  Run.notice (report best.stack)
  best.registry.stage best.stack directory

/-- The name of the project, of the devfile or of the directory. -/
def chooseName (devfile : Devfile) (directory : Path) : Run σ Cause String := do
  let signals ← Run.scan directory
  pure (Name.suggest (signals.projectName.toList ++ devfile.metadata.name?.toList) directory)

end Scaffold.Detection
