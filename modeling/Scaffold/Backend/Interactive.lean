import Scaffold.Backend.Staging
import Scaffold.Name
import Scaffold.Session.Ask

/-! # Deciding by questions

The user chooses a registry if there are several, a language, a stack, a starter project if there are any, and
a name.
-/

namespace Scaffold.Interactive

variable {σ : Type} [Storage σ]

/-- The language of a stack in the menu of languages. -/
def languageOf (stack : Stack) : String := if stack.language.isEmpty then "Other" else stack.language

/-- The languages of some stacks, each once and in order. -/
def languages (listed : List Stack) : List String :=
  (OrderedMap.ofList (listed.map fun stack => (languageOf stack, ()))).keys

/-- The stacks of a language in the order of their names; those of one name stay in their order. -/
def stacksOf (language : String) (listed : List Stack) : List Stack :=
  (listed.filter fun stack => languageOf stack = language).mergeSort fun a b => !(b.name < a.name)

/-- A registry in a menu. -/
def registryLabel (registry : Registry) : String := registry.name ++ " (" ++ registry.url ++ ")"

/-- A starter project in a menu. -/
def starterLabel (starter : Devfile.StarterProject) : String :=
  match starter.description? with
  | some description => starter.name ++ ": " ++ description
  | none => starter.name

/-- Let the user choose one of some things by their labels. -/
def choose {α : Type} (prompt : String) (label : α → String) (choices : List α) : Run σ Cause α := do
  let choice ← Run.select prompt (choices.map label)
  pure (choices.get ⟨choice.val, by simpa using choice.isLt⟩)

/-- The registry to use. -/
def selectRegistry : List Registry → Run σ Cause Registry
  | [] => throw (.devfileNotFound "any stack" "none configured")
  | [registry] => pure registry
  | registries => choose "Select the devfile registry" registryLabel registries

/-- Stage the devfile of the stack that the user chooses. -/
def selectManifest (registries : List Registry) (directory : Path) : Run σ Cause Manifest := do
  let registry ← selectRegistry registries
  let listed ← registry.index
  if listed.isEmpty then throw (.devfileNotFound "any stack" registry.name)
  let language ← choose "Select language" id (languages listed)
  let stack ← choose "Select project type" Stack.label (stacksOf language listed)
  registry.stage stack directory

/-- The starter project that the user chooses, which may be none. -/
def selectStarter (devfile : Devfile) : Run σ Cause (Option Devfile.StarterProject) := do
  if devfile.starterProjects.isEmpty then pure none
  else
    let choices := none :: devfile.starterProjects.map some
    choose "Which starter project do you want to use?" (fun starter? => (starter?.map starterLabel).getD "none")
      choices

/-- Ask for a name until there is a valid one; an empty answer takes the one offered. The fuel bounds the
number of questions. -/
def askName (offered : String) : Nat → Run σ Cause String
  | 0 => throw .userAborted
  | fuel + 1 => do
    let answer := Text.trim (← Run.input "Enter component name" offered).toList
    let name := if answer.isEmpty then offered else String.ofList answer
    match Name.validate name with
    | .ok () => pure name
    | .error cause =>
      Run.notice cause.message
      askName offered fuel

/-- The name that the user chooses. -/
def chooseName (devfile : Devfile) (directory : Path) : Run σ Cause String := do
  askName (Name.suggest devfile.metadata.name?.toList directory) ((← get).prompter.answerCount + 1)

end Scaffold.Interactive
