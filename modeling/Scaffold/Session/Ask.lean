import Scaffold.Session

/-! # Asking the user

Every question is preceded and followed by a check for cancellation. An aborted question, and a choice that
the menu does not have, fail the run.
-/

namespace Scaffold.Run

variable {σ ε : Type}

/-- Show a notice. -/
def notice (message : String) : Run σ ε Unit := note (.notice message)

/-- What a prepared answer says to a question, by the part of it that fits. -/
def answerWith {α : Type} (part : ScriptedAnswer → Option α) (answer : ScriptedAnswer) :
    Run σ Cause (Option α) := do
  if answer.cancels then update Session.cancel
  match answer.failure with
  | some reason => throw (.prompt reason)
  | none => pure (part answer)

/-- Put a question to whoever answers; no answer means that the user aborted it. -/
def put {α : Type} (question : Question) (part : ScriptedAnswer → Option α) : Run σ Cause (Option α) := do
  note (.question question)
  match (← get).prompter with
  | .silent =>
    throw (.prompt ("cannot ask " ++ Text.quoted question.prompt ++ " in non-interactive mode"))
  | .withoutTerminal =>
    throw (.prompt "cannot prompt in non-interactive mode, pass --devfile or --devfile-path")
  | .scripted [] => throw (.prompt "no scripted answer left")
  | .scripted (answer :: answers) =>
    update fun session => { session with prompter := .scripted answers }
    answerWith part answer

/-- The value of an answered question. -/
def answered {α : Type} : Option α → Run σ Cause α
  | none => throw .userAborted
  | some value => pure value

/-- Let the user choose one of some items. -/
def select (prompt : String) (items : List String) : Run σ Cause (Fin items.length) := do
  checkCancelled
  let choice ← answered (← put (.select prompt items 0) ScriptedAnswer.choice)
  if valid : choice < items.length then
    checkCancelled
    pure ⟨choice, valid⟩
  else
    throw (.prompt ("selection " ++ toString choice ++ " out of range for " ++ Text.quoted prompt))

/-- Let the user enter a text. -/
def input (prompt offered : String) : Run σ Cause String := do
  checkCancelled
  let text ← answered (← put (.input prompt offered) ScriptedAnswer.text)
  checkCancelled
  pure text

end Scaffold.Run
