/-! # Questions to the user

A question is a menu or a request for text. Who answers may be nobody: a run without a terminal refuses
every question. A script answers in order, and may also abort, fail or cancel the run.
-/

namespace Scaffold

/-- A question. -/
inductive Question
  /-- Choose one of some items, one of them offered first. -/
  | select (prompt : String) (items : List String) (offered : Nat)
  /-- Enter a text, or take the one offered. -/
  | input (prompt : String) (offered : String)
  deriving DecidableEq, Repr, Inhabited

/-- The text of a question. -/
def Question.prompt : Question → String
  | select prompt _ _ => prompt
  | input prompt _ => prompt

/-- One prepared answer. The answer to a menu is its choice and the answer to a request its text; where
that is missing, the question is aborted. -/
structure ScriptedAnswer where
  cancels : Bool := false
  failure : Option String := none
  choice : Option Nat := none
  text : Option String := none
  deriving DecidableEq, Repr, Inhabited

/-- Who answers questions. -/
inductive Prompter
  /-- Nobody: notices are not shown and questions are refused. -/
  | silent
  /-- Nobody, for want of a terminal: notices are shown and questions are refused. -/
  | withoutTerminal
  /-- Prepared answers. -/
  | scripted (answers : List ScriptedAnswer)
  deriving DecidableEq, Repr, Inhabited

/-- How many answers there may still be; one question more is refused. -/
def Prompter.answerCount : Prompter → Nat
  | scripted answers => answers.length
  | _ => 0

end Scaffold
