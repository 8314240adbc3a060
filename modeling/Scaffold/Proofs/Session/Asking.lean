import Scaffold.Proofs.Session.Cancelling
import Scaffold.Session.Ask

/-! # Questions with prepared answers

A question takes the next prepared answer, if there is one. The answer gives something or stops the run: by a failure,
by leaving out what was asked for, or by cancelling. Whichever it is, the session that is left differs by the question,
by a cancellation, and by the answers that are still to come.
-/

namespace Scaffold

namespace ScriptedAnswer

variable {α : Type}

/-- What an answer does to the session besides being given: a cancellation, if it cancels. -/
def events (answer : ScriptedAnswer) (question : Question) : List Event :=
  .question question :: if answer.cancels then [.cancelled] else []

/-- An answer gives a value, by the part of it that fits the question, and the run goes on. -/
structure Gives (part : ScriptedAnswer → Option α) (answer : ScriptedAnswer) (value : α) : Prop where
  unfailing : answer.failure = none
  told : part answer = some value
  uncancelled : answer.cancels = false

theorem Gives.events {part : ScriptedAnswer → Option α} {answer : ScriptedAnswer} {value : α}
    (gives : answer.Gives part value) (question : Question) : answer.events question = [.question question] := by
  simp [ScriptedAnswer.events, gives.uncancelled]

/-- An answer stops the run. A failure goes before what the answer leaves out, and that before a cancellation. -/
inductive Stops (part : ScriptedAnswer → Option α) (answer : ScriptedAnswer) : Cause → Prop
  | failed (reason : String) (failure : answer.failure = some reason) : Stops part answer (.prompt reason)
  | aborted (unfailing : answer.failure = none) (missing : part answer = none) : Stops part answer .userAborted
  | cancelled (unfailing : answer.failure = none) (value : α) (told : part answer = some value)
      (cancels : answer.cancels = true) : Stops part answer .cancelled

/-- An answer gives something or stops the run. -/
theorem gives_or_stops (part : ScriptedAnswer → Option α) (answer : ScriptedAnswer) :
    (∃ value, answer.Gives part value) ∨ ∃ cause, answer.Stops part cause := by
  cases failure : answer.failure with
  | some reason => exact .inr ⟨_, .failed reason failure⟩
  | none =>
    cases told : part answer with
    | none => exact .inr ⟨_, .aborted failure told⟩
    | some value =>
      cases cancels : answer.cancels with
      | true => exact .inr ⟨_, .cancelled failure value told cancels⟩
      | false => exact .inl ⟨value, failure, told, cancels⟩

end ScriptedAnswer

variable {σ : Type}

/-- A session after a dialogue: what happened in it, and the answers that are left. -/
def Session.heard (session : Session σ) (events : List Event) (answers : List ScriptedAnswer) : Session σ :=
  { session with
    prompter := .scripted answers
    isCancelled := session.isCancelled || events.any Event.cancels
    log := events.reverse ++ session.log }

namespace Session

variable {session : Session σ} {first second : List Event} {answers left : List ScriptedAnswer}

theorem heard_heard : (session.heard first answers).heard second left = session.heard (first ++ second) left := by
  simp [heard, Bool.or_assoc]

theorem isCancelled_heard (free : session.isCancelled = false) (question : Question) :
    (session.heard [.question question] answers).isCancelled = false := by
  simp [heard, free, Event.cancels]

/-- A dialogue in which no file is called leads to the session after it. -/
theorem leads_heard [Storage σ] (consults : ∀ event ∈ first, event.Consults) :
    session.Leads first (session.heard first answers) where
  log := rfl
  files := by
    induction first with
    | nil => rfl
    | cons event rest ih =>
      obtain ⟨consult, others⟩ := List.forall_mem_cons.mp consults
      rw [List.foldl_cons]
      cases event with
      | notice _ | question _ | cancelled => exact ih others
      | _ => exact consult.elim
  schedule := by rw [Event.calls_of_outside fun event member => (consults event member).outside, remaining_zero]; rfl
  cancelled := by
    rw [Event.calls_of_outside fun event member => (consults event member).outside, strikes_zero, Bool.or_false]
    rfl
  telemetry := rfl

end Session

namespace Run

variable {α β : Type} {question : Question} {part : ScriptedAnswer → Option α} {answer : ScriptedAnswer}
  {answers : List ScriptedAnswer} {session : Session σ} {prompt offered : String}

/-- Put a question unless the run was cancelled, and go on with the answer unless it was aborted. -/
def asking (question : Question) (part : ScriptedAnswer → Option α) (next : α → Run σ Cause β) : Run σ Cause β := do
  checkCancelled
  let answer? ← put question part
  answered answer? >>= next

theorem input_eq (prompt offered : String) :
    (input prompt offered : Run σ Cause String) =
      asking (.input prompt offered) ScriptedAnswer.text (fun text => checkCancelled >>= fun _ => pure text) := rfl

theorem select_eq (prompt : String) (items : List String) :
    (select prompt items : Run σ Cause (Fin items.length)) =
      asking (.select prompt items 0) ScriptedAnswer.choice fun choice =>
        if valid : choice < items.length then checkCancelled >>= fun _ => pure ⟨choice, valid⟩
        else throw (.prompt ("selection " ++ toString choice ++ " out of range for " ++ Text.quoted prompt)) := rfl

/-- A question takes the next answer. -/
theorem put_of_scripted (question : Question) (part : ScriptedAnswer → Option α)
    (scripted : session.prompter = .scripted (answer :: answers)) :
    (put question part).apply session =
      (match answer.failure with
        | some reason => .error (.prompt reason)
        | none => .ok (part answer),
        session.heard (answer.events question) answers) := by
  unfold put
  rw [apply_bind_of_ok (apply_note _ _), apply_bind_of_ok (apply_get _)]
  simp only [Session.note, scripted]
  rw [apply_bind_of_ok (apply_update _ _)]
  unfold answerWith ScriptedAnswer.events Session.heard
  cases answer.cancels with
  | false => cases answer.failure <;> simp [Event.cancels]
  | true =>
    simp only [↓reduceIte]
    rw [apply_bind_of_ok (apply_update _ _)]
    cases answer.failure <;> simp [Event.cancels, Session.cancel]

theorem asking_of_told {value : α} {next : α → Run σ Cause β} (scripted : session.prompter = .scripted (answer :: answers))
    (free : session.isCancelled = false) (unfailing : answer.failure = none) (told : part answer = some value) :
    (asking question part next).apply session =
      (next value).apply (session.heard (answer.events question) answers) := by
  have asked := put_of_scripted question part scripted
  rw [unfailing] at asked
  dsimp only at asked
  rw [told] at asked
  rw [asking, apply_bind_of_ok (apply_checkCancelled_of_free free), apply_bind_of_ok asked]
  rfl

theorem asking_of_failure {reason : String} {next : α → Run σ Cause β}
    (scripted : session.prompter = .scripted (answer :: answers)) (free : session.isCancelled = false)
    (failure : answer.failure = some reason) :
    (asking question part next).apply session =
      (.error (.prompt reason), session.heard (answer.events question) answers) := by
  have asked := put_of_scripted question part scripted
  rw [failure] at asked
  rw [asking, apply_bind_of_ok (apply_checkCancelled_of_free free)]
  exact apply_bind_of_error asked

theorem asking_of_missing {next : α → Run σ Cause β} (scripted : session.prompter = .scripted (answer :: answers))
    (free : session.isCancelled = false) (unfailing : answer.failure = none) (missing : part answer = none) :
    (asking question part next).apply session =
      (.error .userAborted, session.heard (answer.events question) answers) := by
  have asked := put_of_scripted question part scripted
  rw [unfailing] at asked
  dsimp only at asked
  rw [missing] at asked
  rw [asking, apply_bind_of_ok (apply_checkCancelled_of_free free), apply_bind_of_ok asked]
  rfl

/-- Without an answer left a question is refused. -/
theorem asking_of_exhausted {next : α → Run σ Cause β} (scripted : session.prompter = .scripted [])
    (free : session.isCancelled = false) :
    (asking question part next).apply session =
      (.error (.prompt "no scripted answer left"), session.heard [.question question] []) := by
  have asked : (put question part).apply session =
      (.error (.prompt "no scripted answer left"), session.heard [.question question] []) := by
    unfold put
    rw [apply_bind_of_ok (apply_note _ _), apply_bind_of_ok (apply_get _)]
    simp [Session.note, scripted, Session.heard, Event.cancels]
  rw [asking, apply_bind_of_ok (apply_checkCancelled_of_free free)]
  exact apply_bind_of_error asked

/-- Where nobody answers a question is refused. -/
theorem asking_of_unanswered {next : α → Run σ Cause β} (free : session.isCancelled = false)
    (unanswered : ∀ answer answers, session.prompter ≠ .scripted (answer :: answers)) :
    ∃ reason, (asking question part next).apply session = (.error (.prompt reason), session.note (.question question)) := by
  have refused : ∃ reason, (put question part).apply session = (.error (.prompt reason), session.note (.question question)) := by
    unfold put
    rw [apply_bind_of_ok (apply_note _ _), apply_bind_of_ok (apply_get _)]
    cases prompter : session.prompter with
    | silent => exact ⟨_, by simp only [Session.note, prompter]; rfl⟩
    | withoutTerminal => exact ⟨_, by simp only [Session.note, prompter]; rfl⟩
    | scripted answers =>
      cases answers with
      | nil => exact ⟨_, by simp only [Session.note, prompter]; rfl⟩
      | cons answer answers => exact absurd prompter (unanswered answer answers)
  obtain ⟨reason, refused⟩ := refused
  refine ⟨reason, ?_⟩
  rw [asking, apply_bind_of_ok (apply_checkCancelled_of_free free)]
  exact apply_bind_of_error refused

/-- After a question the run goes on unless the answer cancelled it. -/
theorem apply_checkCancelled_heard (free : session.isCancelled = false) :
    checkCancelled.apply (session.heard (answer.events question) answers) =
      (if answer.cancels then .error .cancelled else .ok (), session.heard (answer.events question) answers) := by
  cases cancels : answer.cancels with
  | true =>
    rw [if_pos rfl]
    exact apply_checkCancelled_of_cancelled (by simp [Session.heard, ScriptedAnswer.events, cancels, Event.cancels])
  | false =>
    rw [if_neg Bool.false_ne_true]
    exact apply_checkCancelled_of_free (by simp [Session.heard, ScriptedAnswer.events, cancels, Event.cancels, free])

theorem input_of_gives {text : String} (scripted : session.prompter = .scripted (answer :: answers))
    (free : session.isCancelled = false) (gives : answer.Gives ScriptedAnswer.text text) :
    (input prompt offered).apply session = (.ok text, session.heard [.question (.input prompt offered)] answers) := by
  rw [input_eq, asking_of_told scripted free gives.unfailing gives.told, apply_bind, apply_checkCancelled_heard free,
    if_neg (by simp [gives.uncancelled]), gives.events]
  rfl

theorem input_of_stops {cause : Cause} (scripted : session.prompter = .scripted (answer :: answers))
    (free : session.isCancelled = false) (stops : answer.Stops ScriptedAnswer.text cause) :
    (input prompt offered).apply session =
      (.error cause, session.heard (answer.events (.input prompt offered)) answers) := by
  rw [input_eq]
  cases stops with
  | failed reason failure => exact asking_of_failure scripted free failure
  | aborted unfailing missing => exact asking_of_missing scripted free unfailing missing
  | cancelled unfailing text told cancels =>
    rw [asking_of_told scripted free unfailing told, apply_bind, apply_checkCancelled_heard free, if_pos cancels]

end Run

end Scaffold
