import Scaffold.Proofs.Session.Apply

/-! # How sessions advance

A session leads to another by the events that are logged on the way, and its files change only as the calls
among these events change them. What a step may do is therefore told by the events it may log: `Only` keeps to
some events whatever the step returns, and `EndsAs` also names the last steps in which everything else
happens. Both compose along the sequence of a run.
-/

namespace Scaffold

variable {σ : Type} [Storage σ]

/-- The files after an event: a call changes them as the store performs it, whether it succeeds or not. -/
def Event.replay (files : σ) : Event → σ
  | .files call _ => (Storage.perform call files).2
  | _ => files

/-- An event that changes no file: no call of a kind that could. -/
def Event.Reads : Event → Prop
  | .files call _ => call.mutates = false
  | _ => True

/-- An event that only looks at the files: a call that changes nothing. -/
def Event.Looks : Event → Prop
  | .files call _ => call.mutates = false
  | _ => False

/-- An event that is no call to the files. -/
def Event.Outside : Event → Prop
  | .files _ _ => False
  | _ => True

/-- Whether an event is a call to the files. -/
def Event.isCall : Event → Bool
  | .files _ _ => true
  | _ => false

/-- An event that concerns only the user: what is asked or told, and a cancellation. -/
def Event.Consults : Event → Prop
  | .notice _ | .question _ | .cancelled => True
  | _ => False

theorem Event.Consults.outside {event : Event} (consults : event.Consults) : event.Outside := by
  cases event with
  | files _ _ => exact consults.elim
  | _ => trivial

theorem Event.Outside.reads {event : Event} (outside : event.Outside) : event.Reads := by
  cases event with
  | files _ _ => exact outside.elim
  | _ => trivial

theorem Event.Looks.reads {event : Event} (looks : event.Looks) : event.Reads := by
  cases event with
  | files call _ => exact looks
  | _ => trivial

/-- Whether an event cancels the run. -/
def Event.cancels : Event → Bool
  | .cancelled | .tied => true
  | _ => false

/-- How many calls to the files are among some events. -/
def Event.calls (events : List Event) : Nat := events.countP Event.isCall

theorem Event.calls_append (first second : List Event) :
    Event.calls (first ++ second) = Event.calls first + Event.calls second :=
  List.countP_append

theorem Event.calls_of_outside {events : List Event} (outside : ∀ event ∈ events, event.Outside) :
    Event.calls events = 0 := by
  refine List.countP_eq_zero.mpr fun event member call => ?_
  cases event with
  | files _ _ => exact outside _ member
  | _ => cases call

namespace Session

section

variable (after? : Option Nat) (first second : Nat)

omit [Storage σ]

@[simp] theorem strikes_zero : strikes after? 0 = false := by
  cases after? <;> rfl

@[simp] theorem remaining_zero : remaining after? 0 = after? := by
  cases after? <;> rfl

@[simp] theorem strikes_none : strikes none first = false := rfl

@[simp] theorem remaining_none : remaining none first = none := rfl

theorem remaining_add : remaining after? (first + second) = remaining (remaining after? first) second := by
  cases after? with
  | none => rfl
  | some after =>
    simp only [remaining, Option.bind_some]
    split <;> split <;> simp <;> omega

theorem strikes_add :
    strikes after? (first + second) = (strikes after? first || strikes (remaining after? first) second) := by
  cases after? with
  | none => rfl
  | some after =>
    rw [Bool.eq_iff_iff]
    simp only [strikes, remaining, Option.any_some, Option.bind_some, Bool.or_eq_true, decide_eq_true_eq]
    split <;> simp <;> omega

end

/-- Some events, the earliest first, are all that happened between two sessions, but for what was recorded about the
run and for the ends that were waited for. Calls to the files use up the time until the run is cancelled. -/
structure Spans (before : Session σ) (events : List Event) (after : Session σ) : Prop where
  log : after.log = events.reverse ++ before.log
  files : after.files = events.foldl Event.replay before.files
  schedule : after.cancelsAfter? = remaining before.cancelsAfter? (Event.calls events)
  cancelled : after.isCancelled =
    (before.isCancelled || events.any Event.cancels || strikes before.cancelsAfter? (Event.calls events))

/-- One session leads to another by some events, and nothing is recorded about the run. -/
structure Leads (before : Session σ) (events : List Event) (after : Session σ) : Prop extends
    Spans before events after where
  telemetry : after.telemetry = before.telemetry

/-- One session leads to another by events of an allowed kind. -/
def Advances (allowed : Event → Prop) (before after : Session σ) : Prop :=
  ∃ events, before.Leads events after ∧ ∀ event ∈ events, allowed event

/-- Between two sessions only events of an allowed kind happened, whatever was recorded about the run. -/
def KeepsTo (allowed : Event → Prop) (before after : Session σ) : Prop :=
  ∃ events, before.Spans events after ∧ ∀ event ∈ events, allowed event

variable {before middle after : Session σ} {first second : List Event} {allowed : Event → Prop}

theorem Spans.append (left : before.Spans first middle) (right : middle.Spans second after) :
    before.Spans (first ++ second) after where
  log := by rw [right.log, left.log, List.reverse_append, List.append_assoc]
  files := by rw [right.files, left.files, List.foldl_append]
  schedule := by rw [right.schedule, left.schedule, Event.calls_append, remaining_add]
  cancelled := by
    rw [right.cancelled, left.cancelled, left.schedule, List.any_append, Event.calls_append, strikes_add]
    ac_rfl

/-- What happened between two sessions is told by their logs. -/
theorem Spans.unique (left : before.Spans first after) (right : before.Spans second after) : first = second := by
  have same := left.log.symm.trans right.log
  exact List.reverse_inj.mp (List.append_cancel_right same)

/-- Sessions that differ only in what they would answer are led to by no event. -/
theorem leads_still (log : after.log = before.log) (files : after.files = before.files)
    (schedule : after.cancelsAfter? = before.cancelsAfter?) (cancelled : after.isCancelled = before.isCancelled)
    (telemetry : after.telemetry = before.telemetry) : before.Leads [] after :=
  ⟨⟨log, files, by simp [schedule, Event.calls], by simp [cancelled, Event.calls]⟩, telemetry⟩

theorem Leads.refl (session : Session σ) : session.Leads [] session := leads_still rfl rfl rfl rfl rfl

theorem Leads.append (left : before.Leads first middle) (right : middle.Leads second after) :
    before.Leads (first ++ second) after :=
  ⟨left.toSpans.append right.toSpans, right.telemetry.trans left.telemetry⟩

/-- A single event that is no call leads to a session that differs by it alone. -/
theorem leads_event {event : Event} (log : after.log = event :: before.log)
    (files : after.files = event.replay before.files) (noCall : event.isCall = false)
    (schedule : after.cancelsAfter? = before.cancelsAfter?)
    (cancelled : after.isCancelled = (before.isCancelled || event.cancels))
    (telemetry : after.telemetry = before.telemetry) : before.Leads [event] after := by
  have none : Event.calls [event] = 0 := by simp [Event.calls, noCall]
  exact ⟨⟨log, files, by rw [none, remaining_zero, schedule], by simpa [none] using cancelled⟩, telemetry⟩

/-- A call leads to the session it leaves. -/
theorem leads_call (call : FileCall) (session : Session σ) :
    session.Leads [.files call (Run.errorOf? (Storage.perform call session.files).1)]
      ((Run.call call).apply session).2 :=
  ⟨⟨rfl, rfl, rfl, by rw [Run.apply_call]; simp [Event.cancels, Event.calls, Event.isCall]⟩, rfl⟩

/-- A call is logged with the error it returned, if any. -/
theorem leads_of_answer {call : FileCall} {answer : Except IoError call.Answer}
    (ran : (Run.call call).apply before = (answer, after)) : before.Leads [.files call (Run.errorOf? answer)] after := by
  have leads := leads_call call before
  have told : (Storage.perform call before.files).1 = answer := congrArg Prod.fst ran
  rwa [ran, told] at leads

theorem leads_of_call {call : FileCall} {answer : Except IoError call.Answer}
    (ran : (Run.call call).apply before = (answer, after)) : ∃ error?, before.Leads [.files call error?] after :=
  ⟨_, leads_of_answer ran⟩

/-- Cancelling is an event of its own. -/
theorem leads_cancel (session : Session σ) : session.Leads [.cancelled] session.cancel :=
  leads_event rfl rfl rfl rfl (Bool.or_true _).symm rfl

/-- Nothing happens at the end of what was waited for, unless the run is cancelled just then. -/
theorem leads_concluded (session : Session σ) :
    session.Leads [] session.concluded ∨
      (session.isCancelled = false ∧ session.Leads [.tied] session.concluded) := by
  cases free : session.isCancelled with
  | true =>
    rw [Run.concluded_of_cancelled free]
    exact .inl (.refl session)
  | false =>
    cases prevails : session.prevails with
    | true =>
      rw [Run.concluded_of_prevails free prevails]
      exact .inr ⟨rfl, leads_event rfl rfl rfl rfl (by simp [Event.cancels]) rfl⟩
    | false =>
      rw [Run.concluded_of_not_prevails free prevails]
      exact .inl (leads_still rfl rfl rfl rfl rfl)

theorem Advances.refl (session : Session σ) : session.Advances allowed session :=
  ⟨[], .refl session, by simp⟩

private theorem forall_mem_append (left : ∀ event ∈ first, allowed event) (right : ∀ event ∈ second, allowed event) :
    ∀ event ∈ first ++ second, allowed event := by
  intro event member
  rcases List.mem_append.mp member with member | member
  · exact left event member
  · exact right event member

theorem Advances.trans (left : before.Advances allowed middle) (right : middle.Advances allowed after) :
    before.Advances allowed after := by
  obtain ⟨first, leftLeads, leftAllowed⟩ := left
  obtain ⟨second, rightLeads, rightAllowed⟩ := right
  exact ⟨first ++ second, leftLeads.append rightLeads, forall_mem_append leftAllowed rightAllowed⟩

theorem Advances.weaken {wider : Event → Prop} (advance : before.Advances allowed after)
    (within : ∀ event, allowed event → wider event) : before.Advances wider after :=
  advance.imp fun _ leads => ⟨leads.1, fun event member => within event (leads.2 event member)⟩

theorem Advances.reads (advance : before.Advances Event.Outside after) : before.Advances Event.Reads after :=
  advance.weaken fun _ outside => outside.reads

/-- Some events lead from one session to another. -/
abbrev Logs (before after : Session σ) : Prop := before.Advances (fun _ => True) after

theorem Advances.logs (advance : before.Advances allowed after) : before.Logs after :=
  advance.weaken fun _ _ => trivial

theorem Advances.telemetry (advance : before.Advances allowed after) : after.telemetry = before.telemetry :=
  advance.elim fun _ leads => leads.1.telemetry

/-! ## Whatever is recorded -/

theorem Advances.keepsTo (advance : before.Advances allowed after) : before.KeepsTo allowed after :=
  advance.imp fun _ leads => ⟨leads.1.toSpans, leads.2⟩

theorem KeepsTo.weaken {wider : Event → Prop} (keeps : before.KeepsTo allowed after)
    (within : ∀ event, allowed event → wider event) : before.KeepsTo wider after :=
  keeps.imp fun _ spans => ⟨spans.1, fun event member => within event (spans.2 event member)⟩

theorem KeepsTo.trans (left : before.KeepsTo allowed middle) (right : middle.KeepsTo allowed after) :
    before.KeepsTo allowed after := by
  obtain ⟨first, leftSpans, leftAllowed⟩ := left
  obtain ⟨second, rightSpans, rightAllowed⟩ := right
  exact ⟨first ++ second, leftSpans.append rightSpans, forall_mem_append leftAllowed rightAllowed⟩

/-- An event between two sessions is of the kind that all of them are. -/
theorem KeepsTo.allows {event : Event} {next : Session σ} {earlier later : Event → Prop}
    (keeps : before.KeepsTo allowed after) (left : before.KeepsTo earlier middle) (moment : middle.Spans [event] next)
    (right : next.KeepsTo later after) : allowed event := by
  obtain ⟨events, spans, fit⟩ := keeps
  obtain ⟨_, leftSpans, _⟩ := left
  obtain ⟨_, rightSpans, _⟩ := right
  rw [spans.unique ((leftSpans.append moment).append rightSpans)] at fit
  exact fit event (by simp)

/-! ## Moments -/

/-- Some events lead from one session to another, whatever was recorded about the run. -/
def Precedes (before after : Session σ) : Prop := ∃ events, before.Spans events after

variable {moment : Session σ}

theorem Precedes.refl (session : Session σ) : session.Precedes session := ⟨[], (Leads.refl session).toSpans⟩

theorem KeepsTo.precedes (keeps : before.KeepsTo allowed after) : before.Precedes after :=
  keeps.imp fun _ spans => spans.1

theorem Precedes.trans (left : before.Precedes middle) (right : middle.Precedes after) : before.Precedes after := by
  obtain ⟨_, leftSpans⟩ := left
  obtain ⟨_, rightSpans⟩ := right
  exact ⟨_, leftSpans.append rightSpans⟩

theorem Spans.keepsTo (still : before.Spans [] after) : before.KeepsTo allowed after := ⟨[], still, by simp⟩

/-- What happens up to a moment, and after it, is of the kind that all of it is. -/
theorem KeepsTo.cut (keeps : before.KeepsTo allowed after) (since : before.Precedes moment)
    (onward : moment.Precedes after) : before.KeepsTo allowed moment ∧ moment.KeepsTo allowed after := by
  obtain ⟨events, spans, fit⟩ := keeps
  obtain ⟨earlier, first⟩ := since
  obtain ⟨later, second⟩ := onward
  obtain rfl := spans.unique (first.append second)
  exact ⟨⟨earlier, first, fun event member => fit event (List.mem_append_left _ member)⟩,
    ⟨later, second, fun event member => fit event (List.mem_append_right _ member)⟩⟩

/-- Of two moments on the way one precedes the other. -/
theorem Precedes.total (left : before.Precedes middle) (right : middle.Precedes after) (since : before.Precedes moment)
    (onward : moment.Precedes after) : moment.Precedes middle ∨ middle.Precedes moment := by
  have between : ∀ {one other : Session σ} {first second : List Event}, before.Spans first one →
      before.Spans (first ++ second) other → one.Precedes other := by
    intro one other first second toOne toOther
    refine ⟨second, ?_, ?_, ?_, ?_⟩
    · rw [toOther.log, toOne.log, List.reverse_append, List.append_assoc]
    · rw [toOther.files, toOne.files, List.foldl_append]
    · rw [toOther.schedule, toOne.schedule, Event.calls_append, remaining_add]
    · rw [toOther.cancelled, toOne.cancelled, toOne.schedule, List.any_append, Event.calls_append, strikes_add]
      ac_rfl
  obtain ⟨first, toMiddle⟩ := left
  obtain ⟨second, fromMiddle⟩ := right
  obtain ⟨earlier, toMoment⟩ := since
  obtain ⟨later, fromMoment⟩ := onward
  have same := (toMiddle.append fromMiddle).unique (toMoment.append fromMoment)
  rcases List.append_eq_append_iff.mp same with ⟨rest, rfl, _⟩ | ⟨rest, rfl, _⟩
  · exact .inr (between toMiddle toMoment)
  · exact .inl (between toMoment toMiddle)

/-- Around a single event there are two moments. -/
theorem Spans.around {event : Event} (single : before.Spans [event] after) (since : before.Precedes moment)
    (onward : moment.Precedes after) : before.Spans [] moment ∨ after.Spans [] moment := by
  obtain ⟨earlier, first⟩ := since
  obtain ⟨later, second⟩ := onward
  rcases List.append_eq_singleton_iff.mp ((first.append second).unique single) with ⟨rfl, _⟩ | ⟨rfl, _⟩
  · exact .inl first
  · refine .inr ⟨?_, ?_, ?_, ?_⟩
    · rw [first.log, single.log]
      rfl
    · rw [first.files, single.files]
      rfl
    · rw [first.schedule, single.schedule]
      exact (remaining_zero _).symm
    · rw [first.cancelled, single.cancelled]
      simp [Event.calls]

/-- Recording something is no event. -/
theorem keepsTo_record (session : Session σ) (telemetry : Telemetry) :
    session.KeepsTo allowed { session with telemetry } :=
  ⟨[], ⟨rfl, rfl, (remaining_zero _).symm, by simp [Event.calls]⟩, by simp⟩

/-- What every event of an allowed kind keeps of the files is kept throughout. -/
theorem KeepsTo.preserves (holds : σ → Prop) (keeps : before.KeepsTo allowed after)
    (each : ∀ (files : σ) (event : Event), allowed event → holds files → holds (event.replay files))
    (start : holds before.files) : holds after.files := by
  obtain ⟨events, spans, fit⟩ := keeps
  rw [spans.files]
  clear spans
  generalize before.files = files at start
  induction events generalizing files with
  | nil => exact start
  | cons event rest ih =>
    exact ih (fun event member => fit event (List.mem_cons_of_mem _ member)) _
      (each files event (fit event List.mem_cons_self) start)

theorem Advances.preserves (holds : σ → Prop) (advance : before.Advances allowed after)
    (each : ∀ (files : σ) (event : Event), allowed event → holds files → holds (event.replay files))
    (start : holds before.files) : holds after.files :=
  advance.keepsTo.preserves holds each start

/-- Without a call to them, the files stay. -/
theorem Advances.files_of_outside (advance : before.Advances Event.Outside after) : after.files = before.files :=
  advance.preserves (fun files => files = before.files)
    (fun files event outside same => by
      cases event with
      | files _ _ => exact outside.elim
      | _ => exact same) rfl

end Session

namespace Run

variable {ε ε' α β : Type} {allowed : Event → Prop} {step : Run σ ε α} {next : α → Run σ ε β}

/-- A step during which only events of an allowed kind happen. -/
def Only (allowed : Event → Prop) (step : Run σ ε α) : Prop :=
  ∀ session : Session σ, session.Advances allowed (step.apply session).2

theorem Only.advances (only : step.Only allowed) {session after : Session σ} {outcome : Except ε α}
    (ran : step.apply session = (outcome, after)) : session.Advances allowed after := by
  have advance := only session
  rwa [ran] at advance

/-- A step that changes files by the calls it logs, and by nothing else. -/
abbrev Logged (step : Run σ ε α) : Prop := step.Only fun _ => True

theorem Only.logged (only : step.Only allowed) : step.Logged := fun session => (only session).logs

theorem Only.weaken {wider : Event → Prop} (only : step.Only allowed) (within : ∀ event, allowed event → wider event) :
    step.Only wider :=
  fun session => (only session).weaken within

theorem Only.reads (only : step.Only Event.Looks) : step.Only Event.Reads := only.weaken fun _ looks => looks.reads

/-- A step that makes no call to the files. -/
abbrev Outside (step : Run σ ε α) : Prop := step.Only Event.Outside

theorem Outside.reads (outside : step.Outside) : step.Only Event.Reads := Only.weaken outside fun _ fit => fit.reads

/-- A step that turns only to the user. -/
abbrev Consults (step : Run σ ε α) : Prop := step.Only Event.Consults

theorem Consults.outside (consults : step.Consults) : step.Outside :=
  Only.weaken consults fun _ fit => fit.outside

theorem only_pure (value : α) : (pure value : Run σ ε α).Only allowed :=
  fun session => .refl session

theorem only_throw (error : ε) : (throw error : Run σ ε α).Only allowed :=
  fun session => .refl session

theorem only_get : (get : Run σ ε (Session σ)).Only allowed :=
  fun session => .refl session

theorem only_ofExcept (result : Except ε α) : (ofExcept result : Run σ ε α).Only allowed :=
  fun session => .refl session

theorem only_checkCancelled : (checkCancelled : Run σ Cause Unit).Only allowed :=
  fun session => .refl session

theorem only_bind (first : step.Only allowed) (rest : ∀ value, (next value).Only allowed) :
    (step >>= next).Only allowed := by
  intro session
  rcases ran : (step >>= next).apply session with ⟨outcome, after⟩
  rcases bind_cases ran with ⟨_, _, failed⟩ | ⟨value, middle, returned, continued⟩
  · exact first.advances failed
  · exact (first.advances returned).trans ((rest value).advances continued)

theorem only_mapError {restate : ε → ε'} (only : step.Only allowed) : (step.mapError restate).Only allowed :=
  only

theorem only_attempt (only : step.Only allowed) : (attempt step : Run σ ε' (Except ε α)).Only allowed :=
  only

/-- What takes time and comes to its end may tie with a cancellation. -/
theorem only_awaited (only : step.Only allowed) (ties : allowed .tied) : (awaited step).Only allowed := by
  intro session
  rw [apply_awaited]
  rcases (step.apply session).2.leads_concluded with still | ⟨_, tied⟩
  · exact (only session).trans ⟨[], still, nofun⟩
  · exact (only session).trans ⟨[.tied], tied, List.forall_mem_singleton.mpr ties⟩

theorem only_note {event : Event} (fit : allowed event) (noCall : event.isCall = false)
    (harmless : event.cancels = false) : (note event : Run σ ε Unit).Only allowed := by
  have silent : ∀ files : σ, event.replay files = files := by
    intro files
    cases event with
    | files _ _ => cases noCall
    | _ => rfl
  exact fun session => ⟨[event],
    Session.leads_event rfl (silent session.files).symm noCall rfl (by rw [harmless, Bool.or_false]; rfl) rfl,
    by simpa using fit⟩

theorem only_call {file : FileCall} (fit : ∀ error?, allowed (.files file error?)) :
    (call file : Run σ IoError file.Answer).Only allowed :=
  fun session => ⟨_, session.leads_call file, by simpa using fit _⟩

theorem call_logged (file : FileCall) : (call file : Run σ IoError file.Answer).Logged := only_call fun _ => trivial

/-- A step that keeps to what is allowed until it is refused or goes on as one of some last steps. -/
def EndsAs (allowed : Event → Prop) (refused : ε → Prop) (last : Run σ ε α → Prop) (step : Run σ ε α) : Prop :=
  ∀ session : Session σ,
    (∃ error after, refused error ∧ session.Advances allowed after ∧
      step.apply session = (.error error, after)) ∨
    ∃ tail middle, last tail ∧ session.Advances allowed middle ∧ step.apply session = tail.apply middle

variable {refused : ε → Prop} {last : Run σ ε β → Prop} {tail : Run σ ε β}

theorem endsAs_last (final : last tail) : tail.EndsAs allowed refused last :=
  fun session => .inr ⟨tail, session, final, .refl session, rfl⟩

theorem endsAs_throw {error : ε} (fit : refused error) :
    (throw error : Run σ ε β).EndsAs allowed refused last :=
  fun session => .inl ⟨error, session, fit, .refl session, rfl⟩

theorem endsAs_bind (first : step.Only allowed)
    (fails : ∀ {error : ε} {session after : Session σ}, step.apply session = (.error error, after) → refused error)
    (rest : ∀ value, (next value).EndsAs allowed refused last) :
    (step >>= next).EndsAs allowed refused last := by
  intro session
  rcases ran : step.apply session with ⟨error | value, middle⟩
  · exact .inl ⟨error, middle, fails ran, first.advances ran, apply_bind_of_error ran⟩
  · rw [apply_bind_of_ok ran]
    rcases rest value middle with ⟨error, after, fit, advance, failed⟩ | ⟨tail, later, final, advance, continued⟩
    · exact .inl ⟨error, after, fit, (first.advances ran).trans advance, failed⟩
    · exact .inr ⟨tail, later, final, (first.advances ran).trans advance, continued⟩

theorem endsAs_refuse {condition : Prop} [Decidable condition] {error : ε} {rest : Unit → Run σ ε β}
    (fit : refused error) (ends : (rest ()).EndsAs allowed refused last) :
    (if condition then throw error >>= rest else rest ()).EndsAs allowed refused last := by
  split
  · exact fun session => .inl ⟨error, session, fit, .refl session, rfl⟩
  · exact ends

/-- A step ends as what its last steps end as. -/
theorem EndsAs.trans {further : Run σ ε β → Prop} (ends : tail.EndsAs allowed refused last)
    (lasts : ∀ final, last final → final.EndsAs allowed refused further) : tail.EndsAs allowed refused further := by
  intro session
  rcases ends session with stopped | ⟨final, middle, fit, advance, continued⟩
  · exact .inl stopped
  · rcases lasts final fit middle with ⟨error, after, told, onward, failed⟩ | ⟨other, later, told, onward, ran⟩
    · exact .inl ⟨error, after, told, advance.trans onward, continued.trans failed⟩
    · exact .inr ⟨other, later, told, advance.trans onward, continued.trans ran⟩

/-- The cases of a run whose step ends as one of some last steps. -/
theorem EndsAs.cases (ends : tail.EndsAs allowed refused last) {session after : Session σ}
    {outcome : Except ε β} (ran : tail.apply session = (outcome, after)) :
    (∃ error, refused error ∧ outcome = .error error ∧ session.Advances allowed after) ∨
      ∃ final middle, last final ∧ session.Advances allowed middle ∧ final.apply middle = (outcome, after) := by
  rcases ends session with ⟨error, stopped, fit, advance, failed⟩ | ⟨final, middle, fit, advance, continued⟩
  · rw [ran] at failed
    cases failed
    exact .inl ⟨error, fit, rfl, advance⟩
  · exact .inr ⟨final, middle, fit, advance, continued ▸ ran⟩

theorem EndsAs.only {wider : Event → Prop} (ends : tail.EndsAs allowed refused last)
    (within : ∀ event, allowed event → wider event) (lasts : ∀ final, last final → final.Only wider) :
    tail.Only wider := by
  intro session
  rcases ran : tail.apply session with ⟨outcome, after⟩
  rcases ends.cases ran with ⟨_, _, _, advance⟩ | ⟨final, middle, fit, advance, continued⟩
  · exact advance.weaken within
  · exact (advance.weaken within).trans ((lasts final fit).advances continued)

end Run

end Scaffold
