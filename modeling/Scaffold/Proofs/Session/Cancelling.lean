import Scaffold.Proofs.Causes

/-! # Cancelled sessions

A run is cancelled before it starts, while it waits for an answer from the network or from the user, or just when an
answer of the network comes to its end. A step yields to this if it stops where the answer does not come. Where the
answer counts all the same the step is tied, and goes on as in a session that was cancelled already: there it idles if it
does no more than look at files and tell the user something, and it folds if it fails sooner or later. All this composes
along the sequence of a run. Calls to the files are left aside: a session is free if none of them cancels the run.
-/

namespace Scaffold

/-- Events that may still happen in a cancelled run. -/
def Event.Idle : Event → Prop
  | .files call _ => call.mutates = false
  | .notice _ => True
  | _ => False

/-- An event after which a run waits for the network. -/
def Event.OnNetwork : Event → Prop
  | .request _ | .reached _ => True
  | _ => False

/-- An event after which a run waits for an answer. -/
def Event.Waits : Event → Prop
  | .request _ | .reached _ | .question _ => True
  | _ => False

/-- An event with which a run goes on. -/
abbrev Event.Onward (event : Event) : Prop := event.cancels = false

theorem Event.Looks.idle {event : Event} (looks : event.Looks) : event.Idle := by
  cases event with
  | files call _ => exact looks
  | _ => exact looks.elim

theorem Event.Idle.onward {event : Event} (idle : event.Idle) : event.Onward := by
  cases event with
  | cancelled | tied => exact idle.elim
  | _ => rfl

theorem Event.OnNetwork.waits {event : Event} (network : event.OnNetwork) : event.Waits := by
  cases event with
  | request _ | reached _ => trivial
  | _ => exact network.elim

theorem Event.Waits.onward {event : Event} (waits : event.Waits) : event.Onward := by
  cases event with
  | cancelled | tied => exact waits.elim
  | _ => rfl

/-- Causes that tell of the network: that something could not be had, that there is none of it, or that the run was
cancelled. -/
def Cause.OfNetwork : Cause → Prop
  | .cancelled | .fetchFailed .. | .downloadFailed .. | .devfileNotFound .. | .detectionFailed _ => True
  | _ => False

theorem Cause.OfNetwork.late {cause : Cause} (network : cause.OfNetwork) : cause.Late := by
  cases cause <;> trivial

variable {σ : Type} [Storage σ]

namespace Session

variable {before middle after : Session σ} {told allowed : Event → Prop}

/-- The run was not cancelled, and no call to the files is going to cancel it. -/
structure Free (session : Session σ) : Prop where
  uncancelled : session.isCancelled = false
  unscheduled : session.cancelsAfter? = none

/-- The run was cancelled just when what it waited for came to its end, and hardly anything happened after that. -/
def Tied (before after : Session σ) : Prop :=
  ∃ opening idle, before.Spans (opening ++ .tied :: idle) after ∧ (∀ event ∈ opening, event.Onward) ∧
    ∀ event ∈ idle, event.Idle

/-- The run was cancelled while it waited for an answer, and nothing happened after that, or it was tied. -/
inductive Struck (told : Event → Prop) (before after : Session σ) : Prop
  | waiting (opening : List Event) (pending : Event) (spans : before.Spans (opening ++ [pending, .cancelled]) after)
      (onward : ∀ event ∈ opening, event.Onward) (waits : pending.Waits) (fit : told pending)
  | tied (tied : before.Tied after) (fit : told .tied)

theorem KeepsTo.free (keeps : before.KeepsTo Event.Onward after) (free : before.Free) : after.Free := by
  obtain ⟨events, spans, onward⟩ := keeps
  refine ⟨?_, by rw [spans.schedule, free.unscheduled, remaining_none]⟩
  rw [spans.cancelled, free.uncancelled, free.unscheduled, strikes_none,
    List.any_eq_false.mpr fun event member => by simp [onward event member]]
  rfl

theorem KeepsTo.isCancelled (keeps : before.KeepsTo allowed after) (cancelled : before.isCancelled = true) :
    after.isCancelled = true := by
  obtain ⟨events, spans, _⟩ := keeps
  rw [spans.cancelled, cancelled, Bool.true_or, Bool.true_or]

theorem Spans.isCancelled_of_mem {events : List Event} {event : Event} (spans : before.Spans events after)
    (member : event ∈ events) (cancels : event.cancels = true) : after.isCancelled = true := by
  rw [spans.cancelled, List.any_eq_true.mpr ⟨event, member, cancels⟩, Bool.or_true, Bool.true_or]

theorem Tied.isCancelled (tied : before.Tied after) : after.isCancelled = true := by
  obtain ⟨opening, idle, spans, _⟩ := tied
  exact spans.isCancelled_of_mem (List.mem_append_right _ List.mem_cons_self) rfl

theorem Struck.isCancelled (struck : before.Struck told after) : after.isCancelled = true := by
  cases struck with
  | waiting opening pending spans _ _ _ => exact spans.isCancelled_of_mem (by simp) (rfl : Event.cancelled.cancels = true)
  | tied tied _ => exact tied.isCancelled

theorem KeepsTo.tied (keeps : before.KeepsTo Event.Onward middle) (tied : middle.Tied after) : before.Tied after := by
  obtain ⟨first, opens, onward⟩ := keeps
  obtain ⟨opening, idle, spans, free, idles⟩ := tied
  refine ⟨first ++ opening, idle, ?_, List.forall_mem_append.mpr ⟨onward, free⟩, idles⟩
  rw [List.append_assoc]
  exact opens.append spans

theorem Tied.idles (tied : before.Tied middle) (keeps : middle.KeepsTo Event.Idle after) : before.Tied after := by
  obtain ⟨opening, idle, spans, onward, idles⟩ := tied
  obtain ⟨last, closes, rest⟩ := keeps
  refine ⟨opening, idle ++ last, ?_, onward, List.forall_mem_append.mpr ⟨idles, rest⟩⟩
  rw [← List.cons_append, ← List.append_assoc]
  exact spans.append closes

theorem KeepsTo.struck (keeps : before.KeepsTo Event.Onward middle) (struck : middle.Struck told after) :
    before.Struck told after := by
  cases struck with
  | waiting opening pending spans free waits fit =>
    obtain ⟨first, opens, onward⟩ := keeps
    refine .waiting (first ++ opening) pending ?_ (List.forall_mem_append.mpr ⟨onward, free⟩) waits fit
    rw [List.append_assoc]
    exact opens.append spans
  | tied tied fit => exact .tied (keeps.tied tied) fit

theorem Struck.weaken {wider : Event → Prop} (struck : before.Struck told after)
    (within : ∀ pending, told pending → wider pending) : before.Struck wider after := by
  cases struck with
  | waiting opening pending spans onward waits fit => exact .waiting opening pending spans onward waits (within _ fit)
  | tied tied fit => exact .tied tied (within _ fit)

end Session

namespace Run

/-- What a step does where the run is cancelled just when what it waits for comes to its end. -/
inductive Tie
  /-- It fails by then. -/
  | stops
  /-- It may still return. -/
  | passes

section

variable {ε ε' α β : Type} {step : Run σ ε α} {next : α → Run σ ε β} {stops : Event → ε → Prop} {told : ε → Prop}
  {tie : Tie}

/-- How a step comes out in a free session: it goes on, stops where it is struck, or returns although it was tied. -/
inductive Yielded (stops : Event → ε → Prop) (tie : Tie) (session after : Session σ) : Except ε α → Prop
  | onward (outcome : Except ε α) (keeps : session.KeepsTo Event.Onward after) : Yielded stops tie session after outcome
  | struck (error : ε) (struck : session.Struck (stops · error) after) : Yielded stops tie session after (.error error)
  | tied (value : α) (passes : tie = .passes) (tied : session.Tied after) : Yielded stops tie session after (.ok value)

/-- A step that goes on in a free session, or stops where it waits in vain. -/
def Yields (stops : Event → ε → Prop) (tie : Tie) (step : Run σ ε α) : Prop :=
  ∀ ⦃session after : Session σ⦄ ⦃outcome⦄, session.Free → step.apply session = (outcome, after) →
    Yielded stops tie session after outcome

/-- A step that does no more in a cancelled session than what may still be done. -/
def Idles (step : Run σ ε α) : Prop :=
  ∀ ⦃session after : Session σ⦄ ⦃outcome⦄, session.isCancelled = true → step.apply session = (outcome, after) →
    session.KeepsTo Event.Idle after

/-- A step that fails in a cancelled session for some reason, unless it may return. -/
def Folds (told : ε → Prop) (tie : Tie) (step : Run σ ε α) : Prop :=
  ∀ ⦃session after : Session σ⦄ ⦃outcome⦄, session.isCancelled = true → step.apply session = (outcome, after) →
    (∃ error, outcome = .error error ∧ told error) ∨ tie = .passes ∧ ∃ value, outcome = .ok value

/-- A step that fails in a cancelled session before anything happens. -/
def Halts (told : ε → Prop) (step : Run σ ε α) : Prop :=
  ∀ ⦃session : Session σ⦄, session.isCancelled = true → ∃ error, told error ∧ step.apply session = (.error error, session)

/-- How a step comes out counts from before, where nothing had cancelled the run by then. -/
theorem Yielded.after {session middle after : Session σ} {outcome : Except ε α}
    (yielded : Yielded stops tie middle after outcome) (keeps : session.KeepsTo Event.Onward middle) :
    Yielded stops tie session after outcome := by
  cases yielded with
  | onward _ further => exact .onward _ (keeps.trans further)
  | struck error struck => exact .struck error (keeps.struck struck)
  | tied value passes tied => exact .tied value passes (keeps.tied tied)

/-- What folds after the run was tied comes out as a step that was tied. -/
theorem Folds.yielded {session middle after : Session σ} {outcome : Except ε α} (folds : step.Folds (stops .tied) tie)
    (idles : step.Idles) (tied : session.Tied middle) (ran : step.apply middle = (outcome, after)) :
    Yielded stops tie session after outcome := by
  have further := tied.idles (idles tied.isCancelled ran)
  rcases folds tied.isCancelled ran with ⟨error, rfl, fit⟩ | ⟨passes, value, rfl⟩
  · exact .struck error (.tied further fit)
  · exact .tied value passes further

theorem Only.yields {allowed : Event → Prop} (only : step.Only allowed) (within : ∀ event, allowed event → event.Onward) :
    step.Yields stops tie :=
  fun _ _ outcome _ ran => .onward outcome ((only.advances ran).weaken within).keepsTo

theorem yields_pure (value : α) : (pure value : Run σ ε α).Yields stops tie :=
  (only_pure value).yields fun _ => Event.Idle.onward

theorem yields_throw (error : ε) : (throw error : Run σ ε α).Yields stops tie :=
  (only_throw error).yields fun _ => Event.Idle.onward

theorem yields_note {event : Event} (onward : event.Onward) (noCall : event.isCall = false) :
    (note event : Run σ ε Unit).Yields stops tie :=
  Only.yields (show (note event : Run σ ε Unit).Only Event.Onward from only_note onward noCall onward) fun _ => id

theorem Only.idles (only : step.Only Event.Idle) : step.Idles :=
  fun _ _ _ _ ran => (only.advances ran).keepsTo

/-- Where a step is struck it fails as it does anywhere. -/
theorem Yields.failing {stops' : Event → ε → Prop} (yields : step.Yields stops tie) (fails : step.FailsWith told)
    (fits : ∀ pending error, stops pending error → told error → stops' pending error) : step.Yields stops' tie := by
  intro session after outcome free ran
  cases yields free ran with
  | onward _ keeps => exact .onward _ keeps
  | struck error struck =>
    exact .struck error (struck.weaken fun pending stop => fits pending error stop (fails _ _ _ ran))
  | tied value passes tied => exact .tied value passes tied

/-- A sequence yields if its first step does and stops where it is tied. -/
theorem yields_bind (first : step.Yields stops .stops) (rest : ∀ value, (next value).Yields stops tie) :
    (step >>= next).Yields stops tie := by
  intro session after outcome free ran
  rcases bind_cases ran with ⟨error, rfl, failed⟩ | ⟨value, middle, returned, ran⟩
  · cases first free failed with
    | onward _ keeps => exact .onward _ keeps
    | struck _ struck => exact .struck error struck
  · cases first free returned with
    | onward _ keeps => exact (rest value (keeps.free free) ran).after keeps
    | tied _ passes _ => cases passes

/-- What follows a step that may return although it was tied has to fold. -/
theorem yields_bind_passing (first : step.Yields stops .passes) (rest : ∀ value, (next value).Yields stops tie)
    (idles : ∀ value, (next value).Idles) (folds : ∀ value, (next value).Folds (stops .tied) tie) :
    (step >>= next).Yields stops tie := by
  intro session after outcome free ran
  rcases bind_cases ran with ⟨error, rfl, failed⟩ | ⟨value, middle, returned, ran⟩
  · cases first free failed with
    | onward _ keeps => exact .onward _ keeps
    | struck _ struck => exact .struck error struck
  · cases first free returned with
    | onward _ keeps => exact (rest value (keeps.free free) ran).after keeps
    | tied _ _ tied => exact (folds value).yielded (idles value) tied ran

theorem yields_mapError {restate : ε → ε'} {stops' : Event → ε' → Prop} (yields : step.Yields stops tie)
    (fits : ∀ pending error, stops pending error → stops' pending (restate error)) :
    (step.mapError restate).Yields stops' tie := by
  intro session after outcome free ran
  cases outcome with
  | ok value =>
    cases yields free (mapError_eq_ok.mp ran) with
    | onward _ keeps => exact .onward _ keeps
    | tied _ passes tied => exact .tied value passes tied
  | error told =>
    obtain ⟨error, failed, rfl⟩ := mapError_eq_error.mp ran
    cases yields free failed with
    | onward _ keeps => exact .onward _ keeps
    | struck _ struck => exact .struck _ (struck.weaken fun pending => fits pending error)

/-- What takes time may be tied at its end, and is then as it came out. -/
theorem yields_awaited (yields : step.Yields stops .stops) (tied : ∀ error, stops .tied error) :
    (awaited step).Yields stops .passes := by
  intro session after outcome free ran
  rcases came : step.apply session with ⟨answer, middle⟩
  rw [apply_awaited, came] at ran
  obtain ⟨rfl, rfl⟩ := Prod.mk.inj ran
  cases yields free came with
  | onward _ keeps =>
    rcases middle.leads_concluded with still | ⟨_, ends⟩
    · exact .onward _ (keeps.trans still.toSpans.keepsTo)
    · have ends : middle.Tied middle.concluded := ⟨[], [], ends.toSpans, nofun, nofun⟩
      cases answer with
      | ok value => exact .tied value rfl (keeps.tied ends)
      | error error => exact .struck error (.tied (keeps.tied ends) (tied error))
  | struck error struck =>
    rw [concluded_of_cancelled struck.isCancelled]
    exact .struck error struck
  | tied _ passes _ => cases passes

theorem idles_bind (first : step.Idles) (rest : ∀ value, (next value).Idles) : (step >>= next).Idles := by
  intro session after outcome cancelled ran
  rcases bind_cases ran with ⟨_, _, failed⟩ | ⟨value, middle, returned, ran⟩
  · exact first cancelled failed
  · have keeps := first cancelled returned
    exact keeps.trans (rest value (keeps.isCancelled cancelled) ran)

/-! ## In a cancelled session -/

omit [Storage σ]

theorem folds_pure (value : α) : (pure value : Run σ ε α).Folds told .passes := by
  rintro session _ _ _ ⟨⟩
  exact .inr ⟨rfl, value, rfl⟩

theorem Folds.weaken {told' : ε → Prop} (folds : step.Folds told tie) (within : ∀ error, told error → told' error) :
    step.Folds told' tie := by
  intro session after outcome cancelled ran
  exact (folds cancelled ran).imp_left fun ⟨error, same, fit⟩ => ⟨error, same, within error fit⟩

theorem folds_throw {error : ε} (fit : told error) : (throw error : Run σ ε α).Folds told tie := by
  rintro session _ _ _ ⟨⟩
  exact .inl ⟨error, rfl, fit⟩

theorem Halts.folds (halts : step.Halts told) : step.Folds told tie := by
  intro session after outcome cancelled ran
  obtain ⟨error, fit, failed⟩ := halts cancelled
  rw [failed] at ran
  obtain ⟨rfl, _⟩ := Prod.mk.inj ran
  exact .inl ⟨error, rfl, fit⟩

theorem halts_throw {error : ε} (fit : told error) : (throw error : Run σ ε α).Halts told :=
  fun _ _ => ⟨error, fit, rfl⟩

theorem halts_bind (first : step.Halts told) : (step >>= next).Halts told := by
  intro session cancelled
  obtain ⟨error, fit, failed⟩ := first cancelled
  exact ⟨error, fit, apply_bind_of_error failed⟩

theorem halts_mapError {restate : ε → ε'} {told' : ε' → Prop} (halts : step.Halts told)
    (fits : ∀ error, told error → told' (restate error)) : (step.mapError restate).Halts told' := by
  intro session cancelled
  obtain ⟨error, fit, failed⟩ := halts cancelled
  exact ⟨restate error, fits error fit, mapError_eq_error.mpr ⟨error, failed, rfl⟩⟩

theorem halts_checkCancelled {told : Cause → Prop} (fit : told .cancelled) :
    (checkCancelled : Run σ Cause Unit).Halts told :=
  fun _ cancelled => ⟨.cancelled, fit, apply_checkCancelled_of_cancelled cancelled⟩

/-- A fetch never begins in a cancelled session. -/
theorem halts_fetch {told : Cause → Prop} (fit : told .cancelled) (url : String) :
    (fetch url : Run σ Cause ByteArray).Halts told :=
  halts_bind (halts_checkCancelled fit)

end

section

variable {ε α β : Type} {step : Run σ ε α} {next : α → Run σ ε β} {told : ε → Prop} {tie : Tie}

theorem Halts.idles (halts : step.Halts told) : step.Idles := by
  intro session after outcome cancelled ran
  obtain ⟨_, _, failed⟩ := halts cancelled
  rw [failed] at ran
  obtain ⟨_, rfl⟩ := Prod.mk.inj ran
  exact (Session.Advances.refl session).keepsTo

/-- A sequence folds if its first step idles and the rest folds. -/
theorem folds_bind (first : step.Folds told .passes) (idles : step.Idles)
    (rest : ∀ value, (next value).Folds told tie) : (step >>= next).Folds told tie := by
  intro session after outcome cancelled ran
  rcases bind_cases ran with ⟨error, rfl, failed⟩ | ⟨value, middle, returned, ran⟩
  · rcases first cancelled failed with ⟨_, same, fit⟩ | ⟨_, _, impossible⟩
    · cases same
      exact .inl ⟨error, rfl, fit⟩
    · cases impossible
  · exact rest value ((idles cancelled returned).isCancelled cancelled) ran

end

end Run

end Scaffold
