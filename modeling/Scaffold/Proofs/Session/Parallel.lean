import Scaffold.Proofs.Session.Apply
import Scaffold.Registry.Search

/-! # Two runs side by side

Two runs that start in like sessions go alike if they come out the same, log the same events and leave like sessions
again, as long as nobody is asked or told anything on the way. Sessions are alike if they have the same network, are
cancelled or not alike, now and later, and have the same facts recorded; their files are related in a way that is left
open, and whoever answers questions does not matter. What goes alike composes along the sequence of a run, so that what two runs
differ in has to be told only where the files are called. Fetching never calls them.
-/

namespace Scaffold

/-- An event that nobody notices: neither a question nor a notice. -/
def Event.Unattended : Event → Prop
  | .question _ | .notice _ => False
  | _ => True

/-- Sessions that differ in their files as far as these may, in who answers, and in what happened so far. -/
structure Session.Alike {σ : Type} (files : σ → σ → Prop) (left right : Session σ) : Prop where
  files : files left.files right.files
  network : left.network = right.network
  cancelled : left.isCancelled = right.isCancelled
  schedule : left.cancelsAfter? = right.cancelsAfter?
  ties : left.tiesAfter? = right.tiesAfter?
  telemetry : left.telemetry = right.telemetry

theorem Session.Alike.weaken {σ : Type} {files wider : σ → σ → Prop} {left right : Session σ}
    (alike : left.Alike files right) (within : ∀ left right, files left right → wider left right) :
    left.Alike wider right :=
  { alike with files := within _ _ alike.files }

/-- Outcomes that are the same failure, or return related values. -/
inductive Outcomes {ε α β : Type} (values : α → β → Prop) : Except ε α → Except ε β → Prop
  | returned (left : α) (right : β) (related : values left right) : Outcomes values (.ok left) (.ok right)
  | failed (error : ε) : Outcomes values (.error error) (.error error)

theorem Outcomes.eq {ε α : Type} {left right : Except ε α} (outcomes : Outcomes Eq left right) : left = right := by
  cases outcomes with
  | returned _ _ same => rw [same]
  | failed _ => rfl

theorem outcomes_refl {ε α : Type} (outcome : Except ε α) : Outcomes Eq outcome outcome := by
  cases outcome with
  | ok value => exact .returned value value rfl
  | error error => exact .failed error

theorem Outcomes.errorOf? {α β : Type} {values : α → β → Prop} {left : Except IoError α} {right : Except IoError β}
    (outcomes : Outcomes values left right) : Run.errorOf? left = Run.errorOf? right := by
  cases outcomes with
  | returned _ _ _ => rfl
  | failed _ => rfl

theorem Outcomes.map {ε α β γ δ : Type} {values : α → β → Prop} {results : γ → δ → Prop} {left : Except ε α}
    {right : Except ε β} {restate : α → γ} {restateOther : β → δ} (outcomes : Outcomes values left right)
    (related : ∀ left right, values left right → results (restate left) (restateOther right)) :
    Outcomes results (left.map restate) (right.map restateOther) := by
  cases outcomes with
  | returned left right before => exact .returned _ _ (related left right before)
  | failed error => exact .failed error

theorem Outcomes.mapError {ε ε' α β : Type} {values : α → β → Prop} {left : Except ε α} {right : Except ε β}
    (outcomes : Outcomes values left right) (restate : ε → ε') :
    Outcomes values (left.mapError restate) (right.mapError restate) := by
  cases outcomes with
  | returned value other related => exact .returned value other related
  | failed error => exact .failed (restate error)

namespace Run

variable {σ ε ε' α β γ δ : Type} {files : σ → σ → Prop} {values : α → β → Prop} {results : γ → δ → Prop}

/-- What two runs came to that went alike from some sessions. -/
structure Abreast (files : σ → σ → Prop) (values : α → β → Prop) (left right : Session σ)
    (first : Except ε α × Session σ) (second : Except ε β × Session σ) : Prop where
  outcomes : Outcomes values first.1 second.1
  alike : first.2.Alike files second.2
  events : ∃ events : List Event, first.2.log = events ++ left.log ∧ second.2.log = events ++ right.log ∧
    ∀ event ∈ events, event.Unattended
  prompters : first.2.prompter = left.prompter ∧ second.2.prompter = right.prompter

/-- A step returns a value from some session. -/
def Returns (step : Run σ ε α) (value : α) : Prop := ∃ session after, step.apply session = (.ok value, after)

/-- From like sessions two steps go alike. -/
def Parallel (files : σ → σ → Prop) (values : α → β → Prop) (step : Run σ ε α) (other : Run σ ε β) : Prop :=
  ∀ ⦃left right : Session σ⦄, left.Alike files right →
    Abreast files values left right (step.apply left) (other.apply right)

/-- From like sessions a step goes like itself. -/
abbrev Steady (files : σ → σ → Prop) (step : Run σ ε α) : Prop := Parallel files Eq step step

/-- Steps that do nothing to the session go alike if they come out alike. -/
theorem parallel_of_outcomes {step : Run σ ε α} {other : Run σ ε β} (still : ∀ session, (step.apply session).2 = session)
    (stillOther : ∀ session, (other.apply session).2 = session)
    (outcomes : ∀ left right : Session σ, left.Alike files right →
      Outcomes values (step.apply left).1 (other.apply right).1) : Parallel files values step other := by
  intro left right alike
  refine ⟨outcomes left right alike, ?_, ⟨[], ?_, ?_, nofun⟩, by rw [still, stillOther]; exact ⟨rfl, rfl⟩⟩
  · rwa [still, stillOther]
  · rw [still, List.nil_append]
  · rw [stillOther, List.nil_append]

theorem parallel_pure {left : α} {right : β} (related : values left right) :
    Parallel files values (pure left : Run σ ε α) (pure right) :=
  parallel_of_outcomes (fun _ => rfl) (fun _ => rfl) fun _ _ _ => .returned left right related

theorem steady_pure (value : α) : Steady files (pure value : Run σ ε α) := parallel_pure rfl

theorem steady_throw (error : ε) : Steady files (throw error : Run σ ε α) :=
  parallel_of_outcomes (fun _ => rfl) (fun _ => rfl) fun _ _ _ => .failed error

theorem steady_throw_bind (error : ε) {next : β → Run σ ε α} : Steady files (throw error >>= next) :=
  parallel_of_outcomes (fun _ => rfl) (fun _ => rfl) fun _ _ _ => .failed error

theorem steady_ofExcept (result : Except ε α) : Steady files (ofExcept result : Run σ ε α) :=
  parallel_of_outcomes (fun _ => rfl) (fun _ => rfl) fun _ _ _ => outcomes_refl result

theorem steady_checkCancelled : Steady files (checkCancelled : Run σ Cause Unit) := by
  refine parallel_of_outcomes (fun _ => rfl) (fun _ => rfl) fun left right alike => ?_
  have same : ((checkCancelled : Run σ Cause Unit).apply left).1 = (checkCancelled.apply right).1 := by
    change (if left.isCancelled then _ else _) = if right.isCancelled then _ else _
    rw [alike.cancelled]
  exact same ▸ outcomes_refl _

section

variable {earlier : σ → σ → Prop} {left right : Session σ}

theorem Abreast.trans {first : Except ε α × Session σ} {second : Except ε β × Session σ}
    {third : Except ε γ × Session σ} {fourth : Except ε δ × Session σ}
    (before : Abreast earlier values left right first second)
    (after : Abreast files results first.2 second.2 third fourth) : Abreast files results left right third fourth := by
  obtain ⟨events, firstLog, secondLog, silent⟩ := before.events
  obtain ⟨later, thirdLog, fourthLog, silentLater⟩ := after.events
  obtain ⟨kept, keptOther⟩ := before.prompters
  refine ⟨after.outcomes, after.alike, ⟨later ++ events, ?_, ?_, List.forall_mem_append.mpr ⟨silentLater, silent⟩⟩,
    after.prompters.1.trans kept, after.prompters.2.trans keptOther⟩
  · rw [thirdLog, firstLog, List.append_assoc]
  · rw [fourthLog, secondLog, List.append_assoc]

/-- Two runs that have come this far alike stay so if what they go on with goes alike, and may be told of less from here
on. -/
theorem Abreast.bind {step : Run σ ε α} {other : Run σ ε β} {next : α → Run σ ε γ} {otherNext : β → Run σ ε δ}
    (first : Abreast earlier values left right (step.apply left) (other.apply right))
    (within : ∀ left right, earlier left right → files left right)
    (rest : ∀ left right, values left right → Parallel files results (next left) (otherNext right)) :
    Abreast files results left right ((step >>= next).apply left) ((other >>= otherNext).apply right) := by
  rw [apply_bind, apply_bind]
  rcases ran : step.apply left with ⟨outcome, middle⟩
  rcases otherRan : other.apply right with ⟨otherOutcome, otherMiddle⟩
  rw [ran, otherRan] at first
  have outcomes := first.outcomes
  have alike := first.alike.weaken within
  dsimp only at outcomes
  cases outcomes with
  | returned value otherValue related => exact first.trans (rest value otherValue related alike)
  | failed error => exact ⟨.failed error, alike, first.events, first.prompters⟩

end

/-- What goes alike composes along a sequence. -/
theorem Parallel.bind {step : Run σ ε α} {other : Run σ ε β} {next : α → Run σ ε γ} {otherNext : β → Run σ ε δ}
    (first : Parallel files values step other)
    (rest : ∀ left right, values left right → Parallel files results (next left) (otherNext right)) :
    Parallel files results (step >>= next) (other >>= otherNext) :=
  fun _ _ alike => (first alike).bind (fun _ _ => id) rest

/-- A sequence goes alike if what follows does, whatever its first step returns somewhere. -/
theorem Steady.bind {step : Run σ ε α} {next : α → Run σ ε β} (first : Steady files step)
    (rest : ∀ value, step.Returns value → Steady files (next value)) : Steady files (step >>= next) := by
  have returned : Parallel files (fun left right => left = right ∧ step.Returns left) step step := fun left right alike =>
    { first alike with
      outcomes := by
        rcases ran : step.apply left with ⟨error | value, after⟩
        · rw [← (first alike).outcomes.eq, ran]
          exact .failed error
        · rw [← (first alike).outcomes.eq, ran]
          exact .returned value value ⟨rfl, left, after, ran⟩ }
  exact Parallel.bind returned fun left right ⟨same, returns⟩ => same ▸ rest left returns

theorem Parallel.mapError {step : Run σ ε α} {other : Run σ ε β} (parallel : Parallel files values step other)
    (restate : ε → ε') : Parallel files values (step.mapError restate) (other.mapError restate) :=
  fun _ _ alike => { parallel alike with outcomes := (parallel alike).outcomes.mapError restate }

theorem Parallel.during {step : Run σ IoError α} {other : Run σ IoError β} (parallel : Parallel files values step other)
    (action : String) (path : Path) : Parallel files values (during action path step) (during action path other) :=
  parallel.mapError _

theorem Steady.attempt {step : Run σ ε α} (steady : Steady files step) :
    Steady files (Run.attempt step : Run σ ε' (Except ε α)) := by
  intro left right alike
  obtain ⟨outcomes, after, events, prompters⟩ := steady alike
  refine ⟨?_, after, events, prompters⟩
  rw [apply_attempt, apply_attempt, outcomes.eq]
  exact .returned _ _ rfl

/-- An event that nobody notices is logged alike. -/
theorem steady_note {event : Event} (silent : event.Unattended) : Steady files (note event : Run σ ε Unit) :=
  fun _ _ alike =>
    ⟨.returned () () rfl, { alike with }, ⟨[event], rfl, rfl, List.forall_mem_singleton.mpr silent⟩, rfl, rfl⟩

/-- What takes time comes to its end alike, and ties with a cancellation alike. -/
theorem Steady.awaited {step : Run σ ε α} (steady : Steady files step) : Steady files (awaited step) := by
  intro left right alike
  have first := steady alike
  have after := first.alike
  rw [apply_awaited, apply_awaited]
  refine first.trans ?_
  have prevails : (step.apply left).2.prevails = (step.apply right).2.prevails := by
    rw [Session.prevails, after.ties, Session.prevails]
  cases free : (step.apply left).2.isCancelled with
  | true =>
    rw [concluded_of_cancelled free, concluded_of_cancelled (after.cancelled.symm.trans free)]
    exact ⟨first.outcomes, after, ⟨[], rfl, rfl, nofun⟩, rfl, rfl⟩
  | false =>
    have other := after.cancelled.symm.trans free
    cases tied : (step.apply left).2.prevails with
    | true =>
      rw [concluded_of_prevails free tied, concluded_of_prevails other (prevails.symm.trans tied)]
      exact ⟨first.outcomes, { after with cancelled := rfl, ties := rfl },
        ⟨[.tied], rfl, rfl, List.forall_mem_singleton.mpr trivial⟩, rfl, rfl⟩
    | false =>
      rw [concluded_of_not_prevails free tied, concluded_of_not_prevails other (prevails.symm.trans tied)]
      exact ⟨first.outcomes, { after with ties := by rw [after.ties] }, ⟨[], rfl, rfl, nofun⟩, rfl, rfl⟩

/-- A fact is recorded alike, also where the facts are about different things. -/
theorem steady_record (key : TelemetryKey) (value : Json) : Steady files (record key value : Run σ ε Unit) :=
  fun _ _ alike =>
    ⟨.returned () () rfl, { alike with telemetry := congrArg (Telemetry.record · key value) alike.telemetry },
      ⟨[], rfl, rfl, nofun⟩, rfl, rfl⟩

theorem steady_hang : Steady files (hang : Run σ Cause α) :=
  fun _ _ alike =>
    ⟨.failed Cause.cancelled, { alike with cancelled := rfl },
      ⟨[Event.cancelled], rfl, rfl, List.forall_mem_singleton.mpr trivial⟩, rfl, rfl⟩

/-- A session may be looked at if what is done then goes alike for like sessions. -/
theorem steady_get {next : Session σ → Run σ ε α}
    (rest : ∀ left right : Session σ, left.Alike files right → Parallel files Eq (next left) (next right)) :
    Steady files (get >>= next) := by
  intro left right alike
  rw [apply_bind_of_ok (apply_get _), apply_bind_of_ok (apply_get _)]
  exact rest left right alike alike

/-! ## Calls to the files -/

/-- A call goes alike if it is answered alike and related files stay related. -/
theorem parallel_call [Storage σ] (call : FileCall) {values : call.Answer → call.Answer → Prop}
    (performs : ∀ left right, files left right →
      Outcomes values (Storage.perform call left).1 (Storage.perform call right).1 ∧
        files (Storage.perform call left).2 (Storage.perform call right).2) :
    Parallel files values (Run.call call) (Run.call call) := by
  intro left right alike
  obtain ⟨outcomes, keeps⟩ := performs _ _ alike.files
  rw [apply_call, apply_call]
  have after : Session.Alike files
      { left with
        files := (Storage.perform call left.files).2
        isCancelled := left.isCancelled || Session.strikes left.cancelsAfter? 1
        cancelsAfter? := Session.remaining left.cancelsAfter? 1 }
      { right with
        files := (Storage.perform call right.files).2
        isCancelled := right.isCancelled || Session.strikes right.cancelsAfter? 1
        cancelsAfter? := Session.remaining right.cancelsAfter? 1 } :=
    { alike with
      files := keeps
      cancelled := by rw [alike.cancelled, alike.schedule]
      schedule := by rw [alike.schedule] }
  refine ⟨outcomes, { after with }, ⟨[_], rfl, ?_, List.forall_mem_singleton.mpr trivial⟩, rfl, rfl⟩
  rw [outcomes.errorOf?]
  rfl

/-! ## Fetching -/

/-- A request gets the same reply from the same network. -/
theorem steady_reply (address : String) : Steady files (reply address : Run σ Cause Reply) := by
  intro left right alike
  have same : (reply address : Run σ Cause Reply).apply right =
      (.ok (Network.nextReply address left.network.pages).1,
        { right with
          network := { left.network with pages := (Network.nextReply address left.network.pages).2 }
          log := .request address :: right.log }) := by
    rw [alike.network]
    rfl
  rw [same]
  exact ⟨.returned _ _ rfl, { alike with network := rfl },
    ⟨[.request address], rfl, rfl, List.forall_mem_singleton.mpr trivial⟩, rfl, rfl⟩

theorem exchange_steady (count : Nat) (url : Url) (fail : String → Cause) :
    Steady files (exchange count url fail : Run σ Cause ByteArray) := by
  induction count using Nat.strongRecOn generalizing url with
  | ind count ih =>
    unfold exchange
    refine steady_get fun left right alike => ?_
    rw [alike.network]
    dsimp only
    split
    · exact steady_throw_bind _
    · refine Steady.bind (steady_reply _) fun answer _ => ?_
      split
      · exact steady_throw _
      · exact steady_hang
      · split
        · split
          · exact steady_throw _
          · exact ih _ (Nat.lt_succ_self _) _
        · exact steady_throw _
        · split
          · exact steady_throw _
          · split
            · exact steady_pure _
            · exact steady_throw _

/-- What is fetched does not depend on the files or on who answers. -/
theorem fetch_steady (url : String) : Steady files (fetch url : Run σ Cause ByteArray) := by
  refine Steady.bind steady_checkCancelled fun _ _ => Steady.bind (steady_note trivial) fun _ _ =>
    Steady.awaited ?_
  split
  · exact steady_throw _
  · exact exchange_steady _ _ _

end Run

namespace Registry

open Run

variable {σ : Type} {files : σ → σ → Prop}

theorem index_steady (registry : Registry) : Steady files (registry.index : Run σ Cause (List Stack)) := by
  refine Steady.bind (fetch_steady _) fun contents _ => ?_
  split
  · exact steady_pure _
  · exact steady_throw _

theorem searchFrom_steady (name : String) (failure? : Option Cause) (registries : List Registry) :
    Steady files (searchFrom name failure? registries : Run σ Cause (Option (Registry × Stack))) := by
  induction registries generalizing failure? with
  | nil =>
    cases failure? with
    | some failure => exact steady_throw _
    | none => exact steady_pure _
  | cons registry rest ih =>
    refine Steady.bind registry.index_steady.attempt fun indexed _ => ?_
    split
    · exact steady_throw _
    · exact ih _
    · split
      · exact steady_pure _
      · exact ih _

theorem locate_steady (registries : List Registry) (name : String) (wanted? : Option String) :
    Steady files (locate registries name wanted? : Run σ Cause (Registry × Stack)) := by
  cases wanted? with
  | none =>
    refine Steady.bind (searchFrom_steady _ _ _) fun found? _ => ?_
    split
    · exact steady_pure _
    · exact steady_throw _
  | some wanted =>
    unfold locate
    dsimp only
    split
    · exact steady_throw _
    · refine Steady.bind (index_steady _) fun listed _ => ?_
      split
      · exact steady_pure _
      · exact steady_throw _

end Registry

end Scaffold
