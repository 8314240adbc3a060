import Mathlib.Data.List.Basic
import Scaffold.Proofs.Initialise.Precedence
import Scaffold.Proofs.Initialise.Refusal

/-! # Cancelled runs

A run that is cancelled stops. Whatever it waits for at that moment, it starts nothing after it: it asks nobody, writes
nothing, and at most takes back the manifest that it had staged. Where a request or a clone was pending the failure is
the cancellation itself, although the search through registries passes over other failures and the download tells them
in its own terms. Only a request or a clone that comes to its end just when the run is cancelled may be told otherwise,
as what it came to.
-/

namespace Scaffold

theorem Event.Places.onward {event : Event} {target : Path} (places : event.Places target) : event.Onward := by
  cases event with
  | cancelled | tied => exact places.elim
  | _ => rfl

/-- A setback that touched nothing, and that is cut short as its cause is. -/
def Setback.CutShort (pending : Event) (setback : Setback) : Prop :=
  setback.touched = false ∧ Run.CutShort pending setback.cause

variable {σ : Type} [Storage σ]

namespace Run

/-! ## Waiting before anything is touched -/

theorem yields_untouched {α : Type} {step : Run σ Cause α} {tie : Tie} (yields : step.Yields CutShort tie) :
    (Devfile.StarterProject.untouched step).Yields Setback.CutShort tie :=
  yields_mapError yields fun _ _ short => ⟨rfl, short⟩

end Run

namespace Devfile.StarterProject

theorem ofNetwork_notDownloaded (name : String) (cause : Cause) : (notDownloaded name cause).OfNetwork := by
  cases cause <;> trivial

theorem layOut_yields {stops : Event → Setback → Prop} (starter : StarterProject) (overlay : Overlay)
    (acquisition : Acquisition) :
    (starter.layOut overlay (acquisition.layOut overlay) : Run σ _ _).Yields stops .stops :=
  Run.Only.yields (layOut_only (fun _ => (rfl : Event.Onward _))
    ((acquisition.layOut_places overlay).weaken fun _ ⟨_, _, places⟩ => places.onward)) fun _ => id

/-- What was had from the network is only laid out if the run was not cancelled just when it came. -/
theorem yields_bind_layOut {α : Type} {acquires : Run σ Cause α} (starter : StarterProject) (overlay : Overlay)
    (acquisition : α → Session σ → Acquisition) (first : acquires.Yields Run.CutShort .passes) :
    (untouched acquires >>= fun value => untouched Run.checkCancelled >>= fun _ => get >>= fun session =>
      starter.layOut overlay ((acquisition value session).layOut overlay)).Yields Setback.CutShort .stops := by
  have halts : ∀ value : α, (untouched Run.checkCancelled >>= fun _ => get >>= fun session =>
      starter.layOut overlay ((acquisition value session).layOut overlay) : Run σ _ _).Halts
        (Setback.CutShort .tied) := fun _ =>
    Run.halts_bind (Run.halts_mapError (Run.halts_checkCancelled (Run.cutShort_tied trivial)) fun _ short => ⟨rfl, short⟩)
  exact Run.yields_bind_passing (Run.yields_untouched first)
    (fun value => Run.yields_bind (Run.yields_untouched Run.heeds_checkCancelled.yields) fun _ =>
      Run.yields_bind (Run.only_get.yields fun _ => Event.Idle.onward) fun _ => starter.layOut_yields _ _)
    (fun value => (halts value).idles) fun value => (halts value).folds

/-- A download is cut short before it touches anything: it waits for the network only until the project is acquired. -/
theorem download_yields (starter : StarterProject) (directory : Path) :
    (starter.download directory : Run σ Setback Unit).Yields Setback.CutShort .stops := by
  refine Run.yields_bind (Run.yields_untouched (Run.only_ofExcept _).heeds.yields) fun names => ?_
  dsimp only
  split
  · rename_i source _
    have fetches : ((Run.fetch source.location : Run σ _ _).mapError (notDownloaded starter.name)).Yields
        Run.CutShort .passes :=
      Run.yields_mapError (Run.fetch_yields source.location) fun pending cause breaks =>
        ⟨fun waits => by rw [breaks waits.waits]; rfl, fun _ => ofNetwork_notDownloaded _ _⟩
    exact yields_bind_layOut starter _ (fun data session => .archive session.unpack data) fetches
  · unfold fromRepository
    split
    · exact Run.yields_throw _
    · rename_i source _ _ _ url _
      have clones : (Run.clone url source.revision? (.downloadFailed starter.name) : Run σ _ _).Yields
          Run.CutShort .passes :=
        (Run.clone_yields _ _ _).failing (Run.clone_failsWith trivial fun _ _ => trivial) Run.Breaks.cutShort
      exact yields_bind_layOut starter _ (fun checkout _ => .repository checkout) clones
  · exact Run.yields_throw _

end Devfile.StarterProject

namespace Run

variable {registries : List Registry} {flags : Flags} {directory : Path} {empty : Bool} {session after : Session σ}

theorem withStarter_yields (starter? : Option Devfile.StarterProject) (staged : Manifest) (directory : Path) :
    (withStarter starter? staged directory : Run σ Setback Manifest).Yields Setback.CutShort .stops := by
  cases starter? with
  | none => exact yields_pure _
  | some starter =>
    exact yields_bind (starter.download_yields directory) fun _ =>
      (only_mapError (settledManifest_looks staged)).yields fun _ looks => looks.idle.onward

theorem setUp_yields (accepted : flags.isEmpty = false → flags.Accepted registries) (directory : Path) (empty : Bool) :
    (setUp registries flags directory empty : Run σ Setback Component).Yields Setback.CutShort .stops := by
  have prepares : (beforeStarter (prepare (BackendKind.choose flags empty) registries flags directory empty) :
      Run σ Setback Plan).Yields Setback.CutShort .stops :=
    yields_mapError (BackendKind.prepare_careful accepted directory).heeds.yields fun _ _ short => ⟨rfl, short⟩
  have commits : ∀ plan : Plan, ∀ manifest, (afterStarter plan.starter? (commit manifest) :
      Run σ Setback Unit).Yields Setback.CutShort .stops := fun _ _ =>
    (only_mapError (commit_only fun _ _ => (rfl : Event.Onward _))).yields fun _ => id
  refine yields_bind prepares fun plan => yields_bind (withStarter_yields _ _ _) fun manifest =>
    yields_bind (commits plan _) fun _ => yields_bind ?_ fun _ => yields_pure _
  intro session after outcome _ ran
  rw [recordComponent_apply] at ran
  obtain ⟨_, rfl⟩ := Prod.mk.inj ran
  exact .onward _ (session.keepsTo_record _)

/-! ## In a cancelled session -/

/-- A plan is only made in a session that was not cancelled. -/
theorem isCancelled_of_prepare {backend : BackendKind} {plan : Plan}
    (ran : (prepare backend registries flags directory empty).apply session = (.ok plan, after)) :
    after.isCancelled = false := by
  obtain ⟨_, _, _, ran⟩ := bind_eq_ok ran
  obtain ⟨_, _, _, ran⟩ := bind_eq_ok ran
  obtain ⟨_, _, _, ran⟩ := bind_eq_ok ran
  obtain ⟨_, _, _, ran⟩ := bind_eq_ok ran
  obtain ⟨_, _, _, ran⟩ := bind_eq_ok ran
  obtain ⟨_, _, passed, returned⟩ := bind_eq_ok ran
  obtain ⟨_, rfl⟩ := Prod.mk.inj returned
  obtain ⟨free, rfl⟩ := checkCancelled_eq_ok passed
  exact free

/-- Setting up fails in a cancelled session before it comes to write. -/
theorem setUp_of_cancelled {outcome : Except Setback Component}
    (accepted : flags.isEmpty = false → flags.Accepted registries) (cancelled : session.isCancelled = true)
    (ran : (setUp registries flags directory empty).apply session = (outcome, after)) :
    session.KeepsTo Event.Idle after ∧ ∃ cause, outcome = .error ⟨cause, false⟩ := by
  have prepares : (prepare (BackendKind.choose flags empty) registries flags directory empty : Run σ _ _).Heeds .stops :=
    (BackendKind.prepare_careful accepted directory).heeds
  rcases bind_cases ran with ⟨setback, rfl, failed⟩ | ⟨plan, prepared, preparing, _⟩
  · obtain ⟨cause, stopped, rfl⟩ := mapError_eq_error.mp failed
    exact ⟨prepares.idles cancelled stopped, cause, rfl⟩
  · have preparing := mapError_eq_ok.mp preparing
    have free := isCancelled_of_prepare preparing
    rw [(prepares.idles cancelled preparing).isCancelled cancelled] at free
    cases free

/-! ## The whole run -/

/-- How cancelling bears on a run that has inspected a directory and come to set it up: it was cancelled from the start,
it was never cancelled, or it was struck. -/
inductive SetUpHeeds (session : Session σ) (outcome : Except Setback Component) (after : Session σ) : Prop
  | already (cause : Cause) (cancelled : session.isCancelled = true) (idles : session.KeepsTo Event.Idle after)
      (same : outcome = .error ⟨cause, false⟩)
  | never (free : session.Free) (onward : session.KeepsTo Event.Onward after)
  | struck (cause : Cause) (free : session.Free) (struck : session.Struck (CutShort · cause) after)
      (same : outcome = .error ⟨cause, false⟩)

theorem setUp_heeds {inspected : Session σ} {outcome : Except Setback Component}
    (unscheduled : session.cancelsAfter? = none)
    (passed : (inspect registries flags).apply session = (.ok (directory, empty), inspected))
    (ran : (setUp registries flags directory empty).apply inspected = (outcome, after)) :
    SetUpHeeds session outcome after := by
  have looks := (inspect_keepsTo passed).weaken fun _ => Event.Looks.idle
  have accepted := accepted_of_inspect passed
  have onward := looks.weaken fun _ => Event.Idle.onward
  cases started : session.isCancelled with
  | true =>
    obtain ⟨idle, cause, failed⟩ := setUp_of_cancelled accepted (looks.isCancelled started) ran
    exact .already cause started (looks.trans idle) failed
  | false =>
    have free : session.Free := ⟨started, unscheduled⟩
    cases setUp_yields accepted directory empty (onward.free free) ran with
    | onward _ keeps => exact .never free (onward.trans keeps)
    | struck setback struck =>
      obtain ⟨cause, touched⟩ := setback
      have untouched : touched = false := by
        cases struck with
        | waiting _ _ _ _ _ short => exact short.1
        | tied _ short => exact short.1
      subst untouched
      exact .struck cause free (onward.struck (struck.weaken fun _ short => short.2)) rfl
    | tied _ passes _ => cases passes

/-- Nothing cancels a run that set up a directory, or that touched it with a starter project. -/
theorem onward_of_setUp {inspected : Session σ} {outcome : Except Setback Component}
    (unscheduled : session.cancelsAfter? = none)
    (passed : (inspect registries flags).apply session = (.ok (directory, empty), inspected))
    (ran : (setUp registries flags directory empty).apply inspected = (outcome, after))
    (other : ∀ cause, outcome ≠ .error ⟨cause, false⟩) :
    session.Free ∧ session.KeepsTo Event.Onward after := by
  cases setUp_heeds unscheduled passed ran with
  | already cause _ _ same => exact absurd same (other cause)
  | never free onward => exact ⟨free, onward⟩
  | struck cause _ _ same => exact absurd same (other cause)

end Run

namespace Run

variable {registries : List Registry} {flags : Flags} {session stopped after : Session (Faulty FileTree)}
  {outcome : Except Failure Component} {failure : Failure} {directory : Path}
  {events opening ending idle undone : List Event}

/-- At most the removal of the manifest of a directory. -/
def Undoes (directory : Path) (undone : List Event) : Prop :=
  undone = [] ∨ ∃ error?, undone = [.files (.remove (manifestPath directory)) error?]

theorem Undoes.onward (undoes : Undoes directory undone) : ∀ event ∈ undone, event.Onward := by
  rcases undoes with rfl | ⟨_, rfl⟩
  · simp
  · exact List.forall_mem_singleton.mpr rfl

/-- The events that had happened at the moment at which a run became cancelled: none if it was cancelled before it
started, and otherwise all up to the one that cancelled it. -/
def CancelledAfter (session : Session (Faulty FileTree)) (opening : List Event) : Prop :=
  session.isCancelled = true ∧ opening = [] ∨ ∃ past event, opening = past ++ [event] ∧ event.cancels = true

/-- How a run in a directory stops that became cancelled after some events, and what happens until it ends. -/
structure StopsCancelled (session : Session (Faulty FileTree)) (directory : Path) (failure : Failure)
    (opening ending : List Event) : Prop where
  /-- It was cancelled from the start or while it waited, and where it waited for the network it fails for that; or it was
  cancelled just when a fetch or a clone came to its end, and fails for a cause that tells of the network. -/
  moment : session.isCancelled = true ∧ opening = [] ∨
    (∃ past pending, opening = past ++ [pending, .cancelled] ∧ pending.Waits ∧
      (pending.OnNetwork → failure.cause = .cancelled)) ∨
    ∃ past, opening = past ++ [.tied] ∧ failure.cause.OfNetwork
  /-- It asks nobody and writes nothing any more, and at most takes back the manifest. -/
  idles : ∃ idle undone, ending = idle ++ undone ∧ (∀ event ∈ idle, event.Idle) ∧ Undoes directory undone

/-- A run that only went on was cancelled before it started or not at all. -/
theorem CancelledAfter.started (moment : CancelledAfter session opening) (onward : ∀ event ∈ opening, event.Onward) :
    session.isCancelled = true ∧ opening = [] := by
  rcases moment with before | ⟨past, event, rfl, cancels⟩
  · exact before
  · rw [onward event (by simp)] at cancels
    cases cancels

/-- A run that went on until it ended never became cancelled. -/
theorem not_cancelledAfter (free : session.Free) (onward : ∀ event ∈ events, event.Onward)
    (split : events = opening ++ ending) : ¬ CancelledAfter session opening := by
  subst split
  intro moment
  have before := moment.started fun event member => onward event (List.mem_append_left _ member)
  rw [free.uncancelled] at before
  cases before.1

/-- A run became cancelled by the only event that cancels it. -/
theorem CancelledAfter.unique {past later : List Event} {event : Event} (moment : CancelledAfter session opening)
    (free : session.Free) (before : ∀ other ∈ past, other.Onward) (behind : ∀ other ∈ later, other.Onward)
    (split : past ++ event :: later = opening ++ ending) : opening = past ++ [event] ∧ ending = later := by
  rcases moment with ⟨cancelled, _⟩ | ⟨earlier, other, rfl, cancels⟩
  · rw [free.uncancelled] at cancelled
    cases cancelled
  · have apart : ∀ {events : List Event}, (∀ other ∈ events, other.Onward) → other ∉ events := fun onward member => by
      rw [onward other member] at cancels
      cases cancels
    rw [List.append_assoc, List.singleton_append] at split
    obtain ⟨rfl, rfl, rfl⟩ := (List.append_cons_inj_of_notMem (apart before) (apart behind)).mp split
    exact ⟨rfl, rfl⟩

/-- Nobody is asked by a run that was cancelled before it started. -/
theorem stops_of_idle (idles : ∀ event ∈ idle, event.Idle) (undoes : Undoes directory undone)
    (split : idle ++ undone = opening ++ ending) (moment : CancelledAfter session opening) :
    StopsCancelled session directory failure opening ending := by
  have onward : ∀ event ∈ opening, event.Onward := by
    intro event member
    have among : event ∈ idle ++ undone := split ▸ List.mem_append_left _ member
    rcases List.mem_append.mp among with member | member
    · exact (idles event member).onward
    · exact undoes.onward event member
  have before := moment.started onward
  exact ⟨.inl before, idle, undone, by rw [split, before.2, List.nil_append], idles, undoes⟩

/-- A run that was struck does nothing of weight after that but roll back. -/
theorem stops_of_struck {cause : Cause} (struck : session.Struck (CutShort · cause) stopped) (free : session.Free)
    (undoes : Undoes directory undone) (cleanup : Cleanup) :
    ∃ events, session.Spans events stopped ∧ ∀ opening ending, events ++ undone = opening ++ ending →
      CancelledAfter session opening → StopsCancelled session directory ⟨cause, cleanup⟩ opening ending := by
  cases struck with
  | waiting past pending spans onward waits short =>
    refine ⟨_, spans, fun opening ending split moment => ?_⟩
    have before : ∀ event ∈ past ++ [pending], event.Onward :=
      List.forall_mem_append.mpr ⟨onward, List.forall_mem_singleton.mpr waits.onward⟩
    obtain ⟨rfl, rfl⟩ := moment.unique free before undoes.onward (by simpa using split)
    exact ⟨.inr (.inl ⟨past, pending, by simp, waits, short.1⟩), [], _, rfl, nofun, undoes⟩
  | tied tied short =>
    obtain ⟨past, idle, spans, onward, idles⟩ := tied
    refine ⟨_, spans, fun opening ending split moment => ?_⟩
    have behind : ∀ event ∈ idle ++ undone, event.Onward :=
      List.forall_mem_append.mpr ⟨fun event member => (idles event member).onward, undoes.onward⟩
    obtain ⟨rfl, rfl⟩ := moment.unique free onward behind (by simpa using split)
    exact ⟨.inr (.inr ⟨past, rfl, short.2 rfl⟩), idle, _, rfl, idles, undoes⟩

/-- A run that becomes cancelled fails. From that moment on it sends no request, clones nothing, asks no question and
writes nothing, and only the manifest may still be removed. If it waited for the network at that moment, the failure is
the cancellation itself, although other failures of the network are passed over or told otherwise. If what it waited for
came to its end just then, the failure is the cancellation or what the network comes to. -/
theorem cancelled_run_stops (unscheduled : session.cancelsAfter? = none)
    (ran : (initialise registries flags).apply session = (outcome, after)) :
    ∃ events, session.Spans events after ∧
      ∀ opening ending, events = opening ++ ending → CancelledAfter session opening →
        ∃ failure, outcome = .error failure ∧
          StopsCancelled session session.files.inner.workingDirectory failure opening ending := by
  cases initialise_ends ran with
  | refused cause _ failed =>
    obtain ⟨events, spans, looks⟩ := inspect_keepsTo failed
    exact ⟨events, spans, fun opening ending split moment =>
      ⟨_, rfl, stops_of_idle (fun event member => (looks event member).idle) (.inl rfl)
        ((List.append_nil _).trans split) moment⟩⟩
  | settled directory empty inspected component _ passed ran =>
    obtain ⟨free, events, spans, onward⟩ := onward_of_setUp unscheduled passed ran nofun
    exact ⟨events, spans, fun opening ending split moment => absurd moment (not_cancelledAfter free onward split)⟩
  | preserved directory empty inspected cause _ passed failed =>
    obtain ⟨free, events, spans, onward⟩ := onward_of_setUp unscheduled passed failed nofun
    exact ⟨events, spans, fun opening ending split moment => absurd moment (not_cancelledAfter free onward split)⟩
  | rolledBack directory empty inspected stopped cause answer _ passed failed removed =>
    obtain ⟨rfl, _⟩ := inspect_keeps passed
    obtain ⟨error?, last⟩ := Session.leads_of_call removed
    have last := last.toSpans
    have undoes : Undoes session.files.inner.workingDirectory [.files (.remove (manifestPath _)) error?] :=
      .inr ⟨error?, rfl⟩
    cases setUp_heeds unscheduled passed failed with
    | already _ _ idles _ =>
      obtain ⟨idle, spans, idles⟩ := idles
      exact ⟨_, spans.append last, fun opening ending split moment =>
        ⟨_, rfl, stops_of_idle idles undoes split moment⟩⟩
    | never free onward =>
      obtain ⟨events, spans, onward⟩ := onward
      have onward := List.forall_mem_append.mpr ⟨onward, undoes.onward⟩
      exact ⟨_, spans.append last, fun opening ending split moment =>
        absurd moment (not_cancelledAfter free onward split)⟩
    | struck _ free struck same =>
      cases same
      obtain ⟨events, spans, stops⟩ := stops_of_struck struck free undoes .devfileRemoved
      exact ⟨_, spans.append last, fun opening ending split moment =>
        ⟨_, rfl, stops opening ending split moment⟩⟩

/-- A session in which the starter project is waited for in vain. -/
def pendingSession : Session (Faulty FileTree) :=
  { starterSession with network := { pages := [("http://dl.test/s.zip", [.cancels])] } }

private theorem pendingSession_fails :
    ((initialise [] starterFlags).apply pendingSession).1 = .error ⟨.cancelled, .devfileRemoved⟩ ∧
      ((initialise [] starterFlags).apply pendingSession).2.isCancelled = true := by
  decide +kernel

/-- The download is not told as failed, and the manifest that was staged is all that is taken back. -/
theorem cancelled_run_stops_pending :
    pendingSession.cancelsAfter? = none ∧
      ((initialise [] starterFlags).apply pendingSession).1 = .error ⟨.cancelled, .devfileRemoved⟩ ∧
      ∃ past event ending, event.cancels = true ∧ pendingSession.Spans (past ++ event :: ending)
          ((initialise [] starterFlags).apply pendingSession).2 ∧
        StopsCancelled pendingSession ⟨"/app"⟩ ⟨.cancelled, .devfileRemoved⟩ (past ++ [event]) ending := by
  have fails := pendingSession_fails
  rcases ran : (initialise [] starterFlags).apply pendingSession with ⟨outcome, after⟩
  rw [ran] at fails
  obtain ⟨rfl, struck⟩ := fails
  have unscheduled : pendingSession.cancelsAfter? = none := rfl
  obtain ⟨events, spans, stops⟩ := cancelled_run_stops unscheduled ran
  have some : events.any Event.cancels = true := by
    have told := spans.cancelled.symm.trans struck
    rwa [unscheduled, Session.strikes_none, Bool.or_false] at told
  obtain ⟨event, member, cancels⟩ := List.any_eq_true.mp some
  obtain ⟨past, ending, rfl⟩ := List.append_of_mem member
  obtain ⟨failure, same, stopped⟩ := stops (past ++ [event]) ending (by simp) (.inr ⟨past, event, rfl, cancels⟩)
  cases same
  exact ⟨rfl, rfl, past, event, ending, cancels, spans, stopped⟩

/-- Whether the run was cancelled while a request was pending. -/
def struckOnRequest : List Event → Bool
  | .request _ :: event :: rest => event.cancels || struckOnRequest (event :: rest)
  | _ :: rest => struckOnRequest rest
  | [] => false

/-- A session in which the connection to the registry is closed just when the run is cancelled. -/
def tiedSession : Session (Faulty FileTree) :=
  { files := { inner := .new ⟨"/app"⟩, faults := [], special := [], modes := [] }
    network := { pages := [("http://registry.test/index", [.dropped])] }
    tiesAfter? := some 0 }

/-- The request was pending when the run was cancelled, but its own failure is told. -/
theorem tiedSession_fails_otherwise :
    tiedSession.isCancelled = false ∧ tiedSession.cancelsAfter? = none ∧
      ((initialise [⟨"Local", "http://registry.test"⟩] { devfile := some "go" }).apply tiedSession).1 =
        .error ⟨.fetchFailed "http://registry.test/index" undisclosed, .devfileRemoved⟩ ∧
      struckOnRequest ((initialise [⟨"Local", "http://registry.test"⟩] { devfile := some "go" }).apply
        tiedSession).2.events = true := by
  decide +kernel

end Run

end Scaffold
