import Scaffold.Proofs.Session.Reading

/-! # What the network is asked for

A fetch asks for a page and a clone for a repository; whatever else happens in a run asks the network for nothing, and
the requests that an address is redirected to belong to the page that was asked for. What was asked for between two
sessions is a list, the earliest first, and the lists of two steps are appended where the steps follow each other.
-/

namespace Scaffold

/-- Something that the network is asked for. -/
inductive Inquiry
  | page (url : String)
  | repository (url : String)

/-- Inquiries can be compared. -/
instance decidableEqInquiry : DecidableEq Inquiry
  | .page left, .page right => decidable_of_iff (left = right) (by simp)
  | .repository left, .repository right => decidable_of_iff (left = right) (by simp)
  | .page _, .repository _ => isFalse (by simp)
  | .repository _, .page _ => isFalse (by simp)

namespace Event

/-- What an event asks the network for. -/
def inquiry? : Event → Option Inquiry
  | .fetch url => some (.page url)
  | .clone url => some (.repository url)
  | _ => none

/-- An event that asks the network for nothing. -/
def Silent (event : Event) : Prop := event.inquiry? = none

variable {event : Event}

theorem Looks.silent (looks : event.Looks) : event.Silent := by
  cases event with
  | files _ _ => rfl
  | _ => exact looks.elim

theorem Consults.silent (consults : event.Consults) : event.Silent := by
  cases event with
  | notice _ | question _ | cancelled => rfl
  | _ => exact consults.elim

end Event

variable {σ : Type} [Storage σ]

namespace Session

variable {before middle after : Session σ} {first second asked : List Inquiry}

/-- What the network was asked for between two sessions, the earliest first. -/
def Asks (before : Session σ) (asked : List Inquiry) (after : Session σ) : Prop :=
  ∃ events, before.Spans events after ∧ events.filterMap Event.inquiry? = asked

theorem Asks.refl (session : Session σ) : session.Asks [] session :=
  ⟨[], (Leads.refl session).toSpans, rfl⟩

theorem Asks.trans (left : before.Asks first middle) (right : middle.Asks second after) :
    before.Asks (first ++ second) after := by
  obtain ⟨_, leftSpans, rfl⟩ := left
  obtain ⟨_, rightSpans, rfl⟩ := right
  exact ⟨_, leftSpans.append rightSpans, List.filterMap_append⟩

/-- All that a session tells was asked for since it began. -/
theorem Asks.eq_of_fresh (fresh : before.log = []) (asks : before.Asks asked after) :
    asked = after.events.filterMap Event.inquiry? := by
  obtain ⟨events, spans, rfl⟩ := asks
  rw [Session.events, spans.log, fresh, List.append_nil, List.reverse_reverse]

theorem Leads.asks {events : List Event} (leads : before.Leads events after) :
    before.Asks (events.filterMap Event.inquiry?) after :=
  ⟨events, leads.toSpans, rfl⟩

theorem KeepsTo.asks (keeps : before.KeepsTo Event.Silent after) : before.Asks [] after := by
  obtain ⟨events, spans, silent⟩ := keeps
  exact ⟨events, spans, List.filterMap_eq_nil_iff.mpr silent⟩

/-- A step that asks for nothing adds nothing to what was asked for. -/
theorem Asks.trans_nil (left : before.Asks asked middle) (right : middle.Asks [] after) : before.Asks asked after :=
  List.append_nil asked ▸ left.trans right

end Session

namespace Run

variable {ε α : Type} {session after : Session σ} {outcome : Except Cause α} {inquiry : Inquiry}

/-- A step that asks the network for nothing. -/
abbrev Silent (step : Run σ ε α) : Prop := step.Only Event.Silent

theorem Only.silent {step : Run σ ε α} (looks : step.Only Event.Looks) : step.Silent :=
  looks.weaken fun _ fit => fit.silent

theorem Consults.silent {step : Run σ ε α} (consults : step.Consults) : step.Silent :=
  Only.weaken consults fun _ fit => fit.silent

theorem call_silent (file : FileCall) : (call file : Run σ IoError file.Answer).Silent := only_call fun _ => rfl

theorem Silent.asks {step : Run σ ε α} (silent : step.Silent) {outcome : Except ε α}
    (ran : step.apply session = (outcome, after)) : session.Asks [] after :=
  (Only.advances silent ran).keepsTo.asks

/-- A step that was to ask for one thing has asked for it once, unless the run was cancelled before. Its failure is the
cancellation only if the run was cancelled. -/
inductive Inquires (inquiry : Inquiry) (session after : Session σ) (outcome : Except Cause α) : Prop
  | asked (asks : session.Asks [inquiry] after) (honest : outcome = .error .cancelled → after.isCancelled = true)
  | forestalled (asks : session.Asks [] after) (same : outcome = .error .cancelled)
      (cancelled : after.isCancelled = true)

namespace Inquires

variable {value : α}

theorem asks_of_ok (inquires : Inquires inquiry session after (.ok value : Except Cause α)) :
    session.Asks [inquiry] after := by
  cases inquires with
  | asked asks _ => exact asks
  | forestalled _ impossible _ => cases impossible

theorem asks_of_failed {cause : Cause} (other : cause ≠ .cancelled)
    (inquires : Inquires inquiry session after (.error cause : Except Cause α)) : session.Asks [inquiry] after := by
  cases inquires with
  | asked asks _ => exact asks
  | forestalled _ same _ => exact absurd (Except.error.inj same) other

/-- A step that is cancelled has asked at most once by then. -/
theorem asks_of_cancelled (inquires : Inquires inquiry session after (.error .cancelled : Except Cause α)) :
    (session.Asks [] after ∨ session.Asks [inquiry] after) ∧ after.isCancelled = true := by
  cases inquires with
  | asked asks honest => exact ⟨.inr asks, honest rfl⟩
  | forestalled asks _ cancelled => exact ⟨.inl asks, cancelled⟩

theorem asks (inquires : Inquires inquiry session after outcome) :
    session.Asks [] after ∨ session.Asks [inquiry] after := by
  cases inquires with
  | asked asks _ => exact .inr asks
  | forestalled asks _ _ => exact .inl asks

end Inquires

theorem asks_concluded (session : Session σ) : session.Asks [] session.concluded := by
  rcases session.leads_concluded with still | ⟨_, tied⟩
  · exact still.asks
  · exact tied.asks

/-- Unless the run was cancelled before, a fetch asks for its page. -/
theorem fetch_asked {url : String} {outcome : Except Cause ByteArray} (free : session.isCancelled = false)
    (ran : (fetch url).apply session = (outcome, after)) :
    session.Asks [.page url] after ∧ (outcome = .error .cancelled → after.isCancelled = true) := by
  rw [fetch, guarded, apply_bind_of_ok (apply_checkCancelled_of_free free), apply_bind_of_ok (apply_note _ _),
    apply_awaited] at ran
  obtain ⟨told, rfl⟩ := Prod.mk.inj ran
  have noted : session.Leads [.fetch url] (session.note (.fetch url)) :=
    Session.leads_event rfl rfl rfl rfl (Bool.or_false _).symm rfl
  have requests : ∀ addresses : List String, (addresses.map Event.request).filterMap Event.inquiry? = [] := by
    intro addresses
    simp [List.filterMap_eq_nil_iff, Event.inquiry?]
  split at told
  · rw [← told]
    exact ⟨noted.asks.trans_nil (asks_concluded _), nofun⟩
  · rename_i target _
    rcases exchanged : (exchange maxRedirections target (.fetchFailed url)).apply (session.note (.fetch url)) with
      ⟨_, middle⟩
    rw [exchanged] at told
    obtain rfl := told
    cases exchange_cases exchanged with
    | answered addresses body leads =>
      exact ⟨noted.asks.trans_nil ((requests addresses ▸ leads.asks).trans_nil (asks_concluded _)), nofun⟩
    | failed addresses reason leads =>
      exact ⟨noted.asks.trans_nil ((requests addresses ▸ leads.asks).trans_nil (asks_concluded _)), nofun⟩
    | cancelled addresses address leads =>
      have cancelled : middle.isCancelled = true := by simp [leads.cancelled, Event.cancels]
      refine ⟨noted.asks.trans_nil (Session.Asks.trans_nil ?_ (asks_concluded _)), fun _ => ?_⟩
      · have asks := leads.asks
        rwa [List.filterMap_append, requests] at asks
      · rwa [Session.concluded, if_pos cancelled]

theorem fetch_inquires {url : String} {outcome : Except Cause ByteArray}
    (ran : (fetch url).apply session = (outcome, after)) : Inquires (.page url) session after outcome := by
  cases free : session.isCancelled with
  | true =>
    obtain ⟨rfl, rfl⟩ := Prod.mk.inj
      (ran.symm.trans (apply_bind_of_error (apply_checkCancelled_of_cancelled free)))
    exact .forestalled (.refl _) rfl free
  | false =>
    obtain ⟨asks, honest⟩ := fetch_asked free ran
    exact .asked asks honest

/-- A clone asks for its repository, also in a cancelled run, unless there is no place to put it. -/
theorem clone_asks {url : String} {revision? : Option String} {fail : String → Cause} {outcome : Except Cause ClonedTree}
    (ran : (clone url revision? fail).apply session = (outcome, after)) :
    session.Asks [.repository url] after ∨ (∃ cause, outcome = .error cause) ∧ session.Asks [] after := by
  rw [clone, apply_bind_of_ok (apply_get _)] at ran
  split at ran
  · obtain ⟨rfl, rfl⟩ := Prod.mk.inj ran
    exact .inr ⟨⟨_, rfl⟩, .refl _⟩
  · rw [apply_bind_of_ok (apply_note _ _), apply_bind_of_ok (apply_get _), apply_bind_of_ok (apply_get _)] at ran
    have noted : session.Leads [.clone url] (session.note (.clone url)) :=
      Session.leads_event rfl rfl rfl rfl (Bool.or_false _).symm rfl
    refine .inl (noted.asks.trans_nil ?_)
    split at ran
    · obtain ⟨_, rfl⟩ := Prod.mk.inj ran
      exact .refl _
    · have silent : (awaited (cloneInto url revision? fail) : Run σ Cause ClonedTree).Silent :=
        only_awaited (cloneInto_only (show Event.Silent (.reached url) from rfl) rfl _ _) rfl
      exact silent.asks ran

end Run

end Scaffold
