import Scaffold.Proofs.Session.Reading

/-! # What a step that returns vouches for

A step that returns has done only events of some kind, whatever it may have done had it failed. So errors that may not
be passed over are told by the events that such a step leaves out: a call whose error is handed on vouches for its
success, and one whose error is looked at vouches for what becomes of it.
-/

namespace Scaffold.Run

variable {σ : Type} [Storage σ] {ε ε' α β : Type} {allowed : Event → Prop} {step : Run σ ε α}
  {next : α → Run σ ε β}

/-- If a step returns, only events of an allowed kind happened. -/
def Vouches (allowed : Event → Prop) (step : Run σ ε α) : Prop :=
  ∀ (session : Session σ) (value : α) (after : Session σ), step.apply session = (.ok value, after) →
    session.KeepsTo allowed after

theorem Vouches.keepsTo (vouches : step.Vouches allowed) {session after : Session σ} {value : α}
    (ran : step.apply session = (.ok value, after)) : session.KeepsTo allowed after :=
  vouches session value after ran

theorem Only.vouches (only : step.Only allowed) : step.Vouches allowed :=
  fun _ _ _ ran => (only.advances ran).keepsTo

/-- A step that makes no call to the files vouches for whatever allows that. -/
theorem Outside.vouches (outside : step.Outside) (within : ∀ event : Event, event.Outside → allowed event) :
    step.Vouches allowed :=
  (Only.weaken outside within).vouches

theorem vouches_pure (value : α) : (pure value : Run σ ε α).Vouches allowed := (only_pure value).vouches

/-- What never returns vouches for anything. -/
theorem vouches_throw (error : ε) : (throw error : Run σ ε α).Vouches allowed := (only_throw error).vouches

theorem vouches_bind (first : step.Vouches allowed) (rest : ∀ value, (next value).Vouches allowed) :
    (step >>= next).Vouches allowed := by
  intro session result after ran
  obtain ⟨value, middle, returned, continued⟩ := bind_eq_ok ran
  exact (first.keepsTo returned).trans ((rest value).keepsTo continued)

/-- A step that is refused vouches for what would have followed. -/
theorem vouches_refuse {condition : Prop} [Decidable condition] {error : ε} {rest : Unit → Run σ ε β}
    (vouches : (rest ()).Vouches allowed) : (if condition then throw error >>= rest else rest ()).Vouches allowed := by
  split
  · exact vouches_bind (vouches_throw _) fun _ => vouches
  · exact vouches

theorem vouches_mapError {restate : ε → ε'} (vouches : step.Vouches allowed) :
    (step.mapError restate).Vouches allowed :=
  fun _ _ _ ran => vouches.keepsTo (mapError_eq_ok.mp ran)

theorem vouches_record (key : TelemetryKey) (value : Json) : (record key value : Run σ ε Unit).Vouches allowed := by
  intro session _ after ran
  obtain ⟨_, rfl⟩ := Prod.mk.inj ran
  exact session.keepsTo_record _

theorem vouches_mapM {next : α → Run σ ε β} (items : List α) (each : ∀ item ∈ items, (next item).Vouches allowed) :
    (items.mapM next).Vouches allowed := by
  induction items with
  | nil => exact vouches_pure _
  | cons item rest ih =>
    rw [List.mapM_cons]
    exact vouches_bind (each item List.mem_cons_self) fun _ =>
      vouches_bind (ih fun other member => each other (List.mem_cons_of_mem _ member)) fun _ => vouches_pure _

/-! ## Calls -/

variable {file : FileCall}

/-- A call that returned is logged as such. -/
theorem vouches_call (fit : allowed (.files file none)) : (call file : Run σ IoError file.Answer).Vouches allowed :=
  fun _ _ _ ran => ⟨_, (Session.leads_of_answer ran).toSpans, by simpa [errorOf?] using fit⟩

/-- A call whose error is looked at: the step goes on only after an error that is allowed. -/
theorem vouches_attempt {next : Except IoError file.Answer → Run σ ε β} (fit : allowed (.files file none))
    (returned : ∀ answer, (next (.ok answer)).Vouches allowed)
    (failed : ∀ error, (∃ other, next (.error error) = throw other) ∨
      allowed (.files file (some error)) ∧ (next (.error error)).Vouches allowed) :
    (attempt (call file) >>= next).Vouches allowed := by
  intro session result after ran
  rw [apply_bind_of_ok (apply_attempt _ _)] at ran
  rcases called : (call file).apply session with ⟨error | answer, middle⟩
  · rw [called] at ran
    rcases failed error with ⟨other, thrown⟩ | ⟨fit, onward⟩
    · rw [thrown] at ran
      cases ran
    · have keeps : session.KeepsTo allowed middle :=
        ⟨_, (Session.leads_of_answer called).toSpans, by simpa [errorOf?] using fit⟩
      exact keeps.trans (onward.keepsTo ran)
  · rw [called] at ran
    have keeps : session.KeepsTo allowed middle :=
      ⟨_, (Session.leads_of_answer called).toSpans, by simpa [errorOf?] using fit⟩
    exact keeps.trans ((returned answer).keepsTo ran)

end Scaffold.Run
