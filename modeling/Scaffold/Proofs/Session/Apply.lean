import Scaffold.Session.Files

/-! # What steps return and leave

A step is a function of the session it starts in. The lemmas here tell what each way to put steps together
returns and which session it leaves, so that a run can be taken apart into the steps it is made of without
opening the monad. A sequence either ends with its first step or goes on from the session that this step left.
-/

namespace Scaffold

/-- Outcomes can be compared. -/
instance decidableEqOutcome {ε α : Type} [DecidableEq ε] [DecidableEq α] : DecidableEq (Except ε α)
  | .ok left, .ok right => decidable_of_iff (left = right) (by simp)
  | .error left, .error right => decidable_of_iff (left = right) (by simp)
  | .ok _, .error _ => isFalse (by simp)
  | .error _, .ok _ => isFalse (by simp)

namespace Run

variable {σ ε ε' α β : Type} {step : Run σ ε α} {next : α → Run σ ε β} {session after : Session σ}

@[simp] theorem apply_pure (value : α) (session : Session σ) :
    (pure value : Run σ ε α).apply session = (.ok value, session) := rfl

@[simp] theorem apply_throw (error : ε) (session : Session σ) :
    (throw error : Run σ ε α).apply session = (.error error, session) := rfl

theorem apply_bind (step : Run σ ε α) (next : α → Run σ ε β) (session : Session σ) :
    (step >>= next).apply session =
      match step.apply session with
      | (.ok value, session) => (next value).apply session
      | (.error error, session) => (.error error, session) := by
  simp only [apply, ExceptT.run_bind, StateT.run_bind]
  rcases StateT.run (ExceptT.run step) session with ⟨_ | _, _⟩ <;> rfl

/-- A sequence that goes on does so with the value and the session of its first step. -/
theorem apply_bind_of_ok {value : α} {middle : Session σ} (first : step.apply session = (.ok value, middle)) :
    (step >>= next).apply session = (next value).apply middle := by
  rw [apply_bind, first]

theorem apply_bind_of_error {error : ε} (first : step.apply session = (.error error, after)) :
    (step >>= next).apply session = (.error error, after) := by
  rw [apply_bind, first]

/-- A sequence fails with its first step or goes on after it. -/
theorem bind_cases {outcome : Except ε β} (ran : (step >>= next).apply session = (outcome, after)) :
    (∃ error, outcome = .error error ∧ step.apply session = (.error error, after)) ∨
      ∃ value middle, step.apply session = (.ok value, middle) ∧
        (next value).apply middle = (outcome, after) := by
  rw [apply_bind] at ran
  rcases first : step.apply session with ⟨error | value, middle⟩
  · simp only [first, Prod.mk.injEq] at ran
    obtain ⟨rfl, rfl⟩ := ran
    exact .inl ⟨error, rfl, rfl⟩
  · simp only [first] at ran
    exact .inr ⟨value, middle, rfl, ran⟩

theorem bind_eq_ok {result : β} (ran : (step >>= next).apply session = (.ok result, after)) :
    ∃ value middle, step.apply session = (.ok value, middle) ∧
      (next value).apply middle = (.ok result, after) := by
  rcases bind_cases ran with ⟨_, impossible, _⟩ | returned
  · cases impossible
  · exact returned

theorem bind_eq_error {error : ε} (ran : (step >>= next).apply session = (.error error, after)) :
    step.apply session = (.error error, after) ∨
      ∃ value middle, step.apply session = (.ok value, middle) ∧
        (next value).apply middle = (.error error, after) := by
  rcases bind_cases ran with ⟨other, same, failed⟩ | returned
  · cases same
    exact .inl failed
  · exact .inr returned

@[simp] theorem apply_attempt (step : Run σ ε α) (session : Session σ) :
    (attempt step : Run σ ε' (Except ε α)).apply session =
      (.ok (step.apply session).1, (step.apply session).2) := rfl

@[simp] theorem apply_mapError (restate : ε → ε') (step : Run σ ε α) (session : Session σ) :
    (mapError restate step).apply session =
      ((step.apply session).1.mapError restate, (step.apply session).2) := rfl

theorem mapError_eq_ok {restate : ε → ε'} {value : α} :
    (mapError restate step).apply session = (.ok value, after) ↔
      step.apply session = (.ok value, after) := by
  rw [apply_mapError]
  rcases step.apply session with ⟨_ | _, _⟩
  · constructor <;> intro impossible <;> cases impossible
  · constructor <;> intro returned <;> cases returned <;> rfl

theorem mapError_eq_error {restate : ε → ε'} {error : ε'} :
    (mapError restate step).apply session = (.error error, after) ↔
      ∃ cause, step.apply session = (.error cause, after) ∧ restate cause = error := by
  rw [apply_mapError]
  rcases step.apply session with ⟨cause | _, middle⟩
  · constructor
    · intro failed
      obtain ⟨same, rfl⟩ := Prod.mk.inj failed
      exact ⟨cause, rfl, Except.error.inj same⟩
    · rintro ⟨other, failed, rfl⟩
      obtain ⟨same, rfl⟩ := Prod.mk.inj failed
      cases same
      rfl
  · constructor
    · intro impossible
      cases impossible
    · rintro ⟨_, impossible, _⟩
      cases impossible

/-- A check for cancellation passes as long as the run was not cancelled, and changes nothing. -/
theorem checkCancelled_eq_ok (passed : checkCancelled.apply session = (.ok (), after)) :
    session.isCancelled = false ∧ after = session := by
  obtain ⟨told, rfl⟩ := Prod.mk.inj passed
  refine ⟨?_, rfl⟩
  split at told
  · cases told
  · rwa [Bool.not_eq_true] at *

theorem apply_checkCancelled_of_free (free : session.isCancelled = false) :
    checkCancelled.apply session = (.ok (), session) :=
  Prod.ext (if_neg (by simp [free])) rfl

theorem apply_checkCancelled_of_cancelled (cancelled : session.isCancelled = true) :
    checkCancelled.apply session = (.error .cancelled, session) :=
  Prod.ext (if_pos cancelled) rfl

theorem apply_get (session : Session σ) : (get : Run σ ε (Session σ)).apply session = (.ok session, session) := rfl

theorem apply_update (change : Session σ → Session σ) (session : Session σ) :
    (update change : Run σ ε Unit).apply session = (.ok (), change session) := rfl

theorem apply_note (event : Event) (session : Session σ) :
    (note event : Run σ ε Unit).apply session = (.ok (), session.note event) := rfl

@[simp] theorem apply_record (key : TelemetryKey) (value : Json) (session : Session σ) :
    (record key value : Run σ ε Unit).apply session =
      (.ok (), { session with telemetry := session.telemetry.record key value }) := rfl

/-- A call to the store answers as the store does, and is logged. -/
theorem apply_call [Storage σ] (file : FileCall) (session : Session σ) :
    (call file).apply session =
      ((Storage.perform file session.files).1,
        { session with
          files := (Storage.perform file session.files).2
          isCancelled := session.isCancelled || Session.strikes session.cancelsAfter? 1
          cancelsAfter? := Session.remaining session.cancelsAfter? 1
          log := .files file (errorOf? (Storage.perform file session.files).1) :: session.log }) := rfl

/-- The end of what was waited for changes nothing in a cancelled session. -/
theorem concluded_of_cancelled (cancelled : session.isCancelled = true) : session.concluded = session := if_pos cancelled

theorem concluded_of_prevails (free : session.isCancelled = false) (prevails : session.prevails = true) :
    session.concluded = { session with isCancelled := true, tiesAfter? := none, log := .tied :: session.log } := by
  rw [Session.concluded, if_neg (by simp [free]), if_pos prevails]

theorem concluded_of_not_prevails (free : session.isCancelled = false) (other : session.prevails = false) :
    session.concluded = { session with tiesAfter? := session.tiesAfter?.map (· - 1) } := by
  rw [Session.concluded, if_neg (by simp [free]), if_neg (by simp [other])]

/-- What takes time leaves the session concluded. -/
theorem apply_awaited (step : Run σ ε α) (session : Session σ) :
    (awaited step).apply session = ((step.apply session).1, (step.apply session).2.concluded) := rfl

end Run

end Scaffold
