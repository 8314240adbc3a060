import Scaffold.Proofs.Session.Cancelling

/-! # Heeding cancellation

A step heeds cancellation if it yields to it and idles once it came. What waits for the network heeds it, and so does what
waits for the user. A sequence heeds cancellation if its steps do, and a check in front of a step keeps it from starting
at all.
-/

namespace Scaffold

variable {σ : Type} [Storage σ]

namespace Run

variable {α β : Type} {step : Run σ Cause α} {next : α → Run σ Cause β} {tie : Tie}

/-- Where an answer is waited for in vain the cause is the cancellation. -/
def Breaks (pending : Event) (cause : Cause) : Prop := pending.Waits → cause = .cancelled

/-- Where the network is waited for in vain the cause is the cancellation, and where the run was tied it is one that
tells of the network. -/
def CutShort (pending : Event) (cause : Cause) : Prop :=
  (pending.OnNetwork → cause = .cancelled) ∧ (pending = .tied → cause.OfNetwork)

theorem Breaks.cutShort (pending : Event) (cause : Cause) (breaks : Breaks pending cause) (network : cause.OfNetwork) :
    CutShort pending cause :=
  ⟨fun waits => breaks waits.waits, fun _ => network⟩

theorem cutShort_tied {cause : Cause} (network : cause.OfNetwork) : CutShort .tied cause := ⟨False.elim, fun _ => network⟩

/-- A step that heeds cancellation, whether it strikes the step or came before it. -/
structure Heeds (tie : Tie) (step : Run σ Cause α) : Prop where
  yields : step.Yields CutShort tie
  idles : step.Idles

theorem Only.heeds (only : step.Only Event.Idle) : step.Heeds tie := ⟨only.yields fun _ idle => idle.onward, only.idles⟩

theorem heeds_pure (value : α) : (pure value : Run σ Cause α).Heeds tie := (only_pure value).heeds

theorem heeds_throw (cause : Cause) : (throw cause : Run σ Cause α).Heeds tie := (only_throw cause).heeds

theorem heeds_checkCancelled : (checkCancelled : Run σ Cause Unit).Heeds tie := only_checkCancelled.heeds

theorem heeds_bind (first : step.Heeds .stops) (rest : ∀ value, (next value).Heeds tie) : (step >>= next).Heeds tie :=
  ⟨yields_bind first.yields fun value => (rest value).yields, idles_bind first.idles fun value => (rest value).idles⟩

theorem heeds_bind_passing (first : step.Heeds .passes) (rest : ∀ value, (next value).Heeds tie)
    (folds : ∀ value, (next value).Folds Cause.OfNetwork tie) : (step >>= next).Heeds tie where
  yields := yields_bind_passing first.yields (fun value => (rest value).yields) (fun value => (rest value).idles)
    fun value => (folds value).weaken fun _ => cutShort_tied
  idles := idles_bind first.idles fun value => (rest value).idles

/-- What comes after a check never begins in a cancelled session. -/
theorem heeds_guard {next : Unit → Run σ Cause β} (yields : (next ()).Yields CutShort tie) :
    (checkCancelled >>= next).Heeds tie :=
  ⟨yields_bind heeds_checkCancelled.yields fun _ => yields,
    Halts.idles (halts_bind (halts_checkCancelled trivial) : (checkCancelled >>= next).Halts fun _ => True)⟩

/-- Going on after an attempt heeds cancellation if the attempt tells of it and this is passed on. -/
theorem heeds_bind_attempt {next : Except Cause α → Run σ Cause β} (yields : step.Yields Breaks .passes)
    (idles : step.Idles) (passes : next (.error .cancelled) = throw .cancelled)
    (rest : ∀ {session after answer}, step.apply session = (answer, after) →
      (next answer).Heeds tie ∧ (next answer).Folds Cause.OfNetwork tie) :
    (attempt step >>= next).Heeds tie := by
  refine ⟨?_, ?_⟩
  · intro session after outcome free ran
    rw [apply_bind_of_ok (apply_attempt _ _)] at ran
    rcases came : step.apply session with ⟨answer, middle⟩
    rw [came] at ran
    obtain ⟨heeds, folds⟩ := rest came
    have ended (tied : session.Tied middle) : Yielded CutShort tie session after outcome :=
      (folds.weaken fun _ => cutShort_tied).yielded heeds.idles tied ran
    cases yields free came with
    | onward _ keeps => exact (heeds.yields (keeps.free free) ran).after keeps
    | struck error struck =>
      cases struck with
      | waiting opening pending spans onward waits breaks =>
        obtain rfl : error = .cancelled := breaks waits
        dsimp only at ran
        rw [passes] at ran
        obtain ⟨rfl, rfl⟩ := Prod.mk.inj ran
        exact .struck _ (.waiting opening pending spans onward waits ⟨fun _ => rfl, fun _ => trivial⟩)
      | tied tied _ => exact ended tied
    | tied _ _ tied => exact ended tied
  · intro session after outcome cancelled ran
    rw [apply_bind_of_ok (apply_attempt _ _)] at ran
    rcases came : step.apply session with ⟨answer, middle⟩
    rw [came] at ran
    have keeps := idles cancelled came
    exact keeps.trans ((rest came).1.idles (keeps.isCancelled cancelled) ran)

/-! ## Waiting for the network -/

theorem exchange_yields (count : Nat) (url : Url) (fail : String → Cause) :
    (exchange count url fail : Run σ Cause ByteArray).Yields Breaks tie := by
  intro session after outcome free ran
  have requests : ∀ addresses : List String, ∀ event ∈ addresses.map Event.request, event.Onward := by
    intro addresses event member
    obtain ⟨_, _, rfl⟩ := List.mem_map.mp member
    rfl
  cases exchange_cases ran with
  | answered addresses body leads => exact .onward _ ⟨_, leads.toSpans, requests addresses⟩
  | failed addresses reason leads => exact .onward _ ⟨_, leads.toSpans, requests addresses⟩
  | cancelled addresses address leads =>
    exact .struck _ (.waiting _ _ leads.toSpans (requests addresses) trivial fun _ => rfl)

theorem fetch_yields (url : String) : (fetch url : Run σ Cause ByteArray).Yields Breaks .passes := by
  refine yields_bind (only_checkCancelled.yields fun _ => Event.Idle.onward) fun _ =>
    yields_bind (yields_note rfl rfl) fun _ => yields_awaited ?_ fun _ => False.elim
  split
  · exact yields_throw _
  · exact exchange_yields _ _ _

theorem fetch_ofNetwork (url : String) : (fetch url : Run σ Cause ByteArray).FailsWith Cause.OfNetwork :=
  fetch_failsWith trivial fun _ => trivial

theorem fetch_heeds (url : String) : (fetch url : Run σ Cause ByteArray).Heeds .passes where
  yields := (fetch_yields url).failing (fetch_ofNetwork url) Breaks.cutShort
  idles := Halts.idles (halts_fetch trivial url : (fetch url).Halts fun _ => True)

theorem cloneInto_yields (url : String) (revision? : Option String) (fail : String → Cause) :
    (cloneInto url revision? fail : Run σ Cause ClonedTree).Yields Breaks tie := by
  refine yields_bind (only_get.yields fun _ => Event.Idle.onward) fun _ => ?_
  split
  · exact yields_throw _
  · split
    · -- The repository was reached, and never answers.
      intro session after outcome free ran
      cases ran
      have reached : session.Leads [.reached url] (session.note (.reached url)) :=
        Session.leads_event rfl rfl rfl rfl (Bool.or_false _).symm rfl
      exact .struck _ (.waiting [] (.reached url) (reached.append (Session.leads_cancel _)).toSpans nofun trivial
        fun _ => rfl)
    · exact yields_bind (yields_note rfl rfl) fun _ =>
        yields_bind (only_get.yields fun _ => Event.Idle.onward) fun _ =>
          (only_ofExcept _).yields fun _ => Event.Idle.onward

theorem clone_yields (url : String) (revision? : Option String) (fail : String → Cause) :
    (clone url revision? fail : Run σ Cause ClonedTree).Yields Breaks .passes := by
  have gets : (get : Run σ Cause (Session σ)).Yields Breaks .stops := only_get.yields fun _ => Event.Idle.onward
  refine yields_bind gets fun _ => ?_
  split
  · exact yields_throw _
  · refine yields_bind (yields_note rfl rfl) fun _ => yields_bind gets fun _ => yields_bind gets fun _ => ?_
    split
    · exact yields_throw _
    · exact yields_awaited (cloneInto_yields _ _ _) fun _ => False.elim

/-! ## Waiting for the user -/

omit [Storage σ] in
/-- Whatever an answer says, it cancels the run or does nothing. -/
theorem answerWith_leaves {part : ScriptedAnswer → Option α} {answer : ScriptedAnswer} {session after : Session σ}
    {outcome : Except Cause (Option α)} (ran : (answerWith part answer).apply session = (outcome, after)) :
    after = if answer.cancels = true then session.cancel else session := by
  unfold answerWith at ran
  dsimp only at ran
  split at ran
  · rename_i cancels
    rw [apply_bind_of_ok (apply_update _ _)] at ran
    rw [if_pos cancels]
    split at ran <;> exact (Prod.mk.inj ran).2.symm
  · rename_i free
    rw [if_neg free]
    split at ran <;> exact (Prod.mk.inj ran).2.symm

/-- A question is put, and may be answered by cancelling the run. -/
theorem put_cases {question : Question} {part : ScriptedAnswer → Option α} {session after : Session σ}
    {outcome : Except Cause (Option α)} (ran : (put question part).apply session = (outcome, after)) :
    session.Leads [.question question] after ∨ session.Leads [.question question, .cancelled] after := by
  have asked : ∀ prompter, session.Leads [.question question] { session.note (.question question) with prompter } :=
    fun _ => Session.leads_event rfl rfl rfl rfl (Bool.or_false _).symm rfl
  unfold put at ran
  rw [apply_bind_of_ok (apply_note _ _), apply_bind_of_ok (apply_get _)] at ran
  split at ran
  · exact .inl ((Prod.mk.inj ran).2 ▸ asked _)
  · exact .inl ((Prod.mk.inj ran).2 ▸ asked _)
  · exact .inl ((Prod.mk.inj ran).2 ▸ asked _)
  · rw [apply_bind_of_ok (apply_update _ _)] at ran
    rw [answerWith_leaves ran]
    split
    · exact .inr ((asked _).append (Session.leads_cancel _))
    · exact .inl (asked _)

/-- Asking heeds cancellation if what follows the answer does, and fails at once when the answer cancelled the run. -/
theorem heeds_ask {question : Question} {part : ScriptedAnswer → Option α} {next : α → Run σ Cause β}
    (halts : ∀ value, (next value).Halts fun _ => True) (rest : ∀ value, (next value).Heeds tie) :
    (checkCancelled >>= fun _ => put question part >>= fun answer? => answered answer? >>= next).Heeds tie := by
  refine heeds_guard ?_
  intro session after outcome free ran
  have struck : ∀ {cause : Cause} {middle : Session σ}, session.Leads [.question question, .cancelled] middle →
      session.Struck (CutShort · cause) middle :=
    fun leads => .waiting [] (.question question) leads.toSpans nofun trivial ⟨False.elim, nofun⟩
  have asked : ∀ {middle : Session σ}, session.Leads [.question question] middle → session.KeepsTo Event.Onward middle :=
    fun leads => ⟨_, leads.toSpans, List.forall_mem_singleton.mpr rfl⟩
  rcases bind_cases ran with ⟨cause, rfl, failed⟩ | ⟨answer?, middle, returned, onward⟩
  · rcases put_cases failed with leads | leads
    · exact .onward _ (asked leads)
    · exact .struck cause (struck leads)
  -- Whether the question was answered or aborted, nothing more has happened by then.
  rcases bind_cases onward with ⟨cause, rfl, failed⟩ | ⟨value, other, told, last⟩
  · obtain rfl : after = middle := by
      cases answer? <;> exact (Prod.mk.inj failed).2.symm
    rcases put_cases returned with leads | leads
    · exact .onward _ (asked leads)
    · exact .struck cause (struck leads)
  · obtain rfl : other = middle := by
      cases answer? <;> exact (Prod.mk.inj told).2.symm
    rcases put_cases returned with leads | leads
    · have keeps := asked leads
      exact ((rest value).yields (keeps.free free) last).after keeps
    · have cancelled : other.isCancelled = true := leads.isCancelled_of_mem (by simp) (rfl : Event.cancelled.cancels = true)
      obtain ⟨cause, _, halted⟩ := halts value cancelled
      rw [halted] at last
      obtain ⟨rfl, rfl⟩ := Prod.mk.inj last
      exact .struck cause (struck leads)

omit [Storage σ] in
theorem halts_select {told : Cause → Prop} (fit : told .cancelled) (prompt : String) (items : List String) :
    (select prompt items : Run σ Cause (Fin items.length)).Halts told :=
  halts_bind (halts_checkCancelled fit)

theorem select_heeds (prompt : String) (items : List String) :
    (select prompt items : Run σ Cause (Fin items.length)).Heeds tie := by
  refine heeds_ask (fun choice => ?_) fun choice => ?_
  · split
    · exact halts_bind (halts_checkCancelled trivial)
    · exact halts_throw trivial
  · split
    · exact heeds_bind heeds_checkCancelled fun _ => heeds_pure _
    · exact heeds_throw _

theorem input_heeds (prompt offered : String) : (input prompt offered : Run σ Cause String).Heeds tie :=
  heeds_ask (fun _ => halts_bind (halts_checkCancelled trivial)) fun _ =>
    heeds_bind heeds_checkCancelled fun _ => heeds_pure _

end Run

end Scaffold
