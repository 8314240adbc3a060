import Scaffold.Proofs.Manifest
import Scaffold.Proofs.Session.Reading

/-! # Why steps fail

Each step fails for causes of some kinds only, whatever session it starts in. What is told of the network, of the user
and of the files never rejects flags and never refuses a directory: only what is checked before anything is acquired
does.
-/

namespace Scaffold

/-- Causes that come up late, when the flags and the directory have been accepted. -/
def Cause.Late (cause : Cause) : Prop :=
  match cause.category with
  | .validation | .precondition => False
  | _ => True

theorem Cause.Late.category {cause : Cause} (late : cause.Late) :
    cause.category ≠ .validation ∧ cause.category ≠ .precondition := by
  unfold Late at late
  constructor <;> intro same <;> rw [same] at late <;> exact late

namespace Run

variable {σ ε ε' α β : Type} {fit : ε → Prop} {step : Run σ ε α} {next : α → Run σ ε β}

/-- All errors of a step are of some kind. -/
def FailsWith (fit : ε → Prop) (step : Run σ ε α) : Prop :=
  ∀ session error after, step.apply session = (.error error, after) → fit error

theorem failsWith_of_ok (returns : ∀ session, ∃ value after, step.apply session = (.ok value, after)) :
    step.FailsWith fit := by
  intro session error after failed
  obtain ⟨value, other, returned⟩ := returns session
  rw [returned] at failed
  cases failed

theorem failsWith_pure (value : α) : (pure value : Run σ ε α).FailsWith fit :=
  failsWith_of_ok fun session => ⟨value, session, rfl⟩

theorem failsWith_throw {error : ε} (fits : fit error) : (throw error : Run σ ε α).FailsWith fit := by
  rintro session _ after ⟨⟩
  exact fits

theorem failsWith_get : (get : Run σ ε (Session σ)).FailsWith fit :=
  failsWith_of_ok fun session => ⟨session, session, rfl⟩

theorem failsWith_update (change : Session σ → Session σ) : (update change : Run σ ε Unit).FailsWith fit :=
  failsWith_of_ok fun session => ⟨(), change session, rfl⟩

theorem failsWith_note (event : Event) : (note event : Run σ ε Unit).FailsWith fit := failsWith_update _

theorem failsWith_attempt (step : Run σ ε' α) : (attempt step : Run σ ε (Except ε' α)).FailsWith fit :=
  failsWith_of_ok fun session => ⟨_, _, apply_attempt step session⟩

/-- A step that goes on with how another one came out. -/
theorem failsWith_bind_attempt {told : ε' → Prop} {step : Run σ ε' α} {next : Except ε' α → Run σ ε β}
    (first : step.FailsWith told) (failed : ∀ error, told error → (next (.error error)).FailsWith fit)
    (returned : ∀ value, (next (.ok value)).FailsWith fit) : (attempt step >>= next).FailsWith fit := by
  intro session error after ran
  rw [apply_bind_of_ok (apply_attempt _ _)] at ran
  rcases came : step.apply session with ⟨cause | value, middle⟩
  · rw [came] at ran
    exact failed cause (first _ _ _ came) _ _ _ ran
  · rw [came] at ran
    exact returned value _ _ _ ran

theorem failsWith_ofExcept {result : Except ε α} (fits : ∀ error, result = .error error → fit error) :
    (ofExcept result : Run σ ε α).FailsWith fit :=
  fun _ error _ failed => fits error (Prod.mk.inj failed).1

theorem failsWith_mapError {restate : ε' → ε} {step : Run σ ε' α} (fits : ∀ error, fit (restate error)) :
    (step.mapError restate).FailsWith fit := by
  intro session error after failed
  obtain ⟨cause, _, rfl⟩ := mapError_eq_error.mp failed
  exact fits cause

theorem FailsWith.mapError {told : ε' → Prop} {restate : ε' → ε} {step : Run σ ε' α} (fails : step.FailsWith told)
    (fits : ∀ error, told error → fit (restate error)) : (step.mapError restate).FailsWith fit := by
  intro session error after failed
  obtain ⟨cause, stopped, rfl⟩ := mapError_eq_error.mp failed
  exact fits cause (fails _ _ _ stopped)

theorem failsWith_bind (first : step.FailsWith fit) (rest : ∀ value, (next value).FailsWith fit) :
    (step >>= next).FailsWith fit := by
  intro session error after failed
  rcases bind_eq_error failed with failed | ⟨value, middle, _, failed⟩
  · exact first _ _ _ failed
  · exact rest value _ _ _ failed

theorem failsWith_mapM {items : List α} {step : α → Run σ ε β} (fails : ∀ item, (step item).FailsWith fit) :
    (items.mapM step).FailsWith fit := by
  induction items with
  | nil => exact failsWith_pure _
  | cons item rest ih =>
    rw [List.mapM_cons]
    exact failsWith_bind (fails item) fun _ => failsWith_bind ih fun _ => failsWith_pure _

/-! ## The network -/

/-- A step that rejects no flags and refuses no directory. -/
abbrev FailsLate (step : Run σ Cause α) : Prop := step.FailsWith Cause.Late

theorem checkCancelled_failsWith {fit : Cause → Prop} (cancelled : fit .cancelled) :
    (checkCancelled : Run σ Cause Unit).FailsWith fit :=
  fun session error after failed => by
    obtain ⟨told, _⟩ := Prod.mk.inj failed
    split at told
    · cases told
      exact cancelled
    · cases told

theorem checkCancelled_failsLate : (checkCancelled : Run σ Cause Unit).FailsLate := checkCancelled_failsWith trivial

theorem hang_failsWith {fit : Cause → Prop} (cancelled : fit .cancelled) : (hang : Run σ Cause α).FailsWith fit := by
  rintro session _ after ⟨⟩
  exact cancelled

theorem failsWith_awaited (fails : step.FailsWith fit) : (awaited step).FailsWith fit := by
  intro session error after failed
  rw [apply_awaited] at failed
  exact fails session error _ (Prod.ext (Prod.mk.inj failed).1 rfl)

/-- What is told of a clone that fails without being cancelled: the repository cannot be cloned, there is no directory
for it, the task breaks down, or the revision cannot be checked out. -/
def CloneFails (url : String) (revision? : Option String) (told : String) : Prop :=
  told = "failed to clone repository '" ++ url ++ "': " ++ undisclosed ∨
    (∃ reason, told = "failed to create temporary directory: " ++ reason) ∨
    (∃ reason, told = "clone task failed: " ++ reason) ∨
    ∃ reason, told = "failed to checkout revision '" ++ revision?.getD "HEAD" ++ "': " ++ reason

section

variable {fit : Cause → Prop} {fail : String → Cause} {url : String} {revision? : Option String}
  (cancelled : fit .cancelled) (refused : ∀ reason, CloneFails url revision? reason → fit (fail reason))
include cancelled refused

theorem cloneInto_failsWith : (cloneInto url revision? fail : Run σ Cause ClonedTree).FailsWith fit := by
  refine failsWith_bind failsWith_get fun _ => ?_
  split
  · exact failsWith_throw (refused _ (.inl rfl))
  · refine failsWith_bind (failsWith_note _) fun _ => ?_
    split
    · exact hang_failsWith cancelled
    · refine failsWith_bind failsWith_get fun session => failsWith_ofExcept fun cause failed => ?_
      unfold checkedOut at failed
      split at failed <;> cases failed
      · exact refused _ (.inr (.inr (.inl ⟨_, rfl⟩)))
      · exact refused _ (.inl rfl)
      · exact refused _ (.inr (.inr (.inr ⟨_, rfl⟩)))

/-- A clone is cancelled, or fails as it was told to. -/
theorem clone_failsWith : (clone url revision? fail : Run σ Cause ClonedTree).FailsWith fit := by
  refine failsWith_bind failsWith_get fun _ => ?_
  split
  · exact failsWith_throw (refused _ (.inr (.inl ⟨_, rfl⟩)))
  · refine failsWith_bind (failsWith_note _) fun _ => failsWith_bind failsWith_get fun _ =>
      failsWith_bind failsWith_get fun _ => ?_
    split
    · exact failsWith_throw cancelled
    · exact failsWith_awaited (cloneInto_failsWith cancelled refused)

end

/-! ## The user -/

theorem notice_failsWith (message : String) : (notice message : Run σ ε Unit).FailsWith fit := failsWith_note _

theorem answerWith_failsLate (part : ScriptedAnswer → Option α) (answer : ScriptedAnswer) :
    (answerWith part answer : Run σ Cause (Option α)).FailsLate := by
  unfold answerWith
  cases answer.failure with
  | some reason =>
    dsimp only
    split
    · exact failsWith_bind (failsWith_update _) fun _ => failsWith_throw trivial
    · exact failsWith_throw trivial
  | none =>
    dsimp only
    split
    · exact failsWith_bind (failsWith_update _) fun _ => failsWith_pure _
    · exact failsWith_pure _

theorem put_failsLate (question : Question) (part : ScriptedAnswer → Option α) :
    (put question part : Run σ Cause (Option α)).FailsLate := by
  refine failsWith_bind (failsWith_note _) fun _ => failsWith_bind failsWith_get fun _ => ?_
  split
  · exact failsWith_throw trivial
  · exact failsWith_throw trivial
  · exact failsWith_throw trivial
  · exact failsWith_bind (failsWith_update _) fun _ => answerWith_failsLate _ _

theorem answered_failsLate (answer? : Option α) : (answered answer? : Run σ Cause α).FailsLate := by
  cases answer? with
  | none => exact failsWith_throw trivial
  | some value => exact failsWith_pure _

theorem select_failsLate (prompt : String) (items : List String) :
    (select prompt items : Run σ Cause (Fin items.length)).FailsLate := by
  refine failsWith_bind checkCancelled_failsLate fun _ => failsWith_bind (put_failsLate _ _) fun _ =>
    failsWith_bind (answered_failsLate _) fun choice => ?_
  split
  · exact failsWith_bind checkCancelled_failsLate fun _ => failsWith_pure _
  · exact failsWith_throw trivial

theorem input_failsLate (prompt offered : String) : (input prompt offered : Run σ Cause String).FailsLate :=
  failsWith_bind checkCancelled_failsLate fun _ => failsWith_bind (put_failsLate _ _) fun _ =>
    failsWith_bind (answered_failsLate _) fun _ => failsWith_bind checkCancelled_failsLate fun _ => failsWith_pure _

/-! ## Pages and files -/

section

variable [Storage σ]

/-- A fetch is cancelled, or its page cannot be had. -/
theorem fetch_failsWith {fit : Cause → Prop} {url : String} (cancelled : fit .cancelled)
    (refused : ∀ reason, fit (.fetchFailed url reason)) : (fetch url : Run σ Cause ByteArray).FailsWith fit := by
  refine failsWith_bind (checkCancelled_failsWith cancelled) fun _ => failsWith_bind (failsWith_note _) fun _ =>
    failsWith_awaited ?_
  split
  · exact failsWith_throw (refused _)
  · intro session error after failed
    cases exchange_cases failed with
    | failed _ reason _ => exact refused reason
    | cancelled _ _ _ => exact cancelled

theorem fetch_failsLate (url : String) : (fetch url : Run σ Cause ByteArray).FailsLate :=
  fetch_failsWith trivial fun _ => trivial

theorem isFile_failsWith (path : Path) : (isFile path : Run σ ε Bool).FailsWith fit := by
  refine failsWith_bind (failsWith_attempt _) fun answer => ?_
  split
  · exact failsWith_pure _
  · exact failsWith_pure _

/-- A devfile path is refused if there is no such file. -/
theorem checkDevfilePath_failsWith {fit : Cause → Prop} {flags : Flags} {directory : Path}
    (refused : ∀ path, fit (.devfilePathNotFound path)) :
    (checkDevfilePath flags directory : Run σ Cause Unit).FailsWith fit := by
  unfold checkDevfilePath
  split
  · exact failsWith_pure _
  · split
    · exact failsWith_pure _
    · refine failsWith_bind (isFile_failsWith _) fun found => ?_
      split
      · exact failsWith_pure _
      · exact failsWith_throw (refused _)

omit [Storage σ] in
theorem during_failsLate (action : String) (path : Path) (step : Run σ IoError α) :
    (during action path step).FailsLate :=
  failsWith_mapError fun _ => trivial

theorem lookAt_failsLate (path : Path) (name : String) (isTop : Bool) :
    (lookAt path name isTop : Run σ Cause SourceFile).FailsLate := by
  unfold lookAt
  split
  · refine failsWith_bind (failsWith_attempt _) fun answer => ?_
    split
    · exact failsWith_pure _
    · exact failsWith_pure _
  · exact failsWith_pure _

theorem sourceFiles_failsLate (isTop : Bool) (directory : Path) (levels : Nat) :
    (sourceFiles isTop directory levels : Run σ Cause (List SourceFile)).FailsLate := by
  induction levels generalizing isTop directory with
  | zero => exact failsWith_pure _
  | succ levels ih =>
    refine failsWith_bind (during_failsLate _ _ _) fun entries =>
      failsWith_bind (failsWith_mapM fun entry => ?_) fun _ => failsWith_pure _
    dsimp only
    split
    · exact failsWith_bind (lookAt_failsLate _ _ _) fun _ => failsWith_pure _
    · split
      · exact failsWith_pure _
      · exact ih _ _
    · exact failsWith_pure _

theorem scan_failsLate (directory : Path) : (scan directory : Run σ Cause Signals).FailsLate :=
  failsWith_bind (sourceFiles_failsLate _ _ _) fun _ => failsWith_pure _

end

end Run

/-! ## Manifests -/

namespace Manifest

variable {σ : Type} [Storage σ]

theorem ofContents_failsLate {contents : ByteArray} {origin : String} {path : Path} {cause : Cause}
    (refused : ofContents contents origin path = .error cause) : cause.Late := by
  obtain ⟨_, rfl⟩ := ofContents_eq_error refused
  trivial

theorem stage_failsLate (directory : Path) (contents : ByteArray) (origin : String) :
    (stage directory contents origin : Run σ Cause Manifest).FailsLate :=
  Run.failsWith_bind (Run.failsWith_ofExcept fun _ => ofContents_failsLate) fun _ =>
    Run.failsWith_bind (Run.during_failsLate _ _ _) fun _ => Run.failsWith_pure _

theorem read_failsLate (path : Path) : (read path : Run σ Cause Manifest).FailsLate :=
  Run.failsWith_bind (Run.during_failsLate _ _ _) fun _ => Run.failsWith_ofExcept fun _ => ofContents_failsLate

end Manifest

end Scaffold
