import Scaffold.Backend
import Scaffold.Flags.Validate
import Scaffold.Proofs.Session.Advance
import Scaffold.Session.Clone

/-! # Steps that only read

Asking the network, asking the user and looking at files change no file. One lemma for each such step says so;
all that a run does before it stages a devfile is a sequence of these.
-/

namespace Scaffold

variable {σ : Type} [Storage σ]

namespace Run

variable {ε : Type}

/-! ## The network -/

/-- What an exchange comes to: requests go out one after another until one of them brings an answer or a failure, or
the run is cancelled while the last one is pending. -/
inductive Exchanges (fail : String → Cause) (session after : Session σ) : Except Cause ByteArray → Prop
  | answered (addresses : List String) (body : ByteArray) (leads : session.Leads (addresses.map .request) after) :
      Exchanges fail session after (.ok body)
  | failed (addresses : List String) (reason : String) (leads : session.Leads (addresses.map .request) after) :
      Exchanges fail session after (.error (fail reason))
  | cancelled (addresses : List String) (address : String)
      (leads : session.Leads (addresses.map .request ++ [.request address, .cancelled]) after) :
      Exchanges fail session after (.error .cancelled)

section

variable {fail : String → Cause} {session middle after : Session σ} {outcome : Except Cause ByteArray} {address : String}

/-- An exchange that begins with one request more. -/
theorem Exchanges.request (sent : session.Leads [.request address] middle) (exchanges : Exchanges fail middle after outcome) :
    Exchanges fail session after outcome := by
  cases exchanges with
  | answered addresses body leads => exact .answered (address :: addresses) body (sent.append leads)
  | failed addresses reason leads => exact .failed (address :: addresses) reason (sent.append leads)
  | cancelled addresses last leads => exact .cancelled (address :: addresses) last (sent.append leads)

theorem leads_reply (address : String) (session : Session σ) :
    session.Leads [.request address] ((reply address : Run σ Cause Reply).apply session).2 :=
  Session.leads_event rfl rfl rfl rfl (Bool.or_false _).symm rfl

private theorem exchanges_step {count : Nat} {url : Url}
    (onward : ∀ {fewer next session}, count = fewer + 1 → (exchange fewer next fail).apply session = (outcome, after) →
      Exchanges fail session after outcome)
    (ran : (exchange count url fail).apply session = (outcome, after)) : Exchanges fail session after outcome := by
  have fails : ∀ {session : Session σ} {reason : String},
      (throw (fail reason) : Run σ Cause ByteArray).apply session = (outcome, after) →
        Exchanges fail session after outcome := by
    rintro session reason ⟨⟩
    exact .failed [] reason (.refl _)
  unfold exchange at ran
  rcases bind_cases ran with ⟨_, _, impossible⟩ | ⟨_, _, told, ran⟩
  · cases impossible
  cases told
  dsimp only at ran
  split at ran
  · rcases bind_cases ran with ⟨_, rfl, refused⟩ | ⟨_, _, impossible, _⟩
    · cases refused
      exact .failed [] _ (.refl _)
    · cases impossible
  have sent := leads_reply url.text session
  rcases bind_cases ran with ⟨_, _, impossible⟩ | ⟨answer, middle, replied, ran⟩
  · cases impossible
  rw [replied] at sent
  -- The exchange is settled by the answer, unless it is redirected.
  split at ran
  · exact (fails ran).request sent
  · cases ran
    exact .cancelled [] url.text (sent.append middle.leads_cancel)
  · split at ran
    · cases count with
      | zero => exact (fails ran).request sent
      | succ fewer => exact (onward rfl ran).request sent
    · exact (fails ran).request sent
    · split at ran
      · exact (fails ran).request sent
      · split at ran
        · cases ran
          exact .answered [url.text] _ sent
        · exact (fails ran).request sent

theorem exchange_cases {count : Nat} {url : Url} (ran : (exchange count url fail).apply session = (outcome, after)) :
    Exchanges fail session after outcome := by
  induction count generalizing url session with
  | zero => exact exchanges_step (fun impossible => by omega) ran
  | succ count ih =>
    refine exchanges_step (fun {fewer next session} same again => ?_) ran
    obtain rfl : count = fewer := by omega
    exact ih again

end

/-- An exchange sends requests and may be cancelled, and makes nothing else happen. -/
theorem exchange_only {allowed : Event → Prop} (requests : ∀ address, allowed (.request address))
    (cancelled : allowed .cancelled) (count : Nat) (url : Url) (fail : String → Cause) :
    (exchange count url fail : Run σ Cause ByteArray).Only allowed := by
  have sent : ∀ addresses : List String, ∀ event ∈ addresses.map Event.request, allowed event := by
    intro addresses event member
    obtain ⟨address, _, rfl⟩ := List.mem_map.mp member
    exact requests address
  intro session
  rcases ran : (exchange count url fail).apply session with ⟨outcome, after⟩
  cases exchange_cases ran with
  | answered addresses body leads => exact ⟨_, leads, sent addresses⟩
  | failed addresses reason leads => exact ⟨_, leads, sent addresses⟩
  | cancelled addresses address leads =>
    exact ⟨_, leads, List.forall_mem_append.mpr
      ⟨sent addresses, List.forall_mem_cons.mpr ⟨requests address, List.forall_mem_singleton.mpr cancelled⟩⟩⟩

theorem fetch_only {allowed : Event → Prop} {url : String} (fetches : allowed (.fetch url))
    (requests : ∀ address, allowed (.request address)) (cancelled : allowed .cancelled) (ties : allowed .tied) :
    (fetch url : Run σ Cause ByteArray).Only allowed := by
  refine only_bind only_checkCancelled fun _ => only_bind (only_note fetches rfl rfl) fun _ => only_awaited ?_ ties
  split
  · exact only_throw _
  · exact exchange_only requests cancelled _ _ _

theorem fetch_outside (url : String) : (fetch url : Run σ Cause ByteArray).Outside :=
  fetch_only trivial (fun _ => trivial) trivial trivial

theorem cloneInto_only {allowed : Event → Prop} {url : String} (reaches : allowed (.reached url))
    (cancelled : allowed .cancelled) (revision? : Option String) (fail : String → Cause) :
    (cloneInto url revision? fail : Run σ Cause ClonedTree).Only allowed := by
  refine only_bind only_get fun session => ?_
  split
  · exact only_throw _
  · refine only_bind (only_note reaches rfl rfl) fun _ => ?_
    split
    · exact fun session => ⟨_, session.leads_cancel, List.forall_mem_singleton.mpr cancelled⟩
    · exact only_bind only_get fun _ => only_ofExcept _

theorem clone_only {allowed : Event → Prop} {url : String} (clones : allowed (.clone url))
    (reaches : allowed (.reached url)) (cancelled : allowed .cancelled) (ties : allowed .tied) (revision? : Option String)
    (fail : String → Cause) : (clone url revision? fail : Run σ Cause ClonedTree).Only allowed := by
  refine only_bind only_get fun session => ?_
  split
  · exact only_throw _
  · refine only_bind (only_note clones rfl rfl) fun _ => only_bind only_get fun _ => only_bind only_get fun _ => ?_
    split
    · exact only_throw _
    · exact only_awaited (cloneInto_only reaches cancelled _ _) ties

theorem clone_outside (url : String) (revision? : Option String) (fail : String → Cause) :
    (clone url revision? fail : Run σ Cause ClonedTree).Outside :=
  clone_only trivial trivial trivial trivial _ _

end Run

namespace Registry

theorem index_only {allowed : Event → Prop} {registry : Registry} (fetches : allowed (.fetch registry.indexUrl))
    (requests : ∀ address, allowed (.request address)) (cancelled : allowed .cancelled) (ties : allowed .tied) :
    (registry.index : Run σ Cause (List Stack)).Only allowed := by
  refine Run.only_bind (Run.fetch_only fetches requests cancelled ties) fun _ => ?_
  split
  · exact Run.only_pure _
  · exact Run.only_throw _

theorem index_outside (registry : Registry) : (registry.index : Run σ Cause (List Stack)).Outside :=
  index_only trivial (fun _ => trivial) trivial trivial

theorem searchFrom_outside (name : String) (failure? : Option Cause) (registries : List Registry) :
    (searchFrom name failure? registries : Run σ Cause (Option (Registry × Stack))).Outside := by
  induction registries generalizing failure? with
  | nil =>
    cases failure? with
    | none => exact Run.only_pure _
    | some failure => exact Run.only_throw _
  | cons registry rest ih =>
    refine Run.only_bind (Run.only_attempt (index_outside registry)) fun answer => ?_
    split
    · exact Run.only_throw _
    · exact ih _
    · split
      · exact Run.only_pure _
      · exact ih _

theorem locate_outside (registries : List Registry) (name : String) (wanted? : Option String) :
    (locate registries name wanted? : Run σ Cause (Registry × Stack)).Outside := by
  cases wanted? with
  | none =>
    refine Run.only_bind (searchFrom_outside name none registries) fun found? => ?_
    split
    · exact Run.only_pure _
    · exact Run.only_throw _
  | some wanted =>
    unfold locate
    dsimp only
    split
    · exact Run.only_throw _
    · refine Run.only_bind (index_outside _) fun listed => ?_
      split
      · exact Run.only_pure _
      · exact Run.only_throw _

end Registry

namespace Run

variable {ε : Type}

/-! ## The user -/

theorem notice_consults (message : String) : (notice message : Run σ ε Unit).Consults :=
  only_note trivial rfl rfl

theorem answerWith_consults {α : Type} (part : ScriptedAnswer → Option α) (answer : ScriptedAnswer) :
    (answerWith part answer : Run σ Cause (Option α)).Consults := by
  have cancel : (update Session.cancel : Run σ Cause Unit).Consults :=
    fun session => ⟨_, session.leads_cancel, by simp [Event.Consults]⟩
  unfold answerWith
  dsimp only
  split
  · refine only_bind cancel fun _ => ?_
    split
    · exact only_throw _
    · exact only_pure _
  · split
    · exact only_throw _
    · exact only_pure _

theorem put_consults {α : Type} (question : Question) (part : ScriptedAnswer → Option α) :
    (put question part : Run σ Cause (Option α)).Consults := by
  refine only_bind (only_note trivial rfl rfl) fun _ => only_bind only_get fun _ => ?_
  split
  · exact only_throw _
  · exact only_throw _
  · exact only_throw _
  · refine only_bind (fun _ => ⟨[], Session.leads_still rfl rfl rfl rfl rfl, nofun⟩) fun _ => answerWith_consults _ _

theorem answered_consults {α : Type} (answer? : Option α) : (answered answer? : Run σ Cause α).Consults := by
  cases answer? with
  | none => exact only_throw _
  | some value => exact only_pure _

theorem select_consults (prompt : String) (items : List String) :
    (select prompt items : Run σ Cause (Fin items.length)).Consults := by
  refine only_bind only_checkCancelled fun _ => only_bind (put_consults _ _) fun _ =>
    only_bind (answered_consults _) fun choice => ?_
  split
  · exact only_bind only_checkCancelled fun _ => only_pure _
  · exact only_throw _

theorem input_consults (prompt offered : String) : (input prompt offered : Run σ Cause String).Consults :=
  only_bind only_checkCancelled fun _ => only_bind (put_consults _ _) fun _ =>
    only_bind (answered_consults _) fun _ => only_bind only_checkCancelled fun _ => only_pure _

/-! ## Files -/

theorem call_looks {file : FileCall} (fit : file.mutates = false) :
    (call file : Run σ IoError file.Answer).Only Event.Looks :=
  only_call fun _ => fit

theorem call_reads {file : FileCall} (fit : file.mutates = false) :
    (call file : Run σ IoError file.Answer).Only Event.Reads :=
  (call_looks fit).reads

theorem isFile_looks (path : Path) : (isFile path : Run σ ε Bool).Only Event.Looks := by
  refine only_bind (only_attempt (call_looks rfl)) fun answer => ?_
  split
  · exact only_pure _
  · exact only_pure _

theorem isEmptyDir_looks (path : Path) : (isEmptyDir path : Run σ IoError Bool).Only Event.Looks :=
  only_bind (call_looks rfl) fun _ => only_pure _

theorem lookAt_looks (path : Path) (name : String) (isTop : Bool) :
    (lookAt path name isTop : Run σ Cause SourceFile).Only Event.Looks := by
  unfold lookAt
  split
  · refine only_bind (only_attempt (call_looks rfl)) fun answer => ?_
    split
    · exact only_pure _
    · exact only_pure _
  · exact only_pure _

theorem only_mapM {α β : Type} {allowed : Event → Prop} {step : α → Run σ ε β} (items : List α)
    (only : ∀ item, (step item).Only allowed) : (items.mapM step).Only allowed := by
  induction items with
  | nil => exact only_pure _
  | cons item rest ih =>
    rw [List.mapM_cons]
    exact only_bind (only item) fun _ => only_bind ih fun _ => only_pure _

theorem sourceFiles_looks (isTop : Bool) (directory : Path) (levels : Nat) :
    (sourceFiles isTop directory levels : Run σ Cause (List SourceFile)).Only Event.Looks := by
  induction levels generalizing isTop directory with
  | zero => exact only_pure _
  | succ levels ih =>
    refine only_bind (only_mapError (call_looks rfl)) fun entries =>
      only_bind (only_mapM _ fun entry => ?_) fun _ => only_pure _
    dsimp only
    split
    · exact only_bind (lookAt_looks _ _ _) fun _ => only_pure _
    · split
      · exact only_pure _
      · exact ih _ _
    · exact only_pure _

theorem scan_looks (directory : Path) : (scan directory : Run σ Cause Signals).Only Event.Looks :=
  only_bind (sourceFiles_looks _ _ _) fun _ => only_pure _

end Run

end Scaffold
