import Scaffold.Proofs.Initialise.Refusal

/-! # Whether the manifest was removed

A run that reports the manifest removed ends with the call that removes it, whatever comes of this call. What a run
with this report can have done before is to write the manifest and to remove it; so the calls that succeeded decide
whether there is a manifest by the time of the last one. Only if that one fails, and finds a manifest, is one left
though it is reported removed.
-/

namespace Scaffold

/-- What an event decides about whether there is a file at a path: a write puts one there and a removal takes it away,
as far as the call succeeds. -/
def Event.decides? (path : Path) : Event → Option Bool
  | .files (.write other _) none => if other = path then some true else none
  | .files (.remove other) none => if other = path then some false else none
  | _ => none

/-- Whether there is a file at a path after some events: the last of them that decides tells. -/
def Event.leaves (path : Path) (there : Bool) (events : List Event) : Bool :=
  events.foldl (fun there event => (event.decides? path).getD there) there

/-- A call that writes and removes no other path. -/
def FileCall.KeepsTo (path : Path) : FileCall → Prop
  | .write other _ | .remove other => other = path
  | _ => True

namespace Event

variable {path : Path} {there : Bool} {first second : List Event}

theorem leaves_append : leaves path there (first ++ second) = leaves path (leaves path there first) second :=
  List.foldl_append

theorem leaves_of_silent {events : List Event} (silent : ∀ event ∈ events, event.decides? path = none) :
    leaves path there events = there := by
  induction events with
  | nil => rfl
  | cons event rest ih =>
    rw [leaves, List.foldl_cons, silent event List.mem_cons_self]
    exact ih fun other member => silent other (List.mem_cons_of_mem _ member)

theorem Reads.decides? {event : Event} (reads : event.Reads) : event.decides? path = none := by
  cases event with
  | files call error? => cases call <;> first | (cases reads; done) | rfl
  | _ => rfl

end Event

namespace Session

variable {path : Path} {before middle after session : Session (Faulty FileTree)}

/-- Whether there is a file at a path. -/
def holdsFile (session : Session (Faulty FileTree)) (path : Path) : Bool :=
  session.files.inner.isFileAt (session.files.inner.resolve path)

/-- Whether there is a file at a path is told by the events in between. -/
def Accounts (path : Path) (before after : Session (Faulty FileTree)) : Prop :=
  ∃ events, before.Spans events after ∧ after.holdsFile path = Event.leaves path (before.holdsFile path) events

theorem Accounts.trans (left : before.Accounts path middle) (right : middle.Accounts path after) :
    before.Accounts path after := by
  obtain ⟨first, leftSpans, leftTold⟩ := left
  obtain ⟨second, rightSpans, rightTold⟩ := right
  exact ⟨first ++ second, leftSpans.append rightSpans, by rw [rightTold, leftTold, Event.leaves_append]⟩

theorem Accounts.keepsTo (accounts : before.Accounts path after) : before.KeepsTo (fun _ => True) after := by
  obtain ⟨events, spans, _⟩ := accounts
  exact ⟨events, spans, fun _ _ => trivial⟩

theorem holdsFile_congr (inner : after.files.inner = before.files.inner) :
    after.holdsFile path = before.holdsFile path := by
  rw [holdsFile, inner, holdsFile]

theorem KeepsTo.accounts (keeps : before.KeepsTo Event.Reads after) : before.Accounts path after := by
  have inner := keeps.inner
  obtain ⟨events, spans, reads⟩ := keeps
  refine ⟨events, spans, ?_⟩
  rw [Event.leaves_of_silent fun event member => (reads event member).decides?, holdsFile_congr inner]

theorem Advances.accounts (advance : before.Advances Event.Reads after) : before.Accounts path after :=
  advance.keepsTo.accounts

end Session

namespace Run

variable {registries : List Registry} {flags : Flags} {directory path : Path} {empty : Bool}
  {session stopped after : Session (Faulty FileTree)} {file : FileCall}

/-! ## Calls -/

/-- A call that keeps to a path, or fails, decides as its event tells. -/
theorem holdsFile_of_call {outcome : Except IoError file.Answer} (ran : (call file).apply session = (outcome, after))
    (fit : file.KeepsTo path ∨ (errorOf? outcome).isSome) :
    after.holdsFile path = ((Event.files file (errorOf? outcome)).decides? path).getD (session.holdsFile path) := by
  cases outcome with
  | error error =>
    rw [Session.holdsFile_congr (call_error ran).1]
    cases file <;> rfl
  | ok answer =>
    have fit := fit.resolve_right (by simp [errorOf?])
    have resolved := resolve_of_advances (call_logs ran) path
    cases file with
    | write other contents =>
      obtain rfl : other = path := fit
      have found := get?_of_write_ok ran (session.files.inner.resolve other)
      rw [if_pos rfl] at found
      simp [Session.holdsFile, resolved, FileTree.isFileAt, found, Event.decides?, errorOf?]
    | remove other =>
      obtain rfl : other = path := fit
      have found := FileTree.get?_remove (remove_ok ran) (session.files.inner.resolve other)
      rw [if_pos rfl] at found
      simp [Session.holdsFile, resolved, FileTree.isFileAt, found, Event.decides?, errorOf?]
    | createDirs other =>
      -- What is made is a directory, and only where there was nothing.
      rw [Session.holdsFile, resolved, (FileTree.createDirs_eq_ok.mp (createDirs_ok ran)).2]
      exact FileTree.isFileAt_addDirs _ _
    | setMode other mode => exact Session.holdsFile_congr (setMode_ok ran)
    | _ => exact Session.holdsFile_congr ((call_reads rfl).advances ran : session.Advances _ after).inner

theorem accounts_of_call {outcome : Except IoError file.Answer} (ran : (call file).apply session = (outcome, after))
    (fit : file.KeepsTo path ∨ (errorOf? outcome).isSome) : session.Accounts path after := by
  exact ⟨_, (Session.leads_of_answer ran).toSpans, holdsFile_of_call ran fit⟩

/-! ## Before the manifest is removed -/

theorem stage_accounts {contents : ByteArray} {origin : String} {outcome : Except Cause Manifest}
    (ran : (Manifest.stage directory contents origin).apply session = (outcome, after)) :
    session.Accounts (manifestPath directory) after := by
  cases outcome with
  | ok manifest => exact accounts_of_call (Manifest.stage_eq_ok ran).2 (.inl rfl)
  | error cause =>
    rcases Manifest.stage_eq_error ran with rfl | ⟨error, failed⟩
    · exact (Session.Advances.refl _).accounts
    · exact accounts_of_call failed (.inl rfl)

theorem prepare_accounts {backend : BackendKind} {outcome : Except Cause Plan}
    (ran : (prepare backend registries flags directory empty).apply session = (outcome, after)) :
    session.Accounts (manifestPath directory) after := by
  cases outcome with
  | ok plan =>
    obtain ⟨_, prepares⟩ := prepare_eq_ok ran
    obtain ⟨_, _, _, opening, staging, onward⟩ := prepares.staging
    exact opening.accounts.trans ((stage_accounts staging).trans onward.accounts)
  | error cause =>
    cases prepare_eq_error ran with
    | reading advance => exact advance.accounts
    | staging _ _ _ _ advance failed => exact advance.accounts.trans (stage_accounts failed)
    | planning _ _ _ _ _ advance staging onward =>
      exact advance.accounts.trans ((stage_accounts staging).trans onward.accounts)

theorem clearManifest_accounts {overlay : Overlay} {outcome : Except IoError Unit}
    (ran : overlay.clearManifest.apply session = (outcome, after)) :
    session.Accounts (manifestPath overlay.destination) after := by
  obtain ⟨_, removed, _⟩ := Overlay.clearManifest_cases ran
  exact accounts_of_call removed (.inl rfl)

/-- A layout that counted nothing has made directories at most. -/
theorem interrupted_accounts {overlay : Overlay} (interrupted : overlay.Interrupted session after) :
    session.Accounts path after := by
  cases interrupted with
  | silent same => exact same ▸ (Session.Advances.refl _).accounts
  | creating _ error failed => exact accounts_of_call failed (.inl trivial)
  | writing _ target contents error middle _ ready failed =>
    have made : session.Accounts path middle := by
      unfold Overlay.ParentMade at ready
      split at ready
      · exact accounts_of_call ready (.inl trivial)
      · exact ready ▸ (Session.Advances.refl _).accounts
    exact made.trans (accounts_of_call failed (.inr rfl))

/-- A download that touched nothing has written no manifest. -/
theorem download_accounts {starter : Devfile.StarterProject} {cause : Cause}
    (failed : (starter.download directory).apply session = (.error ⟨cause, false⟩, after)) :
    session.Accounts (manifestPath directory) after := by
  rcases (starter.download_endsLayingOut directory).cases failed with
    ⟨_, _, _, advance⟩ | ⟨_, acquired, ⟨overlay, step, rfl, lays, rfl⟩, advance, failed⟩
  · exact advance.accounts
  · refine advance.accounts.trans ?_
    rcases Devfile.StarterProject.layOut_eq_error failed with
      ⟨error, failed, _⟩ | ⟨cleared, interruption, clearing, failed, uncounted⟩
    · exact clearManifest_accounts failed
    · have interrupted := lays.interrupted failed (by simpa using congrArg Setback.touched uncounted)
      exact (clearManifest_accounts clearing).trans (interrupted_accounts interrupted)

/-- What a set-up has done that touched nothing. -/
theorem setUp_accounts {cause : Cause}
    (failed : (setUp registries flags directory empty).apply session = (.error ⟨cause, false⟩, after)) :
    session.Accounts (manifestPath directory) after := by
  cases setUp_eq_error failed with
  | preparing _ failed _ => exact prepare_accounts failed
  | starting plan prepared ran failed =>
    refine (prepare_accounts ran).trans ?_
    obtain ⟨starter, _, failed | ⟨impossible, _⟩⟩ := withStarter_eq_error failed
    · exact download_accounts failed
    · cases impossible
  | committing plan manifest prepared settled _ ran settling failed same =>
    -- Nothing is touched only if there is no starter project.
    obtain none : plan.starter? = none := by
      have untouched := (congrArg Setback.touched same).symm
      simpa using untouched
    rw [none] at settling
    obtain ⟨_, rfl⟩ := Prod.mk.inj settling
    refine (prepare_accounts ran).trans ?_
    rcases commit_eq_error failed with rfl | ⟨error, failed⟩
    · exact (Session.Advances.refl _).accounts
    · exact accounts_of_call failed (.inr rfl)

/-! ## The whole run -/

/-- A removal leaves a file just if it fails and there was one. -/
theorem holdsFile_of_remove {answer : Except IoError Unit} (removed : (remove path).apply session = (answer, after)) :
    after.holdsFile path = true ↔ errorOf? answer ≠ none ∧ session.holdsFile path = true := by
  rw [holdsFile_of_call removed (.inl rfl)]
  cases answer <;> simp [errorOf?, Event.decides?]

/-- The removal of a file fails only if a fault strikes it. -/
theorem fault_of_remove {answer : Except IoError Unit} (removed : (remove path).apply session = (answer, after))
    (left : after.holdsFile path = true) :
    ∃ fault ∈ session.files.faults, fault.matchesCall (.remove path) = true := by
  obtain ⟨failed, file⟩ := (holdsFile_of_remove removed).mp left
  rcases Faulty.perform_cases (.remove path) session.files with ⟨_, _, struck, _⟩ | ⟨_, _, passed⟩
  · obtain ⟨fault, member, fit, _⟩ := Fault.mem_of_strike? struck
    exact ⟨fault, member, fit⟩
  · have performed := perform_of_call removed
    rw [passed, FileTree.perform_remove_ok.mpr (FileTree.remove_eq_ok.mpr ⟨file, rfl⟩)] at performed
    rw [← (Prod.mk.inj performed).1] at failed
    exact absurd rfl failed

/-- A run whose report is that the manifest was removed, or that exits as if nothing was left, ends with the removal.
There is a manifest in the end just if that call failed and the calls before it had left one, and only if a fault was
scheduled for it. -/
theorem manifest_left_iff {failure : Failure}
    (failed : (initialise registries flags).apply session = (.error failure, after))
    (reported : failure.cleanup = .devfileRemoved ∨ failure.exitCode = 0) :
    ∃ events error?,
      session.Spans (events ++ [.files (.remove (manifestPath session.files.inner.workingDirectory)) error?]) after ∧
      (after.holdsFile (manifestPath session.files.inner.workingDirectory) = true ↔
        error? ≠ none ∧ Event.leaves (manifestPath session.files.inner.workingDirectory)
          (session.holdsFile (manifestPath session.files.inner.workingDirectory)) events = true) ∧
      (after.holdsFile (manifestPath session.files.inner.workingDirectory) = true →
        ∃ fault ∈ session.files.faults,
          fault.matchesCall (.remove (manifestPath session.files.inner.workingDirectory)) = true) := by
  cases initialise_ends failed with
  | refused cause _ failed =>
    -- Nothing that is found out before writing is the doing of the user.
    have early := inspect_failsWith registries flags _ _ _ failed
    have code : (⟨cause, .nothingWritten⟩ : Failure).exitCode = 1 := by
      unfold Failure.exitCode
      rcases early with same | same | same <;> rw [same]
    simp [code] at reported
  | preserved _ _ _ cause _ _ _ =>
    have code : (⟨cause, .preserved⟩ : Failure).exitCode = 1 := by
      unfold Failure.exitCode
      split <;> simp_all
    simp [code] at reported
  | rolledBack directory empty inspected stopped cause answer _ passed stopping removed =>
    obtain rfl := (inspect_keeps passed).1
    have looked : session.Accounts (manifestPath session.files.inner.workingDirectory) inspected :=
      (inspect_reads passed).accounts
    have accounts := looked.trans (setUp_accounts stopping)
    have keeps := accounts.keepsTo
    obtain ⟨events, spans, told⟩ := accounts
    refine ⟨events, errorOf? answer, spans.append (Session.leads_of_answer removed).toSpans, told ▸ holdsFile_of_remove removed,
      fun left => ?_⟩
    -- A fault that matches the removal has matched it all along.
    apply Classical.byContradiction
    intro free
    simp only [not_exists, not_and] at free
    obtain ⟨fault, member, fit⟩ := fault_of_remove removed left
    exact keeps.forall_faults (fun _ _ _ fit => fit) free fault member fit

/-- A session whose manifest cannot be removed, with a devfile at another place whose starter project is acquired from
a page at which the run is cancelled. -/
def stuckSession : Session (Faulty FileTree) :=
  { files :=
      { inner := (FileTree.new ⟨"/app"⟩).withFile ⟨"/t/d.yaml"⟩
          "schemaVersion: 2.2.0\nstarterProjects:\n- name: go\n  zip:\n    location: http://dl.test/s.zip".toUTF8
        faults := [⟨.remove, ⟨"/app/devfile.yaml"⟩, 0, none, ⟨.permissionDenied, "denied"⟩⟩]
        special := []
        modes := [] }
    network := { pages := [("http://dl.test/s.zip", [.cancels])] } }

private theorem stuckSession_ends :
    ((initialise [] starterFlags).apply stuckSession).1 = .error ⟨.cancelled, .devfileRemoved⟩ ∧
      (⟨.cancelled, .devfileRemoved⟩ : Failure).exitCode = 0 ∧
      stuckSession.holdsFile ⟨"/app/devfile.yaml"⟩ = false ∧
      ((initialise [] starterFlags).apply stuckSession).2.holdsFile ⟨"/app/devfile.yaml"⟩ = true := by
  decide +kernel

/-- The run is cancelled while the manifest is staged, and the calls account for what is left. -/
theorem manifest_left_iff_stuck :
    ((initialise [] starterFlags).apply stuckSession).1 = .error ⟨.cancelled, .devfileRemoved⟩ ∧
      ∃ events error?, stuckSession.Spans (events ++ [.files (.remove ⟨"/app/devfile.yaml"⟩) error?])
          ((initialise [] starterFlags).apply stuckSession).2 ∧
        (((initialise [] starterFlags).apply stuckSession).2.holdsFile ⟨"/app/devfile.yaml"⟩ = true ↔
          error? ≠ none ∧
            Event.leaves ⟨"/app/devfile.yaml"⟩ (stuckSession.holdsFile ⟨"/app/devfile.yaml"⟩) events = true) := by
  have failed := stuckSession_ends.1
  rcases ran : (initialise [] starterFlags).apply stuckSession with ⟨outcome, after⟩
  obtain rfl : outcome = .error ⟨.cancelled, .devfileRemoved⟩ := (congrArg Prod.fst ran).symm.trans failed
  have place : manifestPath stuckSession.files.inner.workingDirectory = ⟨"/app/devfile.yaml"⟩ := by decide +kernel
  obtain ⟨events, error?, spans, left, _⟩ := manifest_left_iff ran (.inl rfl)
  rw [place] at spans left
  exact ⟨rfl, events, error?, spans, left⟩

/-- A manifest that is reported removed can be left: the run leaves the one that it had staged itself, and exits as if
nothing had been left. -/
theorem stuckSession_leaves_manifest :
    ((initialise [] starterFlags).apply stuckSession).1 = .error ⟨.cancelled, .devfileRemoved⟩ ∧
      (⟨.cancelled, .devfileRemoved⟩ : Failure).exitCode = 0 ∧
      stuckSession.holdsFile ⟨"/app/devfile.yaml"⟩ = false ∧
      ((initialise [] starterFlags).apply stuckSession).2.holdsFile ⟨"/app/devfile.yaml"⟩ = true :=
  stuckSession_ends

end Run

end Scaffold
