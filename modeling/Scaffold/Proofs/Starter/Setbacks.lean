import Scaffold.Proofs.Starter.Untouched

/-! # What the cause of a setback tells

A download fails for causes of three kinds. Until something is acquired it is cancelled or it cannot download what it
was asked for, and so far it has made no call to the files. From then on the first call removes the staged manifest, and
whatever fails is a failure to extract. So the cause of a setback tells whether the files were called at all, and only
a failure to extract can leave something behind.
-/

namespace Scaffold

namespace Session

variable {σ : Type} [Storage σ] {before middle after : Session σ} {path : Path}

/-- Between two sessions the removal of a file was asked for. -/
def Removes (path : Path) (before after : Session σ) : Prop :=
  ∃ events error?, before.Leads events after ∧ Event.files (.remove path) error? ∈ events

theorem Removes.of_call {answer : Except IoError Unit} (ran : (Run.remove path).apply before = (answer, after)) :
    before.Removes path after := by
  obtain ⟨error?, leads⟩ := leads_of_call ran
  exact ⟨_, error?, leads, List.mem_singleton_self _⟩

theorem Removes.earlier (removes : middle.Removes path after) (logs : before.Logs middle) : before.Removes path after := by
  obtain ⟨events, error?, leads, member⟩ := removes
  obtain ⟨earlier, since, _⟩ := logs
  exact ⟨_, error?, since.append leads, List.mem_append_right earlier member⟩

theorem Removes.later (removes : before.Removes path middle) (logs : middle.Logs after) : before.Removes path after := by
  obtain ⟨events, error?, leads, member⟩ := removes
  obtain ⟨later, onward, _⟩ := logs
  exact ⟨_, error?, leads.append onward, List.mem_append_left later member⟩

/-- A removal is a call to the files. -/
theorem Removes.not_outside (removes : before.Removes path after) : ¬ before.Advances Event.Outside after := by
  rintro ⟨events, leads, outside⟩
  obtain ⟨others, error?, otherLeads, member⟩ := removes
  exact outside _ (otherLeads.toSpans.unique leads.toSpans ▸ member)

end Session

namespace Devfile.StarterProject

variable {σ : Type} [Storage σ] {starter : StarterProject} {directory : Path} {overlay : Overlay}
  {step : Run σ Interruption Nat} {session after : Session σ} {setback : Setback}

/-- How a download fails: while it acquires something, or once the removal of the staged manifest was asked for. -/
inductive Fails (starter : StarterProject) (directory : Path) (session : Session σ) : Setback → Session σ → Prop
  | acquiring (cause : Cause) (after : Session σ) (unmet : starter.NotAcquired cause)
      (advance : session.Advances Event.Outside after) : Fails starter directory session ⟨cause, false⟩ after
  | layingOut (reason : String) (touched : Bool) (after : Session σ)
      (removes : session.Removes (manifestPath directory) after) :
      Fails starter directory session ⟨.extractFailed starter.name reason, touched⟩ after

theorem layOut_setback (logged : step.Logged)
    (failed : (starter.layOut overlay step).apply session = (.error setback, after)) :
    (∃ reason, setback.cause = .extractFailed starter.name reason) ∧
      session.Removes (manifestPath overlay.destination) after := by
  rcases layOut_eq_error failed with ⟨error, clearing, rfl⟩ | ⟨cleared, interruption, clearing, stopped, rfl⟩
  · obtain ⟨_, removed, _⟩ := Overlay.clearManifest_cases clearing
    exact ⟨⟨_, rfl⟩, .of_call removed⟩
  · obtain ⟨_, removed, _⟩ := Overlay.clearManifest_cases clearing
    exact ⟨⟨_, rfl⟩, (Session.Removes.of_call removed).later (logged.advances stopped)⟩

theorem download_fails (failed : (starter.download directory).apply session = (.error setback, after)) :
    starter.Fails directory session setback after := by
  rcases download_cases failed with ⟨cause, _, unmet, advance⟩ | ⟨overlay, acquisition, acquired, acquires, laid⟩
  · exact .acquiring cause after unmet advance
  · obtain ⟨⟨reason, told⟩, removes⟩ := layOut_setback (acquisition.lays overlay).logged laid
    rw [acquires.destination] at removes
    obtain ⟨_, touched⟩ := setback
    obtain rfl := told
    exact .layingOut reason touched after (removes.earlier acquires.advances.logs)

/-- A download is cancelled, cannot download something or cannot extract it. Unless it fails to extract, it has touched
nothing and made no call to the files; so only a failure to extract touches something. Where it fails to extract it has
called the files. -/
theorem setback_tells_files (failed : (starter.download directory).apply session = (.error setback, after)) :
    (setback.cause = .cancelled ∨ (∃ reason, setback.cause = .downloadFailed starter.name reason) ∨
        ∃ reason, setback.cause = .extractFailed starter.name reason) ∧
      (setback.cause = .cancelled ∨ (∃ name reason, setback.cause = .downloadFailed name reason) →
        setback.touched = false ∧ session.Advances Event.Outside after ∧ after.files = session.files) ∧
      (setback.touched = true → ∃ reason, setback.cause = .extractFailed starter.name reason) ∧
      ((∃ reason, setback.cause = .extractFailed starter.name reason) → ¬ session.Advances Event.Outside after) := by
  cases download_fails failed with
  | acquiring cause _ unmet advance =>
    refine ⟨?_, fun _ => ⟨rfl, advance, advance.files_of_outside⟩, nofun, ?_⟩
    · cases unmet with
      | cancelled => exact .inl rfl
      | failed reason => exact .inr (.inl ⟨reason, rfl⟩)
    · cases unmet <;> nofun
  | layingOut reason touched _ removes =>
    refine ⟨.inr (.inr ⟨reason, rfl⟩), ?_, fun _ => ⟨reason, rfl⟩, fun _ => removes.not_outside⟩
    rintro (impossible | ⟨_, _, impossible⟩) <;> cases impossible

/-- A directory with the manifest staged, and an address at which the archive of the project is missing. -/
def missingSession : Session (Faulty FileTree) :=
  { files :=
      { inner := (FileTree.new ⟨"/app"⟩).withFile ⟨"/app/devfile.yaml"⟩ ByteArray.empty
        faults := []
        special := []
        modes := [] }
    network := { pages := [("http://dl.test/s.zip", [.answer 404 ByteArray.empty none true])] } }

/-- Where the archive is missing, the staged manifest is left in its place. -/
theorem nestedStarter_missing_keeps_files :
    ((nestedStarter.download ⟨"/app"⟩).apply missingSession).1 =
        .error ⟨.downloadFailed "s" "failed to fetch http://dl.test/s.zip: HTTP 404 Not Found", false⟩ ∧
      ((nestedStarter.download ⟨"/app"⟩).apply missingSession).2.files = missingSession.files := by
  have failed : ((nestedStarter.download ⟨"/app"⟩).apply missingSession).1 =
      .error ⟨.downloadFailed "s" "failed to fetch http://dl.test/s.zip: HTTP 404 Not Found", false⟩ := by
    decide +kernel
  exact ⟨failed, ((setback_tells_files (Prod.ext failed rfl)).2.1 (.inr ⟨_, _, rfl⟩)).2.2⟩

end Devfile.StarterProject

end Scaffold
