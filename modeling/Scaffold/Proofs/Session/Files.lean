import Scaffold.Location
import Scaffold.Proofs.Files.Faults

/-! # Files in a session with a schedule

What a call of a run tells of the tree before and after it. Whether there is a manifest is answered truly as long as
no fault strikes and the path is not special.
-/

namespace Scaffold.Run

variable {session after : Session (Faulty FileTree)} {file : FileCall} {path directory : Path}
  {contents : ByteArray} {error : IoError}

theorem perform_of_call {outcome : Except IoError file.Answer} (ran : (call file).apply session = (outcome, after)) :
    Storage.perform file session.files = (outcome, after.files) := by
  rw [apply_call] at ran
  obtain ⟨rfl, rfl⟩ := Prod.mk.inj ran
  rfl

theorem log_of_call {outcome : Except IoError file.Answer} (ran : (call file).apply session = (outcome, after)) :
    after.log = .files file (errorOf? outcome) :: session.log := by
  rw [apply_call] at ran
  obtain ⟨rfl, rfl⟩ := Prod.mk.inj ran
  rfl

theorem call_error (failed : (call file).apply session = (.error error, after)) :
    after.files.inner = session.files.inner ∧ after.files.modes = session.files.modes :=
  Faulty.perform_error (perform_of_call failed)

theorem write_ok (wrote : (write path contents).apply session = (.ok (), after)) :
    session.files.inner.write path contents = .ok after.files.inner := by
  obtain ⟨_, told, _⟩ := Faulty.perform_ok (perform_of_call wrote)
  exact FileTree.perform_write_ok.mp told

theorem remove_ok (removed : (remove path).apply session = (.ok (), after)) :
    session.files.inner.remove path = .ok after.files.inner := by
  obtain ⟨_, told, _⟩ := Faulty.perform_ok (perform_of_call removed)
  exact FileTree.perform_remove_ok.mp told

theorem createDirs_ok (created : (createDirs path).apply session = (.ok (), after)) :
    session.files.inner.createDirs path = .ok after.files.inner := by
  obtain ⟨_, told, _⟩ := Faulty.perform_ok (perform_of_call created)
  exact FileTree.perform_createDirs_ok.mp told

theorem read_ok (returned : (read path).apply session = (.ok contents, after)) :
    session.files.inner.read path = .ok contents ∧ after.files.inner = session.files.inner := by
  obtain ⟨_, told, rfl⟩ := Faulty.perform_ok (perform_of_call returned)
  obtain ⟨same, unchanged⟩ := Prod.mk.inj told
  exact ⟨same, unchanged.symm⟩

/-- Permission bits are not kept in the tree. -/
theorem setMode_ok {mode : Nat} (set : (setMode path mode).apply session = (.ok (), after)) :
    after.files.inner = session.files.inner := by
  obtain ⟨_, told, _⟩ := Faulty.perform_ok (perform_of_call set)
  exact (Prod.mk.inj told).2.symm

theorem call_logs {outcome : Except IoError file.Answer} (ran : (call file).apply session = (outcome, after)) :
    session.Logs after :=
  (call_logged file).advances ran

/-- Where a path leads does not change, as the working directory does not. -/
theorem resolve_of_advances {allowed : Event → Prop} (advance : session.Advances allowed after) (path : Path) :
    after.files.inner.resolve path = session.files.inner.resolve path := by
  rw [FileTree.resolve, advance.workingDirectory, FileTree.resolve]

/-- A file that was written is there. -/
theorem get?_of_write_ok (wrote : (write path contents).apply session = (.ok (), after)) (route : Route) :
    after.files.inner.get? route =
      if session.files.inner.resolve path = route then some (.file contents)
      else session.files.inner.get? route :=
  FileTree.get?_write (write_ok wrote) route

/-! ## Without faults -/

theorem call_error_of_clear (clear : session.files.Clear) (failed : (call file).apply session = (.error error, after)) :
    after.files = session.files :=
  clear.eq_of ((call_logs failed).clear clear) (call_error failed).1 (call_error failed).2

/-- A write that fails is refused by the tree. -/
theorem write_error_of_clear (clear : session.files.Clear)
    (failed : (write path contents).apply session = (.error error, after)) :
    ∃ refusal, session.files.inner.write path contents = .error refusal := by
  cases told : session.files.inner.write path contents with
  | error refusal => exact ⟨refusal, rfl⟩
  | ok changed =>
    have performed := perform_of_call failed
    rw [clear.perform, FileTree.perform_write_ok.mpr told] at performed
    cases performed

theorem createDirs_ok_of_clear (clear : session.files.Clear)
    (created : (createDirs path).apply session = (.ok (), after)) :
    after.files.Clear ∧ after.files.modes = session.files.modes := by
  have performed := perform_of_call created
  rw [clear.perform] at performed
  exact ⟨(call_logs created).clear clear, (congrArg Faulty.modes (Prod.mk.inj performed).2).symm⟩

/-- Without faults, a call does what it does to the store behind the schedule. -/
theorem call_of_quiet (quiet : session.files.faults = []) (file : FileCall) :
    ∃ after, (call file).apply session =
        ((Storage.perform file session.files.inner).1.map (session.files.revise file), after) ∧
      after.files =
        { session.files with
          inner := (Storage.perform file session.files.inner).2, modes := session.files.modesAfter file } := by
  have pass : Fault.strike? file session.files.faults = (none, session.files.faults) := by
    rw [quiet]
    rfl
  have ran := apply_call file session
  rw [Faulty.perform_of_pass pass] at ran
  exact ⟨_, ran, rfl⟩

/-- Without faults, an ordinary path is inspected truly and nothing changes. -/
theorem stat_of_quiet (quiet : session.files.faults = []) (ordinary : session.files.isSpecial path = false) :
    ∃ after, (stat path).apply session = (session.files.inner.stat path, after) ∧ after.files = session.files := by
  have unrevised : session.files.revise (.stat path) = id := by
    funext metadata
    simp [Faulty.revise, Faulty.reviseStat, ordinary]
  have unmapped : ∀ result : Except IoError Metadata, result.map id = result := by
    rintro (_ | _) <;> rfl
  obtain ⟨after, ran, same⟩ := call_of_quiet quiet (.stat path)
  rw [unrevised] at ran
  exact ⟨after, ran.trans (Prod.ext (unmapped _) rfl), same⟩

theorem read_of_quiet (quiet : session.files.faults = [])
    (present : session.files.inner.get? (session.files.inner.resolve path) = some (.file contents)) :
    ∃ after, (read path).apply session = (.ok contents, after) ∧ after.files = session.files := by
  have told : Storage.perform (.read path) session.files.inner = (.ok contents, session.files.inner) := by
    simp only [Storage.perform, FileTree.perform, FileTree.read_eq_ok.mpr present]
    rfl
  obtain ⟨after, ran, same⟩ := call_of_quiet quiet (.read path)
  rw [told] at ran same
  exact ⟨after, ran, same⟩

theorem workingDirectory_of_quiet (quiet : session.files.faults = []) :
    ∃ after, workingDirectory.apply session = (.ok session.files.inner.workingDirectory, after) ∧
      after.files = session.files :=
  call_of_quiet quiet .workingDirectory

theorem write_of_quiet (quiet : session.files.faults = []) {tree : FileTree}
    (wrote : session.files.inner.write path contents = .ok tree) :
    ∃ after, (write path contents).apply session = (.ok (), after) ∧
      after.files.inner = tree ∧ after.files.faults = [] := by
  obtain ⟨after, ran, same⟩ := call_of_quiet quiet (.write path contents)
  rw [FileTree.perform_write_ok.mpr wrote] at ran same
  exact ⟨after, ran, congrArg Faulty.inner same, (congrArg Faulty.faults same).trans quiet⟩

theorem createDirs_of_quiet (quiet : session.files.faults = []) {tree : FileTree}
    (created : session.files.inner.createDirs path = .ok tree) :
    ∃ after, (createDirs path).apply session = (.ok (), after) ∧
      after.files.inner = tree ∧ after.files.faults = [] := by
  obtain ⟨after, ran, same⟩ := call_of_quiet quiet (.createDirs path)
  rw [FileTree.perform_createDirs_ok.mpr created] at ran same
  exact ⟨after, ran, congrArg Faulty.inner same, (congrArg Faulty.faults same).trans quiet⟩

theorem setMode_of_quiet (quiet : session.files.faults = []) (path : Path) (mode : Nat) :
    ∃ after, (setMode path mode).apply session = (.ok (), after) ∧
      after.files.inner = session.files.inner ∧ after.files.faults = [] := by
  obtain ⟨after, ran, same⟩ := call_of_quiet quiet (.setMode path mode)
  refine ⟨after, ran, ?_, (congrArg Faulty.faults same).trans quiet⟩
  rw [same]
  rfl

theorem workingDirectory_ok (told : workingDirectory.apply session = (.ok path, after)) :
    path = session.files.inner.workingDirectory := by
  obtain ⟨_, answered, same⟩ := Faulty.perform_ok (perform_of_call told)
  exact same.symm.trans (Except.ok.inj (Prod.mk.inj answered).1).symm

theorem isFile_of_quiet {ε : Type} (quiet : session.files.faults = [])
    (ordinary : session.files.isSpecial path = false) :
    ∃ after, (isFile path : Run _ ε Bool).apply session =
        (.ok (session.files.inner.isFileAt (session.files.inner.resolve path)), after) ∧
      after.files = session.files := by
  obtain ⟨after, ran, same⟩ := stat_of_quiet quiet ordinary
  refine ⟨after, ?_, same⟩
  unfold isFile
  rw [apply_bind_of_ok (apply_attempt _ _), ran]
  rcases session.files.inner.stat_cases path with ⟨metadata, told, kind⟩ | ⟨error, told, _, absent⟩
  · simp [told, kind]
  · simp [told, FileTree.isFileAt, absent]

theorem containsManifest_of_quiet (quiet : session.files.faults = [])
    (ordinary : session.files.isSpecial (manifestPath directory) = false) :
    ∃ after, (containsManifest directory).apply session =
        (.ok (session.files.inner.isFileAt (session.files.inner.resolve (manifestPath directory))), after) ∧
      after.files = session.files := by
  obtain ⟨after, ran, same⟩ := stat_of_quiet quiet ordinary
  refine ⟨after, ?_, same⟩
  unfold containsManifest
  rw [apply_bind_of_ok (apply_attempt _ _), ran]
  rcases session.files.inner.stat_cases (manifestPath directory) with ⟨metadata, told, kind⟩ |
    ⟨error, told, missing, absent⟩
  · simp [told, kind]
  · simp [told, missing, FileTree.isFileAt, absent]

end Scaffold.Run
