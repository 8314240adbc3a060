import Scaffold.Proofs.Initialise

/-! # Rolling back

As long as nothing was touched, the files are those from before the run, perhaps with a manifest staged where there was
nothing. Every step up to the starter project keeps to this, a layout that counted nothing included, and it is just what
removing the manifest undoes. So a run without faults that reports the manifest removed has changed nothing at all.
-/

namespace Scaffold.Run

variable {path directory : Path} {original : Faulty FileTree} {session after : Session (Faulty FileTree)}

/-- A file was written into a store. -/
def Staged (path : Path) (original store : Faulty FileTree) : Prop :=
  ∃ contents changed, original.inner.write path contents = .ok changed ∧ store = { original with inner := changed }

/-- A store that removing one path takes back to what it was. -/
def Restorable (path : Path) (original store : Faulty FileTree) : Prop :=
  store = original ∨ Staged path original store

theorem Staged.clear {store : Faulty FileTree} (staged : Staged path original store) (clear : original.Clear) :
    store.Clear := by
  obtain ⟨_, _, _, rfl⟩ := staged
  exact ⟨clear.faults, clear.special⟩

/-- Removing the path takes a restorable store back. -/
theorem Restorable.remove {answer : Except IoError Unit} (restorable : Restorable path original session.files)
    (clear : original.Clear) (noFile : original.inner.isFileAt (original.inner.resolve path) = false)
    (removed : (remove path).apply session = (answer, after)) : after.files = original := by
  rcases restorable with same | staged
  · cases answer with
    | error error => exact (call_error_of_clear (same ▸ clear) removed).trans same
    | ok _ =>
      have file := (FileTree.remove_eq_ok.mp (remove_ok removed)).1
      rw [same, noFile] at file
      cases file
  · have still := staged.clear clear
    obtain ⟨contents, changed, wrote, same⟩ := staged
    have free : original.inner.get? (original.inner.resolve path) = none := by
      have noDirectory := (FileTree.write_eq_ok.mp wrote).2.1
      unfold FileTree.isFileAt at noFile
      unfold FileTree.isDirectoryAt at noDirectory
      rcases found : original.inner.get? (original.inner.resolve path) with _ | _ | _ <;> simp_all
    have performed := perform_of_call removed
    have inner : session.files.inner = changed := by rw [same]
    rw [still.perform, inner, FileTree.perform_remove_ok.mpr (FileTree.remove_write free wrote)] at performed
    rw [← (Prod.mk.inj performed).2, same]
    rfl

/-! ## Before anything is touched -/

theorem stage_staged {contents : ByteArray} {origin : String} {manifest : Manifest} (clear : session.files.Clear)
    (staging : (Manifest.stage directory contents origin).apply session = (.ok manifest, after)) :
    Staged (manifestPath directory) session.files after.files := by
  have wrote := (Manifest.stage_eq_ok staging).2
  have performed := perform_of_call wrote
  rw [clear.perform] at performed
  refine ⟨contents, after.files.inner, write_ok wrote, ?_⟩
  rw [← (Prod.mk.inj performed).2]
  rfl

theorem Prepares.staged {backend : BackendKind} {flags : Flags} {plan : Plan} {acquired : ByteArray}
    (prepares : Prepares backend flags directory session plan acquired after) (clear : session.files.Clear) :
    Staged (manifestPath directory) session.files after.files := by
  obtain ⟨origin, opened, written, opening, staging, onward⟩ := prepares.staging
  have same := opening.files_of_clear clear
  have staged := stage_staged (same ▸ clear) staging
  rw [onward.files_of_clear (staged.clear (same ▸ clear)), ← same]
  exact staged

theorem PrepareStops.restorable (stops : PrepareStops directory session after) (clear : session.files.Clear) :
    Restorable (manifestPath directory) session.files after.files := by
  cases stops with
  | reading advance => exact .inl (advance.files_of_clear clear)
  | staging contents origin cause opened advance failed =>
    have same := advance.files_of_clear clear
    rcases Manifest.stage_eq_error failed with rfl | ⟨error, failed⟩
    · exact .inl same
    · exact .inl ((call_error_of_clear (same ▸ clear) failed).trans same)
  | planning contents origin manifest opened staged advance ran onward =>
    have same := advance.files_of_clear clear
    have wrote := stage_staged (same ▸ clear) ran
    rw [onward.files_of_clear (wrote.clear (same ▸ clear)), ← same]
    exact .inr wrote

/-- A download that touched nothing keeps the files restorable, as it has at most removed the manifest. -/
theorem download_restorable {starter : Devfile.StarterProject} {cause : Cause} (clear : original.Clear)
    (wellFormed : original.inner.WellFormed) (rooted : directory.isAbsolute = true)
    (noFile : original.inner.isFileAt (original.inner.resolve (manifestPath directory)) = false)
    (staged : Staged (manifestPath directory) original session.files)
    (failed : (starter.download directory).apply session = (.error ⟨cause, false⟩, after)) :
    Restorable (manifestPath directory) original after.files := by
  have still := staged.clear clear
  rcases (starter.download_endsLayingOut directory).cases failed with
    ⟨_, _, _, advance⟩ | ⟨_, acquired, ⟨overlay, step, rfl, lays, rfl⟩, advance, failed⟩
  · rw [advance.files_of_clear still]
    exact .inr staged
  · have same := advance.files_of_clear still
    rw [← same] at staged still
    rcases Devfile.StarterProject.layOut_eq_error failed with
      ⟨error, failed, _⟩ | ⟨cleared, interruption, clearing, failed, uncounted⟩
    · obtain ⟨answer, removed, _⟩ := Overlay.clearManifest_cases failed
      exact .inl (Restorable.remove (.inr staged) clear noFile removed)
    · obtain ⟨answer, removed, _⟩ := Overlay.clearManifest_cases clearing
      have restored := Restorable.remove (.inr staged) clear noFile removed
      have interrupted := lays.interrupted failed (by simpa using congrArg Setback.touched uncounted)
      rw [← restored] at clear wellFormed
      exact .inl ((interrupted.files_of_clear clear wellFormed rooted).trans restored)

/-- A setback that touched nothing leaves restorable files. -/
theorem SetUpStops.restorable {registries : List Registry} {flags : Flags} {empty : Bool} {cause : Cause}
    (stops : SetUpStops registries flags directory empty session ⟨cause, false⟩ after) (clear : session.files.Clear)
    (wellFormed : session.files.inner.WellFormed) (rooted : directory.isAbsolute = true)
    (noFile : session.files.inner.isFileAt (session.files.inner.resolve (manifestPath directory)) = false) :
    Restorable (manifestPath directory) session.files after.files := by
  cases stops with
  | preparing cause failed _ => exact (prepare_eq_error failed).restorable clear
  | starting plan prepared ran failed =>
    obtain ⟨acquired, prepares⟩ := prepare_eq_ok ran
    obtain ⟨starter, _, failed | ⟨impossible, _⟩⟩ := withStarter_eq_error failed
    · exact download_restorable clear wellFormed rooted noFile (prepares.staged clear) failed
    · cases impossible
  | committing plan manifest prepared settled cause ran settling failed same =>
    obtain ⟨acquired, prepares⟩ := prepare_eq_ok ran
    have staged := prepares.staged clear
    -- Nothing is touched only if there is no starter project.
    obtain none : plan.starter? = none := by
      have untouched := (congrArg Setback.touched same).symm
      simpa using untouched
    rw [none] at settling
    obtain ⟨_, rfl⟩ := Prod.mk.inj settling
    rcases commit_eq_error failed with rfl | ⟨error, failed⟩
    · exact .inr staged
    · rw [call_error_of_clear (staged.clear clear) failed]
      exact .inr staged

/-! ## The whole run -/

/-- An inspection that passed has found no manifest in the working directory, and changed nothing. -/
theorem inspect_of_clear {registries : List Registry} {flags : Flags} {empty : Bool} (clear : session.files.Clear)
    (passed : (inspect registries flags).apply session = (.ok (directory, empty), after)) :
    after.files = session.files ∧ directory = session.files.inner.workingDirectory ∧
      session.files.inner.isFileAt (session.files.inner.resolve (manifestPath directory)) = false := by
  obtain ⟨located, looked, found, absent, onward⟩ := inspect_eq_ok passed
  have first : located.files = session.files :=
    ((call_reads rfl).advances found : session.Advances Event.Reads located).files_of_clear clear
  have quiet : (recorded flags located).files.Clear := first ▸ clear
  have second := ((containsManifest_looks directory).reads.advances absent).files_of_clear quiet
  obtain ⟨other, answered, _⟩ := containsManifest_of_quiet quiet.faults
    (show (recorded flags located).files.isSpecial (manifestPath directory) = false by
      simp [Faulty.isSpecial, quiet.special])
  rw [answered] at absent
  have noFile := Except.ok.inj (Prod.mk.inj absent).1
  refine ⟨(onward.files_of_clear (second ▸ quiet)).trans (second.trans first), (inspect_keeps passed).1, ?_⟩
  rw [← first]
  exact noFile

/-- A run without faults that reports the manifest removed leaves the files exactly as they were, with no manifest
among them. -/
theorem files_of_devfileRemoved {registries : List Registry} {flags : Flags} {cause : Cause}
    (clear : session.files.Clear) (wellFormed : session.files.inner.WellFormed)
    (failed : (initialise registries flags).apply session = (.error ⟨cause, .devfileRemoved⟩, after)) :
    after.files = session.files ∧
      after.files.inner.isFileAt
        (after.files.inner.resolve (manifestPath after.files.inner.workingDirectory)) = false := by
  cases initialise_ends failed with
  | rolledBack directory empty inspected stopped _ answer _ passed failed removed =>
    obtain ⟨same, place, noFile⟩ := inspect_of_clear clear passed
    have rooted : directory.isAbsolute = true := place ▸ wellFormed.rooted
    have restored : after.files = inspected.files := by
      rw [← same] at clear wellFormed noFile
      exact ((setUp_eq_error failed).restorable clear wellFormed rooted noFile).remove clear noFile removed
    have all := restored.trans same
    rw [all, ← place]
    exact ⟨rfl, noFile⟩

/-- A session in an empty directory, with a devfile at another place and nobody to ask. -/
def sampleSession : Session (Faulty FileTree) :=
  { files :=
      { inner := (FileTree.new ⟨"/app"⟩).withFile ⟨"/t/d.yaml"⟩ "schemaVersion: 2.2.0".toUTF8
        faults := []
        special := []
        modes := [] } }

/-- Asking for a starter project that the devfile does not have. -/
def starterFlags : Flags := { devfilePath := some "/t/d.yaml", starter := some "go" }

/-- The manifest was staged by then, and is removed without a trace. -/
theorem files_of_starterNotFound :
    ((initialise [] starterFlags).apply sampleSession).1 =
        .error ⟨.starterNotFound "go" "none", .devfileRemoved⟩ ∧
      ((initialise [] starterFlags).apply sampleSession).2.files = sampleSession.files := by
  have failed : ((initialise [] starterFlags).apply sampleSession).1 =
      .error ⟨.starterNotFound "go" "none", .devfileRemoved⟩ := by decide +kernel
  exact ⟨failed, (files_of_devfileRemoved ⟨rfl, rfl⟩ (by decide +kernel) (Prod.ext failed rfl)).1⟩

end Scaffold.Run
