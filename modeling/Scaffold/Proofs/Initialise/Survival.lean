import Scaffold.Proofs.Initialise.Outcome

/-! # What a run finds in place of the manifest

A regular file at the manifest is found when the directory is inspected, and the run ends there. A directory is not
counted as a manifest; but nothing can be written in its place, so that staging fails, and removing it fails as well.
Either way the files are left as they were, whatever calls fail on the way. An entry of any other kind is neither
found nor in the way, and is replaced or removed.
-/

namespace Scaffold

/-- The working directory holds an entry of the name of the manifest that a run does not mistake: a directory, or a
regular file that no fault reports as missing. -/
inductive Faulty.Occupied (store : Faulty FileTree) : Prop
  | directory (present : store.inner.get? (store.inner.resolve (manifestPath store.inner.workingDirectory)) =
      some .directory)
  | file (contents : ByteArray)
      (present : store.inner.get? (store.inner.resolve (manifestPath store.inner.workingDirectory)) =
        some (.file contents))
      (ordinary : store.isSpecial (manifestPath store.inner.workingDirectory) = false)
      (honest : ∀ fault ∈ store.faults, fault.matchesCall (.stat (manifestPath store.inner.workingDirectory)) = true →
        fault.error.kind ≠ .notFound)

namespace Run

variable {registries : List Registry} {flags : Flags} {directory path : Path} {empty : Bool} {contents : ByteArray}
  {session stopped after : Session (Faulty FileTree)}

/-! ## A file in place of the manifest -/

/-- A file is inspected as such, or its inspection fails for another reason than that it is missing. -/
theorem stat_of_file {outcome : Except IoError Metadata}
    (present : session.files.inner.get? (session.files.inner.resolve path) = some (.file contents))
    (ordinary : session.files.isSpecial path = false)
    (honest : ∀ fault ∈ session.files.faults, fault.matchesCall (.stat path) = true → fault.error.kind ≠ .notFound)
    (ran : (stat path).apply session = (outcome, after)) :
    (∃ metadata, outcome = .ok metadata ∧ metadata.isFile = true) ∨
      ∃ error, outcome = .error error ∧ error.kind ≠ .notFound := by
  have performed := perform_of_call ran
  rcases Faulty.perform_cases (.stat path) session.files with ⟨error, _, struck, failed⟩ | ⟨_, _, passed⟩
  · obtain ⟨fault, member, fit, rfl⟩ := Fault.mem_of_strike? struck
    rw [failed] at performed
    exact .inr ⟨fault.error, (Prod.mk.inj performed).1.symm, honest fault member fit⟩
  · obtain ⟨metadata, told, file⟩ :
        ∃ metadata, session.files.inner.stat path = .ok metadata ∧ metadata.isFile = true := by
      rcases session.files.inner.stat_cases path with ⟨metadata, told, kind⟩ | ⟨_, _, _, absent⟩
      · exact ⟨metadata, told, kind.trans (FileTree.isFileAt_iff.mpr ⟨contents, present⟩)⟩
      · rw [absent] at present
        cases present
    have answered : (Storage.perform (.stat path) session.files.inner).1 = .ok metadata := told
    rw [passed, answered] at performed
    refine .inl ⟨metadata, ?_, file⟩
    rw [← (Prod.mk.inj performed).1]
    exact congrArg Except.ok (if_neg (by simp [ordinary]))

/-- A directory with a file in place of the manifest is never told to have none. -/
theorem containsManifest_of_file
    (present : session.files.inner.get? (session.files.inner.resolve (manifestPath directory)) = some (.file contents))
    (ordinary : session.files.isSpecial (manifestPath directory) = false)
    (honest : ∀ fault ∈ session.files.faults, fault.matchesCall (.stat (manifestPath directory)) = true →
      fault.error.kind ≠ .notFound) :
    (containsManifest directory).apply session ≠ (.ok false, after) := by
  intro absent
  unfold containsManifest at absent
  rw [apply_bind_of_ok (apply_attempt _ _)] at absent
  rcases looked : (stat (manifestPath directory)).apply session with ⟨outcome, middle⟩
  rw [looked] at absent
  rcases stat_of_file present ordinary honest looked with ⟨metadata, rfl, file⟩ | ⟨error, rfl, other⟩
  · simp [file] at absent
  · simp [other] at absent

/-- Where a file is in place of the manifest, no inspection passes. -/
theorem inspect_of_file
    (present : session.files.inner.get?
      (session.files.inner.resolve (manifestPath session.files.inner.workingDirectory)) = some (.file contents))
    (ordinary : session.files.isSpecial (manifestPath session.files.inner.workingDirectory) = false)
    (honest : ∀ fault ∈ session.files.faults,
      fault.matchesCall (.stat (manifestPath session.files.inner.workingDirectory)) = true →
        fault.error.kind ≠ .notFound) :
    (inspect registries flags).apply session ≠ (.ok (directory, empty), after) := by
  intro passed
  obtain ⟨located, looked, found, absent, _⟩ := inspect_eq_ok passed
  have advance : session.Advances Event.Reads located := (call_reads rfl).advances found
  obtain rfl := workingDirectory_ok found
  have still : (recorded flags located).files = located.files := rfl
  have there : (recorded flags located).files.inner.get? ((recorded flags located).files.inner.resolve
      (manifestPath session.files.inner.workingDirectory)) = some (.file contents) := by
    rw [still, advance.inner]
    exact present
  have onward := advance.keepsTo.forall_faults (fun _ _ _ fit => fit) honest
  refine containsManifest_of_file there ?_ (still ▸ onward) absent
  rw [still, Faulty.isSpecial, advance.special]
  exact ordinary

/-! ## A directory in place of the manifest -/

/-- Nothing is written where there is a directory. -/
theorem write_of_directory
    (present : session.files.inner.get? (session.files.inner.resolve path) = some .directory) :
    (write path contents).apply session ≠ (.ok (), after) := by
  intro wrote
  have free := (FileTree.write_eq_ok.mp (write_ok wrote)).2.1
  rw [FileTree.isDirectoryAt_iff.mpr present] at free
  cases free

theorem remove_of_directory
    (present : session.files.inner.get? (session.files.inner.resolve path) = some .directory) :
    (remove path).apply session ≠ (.ok (), after) := by
  intro removed
  obtain ⟨contents, file⟩ := FileTree.isFileAt_iff.mp (FileTree.remove_eq_ok.mp (remove_ok removed)).1
  rw [present] at file
  cases file

/-- A session that only reads keeps everything but the schedule. -/
theorem quiet_of_keepsTo (keeps : session.KeepsTo Event.Reads after) : after.files.quiet = session.files.quiet := by
  simp only [Faulty.quiet, keeps.inner, keeps.modes, keeps.special]

theorem quiet_of_call_error {file : FileCall} {error : IoError}
    (failed : (call file).apply session = (.error error, after)) : after.files.quiet = session.files.quiet := by
  simp only [Faulty.quiet, call_error failed, (call_logs failed).special]

/-- Where a directory is in place of the manifest, nothing is staged, and nothing changes. -/
theorem prepare_of_directory {backend : BackendKind} {outcome : Except Cause Plan}
    (present : session.files.inner.get? (session.files.inner.resolve (manifestPath directory)) = some .directory)
    (ran : (prepare backend registries flags directory empty).apply session = (outcome, after)) :
    (∃ cause, outcome = .error cause) ∧ after.files.quiet = session.files.quiet := by
  have unstaged : ∀ {acquired : ByteArray} {origin : String} {manifest : Manifest}
      {opened staged : Session (Faulty FileTree)}, session.Advances Event.Reads opened →
      (Manifest.stage directory acquired origin).apply opened ≠ (.ok manifest, staged) := by
    intro acquired origin manifest opened staged advance staging
    refine write_of_directory ?_ (Manifest.stage_eq_ok staging).2
    rw [resolve_of_advances advance, advance.inner]
    exact present
  cases outcome with
  | ok plan =>
    obtain ⟨_, prepares⟩ := prepare_eq_ok ran
    obtain ⟨_, _, _, opening, staging, _⟩ := prepares.staging
    exact absurd staging (unstaged opening)
  | error cause =>
    refine ⟨⟨cause, rfl⟩, ?_⟩
    cases prepare_eq_error ran with
    | reading advance => exact quiet_of_keepsTo advance.keepsTo
    | staging contents origin cause opened advance failed =>
      rcases Manifest.stage_eq_error failed with rfl | ⟨error, failed⟩
      · exact quiet_of_keepsTo advance.keepsTo
      · exact (quiet_of_call_error failed).trans (quiet_of_keepsTo advance.keepsTo)
    | planning contents origin manifest opened staged advance ran onward => exact absurd ran (unstaged advance)

theorem setUp_of_directory {outcome : Except Setback Component}
    (present : session.files.inner.get? (session.files.inner.resolve (manifestPath directory)) = some .directory)
    (ran : (setUp registries flags directory empty).apply session = (outcome, after)) :
    (∃ cause, outcome = .error ⟨cause, false⟩) ∧ after.files.quiet = session.files.quiet := by
  have unprepared : ∀ {plan : Plan} {prepared : Session (Faulty FileTree)},
      (prepare (BackendKind.choose flags empty) registries flags directory empty).apply session ≠
        (.ok plan, prepared) := by
    intro plan prepared ran
    obtain ⟨⟨_, impossible⟩, _⟩ := prepare_of_directory present ran
    cases impossible
  cases outcome with
  | ok component =>
    obtain ⟨sets⟩ := setUp_eq_ok ran
    exact absurd sets.preparing unprepared
  | error setback =>
    cases setUp_eq_error ran with
    | preparing cause failed same => exact ⟨⟨cause, congrArg _ same⟩, (prepare_of_directory present failed).2⟩
    | starting plan prepared ran _ => exact absurd ran unprepared
    | committing plan manifest prepared settled cause ran _ _ _ => exact absurd ran unprepared

/-! ## The whole run -/

/-- A file or a directory in place of the manifest survives: no run succeeds, and none changes the files, whatever the
flags, the network and the user bring about and whatever calls fail. -/
theorem initialise_spares {outcome : Except Failure Component} (occupied : session.files.Occupied)
    (ran : (initialise registries flags).apply session = (outcome, after)) :
    (∃ failure, outcome = .error failure) ∧ after.files.quiet = session.files.quiet := by
  have refused : ∀ {cause : Cause} {after : Session (Faulty FileTree)},
      (inspect registries flags).apply session = (.error cause, after) → after.files.quiet = session.files.quiet :=
    fun failed => quiet_of_keepsTo (inspect_reads failed)
  cases occupied with
  | file contents present ordinary honest =>
    -- No inspection passes, so that the run is refused.
    cases initialise_ends ran with
    | refused cause _ failed => exact ⟨⟨_, rfl⟩, refused failed⟩
    | settled _ _ _ _ _ passed _ => exact absurd passed (inspect_of_file present ordinary honest)
    | preserved _ _ _ _ _ passed _ => exact absurd passed (inspect_of_file present ordinary honest)
    | rolledBack _ _ _ _ _ _ _ passed _ _ => exact absurd passed (inspect_of_file present ordinary honest)
  | directory present =>
    -- Nothing is staged, and the removal that follows fails like the write before it.
    have inspected : ∀ {directory : Path} {empty : Bool} {inspected : Session (Faulty FileTree)},
        (inspect registries flags).apply session = (.ok (directory, empty), inspected) →
        inspected.files.quiet = session.files.quiet ∧
          inspected.files.inner.get? (inspected.files.inner.resolve (manifestPath directory)) = some .directory := by
      intro directory empty inspected passed
      obtain ⟨rfl, inner, _⟩ := inspect_keeps passed
      refine ⟨quiet_of_keepsTo (inspect_reads passed), ?_⟩
      rw [inner]
      exact present
    cases initialise_ends ran with
    | refused cause _ failed => exact ⟨⟨_, rfl⟩, refused failed⟩
    | settled directory empty _ component _ passed ran =>
      obtain ⟨⟨_, impossible⟩, _⟩ := setUp_of_directory (inspected passed).2 ran
      cases impossible
    | preserved directory empty _ cause _ passed failed =>
      obtain ⟨⟨_, impossible⟩, _⟩ := setUp_of_directory (inspected passed).2 failed
      cases impossible
    | rolledBack directory empty _ stopped cause answer _ passed failed removed =>
      obtain ⟨same, there⟩ := inspected passed
      obtain ⟨_, unchanged⟩ := setUp_of_directory there failed
      have inner := congrArg Faulty.inner unchanged
      cases answer with
      | ok _ =>
        refine absurd removed (remove_of_directory ?_)
        rw [show stopped.files.inner = _ from inner]
        exact there
      | error error => exact ⟨⟨_, rfl⟩, (quiet_of_call_error removed).trans (unchanged.trans same)⟩

/-- A session with a directory in place of the manifest, and a devfile at another place. -/
def obstructedSession : Session (Faulty FileTree) :=
  let tree := (FileTree.new ⟨"/app"⟩).withFile ⟨"/t/d.yaml"⟩ "schemaVersion: 2.2.0".toUTF8
  { files := { inner := tree.addDirs (tree.resolve ⟨"devfile.yaml"⟩), faults := [], special := [], modes := [] } }

/-- The devfile cannot be staged, and the directory stays. -/
theorem initialise_spares_directory :
    ((initialise [] shopFlags).apply obstructedSession).1 =
        .error ⟨.io "write devfile" ⟨"/app/devfile.yaml"⟩ "/app/devfile.yaml: is a directory", .devfileRemoved⟩ ∧
      ((initialise [] shopFlags).apply obstructedSession).2.files.quiet = obstructedSession.files.quiet := by
  have failed : ((initialise [] shopFlags).apply obstructedSession).1 =
      .error ⟨.io "write devfile" ⟨"/app/devfile.yaml"⟩ "/app/devfile.yaml: is a directory", .devfileRemoved⟩ := by
    decide +kernel
  have present : obstructedSession.files.inner.isDirectoryAt
      (obstructedSession.files.inner.resolve (manifestPath obstructedSession.files.inner.workingDirectory)) = true := by
    decide +kernel
  exact ⟨failed, (initialise_spares (.directory (FileTree.isDirectoryAt_iff.mp present)) (Prod.ext failed rfl)).2⟩

/-- A session with an entry in place of the manifest that is neither a file nor a directory. -/
def specialSession : Session (Faulty FileTree) :=
  { files :=
      { inner := ((FileTree.new ⟨"/app"⟩).withFile ⟨"devfile.yaml"⟩ "x".toUTF8).withFile ⟨"/t/d.yaml"⟩
          "schemaVersion: 2.2.0".toUTF8
        faults := []
        special := [⟨"/app/devfile.yaml"⟩]
        modes := [] } }

/-- Such an entry does not survive: a run that succeeds writes the manifest over it, and one that fails removes it. -/
theorem specialSession_loses_entry :
    ((stat ⟨"/app/devfile.yaml"⟩).apply specialSession).1 = .ok (⟨.other, 1⟩ : Metadata) ∧
      specialSession.files.inner.contents? ⟨"/app/devfile.yaml"⟩ = some "x" ∧
      ((initialise [] shopFlags).apply specialSession).1 = .ok ⟨"shop", ⟨"/app/devfile.yaml"⟩, .flags, none, false⟩ ∧
      ((initialise [] shopFlags).apply specialSession).2.files.inner.contents? ⟨"/app/devfile.yaml"⟩ =
        some "schemaVersion: 2.2.0\nmetadata:\n  name: shop\n" ∧
      ((initialise [] { shopFlags with starter := some "go" }).apply specialSession).1 =
        .error ⟨.starterNotFound "go" "none", .devfileRemoved⟩ ∧
      ((initialise [] { shopFlags with starter := some "go" }).apply specialSession).2.files.inner.contents?
        ⟨"/app/devfile.yaml"⟩ = none := by
  decide +kernel

end Run

end Scaffold
