import Scaffold.Proofs.Initialise.Rollback
import Scaffold.Proofs.Starter.Untouched

/-! # Which manifest stays

A starter project is laid out over the files from before the run: the staged manifest is removed first, so that a
manifest found afterwards is the project's own. That one decides if there is one, and else the one that was staged;
what is written in the end, and what is told and recorded, comes from the one that decides and from the name alone.
-/

namespace Scaffold.Run

variable {directory : Path} {session after : Session (Faulty FileTree)} {registries : List Registry} {flags : Flags}

/-! ## Staging and laying out -/

/-- The bytes that were staged are in the manifest when preparing is done. -/
theorem Prepares.get?_manifest {backend : BackendKind} {plan : Plan} {acquired : ByteArray}
    (prepares : Prepares backend flags directory session plan acquired after) :
    after.files.inner.get? (after.files.inner.resolve (manifestPath directory)) = some (.file acquired) ∧
      ∃ origin, Manifest.ofContents acquired origin (manifestPath directory) = .ok plan.staged := by
  obtain ⟨origin, opened, staged, opening, staging, onward⟩ := prepares.staging
  obtain ⟨accepted, wrote⟩ := Manifest.stage_eq_ok staging
  refine ⟨?_, origin, accepted⟩
  rw [resolve_of_advances onward, onward.inner, resolve_of_advances (call_logs wrote), get?_of_write_ok wrote,
    if_pos rfl]

/-- A project that was laid out without faults was laid out over the files from before its manifest was staged. -/
theorem layout_of_download {starter : Devfile.StarterProject} {original : Faulty FileTree} (clear : original.Clear)
    (noFile : original.inner.isFileAt (original.inner.resolve (manifestPath directory)) = false)
    (staged : Staged (manifestPath directory) original session.files)
    (downloaded : (starter.download directory).apply session = (.ok (), after)) :
    ∃ overlay step cleared count, overlay.destination = directory ∧ Overlay.Lays overlay step ∧
      cleared.files = original ∧ step.apply cleared = (.ok count, after) := by
  rcases (starter.download_endsLayingOut directory).cases downloaded with
    ⟨_, _, impossible, _⟩ | ⟨_, acquired, ⟨overlay, step, rfl, lays, rfl⟩, advance, laid⟩
  · cases impossible
  · obtain ⟨cleared, count, clearing, ran⟩ := Devfile.StarterProject.layOut_eq_ok laid
    obtain ⟨_, removed, _⟩ := Overlay.clearManifest_cases clearing
    rw [← advance.files_of_clear (staged.clear clear)] at staged
    exact ⟨overlay, step, cleared, count, rfl, lays, Restorable.remove (.inr staged) clear noFile removed, ran⟩

/-! ## Settling -/

/-- The bytes that decide about the manifest: those in the tree if there are any, else those that were acquired. -/
def settledContents (directory : Path) (acquired : ByteArray) (tree : FileTree) : ByteArray :=
  match tree.get? (tree.resolve (manifestPath directory)) with
  | some (.file contents) => contents
  | _ => acquired

theorem settledManifest_of_clear {staged manifest : Manifest} {acquired : ByteArray} {origin : String}
    (clear : session.files.Clear) (accepted : Manifest.ofContents acquired origin (manifestPath directory) = .ok staged)
    (ran : (settledManifest staged).apply session = (.ok manifest, after)) :
    ∃ origin, Manifest.ofContents (settledContents directory acquired session.files.inner) origin
      (manifestPath directory) = .ok manifest := by
  have place : staged.path = manifestPath directory := (Manifest.ofContents_eq_ok.mp accepted).2.2
  obtain ⟨found, looked, inspected, ran⟩ := bind_eq_ok ran
  obtain ⟨other, answered, same⟩ := isFile_of_quiet clear.faults
    (show session.files.isSpecial staged.path = false by simp [Faulty.isSpecial, clear.special])
  rw [answered] at inspected
  obtain ⟨told, rfl⟩ := Prod.mk.inj inspected
  obtain rfl := Except.ok.inj told
  rw [place] at ran
  unfold settledContents
  rcases node : session.files.inner.get? (session.files.inner.resolve (manifestPath directory)) with
    _ | contents | _
  · simp only [FileTree.isFileAt, node, Bool.false_eq_true, ↓reduceIte] at ran
    exact ⟨origin, (Prod.mk.inj ran).1 ▸ accepted⟩
  · simp only [FileTree.isFileAt, node, ↓reduceIte] at ran
    obtain ⟨read, told, accepted⟩ := Manifest.read_eq_ok ran
    have present := FileTree.read_eq_ok.mp (read_ok told).1
    rw [same, node] at present
    obtain ⟨rfl⟩ := present
    exact ⟨_, accepted⟩
  · simp only [FileTree.isFileAt, node, Bool.false_eq_true, ↓reduceIte] at ran
    exact ⟨origin, (Prod.mk.inj ran).1 ▸ accepted⟩

/-- A project's own manifest that is none is refused, and stays. -/
theorem settledManifest_refused {staged : Manifest} {contents : ByteArray} {cause : Cause}
    (clear : session.files.Clear) (place : staged.path = manifestPath directory)
    (present : session.files.inner.get? (session.files.inner.resolve (manifestPath directory)) = some (.file contents))
    (refused : Manifest.ofContents contents (manifestPath directory).text (manifestPath directory) = .error cause) :
    ∃ after, (settledManifest staged).apply session = (.error cause, after) ∧ after.files = session.files := by
  obtain ⟨looked, inspected, same⟩ := isFile_of_quiet clear.faults
    (show session.files.isSpecial staged.path = false by simp [Faulty.isSpecial, clear.special])
  rw [← same] at clear present
  obtain ⟨after, told, unchanged⟩ := read_of_quiet clear.faults present
  refine ⟨after, ?_, unchanged.trans same⟩
  unfold settledManifest
  rw [apply_bind_of_ok inspected, place]
  have file : session.files.inner.isFileAt (session.files.inner.resolve (manifestPath directory)) = true :=
    FileTree.isFileAt_iff.mpr ⟨contents, same ▸ present⟩
  rw [if_pos file]
  rw [Manifest.read_of_told told, refused]

/-! ## The whole run -/

/-- A run came to lay a starter project out: its plan, the bytes it had staged, and the session after the layout. -/
structure LaidOut (registries : List Registry) (flags : Flags) (session : Session (Faulty FileTree)) (directory : Path)
    (plan : Plan) (acquired : ByteArray) (laid : Session (Faulty FileTree)) : Prop where
  reached : ∃ empty inspected prepared starter,
    (inspect registries flags).apply session = (.ok (directory, empty), inspected) ∧
      (prepare (BackendKind.choose flags empty) registries flags directory empty).apply inspected =
        (.ok plan, prepared) ∧
      prepared.files.inner.get? (prepared.files.inner.resolve (manifestPath directory)) = some (.file acquired) ∧
      plan.starter? = some starter ∧ (starter.download directory).apply prepared = (.ok (), laid)

/-- What a run leaves that laid a starter project out: the manifest of one devfile under the name of the component, and
what is told of that devfile. -/
structure Settles (registries : List Registry) (flags : Flags) (session : Session (Faulty FileTree))
    (component : Component) (after : Session (Faulty FileTree)) (directory : Path) (plan : Plan) (acquired : ByteArray)
    (laid : Session (Faulty FileTree)) (devfile : Devfile) : Prop where
  reached : LaidOut registries flags session directory plan acquired laid
  /-- The layout began with the files from before the run, without a manifest. -/
  layout : ∃ overlay step cleared count, overlay.destination = directory ∧ Overlay.Lays overlay step ∧
    cleared.files = session.files ∧
    session.files.inner.isFileAt (session.files.inner.resolve (manifestPath directory)) = false ∧
    step.apply cleared = (.ok count, laid)
  parsed : Devfile.ofContents? (settledContents directory acquired laid.files.inner) = some devfile
  sound : devfile.defect? = none
  files : ∀ route, after.files.inner.get? route =
    if laid.files.inner.resolve (manifestPath directory) = route then
      some (.file (devfile.withName component.name).text.toUTF8)
    else laid.files.inner.get? route
  deploys : component.hasDeployCommand = devfile.hasDeployCommand
  telemetry : after.telemetry = describe (devfile.withName component.name)
    (session.telemetry.record .interactive (.bool flags.isEmpty))

theorem settles_of_success {component : Component} (clear : session.files.Clear)
    (ran : (initialise registries flags).apply session = (.ok component, after))
    (started : component.starter?.isSome = true) :
    ∃ directory plan acquired laid devfile,
      Settles registries flags session component after directory plan acquired laid devfile := by
  cases initialise_ends ran with
  | settled directory empty inspected _ _ passed ran =>
    obtain ⟨sets⟩ := setUp_eq_ok ran
    have telemetry := sets.telemetry
    obtain ⟨plan, prepared, manifest, settled, committed, preparing, settling, committing, rfl, rfl⟩ := sets
    obtain ⟨starter, chosen⟩ : ∃ starter, plan.starter? = some starter := by
      simpa [componentOf, Option.isSome_iff_exists] using started
    rw [chosen] at settling
    obtain ⟨laid, downloaded, settlement⟩ := withStarter_eq_ok settling
    -- Up to the layout the files are those from before, then with the manifest staged.
    obtain ⟨same, _, noFile⟩ := inspect_of_clear clear passed
    rw [← same] at clear noFile
    obtain ⟨acquired, prepares⟩ := prepare_eq_ok preparing
    obtain ⟨present, origin, accepted⟩ := prepares.get?_manifest
    have staged := prepares.staged clear
    obtain ⟨overlay, step, cleared, count, below, lays, restored, laying⟩ :=
      layout_of_download clear noFile staged downloaded
    -- From the layout on only the manifest is read and written.
    have still := ((starter.download_logged directory).advances downloaded).clear (staged.clear clear)
    obtain ⟨_, decided⟩ := settledManifest_of_clear still accepted settlement
    obtain ⟨parsed, sound, place⟩ := Manifest.ofContents_eq_ok.mp decided
    have unchanged := ((settledManifest_looks _).reads.advances settlement).files_of_clear still
    have wrote := commit_eq_ok committing
    refine ⟨directory, plan, acquired, laid, manifest.devfile, ?_⟩
    exact
      { reached := ⟨empty, inspected, prepared, starter, passed, preparing, present, chosen, downloaded⟩
        layout := ⟨overlay, step, cleared, count, below, lays, restored.trans same, same ▸ noFile, laying⟩
        parsed
        sound
        files := fun route => by
          rw [← place, ← unchanged]
          exact get?_of_write_ok wrote route
        deploys := rfl
        telemetry := by
          rw [← inspect_telemetry passed]
          exact telemetry }

/-- A run whose starter project brought a manifest that is refused fails and keeps the files. -/
theorem refusal_of_manifest {plan : Plan} {acquired contents : ByteArray} {laid : Session (Faulty FileTree)}
    {cause : Cause} (clear : session.files.Clear) (reached : LaidOut registries flags session directory plan acquired laid)
    (present : laid.files.inner.get? (laid.files.inner.resolve (manifestPath directory)) = some (.file contents))
    (refused : Manifest.ofContents contents (manifestPath directory).text (manifestPath directory) = .error cause) :
    ∃ after, (initialise registries flags).apply session = (.error ⟨cause, .preserved⟩, after) ∧
      after.files = laid.files := by
  obtain ⟨empty, inspected, prepared, starter, passed, preparing, _, chosen, downloaded⟩ := reached
  obtain ⟨same, _, _⟩ := inspect_of_clear clear passed
  rw [← same] at clear
  obtain ⟨_, prepares⟩ := prepare_eq_ok preparing
  obtain ⟨_, _, accepted⟩ := prepares.get?_manifest
  have still := ((starter.download_logged directory).advances downloaded).clear ((prepares.staged clear).clear clear)
  obtain ⟨after, failed, unchanged⟩ :=
    settledManifest_refused still (Manifest.ofContents_eq_ok.mp accepted).2.2 present refused
  refine ⟨after, ?_, unchanged⟩
  have starting : (withStarter plan.starter? plan.staged directory).apply prepared = (.error ⟨cause, true⟩, after) := by
    rw [chosen, withStarter, apply_bind_of_ok downloaded]
    exact mapError_eq_error.mpr ⟨cause, failed, rfl⟩
  have setting : (setUp registries flags directory empty).apply inspected = (.error ⟨cause, true⟩, after) := by
    have first : (beforeStarter (prepare (BackendKind.choose flags empty) registries flags directory empty)).apply
        inspected = (.ok plan, prepared) := mapError_eq_ok.mpr preparing
    rw [setUp, apply_bind_of_ok first, apply_bind_of_error starting]
  rw [initialise_of_setback passed setting]
  rfl

/-- Which manifest stays after a starter project was laid out without faults. The layout starts from the files from
before the run, so that a manifest in its result is the project's own: that one, or without one the one that was staged,
is what the final manifest, the component and the telemetry are made of. One that is refused fails the run and stays. -/
theorem starter_manifest_precedes (clear : session.files.Clear) :
    (∀ component after, (initialise registries flags).apply session = (.ok component, after) →
      component.starter?.isSome = true → ∃ directory plan acquired laid devfile,
        Settles registries flags session component after directory plan acquired laid devfile) ∧
    ∀ directory plan acquired laid contents cause, LaidOut registries flags session directory plan acquired laid →
      laid.files.inner.get? (laid.files.inner.resolve (manifestPath directory)) = some (.file contents) →
      Manifest.ofContents contents (manifestPath directory).text (manifestPath directory) = .error cause →
      ∃ reason after, cause = .manifestInvalid (manifestPath directory).text reason ∧
        (initialise registries flags).apply session = (.error ⟨cause, .preserved⟩, after) ∧
        after.files = laid.files := by
  refine ⟨fun component after ran started => settles_of_success clear ran started, ?_⟩
  intro directory plan acquired laid contents cause reached present refused
  obtain ⟨after, failed, unchanged⟩ := refusal_of_manifest clear reached present refused
  obtain ⟨reason, told⟩ := Manifest.ofContents_eq_error refused
  exact ⟨reason, after, told, failed, unchanged⟩

/-- A session in an empty directory, with a devfile at another place whose starter project brings a manifest. -/
def starterSession : Session (Faulty FileTree) :=
  { files :=
      { inner := (FileTree.new ⟨"/app"⟩).withFile ⟨"/t/d.yaml"⟩
          "schemaVersion: 2.2.0\nstarterProjects:\n- name: go\n  zip:\n    location: http://dl.test/s.zip".toUTF8
        faults := []
        special := []
        modes := [] }
    network :=
      { pages :=
          [("http://dl.test/s.zip",
            [.answer 200 (Devfile.StarterProject.storedArchive "r/devfile.yaml" "schemaVersion: 2.1.0".toUTF8) none
              true])] } }

private theorem starterSession_succeeds :
    ((initialise [] starterFlags).apply starterSession).1 =
      .ok ⟨"app", ⟨"/app/devfile.yaml"⟩, .flags, some "go", false⟩ := by
  decide +kernel

/-- The manifest of the project is the one that stays. -/
theorem starter_manifest_precedes_staged :
    ((initialise [] starterFlags).apply starterSession).1 =
        .ok ⟨"app", ⟨"/app/devfile.yaml"⟩, .flags, some "go", false⟩ ∧
      ∃ directory plan acquired laid devfile,
        Settles [] starterFlags starterSession ⟨"app", ⟨"/app/devfile.yaml"⟩, .flags, some "go", false⟩
          ((initialise [] starterFlags).apply starterSession).2 directory plan acquired laid devfile :=
  ⟨starterSession_succeeds,
    (starter_manifest_precedes ⟨rfl, rfl⟩).1 _ _ (Prod.ext starterSession_succeeds rfl) rfl⟩

end Scaffold.Run
