import Scaffold.Proofs.Files.Frame
import Scaffold.Proofs.Initialise.Outcome
import Scaffold.Proofs.Initialise.Preservation

/-! # What a run leaves alone

However a run turns out, it writes and removes no file but the manifest of the directory, and, once it has decided on a
starter project, the places that the overlay assigned to the entries of what was acquired. Every call of every phase
keeps to this, so that the rest of the tree is left alone.
-/

namespace Scaffold.Run

section

variable {σ : Type} [Storage σ] {registries : List Registry} {flags : Flags} {directory : Path} {empty : Bool}
  {session inspected after : Session σ} {assigned : Path → Prop}

/-- A place that the overlay of a run assigned to an entry of the starter project that it acquired. -/
def Assigned (registries : List Registry) (flags : Flags) (session : Session σ) (target : Path) : Prop :=
  ∃ directory plan starter prepared overlay acquisition acquired,
    ReachesStarter registries flags session directory plan starter prepared ∧
      starter.Acquires directory prepared overlay acquisition acquired ∧ acquisition.Assigns overlay target

theorem download_within {starter : Devfile.StarterProject} {outcome : Except Setback Unit}
    (assigns : ∀ {overlay acquisition acquired}, starter.Acquires directory session overlay acquisition acquired →
      ∀ target, acquisition.Assigns overlay target → assigned target)
    (ran : (starter.download directory).apply session = (outcome, after)) :
    session.Advances (Event.Within (manifestPath directory) assigned) after := by
  rcases Devfile.StarterProject.download_cases ran with
    ⟨_, _, _, advance⟩ | ⟨overlay, acquisition, acquired, acquires, laid⟩
  · exact advance.weaken fun _ outside => outside.reads.within
  · have lays : (acquisition.layOut overlay : Run σ _ _).Only (Event.Within (manifestPath directory) assigned) :=
      (acquisition.layOut_places overlay).weaken fun _ ⟨target, fit, places⟩ =>
        places.within (assigns acquires target fit)
    have clear : ∀ error?, (Event.files (.remove (manifestPath overlay.destination)) error?).Within
        (manifestPath directory) assigned := fun _ => by rw [acquires.destination]; rfl
    exact (acquires.advances.weaken fun _ outside => outside.reads.within).trans
      ((Devfile.StarterProject.layOut_only clear lays).advances laid)

theorem withStarter_within {starter? : Option Devfile.StarterProject} {staged : Manifest}
    {outcome : Except Setback Manifest}
    (assigns : ∀ {starter overlay acquisition acquired}, starter? = some starter →
      starter.Acquires directory session overlay acquisition acquired →
      ∀ target, acquisition.Assigns overlay target → assigned target)
    (ran : (withStarter starter? staged directory).apply session = (outcome, after)) :
    session.Advances (Event.Within (manifestPath directory) assigned) after := by
  cases starter? with
  | none =>
    obtain ⟨_, rfl⟩ := Prod.mk.inj ran
    exact .refl _
  | some starter =>
    rcases bind_cases ran with ⟨_, _, failed⟩ | ⟨_, laid, downloaded, settling⟩
    · exact download_within (assigns rfl) failed
    · exact (download_within (assigns rfl) downloaded).trans
        ((only_mapError ((settledManifest_looks staged).weaken fun _ looks => looks.reads.within)).advances settling)

theorem setUp_within {outcome : Except Setback Component}
    (passed : (inspect registries flags).apply session = (.ok (directory, empty), inspected))
    (ran : (setUp registries flags directory empty).apply inspected = (outcome, after)) :
    inspected.KeepsTo (Event.Within (manifestPath directory) (Assigned registries flags session)) after := by
  have prepares : (beforeStarter (prepare (BackendKind.choose flags empty) registries flags directory empty) :
      Run σ Setback Plan).Only (Event.Within (manifestPath directory) (Assigned registries flags session)) :=
    only_mapError (prepare_only (fun _ reads => reads.within) fun _ _ => .inl rfl)
  rcases bind_cases ran with ⟨_, _, failed⟩ | ⟨plan, prepared, preparing, ran⟩
  · exact (prepares.advances failed).keepsTo
  have opening := prepares.advances preparing
  have preparing := mapError_eq_ok.mp preparing
  have assigns : ∀ {starter overlay acquisition acquired}, plan.starter? = some starter →
      starter.Acquires directory prepared overlay acquisition acquired →
      ∀ target, acquisition.Assigns overlay target → Assigned registries flags session target :=
    fun chosen acquires target fit =>
      ⟨_, _, _, _, _, _, _, ⟨⟨empty, inspected, passed, preparing⟩, chosen⟩, acquires, fit⟩
  rcases bind_cases ran with ⟨_, _, failed⟩ | ⟨manifest, settled, settling, ran⟩
  · exact (opening.trans (withStarter_within assigns failed)).keepsTo
  have onward := opening.trans (withStarter_within assigns settling)
  have commits : (afterStarter plan.starter? (commit (manifest.withName plan.name)) : Run σ Setback Unit).Only
      (Event.Within (manifestPath directory) (Assigned registries flags session)) :=
    only_mapError (commit_only fun _ _ => .inl (accepted_of_settling preparing settling).2)
  rcases bind_cases ran with ⟨_, _, failed⟩ | ⟨_, committed, committing, ran⟩
  · exact (onward.trans (commits.advances failed)).keepsTo
  have last := onward.trans (commits.advances committing)
  rcases bind_cases ran with ⟨_, _, impossible⟩ | ⟨_, _, recording, returned⟩
  · cases impossible
  · obtain ⟨_, rfl⟩ := Prod.mk.inj returned
    rw [recordComponent_apply] at recording
    obtain ⟨_, rfl⟩ := Prod.mk.inj recording
    exact last.keepsTo.trans (committed.keepsTo_record _)

end

variable {registries : List Registry} {flags : Flags} {outcome : Except Failure Component}
  {session after : Session (Faulty FileTree)}

/-- Every call of a run that changes something is for the manifest or for a place that is assigned. -/
theorem initialise_within (ran : (initialise registries flags).apply session = (outcome, after)) :
    session.KeepsTo (Event.Within (manifestPath session.files.inner.workingDirectory)
      (Assigned registries flags session)) after := by
  have inspects : ∀ {outcome : Except Cause (Path × Bool)} {inspected : Session (Faulty FileTree)},
      (inspect registries flags).apply session = (outcome, inspected) →
        session.KeepsTo (Event.Within (manifestPath session.files.inner.workingDirectory)
          (Assigned registries flags session)) inspected :=
    fun ran => (inspect_keepsTo ran).weaken fun _ looks => looks.reads.within
  cases initialise_ends ran with
  | refused cause _ failed => exact inspects failed
  | settled directory empty inspected component _ passed ran =>
    obtain ⟨rfl, _⟩ := inspect_keeps passed
    exact (inspects passed).trans (setUp_within passed ran)
  | preserved directory empty inspected cause _ passed failed =>
    obtain ⟨rfl, _⟩ := inspect_keeps passed
    exact (inspects passed).trans (setUp_within passed failed)
  | rolledBack directory empty inspected stopped cause answer _ passed failed removed =>
    obtain ⟨rfl, _⟩ := inspect_keeps passed
    have undo : (remove (manifestPath session.files.inner.workingDirectory) : Run (Faulty FileTree) _ _).Only
        (Event.Within (manifestPath session.files.inner.workingDirectory) (Assigned registries flags session)) :=
      only_call fun _ => rfl
    exact (inspects passed).trans ((setUp_within passed failed).trans (undo.advances removed).keepsTo)

/-- However a run turns out and whatever faults strike, it leaves the tree alone but for the manifest of the directory
and the places that the overlay assigned; without a starter project just the manifest may differ. No call removes
anything else or writes anywhere else. -/
theorem initialise_leavesAlone (ran : (initialise registries flags).apply session = (outcome, after)) :
    FileTree.LeavesAlone (manifestPath session.files.inner.workingDirectory) (Assigned registries flags session)
        session.files.inner after.files.inner ∧
      ((∀ directory plan starter prepared,
          ¬ ReachesStarter registries flags session directory plan starter prepared) →
        ∀ route, route ≠ session.files.inner.resolve (manifestPath session.files.inner.workingDirectory) →
          after.files.inner.get? route = session.files.inner.get? route) ∧
      session.KeepsTo (Event.Within (manifestPath session.files.inner.workingDirectory)
        (Assigned registries flags session)) after := by
  have within := initialise_within ran
  refine ⟨within.leavesAlone, fun noStarter route other => ?_, within⟩
  refine within.leavesAlone.get?_eq ?_ other
  rintro target ⟨directory, plan, starter, prepared, _, _, _, reaches, _⟩
  exact noStarter directory plan starter prepared reaches

/-- A run that laid a starter project out and then failed left the rest of the tree alone. -/
theorem initialise_leavesAlone_uncommitted :
    FileTree.LeavesAlone (manifestPath ⟨"/app"⟩) (Assigned [] starterFlags uncommittedSession)
      uncommittedSession.files.inner ((initialise [] starterFlags).apply uncommittedSession).2.files.inner := by
  rcases ran : (initialise [] starterFlags).apply uncommittedSession with ⟨outcome, after⟩
  exact (initialise_leavesAlone ran).1

end Scaffold.Run
