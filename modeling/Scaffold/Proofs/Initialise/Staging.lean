import Scaffold.Proofs.Initialise.Precedence

/-! # What is staged

Until the starter project is laid out or the manifest is committed, a run writes at most once: some bytes were acquired,
they were accepted as a devfile, and they are written as they are. So where there was no manifest before the run, one
that is found at any such moment is a devfile, and a run that fails while it acquires one has written nothing.
-/

namespace Scaffold

/-- An event that writes a file. -/
def Event.Writes : Event → Prop
  | .files (.write _ _) _ => True
  | _ => False

theorem Event.Reads.not_writes {event : Event} (reads : event.Reads) : ¬ event.Writes := by
  cases event with
  | files call _ => cases call <;> first | exact id | cases reads
  | _ => exact id

namespace Session

variable {before after moment session : Session (Faulty FileTree)} {path : Path}

/-- What there is at a path. -/
def found? (session : Session (Faulty FileTree)) (path : Path) : Option Node :=
  session.files.inner.get? (session.files.inner.resolve path)

theorem found?_congr (inner : after.files.inner = before.files.inner) (path : Path) :
    after.found? path = before.found? path := by
  rw [found?, inner, found?]

theorem KeepsTo.found? (keeps : before.KeepsTo Event.Reads after) (path : Path) :
    after.found? path = before.found? path :=
  found?_congr keeps.inner path

theorem Spans.found? (still : before.Spans [] after) (path : Path) : after.found? path = before.found? path :=
  found?_congr (congrArg Faulty.inner still.files) path

/-- No step writes that reads. -/
theorem KeepsTo.noWrite (keeps : before.KeepsTo Event.Reads after) : before.KeepsTo (¬ ·.Writes) after :=
  keeps.weaken fun _ reads => reads.not_writes

end Session

namespace Run

variable {registries : List Registry} {flags : Flags} {directory : Path} {empty : Bool} {backend : BackendKind}
  {contents : ByteArray} {session start stop moment after : Session (Faulty FileTree)}

/-! ## Before anything else is written -/

/-- Some bytes were acquired by a step, before which a run only read, and they are accepted as a devfile. -/
inductive AcquiresAccepted (flags : Flags) (directory : Path) (contents : ByteArray)
    (start acquired : Session (Faulty FileTree)) : Prop
  | taken (step : Run (Faulty FileTree) Cause ByteArray) (origin : String) (manifest : Manifest)
      (opened : Session (Faulty FileTree)) (acquiring : Acquiring flags directory step origin)
      (since : start.KeepsTo Event.Reads opened) (ran : step.apply opened = (.ok contents, acquired))
      (accepted : Manifest.ofContents contents origin (manifestPath directory) = .ok manifest)

section

variable {acquired : Session (Faulty FileTree)}

theorem AcquiresAccepted.reads (acquires : AcquiresAccepted flags directory contents start acquired) :
    start.KeepsTo Event.Reads acquired := by
  cases acquires with
  | taken _ _ _ _ acquiring since ran _ => exact since.trans (acquiring.reads.advances ran).keepsTo

theorem AcquiresAccepted.prepend (reads : session.KeepsTo Event.Reads start)
    (acquires : AcquiresAccepted flags directory contents start acquired) :
    AcquiresAccepted flags directory contents session acquired := by
  cases acquires with
  | taken step origin manifest opened acquiring since ran accepted =>
    exact .taken step origin manifest opened acquiring (reads.trans since) ran accepted

end

/-- Between two sessions a manifest was staged at most: bytes were acquired, accepted and written, and everything else
only read. -/
inductive StagesAtMost (flags : Flags) (directory : Path) (start stop : Session (Faulty FileTree)) : Prop
  | reading (keeps : start.KeepsTo Event.Reads stop)
  | writing (contents : ByteArray) (acquired written : Session (Faulty FileTree)) (answer : Except IoError Unit)
      (acquires : AcquiresAccepted flags directory contents start acquired)
      (wrote : (write (manifestPath directory) contents).apply acquired = (answer, written))
      (onward : written.KeepsTo Event.Reads stop)

theorem StagesAtMost.prepend (reads : session.KeepsTo Event.Reads start)
    (stages : StagesAtMost flags directory start stop) : StagesAtMost flags directory session stop := by
  cases stages with
  | reading keeps => exact .reading (reads.trans keeps)
  | writing contents acquired written answer acquires wrote onward =>
    exact .writing contents acquired written answer (acquires.prepend reads) wrote onward

theorem StagesAtMost.append (stages : StagesAtMost flags directory start stop)
    (reads : stop.KeepsTo Event.Reads after) : StagesAtMost flags directory start after := by
  cases stages with
  | reading keeps => exact .reading (keeps.trans reads)
  | writing contents acquired written answer acquires wrote onward =>
    exact .writing contents acquired written answer acquires wrote (onward.trans reads)

theorem StagesAtMost.precedes (stages : StagesAtMost flags directory start stop) : start.Precedes stop := by
  cases stages with
  | reading keeps => exact keeps.precedes
  | writing contents acquired written answer acquires wrote onward =>
    have passing : acquired.Precedes written := ⟨_, (Session.leads_of_answer wrote).toSpans⟩
    exact acquires.reads.precedes.trans (passing.trans onward.precedes)

/-- Up to any moment on the way, too, a manifest was staged at most. -/
theorem StagesAtMost.cut (stages : StagesAtMost flags directory start stop) (since : start.Precedes moment)
    (onward : moment.Precedes stop) : StagesAtMost flags directory start moment := by
  cases stages with
  | reading keeps => exact .reading (keeps.cut since onward).1
  | writing contents acquired written answer acquires wrote closing =>
    have single := (Session.leads_of_answer wrote).toSpans
    have passing : acquired.Precedes written := ⟨_, single⟩
    have staged : written.KeepsTo Event.Reads moment → StagesAtMost flags directory start moment :=
      .writing contents acquired written answer acquires wrote
    rcases acquires.reads.precedes.total (passing.trans closing.precedes) since onward with before | beyond
    · exact .reading (acquires.reads.cut since before).1
    -- The write is a single event, so that the moment is before or after it.
    rcases passing.total closing.precedes beyond onward with before | beyond
    · rcases single.around beyond before with same | same
      · exact .reading (acquires.reads.trans same.keepsTo)
      · exact staged same.keepsTo
    · exact staged (closing.cut beyond onward).1

/-- A manifest was staged, and nothing was written before or after it: some bytes were acquired and accepted, and they
were written just then. -/
inductive StagedAt (flags : Flags) (directory : Path) (contents : ByteArray)
    (start moment : Session (Faulty FileTree)) : Prop
  | staged (acquired written : Session (Faulty FileTree))
      (acquires : AcquiresAccepted flags directory contents start acquired)
      (wrote : (write (manifestPath directory) contents).apply acquired = (.ok (), written))
      (onward : written.KeepsTo (¬ ·.Writes) moment)

theorem StagedAt.append (staged : StagedAt flags directory contents start moment)
    (onward : moment.KeepsTo (¬ ·.Writes) after) : StagedAt flags directory contents start after := by
  cases staged with
  | staged acquired written acquires wrote still => exact .staged acquired written acquires wrote (still.trans onward)

/-- A manifest that was not there before was staged. -/
theorem StagesAtMost.stagedAt (stages : StagesAtMost flags directory start moment)
    (absent : start.found? (manifestPath directory) = none)
    (present : moment.found? (manifestPath directory) = some (.file contents)) :
    StagedAt flags directory contents start moment := by
  cases stages with
  | reading keeps =>
    rw [keeps.found?, absent] at present
    cases present
  | writing bytes acquired written answer acquires wrote onward =>
    rw [onward.found?] at present
    cases answer with
    | error error =>
      rw [Session.found?_congr (call_error wrote).1, acquires.reads.found?, absent] at present
      cases present
    | ok _ =>
      have found := get?_of_write_ok wrote (acquired.files.inner.resolve (manifestPath directory))
      rw [if_pos rfl] at found
      rw [Session.found?, resolve_of_advances (call_logs wrote), found] at present
      cases present
      exact .staged acquired written acquires wrote onward.noWrite

/-- A manifest that is found while a run rolls back was staged too, as it is there because it could not be removed. -/
theorem StagesAtMost.stagedAt_of_removed {answer : Except IoError Unit}
    (stages : StagesAtMost flags directory start stop)
    (removed : (remove (manifestPath directory)).apply stop = (answer, after)) (since : start.Precedes moment)
    (onward : moment.Precedes after) (absent : start.found? (manifestPath directory) = none)
    (present : moment.found? (manifestPath directory) = some (.file contents)) :
    StagedAt flags directory contents start moment := by
  have single := (Session.leads_of_answer removed).toSpans
  have undoing : stop.Precedes after := ⟨_, single⟩
  rcases stages.precedes.total undoing since onward with before | beyond
  · exact (stages.cut since before).stagedAt absent present
  rcases single.around beyond onward with same | same
  · exact (stages.append same.keepsTo).stagedAt absent present
  · rw [same.found?] at present
    cases answer with
    | error error =>
      rw [Session.found?_congr (call_error removed).1] at present
      exact (stages.stagedAt absent present).append ⟨_, single.append same, List.forall_mem_singleton.mpr id⟩
    | ok _ =>
      have gone := FileTree.get?_remove (remove_ok removed) (stop.files.inner.resolve (manifestPath directory))
      rw [if_pos rfl] at gone
      rw [Session.found?, resolve_of_advances (call_logs removed), gone] at present
      cases present

/-! ## The phases -/

/-- How the selection of a manifest comes out: it fails and has only read, it fails in writing the bytes that it
acquired, or it stages them. -/
inductive SelectionEnds (flags : Flags) (directory : Path) (session after : Session (Faulty FileTree)) :
    Except Cause Manifest → Prop
  | failed (cause : Cause) (reads : session.KeepsTo Event.Reads after) :
      SelectionEnds flags directory session after (.error cause)
  | unwritten (contents : ByteArray) (acquired : Session (Faulty FileTree)) (error : IoError)
      (acquires : AcquiresAccepted flags directory contents session acquired)
      (wrote : (write (manifestPath directory) contents).apply acquired = (.error error, after)) :
      SelectionEnds flags directory session after (.error (.io "write devfile" (manifestPath directory) error.message))
  | staged (contents : ByteArray) (acquired : Session (Faulty FileTree)) (manifest : Manifest)
      (acquires : AcquiresAccepted flags directory contents session acquired)
      (wrote : (write (manifestPath directory) contents).apply acquired = (.ok (), after)) :
      SelectionEnds flags directory session after (.ok manifest)

theorem selectManifest_ends {outcome : Except Cause Manifest}
    (ran : (backend.selectManifest registries flags directory).apply session = (outcome, after)) :
    SelectionEnds flags directory session after outcome := by
  rcases (backend.selectManifest_endsAcquiring registries flags directory).cases ran with
    ⟨cause, _, rfl, advance⟩ | ⟨_, opened, ⟨step, origin, acquiring, rfl⟩, advance, ran⟩
  · exact .failed cause advance.keepsTo
  rcases bind_cases ran with ⟨cause, rfl, failed⟩ | ⟨contents, acquired, took, ran⟩
  · exact .failed cause (advance.trans (acquiring.reads.advances failed)).keepsTo
  have taken := advance.trans (acquiring.reads.advances took)
  rcases bind_cases ran with ⟨cause, rfl, refused⟩ | ⟨_, _, passed, ran⟩
  · exact .failed cause (taken.trans (only_checkCancelled.advances refused)).keepsTo
  rw [(checkCancelled_eq_ok passed).2] at ran
  rcases Manifest.stage_cases ran with ⟨cause, _, rfl, same⟩ | ⟨manifest, answer, accepted, wrote, rfl⟩
  · exact .failed cause (same ▸ taken.keepsTo)
  · have acquires : AcquiresAccepted flags directory contents session acquired :=
      .taken step origin manifest opened acquiring advance.keepsTo took accepted
    cases answer with
    | error error => exact .unwritten contents acquired error acquires wrote
    | ok _ => exact .staged contents acquired manifest acquires wrote

theorem SelectionEnds.stagesAtMost {outcome : Except Cause Manifest}
    (ends : SelectionEnds flags directory session after outcome) : StagesAtMost flags directory session after := by
  cases ends with
  | failed _ reads => exact .reading reads
  | unwritten contents acquired error acquires wrote =>
    exact .writing contents acquired after _ acquires wrote (Session.Advances.refl _).keepsTo
  | staged contents acquired manifest acquires wrote =>
    exact .writing contents acquired after _ acquires wrote (Session.Advances.refl _).keepsTo

theorem prepare_stages {outcome : Except Cause Plan}
    (ran : (prepare backend registries flags directory empty).apply session = (outcome, after)) :
    StagesAtMost flags directory session after := by
  rcases bind_cases ran with ⟨_, _, failed⟩ | ⟨_, greeted, greeting, ran⟩
  · exact .reading ((greet_reads _ _).advances failed).keepsTo
  · refine .prepend ((greet_reads _ _).advances greeting).keepsTo ?_
    rcases bind_cases ran with ⟨_, _, failed⟩ | ⟨manifest, selected, selecting, ran⟩
    · exact (selectManifest_ends failed).stagesAtMost
    · exact (selectManifest_ends selecting).stagesAtMost.append ((planFor_reads _ _ _ _).advances ran).keepsTo

/-- A moment at which a run begins to lay a starter project out, or to commit its manifest. -/
inductive Begins (registries : List Registry) (flags : Flags) (session begun : Session (Faulty FileTree)) : Prop
  | layingOut (directory : Path) (plan : Plan) (starter : Devfile.StarterProject)
      (prepared : Session (Faulty FileTree)) (overlay : Overlay) (acquisition : Acquisition)
      (reached : ReachesStarter registries flags session directory plan starter prepared)
      (acquires : starter.Acquires directory prepared overlay acquisition begun)
  | committing (directory : Path) (empty : Bool) (plan : Plan) (manifest : Manifest)
      (inspected prepared : Session (Faulty FileTree))
      (passed : (inspect registries flags).apply session = (.ok (directory, empty), inspected))
      (preparing : (prepare (BackendKind.choose flags empty) registries flags directory empty).apply inspected =
        (.ok plan, prepared))
      (settling : (withStarter plan.starter? plan.staged directory).apply prepared = (.ok manifest, begun))

/-- Without a starter project a run begins to commit when preparing is done. -/
theorem Begins.eq_prepared {inspected prepared begun : Session (Faulty FileTree)} {plan : Plan}
    (passed : (inspect registries flags).apply session = (.ok (directory, empty), inspected))
    (preparing : (prepare (BackendKind.choose flags empty) registries flags directory empty).apply inspected =
      (.ok plan, prepared))
    (alone : plan.starter? = none) (begins : Begins registries flags session begun) : begun = prepared := by
  cases begins with
  | layingOut _ _ starter _ _ _ reached _ =>
    obtain ⟨⟨_, _, again, prepares⟩, chosen⟩ := reached
    cases passed.symm.trans again
    cases preparing.symm.trans prepares
    rw [alone] at chosen
    cases chosen
  | committing _ _ _ _ _ _ again prepares settling =>
    cases passed.symm.trans again
    cases preparing.symm.trans prepares
    rw [alone] at settling
    exact (Prod.mk.inj settling).2.symm

/-- A run that has inspected the directory stages a manifest at most until it begins to lay out or to commit, or until
it meets a setback by which nothing was touched. -/
theorem setUp_stages {inspected stopped : Session (Faulty FileTree)} {outcome : Except Setback Component}
    (passed : (inspect registries flags).apply session = (.ok (directory, empty), inspected))
    (ran : (setUp registries flags directory empty).apply inspected = (outcome, stopped)) :
    (∃ begun, Begins registries flags session begun ∧ StagesAtMost flags directory session begun) ∨
      StagesAtMost flags directory session stopped ∧ ∃ cause, outcome = .error ⟨cause, false⟩ := by
  have opening := inspect_reads passed
  rcases bind_cases ran with ⟨setback, rfl, failed⟩ | ⟨plan, prepared, preparing, ran⟩
  · obtain ⟨cause, stopping, rfl⟩ := mapError_eq_error.mp failed
    exact .inr ⟨(prepare_stages stopping).prepend opening, cause, rfl⟩
  have preparing := mapError_eq_ok.mp preparing
  have stages := (prepare_stages preparing).prepend opening
  cases chosen : plan.starter? with
  | none =>
    have settling : (withStarter plan.starter? plan.staged directory).apply prepared = (.ok plan.staged, prepared) := by
      rw [chosen]
      rfl
    exact .inl ⟨prepared, .committing directory empty plan plan.staged inspected prepared passed preparing settling,
      stages⟩
  | some starter =>
    rcases downloaded : (starter.download directory).apply prepared with ⟨result, laid⟩
    rcases Devfile.StarterProject.download_cases downloaded with
      ⟨cause, _, _, advance⟩ | ⟨overlay, acquisition, acquired, acquires, _⟩
    · have starting : (withStarter plan.starter? plan.staged directory).apply prepared =
          (.error ⟨cause, false⟩, laid) := by
        rw [chosen, withStarter, apply_bind_of_error downloaded]
      rw [apply_bind_of_error starting] at ran
      obtain ⟨rfl, rfl⟩ := Prod.mk.inj ran
      exact .inr ⟨stages.append advance.reads.keepsTo, cause, rfl⟩
    · exact .inl ⟨acquired, .layingOut directory plan starter prepared overlay acquisition
        ⟨⟨empty, inspected, passed, preparing⟩, chosen⟩ acquires, stages.append acquires.advances.reads.keepsTo⟩

/-- A run fails while it acquires a manifest, whatever its backend, and not because it could not write the bytes. -/
inductive FailsToAcquire (registries : List Registry) (flags : Flags) (session : Session (Faulty FileTree))
    (cause : Cause) : Prop
  | acquiring (directory : Path) (empty : Bool) (inspected greeted stopped : Session (Faulty FileTree))
      (passed : (inspect registries flags).apply session = (.ok (directory, empty), inspected))
      (greeting : (greet flags empty).apply inspected = (.ok (), greeted))
      (failed : ((BackendKind.choose flags empty).selectManifest registries flags directory).apply greeted =
        (.error cause, stopped))
      (unwritten : ∀ message, cause ≠ .io "write devfile" (manifestPath directory) message)

/-- A run that fails while it acquires a manifest has only read, and then tries to remove what it never wrote. -/
theorem FailsToAcquire.ends {cause : Cause} {outcome : Except Failure Component}
    (fails : FailsToAcquire registries flags session cause)
    (ran : (initialise registries flags).apply session = (outcome, after)) :
    outcome = .error ⟨cause, .devfileRemoved⟩ ∧ session.KeepsTo (¬ ·.Writes) after := by
  obtain ⟨directory, empty, inspected, greeted, stopped, passed, greeting, failed, unwritten⟩ := fails
  have preparing : (prepare (BackendKind.choose flags empty) registries flags directory empty).apply inspected =
      (.error cause, stopped) := by
    rw [prepare, apply_bind_of_ok greeting, apply_bind_of_error failed]
  have setting : (setUp registries flags directory empty).apply inspected = (.error ⟨cause, false⟩, stopped) :=
    apply_bind_of_error (mapError_eq_error.mpr ⟨cause, preparing, rfl⟩)
  have reads : session.KeepsTo Event.Reads stopped := by
    have opening := inspect_reads passed
    have told := ((greet_reads _ _).advances greeting).keepsTo
    refine (opening.trans told).trans ?_
    cases selectManifest_ends failed with
    | failed _ reads => exact reads
    | unwritten _ _ error _ _ => exact absurd rfl (unwritten error.message)
  have undo : (remove (manifestPath directory) : Run (Faulty FileTree) IoError Unit).Only (¬ ·.Writes) :=
    only_call fun _ => id
  rw [initialise_of_setback passed setting] at ran
  obtain ⟨rfl, rfl⟩ := Prod.mk.inj ran
  exact ⟨rfl, reads.noWrite.trans (undo stopped).keepsTo⟩

/-- What a set-up does after it is prepared. -/
theorem SetsUp.onward {component : Component}
    (sets : SetsUp registries flags directory empty session component after) : sets.prepared.Precedes after := by
  obtain ⟨plan, prepared, manifest, settled, committed, _, settling, committing, rfl, _⟩ := sets
  have logged := ((withStarter_logged _ _ _).advances settling).trans ((commit_logged _).advances committing)
  exact (logged.keepsTo.trans (committed.keepsTo_record _)).precedes

/-! ## The whole run -/

/-- Where there was no manifest before the run, one that is found before a starter project is laid out or the manifest
committed holds the bytes that were acquired just before they were written, which are accepted as a devfile. So a run
that fails while it acquires a manifest has written nothing. -/
theorem only_accepted_staged {outcome : Except Failure Component}
    (absent : session.found? (manifestPath session.files.inner.workingDirectory) = none)
    (ran : (initialise registries flags).apply session = (outcome, after)) :
    (∀ moment, session.Precedes moment → moment.Precedes after →
      (∀ begun, Begins registries flags session begun → moment.Precedes begun) →
      ∀ contents, moment.found? (manifestPath session.files.inner.workingDirectory) = some (.file contents) →
        StagedAt flags session.files.inner.workingDirectory contents session moment) ∧
    ∀ cause, FailsToAcquire registries flags session cause →
      outcome = .error ⟨cause, .devfileRemoved⟩ ∧ session.KeepsTo (¬ ·.Writes) after := by
  refine ⟨fun moment since onward early contents present => ?_, fun cause fails => fails.ends ran⟩
  have begins : ∀ {begun}, Begins registries flags session begun →
      StagesAtMost flags session.files.inner.workingDirectory session begun →
      StagedAt flags session.files.inner.workingDirectory contents session moment :=
    fun begins stages => (stages.cut since (early _ begins)).stagedAt absent present
  cases initialise_ends ran with
  | refused cause _ failed =>
    have reads := inspect_reads failed
    exact (StagesAtMost.cut (.reading reads) since onward).stagedAt absent present
  | settled directory empty inspected component _ passed ran =>
    obtain ⟨rfl, _⟩ := inspect_keeps passed
    rcases setUp_stages passed ran with ⟨begun, beginning, stages⟩ | ⟨_, _, impossible⟩
    · exact begins beginning stages
    · cases impossible
  | preserved directory empty inspected cause _ passed failed =>
    obtain ⟨rfl, _⟩ := inspect_keeps passed
    rcases setUp_stages passed failed with ⟨begun, beginning, stages⟩ | ⟨_, _, impossible⟩
    · exact begins beginning stages
    · cases impossible
  | rolledBack directory empty inspected stopped cause answer _ passed failed removed =>
    obtain ⟨rfl, _⟩ := inspect_keeps passed
    rcases setUp_stages passed failed with ⟨begun, beginning, stages⟩ | ⟨stages, _⟩
    · exact begins beginning stages
    · exact stages.stagedAt_of_removed removed since onward absent present

/-- A session in a directory with sources, and a registry that lists a stack for them. -/
def detectedSession : Session (Faulty FileTree) :=
  { files :=
      { inner := (FileTree.new ⟨"/app"⟩).withFile ⟨"/app/go.mod"⟩ "module m".toUTF8
        faults := []
        special := []
        modes := [] }
    network :=
      { pages :=
          [("http://b.test/index", [.answer 200 "[[\"go\",\"\",\"\",\"Go\"]]".toUTF8 none true]),
            ("http://b.test/devfiles/go", [.answer 200 "schemaVersion: 2.2.0".toUTF8 none true])] } }

/-- The registry of that session. -/
def detectedRegistries : List Registry := [⟨"b", "http://b.test"⟩]

private theorem detectedSession_succeeds :
    ((initialise detectedRegistries {}).apply detectedSession).1 =
      .ok ⟨"m", ⟨"/app/devfile.yaml"⟩, .detection, none, false⟩ := by
  decide +kernel

/-- When the manifest of the sources is committed, the one that was acquired is there. -/
theorem only_accepted_staged_detected :
    detectedSession.found? ⟨"/app/devfile.yaml"⟩ = none ∧
      ∃ moment contents, detectedSession.Precedes moment ∧
        moment.found? ⟨"/app/devfile.yaml"⟩ = some (.file contents) ∧
        StagedAt {} ⟨"/app"⟩ contents detectedSession moment := by
  have absent : detectedSession.found? ⟨"/app/devfile.yaml"⟩ = none := by decide +kernel
  refine ⟨absent, ?_⟩
  have succeeds := detectedSession_succeeds
  rcases ran : (initialise detectedRegistries {}).apply detectedSession with ⟨outcome, after⟩
  rw [ran] at succeeds
  obtain rfl := succeeds
  cases initialise_ends ran with
  | settled directory empty inspected component _ passed setting =>
    obtain ⟨rfl, _⟩ := inspect_keeps passed
    obtain ⟨sets⟩ := setUp_eq_ok setting
    have alone : sets.plan.starter? = none := by
      simpa [componentOf] using (congrArg Component.starter? sets.result).symm
    obtain ⟨contents, prepares⟩ := prepare_eq_ok sets.preparing
    have present := prepares.get?_manifest.1
    have opening := (inspect_keepsTo passed).precedes
    have since := opening.trans ((prepare_logged _ _ _ _ _).advances sets.preparing).keepsTo.precedes
    refine ⟨sets.prepared, contents, since, present, ?_⟩
    exact (only_accepted_staged absent ran).1 _ since sets.onward
      (fun begun begins => begins.eq_prepared passed sets.preparing alone ▸ .refl _)
      contents present

end Run

end Scaffold
