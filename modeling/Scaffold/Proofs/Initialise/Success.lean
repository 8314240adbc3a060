import Scaffold.Proofs.Initialise.Outcome
import Scaffold.Proofs.Initialise.Precedence
import Scaffold.Proofs.Session.Vouching

/-! # What a success vouches for

A run that succeeds has made no call to the files that failed, with few exceptions: the manifest may be missing when it
is looked for or removed, and what is scanned for markers may be unreadable. One inspection escapes this: after a
starter project was laid out, a manifest that cannot be inspected counts as missing, so that the one that was staged is
written over the one that the project brought.
-/

namespace Scaffold

/-- The marker files that a scan of some levels of a directory may come to. -/
inductive MarkerBelow : Nat → Path → Path → Prop
  | direct {levels : Nat} {directory : Path} {name : String} (visible : isHidden name = false)
      (marker : (Language.ofMarker? name).isSome = true) : MarkerBelow (levels + 1) directory (directory.join ⟨name⟩)
  | nested {levels : Nat} {directory path : Path} {name : String} (visible : isHidden name = false)
      (own : skippedDirectories.contains name = false) (deeper : MarkerBelow levels (directory.join ⟨name⟩) path) :
      MarkerBelow (levels + 1) directory path

/-- An event that a success does not hide: all but the calls to the files that fail, unless the manifest is missing or
a marker is not readable. -/
def Event.Excused (directory : Path) : Event → Prop
  | .files (.stat path) (some error) | .files (.remove path) (some error) =>
    path = manifestPath directory ∧ error.kind = .notFound
  | .files (.read path) (some _) => MarkerBelow scanDepth directory path
  | .files _ (some _) => False
  | _ => True

namespace Event

variable {directory : Path} {event : Event}

theorem Outside.excused (outside : event.Outside) : event.Excused directory := by
  cases event with
  | files _ _ => exact outside.elim
  | _ => trivial

theorem excused_ok (call : FileCall) : (Event.files call none).Excused directory := by
  cases call <;> trivial

end Event

variable {σ : Type} [Storage σ]

namespace Run

variable {ε β : Type} {directory path : Path}

/-- A step that makes no call to the files vouches for a success. -/
theorem Outside.excuses {α : Type} {step : Run σ ε α} (outside : step.Outside) :
    step.Vouches (Event.Excused directory) :=
  outside.vouches fun _ fit => fit.excused

theorem call_vouches (file : FileCall) : (call file : Run σ IoError file.Answer).Vouches (Event.Excused directory) :=
  vouches_call (Event.excused_ok file)

/-! ## Inspecting -/

theorem containsManifest_vouches (directory : Path) :
    (containsManifest directory : Run σ IoError Bool).Vouches (Event.Excused directory) := by
  refine vouches_attempt (Event.excused_ok _) (fun _ => vouches_pure _) fun error => ?_
  by_cases missing : error.kind = .notFound
  · exact .inr ⟨⟨rfl, missing⟩, by simpa only [if_pos missing] using vouches_pure _⟩
  · exact .inl ⟨error, if_neg missing⟩

/-- What cannot be inspected is taken for missing; a step that then fails vouches for the inspection. -/
theorem vouches_isFile {next : Bool → Run σ ε β} (onward : ∀ found, (next found).Vouches (Event.Excused directory))
    (absent : ∃ other, next false = throw other) : (isFile path >>= next).Vouches (Event.Excused directory) := by
  unfold isFile
  rw [bind_assoc]
  refine vouches_attempt (Event.excused_ok _) (fun metadata => ?_) fun _ => .inl ?_
  · rw [pure_bind]
    exact onward _
  · rw [pure_bind]
    exact absent

theorem validateFlags_vouches (flags : Flags) (place : Path) (registries : List Registry) :
    (validateFlags flags place registries : Run σ Cause Unit).Vouches (Event.Excused directory) := by
  have path : (checkDevfilePath flags place : Run σ Cause Unit).Vouches (Event.Excused directory) := by
    unfold checkDevfilePath
    split
    · exact vouches_pure _
    · split
      · exact vouches_pure _
      · refine vouches_isFile (fun found => ?_) ⟨_, rfl⟩
        cases found
        · exact vouches_throw _
        · exact vouches_pure _
  unfold validateFlags
  split
  · exact vouches_pure _
  · split
    · exact vouches_throw _
    · exact path

theorem inspect_vouches {registries : List Registry} {flags : Flags} {empty : Bool} {session after : Session σ}
    (passed : (inspect registries flags).apply session = (.ok (directory, empty), after)) :
    session.KeepsTo (Event.Excused directory) after := by
  obtain ⟨place, located, found, ran⟩ := bind_eq_ok passed
  obtain rfl : place = directory := by
    obtain ⟨_, _, _, ran⟩ := bind_eq_ok ran
    obtain ⟨_, _, _, ran⟩ := bind_eq_ok ran
    obtain ⟨_, _, _, ran⟩ := bind_eq_ok ran
    obtain ⟨_, _, _, returned⟩ := bind_eq_ok ran
    obtain ⟨same, _⟩ := Prod.mk.inj returned
    exact (Prod.mk.inj (Except.ok.inj same)).1
  have refuse : (refuseManifest place : Run σ Cause Unit).Vouches (Event.Excused place) := by
    refine vouches_bind (vouches_mapError (containsManifest_vouches place)) fun present => ?_
    split
    · exact vouches_throw _
    · exact vouches_pure _
  refine ((vouches_mapError (call_vouches _)).keepsTo found).trans (Vouches.keepsTo ?_ ran)
  exact vouches_bind (vouches_record _ _) fun _ => vouches_bind refuse fun _ =>
    vouches_bind (validateFlags_vouches _ _ _) fun _ =>
      vouches_bind (vouches_mapError (vouches_bind (call_vouches _) fun _ => vouches_pure _)) fun _ => vouches_pure _

/-! ## Scanning -/

theorem lookAt_vouches {name : String} (isTop : Bool)
    (reached : (Language.ofMarker? name).isSome = true → MarkerBelow scanDepth directory path) :
    (lookAt path name isTop : Run σ Cause SourceFile).Vouches (Event.Excused directory) := by
  unfold lookAt
  split
  · rename_i marker
    exact vouches_attempt (Event.excused_ok _) (fun _ => vouches_pure _) fun _ => .inr ⟨reached marker, vouches_pure _⟩
  · exact vouches_pure _

theorem sourceFiles_vouches (isTop : Bool) {below : Path} {levels : Nat}
    (reached : ∀ path, MarkerBelow levels below path → MarkerBelow scanDepth directory path) :
    (sourceFiles isTop below levels : Run σ Cause (List SourceFile)).Vouches (Event.Excused directory) := by
  induction levels generalizing isTop below with
  | zero => exact vouches_pure _
  | succ levels ih =>
    refine vouches_bind (vouches_mapError (call_vouches _)) fun entries =>
      vouches_bind (vouches_mapM _ fun entry member => ?_) fun _ => vouches_pure _
    have visible : isHidden entry.name = false := by simpa using (List.mem_filter.mp member).2
    dsimp only
    split
    · exact vouches_bind (lookAt_vouches _ fun marker => reached _ (.direct visible marker)) fun _ => vouches_pure _
    · split
      · exact vouches_pure _
      · rename_i own
        exact ih false fun path deeper => reached path (.nested visible (by simpa using own) deeper)
    · exact vouches_pure _

theorem scan_vouches (directory : Path) : (scan directory : Run σ Cause Signals).Vouches (Event.Excused directory) :=
  vouches_bind (sourceFiles_vouches true fun _ => id) fun _ => vouches_pure _

/-! ## Preparing -/

end Run

theorem Manifest.stage_vouches (directory : Path) (contents : ByteArray) (origin : String) :
    (stage directory contents origin : Run σ Cause Manifest).Vouches (Event.Excused directory) :=
  Run.vouches_bind (Run.only_ofExcept _).vouches fun _ =>
    Run.vouches_bind (Run.vouches_mapError (Run.call_vouches _)) fun _ => Run.vouches_pure _

theorem Registry.stage_vouches (registry : Registry) (stack : Stack) (directory : Path) :
    (registry.stage stack directory : Run σ Cause Manifest).Vouches (Event.Excused directory) :=
  Run.vouches_bind (Run.fetch_outside _).excuses fun _ => Run.vouches_bind Run.only_checkCancelled.vouches fun _ =>
    Manifest.stage_vouches directory _ _

theorem Flags.selectManifest_vouches (flags : Flags) (registries : List Registry) (directory : Path) :
    (flags.selectManifest registries directory : Run σ Cause Manifest).Vouches (Event.Excused directory) := by
  have acquires : ∀ place, (acquire place directory : Run σ Cause ByteArray).Vouches (Event.Excused directory) := by
    intro place
    unfold acquire
    split
    · exact (Run.fetch_outside _).excuses
    · exact Run.vouches_mapError (Run.call_vouches _)
  unfold selectManifest
  split
  · exact Run.vouches_bind (acquires _) fun _ => Run.vouches_bind Run.only_checkCancelled.vouches fun _ =>
      Manifest.stage_vouches directory _ _
  · split
    · exact Run.vouches_throw _
    · exact Run.vouches_bind (Registry.locate_outside _ _ _).excuses fun _ => Registry.stage_vouches _ _ directory

theorem Detection.selectManifest_vouches (registries : List Registry) (directory : Path) :
    (selectManifest registries directory : Run σ Cause Manifest).Vouches (Event.Excused directory) :=
  Run.vouches_bind (Run.scan_vouches directory) fun _ => Run.vouches_refuse <|
    Run.vouches_bind (bestFrom_outside _ _ _ _ _).excuses fun _ =>
      Run.vouches_bind (Run.notice_consults _).outside.excuses fun _ => Registry.stage_vouches _ _ directory

theorem Interactive.selectManifest_vouches (registries : List Registry) (directory : Path) :
    (selectManifest registries directory : Run σ Cause Manifest).Vouches (Event.Excused directory) :=
  Run.vouches_bind (selectRegistry_consults registries).outside.excuses fun registry =>
    Run.vouches_bind registry.index_outside.excuses fun _ => Run.vouches_refuse <|
      Run.vouches_bind (choose_consults _ _ _).outside.excuses fun _ => Run.vouches_bind (choose_consults _ _ _).outside.excuses fun _ =>
        Registry.stage_vouches _ _ directory

namespace Run

theorem prepare_vouches (backend : BackendKind) (registries : List Registry) (flags : Flags) (directory : Path)
    (empty : Bool) :
    (prepare backend registries flags directory empty : Run σ Cause Plan).Vouches (Event.Excused directory) := by
  have select : (backend.selectManifest registries flags directory : Run σ Cause Manifest).Vouches
      (Event.Excused directory) := by
    cases backend with
    | flags => exact flags.selectManifest_vouches registries directory
    | detection => exact Detection.selectManifest_vouches registries directory
    | interactive => exact Interactive.selectManifest_vouches registries directory
  have name : ∀ devfile, (backend.chooseName flags devfile directory : Run σ Cause String).Vouches
      (Event.Excused directory) := by
    intro devfile
    cases backend with
    | flags => exact (only_ofExcept _).vouches
    | detection => exact vouches_bind (scan_vouches directory) fun _ => vouches_pure _
    | interactive => exact (Interactive.chooseName_consults devfile directory).outside.excuses
  exact vouches_bind (greet_consults flags empty).outside.excuses fun _ => vouches_bind select fun _ =>
    vouches_bind only_checkCancelled.vouches fun _ => vouches_bind (backend.selectStarter_consults flags _).outside.excuses fun _ =>
      vouches_bind (name _) fun _ => vouches_bind only_checkCancelled.vouches fun _ => vouches_pure _

/-! ## Laying out and committing -/

end Run

namespace Overlay

variable {overlay : Overlay} {directory : Path}

theorem clearManifest_vouches (overlay : Overlay) :
    (overlay.clearManifest : Run σ IoError Unit).Vouches (Event.Excused overlay.destination) := by
  refine Run.vouches_attempt (Event.excused_ok _) (fun _ => Run.vouches_pure _) fun error => ?_
  by_cases missing : error.kind = .notFound
  · exact .inr ⟨⟨rfl, missing⟩, by simpa only [if_pos missing] using Run.vouches_pure _⟩
  · exact .inl ⟨error, if_neg missing⟩

theorem writeFile_vouches (written : Nat) (target : Path) (contents : ByteArray) (mode? : Option Nat) :
    (writeFile written target contents mode? : Run σ _ _).Vouches (Event.Excused directory) := by
  have parent : (createParent written target : Run σ _ _).Vouches (Event.Excused directory) := by
    unfold createParent
    split
    · exact Run.vouches_mapError (Run.call_vouches _)
    · exact Run.vouches_pure _
  have mode : (applyMode (written + 1) target mode? : Run σ _ _).Vouches (Event.Excused directory) := by
    unfold applyMode
    split
    · exact Run.vouches_mapError (Run.call_vouches _)
    · exact Run.vouches_pure _
  exact Run.vouches_bind parent fun _ => Run.vouches_bind (Run.vouches_mapError (Run.call_vouches _)) fun _ =>
    Run.vouches_bind mode fun _ => Run.vouches_pure _

theorem placeAll_vouches (top? : Option String) (written : Nat) (entries : List Archive.Entry) :
    (overlay.placeAll top? written entries : Run σ _ _).Vouches (Event.Excused directory) := by
  induction entries generalizing written with
  | nil => exact Run.vouches_pure _
  | cons entry rest ih =>
    refine Run.vouches_bind ?_ fun _ => ih _
    unfold place
    split
    · exact Run.vouches_throw _
    · exact Run.vouches_pure _
    · split
      · exact Run.vouches_bind (Run.vouches_mapError (Run.call_vouches _)) fun _ => Run.vouches_pure _
      · split
        · exact writeFile_vouches _ _ _ _
        · exact Run.vouches_throw _

theorem placeListed_vouches (top? : Option String) (entries : List Archive.Entry) (stop? : Option Archive.Obstacle) :
    (overlay.placeListed top? entries stop? : Run σ _ _).Vouches (Event.Excused directory) := by
  refine Run.vouches_bind (placeAll_vouches _ _ _) fun _ => ?_
  split
  · exact Run.vouches_pure _
  · exact Run.vouches_throw _

end Overlay

theorem Devfile.StarterProject.download_vouches (starter : StarterProject) (directory : Path) :
    (starter.download directory : Run σ Setback Unit).Vouches (Event.Excused directory) := by
  intro session _ after downloaded
  rcases download_cases downloaded with stops | ⟨overlay, acquisition, acquired, acquires, laid⟩
  · cases stops
  · obtain rfl := acquires.destination
    obtain ⟨cleared, count, clearing, ran⟩ := layOut_eq_ok laid
    have lays : (acquisition.layOut overlay : Run σ _ _).Vouches (Event.Excused overlay.destination) := by
      rw [acquisition.layOut_eq overlay]
      split
      · exact Run.vouches_throw _
      · exact Overlay.placeListed_vouches _ _ _
    exact (acquires.advances.weaken fun _ outside => outside.excused).keepsTo.trans
      ((overlay.clearManifest_vouches.keepsTo clearing).trans (lays.keepsTo ran))

namespace Run

theorem commit_vouches (manifest : Manifest) (directory : Path) :
    (commit manifest : Run σ Cause Unit).Vouches (Event.Excused directory) :=
  vouches_bind only_checkCancelled.vouches fun _ => vouches_mapError (call_vouches _)

/-- What settling a manifest comes to: one inspection, and only if that finds a file its contents are read. -/
inductive Settling (staged manifest : Manifest) (session after : Session σ) : Prop
  | own (metadata : Metadata) (inspected : Session σ)
      (told : (stat staged.path).apply session = (.ok metadata, inspected)) (file : metadata.isFile = true)
      (returned : (Manifest.read staged.path).apply inspected = (.ok manifest, after))
  | kept (metadata : Metadata) (told : (stat staged.path).apply session = (.ok metadata, after))
      (other : metadata.isFile = false) (same : manifest = staged)
  | missed (error : IoError) (told : (stat staged.path).apply session = (.error error, after)) (same : manifest = staged)

theorem settling_of_ok {staged manifest : Manifest} {session after : Session σ}
    (ran : (settledManifest staged).apply session = (.ok manifest, after)) :
    Settling staged manifest session after := by
  obtain ⟨found, inspected, looked, ran⟩ := bind_eq_ok ran
  unfold isFile at looked
  rw [apply_bind_of_ok (apply_attempt _ _)] at looked
  rcases told : (stat staged.path).apply session with ⟨error | metadata, middle⟩
  · rw [told] at looked
    cases looked
    cases ran
    exact .missed error told rfl
  · rw [told] at looked
    obtain ⟨same, rfl⟩ := Prod.mk.inj looked
    obtain rfl := Except.ok.inj same
    cases kind : metadata.isFile with
    | true =>
      rw [kind] at ran
      exact .own metadata _ told kind ran
    | false =>
      rw [kind] at ran
      cases ran
      exact .kept metadata told kind rfl

theorem Settling.inspects {staged manifest : Manifest} {session after : Session σ}
    (settling : Settling staged manifest session after) :
    ∃ answer inspected, (stat staged.path).apply session = (answer, inspected) ∧
      inspected.KeepsTo (Event.Excused directory) after := by
  cases settling with
  | own metadata inspected told _ returned =>
    refine ⟨_, inspected, told, Vouches.keepsTo ?_ returned⟩
    exact vouches_bind (vouches_mapError (call_vouches _)) fun _ => (only_ofExcept _).vouches
  | kept metadata told _ _ => exact ⟨_, after, told, (Session.Advances.refl _).keepsTo⟩
  | missed error told _ => exact ⟨_, after, told, (Session.Advances.refl _).keepsTo⟩

/-! ## The whole run -/

variable {registries : List Registry} {flags : Flags} {plan : Plan} {acquired : ByteArray} {component : Component}
  {session laid after : Session (Faulty FileTree)}

/-- The bytes that decide about the manifest once a project is laid out: its own if a file is found, and else, also if
it cannot be told whether there is one, those that were acquired. -/
def decidingContents (directory : Path) (acquired : ByteArray) (laid : Session (Faulty FileTree)) : ByteArray :=
  match ((stat (manifestPath directory)).apply laid).1 with
  | .ok metadata => if metadata.isFile then settledContents directory acquired laid.files.inner else acquired
  | .error _ => acquired

/-- What a success did from the layout of a starter project on: it settled a manifest and wrote it. -/
structure Finishes (directory : Path) (plan : Plan) (acquired : ByteArray) (laid : Session (Faulty FileTree))
    (component : Component) (after : Session (Faulty FileTree)) (manifest : Manifest) : Prop where
  staged : ∃ origin, Manifest.ofContents acquired origin (manifestPath directory) = .ok plan.staged
  settling : ∃ settled, Settling plan.staged manifest laid settled ∧ settled.KeepsTo (Event.Excused directory) after
  written : after.files.inner.get? (after.files.inner.resolve (manifestPath directory)) =
    some (.file (manifest.withName component.name).contents)

theorem Finishes.path {manifest : Manifest}
    (finishes : Finishes directory plan acquired laid component after manifest) :
    plan.staged.path = manifestPath directory :=
  finishes.staged.elim fun _ accepted => (Manifest.ofContents_eq_ok.mp accepted).2.2

/-- From the layout on there is one inspection, and no other call that fails. -/
theorem Finishes.inspects {manifest : Manifest}
    (finishes : Finishes directory plan acquired laid component after manifest) :
    ∃ answer inspected, (stat (manifestPath directory)).apply laid = (answer, inspected) ∧
      inspected.KeepsTo (Event.Excused directory) after := by
  obtain ⟨settled, settling, onward⟩ := finishes.settling
  obtain ⟨answer, inspected, told, rest⟩ := settling.inspects
  exact ⟨answer, inspected, finishes.path ▸ told, rest.trans onward⟩

/-- The manifest that is written is the one that decides. -/
theorem Finishes.decides {manifest : Manifest}
    (finishes : Finishes directory plan acquired laid component after manifest) :
    ∃ origin, Manifest.ofContents (decidingContents directory acquired laid) origin (manifestPath directory) =
      .ok manifest := by
  have path := finishes.path
  obtain ⟨origin, accepted⟩ := finishes.staged
  obtain ⟨settled, settling, _⟩ := finishes.settling
  unfold decidingContents
  rw [← path] at accepted ⊢
  cases settling with
  | own metadata inspected told file returned =>
    obtain ⟨contents, read, accepted⟩ := Manifest.read_eq_ok returned
    have looked : laid.Advances Event.Reads inspected := (call_reads rfl).advances told
    have present := FileTree.read_eq_ok.mp (read_ok read).1
    rw [resolve_of_advances looked, looked.inner] at present
    refine ⟨plan.staged.path.text, ?_⟩
    rw [told]
    dsimp only
    rw [if_pos file, settledContents, ← path, present]
    exact accepted
  | kept metadata told other same =>
    refine ⟨origin, ?_⟩
    rw [told, same]
    dsimp only
    rwa [if_neg (by simp [other])]
  | missed error told same =>
    refine ⟨origin, ?_⟩
    rwa [told, same]

theorem LaidOut.finishes (reached : LaidOut registries flags session directory plan acquired laid)
    (ran : (initialise registries flags).apply session = (.ok component, after)) :
    session.KeepsTo (Event.Excused directory) laid ∧
      ∃ manifest, Finishes directory plan acquired laid component after manifest := by
  obtain ⟨empty, inspected, prepared, starter, passed, preparing, present, chosen, downloaded⟩ := reached
  cases initialise_ends ran with
  | settled _ _ _ _ _ again ran =>
    -- The phases of the run are those that led to the layout.
    obtain ⟨same, rfl⟩ := Prod.mk.inj (passed.symm.trans again)
    obtain ⟨rfl, rfl⟩ := Prod.mk.inj (Except.ok.inj same)
    obtain ⟨sets⟩ := setUp_eq_ok ran
    obtain ⟨_, _, manifest, settled, committed, preparingAgain, settling, committing, rfl, rfl⟩ := sets
    obtain ⟨same, rfl⟩ := Prod.mk.inj (preparing.symm.trans preparingAgain)
    obtain rfl := Except.ok.inj same
    have place := (accepted_of_settling preparing settling).2
    rw [chosen] at settling
    obtain ⟨_, downloadedAgain, settlement⟩ := withStarter_eq_ok settling
    obtain ⟨_, rfl⟩ := Prod.mk.inj (downloaded.symm.trans downloadedAgain)
    obtain ⟨_, prepares⟩ := prepare_eq_ok preparing
    obtain ⟨there, staged⟩ := prepares.get?_manifest
    obtain rfl := Node.file.inj (Option.some.inj (present.symm.trans there))
    refine ⟨((inspect_vouches passed).trans ((prepare_vouches _ _ _ _ _).keepsTo preparing)).trans
      ((starter.download_vouches directory).keepsTo downloaded), manifest, staged, ?_, ?_⟩
    · exact ⟨settled, settling_of_ok settlement,
        ((commit_vouches _ directory).keepsTo committing).trans (committed.keepsTo_record _)⟩
    · have wrote := commit_eq_ok committing
      have written := get?_of_write_ok wrote (settled.files.inner.resolve (manifestPath directory))
      rw [show (manifest.withName plan.name).path = manifestPath directory from place, if_pos rfl] at written
      rw [resolve_of_advances (call_logs wrote)]
      exact written

/-- Without a starter project no call of a success failed, but for those that are excused. -/
theorem keepsTo_of_no_layout (ran : (initialise registries flags).apply session = (.ok component, after)) :
    session.KeepsTo (Event.Excused session.files.inner.workingDirectory) after ∨
      ∃ plan acquired laid,
        LaidOut registries flags session session.files.inner.workingDirectory plan acquired laid := by
  cases initialise_ends ran with
  | settled directory empty inspected _ _ passed ran =>
    obtain rfl := (inspect_keeps passed).1
    obtain ⟨sets⟩ := setUp_eq_ok ran
    obtain ⟨plan, prepared, manifest, settled, committed, preparing, settling, committing, rfl, rfl⟩ := sets
    rcases chosen : plan.starter? with _ | starter
    · rw [chosen] at settling
      obtain ⟨_, rfl⟩ := Prod.mk.inj settling
      exact .inl (((inspect_vouches passed).trans ((prepare_vouches _ _ _ _ _).keepsTo preparing)).trans
        (((commit_vouches _ _).keepsTo committing).trans (committed.keepsTo_record _)))
    · rw [chosen] at settling
      obtain ⟨laid, downloaded, _⟩ := withStarter_eq_ok settling
      obtain ⟨acquired, prepares⟩ := prepare_eq_ok preparing
      exact .inr ⟨plan, acquired, laid, empty, inspected, prepared, starter, passed, preparing,
        prepares.get?_manifest.1, chosen, downloaded⟩

/-- A success hides no call to the files that failed, but one: whether a starter project brought a manifest. Unless that
inspection fails for another reason than that there is none, all calls that failed are excused; and if it fails, the
manifest that was staged is written whatever the project brought. -/
theorem success_excused_iff (ran : (initialise registries flags).apply session = (.ok component, after)) :
    (session.KeepsTo (Event.Excused session.files.inner.workingDirectory) after ↔
      ∀ plan acquired laid, LaidOut registries flags session session.files.inner.workingDirectory plan acquired laid →
        ∀ error, ((stat (manifestPath session.files.inner.workingDirectory)).apply laid).1 = .error error →
          error.kind = .notFound) ∧
    ∀ plan acquired laid, LaidOut registries flags session session.files.inner.workingDirectory plan acquired laid →
      ∃ origin manifest,
        Manifest.ofContents (decidingContents session.files.inner.workingDirectory acquired laid) origin
          (manifestPath session.files.inner.workingDirectory) = .ok manifest ∧
        after.files.inner.get?
            (after.files.inner.resolve (manifestPath session.files.inner.workingDirectory)) =
          some (.file (manifest.withName component.name).contents) := by
  refine ⟨⟨fun keeps plan acquired laid reached error failed => ?_, fun honest => ?_⟩,
    fun plan acquired laid reached => ?_⟩
  · obtain ⟨earlier, manifest, finishes⟩ := reached.finishes ran
    obtain ⟨answer, inspected, told, later⟩ := finishes.inspects
    obtain rfl : answer = .error error := by rwa [told] at failed
    exact (keeps.allows earlier (Session.leads_of_answer told).toSpans later).2
  · rcases keepsTo_of_no_layout ran with keeps | ⟨plan, acquired, laid, reached⟩
    · exact keeps
    · obtain ⟨earlier, manifest, finishes⟩ := reached.finishes ran
      obtain ⟨answer, inspected, told, later⟩ := finishes.inspects
      have excused : (Event.files (.stat (manifestPath session.files.inner.workingDirectory)) (errorOf? answer)).Excused
          session.files.inner.workingDirectory := by
        cases answer with
        | ok _ => exact Event.excused_ok _
        | error error => exact ⟨rfl, honest plan acquired laid reached error (by rw [told])⟩
      refine earlier.trans (Session.KeepsTo.trans ?_ later)
      exact ⟨_, (Session.leads_of_answer told).toSpans, fun event member => List.mem_singleton.mp member ▸ excused⟩
  · obtain ⟨_, manifest, finishes⟩ := reached.finishes ran
    obtain ⟨origin, decided⟩ := finishes.decides
    exact ⟨origin, manifest, decided, finishes.written⟩

/-- The session in which a starter project brings a manifest, but once that is laid out the manifest cannot be
inspected. -/
def unseenSession : Session (Faulty FileTree) :=
  { starterSession with
    files :=
      { starterSession.files with
        faults := [⟨.stat, ⟨"/app/devfile.yaml"⟩, 1, some 1, ⟨.permissionDenied, "denied"⟩⟩] } }

/-- Whether a failed inspection of the manifest for lack of permission is in a log. -/
def deniedInspection (events : List Event) : Bool :=
  events.any fun event =>
    match event with
    | .files (.stat path) (some error) => path = ⟨"/app/devfile.yaml"⟩ && error.kind = .permissionDenied
    | _ => false

private theorem unseenSession_ends :
    ((initialise [] starterFlags).apply unseenSession).1 =
        .ok ⟨"app", ⟨"/app/devfile.yaml"⟩, .flags, some "go", false⟩ ∧
      deniedInspection ((initialise [] starterFlags).apply unseenSession).2.events = true ∧
      ((initialise [] starterFlags).apply starterSession).2.files.inner.contents? ⟨"/app/devfile.yaml"⟩ =
        some "schemaVersion: 2.1.0\nmetadata:\n  name: app\n" ∧
      ((initialise [] starterFlags).apply unseenSession).2.files.inner.contents? ⟨"/app/devfile.yaml"⟩ =
        some ("schemaVersion: 2.2.0\nmetadata:\n  name: app\nstarterProjects:\n- name: go\n  zip:\n" ++
          "    location: http://dl.test/s.zip\n") := by
  decide +kernel

/-- A success of this kind, and what it hides. -/
theorem success_excused_iff_unseen :
    ((initialise [] starterFlags).apply unseenSession).1 =
        .ok ⟨"app", ⟨"/app/devfile.yaml"⟩, .flags, some "go", false⟩ ∧
      (unseenSession.KeepsTo (Event.Excused ⟨"/app"⟩) ((initialise [] starterFlags).apply unseenSession).2 ↔
        ∀ plan acquired laid, LaidOut [] starterFlags unseenSession ⟨"/app"⟩ plan acquired laid →
          ∀ error, ((stat (manifestPath ⟨"/app"⟩)).apply laid).1 = .error error → error.kind = .notFound) := by
  have succeeded := unseenSession_ends.1
  rcases ran : (initialise [] starterFlags).apply unseenSession with ⟨outcome, after⟩
  obtain rfl : outcome = .ok ⟨"app", ⟨"/app/devfile.yaml"⟩, .flags, some "go", false⟩ :=
    (congrArg Prod.fst ran).symm.trans succeeded
  exact ⟨rfl, (success_excused_iff ran).1⟩

/-- The project brings a manifest of version 2.1.0, which stays without the fault. With it the run succeeds all the same,
and the manifest that was staged is written over that of the project. -/
theorem unseenSession_loses_manifest :
    ((initialise [] starterFlags).apply unseenSession).1 =
        .ok ⟨"app", ⟨"/app/devfile.yaml"⟩, .flags, some "go", false⟩ ∧
      deniedInspection ((initialise [] starterFlags).apply unseenSession).2.events = true ∧
      ((initialise [] starterFlags).apply starterSession).2.files.inner.contents? ⟨"/app/devfile.yaml"⟩ =
        some "schemaVersion: 2.1.0\nmetadata:\n  name: app\n" ∧
      ((initialise [] starterFlags).apply unseenSession).2.files.inner.contents? ⟨"/app/devfile.yaml"⟩ =
        some ("schemaVersion: 2.2.0\nmetadata:\n  name: app\nstarterProjects:\n- name: go\n  zip:\n" ++
          "    location: http://dl.test/s.zip\n") :=
  unseenSession_ends

end Run

end Scaffold
