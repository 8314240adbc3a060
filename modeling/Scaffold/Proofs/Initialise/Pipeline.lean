import Scaffold.Proofs.Initialise
import Scaffold.Proofs.Inquiries

/-! # What a run asks the network for

A run asks for the indexes of registries, for one devfile and for one starter project, in this order. Each of these is
asked for at most once, whatever the answers are: what fails is not asked for again, and at most the next registry is.
-/

namespace Scaffold

theorem Event.Places.silent {event : Event} {target : Path} (places : event.Places target) : event.Silent := by
  cases event with
  | files _ _ => rfl
  | _ => exact places.elim

variable {σ : Type} [Storage σ]

namespace Devfile.StarterProject

variable {starter : StarterProject} {directory : Path} {session after : Session σ}

/-- What a download asks for: the archive if the starter project has one, and else its repository. -/
inductive Asks (starter : StarterProject) : List Inquiry → Prop
  | nothing : Asks starter []
  | archive (source : ZipSource) (chosen : starter.zip? = some source) : Asks starter [.page source.location]
  | repository (source : GitSource) (url : String) (noArchive : starter.zip? = none)
      (chosen : starter.git? = some source) (remote : source.remoteUrl? = some url) : Asks starter [.repository url]

theorem Asks.length_le {asked : List Inquiry} (asks : starter.Asks asked) : asked.length ≤ 1 := by
  cases asks <;> simp

theorem layOut_silent (starter : StarterProject) (overlay : Overlay) (acquisition : Acquisition) :
    (starter.layOut overlay (acquisition.layOut overlay) : Run σ _ _).Silent :=
  layOut_only (fun _ => rfl) ((acquisition.layOut_places overlay).weaken fun _ ⟨_, _, places⟩ => places.silent)

theorem download_asks {outcome : Except Setback Unit}
    (ran : (starter.download directory).apply session = (outcome, after)) :
    ∃ asked, session.Asks asked after ∧ starter.Asks asked := by
  have checks : (untouched Run.checkCancelled : Run σ Setback Unit).Silent := Run.only_mapError Run.only_checkCancelled
  rcases Run.bind_cases ran with ⟨_, _, failed⟩ | ⟨names, _, taken, ran⟩
  · exact ⟨_, Run.Silent.asks (Run.only_mapError (Run.only_ofExcept _)) failed, .nothing⟩
  have nothing := Run.Silent.asks (Run.only_mapError (Run.only_ofExcept _)) taken
  dsimp only at ran
  split at ran
  · rename_i source chosen
    rcases Run.bind_cases ran with ⟨_, rfl, failed⟩ | ⟨data, acquired, fetched, ran⟩
    · obtain ⟨_, failed, _⟩ := Run.mapError_eq_error.mp failed
      obtain ⟨_, failed, _⟩ := Run.mapError_eq_error.mp failed
      rcases (Run.fetch_inquires failed).asks with asks | asks
      · exact ⟨_, nothing.trans asks, .nothing⟩
      · exact ⟨_, nothing.trans asks, .archive source chosen⟩
    · have asks := (Run.fetch_inquires (Run.mapError_eq_ok.mp (Run.mapError_eq_ok.mp fetched))).asks_of_ok
      have last := Run.Silent.asks (Run.only_bind checks fun _ => Run.only_bind Run.only_get fun session =>
        layOut_silent starter _ (.archive session.unpack data)) ran
      exact ⟨_, nothing.trans (asks.trans_nil last), .archive source chosen⟩
  · rename_i source noArchive chosen
    unfold fromRepository at ran
    split at ran
    · cases ran
      exact ⟨_, nothing, .nothing⟩
    rename_i url remote
    rcases Run.bind_cases ran with ⟨_, rfl, failed⟩ | ⟨tree, acquired, cloned, ran⟩
    · obtain ⟨_, failed, _⟩ := Run.mapError_eq_error.mp failed
      rcases Run.clone_asks failed with asks | ⟨_, asks⟩
      · exact ⟨_, nothing.trans asks, .repository source url noArchive chosen remote⟩
      · exact ⟨_, nothing.trans asks, .nothing⟩
    · have last := Run.Silent.asks (Run.only_bind checks fun _ => layOut_silent starter _ (.repository tree)) ran
      rcases Run.clone_asks (Run.mapError_eq_ok.mp cloned) with asks | ⟨⟨_, impossible⟩, _⟩
      · exact ⟨_, nothing.trans (asks.trans_nil last), .repository source url noArchive chosen remote⟩
      · cases impossible
  · cases ran
    exact ⟨_, nothing, .nothing⟩

end Devfile.StarterProject

namespace Run

variable {registries : List Registry} {flags : Flags} {directory : Path} {empty : Bool} {backend : BackendKind}
  {session after : Session σ}

/-! ## The phases -/

/-- What is asked for while a manifest is selected for a directory. -/
inductive SelectionAsks (backend : BackendKind) (registries : List Registry) (flags : Flags) (directory : Path)
    (empty : Bool) (session : Session σ) : List Inquiry → Prop
  | selecting (asked : List Inquiry) (greeted selected : Session σ) (selection : Except Cause Manifest)
      (greeting : (greet flags empty).apply session = (.ok (), greeted))
      (ran : (backend.selectManifest registries flags directory).apply greeted = (selection, selected))
      (asks : backend.Asks registries flags directory greeted selected asked) :
      SelectionAsks backend registries flags directory empty session asked

theorem planFor_silent (backend : BackendKind) (flags : Flags) (directory : Path) (staged : Manifest) :
    (planFor backend flags directory staged : Run σ Cause Plan).Silent :=
  only_bind only_checkCancelled fun _ => only_bind (backend.selectStarter_consults _ _).silent fun _ =>
    only_bind (backend.chooseName_silent _ _ _) fun _ => only_bind only_checkCancelled fun _ => only_pure _

/-- Preparing asks for what selecting the manifest asks for. -/
theorem prepare_asks {outcome : Except Cause Plan}
    (ran : (prepare backend registries flags directory empty).apply session = (outcome, after)) :
    ∃ asked, session.Asks asked after ∧ SelectionAsks backend registries flags directory empty session asked := by
  have greets : ∀ session : Session σ, ∃ greeted, (greet flags empty).apply session = (.ok (), greeted) := by
    intro session
    unfold greet
    split
    · exact ⟨_, rfl⟩
    · exact ⟨_, rfl⟩
  obtain ⟨greeted, greeting⟩ := greets session
  have nothing := (greet_consults flags empty).silent.asks greeting
  rw [prepare, apply_bind_of_ok greeting] at ran
  rcases bind_cases ran with ⟨_, rfl, failed⟩ | ⟨staged, selected, selecting, ran⟩
  · obtain ⟨asked, asks, told⟩ := BackendKind.selectManifest_asks failed
    exact ⟨_, nothing.trans asks, .selecting asked greeted _ _ greeting failed told⟩
  · obtain ⟨asked, asks, told⟩ := BackendKind.selectManifest_asks selecting
    exact ⟨_, nothing.trans (asks.trans_nil ((planFor_silent _ _ _ _).asks ran)),
      .selecting asked greeted _ _ greeting selecting told⟩

/-- A starter project is asked for once, and only if there is one. -/
theorem withStarter_asks {starter? : Option Devfile.StarterProject} {staged : Manifest}
    {outcome : Except Setback Manifest}
    (ran : (withStarter starter? staged directory).apply session = (outcome, after)) :
    ∃ asked, session.Asks asked after ∧ (asked = [] ∨ ∃ starter, starter? = some starter ∧ starter.Asks asked) := by
  cases starter? with
  | none =>
    cases ran
    exact ⟨_, .refl _, .inl rfl⟩
  | some starter =>
    rcases bind_cases ran with ⟨_, rfl, failed⟩ | ⟨_, laid, downloaded, ran⟩
    · obtain ⟨asked, asks, told⟩ := Devfile.StarterProject.download_asks failed
      exact ⟨asked, asks, .inr ⟨starter, rfl, told⟩⟩
    · obtain ⟨asked, asks, told⟩ := Devfile.StarterProject.download_asks downloaded
      have last := Silent.asks (only_mapError (settledManifest_looks staged).silent) ran
      exact ⟨asked, asks.trans_nil last, .inr ⟨starter, rfl, told⟩⟩

/-- What is asked for after a manifest was selected: a starter project, if the plan has one. -/
inductive StarterAsks (backend : BackendKind) (registries : List Registry) (flags : Flags) (directory : Path)
    (empty : Bool) (session : Session σ) : List Inquiry → Prop
  | nothing : StarterAsks backend registries flags directory empty session []
  | starting (asked : List Inquiry) (plan : Plan) (starter : Devfile.StarterProject) (prepared : Session σ)
      (preparing : (prepare backend registries flags directory empty).apply session = (.ok plan, prepared))
      (chosen : plan.starter? = some starter) (asks : starter.Asks asked) :
      StarterAsks backend registries flags directory empty session asked

theorem setUp_asks {outcome : Except Setback Component}
    (ran : (setUp registries flags directory empty).apply session = (outcome, after)) :
    ∃ selecting starting, session.Asks (selecting ++ starting) after ∧
      SelectionAsks (BackendKind.choose flags empty) registries flags directory empty session selecting ∧
      StarterAsks (BackendKind.choose flags empty) registries flags directory empty session starting := by
  rcases bind_cases ran with ⟨setback, rfl, failed⟩ | ⟨plan, prepared, preparing, ran⟩
  · obtain ⟨_, failed, _⟩ := mapError_eq_error.mp failed
    obtain ⟨selecting, asks, told⟩ := prepare_asks failed
    exact ⟨selecting, [], (List.append_nil _).symm ▸ asks, told, .nothing⟩
  have preparing := mapError_eq_ok.mp preparing
  obtain ⟨selecting, asks, told⟩ := prepare_asks preparing
  have started : ∀ {asked}, (asked = [] ∨ ∃ starter, plan.starter? = some starter ∧ starter.Asks asked) →
      StarterAsks (BackendKind.choose flags empty) registries flags directory empty session asked := by
    rintro _ (rfl | ⟨starter, chosen, asks⟩)
    · exact .nothing
    · exact .starting _ plan starter prepared preparing chosen asks
  rcases bind_cases ran with ⟨setback, rfl, failed⟩ | ⟨manifest, settled, settling, ran⟩
  · obtain ⟨starting, onward, starts⟩ := withStarter_asks failed
    exact ⟨selecting, starting, asks.trans onward, told, started starts⟩
  · obtain ⟨starting, onward, starts⟩ := withStarter_asks settling
    have commits : ∀ manifest, (commit manifest : Run σ Cause Unit).Silent := fun _ => commit_only fun _ _ => rfl
    have last : settled.Asks [] after := by
      rcases bind_cases ran with ⟨_, rfl, failed⟩ | ⟨_, committed, committing, ran⟩
      · exact Silent.asks (only_mapError (commits _)) failed
      · rcases bind_cases ran with ⟨_, _, impossible⟩ | ⟨_, _, recording, returned⟩
        · cases impossible
        rw [recordComponent_apply] at recording
        cases recording
        cases returned
        exact (Silent.asks (only_mapError (commits _)) committing).trans (committed.keepsTo_record _).asks
    exact ⟨selecting, starting, asks.trans (onward.trans_nil last), told, started starts⟩

/-! ## The whole run -/

/-- What a run may ask the network for, the earliest first: nothing if it is refused, and else what selecting a manifest
asks for, followed by what the starter project asks for. -/
inductive Pipeline (registries : List Registry) (flags : Flags) (session : Session σ) : List Inquiry → Prop
  | refused (cause : Cause) (inspected : Session σ)
      (failed : (inspect registries flags).apply session = (.error cause, inspected)) :
      Pipeline registries flags session []
  | pursued (directory : Path) (empty : Bool) (inspected : Session σ) (selecting starting : List Inquiry)
      (passed : (inspect registries flags).apply session = (.ok (directory, empty), inspected))
      (selects : SelectionAsks (BackendKind.choose flags empty) registries flags directory empty inspected selecting)
      (starts : StarterAsks (BackendKind.choose flags empty) registries flags directory empty inspected starting) :
      Pipeline registries flags session (selecting ++ starting)

theorem Pipeline.length_le {asked : List Inquiry} (pipeline : Pipeline registries flags session asked) :
    asked.length ≤ registries.length + 2 := by
  cases pipeline with
  | refused _ _ _ => exact Nat.zero_le _
  | pursued _ _ _ selecting starting _ selects starts =>
    have first : selecting.length ≤ registries.length + 1 := by
      cases selects with
      | selecting _ _ _ _ _ asks => exact asks.length_le
    have second : starting.length ≤ 1 := by
      cases starts with
      | nothing => exact Nat.zero_le _
      | starting _ _ _ _ _ _ asks => exact asks.length_le
    rw [List.length_append]
    omega

/-- However a run turns out, it has asked the network for what the pipeline allows, in this order and for nothing else.
An index or a devfile is asked for once in its place, and a starter project once, so that nothing that failed is tried
again. -/
theorem initialise_asks {outcome : Except Failure Component}
    (ran : (initialise registries flags).apply session = (outcome, after)) :
    ∃ asked, session.Asks asked after ∧ Pipeline registries flags session asked ∧
      asked.length ≤ registries.length + 2 := by
  have looked : ∀ {inspected outcome}, (inspect registries flags).apply session = (outcome, inspected) →
      session.Asks [] inspected := fun ran => ((inspect_keepsTo ran).weaken fun _ looks => looks.silent).asks
  have pursued : ∀ {directory empty} {inspected stopped : Session σ} {outcome},
      (inspect registries flags).apply session = (.ok (directory, empty), inspected) →
      (setUp registries flags directory empty).apply inspected = (outcome, stopped) →
      ∃ asked, session.Asks asked stopped ∧ Pipeline registries flags session asked := by
    intro directory empty inspected stopped outcome passed ran
    obtain ⟨selecting, starting, asks, selects, starts⟩ := setUp_asks ran
    exact ⟨_, (looked passed).trans asks, .pursued directory empty inspected selecting starting passed selects starts⟩
  obtain ⟨asked, asks, pipeline⟩ : ∃ asked, session.Asks asked after ∧ Pipeline registries flags session asked := by
    cases initialise_ends ran with
    | refused cause _ failed => exact ⟨_, looked failed, .refused cause _ failed⟩
    | settled _ _ _ _ _ passed ran => exact pursued passed ran
    | preserved _ _ _ _ _ passed failed => exact pursued passed failed
    | rolledBack _ _ _ _ _ _ _ passed failed removed =>
      obtain ⟨asked, asks, pipeline⟩ := pursued passed failed
      exact ⟨asked, asks.trans_nil ((call_silent _).asks removed), pipeline⟩
  exact ⟨asked, asks, pipeline, pipeline.length_le⟩

/-- Two registries. -/
def listedRegistries : List Registry := [⟨"a", "http://a.test"⟩, ⟨"b", "http://b.test/"⟩]

/-- Asking for a devfile by name and for its starter project. -/
def listedFlags : Flags := { devfile := some "go", starter := some "s" }

/-- A session in which only the second registry answers and the starter project never comes. -/
def listedSession : Session (Faulty FileTree) :=
  { files := { inner := FileTree.new ⟨"/app"⟩, faults := [], special := [], modes := [] }
    network :=
      { pages :=
          [("http://b.test/index", [.answer 200 "[[\"go\"]]".toUTF8 none true]),
            ("http://b.test/devfiles/go",
              [.answer 200
                "schemaVersion: 2.2.0\nstarterProjects:\n- name: s\n  zip:\n    location: http://dl.test/s.zip".toUTF8
                none true]),
            ("http://dl.test/s.zip", [.dropped])] } }

private theorem listedSession_inquiries :
    ((initialise listedRegistries listedFlags).apply listedSession).2.events.filterMap Event.inquiry? =
      [.page "http://a.test/index", .page "http://b.test/index", .page "http://b.test/devfiles/go",
        .page "http://dl.test/s.zip"] := by
  decide +kernel

/-- The registry that failed is passed over, and the starter project that failed is given up. -/
theorem initialise_asks_listed :
    Pipeline listedRegistries listedFlags listedSession
      [.page "http://a.test/index", .page "http://b.test/index", .page "http://b.test/devfiles/go",
        .page "http://dl.test/s.zip"] := by
  have told := listedSession_inquiries
  rcases ran : (initialise listedRegistries listedFlags).apply listedSession with ⟨outcome, after⟩
  rw [ran] at told
  obtain ⟨asked, asks, pipeline, _⟩ := initialise_asks ran
  exact told ▸ asks.eq_of_fresh rfl ▸ pipeline

end Run

end Scaffold
