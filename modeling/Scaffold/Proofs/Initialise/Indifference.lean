import Scaffold.Proofs.Files.Ordered
import Scaffold.Proofs.Initialise
import Scaffold.Proofs.Session.Parallel

/-! # Runs by flags look at little

A run by flags without a starter project goes by the working directory, by what is at the devfile path, and by whether
there is a manifest already. Whatever else the directory holds, it is never told: that it is empty or not is looked at,
but the flags decide either way. So two runs in stores that agree on these go alike, and leave the same where the
manifest is.
-/

namespace Scaffold

/-! ## Trees that agree in places -/

namespace FileTree

variable {left right : FileTree} {directory : Path} {paths : List Path} {path : Path}

/-- The manifest of a directory is directly in it. -/
theorem resolve_manifestPath (tree : FileTree) (directory : Path) :
    tree.resolve (manifestPath directory) = tree.resolve directory ++ [.name manifestName] :=
  tree.resolve_join directory (by decide)

/-- Trees with the same working directory that hold the same at a directory, at its manifest and where some more paths
lead, and no directory in place of the manifest. -/
structure Agree (directory : Path) (paths : List Path) (left right : FileTree) : Prop where
  workingDirectory : left.workingDirectory = right.workingDirectory
  nodes : ∀ path ∈ directory :: manifestPath directory :: paths,
    left.get? (left.resolve path) = right.get? (right.resolve path)
  vacant : right.get? (right.resolve (manifestPath directory)) ≠ some .directory

namespace Agree

variable (agree : Agree directory paths left right)

include agree

theorem resolved (path : Path) : left.resolve path = right.resolve path := by
  rw [resolve, resolve, agree.workingDirectory]

theorem directoryNode : left.get? (left.resolve directory) = right.get? (right.resolve directory) :=
  agree.nodes directory List.mem_cons_self

theorem manifestNode :
    left.get? (left.resolve (manifestPath directory)) = right.get? (right.resolve (manifestPath directory)) :=
  agree.nodes (manifestPath directory) (List.mem_cons_of_mem _ List.mem_cons_self)

theorem read (seen : path ∈ paths) : left.read path = right.read path := by
  have node := agree.nodes path (List.mem_cons_of_mem _ (List.mem_cons_of_mem _ seen))
  rw [FileTree.read, FileTree.read, node, agree.resolved]

/-- The directory is listed in both trees or in neither, though not alike. -/
theorem list : Outcomes (fun _ _ => True) (left.list directory) (right.list directory) := by
  rw [FileTree.list, FileTree.list, agree.directoryNode, agree.resolved]
  split
  · exact .returned _ _ trivial
  · exact .failed _
  · exact .failed _

/-- The manifest is removed from both trees or from neither. -/
theorem remove :
    Outcomes (Agree directory paths) (left.remove (manifestPath directory)) (right.remove (manifestPath directory)) := by
  rw [FileTree.remove, FileTree.remove, agree.manifestNode, agree.resolved]
  split
  · refine .returned _ _ ⟨agree.workingDirectory, fun other seen => ?_, ?_⟩
    · change (left.nodes.erase _).get? (left.resolve other) = (right.nodes.erase _).get? (right.resolve other)
      rw [OrderedMap.get?_erase, OrderedMap.get?_erase, ← FileTree.get?, ← FileTree.get?, agree.nodes other seen,
        agree.resolved other]
    · change (right.nodes.erase _).get? (right.resolve (manifestPath directory)) ≠ _
      rw [OrderedMap.get?_erase, if_pos rfl]
      simp
  · exact .failed _
  · exact .failed _

/-- The manifest is written into both trees or into neither. -/
theorem write (contents : ByteArray) :
    Outcomes (Agree directory paths) (left.write (manifestPath directory) contents)
      (right.write (manifestPath directory) contents) := by
  have within : (right.resolve (manifestPath directory)).parent? = some (right.resolve directory) := by
    rw [right.resolve_manifestPath, Route.parent?_concat_name]
  have above : left.isDirectoryAt (right.resolve directory) = right.isDirectoryAt (right.resolve directory) := by
    rw [isDirectoryAt, isDirectoryAt, ← agree.resolved, agree.directoryNode, agree.resolved]
  have there : left.isDirectoryAt (right.resolve (manifestPath directory)) =
      right.isDirectoryAt (right.resolve (manifestPath directory)) := by
    rw [isDirectoryAt, isDirectoryAt, ← agree.resolved, agree.manifestNode, agree.resolved]
  rw [FileTree.write, FileTree.write, agree.resolved, within, Option.any_some, Option.any_some, above, there]
  split
  · exact .failed _
  · split
    · exact .failed _
    · refine .returned _ _ ⟨agree.workingDirectory, fun other seen => ?_, ?_⟩
      · change (left.nodes.insert _ _).get? (left.resolve other) = (right.nodes.insert _ _).get? (right.resolve other)
        rw [OrderedMap.get?_insert, OrderedMap.get?_insert, ← FileTree.get?, ← FileTree.get?, agree.nodes other seen,
          agree.resolved other]
      · change (right.nodes.insert _ _).get? (right.resolve (manifestPath directory)) ≠ _
        rw [OrderedMap.get?_insert, if_pos rfl]
        simp

theorem settle {changed changedOther : Except IoError FileTree}
    (outcomes : Outcomes (Agree directory paths) changed changedOther) :
    (FileTree.settle left changed).1 = (FileTree.settle right changedOther).1 ∧
      Agree directory paths (FileTree.settle left changed).2 (FileTree.settle right changedOther).2 := by
  cases outcomes with
  | returned _ _ agreeAfter => exact ⟨rfl, agreeAfter⟩
  | failed _ => exact ⟨rfl, agree⟩

/-- In place of the manifest both trees hold the same bytes, or nothing. -/
theorem contents : ∃ contents? : Option ByteArray,
    left.get? (left.resolve (manifestPath directory)) = contents?.map .file ∧
      right.get? (right.resolve (manifestPath directory)) = contents?.map .file := by
  rw [agree.manifestNode]
  rcases found : right.get? (right.resolve (manifestPath directory)) with _ | contents | _
  · exact ⟨none, rfl, rfl⟩
  · exact ⟨some contents, rfl, rfl⟩
  · exact absurd found agree.vacant

end Agree

end FileTree

/-! ## Stores that agree in places -/

namespace Faulty

variable {store : Faulty FileTree} {call : FileCall}

/-- Without faults a store answers as its tree does, but for what is special. -/
theorem perform_of_quiet (quiet : store.faults = []) (call : FileCall) :
    Storage.perform call store =
      ((Storage.perform call store.inner).1.map (store.revise call),
        { store with inner := (Storage.perform call store.inner).2, modes := store.modesAfter call }) := by
  rw [perform_of_pass (by rw [quiet]; rfl), quiet]

/-- Without faults a call that only reads leaves a store as it is. -/
theorem perform_look (fit : call.mutates = false) (quiet : store.faults = []) :
    Storage.perform call store = ((Storage.perform call store.inner).1.map (store.revise call), store) := by
  have modes : store.modesAfter call = store.modes := by cases call <;> first | (cases fit; done) | rfl
  rw [perform_of_quiet quiet, FileTree.perform_reads fit, modes]

/-- Stores without faults whose trees agree in places. -/
structure Agree (directory : Path) (paths : List Path) (left right : Faulty FileTree) : Prop where
  quiet : left.faults = []
  quietOther : right.faults = []
  trees : left.inner.Agree directory paths right.inner

end Faulty

/-! ## Setting up by flags -/

open Run
open Faulty (Agree)

variable {directory : Path} {paths : List Path} {flags : Flags}

namespace Run

/-- A call whose answers are not revised goes alike if it does for trees that agree. -/
theorem steady_of_trees (call : FileCall) (plain : ∀ store : Faulty FileTree, store.revise call = id)
    (performs : ∀ left right : FileTree, left.Agree directory paths right →
      (Storage.perform call left).1 = (Storage.perform call right).1 ∧
        (Storage.perform call left).2.Agree directory paths (Storage.perform call right).2) :
    Steady (Agree directory paths) (Run.call call) := by
  refine parallel_call call fun left right agree => ?_
  obtain ⟨same, trees⟩ := performs _ _ agree.trees
  rw [Faulty.perform_of_quiet agree.quiet, Faulty.perform_of_quiet agree.quietOther, plain, plain, same]
  exact ⟨outcomes_refl _, agree.quiet, agree.quietOther, trees⟩

theorem read_steady {path : Path} (seen : path ∈ paths) : Steady (Agree directory paths) (read path) :=
  steady_of_trees (.read path) (fun _ => rfl) fun _ _ agree => ⟨agree.read seen, agree⟩

theorem remove_steady : Steady (Agree directory paths) (remove (manifestPath directory)) :=
  steady_of_trees (.remove (manifestPath directory)) (fun _ => rfl) fun _ _ agree => agree.settle agree.remove

theorem write_steady (contents : ByteArray) :
    Steady (Agree directory paths) (write (manifestPath directory) contents) :=
  steady_of_trees (.write (manifestPath directory) contents) (fun _ => rfl) fun _ _ agree =>
    agree.settle (agree.write contents)

end Run

theorem Manifest.stage_steady (contents : ByteArray) (origin : String) :
    Steady (Agree directory paths) (Manifest.stage directory contents origin) :=
  Steady.bind (steady_ofExcept _) fun _ _ => Steady.bind ((write_steady contents).during _ _) fun _ _ => steady_pure _

theorem Registry.stage_steady (registry : Registry) (stack : Stack) :
    Steady (Agree directory paths) (registry.stage stack directory) :=
  Steady.bind (fetch_steady _) fun _ _ => Steady.bind steady_checkCancelled fun _ _ => Manifest.stage_steady _ _

namespace Flags

/-- The paths besides the directory and its manifest that flags make a run look at: a devfile path that is no address. -/
def places (flags : Flags) (directory : Path) : List Path :=
  (flags.devfilePath.toList.filter fun text => !Url.isUrl text).map fun text => directory.join ⟨text⟩

theorem mem_places {path : Path} :
    path ∈ flags.places directory ↔
      ∃ text, flags.devfilePath = some text ∧ Url.isUrl text = false ∧ path = directory.join ⟨text⟩ := by
  simp [places, and_assoc, @eq_comm _ path]

theorem acquire_steady {text : String} (given : flags.devfilePath = some text) :
    Steady (Agree directory (flags.places directory)) (Flags.acquire text directory) := by
  unfold acquire
  split
  · exact fetch_steady _
  · rename_i noAddress
    exact (read_steady (mem_places.mpr ⟨text, given, by simpa using noAddress, rfl⟩)).during _ _

theorem selectManifest_steady (flags : Flags) (registries : List Registry) :
    Steady (Agree directory (flags.places directory)) (flags.selectManifest registries directory) := by
  unfold selectManifest
  split
  · rename_i text given
    exact Steady.bind (acquire_steady given) fun _ _ => Steady.bind steady_checkCancelled fun _ _ =>
      Manifest.stage_steady _ _
  · split
    · exact steady_throw _
    · exact Steady.bind (Registry.locate_steady _ _ _) fun _ _ => Registry.stage_steady _ _

end Flags

namespace Run

section

variable {σ : Type} [Storage σ] {registries : List Registry} {plan : Plan} {empty : Bool} {session after : Session σ}

/-- Flags that name no starter project plan none. -/
theorem starter_of_prepare (alone : flags.starter = none)
    (ran : (prepare .flags registries flags directory empty).apply session = (.ok plan, after)) : plan.starter? = none := by
  obtain ⟨_, _, _, ran⟩ := bind_eq_ok ran
  obtain ⟨_, _, _, ran⟩ := bind_eq_ok ran
  obtain ⟨_, _, _, ran⟩ := bind_eq_ok ran
  obtain ⟨starter?, _, selected, ran⟩ := bind_eq_ok ran
  obtain ⟨_, _, _, ran⟩ := bind_eq_ok ran
  obtain ⟨_, _, _, returned⟩ := bind_eq_ok ran
  cases returned
  obtain ⟨told, _⟩ := Prod.mk.inj selected
  rw [Flags.selectStarter, alone] at told
  exact (Except.ok.inj told).symm

theorem path_of_prepare {backend : BackendKind}
    (ran : (prepare backend registries flags directory empty).apply session = (.ok plan, after)) :
    plan.staged.path = manifestPath directory := by
  obtain ⟨_, prepares⟩ := prepare_eq_ok ran
  obtain ⟨_, _, _, _, staging, _⟩ := prepares.staging
  exact (Manifest.accepted_of_ofContents (Manifest.stage_eq_ok staging).1).2

theorem choose_of_given (given : flags.isEmpty = false) (empty : Bool) : BackendKind.choose flags empty = .flags := by
  rw [BackendKind.choose, given]
  rfl

/-- With flags it makes no difference whether the directory is empty. -/
theorem setUp_of_given (given : flags.isEmpty = false) (empty : Bool) :
    (setUp registries flags directory empty : Run σ Setback Component) = setUp registries flags directory false := by
  unfold setUp prepare greet
  rw [choose_of_given given, choose_of_given given, given]
  rfl

end

theorem prepare_steady (registries : List Registry) (given : flags.isEmpty = false) (empty : Bool) :
    Steady (Agree directory (flags.places directory)) (prepare .flags registries flags directory empty) := by
  unfold prepare greet
  rw [given]
  exact Steady.bind (steady_pure _) fun _ _ => Steady.bind (flags.selectManifest_steady registries) fun _ _ =>
    Steady.bind steady_checkCancelled fun _ _ => Steady.bind (steady_ofExcept _) fun _ _ =>
      Steady.bind (steady_ofExcept _) fun _ _ => Steady.bind steady_checkCancelled fun _ _ => steady_pure _

theorem commit_steady {manifest : Manifest} (placed : manifest.path = manifestPath directory) :
    Steady (Agree directory paths) (commit manifest) := by
  refine Steady.bind steady_checkCancelled fun _ _ => ?_
  rw [Manifest.save, placed]
  exact (write_steady _).during _ _

theorem recordComponent_steady {σ ε : Type} {files : σ → σ → Prop} (devfile : Devfile) :
    Steady files (recordComponent devfile : Run σ ε Unit) :=
  Steady.bind (steady_record _ _) fun _ _ => Steady.bind (steady_record _ _) fun _ _ =>
    Steady.bind (steady_record _ _) fun _ _ => steady_record _ _

theorem setUp_steady (registries : List Registry) (given : flags.isEmpty = false) (alone : flags.starter = none)
    (empty : Bool) : Steady (Agree directory (flags.places directory)) (setUp registries flags directory empty) := by
  unfold setUp
  rw [choose_of_given given]
  refine Steady.bind ((prepare_steady registries given empty).mapError _) fun plan ⟨_, _, prepared⟩ => ?_
  have prepared := mapError_eq_ok.mp prepared
  rw [starter_of_prepare alone prepared]
  refine Steady.bind (steady_pure _) fun manifest ⟨_, _, settled⟩ => ?_
  obtain rfl : plan.staged = manifest := Except.ok.inj (Prod.mk.inj settled).1
  have placed : (plan.staged.withName plan.name).path = manifestPath directory := path_of_prepare prepared
  exact Steady.bind ((commit_steady placed).mapError _) fun _ _ =>
    Steady.bind (recordComponent_steady _) fun _ _ => steady_pure _

theorem rollBack_steady (setback : Setback) : Steady (Agree directory paths) (rollBack directory setback) := by
  unfold rollBack
  split
  · exact steady_pure _
  · exact Steady.bind remove_steady.attempt fun _ _ => steady_pure _

end Run

/-! ## Inspecting by flags -/

/-- What a store shows at a path: what is there, and whether it is special. -/
def Faulty.held? (store : Faulty FileTree) (path : Path) : Option (Node × Bool) :=
  (store.inner.get? (store.inner.resolve path)).map fun node => (node, store.isSpecial path)

theorem Faulty.node_of_held {store other : Faulty FileTree} {path : Path} (shown : store.held? path = other.held? path) :
    store.inner.get? (store.inner.resolve path) = other.inner.get? (other.inner.resolve path) := by
  simpa [held?, Function.comp_def] using congrArg (Option.map Prod.fst) shown

/-- Stores without faults in which nothing differs that flags without a starter project look at: the working directory,
no manifest in it, and what is at the devfile path if one is given that is no address. -/
structure Flags.SameView (flags : Flags) (left right : Faulty FileTree) : Prop where
  quiet : left.faults = []
  quietOther : right.faults = []
  workingDirectory : left.inner.workingDirectory = right.inner.workingDirectory
  directory : left.inner.get? (left.inner.resolve left.inner.workingDirectory) =
    right.inner.get? (right.inner.resolve right.inner.workingDirectory)
  fresh : left.held? (manifestPath left.inner.workingDirectory) = none
  freshOther : right.held? (manifestPath right.inner.workingDirectory) = none
  devfile : ∀ text, flags.devfilePath = some text → Url.isUrl text = false →
    left.held? (left.inner.workingDirectory.join ⟨text⟩) = right.held? (right.inner.workingDirectory.join ⟨text⟩)

section

variable {store other : Faulty FileTree}

/-- Stores that are still the ones from before. -/
def Still (store other left right : Faulty FileTree) : Prop := left = store ∧ right = other

/-- A call that changes nothing goes alike if it is answered alike. -/
theorem parallel_look (call : FileCall) {values : call.Answer → call.Answer → Prop} (fit : call.mutates = false)
    (quiet : store.faults = []) (quietOther : other.faults = [])
    (answers : Outcomes values ((Storage.perform call store.inner).1.map (store.revise call))
      ((Storage.perform call other.inner).1.map (other.revise call))) :
    Parallel (Still store other) values (Run.call call) (Run.call call) := by
  refine parallel_call call ?_
  rintro _ _ ⟨rfl, rfl⟩
  rw [Faulty.perform_look fit quiet, Faulty.perform_look fit quietOther]
  exact ⟨answers, rfl, rfl⟩

namespace Flags.SameView

variable (view : flags.SameView store other)

include view

theorem agree :
    store.inner.Agree store.inner.workingDirectory (flags.places store.inner.workingDirectory) other.inner where
  workingDirectory := view.workingDirectory
  nodes path seen := by
    rw [List.mem_cons, List.mem_cons, Flags.mem_places] at seen
    rcases seen with rfl | rfl | ⟨text, given, noAddress, rfl⟩
    · exact view.directory.trans (by rw [view.workingDirectory])
    · exact Faulty.node_of_held (view.fresh.trans (view.workingDirectory ▸ view.freshOther.symm))
    · exact Faulty.node_of_held ((view.devfile text given noAddress).trans (by rw [view.workingDirectory]))
  vacant := by
    have fresh := view.freshOther
    rw [← view.workingDirectory, Faulty.held?, Option.map_eq_none_iff] at fresh
    rw [fresh]
    nofun

/-- What is shown alike is inspected alike. -/
theorem stat_steady {path : Path} (shown : store.held? path = other.held? path) :
    Steady (Still store other) (stat path) := by
  refine parallel_look (.stat path) rfl view.quiet view.quietOther ?_
  have same : (store.inner.stat path).map (store.reviseStat path) = (other.inner.stat path).map (other.reviseStat path) := by
    unfold Faulty.held? at shown
    unfold FileTree.stat Faulty.reviseStat
    rw [view.agree.resolved] at shown ⊢
    dsimp only
    generalize store.inner.get? _ = node at shown ⊢
    generalize other.inner.get? _ = otherNode at shown ⊢
    rcases node with _ | node <;> rcases otherNode with _ | otherNode
    · rfl
    · cases shown
    · cases shown
    · obtain ⟨rfl, special⟩ := Prod.mk.inj (Option.some.inj shown)
      rw [special]
  exact same ▸ outcomes_refl _

theorem refuseManifest_steady : Steady (Still store other) (refuseManifest store.inner.workingDirectory) := by
  have missing : store.held? (manifestPath store.inner.workingDirectory) =
      other.held? (manifestPath store.inner.workingDirectory) := by
    rw [view.fresh, view.workingDirectory, view.freshOther]
  refine Steady.bind (Parallel.during (Steady.bind (view.stat_steady missing).attempt fun answer _ => ?_) _ _)
    fun present _ => ?_
  · split
    · exact steady_pure _
    · split
      · exact steady_pure _
      · exact steady_throw _
  · split
    · exact steady_throw _
    · exact steady_pure _

theorem checkDevfilePath_steady : Steady (Still store other) (checkDevfilePath flags store.inner.workingDirectory) := by
  unfold checkDevfilePath
  split
  · exact steady_pure _
  · rename_i text given
    split
    · exact steady_pure _
    · rename_i noAddress
      have shown := view.devfile text given (Bool.not_eq_true _ ▸ noAddress)
      rw [← view.workingDirectory] at shown
      refine Steady.bind (Steady.bind (view.stat_steady shown).attempt fun answer _ => ?_) fun present _ => ?_
      · split
        · exact steady_pure _
        · exact steady_pure _
      · split
        · exact steady_pure _
        · exact steady_throw _

theorem validateFlags_steady (registries : List Registry) :
    Steady (Still store other) (validateFlags flags store.inner.workingDirectory registries) := by
  unfold validateFlags
  split
  · exact steady_pure _
  · split
    · exact steady_throw_bind _
    · exact view.checkDevfilePath_steady

/-- Both directories are accepted or neither is, though only one may be empty. -/
theorem inspect_parallel (registries : List Registry) :
    Parallel (Still store other)
      (fun left right => left.1 = store.inner.workingDirectory ∧ right.1 = store.inner.workingDirectory)
      (inspect registries flags) (inspect registries flags) := by
  have located : Parallel (Still store other)
      (fun left right => left = store.inner.workingDirectory ∧ right = store.inner.workingDirectory)
      Run.workingDirectory Run.workingDirectory :=
    parallel_look .workingDirectory rfl view.quiet view.quietOther (.returned _ _ ⟨rfl, view.workingDirectory.symm⟩)
  have listed : Parallel (Still store other) (fun _ _ => True) (list store.inner.workingDirectory)
      (list store.inner.workingDirectory) := by
    refine parallel_look (.list store.inner.workingDirectory) rfl view.quiet view.quietOther ?_
    exact view.agree.list.map fun _ _ _ => trivial
  refine Parallel.bind (located.during _ _) ?_
  rintro _ _ ⟨rfl, rfl⟩
  refine Parallel.bind (steady_record _ _) fun _ _ _ => Parallel.bind view.refuseManifest_steady fun _ _ _ =>
    Parallel.bind (view.validateFlags_steady registries) fun _ _ _ => ?_
  have looked : Parallel (Still store other) (fun _ _ => True) (isEmptyDir store.inner.workingDirectory)
      (isEmptyDir store.inner.workingDirectory) := Parallel.bind listed fun _ _ _ => parallel_pure trivial
  exact Parallel.bind (looked.during _ _) fun _ _ _ => parallel_pure ⟨rfl, rfl⟩

end Flags.SameView

end

/-! ## The whole run -/

namespace Run

variable {left right : Session (Faulty FileTree)}

theorem initialise_abreast (registries : List Registry) (given : flags.isEmpty = false) (alone : flags.starter = none)
    (alike : left.Alike flags.SameView right) :
    Abreast (Agree left.files.inner.workingDirectory (flags.places left.files.inner.workingDirectory)) Eq left right
      ((initialise registries flags).apply left) ((initialise registries flags).apply right) := by
  have view := alike.files
  have inspected := (view.inspect_parallel registries).mapError (fun cause => Failure.mk cause .nothingWritten)
    { alike with files := ⟨rfl, rfl⟩ }
  refine inspected.bind ?_ ?_
  · rintro _ _ ⟨rfl, rfl⟩
    exact ⟨view.quiet, view.quietOther, view.agree⟩
  · rintro ⟨_, empty⟩ ⟨_, otherEmpty⟩ ⟨rfl, rfl⟩
    dsimp only
    rw [setUp_of_given given empty, setUp_of_given given otherEmpty]
    refine Steady.bind (setUp_steady registries given alone false).attempt fun outcome _ => ?_
    split
    · exact steady_pure _
    · exact Steady.bind (rollBack_steady _) fun _ _ => steady_throw _

/-- A run by flags without a starter project ignores the rest of the directory. In stores without faults that show it
the same it comes out the same, makes the same calls and requests and asks and tells nobody anything, records the same,
and leaves the same bytes where the manifest is, or nothing. -/
theorem initialise_ignores_rest (registries : List Registry) (given : flags.isEmpty = false)
    (alone : flags.starter = none) (alike : left.Alike flags.SameView right) :
    ∃ outcome leftAfter rightAfter,
      (initialise registries flags).apply left = (outcome, leftAfter) ∧
      (initialise registries flags).apply right = (outcome, rightAfter) ∧
      (∃ events, leftAfter.log = events ++ left.log ∧ rightAfter.log = events ++ right.log ∧
        ∀ event ∈ events, event.Unattended) ∧
      leftAfter.prompter = left.prompter ∧ rightAfter.prompter = right.prompter ∧
      leftAfter.telemetry = rightAfter.telemetry ∧
      ∃ contents? : Option ByteArray,
        leftAfter.files.inner.get? (leftAfter.files.inner.resolve (manifestPath left.files.inner.workingDirectory)) =
          contents?.map .file ∧
        rightAfter.files.inner.get? (rightAfter.files.inner.resolve (manifestPath right.files.inner.workingDirectory)) =
          contents?.map .file := by
  have abreast := initialise_abreast registries given alone alike
  rcases ran : (initialise registries flags).apply left with ⟨outcome, leftAfter⟩
  rcases otherRan : (initialise registries flags).apply right with ⟨otherOutcome, rightAfter⟩
  rw [ran, otherRan] at abreast
  obtain rfl : outcome = otherOutcome := abreast.outcomes.eq
  refine ⟨outcome, leftAfter, rightAfter, rfl, rfl, abreast.events, abreast.prompters.1, abreast.prompters.2,
    abreast.alike.telemetry, ?_⟩
  rw [← alike.files.workingDirectory]
  exact abreast.alike.files.trees.contents

/-- Flags that name a devfile next to the directory. -/
def besideFlags : Flags := { name := some "shop", devfilePath := some "../d.yaml" }

/-- A session in a directory with some files and that devfile next to it. -/
def besideSession (names : List String) (prompter : Prompter) : Session (Faulty FileTree) :=
  { files :=
      { inner := names.foldl (fun tree name => tree.withFile ⟨name⟩ "x".toUTF8)
          ((FileTree.new ⟨"/app"⟩).withFile ⟨"../d.yaml"⟩ "schemaVersion: 2.2.0".toUTF8)
        faults := []
        special := names.map Path.mk
        modes := [] }
    prompter }

/-- In an empty directory and in one with sources the same devfile is staged and written under its name. -/
theorem initialise_ignores_rest_beside :
    besideFlags.isEmpty = false ∧ besideFlags.starter = none ∧
      ((besideSession [] .silent).Alike besideFlags.SameView (besideSession ["go.mod", "x.go"] (.scripted []))) ∧
      ∃ leftAfter rightAfter,
        (initialise [] besideFlags).apply (besideSession [] .silent) =
          (.ok ⟨"shop", ⟨"/app/devfile.yaml"⟩, .flags, none, false⟩, leftAfter) ∧
        (initialise [] besideFlags).apply (besideSession ["go.mod", "x.go"] (.scripted [])) =
          (.ok ⟨"shop", ⟨"/app/devfile.yaml"⟩, .flags, none, false⟩, rightAfter) ∧
        leftAfter.telemetry = rightAfter.telemetry := by
  -- What both stores hold is told by the kind and the bytes of the nodes, since nodes themselves are not compared.
  have directory : ∀ {store : Faulty FileTree}, store.inner.isDirectoryAt (store.inner.resolve ⟨"/app"⟩) = true →
      store.inner.get? (store.inner.resolve ⟨"/app"⟩) = some .directory := FileTree.isDirectoryAt_iff.mp
  have devfile : ∀ {store : Faulty FileTree},
      store.inner.read ⟨"/app/../d.yaml"⟩ = .ok "schemaVersion: 2.2.0".toUTF8 ∧
          store.isSpecial ⟨"/app/../d.yaml"⟩ = false →
        store.held? ⟨"/app/../d.yaml"⟩ = some (.file "schemaVersion: 2.2.0".toUTF8, false) := by
    rintro store ⟨read, plain⟩
    rw [Faulty.held?, FileTree.read_eq_ok.mp read, plain]
    rfl
  have alike : (besideSession [] .silent).Alike besideFlags.SameView
      (besideSession ["go.mod", "x.go"] (.scripted [])) :=
    { files :=
        { quiet := rfl
          quietOther := rfl
          workingDirectory := by decide +kernel
          directory := (directory (by decide +kernel)).trans (directory (by decide +kernel)).symm
          fresh := by decide +kernel
          freshOther := by decide +kernel
          devfile := by
            rintro text ⟨⟩ _
            exact (devfile (by decide +kernel)).trans (devfile (by decide +kernel)).symm }
      network := rfl
      cancelled := rfl
      schedule := rfl
      ties := rfl
      telemetry := rfl }
  have made : ((initialise [] besideFlags).apply (besideSession [] .silent)).1 =
      .ok ⟨"shop", ⟨"/app/devfile.yaml"⟩, .flags, none, false⟩ := by
    decide +kernel
  have given : besideFlags.isEmpty = false := by decide
  obtain ⟨outcome, leftAfter, rightAfter, ran, otherRan, _, _, _, telemetry, _⟩ :=
    initialise_ignores_rest [] given rfl alike
  obtain rfl : outcome = .ok ⟨"shop", ⟨"/app/devfile.yaml"⟩, .flags, none, false⟩ :=
    (congrArg Prod.fst ran).symm.trans made
  exact ⟨given, rfl, alike, leftAfter, rightAfter, ran, otherRan, telemetry⟩

end Run

end Scaffold
