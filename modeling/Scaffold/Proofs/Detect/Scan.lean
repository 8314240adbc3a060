import Scaffold.Proofs.Detect.Reach
import Scaffold.Proofs.Detect.Sums
import Scaffold.Proofs.Session.Giving

/-! # What a scan tells

Without faults a scan returns the sums over the files that it reaches, whatever else a session holds. So what is hidden,
skipped, too far down, or neither marker nor source does not matter to it.
-/

namespace Scaffold

namespace FoundFile

/-- The text of a marker; other files are not read. -/
def text? (file : FoundFile) : Option String :=
  if (Language.ofMarker? file.name).isSome then some (Text.fromUtf8Lossy file.contents) else none

/-- The frameworks that a marker names. -/
def frameworks (file : FoundFile) : List String := (file.text?.map (Marker.frameworks file.name)).getD []

/-- The name that a marker declares for the project. -/
def declaredName? (file : FoundFile) : Option String := file.text?.bind (Marker.declaredName? file.name)

/-- What a scan takes of a file. -/
def source (isTop : Bool) (file : FoundFile) : SourceFile :=
  ⟨file.name, isTop && file.above.isEmpty,
    if (Language.ofMarker? file.name).isSome then some file.contents else none⟩

theorem source_within (isTop : Bool) (directory : String) (file : FoundFile) :
    (file.within directory).source isTop = file.source false := by
  cases isTop <;> rfl

theorem text?_source (isTop : Bool) (file : FoundFile) : (file.source isTop).text? = file.text? := by
  unfold SourceFile.text? text? source
  split <;> rfl

theorem frameworks_source (isTop : Bool) (file : FoundFile) : (file.source isTop).frameworks = file.frameworks := by
  rw [SourceFile.frameworks, text?_source, frameworks]
  rfl

/-- Only a file directly in the directory says what the project is called. -/
theorem projectName?_source (file : FoundFile) :
    (file.source true).projectName? = if file.above = [] then file.declaredName? else none := by
  rw [SourceFile.projectName?, text?_source, declaredName?]
  cases above : file.above <;> simp [source, above]

end FoundFile

/-! ## Sums -/

/-- Some signals are what files add up to. -/
structure Signals.SumOf (signals : Signals) (files : List FoundFile) : Prop where
  /-- A language weighs what its markers and sources weigh together, in 32 bits, and is absent without any. -/
  languages : ∀ language, signals.languages.get? language =
    if tally (files.map FoundFile.name) language = 0 then none
    else some (wrap (tally (files.map FoundFile.name) language))
  frameworks : ∀ framework, framework ∈ signals.frameworks.keys ↔ ∃ file ∈ files, framework ∈ file.frameworks
  /-- The first file directly in the directory that declares a name says what the project is called. -/
  projectName : ∀ name, signals.projectName = some name ↔
    ∃ file ∈ files, file.above = [] ∧ file.declaredName? = some name ∧
      ∀ other ∈ files, other.above = [] → other.name < file.name → other.declaredName? = none

/-- The first of some files in order is the one with the least name. -/
private theorem first_declares {files : List FoundFile}
    (increasing : files.Pairwise fun left right => left.names < right.names) (name : String) :
    (files.findSome? fun file => if file.above = [] then file.declaredName? else none) = some name ↔
      ∃ file ∈ files, file.above = [] ∧ file.declaredName? = some name ∧
        ∀ other ∈ files, other.above = [] → other.name < file.name → other.declaredName? = none := by
  have names_lt : ∀ {left right : FoundFile}, left.above = [] → right.above = [] →
      (left.names < right.names ↔ left.name < right.name) := by
    intro left right leftTop rightTop
    simp [FoundFile.names, leftTop, rightTop, List.cons_lt_cons_iff]
  rw [List.findSome?_eq_some_iff]
  constructor
  · rintro ⟨before, file, behind, rfl, declares, silent⟩
    obtain ⟨top, named⟩ : file.above = [] ∧ file.declaredName? = some name := by simpa using declares
    refine ⟨file, by simp, top, named, fun other member otherTop less => ?_⟩
    rcases List.mem_append.mp member with earlier | later
    · simpa [otherTop] using silent other earlier
    · -- Nothing from the file on has a lesser name.
      have least := (List.pairwise_cons.mp (List.pairwise_append.mp increasing).2.1).1
      rcases List.mem_cons.mp later with rfl | later
      · exact absurd less (String.lt_irrefl _)
      · exact absurd less (String.lt_asymm ((names_lt top otherTop).mp (least other later)))
  · rintro ⟨file, member, top, named, least⟩
    obtain ⟨before, behind, rfl⟩ := List.append_of_mem member
    refine ⟨before, file, behind, rfl, by simpa [top] using named, fun other earlier => ?_⟩
    split
    · rename_i otherTop
      have less := (List.pairwise_append.mp increasing).2.2 other earlier file List.mem_cons_self
      exact least other (List.mem_append_left _ earlier) otherTop ((names_lt otherTop top).mp less)
    · rfl

theorem Signals.sumOf_ofFiles {files : List FoundFile}
    (increasing : files.Pairwise fun left right => left.names < right.names) :
    (ofFiles (files.map (FoundFile.source true))).SumOf files where
  languages language := by
    have tallies := tallies_ofFiles (files.map (FoundFile.source true)) language
    rw [List.map_map] at tallies
    exact tallies
  frameworks framework := by
    rw [mem_frameworks_ofFiles]
    constructor
    · rintro ⟨_, member, named⟩
      obtain ⟨file, within, rfl⟩ := List.mem_map.mp member
      exact ⟨file, within, FoundFile.frameworks_source true file ▸ named⟩
    · rintro ⟨file, member, named⟩
      exact ⟨_, List.mem_map_of_mem member, FoundFile.frameworks_source true file ▸ named⟩
  projectName name := by
    rw [projectName_ofFiles, List.findSome?_map]
    have asked : SourceFile.projectName? ∘ FoundFile.source true =
        fun file => if file.above = [] then file.declaredName? else none := funext FoundFile.projectName?_source
    rw [asked]
    exact first_declares increasing name

/-! ## The run of a scan -/

namespace Run

section

variable {store : Faulty FileTree} {directory path : Path}

/-- A file is taken for what it is. -/
theorem lookAt_gives {name : String} {contents : ByteArray} (clear : store.Clear) (isTop : Bool)
    (present : store.inner.get? (store.inner.resolve path) = some (.file contents)) :
    Gives store (lookAt path name isTop) (FoundFile.source isTop ⟨[], name, contents⟩) := by
  unfold lookAt FoundFile.source
  rw [List.isEmpty_nil, Bool.and_true]
  split
  · exact (gives_read clear present).attempt.bind (gives_pure _)
  · exact gives_pure _

/-- A scan takes the files that it visits, each for what it is. -/
theorem sourceFiles_gives (clear : store.Clear) (ordered : store.inner.Ordered) (isTop : Bool) (levels : Nat)
    (present : store.inner.isDirectoryAt (store.inner.resolve directory) = true) :
    Gives store (sourceFiles isTop directory levels)
      ((store.inner.visited levels (store.inner.resolve directory)).map (FoundFile.source isTop)) := by
  induction levels generalizing isTop directory with
  | zero => exact gives_pure []
  | succ levels ih =>
    refine (gives_list clear (FileTree.list_of_directory present)).mapError.bind ?_
    rw [List.filter_map, List.mapM_map, FileTree.visited, List.map_flatMap, List.flatMap_def]
    refine Gives.bind (gives_mapM ?_) (gives_pure _)
    rintro ⟨name, node⟩ member
    have held := ordered.inOrder.mem_children.mp (List.mem_filter.mp member).1
    have below := store.inner.resolve_join directory (ordered.inOrder.plainName held)
    rw [← below] at held
    cases node with
    | file contents => exact (lookAt_gives clear isTop held).bind (gives_pure _)
    | directory =>
      dsimp only [Function.comp_apply, Node.kind, FoundFile.atNode]
      split
      · exact gives_pure []
      · have deeper := ih false (FileTree.isDirectoryAt_iff.mpr held)
        have seen : FoundFile.source isTop ∘ FoundFile.within name = FoundFile.source false :=
          funext (FoundFile.source_within isTop name)
        rw [below] at deeper
        rw [List.map_map, seen]
        exact deeper

end

end Run

namespace Session

variable {session other : Session (Faulty FileTree)} {directory : Path}

/-- A directory that can be scanned: it is there, in a tree that is in order, and nothing fails. -/
structure Scannable (session : Session (Faulty FileTree)) (directory : Path) : Prop where
  clear : session.files.Clear
  ordered : session.files.inner.Ordered
  present : session.files.inner.isDirectoryAt (session.files.inner.resolve directory) = true

/-- A session holds a file below a directory. -/
def Holds (session : Session (Faulty FileTree)) (directory : Path) (file : FoundFile) : Prop :=
  session.files.inner.get? (file.route (session.files.inner.resolve directory)) = some (.file file.contents)

/-- Two sessions hold the same markers and sources wherever a scan of a directory reaches, whatever else they hold. -/
def TellsAlike (session other : Session (Faulty FileTree)) (directory : Path) : Prop :=
  ∀ file : FoundFile, file.Reached scanDepth → Language.tells file.name = true →
    (session.Holds directory file ↔ other.Holds directory file)

/-- The files that a scan of a directory comes to. -/
def visited (session : Session (Faulty FileTree)) (directory : Path) : List FoundFile :=
  session.files.inner.visited scanDepth (session.files.inner.resolve directory)

/-- The signals of a directory. -/
def signals (session : Session (Faulty FileTree)) (directory : Path) : Signals :=
  Signals.ofFiles ((session.visited directory).map (FoundFile.source true))

/-- However a session goes on, a directory that is still there can be scanned. -/
theorem Scannable.later {allowed : Event → Prop} (scannable : session.Scannable directory)
    (keeps : session.KeepsTo allowed other)
    (present : other.files.inner.isDirectoryAt (other.files.inner.resolve directory) = true) :
    other.Scannable directory :=
  ⟨keeps.clear scannable.clear, keeps.ordered scannable.ordered, present⟩

theorem Scannable.reaches (scannable : session.Scannable directory) :
    session.files.inner.Reaches scanDepth (session.files.inner.resolve directory) (session.visited directory) :=
  scannable.ordered.reaches _ _

theorem Scannable.scan_gives (scannable : session.Scannable directory) :
    Run.Gives session.files (Run.scan directory) (session.signals directory) :=
  (Run.sourceFiles_gives scannable.clear scannable.ordered true scanDepth scannable.present).bind (Run.gives_pure _)

/-- Files that are neither marker nor source do not matter. -/
theorem TellsAlike.signals_eq (alike : session.TellsAlike other directory) (scannable : session.Scannable directory)
    (also : other.Scannable directory) : other.signals directory = session.signals directory := by
  have telling : ∀ files : List FoundFile, Signals.ofFiles (files.map (FoundFile.source true)) =
      Signals.ofFiles ((files.filter fun file => Language.tells file.name).map (FoundFile.source true)) := by
    intro files
    rw [← Signals.ofFiles_filter, List.filter_map]
    rfl
  have same : (session.visited directory).filter (fun file => Language.tells file.name) =
      (other.visited directory).filter fun file => Language.tells file.name :=
    scannable.reaches.filter_eq also.reaches fun file tells => by
      rw [scannable.reaches.all, also.reaches.all]
      exact and_congr_right fun reached => alike file reached tells
  rw [signals, telling, ← same, ← telling, signals]

end Session

end Scaffold
