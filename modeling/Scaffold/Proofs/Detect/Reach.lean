import Scaffold.Detect.Scan
import Scaffold.Proofs.Files.Ordered

/-! # What a scan reaches

A scan comes to the visible files directly in a directory and in the directories below it that are its own, as far down
as it goes. In a tree that is in order it comes to each of them once, in the order of the names that lead to them.
-/

namespace Scaffold

/-- A file below some directory. -/
structure FoundFile where
  /-- The directories below that the file is in, the outermost first. -/
  above : List String
  name : String
  contents : ByteArray
  deriving Inhabited

namespace FoundFile

/-- The names that lead to a file, its own the last. -/
def names (file : FoundFile) : List String := file.above ++ [file.name]

/-- Where a file is, seen from the root. -/
def route (base : Route) (file : FoundFile) : Route := base ++ file.names.map .name

/-- A file as seen from one directory further up. -/
def within (directory : String) (file : FoundFile) : FoundFile := { file with above := directory :: file.above }

/-- What is found at a node of a directory, given what is found in the directories below. -/
def atNode (deeper : String → List FoundFile) : String × Node → List FoundFile
  | (name, .file contents) => [⟨[], name, contents⟩]
  | (name, .directory) =>
    if skippedDirectories.contains name then [] else (deeper name).map (within name)

/-- A place that a scan of some levels reaches: visible, and in directories that are neither hidden nor skipped. -/
structure Reached (levels : Nat) (file : FoundFile) : Prop where
  near : file.above.length < levels
  own : ∀ directory ∈ file.above, isHidden directory = false ∧ directory ∉ skippedDirectories
  visible : isHidden file.name = false

theorem route_within (base : Route) (directory : String) (file : FoundFile) :
    route base (file.within directory) = route (base ++ [.name directory]) file := by
  simp [route, names, within]

theorem route_concat (base : Route) (file : FoundFile) :
    route base file = base ++ file.above.map .name ++ [.name file.name] := by
  simp [route, names]

theorem reached_direct {levels : Nat} {name : String} {contents : ByteArray} :
    Reached (levels + 1) ⟨[], name, contents⟩ ↔ isHidden name = false :=
  ⟨Reached.visible, fun visible => ⟨Nat.succ_pos levels, by simp, visible⟩⟩

theorem reached_within {levels : Nat} {directory : String} {file : FoundFile} :
    Reached (levels + 1) (file.within directory) ↔
      (isHidden directory = false ∧ directory ∉ skippedDirectories) ∧ Reached levels file := by
  constructor
  · rintro ⟨near, own, visible⟩
    exact ⟨own directory List.mem_cons_self, Nat.lt_of_succ_lt_succ near,
      fun other member => own other (List.mem_cons_of_mem _ member), visible⟩
  · rintro ⟨here, near, own, visible⟩
    exact ⟨Nat.succ_lt_succ near, List.forall_mem_cons.mpr ⟨here, own⟩, visible⟩

end FoundFile

namespace FileTree

variable {tree : FileTree} {levels : Nat} {base : Route} {file : FoundFile}

/-- The files that a scan of some levels comes to, in order. -/
def visited (tree : FileTree) : Nat → Route → List FoundFile
  | 0, _ => []
  | levels + 1, base =>
    ((tree.children base).filter fun child => !isHidden child.1).flatMap
      (FoundFile.atNode fun name => tree.visited levels (base ++ [.name name]))

/-- Some files are all that a scan of a directory reaches, each once and in the order of the names that lead to them. -/
structure Reaches (tree : FileTree) (levels : Nat) (base : Route) (files : List FoundFile) : Prop where
  all : ∀ file, file ∈ files ↔ file.Reached levels ∧ tree.get? (file.route base) = some (.file file.contents)
  increasing : files.Pairwise fun left right => left.names < right.names

theorem Reaches.nodup {files : List FoundFile} (reaches : tree.Reaches levels base files) : files.Nodup := by
  refine reaches.increasing.imp fun {left right} less => ?_
  rintro rfl
  exact List.lt_irrefl _ less

/-- Above a file that is in a directory below there is that directory. -/
theorem WellFormed.directory_of_within (wellFormed : tree.WellFormed) {directory : String}
    (present : tree.get? ((file.within directory).route base) ≠ none) :
    tree.get? (base ++ [.name directory]) = some .directory := by
  rw [FoundFile.route_concat] at present
  have parent := wellFormed.closed present (Route.parent?_concat_name _ _)
  refine isDirectoryAt_iff.mp (wellFormed.ancestors_directories parent _ ?_)
  refine Route.mem_ancestors_append_names.mpr (.inl ⟨[directory], by simp, ?_, rfl⟩)
  exact ⟨file.above, rfl⟩

theorem Ordered.mem_visited (ordered : tree.Ordered) (levels : Nat) (base : Route) (file : FoundFile) :
    file ∈ tree.visited levels base ↔
      file.Reached levels ∧ tree.get? (file.route base) = some (.file file.contents) := by
  induction levels generalizing base file with
  | zero => exact ⟨fun member => absurd member List.not_mem_nil, fun reached => absurd reached.1.near (Nat.not_lt_zero _)⟩
  | succ levels ih =>
    simp only [visited, List.mem_flatMap, List.mem_filter, Prod.exists, ordered.inOrder.mem_children]
    constructor
    · rintro ⟨name, node, ⟨present, visible⟩, found⟩
      have shown : isHidden name = false := by simpa using visible
      cases node with
      | file contents =>
        obtain rfl := List.mem_singleton.mp found
        exact ⟨FoundFile.reached_direct.mpr shown, present⟩
      | directory =>
        rw [FoundFile.atNode] at found
        split at found
        · cases found
        · rename_i own
          obtain ⟨inner, member, rfl⟩ := List.mem_map.mp found
          obtain ⟨reached, held⟩ := (ih _ inner).mp member
          rw [FoundFile.route_within]
          exact ⟨FoundFile.reached_within.mpr ⟨⟨shown, by simpa using own⟩, reached⟩, held⟩
    · rintro ⟨reached, held⟩
      obtain ⟨above, name, contents⟩ := file
      cases above with
      | nil => exact ⟨name, .file contents, ⟨held, by simp [reached.visible]⟩, List.mem_singleton.mpr rfl⟩
      | cons directory rest =>
        have inside : FoundFile.mk (directory :: rest) name contents = FoundFile.within directory ⟨rest, name, contents⟩ := rfl
        rw [inside] at reached held ⊢
        have present := ordered.directory_of_within (held ▸ Option.some_ne_none _)
        rw [FoundFile.route_within] at held
        obtain ⟨⟨shown, own⟩, deeper⟩ := FoundFile.reached_within.mp reached
        refine ⟨directory, .directory, ⟨present, by simp [shown]⟩, ?_⟩
        rw [FoundFile.atNode, if_neg (by simpa using own)]
        exact List.mem_map.mpr ⟨_, (ih _ _).mpr ⟨deeper, held⟩, rfl⟩

/-- What is found at a node has the name of the node first. -/
private theorem names_of_mem_atNode {deeper : String → List FoundFile} {child : String × Node}
    (member : file ∈ FoundFile.atNode deeper child) : ∃ rest, file.names = child.1 :: rest := by
  obtain ⟨name, node⟩ := child
  cases node with
  | file contents =>
    obtain rfl := List.mem_singleton.mp member
    exact ⟨[], rfl⟩
  | directory =>
    rw [FoundFile.atNode] at member
    split at member
    · cases member
    · obtain ⟨inner, _, rfl⟩ := List.mem_map.mp member
      exact ⟨inner.names, rfl⟩

theorem Ordered.visited_increasing (ordered : tree.Ordered) (levels : Nat) (base : Route) :
    (tree.visited levels base).Pairwise fun left right => left.names < right.names := by
  induction levels generalizing base with
  | zero => exact List.Pairwise.nil
  | succ levels ih =>
    rw [visited, List.pairwise_flatMap]
    constructor
    · rintro ⟨name, node⟩ _
      cases node with
      | file contents => exact List.pairwise_singleton _ _
      | directory =>
        rw [FoundFile.atNode]
        split
        · exact List.Pairwise.nil
        · exact List.pairwise_map.mpr ((ih _).imp fun less => List.cons_lt_cons_iff.mpr (.inr ⟨rfl, less⟩))
    · refine ((ordered.inOrder.children_increasing base).filter _).imp fun {left right} less first found second other => ?_
      obtain ⟨restFirst, namesFirst⟩ := names_of_mem_atNode found
      obtain ⟨restSecond, namesSecond⟩ := names_of_mem_atNode other
      rw [namesFirst, namesSecond]
      exact List.cons_lt_cons_iff.mpr (.inl less)

theorem Ordered.reaches (ordered : tree.Ordered) (levels : Nat) (base : Route) :
    tree.Reaches levels base (tree.visited levels base) :=
  ⟨ordered.mem_visited levels base, ordered.visited_increasing levels base⟩

/-- Two scans that come to the same files of some kind come to them in the same order. -/
theorem Reaches.filter_eq {other : FileTree} {below : Route} {files others : List FoundFile} {keep : FoundFile → Bool}
    (reaches : tree.Reaches levels base files) (also : other.Reaches levels below others)
    (alike : ∀ file, keep file = true → (file ∈ files ↔ file ∈ others)) : files.filter keep = others.filter keep := by
  refine List.Perm.eq_of_pairwise (fun left right _ _ less greater => absurd (List.lt_trans less greater) (List.lt_irrefl _))
    (reaches.increasing.filter _) (also.increasing.filter _) ?_
  refine (List.perm_ext_iff_of_nodup (reaches.nodup.filter _) (also.nodup.filter _)).mpr fun file => ?_
  rw [List.mem_filter, List.mem_filter]
  exact and_congr_left fun kept => alike file kept

end FileTree

end Scaffold
