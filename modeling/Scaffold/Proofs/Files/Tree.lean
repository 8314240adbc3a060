import Scaffold.Files.Tree
import Scaffold.Proofs.Data.OrderedMap
import Scaffold.Proofs.Path

/-! # Calls to a tree

When a call to a tree succeeds and which tree it leaves then; a call that fails leaves the tree as it was. A file
that was written where there was nothing is removed without a trace. In a well-formed tree a file whose directory
could be made is refused only where there is a directory, and then making that directory changed nothing.
-/

namespace Scaffold

namespace FileTree

variable {tree made after : FileTree} {path target parent : Path} {contents : ByteArray} {error : IoError}

theorem isDirectoryAt_iff {route : Route} : tree.isDirectoryAt route = true ↔ tree.get? route = some .directory := by
  unfold isDirectoryAt
  split <;> simp_all

theorem isFileAt_iff {route : Route} :
    tree.isFileAt route = true ↔ ∃ contents, tree.get? route = some (.file contents) := by
  unfold isFileAt
  split <;> simp_all

/-- A relative path goes on from the working directory. -/
theorem resolve_eq (tree : FileTree) (path : Path) :
    tree.resolve path =
      Route.normalize ((if path.isAbsolute then [] else tree.workingDirectory.components) ++ path.components) := by
  unfold resolve
  cases rooted : path.isAbsolute with
  | true => rfl
  | false => exact Path.normalize_join rooted

/-- A path that goes on from another one by names leads as much further. -/
theorem resolve_append_names {base : Path} {names : List String}
    (components : path.components = base.components ++ names.map .name) :
    tree.resolve path = tree.resolve base ++ names.map .name := by
  have opens : path.isAbsolute = base.isAbsolute := by
    rw [Bool.eq_iff_iff, Path.isAbsolute_iff_root, Path.isAbsolute_iff_root, components, List.head?_append]
    cases base.components <;> cases names <;> simp
  rw [resolve_eq, resolve_eq, opens, components, ← List.append_assoc, Route.normalize_append_names]

/-! ## What calls leave -/

/-- An entry is inspected as what it is; where there is none, it is not found. -/
theorem stat_cases (tree : FileTree) (path : Path) :
    (∃ metadata, tree.stat path = .ok metadata ∧ metadata.isFile = tree.isFileAt (tree.resolve path)) ∨
      ∃ error, tree.stat path = .error error ∧ error.kind = .notFound ∧ tree.get? (tree.resolve path) = none := by
  unfold stat isFileAt
  dsimp only
  rcases tree.get? (tree.resolve path) with _ | contents | _ <;> simp [Metadata.isFile, noSuchEntry]

theorem read_eq_ok : tree.read path = .ok contents ↔ tree.get? (tree.resolve path) = some (.file contents) := by
  unfold read
  dsimp only
  split <;> simp_all

theorem write_eq_ok :
    tree.write path contents = .ok after ↔
      (tree.resolve path).parent?.any tree.isDirectoryAt = true ∧ tree.isDirectoryAt (tree.resolve path) = false ∧
        after = { tree with nodes := tree.nodes.insert (tree.resolve path) (.file contents) } := by
  unfold write
  dsimp only
  cases (tree.resolve path).parent?.any tree.isDirectoryAt <;> cases tree.isDirectoryAt (tree.resolve path) <;>
    simp [@eq_comm _ after]

theorem remove_eq_ok :
    tree.remove path = .ok after ↔
      tree.isFileAt (tree.resolve path) = true ∧
        after = { tree with nodes := tree.nodes.erase (tree.resolve path) } := by
  unfold remove isFileAt
  dsimp only
  split <;> simp_all [@eq_comm _ after]

theorem createDirs_eq_ok :
    tree.createDirs path = .ok after ↔
      (∀ above ∈ (tree.resolve path).ancestors, tree.isFileAt above = false) ∧
        after = tree.addDirs (tree.resolve path) := by
  unfold createDirs
  dsimp only
  cases found : (tree.resolve path).ancestors.find? tree.isFileAt with
  | some existing =>
    have file := List.find?_some found
    have member := List.mem_of_find?_eq_some found
    simp only [reduceCtorEq, false_iff, not_and]
    intro free
    simp [free existing member] at file
  | none =>
    have free : ∀ above ∈ (tree.resolve path).ancestors, tree.isFileAt above = false := by simpa using found
    simp only [Except.ok.injEq, @eq_comm _ after]
    exact (and_iff_right free).symm

/-- A file is found again where it was written. -/
theorem get?_write (wrote : tree.write path contents = .ok after) (route : Route) :
    after.get? route = if tree.resolve path = route then some (.file contents) else tree.get? route := by
  obtain ⟨_, _, rfl⟩ := write_eq_ok.mp wrote
  exact OrderedMap.get?_insert tree.nodes _ _ route

theorem get?_remove (removed : tree.remove path = .ok after) (route : Route) :
    after.get? route = if tree.resolve path = route then none else tree.get? route := by
  obtain ⟨_, rfl⟩ := remove_eq_ok.mp removed
  exact OrderedMap.get?_erase tree.nodes _ route

@[simp] theorem resolve_addDirs (route : Route) (path : Path) : (tree.addDirs route).resolve path = tree.resolve path :=
  rfl

theorem get?_addDirs (route other : Route) :
    (tree.addDirs route).get? other =
      if other ∈ route.ancestors then some ((tree.get? other).getD .directory) else tree.get? other := by
  rw [get?, addDirs, OrderedMap.get?_foldl_insertNew, get?]
  by_cases member : other ∈ route.ancestors
  · rw [if_pos member, if_pos member]
  · rw [if_neg member, if_neg member]

/-- Making directories makes no file and takes none away. -/
theorem isFileAt_addDirs (route other : Route) : (tree.addDirs route).isFileAt other = tree.isFileAt other := by
  unfold isFileAt
  rw [get?_addDirs]
  by_cases member : other ∈ route.ancestors
  · rw [if_pos member]
    rcases tree.get? other with _ | _ | _ <;> rfl
  · rw [if_neg member]

/-- Where no file is in the way, all of a route is made of directories. -/
theorem isDirectoryAt_addDirs {route above : Route} (free : ∀ above ∈ route.ancestors, tree.isFileAt above = false)
    (member : above ∈ route.ancestors) : (tree.addDirs route).isDirectoryAt above = true := by
  have noFile := free above member
  rw [isDirectoryAt_iff, get?_addDirs, if_pos member]
  unfold isFileAt at noFile
  split at noFile
  · cases noFile
  · rename_i node
    rcases found : tree.get? above with _ | ⟨contents⟩ | _
    · rfl
    · exact absurd found (node contents)
    · rfl

/-- Nothing is added where there is something everywhere. -/
theorem addDirs_eq_self {route : Route} (bound : ∀ above ∈ route.ancestors, tree.get? above ≠ none) :
    tree.addDirs route = tree := by
  have along : ∀ above : List Route, (∀ route ∈ above, tree.get? route ≠ none) →
      above.foldl (fun nodes above => nodes.insertNew above .directory) tree.nodes = tree.nodes := by
    intro above
    induction above with
    | nil => simp
    | cons first rest ih =>
      intro bound
      rw [List.foldl_cons, OrderedMap.insertNew_of_bound _ (bound first (by simp))]
      exact ih fun route member => bound route (by simp [member])
  rw [addDirs, along route.ancestors bound]

/-- A file that is removed again leaves no trace where there was nothing before. -/
theorem remove_write (free : tree.get? (tree.resolve path) = none)
    (wrote : tree.write path contents = .ok after) : after.remove path = .ok tree := by
  have found := get?_write wrote (tree.resolve path)
  rw [if_pos rfl] at found
  obtain ⟨_, _, rfl⟩ := write_eq_ok.mp wrote
  refine remove_eq_ok.mpr ⟨isFileAt_iff.mpr ⟨contents, found⟩, ?_⟩
  exact congrArg (FileTree.mk tree.workingDirectory) (OrderedMap.erase_insert _ free).symm

/-! ## Well-formed trees -/

/-- The working directory is absolute, and everything is in a directory. -/
structure WellFormed (tree : FileTree) : Prop where
  rooted : tree.workingDirectory.isAbsolute = true
  closed : ∀ {below above : Route}, tree.get? below ≠ none → below.parent? = some above →
    tree.isDirectoryAt above = true

private theorem get?_ne_none_iff {route : Route} :
    tree.get? route ≠ none ↔ ∃ entry ∈ tree.nodes.entries, entry.1 = route := by
  rw [get?, ← OrderedMap.mem_keys_iff]
  exact List.mem_map

/-- Whether a tree is well-formed is seen from its entries. -/
theorem wellFormed_iff :
    tree.WellFormed ↔ tree.workingDirectory.isAbsolute = true ∧
      ∀ entry ∈ tree.nodes.entries, ∀ above ∈ entry.1.parent?, tree.isDirectoryAt above = true := by
  constructor
  · intro wellFormed
    exact ⟨wellFormed.rooted, fun entry member above climbed =>
      wellFormed.closed (get?_ne_none_iff.mpr ⟨entry, member, rfl⟩) climbed⟩
  · rintro ⟨rooted, closed⟩
    refine ⟨rooted, fun bound climbed => ?_⟩
    obtain ⟨entry, member, rfl⟩ := get?_ne_none_iff.mp bound
    exact closed entry member _ climbed

instance (tree : FileTree) : Decidable tree.WellFormed := decidable_of_iff _ wellFormed_iff.symm

theorem WellFormed.ancestors_directories (wellFormed : tree.WellFormed) {route : Route}
    (directory : tree.isDirectoryAt route = true) : ∀ above ∈ route.ancestors, tree.isDirectoryAt above = true :=
  Route.forall_ancestors (fun above => tree.isDirectoryAt above = true) directory fun below climbed =>
    wellFormed.closed (by simp [isDirectoryAt_iff.mp below]) climbed

theorem not_mem_ancestors_parent {route above : Route} (climbed : route.parent? = some above) :
    route ∉ above.ancestors := fun member =>
  absurd (Route.length_le_of_mem_ancestors member) (Nat.not_le_of_lt (Route.length_lt_of_parent? climbed))

/-- Where the directory of a file could be made but the file not be written, there is a directory already, and
nothing had to be made. -/
theorem WellFormed.createDirs_of_write_error (wellFormed : tree.WellFormed)
    (climbed : (tree.resolve target).parent? = some (tree.resolve parent))
    (created : tree.createDirs parent = .ok made) (refused : made.write target contents = .error error) :
    made = tree := by
  obtain ⟨free, same⟩ := createDirs_eq_ok.mp created
  have resolved : made.resolve target = tree.resolve target := by rw [same, resolve_addDirs]
  have above : made.isDirectoryAt (tree.resolve parent) = true := by
    rw [same]
    exact isDirectoryAt_addDirs free (tree.resolve parent).self_mem_ancestors
  have inTheWay : made.isDirectoryAt (made.resolve target) = true := by
    cases present : made.isDirectoryAt (made.resolve target) with
    | true => rfl
    | false =>
      have ready : (made.resolve target).parent?.any made.isDirectoryAt = true := by
        rw [resolved, climbed, Option.any_some, above]
      rw [write_eq_ok.mpr ⟨ready, present, rfl⟩] at refused
      cases refused
  rw [isDirectoryAt_iff, resolved, same, get?_addDirs, if_neg (not_mem_ancestors_parent climbed)] at inTheWay
  have directory := wellFormed.closed (by simp [inTheWay]) climbed
  rw [same]
  refine addDirs_eq_self fun route member => ?_
  simp [isDirectoryAt_iff.mp (wellFormed.ancestors_directories directory route member)]

end FileTree

end Scaffold
