import Scaffold.Proofs.Files.Ordered

/-! # The shape of a tree

A tree keeps its nodes side by side under their routes, and nothing in this says that they hang together. They do, as
long as the working directory and the files that a tree is built from fit: each route leads from the root by names,
what a node is in is a directory, and nothing is below a file. Every call keeps this, wherever its path may lead, and
changes nothing but what it is about; if it fails, nothing at all.
-/

namespace Scaffold

/-- A component by which a way goes on: anything but the root, with a name that can be written in a path. -/
def PathComponent.Inner : PathComponent → Prop
  | root => False
  | name text => PlainName text
  | _ => True

namespace Route

variable {route above : Route} {names : List String}

/-- A route that leads from the root by names which can be written in a path. -/
def Settled (route : Route) : Prop :=
  ∃ names : List String, (∀ name ∈ names, PlainName name) ∧ route = .root :: names.map .name

theorem settled_root : Settled [.root] := ⟨[], nofun, rfl⟩

theorem Settled.concat (settled : route.Settled) {name : String} (plain : PlainName name) :
    Settled (route ++ [.name name]) := by
  obtain ⟨names, plains, rfl⟩ := settled
  refine ⟨names ++ [name], fun other member => ?_, by simp⟩
  rcases List.mem_append.mp member with before | last
  · exact plains other before
  · exact List.mem_singleton.mp last ▸ plain

/-- A settled route is the root or goes on by a name from a settled one. -/
theorem Settled.cases (settled : route.Settled) :
    route = [.root] ∨ ∃ (above : Route) (name : String), above.Settled ∧ PlainName name ∧ route = above ++ [.name name] := by
  obtain ⟨names, plains, rfl⟩ := settled
  rcases names.eq_nil_or_concat with rfl | ⟨opening, last, rfl⟩
  · exact .inl rfl
  · rw [List.concat_eq_append] at plains ⊢
    refine .inr ⟨.root :: opening.map .name, last, ⟨opening, fun name member => ?_, rfl⟩, ?_, by simp⟩
    · exact plains name (List.mem_append_left _ member)
    · exact plains last (List.mem_append_right _ (List.mem_singleton.mpr rfl))

theorem Settled.follow (settled : route.Settled) {component : PathComponent} (inner : component.Inner) :
    (route.follow component).Settled := by
  cases component with
  | root => exact inner.elim
  | here => exact settled
  | up =>
    -- There is no way up from the root.
    rcases settled.cases with rfl | ⟨above, name, below, _, rfl⟩
    · exact settled_root
    · rw [Route.follow, parent?_concat_name]
      exact below
  | name text => exact settled.concat inner

/-- Wherever a way from the root leads, up and down, it ends at a settled route. -/
theorem settled_normalize {rest : Route} (inner : ∀ component ∈ rest, component.Inner) :
    (normalize (.root :: rest)).Settled := by
  have along : ∀ opening : Route, opening.Settled → (rest.foldl Route.follow opening).Settled := by
    induction rest with
    | nil => exact fun _ => id
    | cons component rest ih =>
      rw [List.forall_mem_cons] at inner
      exact fun opening settled => ih inner.2 _ (settled.follow inner.1)
  exact along _ settled_root

/-- Above a settled route is whatever opens it. -/
theorem Settled.mem_ancestors_iff (settled : route.Settled) : above ∈ route.ancestors ↔ above ≠ [] ∧ above <+: route := by
  obtain ⟨names, _, rfl⟩ := settled
  have split : (.root :: names.map .name : Route) = [.root] ++ names.map .name := rfl
  have alone : ancestors [.root] = [[.root]] := rfl
  rw [split, mem_ancestors_append_names, alone, List.mem_singleton, List.singleton_append]
  cases above with
  | nil => simp
  | cons first rest =>
    rw [List.cons_prefix_cons]
    simp only [ne_eq, reduceCtorEq, not_false_eq_true, true_and, List.singleton_append, List.cons.injEq]
    constructor
    · rintro (⟨opening, _, begins, rfl, rfl⟩ | ⟨rfl, rfl⟩)
      · exact ⟨rfl, begins.map _⟩
      · exact ⟨rfl, List.nil_prefix⟩
    · rintro ⟨rfl, within⟩
      obtain ⟨opening, begins, rfl⟩ := (List.prefix_map_iff ..).mp within
      by_cases some : opening = []
      · exact .inr ⟨rfl, by rw [some, List.map_nil]⟩
      · exact .inl ⟨opening, some, begins, rfl, rfl⟩

theorem prefix_of_mem_ancestors (member : above ∈ route.ancestors) : above <+: route :=
  forall_ancestors (· <+: route) List.prefix_rfl
    (fun below climbed => (dropLast_of_parent? climbed ▸ List.dropLast_prefix _).trans below) above member

theorem Settled.root_mem_ancestors (settled : route.Settled) : [.root] ∈ route.ancestors := by
  refine settled.mem_ancestors_iff.mpr ⟨List.cons_ne_nil _ _, ?_⟩
  obtain ⟨names, _, rfl⟩ := settled
  exact List.cons_prefix_cons.mpr ⟨rfl, List.nil_prefix⟩

theorem Settled.of_mem_ancestors (settled : route.Settled) (member : above ∈ route.ancestors) : above.Settled :=
  forall_ancestors Settled settled (fun below climbed => by
    rcases below.cases with rfl | ⟨opening, name, outer, _, rfl⟩
    · cases climbed
    · rw [parent?_concat_name] at climbed
      exact Option.some.inj climbed ▸ outer) above member

end Route

namespace Path

variable {path : Path}

theorem inner_of_mem_components {component : PathComponent} (member : component ∈ path.components)
    (further : component ≠ .root) : component.Inner := by
  cases component with
  | root => exact absurd rfl further
  | name text => exact plainName_of_mem_components member
  | _ => trivial

/-- An absolute path goes on from the root. -/
theorem inner_of_rooted (rooted : path.isAbsolute = true) :
    ∃ rest, path.components = .root :: rest ∧ ∀ component ∈ rest, component.Inner := by
  obtain ⟨text, opens⟩ := components_of_rooted rooted
  refine ⟨_, opens, fun component member => inner_of_mem_components (opens ▸ List.mem_cons_of_mem _ member) ?_⟩
  rintro rfl
  exact Route.root_not_mem_ofText text member

/-- An absolute path that never leads up is settled as it stands. -/
theorem settled_components (rooted : path.isAbsolute = true) (normal : .up ∉ path.components) :
    path.components.Settled := by
  obtain ⟨text, opens⟩ := components_of_rooted rooted
  have named : ∀ component ∈ Route.ofText text, ∃ name, component = .name name := fun component member =>
    (Route.up_or_name_of_mem_ofText member).resolve_left fun same =>
      normal (opens ▸ List.mem_cons_of_mem _ (same ▸ member))
  have names : ∃ names : List String, Route.ofText text = names.map .name := by
    generalize Route.ofText text = rest at named
    clear opens
    induction rest with
    | nil => exact ⟨[], rfl⟩
    | cons component rest ih =>
      obtain ⟨name, rfl⟩ := named component List.mem_cons_self
      obtain ⟨names, rfl⟩ := ih fun other member => named other (List.mem_cons_of_mem _ member)
      exact ⟨name :: names, rfl⟩
  obtain ⟨names, same⟩ := names
  rw [same] at opens
  refine ⟨names, fun name member => ?_, opens⟩
  have written : .name name ∈ path.components := opens ▸ List.mem_cons_of_mem _ (List.mem_map_of_mem member)
  exact plainName_of_mem_components written

end Path

namespace FileTree

variable {tree after : FileTree} {path workingDirectory : Path} {contents : ByteArray} {route : Route}
  {files : List (Path × ByteArray)}

/-! ## Trees that are put together -/

/-- A new tree with some files put into it one after another. -/
def laidOut (workingDirectory : Path) (files : List (Path × ByteArray)) : FileTree :=
  files.foldl (fun tree file => tree.withFile file.1 file.2) (new workingDirectory)

/-- A tree after some calls, whatever each of them answers. -/
def performAll (tree : FileTree) (calls : List FileCall) : FileTree :=
  calls.foldl (fun tree call => (Storage.perform call tree).2) tree

/-- Files that can be put beside each other: none goes where another one is in, or where the working directory is or is in. -/
def Fits (workingDirectory : Path) (files : List (Path × ByteArray)) : Prop :=
  let place (file : Path × ByteArray) : Route := (new workingDirectory).resolve file.1
  ∀ file ∈ files, ¬ place file <+: workingDirectory.components ∧
    ∀ other ∈ files, place file <+: place other → place file = place other

instance (workingDirectory : Path) (files : List (Path × ByteArray)) : Decidable (Fits workingDirectory files) :=
  inferInstanceAs (Decidable (∀ file ∈ files, _ ∧ ∀ other ∈ files, _))

/-! ## What is asked of a tree -/

/-- The nodes of a tree hang together. -/
structure Shaped (tree : FileTree) : Prop where
  /-- Each route leads from the root by names. -/
  settled : ∀ route ∈ tree.nodes.keys, route.Settled
  /-- What a node is in is a directory. -/
  inside : ∀ route ∈ tree.nodes.keys, route ≠ [.root] → tree.get? route.dropLast = some .directory
  /-- Nothing is below a file. -/
  leaf : ∀ route contents, tree.get? route = some (.file contents) → ∀ below ∈ tree.nodes.keys, route <+: below → below = route

/-- Two trees that are the same but at one route. -/
def SameBut (route : Route) (before after : FileTree) : Prop :=
  after.workingDirectory = before.workingDirectory ∧ ∀ other, other ≠ route → after.get? other = before.get? other

/-- Calls to a tree have their whole effect or none. -/
structure Atomic (tree : FileTree) : Prop where
  /-- A call that fails changes nothing. -/
  failed : ∀ (call : FileCall) (error : IoError) (after : FileTree),
    Storage.perform call tree = (.error error, after) → after = tree
  written : ∀ (path : Path) (contents : ByteArray) (after : FileTree),
    Storage.perform (.write path contents) tree = (.ok (), after) →
      after.get? (tree.resolve path) = some (.file contents) ∧ SameBut (tree.resolve path) tree after
  removed : ∀ (path : Path) (after : FileTree), Storage.perform (.remove path) tree = (.ok (), after) →
    after.get? (tree.resolve path) = none ∧ SameBut (tree.resolve path) tree after
  /-- A directory comes with those that were missing above it, and nothing else does. -/
  created : ∀ (path : Path) (after : FileTree), Storage.perform (.createDirs path) tree = (.ok (), after) →
    after.get? (tree.resolve path) = some .directory ∧ after.workingDirectory = tree.workingDirectory ∧
      ∀ route, after.get? route = tree.get? route ∨
        route <+: tree.resolve path ∧ tree.get? route = none ∧ after.get? route = some .directory

/-! ## Settled trees -/

/-- A tree in order that holds the root and only settled routes. -/
structure Settled (tree : FileTree) : Prop extends Ordered tree where
  top : tree.isDirectoryAt [.root] = true
  settled : ∀ {route}, tree.get? route ≠ none → route.Settled

/-- Every path leads to a settled route, up from the root as well. -/
theorem settled_resolve (rooted : tree.workingDirectory.isAbsolute = true) (path : Path) : (tree.resolve path).Settled := by
  rw [resolve_eq]
  cases absolute : path.isAbsolute with
  | true =>
    obtain ⟨rest, opens, inner⟩ := Path.inner_of_rooted absolute
    rw [if_pos rfl, List.nil_append, opens]
    exact Route.settled_normalize inner
  | false =>
    obtain ⟨rest, opens, inner⟩ := Path.inner_of_rooted rooted
    rw [if_neg Bool.false_ne_true, opens, List.cons_append]
    refine Route.settled_normalize fun component member => ?_
    rcases List.mem_append.mp member with above | below
    · exact inner component above
    · refine Path.inner_of_mem_components below ?_
      rintro rfl
      exact Path.root_not_mem_components absolute below

theorem Settled.write (settled : tree.Settled) (wrote : tree.write path contents = .ok after) : after.Settled where
  toOrdered := settled.toOrdered.write wrote
  top := isDirectoryAt_of_write wrote settled.top
  settled {route} bound := by
    rw [get?_write wrote] at bound
    split at bound
    · rename_i same
      exact same ▸ settled_resolve settled.rooted path
    · exact settled.settled bound

theorem Settled.remove (settled : tree.Settled) (removed : tree.remove path = .ok after) : after.Settled where
  toOrdered := settled.toOrdered.remove removed
  top := by
    have file := (remove_eq_ok.mp removed).1
    have other : tree.resolve path ≠ [.root] := by
      intro same
      obtain ⟨_, file⟩ := isFileAt_iff.mp file
      rw [same, isDirectoryAt_iff.mp settled.top] at file
      cases file
    rw [isDirectoryAt_iff, get?_remove removed, if_neg other]
    exact isDirectoryAt_iff.mp settled.top
  settled {route} bound := by
    rw [get?_remove removed] at bound
    split at bound
    · exact absurd rfl bound
    · exact settled.settled bound

theorem Settled.addDirs (settled : tree.Settled) (along : route.Settled)
    (free : ∀ above ∈ route.ancestors, tree.isFileAt above = false) : (tree.addDirs route).Settled where
  toOrdered := settled.toOrdered.addDirs free fun {name} member => by
    obtain ⟨names, plain, rfl⟩ := along
    exact plain name (by simpa using member)
  top := isDirectoryAt_addDirs free along.root_mem_ancestors
  settled {other} bound := by
    rw [get?_addDirs] at bound
    split at bound
    · rename_i member
      exact along.of_mem_ancestors member
    · exact settled.settled bound

/-- Every call leaves a settled tree settled. -/
theorem Settled.perform (settled : tree.Settled) (call : FileCall) : (Storage.perform call tree).2.Settled := by
  rcases performed : Storage.perform call tree with ⟨error | answer, after⟩
  · rw [perform_error performed]
    exact settled
  · cases call with
    | remove path => exact settled.remove (perform_remove_ok.mp performed)
    | write path contents => exact settled.write (perform_write_ok.mp performed)
    | createDirs path =>
      obtain ⟨free, rfl⟩ := createDirs_eq_ok.mp (perform_createDirs_ok.mp performed)
      exact settled.addDirs (settled_resolve settled.rooted path) free
    | _ => exact (Prod.mk.inj performed).2 ▸ settled

theorem Settled.performAll (settled : tree.Settled) (calls : List FileCall) : (tree.performAll calls).Settled := by
  induction calls generalizing tree with
  | nil => exact settled
  | cons call rest ih => exact ih (settled.perform call)

theorem Settled.shaped (settled : tree.Settled) : tree.Shaped where
  settled route member := settled.settled (OrderedMap.mem_keys_iff.mp member)
  inside route member below := by
    have bound := OrderedMap.mem_keys_iff.mp member
    rcases (settled.settled bound).cases with root | ⟨above, name, _, _, rfl⟩
    · exact absurd root below
    · rw [List.dropLast_concat]
      exact isDirectoryAt_iff.mp (settled.closed bound (Route.parent?_concat_name above name))
  leaf route contents file below member begins := by
    have bound := OrderedMap.mem_keys_iff.mp member
    rcases (settled.settled bound).cases with rfl | ⟨above, name, inner, _, rfl⟩
    · obtain ⟨names, _, rfl⟩ := settled.settled (file ▸ Option.some_ne_none _)
      rw [List.cons_prefix_cons, List.prefix_nil] at begins
      rw [begins.2]
    · -- What opens the route of a node is the node itself or a directory that it is in.
      rcases List.prefix_concat_iff.mp begins with same | begins
      · exact same.symm
      · have directory := settled.ancestors_directories (settled.closed bound (Route.parent?_concat_name above name)) route
          (inner.mem_ancestors_iff.mpr ⟨fun empty => ?_, begins⟩)
        · rw [isDirectoryAt_iff, file] at directory
          cases directory
        · obtain ⟨_, _, impossible⟩ := settled.settled (file ▸ Option.some_ne_none _)
          cases empty.symm.trans impossible

/-- In a new tree there is the working directory, with what it is in. -/
theorem get?_new (workingDirectory : Path) (route : Route) :
    (new workingDirectory).get? route =
      if route ∈ workingDirectory.components.ancestors then some .directory else none := by
  rw [new, get?_addDirs]
  rfl

theorem settled_new (rooted : workingDirectory.isAbsolute = true) (normal : .up ∉ workingDirectory.components) :
    (new workingDirectory).Settled := by
  have along := Path.settled_components rooted normal
  refine ⟨ordered_new rooted, isDirectoryAt_addDirs (fun _ _ => rfl) along.root_mem_ancestors, fun {route} bound => ?_⟩
  rw [get?_new] at bound
  split at bound
  · rename_i member
    exact along.of_mem_ancestors member
  · exact absurd rfl bound

/-- To put a file into a tree is to make its directory and then to write it, where nothing is in the way. -/
theorem write_addDirs {above : Route} {name : String} (place : tree.resolve path = above ++ [.name name])
    (free : ∀ outer ∈ above.ancestors, tree.isFileAt outer = false)
    (noDirectory : tree.isDirectoryAt (tree.resolve path) = false) :
    (tree.addDirs above).write path contents = .ok (tree.withFile path contents) := by
  have climbed : (tree.resolve path).parent? = some above := by rw [place, Route.parent?_concat_name]
  refine write_eq_ok.mpr ⟨?_, ?_, ?_⟩
  · rw [resolve_addDirs, climbed, Option.any_some]
    exact isDirectoryAt_addDirs free above.self_mem_ancestors
  · rw [resolve_addDirs, isDirectoryAt, get?_addDirs, if_neg (not_mem_ancestors_parent climbed)]
    exact noDirectory
  · rw [withFile, climbed]
    rfl

/-- A tree with a file put into it, where nothing is in the way. -/
theorem get?_withFile {above : Route} {name : String} (place : tree.resolve path = above ++ [.name name])
    (free : ∀ outer ∈ above.ancestors, tree.isFileAt outer = false)
    (noDirectory : tree.isDirectoryAt (tree.resolve path) = false) (route : Route) :
    (tree.withFile path contents).get? route =
      if tree.resolve path = route then some (.file contents)
      else if route ∈ above.ancestors then some ((tree.get? route).getD .directory) else tree.get? route := by
  rw [get?_write (write_addDirs place free noDirectory), resolve_addDirs, get?_addDirs]

/-- What there is in a tree that some files were put into. -/
private structure Laid (workingDirectory : Path) (files : List (Path × ByteArray)) (tree : FileTree) : Prop where
  settled : tree.Settled
  still : tree.workingDirectory = workingDirectory
  directory : ∀ {route}, tree.get? route = some .directory →
    route <+: workingDirectory.components ∨ ∃ file ∈ files, route <+: tree.resolve file.1 ∧ route ≠ tree.resolve file.1
  file : ∀ {route contents}, tree.get? route = some (.file contents) → ∃ file ∈ files, tree.resolve file.1 = route

private theorem laid_new (rooted : workingDirectory.isAbsolute = true) (normal : .up ∉ workingDirectory.components) :
    (new workingDirectory).Laid workingDirectory [] := by
  refine ⟨settled_new rooted normal, rfl, fun {route} directory => .inl ?_, fun {route contents} file => ?_⟩
  · rw [get?_new] at directory
    split at directory
    · exact Route.prefix_of_mem_ancestors ‹_›
    · cases directory
  · rw [get?_new] at file
    split at file <;> cases file

private theorem Laid.noDirectory (laid : tree.Laid workingDirectory files)
    (outside : ¬ route <+: workingDirectory.components)
    (apart : ∀ other ∈ files, route <+: tree.resolve other.1 → route = tree.resolve other.1) :
    tree.isDirectoryAt route = false := by
  rw [← Bool.not_eq_true, isDirectoryAt_iff]
  intro directory
  rcases laid.directory directory with above | ⟨other, member, above, different⟩
  · exact outside above
  · exact different (apart other member above)

private theorem Laid.noFile (laid : tree.Laid workingDirectory files)
    (apart : ∀ other ∈ files, tree.resolve other.1 <+: route → route = tree.resolve other.1) {outer : Route}
    (opens : outer <+: route) (different : outer ≠ route) : tree.isFileAt outer = false := by
  rw [← Bool.not_eq_true, isFileAt_iff]
  rintro ⟨contents, found⟩
  obtain ⟨other, member, rfl⟩ := laid.file found
  exact different (apart other member opens).symm

/-- One more file goes where nothing is in the way. -/
private theorem Laid.withFile {file : Path × ByteArray} (laid : tree.Laid workingDirectory files)
    (outside : ¬ tree.resolve file.1 <+: workingDirectory.components)
    (apart : ∀ other ∈ files, (tree.resolve file.1 <+: tree.resolve other.1 ∨ tree.resolve other.1 <+: tree.resolve file.1) →
      tree.resolve file.1 = tree.resolve other.1) :
    (tree.withFile file.1 file.2).Laid workingDirectory (files ++ [file]) := by
  have noDirectory := laid.noDirectory outside fun other member above => apart other member (.inl above)
  rcases (settled_resolve laid.settled.rooted file.1).cases with root | ⟨above, name, inner, _, place⟩
  · rw [root, laid.settled.top] at noDirectory
    cases noDirectory
  have opens : ∀ {outer}, outer ∈ above.ancestors → outer <+: tree.resolve file.1 ∧ outer ≠ tree.resolve file.1 := by
    intro outer member
    refine ⟨place ▸ (Route.prefix_of_mem_ancestors member).trans (List.prefix_append ..), ?_⟩
    rintro rfl
    exact not_mem_ancestors_parent (place ▸ Route.parent?_concat_name above name) member
  have free : ∀ outer ∈ above.ancestors, tree.isFileAt outer = false := fun outer member =>
    laid.noFile (fun other among below => apart other among (.inr below)) (opens member).1 (opens member).2
  have wrote : (tree.addDirs above).write file.1 file.2 = .ok (tree.withFile file.1 file.2) :=
    write_addDirs place free noDirectory
  have resolved : ∀ path, (tree.withFile file.1 file.2).resolve path = tree.resolve path := fun path =>
    (resolve_of_write wrote path).trans (resolve_addDirs above path)
  refine ⟨(laid.settled.addDirs inner free).write wrote, ?_, fun {route} directory => ?_, fun {route contents} found => ?_⟩
  · rw [(write_eq_ok.mp wrote).2.2]
    exact laid.still
  · simp only [resolved]
    rw [get?_withFile place free noDirectory] at directory
    split at directory
    · cases directory
    · split at directory
      · rename_i member
        exact .inr ⟨file, by simp, opens member⟩
      · exact (laid.directory directory).imp_right fun ⟨other, member, within⟩ =>
          ⟨other, List.mem_append_left _ member, within⟩
  · simp only [resolved]
    rw [get?_withFile place free noDirectory] at found
    split at found
    · exact ⟨file, by simp, ‹_›⟩
    · have before : tree.get? route = some (.file contents) := by
        split at found
        · cases held : tree.get? route <;> simp_all
        · exact found
      obtain ⟨other, member, same⟩ := laid.file before
      exact ⟨other, List.mem_append_left _ member, same⟩

theorem settled_laidOut (rooted : workingDirectory.isAbsolute = true) (normal : .up ∉ workingDirectory.components)
    (fits : Fits workingDirectory files) : (laidOut workingDirectory files).Settled := by
  suffices laid : (laidOut workingDirectory files).Laid workingDirectory files from laid.settled
  obtain ⟨reversed, rfl⟩ : ∃ reversed, files = List.reverse reversed := ⟨files.reverse, by simp⟩
  induction reversed with
  | nil => exact laid_new rooted normal
  | cons file rest ih =>
    rw [List.reverse_cons] at fits ⊢
    generalize rest.reverse = files at fits ih ⊢
    have before := ih fun other member =>
      ⟨(fits other (List.mem_append_left _ member)).1, fun next among => (fits other (List.mem_append_left _ member)).2 next
        (List.mem_append_left _ among)⟩
    have place : ∀ path, (laidOut workingDirectory files).resolve path = (new workingDirectory).resolve path := by
      intro path
      rw [FileTree.resolve, before.still, FileTree.resolve]
      rfl
    obtain ⟨outside, above⟩ := fits file (by simp)
    rw [laidOut, List.foldl_append]
    refine before.withFile (place file.1 ▸ outside) fun other member => ?_
    rw [place, place]
    rintro (within | within)
    · exact above other (List.mem_append_left _ member) within
    · exact ((fits other (List.mem_append_left _ member)).2 file (by simp) within).symm

theorem atomic (tree : FileTree) : tree.Atomic where
  failed _ _ _ := perform_error
  written path contents after wrote := by
    have wrote := perform_write_ok.mp wrote
    refine ⟨by rw [get?_write wrote, if_pos rfl], ?_, fun other different => ?_⟩
    · rw [(write_eq_ok.mp wrote).2.2]
    · rw [get?_write wrote, if_neg (Ne.symm different)]
  removed path after removed := by
    have removed := perform_remove_ok.mp removed
    refine ⟨by rw [get?_remove removed, if_pos rfl], ?_, fun other different => ?_⟩
    · rw [(remove_eq_ok.mp removed).2]
    · rw [get?_remove removed, if_neg (Ne.symm different)]
  created path after made := by
    obtain ⟨free, rfl⟩ := createDirs_eq_ok.mp (perform_createDirs_ok.mp made)
    have made : ∀ route ∈ (tree.resolve path).ancestors, (tree.addDirs (tree.resolve path)).get? route = some .directory :=
      fun route member => isDirectoryAt_iff.mp (isDirectoryAt_addDirs free member)
    refine ⟨made _ (Route.self_mem_ancestors _), rfl, fun route => ?_⟩
    by_cases member : route ∈ (tree.resolve path).ancestors
    · rw [made route member]
      cases held : tree.get? route with
      | none => exact .inr ⟨Route.prefix_of_mem_ancestors member, rfl, rfl⟩
      | some node =>
        refine .inl ?_
        rw [← made route member, get?_addDirs, if_pos member, held]
        rfl
    · exact .inl (by rw [get?_addDirs, if_neg member])

/-- Whatever calls are made on a tree that was put together from files that fit, its nodes hang together, and each call
has its whole effect or none. -/
theorem performAll_shaped (rooted : workingDirectory.isAbsolute = true) (normal : .up ∉ workingDirectory.components)
    (fits : Fits workingDirectory files) (calls : List FileCall) :
    ((laidOut workingDirectory files).performAll calls).Shaped ∧ ((laidOut workingDirectory files).performAll calls).Atomic :=
  ⟨((settled_laidOut rooted normal fits).performAll calls).shaped, atomic _⟩

/-- Two files, one of them above the working directory. -/
def twoFiles : List (Path × ByteArray) := [(⟨"./src/../main.go"⟩, ⟨#[1]⟩), (⟨"../readme"⟩, ⟨#[]⟩)]

/-- Calls that climb above the root, run into a file, and ask for a directory where there is a file. -/
def strayCalls : List FileCall :=
  [.write ⟨"../../../../top"⟩ ⟨#[2]⟩, .createDirs ⟨"main.go/deep"⟩, .createDirs ⟨"a//b/../c"⟩, .write ⟨"a/c/d/e"⟩ ⟨#[]⟩,
    .remove ⟨"/work/app/a"⟩, .remove ⟨"/../work/readme"⟩]

theorem performAll_shaped_stray :
    Fits ⟨"/work/app"⟩ twoFiles ∧ ((laidOut ⟨"/work/app"⟩ twoFiles).performAll strayCalls).Shaped ∧
      ((laidOut ⟨"/work/app"⟩ twoFiles).performAll strayCalls).nodes.keys.map (fun route => route.toPath.text) =
        ["/", "/top", "/work", "/work/app", "/work/app/a", "/work/app/a/c", "/work/app/main.go"] := by
  have fits : Fits ⟨"/work/app"⟩ twoFiles := by decide +kernel
  exact ⟨fits, (performAll_shaped (by decide +kernel) (by decide +kernel) fits strayCalls).1, by decide +kernel⟩

end FileTree

end Scaffold
