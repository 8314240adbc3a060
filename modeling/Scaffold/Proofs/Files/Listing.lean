import Scaffold.Proofs.Data.Traverse
import Scaffold.Proofs.Files.Shape

/-! # What listings show

A directory is listed by filtering all nodes of a tree, and still its listing has exactly the entries that can be
inspected one by one, by increasing names. A tree that hangs together is found again by walking through the listings
from its root: each node once, and each file with its contents. How a path is spelled matters to no call, only where
it leads.
-/

namespace Scaffold.FileTree

variable {tree : FileTree} {path workingDirectory : Path} {base route : Route} {name : String} {node : Node}
  {names : List String} {files : List (Path × ByteArray)} {depth : Nat}

/-! ## Walks -/

/-- A walk through what is listed: a path with its kind and, if it is a directory, what walks from its entries come to,
in the order in which these are listed. It goes through so many levels at most. -/
def walk (tree : FileTree) : Nat → Path → EntryKind → Except IoError (List (Path × EntryKind))
  | 0, _, _ => .ok []
  | depth + 1, path, kind => do
    let entries ← if kind = .directory then tree.list path else pure []
    let below ← entries.mapM fun entry => tree.walk depth (path.join ⟨entry.name⟩) entry.kind
    pure ((path, kind) :: below.flatten)

/-- A walk has come to every node of a tree, once, and has found the files with what they hold. -/
structure Covers (tree : FileTree) (visited : List (Path × EntryKind)) : Prop where
  once : (visited.map fun visit => tree.resolve visit.1).Nodup
  all : ∀ route, (∃ visit ∈ visited, tree.resolve visit.1 = route) ↔ route ∈ tree.nodes.keys
  files : (visited.filter fun visit => visit.2 = .file).map (fun visit => (tree.resolve visit.1, tree.read visit.1)) =
    tree.files.map fun (route, contents) => (route, .ok contents)

/-- What a walk comes to, by the nodes themselves. -/
def visits (tree : FileTree) : Nat → Path → EntryKind → List (Path × EntryKind)
  | 0, _, _ => []
  | depth + 1, path, kind =>
    (path, kind) ::
      (if kind = .directory then tree.children (tree.resolve path) else []).flatMap fun (name, node) =>
        tree.visits depth (path.join ⟨name⟩) node.kind

/-- A path that goes on by the name of a node in a directory leads to that node. -/
theorem InOrder.get?_resolve_join (inOrder : tree.InOrder) (member : (name, node) ∈ tree.children (tree.resolve path)) :
    tree.resolve (path.join ⟨name⟩) = tree.resolve path ++ [.name name] ∧
      tree.get? (tree.resolve (path.join ⟨name⟩)) = some node := by
  have held := inOrder.mem_children.mp member
  have leads := tree.resolve_join path (inOrder.plainName held)
  exact ⟨leads, leads ▸ held⟩

theorem InOrder.walk_eq (inOrder : tree.InOrder) (present : tree.get? (tree.resolve path) = some node) :
    tree.walk depth path node.kind = .ok (tree.visits depth path node.kind) := by
  induction depth generalizing path node with
  | zero => rfl
  | succ depth ih =>
    rw [walk, visits]
    cases node with
    | file contents => rfl
    | directory =>
      have below : ((tree.children (tree.resolve path)).mapM fun (name, node) =>
          tree.walk depth (path.join ⟨name⟩) node.kind) =
          .ok ((tree.children (tree.resolve path)).map fun (name, node) =>
            tree.visits depth (path.join ⟨name⟩) node.kind) :=
        mapM_eq_ok fun (name, node) member => ih (inOrder.get?_resolve_join member).2
      have entries : ((tree.children (tree.resolve path)).map fun (name, node) => (⟨name, node.kind⟩ : DirEntry)).mapM
          (fun entry => tree.walk depth (path.join ⟨entry.name⟩) entry.kind) = _ := (List.mapM_map ..).trans below
      rw [Node.kind, if_pos rfl, if_pos rfl, list_of_directory (isDirectoryAt_iff.mpr present)]
      change Except.bind (List.mapM _ (List.map _ _)) _ = _
      rw [entries, List.flatMap_def]
      rfl

/-- Above what is in a tree there are directories. -/
theorem WellFormed.directory_above (wellFormed : tree.WellFormed)
    (present : tree.get? (base ++ (name :: names).map .name) ≠ none) : tree.get? base = some .directory := by
  obtain ⟨opening, last, same⟩ := (List.eq_nil_or_concat (name :: names)).resolve_left (List.cons_ne_nil _ _)
  rw [same, List.concat_eq_append, List.map_append, ← List.append_assoc] at present
  have parent := wellFormed.closed present (Route.parent?_concat_name _ last)
  refine isDirectoryAt_iff.mp (wellFormed.ancestors_directories parent base ?_)
  exact Route.mem_ancestors_append_names.mpr (.inr base.self_mem_ancestors)

/-- What is in a tree below a node lies at or below one of its children. -/
theorem WellFormed.exists_child (wellFormed : tree.WellFormed)
    (present : tree.get? (base ++ [.name name] ++ names.map .name) ≠ none) :
    ∃ child, tree.get? (base ++ [.name name]) = some child := by
  cases names with
  | nil => exact Option.ne_none_iff_exists'.mp (by simpa using present)
  | cons next rest => exact ⟨.directory, wellFormed.directory_above present⟩

/-- A walk from a node comes to that node and to what is below it. -/
theorem Ordered.mem_visits (ordered : tree.Ordered) {kind : EntryKind}
    (present : tree.get? (tree.resolve path) = some node) :
    (∃ visit ∈ tree.visits depth path node.kind, tree.resolve visit.1 = route ∧ visit.2 = kind) ↔
      ∃ (names : List String) (found : Node), names.length < depth ∧ route = tree.resolve path ++ names.map .name ∧
        tree.get? route = some found ∧ found.kind = kind := by
  induction depth generalizing path node with
  | zero => simp [visits]
  | succ depth ih =>
    rw [visits]
    constructor
    · rintro ⟨visit, member, rfl, rfl⟩
      rcases List.mem_cons.mp member with rfl | below
      · exact ⟨[], node, Nat.succ_pos depth, by simp, present, rfl⟩
      · obtain ⟨⟨name, child⟩, listed, within⟩ := List.mem_flatMap.mp below
        split at listed
        · obtain ⟨leads, held⟩ := ordered.inOrder.get?_resolve_join listed
          obtain ⟨names, found, near, place, there, same⟩ := (ih held).mp ⟨visit, within, rfl, rfl⟩
          refine ⟨name :: names, found, Nat.succ_lt_succ near, ?_, there, same⟩
          rw [place, leads, List.append_assoc]
          rfl
        · cases listed
    · rintro ⟨names, found, near, place, there, rfl⟩
      cases names with
      | nil =>
        rw [List.map_nil, List.append_nil] at place
        obtain rfl := Option.some.inj (present.symm.trans (place ▸ there))
        exact ⟨_, List.mem_cons_self, place.symm, rfl⟩
      | cons name names =>
        have bound : tree.get? (tree.resolve path ++ (name :: names).map .name) ≠ none := by
          rw [← place, there]
          exact Option.some_ne_none _
        obtain rfl := Option.some.inj (present.symm.trans (ordered.directory_above bound))
        have split : route = tree.resolve path ++ [.name name] ++ names.map .name := by simp [place]
        obtain ⟨child, held⟩ := ordered.exists_child (split ▸ place ▸ bound)
        have listed := ordered.inOrder.mem_children.mpr held
        obtain ⟨leads, held⟩ := ordered.inOrder.get?_resolve_join listed
        rw [← leads] at split
        obtain ⟨visit, within, facts⟩ := (ih held).mpr ⟨names, found, Nat.lt_of_succ_lt_succ near, split, there, rfl⟩
        exact ⟨visit, List.mem_cons_of_mem _ (List.mem_flatMap.mpr ⟨_, listed, within⟩), facts⟩

/-- A walk comes to what it comes to in the order of the routes. -/
theorem Ordered.visits_increasing (ordered : tree.Ordered) (present : tree.get? (tree.resolve path) = some node) :
    (tree.visits depth path node.kind).Pairwise fun left right => tree.resolve left.1 < tree.resolve right.1 := by
  induction depth generalizing path node with
  | zero => exact List.Pairwise.nil
  | succ depth ih =>
    -- What comes of an entry lies below it.
    have opens : ∀ {name node visit}, (name, node) ∈ tree.children (tree.resolve path) →
        visit ∈ tree.visits depth (path.join ⟨name⟩) node.kind →
        ∃ names : List String, tree.resolve visit.1 = tree.resolve path ++ (name :: names).map .name := by
      intro name node visit listed within
      obtain ⟨leads, held⟩ := ordered.inOrder.get?_resolve_join listed
      obtain ⟨names, _, _, place, _⟩ := (ordered.mem_visits held).mp ⟨visit, within, rfl, rfl⟩
      exact ⟨names, by rw [place, leads, List.append_assoc]; rfl⟩
    rw [visits, List.pairwise_cons]
    constructor
    · intro visit below
      obtain ⟨⟨name, child⟩, listed, within⟩ := List.mem_flatMap.mp below
      split at listed
      · obtain ⟨names, place⟩ := opens listed within
        have further : tree.resolve path ++ [] < tree.resolve path ++ (name :: names).map .name :=
          Route.append_lt_append.mpr (List.nil_lt_cons _ _)
        rwa [List.append_nil, ← place] at further
      · cases listed
    · split
      · rw [List.pairwise_flatMap]
        refine ⟨fun ⟨name, child⟩ listed => ih (ordered.inOrder.get?_resolve_join listed).2, ?_⟩
        refine List.Pairwise.imp_of_mem ?_ (ordered.inOrder.children_increasing _)
        intro left right leftListed rightListed less first within second other
        obtain ⟨leftNames, leftPlace⟩ := opens leftListed within
        obtain ⟨rightNames, rightPlace⟩ := opens rightListed other
        rw [leftPlace, rightPlace, Route.append_lt_append]
        exact List.cons_lt_cons_iff.mpr (.inl (PathComponent.name_lt_name.mpr less))
      · exact List.Pairwise.nil

theorem InOrder.mem_files (inOrder : tree.InOrder) {contents : ByteArray} :
    (route, contents) ∈ tree.files ↔ tree.get? route = some (.file contents) := by
  rw [FileTree.files, List.mem_filterMap, FileTree.get?, OrderedMap.get?_eq_some_iff inOrder.increasing]
  constructor
  · rintro ⟨⟨other, node⟩, member, told⟩
    cases node <;> cases told
    exact member
  · exact fun member => ⟨_, member, rfl⟩

theorem InOrder.files_increasing (inOrder : tree.InOrder) : OrderedMap.Increasing tree.files := by
  rw [OrderedMap.Increasing, FileTree.files, List.pairwise_filterMap]
  refine inOrder.increasing.imp fun {left right} less first toldFirst second toldSecond => ?_
  obtain ⟨leftRoute, leftNode⟩ := left
  obtain ⟨rightRoute, rightNode⟩ := right
  cases leftNode <;> cases rightNode <;> cases toldFirst <;> cases toldSecond
  exact less

theorem resolve_root (tree : FileTree) : tree.resolve ⟨"/"⟩ = [.root] := by
  have rooted : (⟨"/"⟩ : Path).isAbsolute = true := by decide
  rw [resolve, if_pos rooted]
  decide

/-- From the root of a tree that hangs together, names lead to every node. -/
theorem Settled.mem_visits_root (settled : tree.Settled) (deep : ∀ route ∈ tree.nodes.keys, route.length ≤ depth)
    (top : tree.get? (tree.resolve ⟨"/"⟩) = some .directory) (route : Route) (kind : EntryKind) :
    (∃ visit ∈ tree.visits depth ⟨"/"⟩ .directory, tree.resolve visit.1 = route ∧ visit.2 = kind) ↔
      ∃ node, tree.get? route = some node ∧ node.kind = kind := by
  refine (settled.mem_visits top).trans ⟨fun ⟨_, node, _, _, found⟩ => ⟨node, found⟩, fun ⟨node, held, same⟩ => ?_⟩
  have bound : tree.get? route ≠ none := held ▸ Option.some_ne_none _
  obtain ⟨names, _, rfl⟩ := settled.settled bound
  have near := deep _ (OrderedMap.mem_keys_iff.mpr bound)
  rw [List.length_cons, List.length_map] at near
  exact ⟨names, node, near, by rw [resolve_root, List.singleton_append], held, same⟩

/-- The walk from the root of a tree that hangs together comes to all of it, as soon as it may go down far enough. -/
theorem Settled.walk_covers (settled : tree.Settled) (deep : ∀ route ∈ tree.nodes.keys, route.length ≤ depth) :
    ∃ visited, tree.walk depth ⟨"/"⟩ .directory = .ok visited ∧ tree.Covers visited := by
  have top : tree.get? (tree.resolve ⟨"/"⟩) = some .directory := by
    rw [resolve_root]
    exact isDirectoryAt_iff.mp settled.top
  have increasing : (tree.visits depth ⟨"/"⟩ .directory).Pairwise fun left right =>
      tree.resolve left.1 < tree.resolve right.1 := settled.visits_increasing top
  have comes := settled.mem_visits_root deep top
  refine ⟨_, settled.inOrder.walk_eq top, ⟨?_, fun route => ?_, ?_⟩⟩
  · exact List.pairwise_map.mpr (increasing.imp Std.ne_of_lt)
  · rw [OrderedMap.mem_keys_iff, Option.ne_none_iff_exists']
    constructor
    · rintro ⟨visit, member, place⟩
      exact ((comes route visit.2).mp ⟨visit, member, place, rfl⟩).imp fun _ found => found.1
    · rintro ⟨node, held⟩
      obtain ⟨visit, member, place, _⟩ := (comes route node.kind).mpr ⟨node, held, rfl⟩
      exact ⟨visit, member, place⟩
  · refine OrderedMap.Increasing.eq_of_mem_iff ?_ ?_ fun (route, answer) => ?_
    · exact List.pairwise_map.mpr (increasing.filter _)
    · exact List.pairwise_map.mpr settled.inOrder.files_increasing
    · simp only [List.mem_map, List.mem_filter, Prod.mk.injEq, decide_eq_true_eq]
      constructor
      · rintro ⟨visit, ⟨member, file⟩, rfl, rfl⟩
        obtain ⟨node, held, kind⟩ := (comes _ .file).mp ⟨visit, member, rfl, file⟩
        cases node with
        | directory => cases kind
        | file contents =>
          exact ⟨(_, contents), settled.inOrder.mem_files.mpr held, rfl, (read_eq_ok.mpr held).symm⟩
      · rintro ⟨⟨place, contents⟩, member, rfl, rfl⟩
        have held := settled.inOrder.mem_files.mp member
        obtain ⟨visit, within, same, kind⟩ := (comes place .file).mpr ⟨_, held, rfl⟩
        exact ⟨visit, ⟨within, kind⟩, same, read_eq_ok.mpr (same ▸ held)⟩

/-! ## Entries -/

/-- A directory is listed by increasing names, with exactly the entries that are found when they are inspected by name. -/
structure Lists (tree : FileTree) (path : Path) (entries : List DirEntry) : Prop where
  increasing : entries.Pairwise fun left right => left.name < right.name
  plain : ∀ entry ∈ entries, PlainName entry.name
  exact : ∀ name, PlainName name → ∀ kind,
    (⟨name, kind⟩ : DirEntry) ∈ entries ↔ ∃ size, tree.stat (path.join ⟨name⟩) = .ok ⟨kind, size⟩

theorem stat_eq_ok_iff {kind : EntryKind} :
    (∃ size, tree.stat path = .ok ⟨kind, size⟩) ↔ ∃ node, tree.get? (tree.resolve path) = some node ∧ node.kind = kind := by
  unfold stat
  dsimp only
  rcases tree.get? (tree.resolve path) with _ | contents | _ <;> simp [Node.kind]

theorem InOrder.lists (inOrder : tree.InOrder) (present : tree.isDirectoryAt (tree.resolve path) = true) :
    ∃ entries, tree.list path = .ok entries ∧ tree.Lists path entries := by
  have member : ∀ {name node}, (name, node) ∈ tree.children (tree.resolve path) ↔
      tree.get? (tree.resolve path ++ [.name name]) = some node := inOrder.mem_children
  refine ⟨_, list_of_directory present, ?_, ?_, fun name plain kind => ?_⟩
  · exact List.pairwise_map.mpr (inOrder.children_increasing _)
  · intro entry listed
    obtain ⟨⟨name, node⟩, child, rfl⟩ := List.mem_map.mp listed
    exact inOrder.plainName (member.mp child)
  · rw [stat_eq_ok_iff, resolve_join tree path plain]
    simp only [List.mem_map, Prod.exists, DirEntry.mk.injEq, member]
    constructor
    · rintro ⟨_, node, held, rfl, same⟩
      exact ⟨node, held, same⟩
    · rintro ⟨node, held, same⟩
      exact ⟨name, node, held, rfl, same⟩

theorem Settled.children_eq_nil_iff (settled : tree.Settled) (present : tree.get? base = some node) :
    tree.children base = [] ↔ ∀ below ∈ tree.nodes.keys, base <+: below → below = base := by
  rw [List.eq_nil_iff_forall_not_mem]
  constructor
  · intro childless below member begins
    have bound : tree.get? below ≠ none := OrderedMap.mem_keys_iff.mp member
    obtain ⟨opening, _, rfl⟩ := settled.settled (present ▸ Option.some_ne_none node)
    obtain ⟨names, _, rfl⟩ := settled.settled bound
    rw [List.cons_prefix_cons] at begins
    obtain ⟨inner, begins, rest⟩ := (List.prefix_map_iff ..).mp begins.2
    obtain rfl := (List.map_inj_right fun _ _ => PathComponent.name.inj).mp rest
    obtain ⟨names, rfl⟩ := begins
    cases names with
    | nil => rw [List.append_nil]
    | cons name names =>
      -- What is further down lies below an entry.
      have split : (.root :: (opening ++ name :: names).map .name : Route) =
          .root :: opening.map .name ++ [.name name] ++ names.map .name := by simp
      obtain ⟨child, held⟩ := settled.exists_child (split ▸ bound)
      exact absurd (settled.inOrder.mem_children.mpr held) (childless _)
  · intro only (name, child) member
    have held := settled.inOrder.mem_children.mp member
    have same := only _ (OrderedMap.mem_keys_iff.mpr (held ▸ Option.some_ne_none child)) (List.prefix_append ..)
    simp at same

/-- A directory of a tree that hangs together is told empty exactly if nothing lies below it. -/
theorem Settled.isEmptyDir_iff (settled : tree.Settled) (present : tree.isDirectoryAt (tree.resolve path) = true)
    {session : Session FileTree} (holds : session.files = tree) :
    ((Run.isEmptyDir path).apply session).1 = .ok true ↔
      ∀ below ∈ tree.nodes.keys, tree.resolve path <+: below → below = tree.resolve path := by
  have told : (Storage.perform (.list path) session.files).1 =
      .ok ((tree.children (tree.resolve path)).map fun (name, node) => ⟨name, node.kind⟩) := by
    rw [holds]
    exact list_of_directory present
  obtain ⟨after, listed⟩ : ∃ after, (Run.list path).apply session =
      (.ok ((tree.children (tree.resolve path)).map fun (name, node) => ⟨name, node.kind⟩), after) :=
    ⟨_, Prod.ext told rfl⟩
  rw [← settled.children_eq_nil_iff (isDirectoryAt_iff.mp present), Run.isEmptyDir, Run.apply_bind_of_ok listed,
    Run.apply_pure, Except.ok.injEq, List.isEmpty_iff, List.map_eq_nil_iff]

/-! ## Spellings -/

/-- Two paths that no call tells apart. -/
structure Interchangeable (tree : FileTree) (path other : Path) : Prop where
  stat : Storage.perform (.stat path) tree = Storage.perform (.stat other) tree
  remove : Storage.perform (.remove path) tree = Storage.perform (.remove other) tree
  read : Storage.perform (.read path) tree = Storage.perform (.read other) tree
  write : ∀ contents, Storage.perform (.write path contents) tree = Storage.perform (.write other contents) tree
  createDirs : Storage.perform (.createDirs path) tree = Storage.perform (.createDirs other) tree
  list : Storage.perform (.list path) tree = Storage.perform (.list other) tree
  setMode : ∀ mode, Storage.perform (.setMode path mode) tree = Storage.perform (.setMode other mode) tree
  contents : tree.contents? path = tree.contents? other
  withFile : ∀ contents, tree.withFile path contents = tree.withFile other contents

theorem interchangeable {other : Path} (same : tree.resolve path = tree.resolve other) : tree.Interchangeable path other := by
  -- Each call begins with where its path leads and does not look at the path again.
  constructor <;> intros <;>
    simp only [Storage.perform, perform, FileTree.stat, FileTree.remove, FileTree.read, FileTree.write,
      FileTree.createDirs, FileTree.list, contents?, FileTree.withFile, same]
  all_goals rfl

/-! ## Every tree -/

theorem InOrder.performAll (inOrder : tree.InOrder) (calls : List FileCall) : (tree.performAll calls).InOrder := by
  induction calls generalizing tree with
  | nil => exact inOrder
  | cons call rest ih => exact ih (inOrder.perform call)

theorem inOrder_laidOut (workingDirectory : Path) (files : List (Path × ByteArray)) :
    (laidOut workingDirectory files).InOrder := by
  have onward : ∀ tree : FileTree, tree.InOrder → (files.foldl (fun tree file => tree.withFile file.1 file.2) tree).InOrder := by
    induction files with
    | nil => exact fun _ inOrder => inOrder
    | cons file rest ih => exact fun tree inOrder => ih _ (inOrder.withFile file.1 file.2)
  exact onward _ (inOrder_new workingDirectory)

/-- Whatever a tree is put together from and whatever calls are made on it, its directories are listed exactly and the
spelling of a path does not matter. If it starts from an absolute working directory without ways up, and from files that
fit, then the walk from the root covers it and only those directories are told empty below which there is nothing. -/
theorem listings_exact (workingDirectory : Path) (files : List (Path × ByteArray)) (calls : List FileCall) :
    let tree := (laidOut workingDirectory files).performAll calls
    (∀ path, tree.isDirectoryAt (tree.resolve path) = true →
      ∃ entries, tree.list path = .ok entries ∧ tree.Lists path entries) ∧
    (∀ path other, tree.resolve path = tree.resolve other → tree.Interchangeable path other) ∧
    (workingDirectory.isAbsolute = true → .up ∉ workingDirectory.components → Fits workingDirectory files →
      (∀ depth, (∀ route ∈ tree.nodes.keys, route.length ≤ depth) →
        ∃ visited, tree.walk depth ⟨"/"⟩ .directory = .ok visited ∧ tree.Covers visited) ∧
      ∀ path, tree.isDirectoryAt (tree.resolve path) = true → ∀ session : Session FileTree, session.files = tree →
        (((Run.isEmptyDir path).apply session).1 = .ok true ↔
          ∀ below ∈ tree.nodes.keys, tree.resolve path <+: below → below = tree.resolve path)) := by
  intro tree
  have inOrder : tree.InOrder := (inOrder_laidOut workingDirectory files).performAll calls
  refine ⟨fun path => inOrder.lists, fun path other => interchangeable, fun rooted normal fits => ?_⟩
  have settled : tree.Settled := (settled_laidOut rooted normal fits).performAll calls
  exact ⟨fun depth => settled.walk_covers, fun path present session => settled.isEmptyDir_iff present⟩

/-- A tree with a relative working directory. -/
def relativeTree : FileTree := (laidOut ⟨"work"⟩ []).performAll [.write ⟨"a"⟩ ⟨#[1]⟩]

/-- A tree with a working directory that leads up again. -/
def dottedTree : FileTree := (laidOut ⟨"/a/../b"⟩ []).performAll []

/-- A tree with a relative working directory has no root to walk from, and what is under a way up is not listed. -/
theorem relativeTree_not_walked :
    (relativeTree.files.map (·.1) = [[.name "work", .name "a"]] ∧
      ∀ depth, relativeTree.walk (depth + 1) ⟨"/"⟩ .directory = .error (noSuchEntry [.root])) ∧
    dottedTree.list ⟨"/a"⟩ = .ok [] ∧ [.root, .name "a", .up] ∈ dottedTree.nodes.keys := by
  have unlisted : relativeTree.list ⟨"/"⟩ = .error (noSuchEntry [.root]) := by decide +kernel
  refine ⟨⟨by decide +kernel, fun depth => ?_⟩, by decide +kernel, by decide +kernel⟩
  rw [walk, if_pos rfl, unlisted]
  rfl

/-- Calls that leave files on three levels. -/
def deepCalls : List FileCall :=
  [.createDirs ⟨"b//c"⟩, .write ⟨"b/./c/z"⟩ ⟨#[1]⟩, .write ⟨"../top"⟩ ⟨#[2]⟩, .write ⟨"b/../B"⟩ ⟨#[]⟩]

theorem listings_exact_deep :
    Fits ⟨"/work"⟩ [] ∧ ∃ visited, ((laidOut ⟨"/work"⟩ []).performAll deepCalls).walk 5 ⟨"/"⟩ .directory = .ok visited ∧
      ((laidOut ⟨"/work"⟩ []).performAll deepCalls).Covers visited ∧ visited.map (fun visit => visit.1.text) =
        ["/", "/top", "/work", "/work/B", "/work/b", "/work/b/c", "/work/b/c/z"] := by
  have fits : Fits ⟨"/work"⟩ [] := by decide +kernel
  have deep : ∀ route ∈ ((laidOut ⟨"/work"⟩ []).performAll deepCalls).nodes.keys, route.length ≤ 5 := by decide +kernel
  obtain ⟨visited, walked, covers⟩ :=
    ((listings_exact ⟨"/work"⟩ [] deepCalls).2.2 (by decide +kernel) (by decide +kernel) fits).1 5 deep
  have texts : (((laidOut ⟨"/work"⟩ []).performAll deepCalls).walk 5 ⟨"/"⟩ .directory).map (·.map fun visit => visit.1.text) =
      .ok ["/", "/top", "/work", "/work/B", "/work/b", "/work/b/c", "/work/b/c/z"] := by decide +kernel
  rw [walked] at texts
  exact ⟨fits, visited, walked, covers, Except.ok.inj texts⟩

end Scaffold.FileTree
