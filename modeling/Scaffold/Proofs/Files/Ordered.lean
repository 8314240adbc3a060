import Scaffold.Proofs.Files.Faults

/-! # Trees in order

Routes are ordered component by component, and a tree keeps its nodes in this order. So a directory is listed by
increasing names, with one entry for each node directly in it. A new tree is in order, and every call keeps it so.
-/

namespace Scaffold

namespace PathComponent

variable {left right : PathComponent}

theorem lt_iff : left < right ↔ left.rank < right.rank ∨ left.rank = right.rank ∧ left.text < right.text := Iff.rfl

theorem name_lt_name {left right : String} : name left < name right ↔ left < right := by
  simp [lt_iff, rank, text]

private theorem eq_of_rank_text (rank : left.rank = right.rank) (text : left.text = right.text) : left = right := by
  cases left <;> cases right <;> first | rfl | (cases rank; done) | exact congrArg name text

instance : LE PathComponent := LE.ofLT PathComponent

instance : Std.Asymm fun left right : PathComponent => left < right where
  asymm left right less greater := by
    rw [lt_iff] at less greater
    rcases less with less | ⟨same, less⟩
    · rcases greater with greater | ⟨same, _⟩
      · exact Nat.lt_asymm less greater
      · exact Nat.ne_of_gt less same
    · rcases greater with greater | ⟨_, greater⟩
      · exact Nat.ne_of_gt greater same
      · exact String.lt_asymm less greater

instance : Std.LawfulOrderLT PathComponent := .of_lt

private theorem not_lt_iff :
    ¬ left < right ↔ right.rank < left.rank ∨ right.rank = left.rank ∧ right.text ≤ left.text := by
  rw [lt_iff, ← Std.not_lt, not_or, Classical.not_and_iff_not_or_not]
  constructor
  · rintro ⟨notBelow, different | notLess⟩
    · exact .inl (by omega)
    · by_cases same : right.rank = left.rank
      · exact .inr ⟨same, notLess⟩
      · exact .inl (by omega)
  · rintro (less | ⟨same, notLess⟩)
    · exact ⟨by omega, .inl (by omega)⟩
    · exact ⟨by omega, .inr notLess⟩

instance : Std.IsLinearOrder PathComponent :=
  .of_lt inferInstance
    ⟨fun {left middle right} first second => by
      rw [not_lt_iff] at first second ⊢
      rcases first with first | ⟨sameFirst, first⟩
      · exact .inl (by omega)
      · rcases second with second | ⟨sameSecond, second⟩
        · exact .inl (by omega)
        · exact .inr ⟨sameSecond.trans sameFirst, Std.le_trans second first⟩⟩
    ⟨fun left right notLess notGreater => by
      rw [not_lt_iff] at notLess notGreater
      rcases notLess with less | ⟨same, less⟩
      · omega
      · rcases notGreater with greater | ⟨_, greater⟩
        · omega
        · exact eq_of_rank_text same.symm (Std.le_antisymm greater less)⟩

end PathComponent

namespace Route

theorem append_lt_append {base left right : Route} : base ++ left < base ++ right ↔ left < right := by
  induction base with
  | nil => rfl
  | cons component rest ih =>
    rw [List.cons_append, List.cons_append, List.cons_lt_cons_iff, ih]
    exact ⟨fun less => less.elim (fun less => absurd less (Std.lt_irrefl)) And.right, fun less => .inr ⟨rfl, less⟩⟩

theorem dropLast_of_parent? {below above : Route} (climbed : below.parent? = some above) : below.dropLast = above := by
  unfold parent? at climbed
  split at climbed
  · cases climbed
  · cases climbed
  · exact Option.some.inj climbed

private theorem mem_ancestorsFrom_self (fuel : Nat) (route : Route) : route ∈ ancestorsFrom fuel route := by
  cases fuel with
  | zero => exact List.mem_singleton.mpr rfl
  | succ fuel =>
    unfold ancestorsFrom
    split <;> simp

/-- What is above a route that is above another is above that one, too. -/
theorem parent_mem_ancestors {route below above : Route} (member : below ∈ route.ancestors)
    (climbed : below.parent? = some above) : above ∈ route.ancestors := by
  have onward : ∀ (fuel : Nat) (route : Route), route.length ≤ fuel → below ∈ ancestorsFrom fuel route →
      above ∈ ancestorsFrom fuel route := by
    intro fuel
    induction fuel with
    | zero =>
      intro route short member
      obtain rfl := List.length_eq_zero_iff.mp (Nat.le_zero.mp short)
      obtain rfl := List.mem_singleton.mp member
      cases climbed
    | succ fuel ih =>
      intro route short member
      unfold ancestorsFrom at member ⊢
      cases next : route.parent? with
      | none =>
        obtain rfl : below = route := by simpa [next] using member
        cases climbed.symm.trans next
      | some parent =>
        have shorter := length_lt_of_parent? next
        rcases List.mem_cons.mp (by simpa only [next] using member) with rfl | member
        · obtain rfl := Option.some.inj (climbed.symm.trans next)
          exact List.mem_cons_of_mem _ (mem_ancestorsFrom_self fuel above)
        · exact List.mem_cons_of_mem _ (ih parent (by omega) member)
  exact onward route.length route (Nat.le_refl _) member

theorem getLast?_of_fileName? {route : Route} {name : String} (named : route.fileName? = some name) :
    route.getLast? = some (.name name) := by
  obtain ⟨last, final, same⟩ := Option.bind_eq_some_iff.mp named
  cases last with
  | name text =>
    cases same
    exact final
  | _ => cases same

/-- A route with a parent and a name goes on from the one by the other. -/
theorem eq_concat_iff {route base : Route} {name : String} :
    route.parent? = some base ∧ route.fileName? = some name ↔ route = base ++ [.name name] := by
  constructor
  · rintro ⟨climbed, named⟩
    have opening := dropLast_of_parent? climbed
    obtain ⟨before, rfl⟩ := List.getLast?_eq_some_iff.mp (getLast?_of_fileName? named)
    rw [← opening, List.dropLast_concat]
  · rintro rfl
    exact ⟨parent?_concat_name base name, by simp [fileName?, PathComponent.name?]⟩

/-- Following a route leads over no component that is not in it. -/
theorem mem_of_mem_normalize {route : Route} {component : PathComponent} (member : component ∈ route.normalize) :
    component ∈ route := by
  have step : ∀ (opening : Route) (next : PathComponent), component ∈ opening.follow next →
      component ∈ opening ∨ component = next := by
    intro opening next member
    cases next with
    | here => exact .inl member
    | up =>
      refine .inl ?_
      cases climbed : opening.parent? with
      | none => simpa [follow, climbed] using member
      | some above =>
        have below : component ∈ above := by simpa [follow, climbed] using member
        exact List.dropLast_subset _ (dropLast_of_parent? climbed ▸ below)
    | root => simpa [follow] using member
    | name text => simpa [follow] using member
  have along : ∀ opening : Route, component ∈ route.foldl follow opening → component ∈ opening ∨ component ∈ route := by
    clear member
    induction route with
    | nil => exact fun _ => .inl
    | cons next rest ih =>
      intro opening member
      rcases ih (opening.follow next) member with before | later
      · exact (step opening next before).imp_right fun same => by simp [same]
      · exact .inr (List.mem_cons_of_mem _ later)
  exact (along [] member).resolve_left List.not_mem_nil

end Route

instance (name : String) : Decidable (PlainName name) := inferInstanceAs (Decidable (_ ∧ _))

/-- The kind of entry that a node makes. -/
def Node.kind : Node → EntryKind
  | .file _ => .file
  | .directory => .directory

namespace FileTree

variable {tree after : FileTree} {path : Path} {contents : ByteArray} {base : Route} {name : String} {node : Node}

/-- A tree with its nodes in order, each with a name that a path can lead to. -/
structure InOrder (tree : FileTree) : Prop where
  increasing : OrderedMap.Increasing tree.nodes.entries
  named : ∀ entry ∈ tree.nodes.entries, ∀ name ∈ entry.1.fileName?, PlainName name

/-- A well-formed tree with its nodes in order, each with a name that a path can lead to. -/
structure Ordered (tree : FileTree) : Prop extends WellFormed tree where
  increasing : OrderedMap.Increasing tree.nodes.entries
  named : ∀ entry ∈ tree.nodes.entries, ∀ name ∈ entry.1.fileName?, PlainName name

instance (tree : FileTree) : Decidable tree.Ordered :=
  have : Decidable (OrderedMap.Increasing tree.nodes.entries) := inferInstanceAs (Decidable (List.Pairwise _ _))
  decidable_of_iff
    (tree.WellFormed ∧ OrderedMap.Increasing tree.nodes.entries ∧
      ∀ entry ∈ tree.nodes.entries, ∀ name ∈ entry.1.fileName?, PlainName name)
    ⟨fun ⟨wellFormed, increasing, named⟩ => ⟨wellFormed, increasing, named⟩,
      fun ordered => ⟨ordered.toWellFormed, ordered.increasing, ordered.named⟩⟩

/-- The names that a path leads over can be written in a path. -/
theorem plainName_of_mem_resolve (member : .name name ∈ tree.resolve path) : PlainName name := by
  rw [resolve_eq] at member
  rcases List.mem_append.mp (Route.mem_of_mem_normalize member) with within | within
  · split at within
    · cases within
    · exact Path.plainName_of_mem_components within
  · exact Path.plainName_of_mem_components within

theorem resolve_of_write (wrote : tree.write path contents = .ok after) (other : Path) :
    after.resolve other = tree.resolve other := by
  obtain ⟨_, _, rfl⟩ := write_eq_ok.mp wrote
  rfl

theorem Ordered.inOrder (ordered : tree.Ordered) : tree.InOrder := ⟨ordered.increasing, ordered.named⟩

theorem InOrder.insert {route : Route} (inOrder : tree.InOrder) (plain : ∀ name, .name name ∈ route → PlainName name)
    (node : Node) : InOrder { tree with nodes := tree.nodes.insert route node } where
  increasing := OrderedMap.increasing_place _ inOrder.increasing
  named entry member name ends := by
    rcases OrderedMap.mem_of_mem_place member with rfl | before
    · exact plain name (List.mem_of_getLast? (Route.getLast?_of_fileName? ends))
    · exact inOrder.named entry before name ends

theorem InOrder.erase (inOrder : tree.InOrder) (route : Route) :
    InOrder { tree with nodes := tree.nodes.erase route } where
  increasing := inOrder.increasing.filter _
  named entry member := inOrder.named entry (List.mem_filter.mp member).1

theorem InOrder.addDirs {route : Route} (inOrder : tree.InOrder) (plain : ∀ name, .name name ∈ route → PlainName name) :
    (tree.addDirs route).InOrder where
  increasing := OrderedMap.increasing_foldl_insertNew _ inOrder.increasing
  named entry member name ends := by
    rcases OrderedMap.mem_of_mem_foldl_insertNew member with ⟨above, _⟩ | before
    · have within : ∀ above ∈ route.ancestors, ∀ component ∈ above, component ∈ route :=
        Route.forall_ancestors _ (fun _ => id) fun below climbed component member =>
          below component (List.dropLast_subset _ (Route.dropLast_of_parent? climbed ▸ member))
      exact plain name (within _ above _ (List.mem_of_getLast? (Route.getLast?_of_fileName? ends)))
    · exact inOrder.named entry before name ends

/-- Whatever a tree is otherwise, every call keeps it in order. -/
theorem InOrder.perform (inOrder : tree.InOrder) (call : FileCall) : (Storage.perform call tree).2.InOrder := by
  rcases performed : Storage.perform call tree with ⟨error | answer, after⟩
  · rw [perform_error performed]
    exact inOrder
  · cases call with
    | remove path =>
      rw [(remove_eq_ok.mp (perform_remove_ok.mp performed)).2]
      exact inOrder.erase _
    | write path contents =>
      rw [(write_eq_ok.mp (perform_write_ok.mp performed)).2.2]
      exact inOrder.insert (fun _ => plainName_of_mem_resolve) _
    | createDirs path =>
      rw [(createDirs_eq_ok.mp (perform_createDirs_ok.mp performed)).2]
      exact inOrder.addDirs fun _ => plainName_of_mem_resolve
    | _ => exact (Prod.mk.inj performed).2 ▸ inOrder

theorem InOrder.withFile (inOrder : tree.InOrder) (path : Path) (contents : ByteArray) :
    (tree.withFile path contents).InOrder := by
  have plain : ∀ name, .name name ∈ tree.resolve path → PlainName name := fun _ => plainName_of_mem_resolve
  unfold FileTree.withFile
  refine InOrder.insert ?_ plain _
  split
  · exact inOrder
  · rename_i parent climbed
    refine inOrder.addDirs fun name member => plain name (List.dropLast_subset _ ?_)
    rwa [Route.dropLast_of_parent? climbed]

/-- A new tree is in order, whatever its working directory. -/
theorem inOrder_new (workingDirectory : Path) : (new workingDirectory).InOrder := by
  have empty : (FileTree.mk workingDirectory OrderedMap.empty).InOrder := ⟨List.Pairwise.nil, nofun⟩
  exact empty.addDirs fun _ => Path.plainName_of_mem_components

/-- A file is never written over a directory. -/
theorem isDirectoryAt_of_write (wrote : tree.write path contents = .ok after) {route : Route}
    (directory : tree.isDirectoryAt route = true) : after.isDirectoryAt route = true := by
  have other : tree.resolve path ≠ route := by
    rintro rfl
    simp [(write_eq_ok.mp wrote).2.1] at directory
  rw [isDirectoryAt_iff, get?_write wrote, if_neg other]
  exact isDirectoryAt_iff.mp directory

theorem Ordered.write (ordered : tree.Ordered) (wrote : tree.write path contents = .ok after) : after.Ordered := by
  have closed : ∀ {below above : Route}, after.get? below ≠ none → below.parent? = some above →
      after.isDirectoryAt above = true := by
    intro below above bound climbed
    refine isDirectoryAt_of_write wrote ?_
    rw [get?_write wrote] at bound
    split at bound
    · rename_i same
      simpa [same, climbed] using (write_eq_ok.mp wrote).1
    · exact ordered.closed bound climbed
  obtain ⟨_, _, rfl⟩ := write_eq_ok.mp wrote
  obtain ⟨increasing, named⟩ := ordered.inOrder.insert (fun _ => plainName_of_mem_resolve) (.file contents)
  exact ⟨⟨ordered.rooted, closed⟩, increasing, named⟩

theorem Ordered.remove (ordered : tree.Ordered) (removed : tree.remove path = .ok after) : after.Ordered := by
  have closed : ∀ {below above : Route}, after.get? below ≠ none → below.parent? = some above →
      after.isDirectoryAt above = true := by
    intro below above bound climbed
    rw [get?_remove removed] at bound
    split at bound
    · exact absurd rfl bound
    · have directory := isDirectoryAt_iff.mp (ordered.closed bound climbed)
      -- What is removed is a file, so it is not the directory.
      obtain ⟨_, file⟩ := isFileAt_iff.mp (remove_eq_ok.mp removed).1
      have other : tree.resolve path ≠ above := by
        rintro rfl
        cases file.symm.trans directory
      rw [isDirectoryAt_iff, get?_remove removed, if_neg other]
      exact directory
  obtain ⟨_, rfl⟩ := remove_eq_ok.mp removed
  obtain ⟨increasing, named⟩ := ordered.inOrder.erase (tree.resolve path)
  exact ⟨⟨ordered.rooted, closed⟩, increasing, named⟩

/-- Making directories where no file is in the way keeps a tree in order. -/
theorem Ordered.addDirs {route : Route} (ordered : tree.Ordered)
    (free : ∀ above ∈ route.ancestors, tree.isFileAt above = false)
    (plain : ∀ {name : String}, .name name ∈ route → PlainName name) : (tree.addDirs route).Ordered where
  rooted := ordered.rooted
  closed {below above} bound climbed := by
    rw [get?_addDirs] at bound
    split at bound
    · rename_i member
      exact isDirectoryAt_addDirs free (Route.parent_mem_ancestors member climbed)
    · have directory := isDirectoryAt_iff.mp (ordered.closed bound climbed)
      rw [isDirectoryAt_iff, get?_addDirs, directory]
      split <;> rfl
  increasing := (ordered.inOrder.addDirs fun _ => plain).increasing
  named := (ordered.inOrder.addDirs fun _ => plain).named

theorem ordered_new {workingDirectory : Path} (rooted : workingDirectory.isAbsolute = true) :
    (new workingDirectory).Ordered := by
  have empty : (FileTree.mk workingDirectory OrderedMap.empty).Ordered :=
    ⟨⟨rooted, fun bound => absurd rfl bound⟩, List.Pairwise.nil, nofun⟩
  exact empty.addDirs (fun _ _ => rfl) Path.plainName_of_mem_components

/-- Every call keeps a tree in order, whether it succeeds or not. -/
theorem Ordered.perform (ordered : tree.Ordered) (call : FileCall) : (Storage.perform call tree).2.Ordered := by
  rcases performed : Storage.perform call tree with ⟨error | answer, after⟩
  · rw [perform_error performed]
    exact ordered
  · cases call with
    | remove path => exact ordered.remove (perform_remove_ok.mp performed)
    | write path contents => exact ordered.write (perform_write_ok.mp performed)
    | createDirs path =>
      obtain ⟨free, rfl⟩ := createDirs_eq_ok.mp (perform_createDirs_ok.mp performed)
      exact ordered.addDirs free plainName_of_mem_resolve
    | _ => exact (Prod.mk.inj performed).2 ▸ ordered

/-! ## Directories -/

/-- A path that goes on by a name leads to what is below under that name. -/
theorem resolve_join (tree : FileTree) (path : Path) (plain : PlainName name) :
    tree.resolve (path.join ⟨name⟩) = tree.resolve path ++ [.name name] := by
  have components : (path.join ⟨"/".intercalate [name]⟩).components = path.components ++ [name].map .name :=
    Path.components_join_names path (by simpa using plain)
  rw [String.intercalate_singleton] at components
  exact resolve_append_names components

/-- A node by its name, if it is directly in a directory. -/
def childOf? (base : Route) : Route × Node → Option (String × Node)
  | (route, node) => if route.parent? = some base then route.fileName?.map fun name => (name, node) else none

/-- The nodes directly in a directory, by their names. -/
def children (tree : FileTree) (base : Route) : List (String × Node) := tree.nodes.entries.filterMap (childOf? base)

theorem childOf?_eq_some_iff {entry : Route × Node} :
    childOf? base entry = some (name, node) ↔ entry = (base ++ [.name name], node) := by
  obtain ⟨route, held⟩ := entry
  rw [Prod.mk.injEq, ← Route.eq_concat_iff, childOf?]
  split
  · rename_i climbed
    cases route.fileName? <;> simp [climbed]
  · rename_i elsewhere
    simp [elsewhere]

/-- A directory is listed as what is directly in it. -/
theorem list_of_directory (present : tree.isDirectoryAt (tree.resolve path) = true) :
    tree.list path = .ok ((tree.children (tree.resolve path)).map fun (name, node) => ⟨name, node.kind⟩) := by
  unfold list children
  dsimp only
  rw [isDirectoryAt_iff.mp present, List.map_filterMap]
  dsimp only
  congr 2
  funext ⟨route, node⟩
  dsimp only [entryOf?, childOf?]
  split
  · rw [Option.map_map]
    cases node <;> rfl
  · rfl

/-- What is directly in a directory is what the tree has below it under a name. -/
theorem InOrder.mem_children (inOrder : tree.InOrder) :
    (name, node) ∈ tree.children base ↔ tree.get? (base ++ [.name name]) = some node := by
  rw [children, List.mem_filterMap, FileTree.get?, OrderedMap.get?_eq_some_iff inOrder.increasing]
  constructor
  · rintro ⟨entry, member, told⟩
    rwa [← childOf?_eq_some_iff.mp told]
  · exact fun member => ⟨_, member, childOf?_eq_some_iff.mpr rfl⟩

theorem InOrder.plainName (inOrder : tree.InOrder) (present : tree.get? (base ++ [.name name]) = some node) :
    PlainName name :=
  inOrder.named _ (OrderedMap.mem_of_get? present) name (Route.eq_concat_iff.mpr rfl).2

/-- A directory is listed by increasing names. -/
theorem InOrder.children_increasing (inOrder : tree.InOrder) (base : Route) :
    (tree.children base).Pairwise fun left right => left.1 < right.1 := by
  rw [children, List.pairwise_filterMap]
  refine inOrder.increasing.imp fun {left right} less first toldFirst second toldSecond => ?_
  rw [childOf?_eq_some_iff.mp toldFirst, childOf?_eq_some_iff.mp toldSecond, Route.append_lt_append,
    List.cons_lt_cons_iff, PathComponent.name_lt_name] at less
  exact less.resolve_right fun same => absurd same.2 (List.not_lt_nil _)

end FileTree

/-- However a run goes on, its tree stays in order. -/
theorem Session.KeepsTo.ordered {allowed : Event → Prop} {before after : Session (Faulty FileTree)}
    (keeps : before.KeepsTo allowed after) (ordered : before.files.inner.Ordered) : after.files.inner.Ordered := by
  refine keeps.preserves (fun files => files.inner.Ordered) (fun files event _ ordered => ?_) ordered
  cases event with
  | files call _ =>
    rcases Faulty.perform_cases call files with ⟨_, _, _, performed⟩ | ⟨_, _, performed⟩
    · rw [Event.replay, performed]
      exact ordered
    · rw [Event.replay, performed]
      exact ordered.perform call
  | _ => exact ordered

end Scaffold
