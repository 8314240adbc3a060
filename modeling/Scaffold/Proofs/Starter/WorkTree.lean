import Scaffold.Proofs.Starter.Exactness

/-! # Work trees are laid out exactly

A work tree that is checked out has each file under names of its own, none of which lead through another file. Its
entries are then these files and the directories above them, but for what belongs to a repository or is a symbolic
link, and a layout takes from them what lies below the subdirectory, under all the names that are left.
-/

namespace Scaffold

namespace WorkTree

instance decidableEqWorkFile : DecidableEq WorkFile := fun left right =>
  decidable_of_iff (left.path = right.path ∧ left.contents.map ByteArray.data = right.contents.map ByteArray.data ∧
      left.mode = right.mode) (by
    have same : Function.Injective ByteArray.data := fun _ _ => ByteArray.ext
    cases left
    cases right
    rw [(Option.map_injective same).eq_iff, WorkFile.mk.injEq])

variable {files : WorkTree} {file other : WorkFile} {names : List String} {file? : Option WorkFile}

/-- A work tree as a checkout leaves it: paths are made of names, and no file lies at or below another one. -/
structure CheckedOut (files : WorkTree) : Prop where
  named : ∀ file ∈ files, namesOf file ≠ [] ∧ file.path.components = (namesOf file).map .name
  apart : ∀ file ∈ files, ∀ other ∈ files, namesOf other <+: namesOf file → other = file

/-- Names that belong to no repository, and are not those of a symbolic link or below it. -/
def Visible (files : WorkTree) (names : List String) : Prop :=
  repositoryName ∉ names ∧ ∀ link ∈ files, link.mode = linkMode → ¬ namesOf link <+: names

instance (files : WorkTree) (names : List String) : Decidable (files.Visible names) :=
  inferInstanceAs (Decidable (_ ∧ _))

theorem Visible.of_prefix {begin : List String} (visible : files.Visible names) (begins : begin <+: names) :
    files.Visible begin :=
  ⟨fun member => visible.1 (begins.subset member), fun link among mode leads =>
    visible.2 link among mode (leads.trans begins)⟩

theorem CheckedOut.plainName (checkedOut : files.CheckedOut) (member : file ∈ files) :
    ∀ name ∈ namesOf file, PlainName name := fun name among =>
  Path.plainName_of_mem_components (by
    rw [(checkedOut.named file member).2]
    exact List.mem_map_of_mem among)

/-! ## Nodes -/

theorem mem_above {below : List String} : names ∈ above below ↔ names ≠ [] ∧ names <+: below ∧ names ≠ below := by
  have counts : ∀ {count length : Nat}, count ∈ (List.range length).tail ↔ 0 < count ∧ count < length := by
    intro count length
    cases length with
    | zero => simp
    | succ length => cases count <;> simp [List.range_succ_eq_map]
  rw [above, List.mem_map]
  constructor
  · rintro ⟨count, among, rfl⟩
    obtain ⟨some, short⟩ := counts.mp among
    refine ⟨?_, List.take_prefix count below, fun whole => ?_⟩
    · rw [← List.length_pos_iff, List.length_take]
      omega
    · have length := congrArg List.length whole
      rw [List.length_take] at length
      omega
  · rintro ⟨some, begins, other⟩
    refine ⟨names.length, counts.mpr ⟨List.length_pos_iff.mpr some, ?_⟩, (List.prefix_iff_eq_take.mp begins).symm⟩
    exact Nat.lt_of_le_of_ne begins.length_le fun same => other (begins.eq_of_length same)

/-- What a work tree lists: files under their names, and directories above them. -/
def Lists (files : WorkTree) (names : List String) : Option WorkFile → Prop
  | some file => file ∈ files ∧ namesOf file = names
  | none => ∃ file ∈ files, names ∈ above (namesOf file)

theorem lists_of_mem_nodes (member : (names, file?) ∈ (nodes files).entries) : files.Lists names file? := by
  have onward : ∀ (placed : WorkTree) (map : OrderedMap (List String) (Option WorkFile)),
      (∀ entry ∈ map.entries, files.Lists entry.1 entry.2) → placed ⊆ files →
        ∀ entry ∈ (placed.foldl place map).entries, files.Lists entry.1 entry.2 := by
    intro placed
    induction placed with
    | nil => exact fun _ listed _ => listed
    | cons file rest ih =>
      intro map listed within
      refine ih (place map file) (fun entry member => ?_) fun other among => within (List.mem_cons_of_mem _ among)
      have among := within List.mem_cons_self
      rcases OrderedMap.mem_of_mem_place member with rfl | directories
      · exact ⟨among, rfl⟩
      · rcases OrderedMap.mem_of_mem_foldl_insertNew directories with ⟨above, none⟩ | before
        · rw [none]
          exact ⟨file, among, above⟩
        · exact listed entry before
  exact onward files OrderedMap.empty nofun (List.Subset.refl files) _ member

theorem get?_place {map : OrderedMap (List String) (Option WorkFile)} (found : map.get? names = some file?)
    (other : namesOf file ≠ names) : (place map file).get? names = some file? := by
  rw [place, OrderedMap.get?_insert, if_neg other, OrderedMap.get?_foldl_insertNew, found]
  split <;> rfl

theorem mem_nodes_of_mem (checkedOut : files.CheckedOut) (member : file ∈ files) :
    (namesOf file, some file) ∈ (nodes files).entries := by
  -- Once a file is placed, no other one is placed under its names.
  have onward : ∀ (rest : WorkTree) (map : OrderedMap (List String) (Option WorkFile)), rest ⊆ files →
      map.get? (namesOf file) = some (some file) → (rest.foldl place map).get? (namesOf file) = some (some file) := by
    intro rest
    induction rest with
    | nil => exact fun _ _ found => found
    | cons other rest ih =>
      intro map within found
      refine ih (place map other) (fun other among => within (List.mem_cons_of_mem _ among)) ?_
      by_cases same : namesOf other = namesOf file
      · rw [checkedOut.apart file member other (within List.mem_cons_self) (same ▸ List.prefix_rfl), place,
          OrderedMap.get?_insert, if_pos rfl]
      · exact get?_place found same
  obtain ⟨earlier, later, rfl⟩ := List.append_of_mem member
  refine OrderedMap.mem_of_get? ?_
  rw [nodes, List.foldl_append, List.foldl_cons]
  refine onward later _ (fun other among => by simp [among]) ?_
  rw [place, OrderedMap.get?_insert, if_pos rfl]

/-! ## Entries -/

theorem CheckedOut.names?_node (checkedOut : files.CheckedOut) (lists : files.Lists names file?) :
    Overlay.names? ⟨"/".intercalate names⟩ = some names := by
  have plain : ∀ name ∈ names, PlainName name := by
    cases file? with
    | some file =>
      obtain ⟨member, rfl⟩ := lists
      exact checkedOut.plainName member
    | none =>
      obtain ⟨file, member, above⟩ := lists
      exact fun name among => checkedOut.plainName member name ((mem_above.mp above).2.1.subset among)
  rw [Overlay.names?_eq_some, Path.components_intercalate plain]
  exact List.filter_eq_self.mpr fun component among => by
    obtain ⟨name, _, rfl⟩ := List.mem_map.mp among
    simp

/-- What is listed and belongs to no repository, but for links, is neither a link nor below one. -/
theorem CheckedOut.visible_of_lists (checkedOut : files.CheckedOut) (lists : files.Lists names file?)
    (own : repositoryName ∉ names) (regular : ∀ file ∈ file?, file.mode ≠ linkMode) : files.Visible names := by
  refine ⟨own, fun link among mode begins => ?_⟩
  cases file? with
  | some file =>
    obtain ⟨member, rfl⟩ := lists
    exact regular file rfl (checkedOut.apart file member link among begins ▸ mode)
  | none =>
    obtain ⟨file, member, above⟩ := lists
    obtain ⟨_, below, other⟩ := mem_above.mp above
    have same := checkedOut.apart file member link among (begins.trans below)
    rw [same] at begins
    exact other (below.eq_of_length (Nat.le_antisymm below.length_le begins.length_le))

/-- The entries of a work tree are its visible files and the visible directories above its files. -/
theorem mem_entries (checkedOut : files.CheckedOut) {entry : Archive.Entry} (member : entry ∈ entries files) :
    ∃ names, Overlay.names? entry.path = some names ∧ files.Visible names ∧
      ((entry.isDirectory = true ∧ ∃ file ∈ files, names ∈ above (namesOf file)) ∨
        ∃ file ∈ files, namesOf file = names ∧ entry.isDirectory = false ∧ entry.contents? = file.contents) := by
  obtain ⟨⟨names, file?⟩, among, told⟩ := List.mem_filterMap.mp member
  have lists := lists_of_mem_nodes among
  have read := checkedOut.names?_node lists
  dsimp only [entryOf?] at told
  split at told
  · cases told
  · rename_i own
    have own : repositoryName ∉ names := by simpa using own
    cases file? with
    | none =>
      cases told
      exact ⟨names, read, checkedOut.visible_of_lists lists own nofun, .inl ⟨rfl, lists⟩⟩
    | some file =>
      dsimp only at told
      split at told
      · cases told
      · rename_i regular
        obtain rfl := Option.some.inj told
        refine ⟨names, read, checkedOut.visible_of_lists lists own ?_, .inr ⟨file, lists.1, lists.2, rfl, rfl⟩⟩
        rintro _ ⟨⟩
        exact regular

/-- A visible file is an entry. -/
theorem mem_entries_of_visible (checkedOut : files.CheckedOut) (member : file ∈ files)
    (visible : files.Visible (namesOf file)) :
    { path := ⟨"/".intercalate (namesOf file)⟩, mode? := some file.mode, contents? := file.contents } ∈
      entries files := by
  refine List.mem_filterMap.mpr ⟨_, mem_nodes_of_mem checkedOut member, ?_⟩
  have regular : file.mode ≠ linkMode := fun link => visible.2 file member link List.prefix_rfl
  simp [entryOf?, visible.1, regular]

/-- Of a checkout that can be listed to its end, all entries are listed. -/
theorem listed_of_stop? {checkout : ClonedTree} (unbroken : stop? checkout = none) :
    listed checkout = entries checkout.files := by
  obtain ⟨files, break?⟩ := checkout
  cases break? with
  | none => rfl
  | some _ => cases unbroken

end WorkTree

/-! ## Layouts of work trees -/

namespace Overlay

variable {overlay : Overlay} {files : WorkTree} {file : WorkFile} {rest : List String} {entry : Archive.Entry}
  {target : Path} {tree after : FileTree} {contents : ByteArray} {route : Route}

/-- A visible file of a work tree is to be copied under the names that follow those of the subdirectory. -/
def Copies (overlay : Overlay) (files : WorkTree) (file : WorkFile) (rest : List String) : Prop :=
  file ∈ files ∧ rest ≠ [] ∧ WorkTree.namesOf file = overlay.subDirectory ++ rest ∧
    files.Visible (WorkTree.namesOf file)

instance (overlay : Overlay) (files : WorkTree) (file : WorkFile) (rest : List String) :
    Decidable (overlay.Copies files file rest) :=
  inferInstanceAs (Decidable (_ ∧ _))

theorem Copies.resolve (copies : overlay.Copies files file rest) (checkedOut : files.CheckedOut) (tree : FileTree) :
    tree.resolve (overlay.placeOf rest) = tree.resolve overlay.destination ++ rest.map .name :=
  resolve_placeOf tree fun name among =>
    checkedOut.plainName copies.1 name (copies.2.2.1 ▸ List.mem_append_right _ among)

/-- No two files are copied to one place. -/
theorem Copies.eq_of_placeOf {other : WorkFile} {others : List String} (copies : overlay.Copies files file rest)
    (second : overlay.Copies files other others) (checkedOut : files.CheckedOut)
    (same : overlay.placeOf others = overlay.placeOf rest) : other = file := by
  have resolved := congrArg (FileTree.new overlay.destination).resolve same
  rw [second.resolve checkedOut, copies.resolve checkedOut, Route.append_names_inj] at resolved
  subst resolved
  exact checkedOut.apart file copies.1 other second.1 (second.2.2.1.trans copies.2.2.1.symm ▸ List.prefix_rfl)

/-- A file among the entries goes where a file of the work tree is to be copied. -/
theorem copies_of_mem_entries (checkedOut : files.CheckedOut) (member : entry ∈ WorkTree.entries files)
    (kind : entry.isDirectory = false) (aimed : overlay.target? (Archive.below none entry.path) = .ok (some target)) :
    ∃ file rest, overlay.Copies files file rest ∧ entry.contents? = file.contents ∧
      overlay.placeOf rest = target := by
  obtain ⟨names, read, visible, ⟨directory, _⟩ | ⟨file, among, rfl, _, held⟩⟩ := WorkTree.mem_entries checkedOut member
  · rw [directory] at kind
    cases kind
  · obtain ⟨rest, onward, told, placed⟩ := target?_eq_some.mp aimed
    have names := Option.some.inj (read.symm.trans told)
    exact ⟨file, rest, ⟨among, onward, names, visible⟩, held, placed⟩

/-- What is to be copied is an entry, and goes where it is to be copied. -/
theorem Copies.mem_entries (copies : overlay.Copies files file rest) (checkedOut : files.CheckedOut) :
    ∃ entry ∈ WorkTree.entries files, entry.isDirectory = false ∧
      overlay.target? (Archive.below none entry.path) = .ok (some (overlay.placeOf rest)) := by
  obtain ⟨member, onward, names, visible⟩ := copies
  have lists : files.Lists (WorkTree.namesOf file) (some file) := ⟨member, rfl⟩
  refine ⟨_, WorkTree.mem_entries_of_visible checkedOut member visible, rfl, target?_eq_some.mpr ⟨rest, onward, ?_, rfl⟩⟩
  change names? ⟨"/".intercalate (WorkTree.namesOf file)⟩ = _
  rw [checkedOut.names?_node lists, names]

/-- The entries of a work tree bring the files that are to be copied, and no others. -/
theorem brings_entries_iff (checkedOut : files.CheckedOut) :
    overlay.Brings none (WorkTree.entries files) target contents ↔
      ∃ file rest, overlay.Copies files file rest ∧ file.contents = some contents ∧ overlay.placeOf rest = target := by
  constructor
  · rintro ⟨earlier, entry, later, same, kind, aimed, held, _⟩
    obtain ⟨file, rest, copies, told, placed⟩ := copies_of_mem_entries checkedOut (by rw [same]; simp) kind aimed
    exact ⟨file, rest, copies, told.symm.trans held, placed⟩
  · rintro ⟨file, rest, copies, readable, rfl⟩
    obtain ⟨entry, member, kind, aimed⟩ := copies.mem_entries checkedOut
    obtain ⟨earlier, last, later, same, file, placed, behind⟩ := exists_last_file member kind aimed
    obtain ⟨other, others, second, held, told⟩ := copies_of_mem_entries checkedOut (by rw [same]; simp) file placed
    rw [copies.eq_of_placeOf second checkedOut told] at held
    exact ⟨earlier, last, later, same, file, placed, held.trans readable, behind⟩

theorem spares_entries_iff (checkedOut : files.CheckedOut) :
    overlay.Spares none (WorkTree.entries files) tree route ↔
      ∀ file rest, overlay.Copies files file rest →
        route ≠ tree.resolve overlay.destination ++ rest.map .name := by
  constructor
  · intro spares file rest copies same
    obtain ⟨entry, member, kind, aimed⟩ := copies.mem_entries checkedOut
    exact spares entry member kind _ aimed ((copies.resolve checkedOut tree).trans same.symm)
  · rintro apart entry member kind target aimed rfl
    obtain ⟨file, rest, copies, _, rfl⟩ := copies_of_mem_entries checkedOut member kind aimed
    exact apart file rest copies (copies.resolve checkedOut tree)

/-- A work tree is overlaid exactly: the files that are left are those of the work tree that lie below the
subdirectory, belong to no repository and are not reached through symbolic links, under all the names that follow the
subdirectory, and the ones that were there elsewhere. Nothing else of the work tree shows in the destination, either:
what differs has such names, too, and leads to a file, or is where the destination is or above if it was missing. -/
theorem placeListed_workTree {checkout : ClonedTree} (checkedOut : checkout.files.CheckedOut)
    {session left : Session (Faulty FileTree)} {count : Nat}
    (ran : (overlay.placeListed none (WorkTree.listed checkout) (WorkTree.stop? checkout)).apply session =
      (.ok count, left)) :
    (∀ route contents, left.files.inner.get? route = some (.file contents) ↔
      (∃ file rest, overlay.Copies checkout.files file rest ∧ file.contents = some contents ∧
        route = session.files.inner.resolve overlay.destination ++ rest.map .name) ∨
      (session.files.inner.get? route = some (.file contents) ∧ ∀ file rest, overlay.Copies checkout.files file rest →
        route ≠ session.files.inner.resolve overlay.destination ++ rest.map .name)) ∧
    ∀ route, left.files.inner.get? route ≠ session.files.inner.get? route →
      (∃ names, names ≠ [] ∧ route = session.files.inner.resolve overlay.destination ++ names.map .name ∧
        checkout.files.Visible (overlay.subDirectory ++ names) ∧
        ∃ file ∈ checkout.files, overlay.subDirectory ++ names <+: WorkTree.namesOf file) ∨
      (route ∈ (session.files.inner.resolve overlay.destination).ancestors ∧
        session.files.inner.get? route = none) := by
  obtain ⟨unbroken, ran⟩ := placeListed_eq_ok ran
  rw [WorkTree.listed_of_stop? unbroken] at ran
  refine ⟨fun route contents => ?_, fun route differs => (placeAll_onTheWay ran differs).imp_left ?_⟩
  · rw [(placeAll_puts ran).file_iff, spares_entries_iff checkedOut, and_comm]
    refine or_congr_left ?_
    constructor
    · rintro ⟨target, brings, rfl⟩
      obtain ⟨file, rest, copies, held, rfl⟩ := (brings_entries_iff checkedOut).mp brings
      exact ⟨file, rest, copies, held, copies.resolve checkedOut _⟩
    · rintro ⟨file, rest, copies, held, rfl⟩
      exact ⟨_, (brings_entries_iff checkedOut).mpr ⟨file, rest, copies, held, rfl⟩, copies.resolve checkedOut _⟩
  · rintro ⟨entry, member, rest, read, names, some, begins, same⟩
    obtain ⟨whole, told, visible, leads⟩ := WorkTree.mem_entries checkedOut member
    obtain rfl : whole = overlay.subDirectory ++ rest := Option.some.inj (told.symm.trans read)
    have onward : overlay.subDirectory ++ names <+: overlay.subDirectory ++ rest :=
      (List.prefix_append_right_inj _).mpr begins
    refine ⟨names, some, same, visible.of_prefix onward, ?_⟩
    rcases leads with ⟨_, file, among, above⟩ | ⟨file, among, whole, _⟩
    · exact ⟨file, among, onward.trans (WorkTree.mem_above.mp above).2.1⟩
    · exact ⟨file, among, whole ▸ onward⟩

/-- A work tree with two files below a directory, one of them two directories deep, a link and a repository beside
them, and a file elsewhere. -/
def linkedTree : WorkTree :=
  [⟨⟨"src/a"⟩, some "a".toUTF8, 0o100644⟩, ⟨⟨"src/.git/config"⟩, some "[core]".toUTF8, 0o100644⟩,
    ⟨⟨"src/l"⟩, some "a".toUTF8, WorkTree.linkMode⟩, ⟨⟨"src/b/c"⟩, some "c".toUTF8, 0o100755⟩,
    ⟨⟨"d"⟩, some "d".toUTF8, 0o100644⟩]

private theorem checkedOut_linkedTree : linkedTree.CheckedOut where
  named := by decide +kernel
  apart := by decide +kernel

/-- What lies in the directory is copied, but for the link and the repository. -/
theorem placeListed_workTree_linked :
    linkedTree.CheckedOut ∧
      ∃ left, (placeListed ⟨⟨"/app"⟩, ["src"]⟩ none (WorkTree.listed ⟨linkedTree, none⟩) none).apply ownedSession =
          (.ok 3, left) ∧
        left.files.inner.get? (ownedSession.files.inner.resolve ⟨"/app/b/c"⟩) = some (.file "c".toUTF8) ∧
        left.files.inner.get? (ownedSession.files.inner.resolve ⟨"/app/own"⟩) = some (.file "own".toUTF8) ∧
        left.files.inner.get? (ownedSession.files.inner.resolve ⟨"/app"⟩ ++ [.name "l"]) = none := by
  have counted : ((placeListed ⟨⟨"/app"⟩, ["src"]⟩ none (WorkTree.listed ⟨linkedTree, none⟩) none).apply
      ownedSession).1 = .ok 3 := by decide +kernel
  rcases ran : (placeListed ⟨⟨"/app"⟩, ["src"]⟩ none (WorkTree.listed ⟨linkedTree, none⟩) none).apply ownedSession with
    ⟨outcome, left⟩
  obtain rfl : outcome = .ok 3 := (congrArg Prod.fst ran).symm.trans counted
  obtain ⟨files, shown⟩ := placeListed_workTree checkedOut_linkedTree ran
  refine ⟨checkedOut_linkedTree, left, rfl, ?_, ?_, ?_⟩
  · exact (files _ _).mpr (.inl ⟨linkedTree[3], ["b", "c"], by decide +kernel, rfl, by decide +kernel⟩)
  · refine (files _ _).mpr (.inr ⟨FileTree.read_eq_ok.mp (by decide +kernel), fun file rest copies same => ?_⟩)
    have own : rest = ["own"] := Route.append_names_inj.mp (same.symm.trans (by decide +kernel))
    have apart : ∀ file ∈ linkedTree, WorkTree.namesOf file ≠ ["src", "own"] := by decide +kernel
    exact apart file copies.1 (copies.2.2.1.trans (by rw [own]; rfl))
  · by_contra some
    have absent : ownedSession.files.inner.get? (ownedSession.files.inner.resolve ⟨"/app"⟩ ++ [.name "l"]) = none :=
      Option.isNone_iff_eq_none.mp (by decide +kernel)
    rcases shown _ fun same => some (same.trans absent) with ⟨names, _, same, visible, _⟩ | ⟨above, _⟩
    · have link : ["l"] = names := Route.append_names_inj.mp same
      subst link
      exact absurd visible (by decide +kernel)
    · exact absurd above (by decide +kernel)

end Overlay

end Scaffold
