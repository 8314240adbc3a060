import Scaffold.Proofs.Files.Frame
import Scaffold.Proofs.Starter.Agreement

/-! # Layouts are exact

What a layout leaves is told by the tree in front of it and by the entries: at each place is the last file that goes
there or the directory that does, every other file is the one that was there, and whatever else is new are directories
on the way to a place. Each entry that goes somewhere counts once.
-/

namespace Scaffold

/-! ## What is put last -/

namespace Archive.Entry

variable {entry : Entry}

theorem node?_eq_file {contents : ByteArray} :
    entry.node? = some (.file contents) ↔ entry.isDirectory = false ∧ entry.contents? = some contents := by
  rw [node?]
  cases entry.isDirectory <;> simp

theorem node?_eq_directory : entry.node? = some .directory ↔ entry.isDirectory = true := by
  rw [node?]
  cases entry.isDirectory <;> simp

end Archive.Entry

namespace Overlay

/-- The last of the files that go to a target has the given contents. -/
def Brings (overlay : Overlay) (top? : Option String) (entries : List Archive.Entry) (target : Path)
    (contents : ByteArray) : Prop :=
  ∃ earlier entry later, entries = earlier ++ entry :: later ∧ entry.isDirectory = false ∧
    overlay.target? (Archive.below top? entry.path) = .ok (some target) ∧ entry.contents? = some contents ∧
    ∀ other ∈ later, other.isDirectory = false →
      overlay.target? (Archive.below top? other.path) ≠ .ok (some target)

variable {overlay : Overlay} {top? : Option String} {entry : Archive.Entry} {entries earlier later : List Archive.Entry}
  {tree after : FileTree} {target : Path} {route : Route} {contents : ByteArray}

theorem Brings.cons (brings : overlay.Brings top? entries target contents) (entry : Archive.Entry) :
    overlay.Brings top? (entry :: entries) target contents := by
  obtain ⟨earlier, found, later, rfl, facts⟩ := brings
  exact ⟨entry :: earlier, found, later, rfl, facts⟩

/-- Of the files that go to a target, one is the last. -/
theorem exists_last_file (member : entry ∈ entries) (file : entry.isDirectory = false)
    (aimed : overlay.target? (Archive.below top? entry.path) = .ok (some target)) :
    ∃ earlier last later, entries = earlier ++ last :: later ∧ last.isDirectory = false ∧
      overlay.target? (Archive.below top? last.path) = .ok (some target) ∧
      ∀ other ∈ later, other.isDirectory = false →
        overlay.target? (Archive.below top? other.path) ≠ .ok (some target) := by
  induction entries generalizing entry with
  | nil => cases member
  | cons head rest ih =>
    by_cases onward : ∃ other ∈ rest, other.isDirectory = false ∧
        overlay.target? (Archive.below top? other.path) = .ok (some target)
    · obtain ⟨other, among, kind, placed⟩ := onward
      obtain ⟨earlier, last, later, rfl, facts⟩ := ih among kind placed
      exact ⟨head :: earlier, last, later, rfl, facts⟩
    · rcases List.mem_cons.mp member with rfl | among
      · exact ⟨[], entry, rest, rfl, file, aimed, fun other among kind placed => onward ⟨other, among, kind, placed⟩⟩
      · exact absurd ⟨entry, among, file, aimed⟩ onward

/-- No file among some entries goes to a route. -/
def Spares (overlay : Overlay) (top? : Option String) (entries : List Archive.Entry) (tree : FileTree) (route : Route) :
    Prop :=
  ∀ entry ∈ entries, entry.isDirectory = false → ∀ target,
    overlay.target? (Archive.below top? entry.path) = .ok (some target) → tree.resolve target ≠ route

namespace Puts

/-- Directories stay. -/
theorem get?_of_directory (puts : overlay.Puts top? entries tree after)
    (directory : tree.get? route = some .directory) : after.get? route = some .directory := by
  induction puts with
  | nil _ => exact directory
  | skip _ _ _ ih => exact ih directory
  | put _ _ _ _ _ done _ ih => exact ih (FileTree.get?_put_of_directory done directory)

/-- Every entry that goes somewhere can be read. -/
theorem node?_of_mem (puts : overlay.Puts top? entries tree after) (member : entry ∈ entries)
    (aimed : overlay.target? (Archive.below top? entry.path) = .ok (some target)) :
    ∃ node, entry.node? = some node := by
  induction puts with
  | nil _ => cases member
  | skip _ aside _ ih =>
    rcases List.mem_cons.mp member with rfl | later
    · rw [aside] at aimed
      cases aimed
    · exact ih later
  | put _ _ node _ read _ _ ih =>
    rcases List.mem_cons.mp member with rfl | later
    · exact ⟨node, read⟩
    · exact ih later

/-- A directory is found at its place. -/
theorem get?_of_mem_directory (puts : overlay.Puts top? entries tree after) (member : entry ∈ entries)
    (directory : entry.isDirectory = true)
    (aimed : overlay.target? (Archive.below top? entry.path) = .ok (some target)) :
    after.get? (tree.resolve target) = some .directory := by
  induction puts with
  | nil _ => cases member
  | skip _ aside _ ih =>
    rcases List.mem_cons.mp member with rfl | later
    · rw [aside] at aimed
      cases aimed
    · exact ih later
  | put _ place node told read done puts ih =>
    rcases List.mem_cons.mp member with rfl | later
    · rw [aimed, Except.ok.injEq, Option.some.injEq] at told
      rw [Archive.Entry.node?, if_pos directory, Option.some.injEq] at read
      subst told read
      exact puts.get?_of_directory (FileTree.get?_put done)
    · exact FileTree.resolve_put done target ▸ ih later

/-- A file that is found was brought by an entry, or was there before and spared. -/
theorem file_cases (puts : overlay.Puts top? entries tree after) (file : after.get? route = some (.file contents)) :
    (∃ target, overlay.Brings top? entries target contents ∧ tree.resolve target = route) ∨
      (overlay.Spares top? entries tree route ∧ tree.get? route = some (.file contents)) := by
  induction puts with
  | nil _ => exact .inr ⟨nofun, file⟩
  | skip entry aside _ ih =>
    rcases ih file with ⟨target, brings, same⟩ | ⟨spares, found⟩
    · exact .inl ⟨target, brings.cons entry, same⟩
    · refine .inr ⟨fun other member kind target aimed => ?_, found⟩
      rcases List.mem_cons.mp member with rfl | later
      · rw [aside] at aimed
        cases aimed
      · exact spares other later kind target aimed
  | put entry target node aimed read done puts ih =>
    have resolved := FileTree.resolve_put done
    rcases ih file with ⟨target, brings, same⟩ | ⟨spares, found⟩
    · exact .inl ⟨target, brings.cons entry, resolved target ▸ same⟩
    · have onward : overlay.Spares top? _ _ route := fun other member kind place placed =>
        resolved place ▸ spares other member kind place placed
      rcases FileTree.file_of_put done found with ⟨rfl, rfl⟩ | ⟨before, elsewhere⟩
      · obtain ⟨file, told⟩ := Archive.Entry.node?_eq_file.mp read
        exact .inl ⟨target, ⟨[], entry, _, rfl, file, aimed, told, fun other member kind placed =>
          onward other member kind target placed rfl⟩, rfl⟩
      · refine .inr ⟨fun other member kind place placed => ?_, before⟩
        rcases List.mem_cons.mp member with rfl | later
        · rw [aimed, Except.ok.injEq, Option.some.injEq] at placed
          subst placed
          refine elsewhere.resolve_left ?_
          rintro rfl
          rw [Archive.Entry.node?_eq_directory.mp read] at kind
          cases kind
        · exact onward other later kind place placed

/-- The files that are found are those that entries bring, and those that were there before and are spared. -/
theorem file_iff (puts : overlay.Puts top? entries tree after) :
    after.get? route = some (.file contents) ↔
      (∃ target, overlay.Brings top? entries target contents ∧ tree.resolve target = route) ∨
        (overlay.Spares top? entries tree route ∧ tree.get? route = some (.file contents)) := by
  refine ⟨puts.file_cases, ?_⟩
  rintro (⟨target, ⟨earlier, entry, later, rfl, file, aimed, told, last⟩, rfl⟩ | ⟨spares, found⟩)
  · obtain ⟨node, read, found⟩ := puts.get?_of_last aimed fun other member kind place placed same =>
      last other member kind ((target?_inj aimed placed).mp same ▸ placed)
    rw [Archive.Entry.node?_eq_file.mpr ⟨file, told⟩, Option.some.injEq] at read
    rw [found, read]
  · exact puts.get?_of_present found spares

end Puts

/-! ## How many entries count -/

/-- Whether an entry goes somewhere. -/
def takes (overlay : Overlay) (top? : Option String) (entry : Archive.Entry) : Bool :=
  match overlay.target? (Archive.below top? entry.path) with
  | .ok (some _) => true
  | _ => false

section

variable {σ : Type} [Storage σ] {session left : Session σ} {written count : Nat}

theorem place_count (placed : (overlay.place top? written entry).apply session = (.ok count, left)) :
    count = written + if overlay.takes top? entry then 1 else 0 := by
  unfold place at placed
  unfold takes
  split at placed
  · cases placed
  · rename_i aside
    rw [aside]
    exact (Except.ok.inj (Prod.mk.inj placed).1).symm
  · rename_i target aimed
    rw [aimed]
    split at placed
    · obtain ⟨_, _, _, returned⟩ := Run.bind_eq_ok placed
      exact (Except.ok.inj (Prod.mk.inj returned).1).symm
    · split at placed
      · exact writeFile_eq_ok placed
      · cases placed

/-- A layout counts every entry that goes somewhere. -/
theorem placeAll_count (laid : (overlay.placeAll top? written entries).apply session = (.ok count, left)) :
    count = written + entries.countP (overlay.takes top?) := by
  induction entries generalizing written session with
  | nil => exact (Except.ok.inj (Prod.mk.inj laid).1).symm
  | cons entry rest ih =>
    obtain ⟨next, middle, placed, laid⟩ := Run.bind_eq_ok laid
    rw [ih laid, place_count placed, List.countP_cons]
    omega

end

/-! ## What else differs -/

/-- A route that leads from a base to the place of one of some entries, or goes there. -/
def OnTheWay (overlay : Overlay) (top? : Option String) (entries : List Archive.Entry) (base route : Route) : Prop :=
  ∃ entry ∈ entries, ∃ rest, names? (Archive.below top? entry.path) = some (overlay.subDirectory ++ rest) ∧
    ∃ names, names ≠ [] ∧ names <+: rest ∧ route = base ++ names.map .name

section

variable {session left : Session (Faulty FileTree)} {written : Nat} {outcome : Except Interruption Nat}

/-- What may be made for entries leads to their places, or is where the destination is or above. -/
theorem onTheWay_of_above {base : FileTree} (above : base.Above (overlay.Assigns top? entries) route) :
    overlay.OnTheWay top? entries (base.resolve overlay.destination) route ∨
      route ∈ (base.resolve overlay.destination).ancestors := by
  obtain ⟨path, target, ⟨entry, member, aimed⟩, near, among⟩ := above
  obtain ⟨rest, some, read, rfl⟩ := target?_eq_some.mp aimed
  have components : (overlay.placeOf rest).components = _ := Path.components_join_names overlay.destination
    fun name among => plainName_of_names? read name (List.mem_append_right _ among)
  obtain ⟨way, begins, components⟩ : ∃ way, way <+: rest ∧
      path.components = overlay.destination.components ++ way.map .name := by
    rcases near with rfl | climbed
    · exact ⟨rest, List.prefix_rfl, components⟩
    · exact ⟨rest.dropLast, List.dropLast_prefix rest, Path.components_parent_append_names some components climbed⟩
  rw [FileTree.resolve_append_names components, Route.mem_ancestors_append_names] at among
  exact among.imp_left fun ⟨names, some, onward, same⟩ =>
    ⟨entry, member, rest, read, names, some, onward.trans begins, same⟩

/-- Nothing differs but what leads to the place of an entry, and where the destination is or above if it was missing. -/
theorem placeAll_onTheWay (ran : (overlay.placeAll top? written entries).apply session = (outcome, left))
    (differs : left.files.inner.get? route ≠ session.files.inner.get? route) :
    overlay.OnTheWay top? entries (session.files.inner.resolve overlay.destination) route ∨
      route ∈ (session.files.inner.resolve overlay.destination).ancestors ∧ session.files.inner.get? route = none := by
  by_contra apart
  rw [not_or, not_and] at apart
  refine differs ?_
  have places := (placeAll_places top? written entries).advances ran
  have within : ∀ manifest, session.Advances (Event.Within manifest (overlay.Assigns top? entries)) left :=
    fun manifest => places.weaken fun _ ⟨_, assigns, places⟩ => places.within assigns
  -- No manifest is touched, so that any one elsewhere will do.
  obtain ⟨manifest, other⟩ : ∃ manifest, route ≠ session.files.inner.resolve manifest := by
    by_cases root : route = [.root]
    · refine ⟨⟨"/x"⟩, ?_⟩
      rw [root, FileTree.resolve, if_pos (by decide)]
      decide
    · refine ⟨⟨"/"⟩, ?_⟩
      rw [FileTree.resolve, if_pos (by decide)]
      exact root
  refine (within manifest).keepsTo.leavesAlone.get?_eq_of_present other ?_ fun above =>
    apart.2 ((onTheWay_of_above above).resolve_left apart.1)
  rintro target ⟨entry, member, aimed⟩ same
  obtain ⟨rest, some, read, rfl⟩ := target?_eq_some.mp aimed
  rw [resolve_placeOf _ fun name among => plainName_of_names? read name (List.mem_append_right _ among)] at same
  exact apart.1 ⟨entry, member, rest, read, rest, some, List.prefix_rfl, same.symm⟩

end

/-! ## Exact layouts -/

/-- One tree is another one overlaid exactly with some entries. -/
structure Overlays (overlay : Overlay) (top? : Option String) (entries : List Archive.Entry) (before after : FileTree) :
    Prop where
  /-- Every file that goes somewhere, and no later file with it, is there with its bytes. -/
  file : ∀ earlier entry later target, entries = earlier ++ entry :: later → entry.isDirectory = false →
    overlay.target? (Archive.below top? entry.path) = .ok (some target) →
    (∀ other ∈ later, other.isDirectory = false →
      overlay.target? (Archive.below top? other.path) ≠ .ok (some target)) →
    ∃ contents, entry.contents? = some contents ∧ after.get? (before.resolve target) = some (.file contents)
  /-- Every directory that goes somewhere is there. -/
  directory : ∀ entry ∈ entries, entry.isDirectory = true → ∀ target,
    overlay.target? (Archive.below top? entry.path) = .ok (some target) →
    after.get? (before.resolve target) = some .directory
  /-- A file to whose place no entry goes stays as it is. -/
  kept : ∀ route contents, before.get? route = some (.file contents) →
    (∀ target, overlay.Assigns top? entries target → before.resolve target ≠ route) →
    after.get? route = some (.file contents)
  /-- There is no other file. -/
  only : ∀ route contents, after.get? route = some (.file contents) →
    (∃ target, overlay.Brings top? entries target contents ∧ before.resolve target = route) ∨
      (before.get? route = some (.file contents) ∧
        ∀ target, overlay.Assigns top? entries target → before.resolve target ≠ route)

/-- Entries that are put to their places one after another overlay the tree. -/
theorem Puts.overlays (puts : overlay.Puts top? entries tree after) : overlay.Overlays top? entries tree after where
  file := by
    rintro earlier entry later target rfl file aimed last
    obtain ⟨node, read⟩ := puts.node?_of_mem (by simp) aimed
    obtain ⟨contents, told, rfl⟩ : ∃ contents, entry.contents? = some contents ∧ node = .file contents := by
      rw [Archive.Entry.node?, file] at read
      obtain ⟨contents, told, same⟩ := Option.map_eq_some_iff.mp read
      exact ⟨contents, told, same.symm⟩
    refine ⟨contents, told, puts.file_iff.mpr (.inl ⟨target, ?_, rfl⟩)⟩
    exact ⟨earlier, entry, later, rfl, file, aimed, told, last⟩
  directory _ member directory _ aimed := puts.get?_of_mem_directory member directory aimed
  kept route contents found apart :=
    puts.file_iff.mpr (.inr ⟨fun entry member _ target aimed => apart target ⟨entry, member, aimed⟩, found⟩)
  only route contents found := by
    refine (puts.file_iff.mp found).imp_right ?_
    rintro ⟨spares, before⟩
    refine ⟨before, ?_⟩
    rintro target ⟨entry, member, aimed⟩ rfl
    cases kind : entry.isDirectory with
    | false => exact spares entry member kind target aimed rfl
    | true =>
      rw [puts.get?_of_mem_directory member kind aimed] at found
      cases found

/-- An archive that is extracted is overlaid exactly, and every entry that goes somewhere counts once. Whatever differs
lies on the way to the place of an entry, or is where the destination is or above if it was missing. -/
theorem extract_overlays {data : ByteArray} {session left : Session (Faulty FileTree)} {count : Nat}
    (ran : (overlay.extract unpack data).apply session = (.ok count, left)) :
    ∃ entries, Archive.entries unpack data = .ok entries ∧
      overlay.Overlays (Archive.commonTop? entries) entries session.files.inner left.files.inner ∧
      count = entries.countP (overlay.takes (Archive.commonTop? entries)) ∧
      ∀ route, left.files.inner.get? route ≠ session.files.inner.get? route →
        overlay.OnTheWay (Archive.commonTop? entries) entries (session.files.inner.resolve overlay.destination) route ∨
          route ∈ (session.files.inner.resolve overlay.destination).ancestors ∧
            session.files.inner.get? route = none := by
  unfold extract at ran
  cases read : Archive.entries unpack data with
  | error obstacle =>
    rw [read] at ran
    cases ran
  | ok entries =>
    rw [read] at ran
    exact ⟨entries, rfl, (placeAll_puts ran).overlays, by simpa using placeAll_count ran,
      fun _ differs => placeAll_onTheWay ran differs⟩

/-- An archive that holds one file twice, under two paths, and another one in a directory that it does not list. -/
def repeatedZip : ByteArray :=
  storedMembers [("r/a", 0o100644, "old"), ("r/./a", 0o100644, "new"), ("r/b/c", 0o100644, "c")]

/-- A directory with a file of its own. -/
def ownedSession : Session (Faulty FileTree) :=
  { Acquisition.emptySession with
    files := { Acquisition.emptySession.files with
      inner := (FileTree.new ⟨"/app"⟩).withFile ⟨"/app/own"⟩ "own".toUTF8 } }

/-- The entries of the archive. -/
def repeatedEntries : List Archive.Entry :=
  [{ path := ⟨"r/a"⟩, mode? := some 0o100644, contents? := some "old".toUTF8 },
    { path := ⟨"r/./a"⟩, mode? := some 0o100644, contents? := some "new".toUTF8 },
    { path := ⟨"r/b/c"⟩, mode? := some 0o100644, contents? := some "c".toUTF8 }]

private theorem entries_repeatedZip :
    Archive.entries .nothing repeatedZip = .ok repeatedEntries ∧
      ∀ entry ∈ repeatedEntries,
        target? ⟨⟨"/app"⟩, []⟩ (Archive.below (Archive.commonTop? repeatedEntries) entry.path) =
          .ok (some (if entry.path = ⟨"r/b/c"⟩ then ⟨"/app/b/c"⟩ else ⟨"/app/a"⟩)) := by
  decide +kernel

/-- The later one of two files at one place is left, both of them count, and the file that was there stays. -/
theorem extract_overlays_repeated :
    ∃ left, ((⟨⟨"/app"⟩, []⟩ : Overlay).extract .nothing repeatedZip).apply ownedSession = (.ok 3, left) ∧
      left.files.inner.get? (ownedSession.files.inner.resolve ⟨"/app/a"⟩) = some (.file "new".toUTF8) ∧
      left.files.inner.get? (ownedSession.files.inner.resolve ⟨"/app/own"⟩) = some (.file "own".toUTF8) := by
  obtain ⟨told, aims⟩ := entries_repeatedZip
  have counted : (((⟨⟨"/app"⟩, []⟩ : Overlay).extract .nothing repeatedZip).apply ownedSession).1 = .ok 3 := by
    rw [extract, told]
    decide +kernel
  rcases ran : ((⟨⟨"/app"⟩, []⟩ : Overlay).extract .nothing repeatedZip).apply ownedSession with ⟨outcome, left⟩
  obtain rfl : outcome = .ok 3 := (congrArg Prod.fst ran).symm.trans counted
  obtain ⟨entries, read, overlays, _⟩ := extract_overlays ran
  obtain rfl : repeatedEntries = entries := Except.ok.inj (told.symm.trans read)
  refine ⟨left, rfl, ?_, overlays.kept _ _ (FileTree.read_eq_ok.mp (by decide +kernel)) ?_⟩
  · obtain ⟨contents, held, found⟩ :=
      overlays.file [_] _ [_] ⟨"/app/a"⟩ rfl rfl (aims _ (by simp [repeatedEntries])) (by decide +kernel)
    rw [found, ← Option.some.inj held]
  · rintro target ⟨entry, member, aimed⟩
    rw [aims entry member, Except.ok.injEq, Option.some.injEq] at aimed
    rw [← aimed]
    split <;> decide +kernel

end Overlay

end Scaffold
