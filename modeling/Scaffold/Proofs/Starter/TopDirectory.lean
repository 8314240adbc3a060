import Scaffold.Proofs.Starter.Containment
import Scaffold.Proofs.Starter.Laying

/-! # The directory at the top

The directory in which all of an archive lies is left out of the paths that open with it. A path that opens with the
current directory lies in the same directory, but keeps it: what stands under such a path is laid out one directory
deeper than what stands beside it in the archive.
-/

namespace Scaffold

/-! ## Archives in one directory -/

/-- All entries lie in one directory at the top, or are this directory. -/
structure Archive.Topped (top : String) (entries : List Archive.Entry) : Prop where
  inhabited : entries ≠ []
  within : ∀ entry ∈ entries, ∃ names, Overlay.names? entry.path = some (top :: names) ∧
    (names = [] → entry.isDirectory = true)

namespace Archive

variable {top : String} {entries : List Entry}

/-- The current directory does not count when the directory at the top is looked for. -/
theorem Topped.commonTop? (topped : Topped top entries) : commonTop? entries = some top := by
  have same : ∀ entry ∈ entries, top? entry = some top := by
    intro entry member
    obtain ⟨names, read, directory⟩ := topped.within entry member
    rw [top?, Overlay.names?_eq_some.mp read]
    cases names with
    | nil => simp [directory rfl]
    | cons _ _ => simp
  obtain ⟨first, rest, rfl⟩ := List.exists_cons_of_ne_nil topped.inhabited
  rw [Archive.commonTop?, List.map_cons, same first List.mem_cons_self]
  refine if_pos (List.all_eq_true.mpr fun told member => ?_)
  obtain ⟨entry, among, rfl⟩ := List.mem_map.mp member
  exact decide_eq_true (same entry (List.mem_cons_of_mem _ among))

/-- Where it is left out, the current directory counts: a path that opens with it stays as it is. -/
theorem names?_below {path : Path} {names : List String} (read : Overlay.names? path = some (top :: names)) :
    Overlay.names? (below (some top) path) = some (if path.Dotted then top :: names else names) := by
  have within := Overlay.names?_eq_some.mp read
  rcases path.below?_cases top with ⟨rest, cut, components⟩ | ⟨uncut, other⟩
  · have opens : ¬ path.Dotted := by simp [Path.Dotted, components]
    rw [if_neg opens, below, Option.bind_some, cut, Option.getD_some, Overlay.names?_eq_some]
    rw [components, List.filter_cons_of_pos (by simp), List.map_cons] at within
    exact (List.cons.inj within).2
  · have opens : path.Dotted := by
      refine Decidable.byContradiction fun undotted => ?_
      cases components : path.components with
      | nil => simp [components] at within
      | cons first rest =>
        rw [Path.Dotted, components, List.head?_cons] at undotted
        rw [components, List.filter_cons_of_pos (by simpa using undotted), List.map_cons] at within
        rw [components, (List.cons.inj within).1] at other
        exact other rfl
    rw [if_pos opens, below, Option.bind_some, uncut, Option.getD_none, read]

end Archive

/-! ## What is taken -/

namespace Overlay

/-- An entry of an archive that lies in one directory is taken under some names below the destination. -/
def Takes (overlay : Overlay) (top : String) (entry : Archive.Entry) (rest : List String) : Prop :=
  rest ≠ [] ∧ names? entry.path =
    some (if entry.path.Dotted then overlay.subDirectory ++ rest else top :: (overlay.subDirectory ++ rest))

variable {overlay : Overlay} {top : String} {entry : Archive.Entry} {entries : List Archive.Entry} {target : Path}

theorem Takes.plainName {rest : List String} (takes : overlay.Takes top entry rest) :
    ∀ name ∈ rest, PlainName name := by
  intro name member
  refine plainName_of_names? takes.2 name ?_
  split
  · exact List.mem_append_right _ member
  · exact List.mem_cons_of_mem _ (List.mem_append_right _ member)

/-- What is taken is what goes to a place. -/
theorem target?_eq_some_iff_takes (topped : Archive.Topped top entries) (member : entry ∈ entries) :
    overlay.target? (Archive.below (some top) entry.path) = .ok (some target) ↔
      ∃ rest, overlay.Takes top entry rest ∧ overlay.placeOf rest = target := by
  obtain ⟨names, read, _⟩ := topped.within entry member
  rw [target?_eq_some, Archive.names?_below read]
  unfold Takes
  rw [read]
  by_cases dotted : entry.path.Dotted <;> simp [dotted, and_assoc]

theorem Takes.resolve_placeOf {rest : List String} (takes : overlay.Takes top entry rest) (tree : FileTree) :
    tree.resolve (overlay.placeOf rest) = tree.resolve overlay.destination ++ rest.map .name :=
  Overlay.resolve_placeOf tree takes.plainName

section

variable (rooted : overlay.destination.isAbsolute = true)
include rooted

/-- A layout changes below the destination only what is on the way to an entry that it takes. -/
theorem placeAll_get?_apart (topped : Archive.Topped top entries) {written : Nat}
    {session after : Session (Faulty FileTree)} {outcome : Except Interruption Nat}
    (ran : (overlay.placeAll (some top) written entries).apply session = (outcome, after)) {names : List String}
    (below : names ≠ [])
    (apart : ∀ entry ∈ entries, ∀ rest, overlay.Takes top entry rest → ¬ names <+: rest) :
    after.files.inner.get? (session.files.inner.resolve overlay.destination ++ names.map .name) =
      session.files.inner.get? (session.files.inner.resolve overlay.destination ++ names.map .name) := by
  have within : session.Advances (Event.Within overlay.destination (overlay.Assigns (some top) entries)) after :=
    ((placeAll_places (some top) written entries).advances ran).weaken
      fun _ ⟨_, assigns, places⟩ => places.within assigns
  have alone := within.keepsTo.leavesAlone
  refine alone.get?_eq_of_present ?_ ?_ ?_
  · intro same
    exact below (Route.append_names_inj.mp (same.trans (List.append_nil _).symm))
  · rintro target ⟨entry, member, aimed⟩ same
    obtain ⟨rest, takes, rfl⟩ := (target?_eq_some_iff_takes topped member).mp aimed
    rw [takes.resolve_placeOf] at same
    exact apart entry member rest takes (Route.append_names_inj.mp same ▸ List.prefix_rfl)
  · rintro ⟨path, target, ⟨entry, member, aimed⟩, above, among⟩
    obtain ⟨rest, takes, rfl⟩ := (target?_eq_some_iff_takes topped member).mp aimed
    have components := (components_placeOf rooted takes.plainName).2
    -- What is made for an entry is on the way to it.
    obtain ⟨way, begins, components⟩ : ∃ way, way <+: rest ∧
        path.components = overlay.destination.components ++ way.map .name := by
      rcases above with rfl | climbed
      · exact ⟨rest, List.prefix_rfl, components⟩
      · exact ⟨rest.dropLast, List.dropLast_prefix rest,
          Path.components_parent_append_names takes.1 components climbed⟩
    rw [FileTree.resolve_append_names components, Route.mem_ancestors_append_names] at among
    rcases among with ⟨opening, _, onward, same⟩ | among
    · exact absurd (Route.append_names_inj.mp same ▸ onward.trans begins) (apart entry member rest takes)
    · have short := Route.length_le_of_mem_ancestors among
      have long := List.length_pos_iff.mpr below
      rw [List.length_append, List.length_map] at short
      omega

/-- An archive that lies in one directory is laid out without it, but for the entries whose paths open with the current
directory, which keep it: each entry that is taken is found under its names below the destination, unless a later file
is taken under the same ones, and nothing else below the destination changes but the directories on the way. -/
theorem extract_strips {unpack : Archive.Unpack} {data : ByteArray}
    (read : Archive.entries unpack data = .ok entries)
    (topped : Archive.Topped top entries) {session after : Session (Faulty FileTree)} {count : Nat}
    (ran : (overlay.extract unpack data).apply session = (.ok count, after)) :
    (∀ earlier entry later rest, entries = earlier ++ entry :: later → overlay.Takes top entry rest →
      (∀ other ∈ later, other.isDirectory = false → ¬ overlay.Takes top other rest) →
      ∃ node, entry.node? = some node ∧
        after.files.inner.get? (session.files.inner.resolve overlay.destination ++ rest.map .name) = some node) ∧
    ∀ names, names ≠ [] → (∀ entry ∈ entries, ∀ rest, overlay.Takes top entry rest → ¬ names <+: rest) →
      after.files.inner.get? (session.files.inner.resolve overlay.destination ++ names.map .name) =
        session.files.inner.get? (session.files.inner.resolve overlay.destination ++ names.map .name) := by
  rw [extract, read] at ran
  dsimp only at ran
  rw [topped.commonTop?] at ran
  refine ⟨?_, fun names below apart => placeAll_get?_apart rooted topped ran below apart⟩
  rintro earlier entry later rest rfl takes last
  have member : entry ∈ earlier ++ entry :: later := by simp
  have aimed := (target?_eq_some_iff_takes topped member).mpr ⟨rest, takes, rfl⟩
  obtain ⟨node, told, found⟩ := (placeAll_puts ran).get?_of_last aimed fun other among file place aimed same => by
    obtain ⟨names, taken, rfl⟩ := (target?_eq_some_iff_takes topped (by simp [among])).mp aimed
    rw [taken.resolve_placeOf, takes.resolve_placeOf, Route.append_names_inj] at same
    exact last other among file (same ▸ taken)
  rw [takes.resolve_placeOf] at found
  exact ⟨node, told, found⟩

end

/-! ## A directory that is kept -/

/-- A tape archive of one empty file. -/
def emptyFileTape (path : String) : ByteArray :=
  let field (width : Nat) (bytes : List Nat) : List Nat := bytes ++ List.replicate (width - bytes.length) 0
  let opening := field 124 (Archive.ascii path) ++ field 24 (Archive.ascii "0")
  let closing := field 101 (Archive.ascii "0") ++ field 255 (Archive.ascii "ustar" ++ [0] ++ Archive.ascii "00")
  let sum := (opening ++ closing).foldl (· + ·) (8 * ' '.toNat)
  ⟨((opening ++ field 8 ((Nat.toDigits 8 sum).map Char.toNat) ++ closing).map Nat.toUInt8).toArray⟩

/-- The only entry opens with the current directory. -/
def dottedTape : ByteArray := emptyFileTape "./r/a"

private theorem entries_dottedTape : Archive.entries .nothing dottedTape = .ok [{ path := ⟨"./r/a"⟩ }] := by
  have form : Archive.format? dottedTape = some .tar := by decide +kernel
  have size : dottedTape.size / Archive.Tar.blockSize = 1 := by decide +kernel
  have listed : Archive.Tar.entries? ⟨dottedTape, true⟩ = some [{ path := ⟨"./r/a"⟩ }] := by
    rw [Archive.Tar.entries?]
    dsimp only
    rw [size, Archive.Tar.entriesFrom]
    simp only [Archive.Tar.block?, Archive.slice?, Archive.slice_eq, Archive.toList_eq, Archive.Tar.isIntact,
      Archive.Tar.memberPath, Archive.Tar.pathIn, Archive.Tar.isZero, Archive.Tar.untilZero, Archive.Tar.octal?,
      Archive.Tar.length?, Archive.Tar.bigEndian]
    decide +kernel
  rw [Archive.entries, form]
  dsimp only
  rw [Archive.tarEntries, listed]

private theorem topped_dottedTape : Archive.Topped "r" [{ path := ⟨"./r/a"⟩ }] where
  inhabited := nofun
  within entry member := by
    obtain rfl := List.mem_singleton.mp member
    exact ⟨["a"], by decide +kernel, nofun⟩

private theorem extract_dottedTape :
    ∃ after, (Overlay.extract ⟨⟨"/app"⟩, []⟩ .nothing dottedTape).apply Acquisition.emptySession = (.ok 1, after) ∧
      after.files.inner.get? [.root, .name "app", .name "a"] = none := by
  have laid : (Overlay.extract ⟨⟨"/app"⟩, []⟩ .nothing dottedTape : Run (Faulty FileTree) _ _) =
      Overlay.placeAll ⟨⟨"/app"⟩, []⟩ (some "r") 0 [{ path := ⟨"./r/a"⟩ }] := by
    rw [extract, entries_dottedTape]
    dsimp only
    rw [topped_dottedTape.commonTop?]
  have returned : ((Overlay.placeAll ⟨⟨"/app"⟩, []⟩ (some "r") 0 [{ path := ⟨"./r/a"⟩ }]).apply
      Acquisition.emptySession).1 = .ok 1 := by decide +kernel
  have absent : ((Overlay.placeAll ⟨⟨"/app"⟩, []⟩ (some "r") 0 [{ path := ⟨"./r/a"⟩ }]).apply
      Acquisition.emptySession).2.files.inner.get? [.root, .name "app", .name "a"] = none := by decide +kernel
  rcases ran : (Overlay.extract ⟨⟨"/app"⟩, []⟩ .nothing dottedTape).apply Acquisition.emptySession with ⟨outcome, after⟩
  rw [← laid, ran] at returned absent
  exact ⟨after, Prod.ext returned rfl, absent⟩

/-- All of the archive lies in one directory, but its file is not laid out without it. -/
theorem dottedTape_keeps_directory :
    Archive.entries .nothing dottedTape = .ok [{ path := ⟨"./r/a"⟩ }] ∧ Archive.Topped "r" [{ path := ⟨"./r/a"⟩ }] ∧
      ∃ after, (Overlay.extract ⟨⟨"/app"⟩, []⟩ .nothing dottedTape).apply Acquisition.emptySession = (.ok 1, after) ∧
        after.files.inner.get? [.root, .name "app", .name "a"] = none :=
  ⟨entries_dottedTape, topped_dottedTape, extract_dottedTape⟩

/-- The file is found in the directory that was kept. -/
theorem extract_strips_dottedTape :
    (⟨"/app"⟩ : Path).isAbsolute = true ∧ Archive.entries .nothing dottedTape = .ok [{ path := ⟨"./r/a"⟩ }] ∧
      Archive.Topped "r" [{ path := ⟨"./r/a"⟩ }] ∧
      ∃ after, (Overlay.extract ⟨⟨"/app"⟩, []⟩ .nothing dottedTape).apply Acquisition.emptySession = (.ok 1, after) ∧
        after.files.inner.get? [.root, .name "app", .name "r", .name "a"] = some (.file ByteArray.empty) := by
  obtain ⟨after, ran, _⟩ := extract_dottedTape
  refine ⟨rfl, entries_dottedTape, topped_dottedTape, after, ran, ?_⟩
  obtain ⟨node, told, found⟩ := (extract_strips rfl entries_dottedTape topped_dottedTape ran).1
    [] _ [] ["r", "a"] rfl ⟨nofun, by decide +kernel⟩ nofun
  obtain rfl := Option.some.inj told
  exact found

end Overlay

end Scaffold
