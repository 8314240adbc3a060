import Scaffold.Proofs.Archive.Bytes
import Scaffold.Proofs.Files.Frame
import Scaffold.Proofs.Starter.Untouched

/-! # Layouts stay inside their destination

Every path that a layout makes a call for is the destination followed by names, but for the destination itself, which
is made as the directory of a file. So whatever is laid out and whatever faults strike, nothing changes outside of a
destination that stands. An entry whose path escapes once the directory at the top is left out stops the layout: what
was laid out until then belongs to the entries in front of it.
-/

namespace Scaffold

/-! ## Below a path -/

/-- A path goes on from another one by names, at least one of them. -/
def Path.LeadsTo (base path : Path) : Prop :=
  ∃ names, names ≠ [] ∧ path.components = base.components ++ names.map .name

theorem Path.LeadsTo.parent {base path parent : Path} (leads : base.LeadsTo path) (climbed : path.parent? = some parent) :
    ∃ names : List String, parent.components = base.components ++ names.map .name := by
  obtain ⟨names, some, components⟩ := leads
  exact ⟨names.dropLast, Path.components_parent_append_names some components climbed⟩

/-- An event that stays inside a destination: a call for a path to which it leads, or one that makes the destination
itself as the directory of such a path. -/
def Event.StaysInside (destination : Path) : Event → Prop
  | .files (.createDirs path) _ =>
    destination.LeadsTo path ∨
      path.components = destination.components ∧ ∃ target, destination.LeadsTo target ∧ target.parent? = some path
  | .files (.write path _) _ => destination.LeadsTo path
  | .files (.setMode path _) _ => destination.LeadsTo path
  | _ => False

theorem Event.Places.staysInside {destination target : Path} {event : Event} (leads : destination.LeadsTo target)
    (places : event.Places target) : event.StaysInside destination := by
  cases event with
  | files call _ =>
    cases call with
    | createDirs path =>
      rcases places with rfl | climbed
      · exact .inl leads
      · obtain ⟨names, components⟩ := leads.parent climbed
        by_cases none : names = []
        · subst none
          exact .inr ⟨by simpa using components, target, leads, climbed⟩
        · exact .inl ⟨names, none, components⟩
    | write path _ => exact places ▸ leads
    | setMode path _ => exact places ▸ leads
    | _ => exact places
  | _ => exact places

theorem Event.StaysInside.within {destination : Path} {event : Event} (stays : event.StaysInside destination) :
    event.Within destination destination.LeadsTo := by
  cases event with
  | files call _ =>
    cases call with
    | createDirs path =>
      rcases stays with leads | ⟨_, target, leads, climbed⟩
      · exact ⟨path, leads, .inl rfl⟩
      · exact ⟨target, leads, .inr climbed⟩
    | write path _ => exact .inr stays
    | setMode path _ => exact stays
    | _ => exact stays.elim
  | _ => exact stays.elim

/-! ## Outside of a destination -/

/-- There is something at a path and everywhere above it. -/
def FileTree.Stands (tree : FileTree) (path : Path) : Prop :=
  ∀ above ∈ (tree.resolve path).ancestors, tree.get? above ≠ none

/-- What exists in a well-formed tree stands. -/
theorem FileTree.WellFormed.stands {tree : FileTree} {path : Path} (wellFormed : tree.WellFormed)
    (bound : tree.get? (tree.resolve path) ≠ none) : tree.Stands path :=
  Route.forall_ancestors (fun above => tree.get? above ≠ none) bound fun {_ _} below climbed => by
    rw [isDirectoryAt_iff.mp (wellFormed.closed below climbed)]
    nofun

/-- A session that stays inside a destination changes nothing elsewhere, as long as the destination stands. -/
theorem Session.KeepsTo.get?_outside {destination : Path} {before after : Session (Faulty FileTree)}
    (keeps : before.KeepsTo (Event.StaysInside destination) after)
    (stands : before.files.inner.Stands destination) {route : Route}
    (outside : ¬ before.files.inner.resolve destination <+: route) :
    after.files.inner.get? route = before.files.inner.get? route := by
  have alone := (keeps.weaken fun _ stays => stays.within).leavesAlone
  refine alone.get?_eq_of_present (fun same => outside (same ▸ List.prefix_rfl)) ?_ ?_
  · rintro target ⟨names, _, components⟩ rfl
    rw [FileTree.resolve_append_names components] at outside
    exact outside (List.prefix_append ..)
  · rintro ⟨path, target, leads, above, member⟩
    -- What is made for a place below the destination is below it, too, or was there.
    obtain ⟨names, components⟩ : ∃ names : List String, path.components = destination.components ++ names.map .name := by
      rcases above with rfl | climbed
      · obtain ⟨names, _, components⟩ := leads
        exact ⟨names, components⟩
      · exact leads.parent climbed
    rw [FileTree.resolve_append_names components] at member
    rcases Route.mem_ancestors_append_names.mp member with ⟨opening, _, _, rfl⟩ | member
    · exact absurd (List.prefix_append ..) outside
    · exact stands route member

/-! ## Entries that escape -/

namespace Archive

/-- An entry of which only its path and its kind are told. -/
def Entry.outline (entry : Entry) : Entry := { path := entry.path, isDirectory := entry.isDirectory }

/-- The paths and the kinds of what an archive lists, whether it can be laid out or not. -/
def listing? (data : ByteArray) : Option (List Entry) :=
  match format? data with
  | none => none
  | some .zip =>
    (Zip.directoryBefore? data data.size).map fun members =>
      (members.foldl (fun members member => Zip.placeMember member members) []).map fun member =>
        { path := ⟨member.name⟩, isDirectory := Zip.namesDirectory member.name }
  | some .compressedTar => (Tar.entries? (Gzip.stream data)).map (List.map Entry.outline)
  | some .tar => (Tar.entries? ⟨data, true⟩).map (List.map Entry.outline)

variable {unpack : Unpack} {data : ByteArray} {entries : List Entry}

theorem tarEntries_eq_ok {stream : Stream} (read : tarEntries stream = .ok entries) :
    Tar.entries? stream = some entries := by
  unfold tarEntries at read
  split at read
  · exact (Except.ok.inj read) ▸ ‹_›
  · cases read

theorem Zip.outline_entryOf {member : Zip.Member} {entry : Entry} (read : Zip.entryOf unpack data member = .ok entry) :
    entry.outline = { path := ⟨member.name⟩, isDirectory := Zip.namesDirectory member.name } := by
  unfold Zip.entryOf at read
  split at read
  · cases read
  · split at read
    · cases read
      rfl
    · cases read

theorem listing?_of_entries (read : Archive.entries unpack data = .ok entries) :
    listing? data = some (entries.map Entry.outline) := by
  rw [Archive.entries] at read
  rw [listing?]
  revert read
  rcases format? data with _ | _ | _ | _ <;> intro read
  case none => cases read
  case some.zip =>
    dsimp only at read ⊢
    rw [Zip.entries] at read
    cases members : Zip.directoryBefore? data data.size with
    | none => simp [members] at read
    | some members =>
      rw [members] at read
      exact congrArg some (map_eq_of_mapM_eq_ok read fun _ _ => Zip.outline_entryOf).symm
  case some.compressedTar =>
    dsimp only at read ⊢
    rw [tarEntries_eq_ok read]
    rfl
  case some.tar =>
    dsimp only at read ⊢
    rw [tarEntries_eq_ok read]
    rfl

theorem commonTop?_outline : commonTop? (entries.map Entry.outline) = commonTop? entries := by
  rw [commonTop?, List.map_map]
  rfl

end Archive

namespace Overlay

variable {σ : Type} [Storage σ] {overlay : Overlay} {top? : Option String} {entry : Archive.Entry}
  {entries earlier later : List Archive.Entry} {session after : Session σ} {outcome : Except Interruption Nat}

omit [Storage σ] in
theorem assigns_outline {target : Path} :
    overlay.Assigns top? (entries.map Archive.Entry.outline) target ↔ overlay.Assigns top? entries target := by
  constructor
  · rintro ⟨_, member, aimed⟩
    obtain ⟨entry, among, rfl⟩ := List.mem_map.mp member
    exact ⟨entry, among, aimed⟩
  · rintro ⟨entry, among, aimed⟩
    exact ⟨entry.outline, List.mem_map_of_mem among, aimed⟩

/-- A layout lays out one entry after another. -/
theorem placeAll_append (top? : Option String) (written : Nat) (earlier later : List Archive.Entry) :
    (overlay.placeAll top? written (earlier ++ later) : Run σ _ _) =
      overlay.placeAll top? written earlier >>= fun count => overlay.placeAll top? count later := by
  induction earlier generalizing written with
  | nil => rw [placeAll, pure_bind, List.nil_append]
  | cons entry rest ih =>
    rw [List.cons_append, placeAll, placeAll, bind_assoc]
    exact bind_congr fun count => ih count

/-- An entry that escapes stops a layout before any call for it. -/
theorem placeAll_of_escapes {written : Nat} (escapes : (Archive.below top? entry.path).Escapes)
    (ran : (overlay.placeAll top? written (earlier ++ entry :: later)).apply session = (outcome, after)) :
    (∃ interruption, outcome = .error interruption) ∧
      session.Advances (fun event => ∃ target, overlay.Assigns top? earlier target ∧ event.Places target) after := by
  rw [placeAll_append] at ran
  rcases Run.bind_cases ran with ⟨interruption, rfl, failed⟩ | ⟨count, middle, placed, ran⟩
  · exact ⟨⟨interruption, rfl⟩, (placeAll_places _ _ _).advances failed⟩
  · have refused : (overlay.place top? count entry).apply middle =
        (.error ⟨.unsafePath (Archive.below top? entry.path), count⟩, middle) := by
      rw [place, target?_eq_error.mpr ⟨escapes, rfl⟩]
      rfl
    rw [placeAll, Run.apply_bind_of_error refused] at ran
    obtain ⟨rfl, rfl⟩ := Prod.mk.inj ran
    exact ⟨⟨_, rfl⟩, (placeAll_places _ _ _).advances placed⟩

/-- No archive that lists an entry that escapes is extracted, and nothing is laid out for that entry. -/
theorem extract_of_escapes {unpack : Archive.Unpack} {data : ByteArray}
    (listed : Archive.listing? data = some (earlier ++ entry :: later))
    (escapes : (Archive.below (Archive.commonTop? (earlier ++ entry :: later)) entry.path).Escapes)
    (ran : (overlay.extract unpack data).apply session = (outcome, after)) :
    (∃ interruption, outcome = .error interruption) ∧
      session.Advances (fun event => ∃ target,
        overlay.Assigns (Archive.commonTop? (earlier ++ entry :: later)) earlier target ∧ event.Places target) after := by
  unfold extract at ran
  cases read : Archive.entries unpack data with
  | error obstacle =>
    rw [read] at ran
    obtain ⟨rfl, rfl⟩ := Prod.mk.inj ran
    exact ⟨⟨_, rfl⟩, .refl _⟩
  | ok entries =>
    rw [read] at ran
    rw [Archive.listing?_of_entries read, Option.some.injEq] at listed
    rw [← listed, Archive.commonTop?_outline] at escapes ⊢
    obtain ⟨front, rest, rfl, rfl, others⟩ := List.map_eq_append_iff.mp listed
    obtain ⟨last, back, rfl, rfl, rfl⟩ := List.map_eq_cons_iff.mp others
    have escapes : (Archive.below (Archive.commonTop? (front ++ last :: back)) last.path).Escapes := escapes
    obtain ⟨failed, advance⟩ := placeAll_of_escapes escapes ran
    exact ⟨failed, advance.weaken fun _ ⟨target, assigns, places⟩ => ⟨target, assigns_outline.mpr assigns, places⟩⟩

end Overlay

namespace Acquisition

variable {acquisition : Acquisition} {overlay : Overlay}

/-- The places that are assigned to entries are below the destination. -/
theorem Assigns.leadsTo {target : Path} (rooted : overlay.destination.isAbsolute = true)
    (assigns : acquisition.Assigns overlay target) : overlay.destination.LeadsTo target := by
  obtain ⟨_, _, _, entry, _, aimed⟩ := assigns
  obtain ⟨names, some, read, rfl⟩ := Overlay.target?_eq_some.mp aimed
  refine ⟨names, some, (Overlay.components_placeOf rooted fun name member => ?_).2⟩
  exact Overlay.plainName_of_names? read name (List.mem_append_right _ member)

/-- Whatever is laid out, whatever faults strike and however it ends, every call is for a path below the destination,
or makes the destination as the directory of such a path; nothing changes outside of a destination that stands. An
archive that lists an entry that escapes is not extracted, and no call is made for that entry. -/
theorem layOut_staysInside (rooted : overlay.destination.isAbsolute = true)
    {session after : Session (Faulty FileTree)} {outcome : Except Interruption Nat}
    (ran : (acquisition.layOut overlay).apply session = (outcome, after)) :
    session.Advances (Event.StaysInside overlay.destination) after ∧
      (session.files.inner.Stands overlay.destination →
        ∀ route, ¬ session.files.inner.resolve overlay.destination <+: route →
          after.files.inner.get? route = session.files.inner.get? route) ∧
      ∀ unpack data earlier entry later, acquisition = .archive unpack data →
        Archive.listing? data = some (earlier ++ entry :: later) →
        (Archive.below (Archive.commonTop? (earlier ++ entry :: later)) entry.path).Escapes →
        (∃ interruption, outcome = .error interruption) ∧
          session.Advances (fun event => ∃ target,
            overlay.Assigns (Archive.commonTop? (earlier ++ entry :: later)) earlier target ∧ event.Places target)
            after := by
  have stays : session.Advances (Event.StaysInside overlay.destination) after :=
    ((acquisition.layOut_places overlay).advances ran).weaken fun _ ⟨_, assigns, places⟩ =>
      places.staysInside (assigns.leadsTo rooted)
  refine ⟨stays, fun stands route outside => stays.keepsTo.get?_outside stands outside, ?_⟩
  rintro unpack data earlier entry later rfl listed escapes
  exact Overlay.extract_of_escapes listed escapes ran

/-- A zip archive whose one file leaves it as soon as the directory at the top is left out. -/
def escapingArchive : ByteArray := Devfile.StarterProject.storedArchive "r/../x" ByteArray.empty

/-- An empty directory, and no faults. -/
def emptySession : Session (Faulty FileTree) :=
  { files := { inner := FileTree.new ⟨"/app"⟩, faults := [], special := [], modes := [] }, network := { pages := [] } }

/-- What leaves the archive does not leave the destination. -/
theorem layOut_staysInside_escaping :
    (⟨"/app"⟩ : Path).isAbsolute = true ∧ emptySession.files.inner.Stands ⟨"/app"⟩ ∧
      Archive.listing? escapingArchive = some [{ path := ⟨"r/../x"⟩ }] ∧
      (Archive.below (some "r") ⟨"r/../x"⟩).Escapes ∧
      ∃ interruption after,
        ((archive .nothing escapingArchive).layOut ⟨⟨"/app"⟩, []⟩).apply emptySession = (.error interruption, after) ∧
          after.files.inner.get? [.root, .name "x"] = none := by
  have stands : emptySession.files.inner.Stands ⟨"/app"⟩ :=
    FileTree.WellFormed.stands (by decide +kernel) (by decide +kernel)
  have listed : Archive.listing? escapingArchive = some [{ path := ⟨"r/../x"⟩ }] := by decide +kernel
  have escapes : (Archive.below (some "r") ⟨"r/../x"⟩).Escapes := by decide +kernel
  rcases ran : ((archive .nothing escapingArchive).layOut ⟨⟨"/app"⟩, []⟩).apply emptySession with ⟨outcome, after⟩
  obtain ⟨_, outside, refused⟩ := layOut_staysInside rfl ran
  obtain ⟨⟨interruption, rfl⟩, _⟩ := refused .nothing escapingArchive [] _ [] rfl listed escapes
  refine ⟨rfl, stands, listed, escapes, interruption, after, rfl, ?_⟩
  rw [outside stands _ (by decide +kernel)]
  decide +kernel

end Acquisition

end Scaffold
