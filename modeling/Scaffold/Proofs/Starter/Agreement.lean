import Mathlib.Data.List.Forall2
import Scaffold.Proofs.Archive.Tape
import Scaffold.Proofs.Starter.Containment
import Scaffold.Proofs.Starter.Laying
import Scaffold.Starter.WorkTree

/-! # The same items in a zip archive and in a tape archive

A zip archive and a tape archive of the same directories, files and symbolic links are not laid out alike. A tape
archive is laid out without its links, which also do not count when the directory at the top is looked for. Of a zip
archive each link is laid out as a file that holds where the link leads. Where no link bears on the layout, the two
kinds of archives leave the same tree.
-/

namespace Scaffold

namespace Archive

/-! ## Entries that are alike -/

/-- Entries that are the same but for how their paths are written and for their permission bits. -/
structure Entry.Alike (left right : Entry) : Prop where
  components : left.path.components = right.path.components
  isDirectory : left.isDirectory = right.isDirectory
  node : left.node? = right.node?

/-- Where a path is without the directory at the top depends on its components only. -/
theorem components_below {left right : Path} (same : left.components = right.components) (top? : Option String) :
    (below top? left).components = (below top? right).components := by
  cases top? with
  | none => exact same
  | some top =>
    rw [below, below, Option.bind_some, Option.bind_some]
    rcases left.below?_cases top with ⟨first, cut, begins⟩ | ⟨uncut, other⟩ <;>
      rcases right.below?_cases top with ⟨second, cut', begins'⟩ | ⟨uncut', other'⟩
    · rw [cut, cut']
      exact (List.cons.inj (begins.symm.trans (same.trans begins'))).2
    · rw [← same, begins] at other'
      exact absurd rfl other'
    · rw [same, begins'] at other
      exact absurd rfl other
    · rw [uncut, uncut']
      exact same

theorem Entry.Alike.symm {left right : Entry} (alike : left.Alike right) : right.Alike left :=
  ⟨alike.components.symm, alike.isDirectory.symm, alike.node.symm⟩

theorem Entry.Alike.top? {left right : Entry} (alike : left.Alike right) : top? left = top? right := by
  unfold Archive.top?
  rw [alike.components, alike.isDirectory]

theorem commonTop?_congr {left right : List Entry} (alike : List.Forall₂ Entry.Alike left right) :
    commonTop? left = commonTop? right := by
  have same : left.map top? = right.map top? := by
    induction alike with
    | nil => rfl
    | cons first _ ih => rw [List.map_cons, List.map_cons, first.top?, ih]
  rw [commonTop?, commonTop?, same]

end Archive

namespace Overlay

variable {overlay : Overlay} {top? : Option String} {tree after : FileTree}

theorem target?_congr {left right : Path} {target? : Option Path} (same : left.components = right.components) :
    overlay.target? left = .ok target? ↔ overlay.target? right = .ok target? := by
  have read : names? left = names? right := by rw [names?, names?, same]
  unfold Overlay.target?
  rw [read]
  cases names? right <;> simp

theorem Puts.of_alike {left right : List Archive.Entry} (alike : List.Forall₂ Archive.Entry.Alike left right)
    (puts : overlay.Puts top? left tree after) : overlay.Puts top? right tree after := by
  induction alike generalizing tree with
  | nil => exact puts
  | cons first _ ih =>
    have places {target? : Option Path} : overlay.target? _ = .ok target? ↔ overlay.target? _ = .ok target? :=
      target?_congr (Archive.components_below first.components top?)
    cases puts with
    | skip _ aside puts => exact .skip _ (places.mp aside) (ih puts)
    | put _ target node aimed read done puts =>
      exact .put _ target node (places.mp aimed) (first.node.symm.trans read) done (ih puts)

/-- Entries that are alike go to the same places. -/
theorem puts_congr {left right : List Archive.Entry} (alike : List.Forall₂ Archive.Entry.Alike left right) :
    overlay.Puts top? left tree after ↔ overlay.Puts top? right tree after :=
  ⟨.of_alike alike, .of_alike (alike.imp fun _ _ => Archive.Entry.Alike.symm).flip⟩

end Overlay

/-! ## Items -/

namespace Archive

/-- What is packed under a path. -/
inductive Packed
  | directory
  | file (contents : ByteArray)
  /-- A symbolic link that leads to a path. -/
  | link (target : Path)

/-- A directory, a file or a symbolic link that an archive is made of. -/
structure Item where
  path : Path
  packed : Packed

def Item.isLink (item : Item) : Bool :=
  match item.packed with
  | .link _ => true
  | _ => false

/-- The entry of an item. That of a link is a file that holds where the link leads. -/
def Item.entry (item : Item) : Entry :=
  match item.packed with
  | .directory => { path := item.path, isDirectory := true }
  | .file contents => { path := item.path, contents? := some contents }
  | .link target => { path := item.path, contents? := some target.text.toUTF8 }

def withoutLinks (items : List Item) : List Item := items.filter (!·.isLink)

variable {items : List Item} {item : Item} {unpack : Unpack} {data : ByteArray}

/-! ### Zip archives -/

namespace Zip

/-- The bits of a mode that tell the type of a file. -/
def typeMask : Nat := 0o170000

/-- Whether the mode of an entry is that of a symbolic link. -/
def isLink (entry : Entry) : Bool := entry.mode?.any fun mode => mode &&& typeMask = WorkTree.linkMode

/-- An entry of a zip archive is that of an item. Only the mode tells a link from a file. -/
def Tells (item : Item) (entry : Entry) : Prop :=
  entry.path.components = item.path.components ∧
    match item.packed with
    | .directory => entry.isDirectory = true
    | .file contents => entry.isDirectory = false ∧ isLink entry = false ∧ entry.contents? = some contents
    | .link target => entry.isDirectory = false ∧ isLink entry = true ∧ entry.contents? = some target.text.toUTF8

/-- Data are a zip archive of some items, which are unpacked in some way. -/
def Lists (unpack : Unpack) (items : List Item) (data : ByteArray) : Prop :=
  format? data = some .zip ∧ ∃ entries, Zip.entries unpack data = .ok entries ∧ List.Forall₂ Tells items entries

theorem Tells.alike {entry : Entry} (tells : Tells item entry) : entry.Alike item.entry := by
  obtain ⟨path, packed⟩ := item
  obtain ⟨components, told⟩ := tells
  cases packed with
  | directory => exact ⟨components, told, by rw [Entry.node?, if_pos told]; rfl⟩
  | file contents | link target =>
    obtain ⟨file, _, read⟩ := told
    exact ⟨components, file, by rw [Entry.node?, file, read]; rfl⟩

theorem Lists.entries (lists : Lists unpack items data) :
    ∃ entries, Archive.entries unpack data = .ok entries ∧
      List.Forall₂ Entry.Alike entries (items.map Item.entry) := by
  obtain ⟨form, entries, read, told⟩ := lists
  refine ⟨entries, ?_, ?_⟩
  · rw [Archive.entries, form]
    exact read
  · rw [List.forall₂_map_right_iff]
    exact (told.imp fun _ _ => Tells.alike).flip

end Zip

/-! ### Tape archives -/

namespace Tar

/-- A member of a tape archive is that of an item. Where a link leads stands in its header, at which nothing looks. -/
def Tells (item : Item) (member : Member) : Prop :=
  member.path.components = item.path.components ∧
    match item.packed with
    | .directory => kindOf member.header = .directory
    | .file contents => kindOf member.header = .file ∧ member.contents = contents
    | .link _ => member.isLink = true

/-- What data hold that are a tape archive, perhaps a compressed one. -/
def stream? (data : ByteArray) : Option Stream :=
  match format? data with
  | some .tar => some ⟨data, true⟩
  | some .compressedTar => some (Gzip.stream data)
  | _ => none

/-- Data are a tape archive of some items, and perhaps of members that are neither directories nor files nor links. -/
def Lists (items : List Item) (data : ByteArray) : Prop :=
  ∃ stream members, stream? data = some stream ∧ members? stream = some members ∧
    List.Forall₂ Tells items (listed members)

theorem Tells.isLink {member : Member} (tells : Tells item member) (link : item.isLink = true) :
    member.isLink = true := by
  obtain ⟨path, packed⟩ := item
  cases packed with
  | link target => exact tells.2
  | _ => cases link

theorem Tells.alike {member : Member} (tells : Tells item member) (file : item.isLink = false) :
    ∃ entry, member.entryOf? = some entry ∧ entry.Alike item.entry := by
  obtain ⟨path, packed⟩ := item
  obtain ⟨components, told⟩ := tells
  cases packed with
  | directory => exact ⟨_, Member.entryOf?_of_directory told, components, rfl, rfl⟩
  | file contents =>
    obtain ⟨kind, rfl⟩ := told
    exact ⟨_, Member.entryOf?_of_file kind, components, rfl, rfl⟩
  | link target => cases file

/-- The links among the members are no entries. -/
theorem alike_of_tells {members : List Member} (told : List.Forall₂ Tells items members) :
    List.Forall₂ Entry.Alike (members.filterMap Member.entryOf?) ((withoutLinks items).map Item.entry) := by
  induction told with
  | nil => exact .nil
  | @cons item member items members first _ ih =>
    rw [withoutLinks]
    cases link : item.isLink with
    | true =>
      rw [List.filterMap_cons_none (Member.entryOf?_of_isLink (first.isLink link)),
        List.filter_cons_of_neg (by simp [link])]
      exact ih
    | false =>
      obtain ⟨entry, entered, alike⟩ := first.alike link
      rw [List.filterMap_cons_some entered, List.filter_cons_of_pos (by simp [link])]
      exact .cons alike ih

theorem entries_of_stream? {stream : Stream} (told : stream? data = some stream) :
    Archive.entries unpack data = tarEntries stream := by
  rw [stream?] at told
  rw [Archive.entries]
  revert told
  rcases format? data with _ | _ | _ | _ <;> intro told <;> cases told <;> rfl

theorem Lists.entries (lists : Lists items data) :
    ∃ entries, Archive.entries unpack data = .ok entries ∧
      List.Forall₂ Entry.Alike entries ((withoutLinks items).map Item.entry) := by
  obtain ⟨stream, members, streamed, read, told⟩ := lists
  refine ⟨(listed members).filterMap Member.entryOf?, ?_, alike_of_tells told⟩
  rw [entries_of_stream? streamed, tarEntries, entries?_eq, read, filterMap_listed]
  rfl

end Tar

end Archive

/-! ## Both kinds of archives -/

namespace Overlay

open Archive (Item withoutLinks commonTop?)

variable {overlay : Overlay} {items : List Item} {top? : Option String} {tree after : FileTree}

/-- All items are put to their places, without the directory in which all of them lie. -/
def PutsItems (overlay : Overlay) (items : List Item) (tree after : FileTree) : Prop :=
  overlay.Puts (commonTop? (items.map Item.entry)) (items.map Item.entry) tree after

/-- Lay out items as they are, with a file for each link. -/
def placeItems (overlay : Overlay) (items : List Item) : Run (Faulty FileTree) Interruption Nat :=
  overlay.placeAll (commonTop? (items.map Item.entry)) 0 (items.map Item.entry)

theorem putsItems_of_placeItems {session : Session (Faulty FileTree)} {count : Nat}
    (placed : ((overlay.placeItems items).apply session).1 = .ok count) :
    overlay.PutsItems items session.files.inner ((overlay.placeItems items).apply session).2.files.inner :=
  placeAll_puts (Prod.ext placed rfl)

/-- No link bears on the layout: the directory at the top is the same without the links, and none of them is taken. -/
structure LinksAside (overlay : Overlay) (items : List Item) : Prop where
  top : commonTop? ((withoutLinks items).map Item.entry) = commonTop? (items.map Item.entry)
  skipped : ∀ item ∈ items, item.isLink = true →
    overlay.target? (Archive.below (commonTop? (items.map Item.entry)) item.path) = .ok none

theorem puts_withoutLinks (skipped : ∀ item ∈ items, item.isLink = true →
      overlay.target? (Archive.below top? item.path) = .ok none) :
    overlay.Puts top? (items.map Item.entry) tree after ↔
      overlay.Puts top? ((withoutLinks items).map Item.entry) tree after := by
  induction items generalizing tree with
  | nil => rfl
  | cons item rest ih =>
    have others {tree : FileTree} : overlay.Puts top? (rest.map Item.entry) tree after ↔
        overlay.Puts top? ((withoutLinks rest).map Item.entry) tree after :=
      ih fun other member => skipped other (List.mem_cons_of_mem _ member)
    have path : item.entry.path = item.path := by
      obtain ⟨path, packed⟩ := item
      cases packed <;> rfl
    rw [withoutLinks, List.map_cons]
    cases link : item.isLink with
    | true =>
      have aside := skipped item List.mem_cons_self link
      rw [← path] at aside
      rw [List.filter_cons_of_neg (by simp [link])]
      refine Iff.trans ⟨fun puts => ?_, .skip _ aside⟩ others
      cases puts with
      | skip _ _ puts => exact puts
      | put _ _ _ aimed _ _ _ =>
        rw [aside] at aimed
        cases aimed
    | false =>
      rw [List.filter_cons_of_pos (by simp [link]), List.map_cons]
      constructor
      · intro puts
        cases puts with
        | skip _ aside puts => exact .skip _ aside (others.mp puts)
        | put _ target node aimed read done puts => exact .put _ target node aimed read done (others.mp puts)
      · intro puts
        cases puts with
        | skip _ aside puts => exact .skip _ aside (others.mpr puts)
        | put _ target node aimed read done puts => exact .put _ target node aimed read done (others.mpr puts)

theorem LinksAside.putsItems (aside : overlay.LinksAside items) :
    overlay.PutsItems items tree after ↔ overlay.PutsItems (withoutLinks items) tree after := by
  rw [PutsItems, PutsItems, aside.top]
  exact puts_withoutLinks aside.skipped

section

variable {unpack : Archive.Unpack} {session : Session (Faulty FileTree)} {zipped taped : ByteArray}
  (quiet : session.files.faults = [])
include quiet

theorem unpacks_zip (zip : Archive.Zip.Lists unpack items zipped) :
    overlay.Unpacks unpack zipped session after ↔ overlay.PutsItems items session.files.inner after := by
  obtain ⟨entries, read, alike⟩ := zip.entries
  rw [unpacks_iff_puts quiet read, Archive.commonTop?_congr alike, puts_congr alike, PutsItems]

theorem unpacks_tape (tape : Archive.Tar.Lists items taped) :
    overlay.Unpacks unpack taped session after ↔ overlay.PutsItems (withoutLinks items) session.files.inner after := by
  obtain ⟨entries, read, alike⟩ := tape.entries
  rw [unpacks_iff_puts quiet read, Archive.commonTop?_congr alike, puts_congr alike, PutsItems]

/-- Without faults, a zip archive is laid out with a file for each of its links, and a tape archive of the same items
without its links. Where no link bears on the layout, either both are laid out and leave the same tree, or none is. -/
theorem extract_agrees (zip : Archive.Zip.Lists unpack items zipped) (tape : Archive.Tar.Lists items taped) :
    (∀ after, overlay.Unpacks unpack zipped session after ↔ overlay.PutsItems items session.files.inner after) ∧
    (∀ after, overlay.Unpacks unpack taped session after ↔
      overlay.PutsItems (withoutLinks items) session.files.inner after) ∧
    (overlay.LinksAside items → ∀ after,
      overlay.Unpacks unpack zipped session after ↔ overlay.Unpacks unpack taped session after) := by
  refine ⟨fun after => unpacks_zip quiet zip, fun after => unpacks_tape quiet tape, fun aside after => ?_⟩
  rw [unpacks_zip quiet zip, unpacks_tape quiet tape, aside.putsItems]

end

/-! ## A link that is laid out -/

/-- A file two directories deep, and a link to it. -/
def linkedItems : List Item := [⟨⟨"r/src/a"⟩, .file ByteArray.empty⟩, ⟨⟨"r/l"⟩, .link ⟨"src/a"⟩⟩]

/-- A zip archive of members that are stored as they are, each under a path and with a mode. -/
def storedMembers (members : List (String × Nat × String)) : ByteArray :=
  let zeros (count : Nat) : List Nat := List.replicate count 0
  let long (value : Nat) : List Nat := [value % 256, value / 256 % 256, value / 65536 % 256, value / 16777216]
  let add : List Nat × List Nat → String × Nat × String → List Nat × List Nat :=
    fun (packed, listing) (path, mode, text) =>
      let contents := Archive.ascii text
      let checksum := Archive.checksum ⟨(contents.map Nat.toUInt8).toArray⟩
      let facts := long checksum ++ long contents.length ++ long contents.length ++ [path.length, 0]
      (packed ++ Archive.Zip.memberMagic ++ zeros 10 ++ facts ++ zeros 2 ++ Archive.ascii path ++ contents,
        listing ++ Archive.Zip.directoryMagic ++ [0, 3] ++ zeros 10 ++ facts ++ zeros 8 ++ long (65536 * mode) ++
          long packed.length ++ Archive.ascii path)
  let (packed, listing) := members.foldl add ([], [])
  let finish := Archive.Zip.endMagic ++ zeros 4 ++ [members.length, 0, members.length, 0] ++ long listing.length ++
    long packed.length ++ zeros 2
  ⟨((packed ++ listing ++ finish).map Nat.toUInt8).toArray⟩

/-- A tape archive of members without contents, each under a path, with a flag for its kind and where it leads. -/
def emptyMembers (members : List (String × Char × String)) : ByteArray :=
  let field (width : Nat) (bytes : List Nat) : List Nat := bytes ++ List.replicate (width - bytes.length) 0
  let header : String × Char × String → List Nat := fun (path, flag, target) =>
    let opening := field 124 (Archive.ascii path) ++ field 24 (Archive.ascii "0")
    let closing := flag.toNat :: field 100 (Archive.ascii target) ++
      field 255 (Archive.ascii "ustar" ++ [0] ++ Archive.ascii "00")
    let sum := (opening ++ closing).foldl (· + ·) (8 * ' '.toNat)
    opening ++ field 8 ((Nat.toDigits 8 sum).map Char.toNat) ++ closing
  ⟨((members.flatMap header ++ List.replicate 1024 0).map Nat.toUInt8).toArray⟩

def linkedZip : ByteArray := storedMembers [("r/src/a", 0o100644, ""), ("r/l", 0o120777, "src/a")]

def linkedTape : ByteArray := emptyMembers [("r/src/a", '0', ""), ("r/l", '2', "src/a")]

private theorem entries_linkedZip : Archive.format? linkedZip = some .zip ∧
    Archive.Zip.entries .nothing linkedZip =
      .ok [{ path := ⟨"r/src/a"⟩, mode? := some 0o100644 },
        { path := ⟨"r/l"⟩, mode? := some 0o120777, contents? := some "src/a".toUTF8 }] := by
  decide +kernel

private theorem lists_linkedZip : Archive.Zip.Lists .nothing linkedItems linkedZip := by
  refine ⟨entries_linkedZip.1, _, entries_linkedZip.2, .cons ⟨rfl, rfl, ?_, rfl⟩ (.cons ⟨rfl, rfl, ?_, rfl⟩ .nil)⟩ <;>
    decide

section

open Archive Archive.Tar

/-- What the tape archive tells of itself and in its headers. -/
private theorem headers_linkedTape :
    (format? linkedTape = some .tar ∧ linkedTape.size = 2048) ∧
    (isZero (slice linkedTape 0 512) = false ∧ isIntact (slice linkedTape 0 512) = true ∧
      length? (slice (slice linkedTape 0 512) 124 12) = some 0 ∧ kindOf (slice linkedTape 0 512) = .file ∧
      memberPath (slice linkedTape 0 512) {} = ⟨"r/src/a"⟩) ∧
    (isZero (slice linkedTape 512 512) = false ∧ isIntact (slice linkedTape 512 512) = true ∧
      length? (slice (slice linkedTape 512 512) 124 12) = some 0 ∧ kindOf (slice linkedTape 512 512) = .other ∧
      byteAt (slice linkedTape 512 512) 156 = '2'.toNat ∧ memberPath (slice linkedTape 512 512) {} = ⟨"r/l"⟩) ∧
    isZero (slice linkedTape 1024 512) = true := by
  simp only [isZero, isIntact, length?, octal?, untilZero, slice_eq, toList_eq, bigEndian, memberPath, pathIn]
  decide +kernel

private theorem members_linkedTape :
    members? ⟨linkedTape, true⟩ =
      some [⟨slice linkedTape 0 512, {}, slice linkedTape 512 0⟩,
        ⟨slice linkedTape 512 512, {}, slice linkedTape 1024 0⟩] := by
  obtain ⟨⟨_, size⟩, ⟨filled, intact, told, kind, _⟩, ⟨filled', intact', told', kind', _, _⟩, zeros⟩ :=
    headers_linkedTape
  have block {position : Nat} (inside : position + blockSize ≤ 2048) :=
    block?_of_inside (size.symm ▸ inside) true
  have last : membersFrom ⟨linkedTape, true⟩ 3 1024 {} = some [] := membersFrom_of_zeros (block (by decide)) zeros
  have second : membersFrom ⟨linkedTape, true⟩ 4 512 {} =
      some [⟨slice linkedTape 512 512, {}, slice linkedTape 1024 0⟩] :=
    (membersFrom_of_header (block (by decide)) filled' intact' told' (by rw [size]; decide) (.inr (.inr kind'))).trans
      (congrArg (Option.map _) last)
  rw [members?, size]
  exact (membersFrom_of_header (block (by decide)) filled intact told (by rw [size]; decide) (.inl kind)).trans
    (congrArg (Option.map _) second)

private theorem lists_linkedTape : Lists linkedItems linkedTape := by
  have held : slice linkedTape 512 0 = ByteArray.empty := by
    rw [slice_eq, List.take_zero]
    rfl
  obtain ⟨⟨form, _⟩, ⟨_, _, _, kind, path⟩, ⟨_, _, _, _, flag, path'⟩, _⟩ := headers_linkedTape
  refine ⟨⟨linkedTape, true⟩, _, by rw [stream?, form], members_linkedTape, ?_⟩
  -- The headers are told completely, so that nothing needs to look at their bytes again.
  generalize slice linkedTape 0 512 = first at *
  generalize slice linkedTape 512 512 = second at *
  have file : (Member.entryOf? ⟨first, {}, slice linkedTape 512 0⟩).isSome = true := by
    rw [Member.entryOf?_of_file kind]
    rfl
  have link : Member.isLink ⟨second, {}, slice linkedTape 1024 0⟩ = true := decide_eq_true flag
  rw [listed, List.filter_cons_of_pos (by simp [file]), List.filter_cons_of_pos (by simp [link])]
  exact .cons ⟨congrArg Path.components path, kind, held⟩ (.cons ⟨congrArg Path.components path', link⟩ .nil)

/-- Without members, and without the word by which a tape archive is told. -/
def emptyTape : ByteArray := emptyMembers []

private theorem members_emptyTape : format? emptyTape = none ∧ members? ⟨emptyTape, true⟩ = some [] := by
  have told : format? emptyTape = none ∧ emptyTape.size = 1024 ∧ isZero (slice emptyTape 0 512) = true := by
    simp only [isZero, slice_eq, toList_eq]
    decide +kernel
  obtain ⟨form, size, zeros⟩ := told
  have block : block? ⟨emptyTape, true⟩ 0 = some (some (slice emptyTape 0 512)) :=
    block?_of_inside (by rw [size]; decide) true
  rw [members?, size]
  exact ⟨form, membersFrom_of_zeros block zeros⟩

end

/-- A link is laid out of a zip archive as a file, and of a tape archive not at all. Without members, a zip archive is
laid out, and a tape archive is refused. -/
theorem linkedArchives_differ :
    (Archive.Zip.Lists .nothing linkedItems linkedZip ∧ Archive.Tar.Lists linkedItems linkedTape ∧
      ∃ zipped taped, Unpacks ⟨⟨"/app"⟩, []⟩ .nothing linkedZip Acquisition.emptySession zipped ∧
        zipped.read ⟨"/app/l"⟩ = .ok "src/a".toUTF8 ∧
        Unpacks ⟨⟨"/app"⟩, []⟩ .nothing linkedTape Acquisition.emptySession taped ∧
        taped.get? [.root, .name "app", .name "l"] = none) ∧
    Archive.Zip.Lists .nothing [] (storedMembers []) ∧ Archive.Tar.members? ⟨emptyTape, true⟩ = some [] ∧
      (∃ zipped, Unpacks ⟨⟨"/app"⟩, []⟩ .nothing (storedMembers []) Acquisition.emptySession zipped) ∧
      ∀ taped, ¬ Unpacks ⟨⟨"/app"⟩, []⟩ .nothing emptyTape Acquisition.emptySession taped := by
  have links : ((placeItems ⟨⟨"/app"⟩, []⟩ linkedItems).apply Acquisition.emptySession).1 = .ok 2 ∧
      ((placeItems ⟨⟨"/app"⟩, []⟩ linkedItems).apply Acquisition.emptySession).2.files.inner.read ⟨"/app/l"⟩ =
        .ok "src/a".toUTF8 := by
    decide +kernel
  have bare : ((placeItems ⟨⟨"/app"⟩, []⟩ (withoutLinks linkedItems)).apply Acquisition.emptySession).1 = .ok 1 ∧
      ((placeItems ⟨⟨"/app"⟩, []⟩ (withoutLinks linkedItems)).apply Acquisition.emptySession).2.files.inner.get?
        [.root, .name "app", .name "l"] = none := by
    decide +kernel
  have nothing : Archive.Zip.Lists .nothing [] (storedMembers []) := ⟨by decide +kernel, [], by decide +kernel, .nil⟩
  refine ⟨⟨lists_linkedZip, lists_linkedTape, _, _, (unpacks_zip rfl lists_linkedZip).mpr (putsItems_of_placeItems links.1),
    links.2, (unpacks_tape rfl lists_linkedTape).mpr (putsItems_of_placeItems bare.1), bare.2⟩, nothing,
    members_emptyTape.2, ⟨_, (unpacks_zip rfl nothing).mpr (.nil _)⟩, ?_⟩
  rintro taped ⟨count, left, laid, _⟩
  rw [extract, Archive.entries, members_emptyTape.1] at laid
  cases laid

/-- Where only the directory with the file is taken, the link bears on nothing. -/
theorem extract_agrees_linked :
    Acquisition.emptySession.files.faults = [] ∧ Archive.Zip.Lists .nothing linkedItems linkedZip ∧
      Archive.Tar.Lists linkedItems linkedTape ∧ LinksAside ⟨⟨"/app"⟩, ["src"]⟩ linkedItems ∧
      ∃ after, Unpacks ⟨⟨"/app"⟩, ["src"]⟩ .nothing linkedZip Acquisition.emptySession after ∧
        Unpacks ⟨⟨"/app"⟩, ["src"]⟩ .nothing linkedTape Acquisition.emptySession after ∧
        after.read ⟨"/app/a"⟩ = .ok ByteArray.empty := by
  have aside : LinksAside ⟨⟨"/app"⟩, ["src"]⟩ linkedItems :=
    ⟨by decide, by decide⟩
  have placed : ((placeItems ⟨⟨"/app"⟩, ["src"]⟩ linkedItems).apply Acquisition.emptySession).1 = .ok 1 ∧
      ((placeItems ⟨⟨"/app"⟩, ["src"]⟩ linkedItems).apply Acquisition.emptySession).2.files.inner.read ⟨"/app/a"⟩ =
        .ok ByteArray.empty := by
    decide +kernel
  have quiet : Acquisition.emptySession.files.faults = [] := rfl
  obtain ⟨fromZip, _, agree⟩ := extract_agrees quiet lists_linkedZip lists_linkedTape
  have unpacks := (fromZip _).mpr (putsItems_of_placeItems placed.1)
  exact ⟨quiet, lists_linkedZip, lists_linkedTape, aside, _, unpacks, (agree aside _).mp unpacks, placed.2⟩

end Overlay

end Scaffold
