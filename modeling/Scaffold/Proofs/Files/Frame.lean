import Scaffold.Proofs.Starter.Acquisition

/-! # What calls leave alone

A run may write the manifest of a directory and remove it, and may write or make what it has a place for. As long as
every call keeps to this, whatever else was in the tree stays what it was: a file keeps its contents, a directory stays
a directory, and what is made besides are directories above the places. A fault changes nothing about this, since a
call that it strikes leaves the tree alone.
-/

namespace Scaffold

/-- An event within what may be touched: the manifest may be written and removed, the places that are assigned may be
written or made, and the directories above them made. -/
def Event.Within (manifest : Path) (assigned : Path → Prop) : Event → Prop
  | .files (.remove path) _ => path = manifest
  | .files (.write path _) _ => path = manifest ∨ assigned path
  | .files (.createDirs path) _ => ∃ target, assigned target ∧ (path = target ∨ target.parent? = some path)
  | .files (.setMode path _) _ => assigned path
  | _ => True

section

variable {manifest target : Path} {assigned : Path → Prop} {event : Event}

theorem Event.Reads.within (reads : event.Reads) : event.Within manifest assigned := by
  cases event with
  | files call _ => cases call <;> trivial
  | _ => trivial

theorem Event.Places.within (places : event.Places target) (assigns : assigned target) :
    event.Within manifest assigned := by
  cases event with
  | files call _ =>
    cases call with
    | write path _ => exact .inr (places ▸ assigns)
    | createDirs path => exact ⟨target, assigns, places⟩
    | setMode path _ => exact places ▸ assigns
    | _ => trivial
  | _ => trivial

end

namespace FileTree

/-- The directories that may be made for the places that are assigned: the places themselves and all above them. -/
def Above (tree : FileTree) (assigned : Path → Prop) (route : Route) : Prop :=
  ∃ path target, assigned target ∧ (path = target ∨ target.parent? = some path) ∧ route ∈ (tree.resolve path).ancestors

/-- One tree leaves another alone, but for a manifest and the places that are assigned. -/
structure LeavesAlone (manifest : Path) (assigned : Path → Prop) (before after : FileTree) : Prop where
  workingDirectory : after.workingDirectory = before.workingDirectory
  /-- Any other file keeps its contents, and there is no new one. -/
  file : ∀ {route}, route ≠ before.resolve manifest → (∀ target, assigned target → before.resolve target ≠ route) →
    ∀ contents, after.get? route = some (.file contents) ↔ before.get? route = some (.file contents)
  directory : ∀ {route}, before.get? route = some .directory → after.get? route = some .directory
  present : ∀ {route}, route ≠ before.resolve manifest → before.get? route ≠ none → after.get? route ≠ none
  made : ∀ {route}, after.get? route = some .directory →
    before.get? route = some .directory ∨ before.Above assigned route

namespace LeavesAlone

variable {manifest : Path} {assigned : Path → Prop} {before tree after : FileTree}

theorem refl (tree : FileTree) : LeavesAlone manifest assigned tree tree :=
  ⟨rfl, fun _ _ _ => Iff.rfl, id, fun _ => id, .inl⟩

theorem resolve (alone : LeavesAlone manifest assigned before after) (path : Path) :
    after.resolve path = before.resolve path := by
  rw [FileTree.resolve, alone.workingDirectory, FileTree.resolve]

/-- A file that comes or goes at the manifest, or comes at a place that is assigned, leaves the rest alone. -/
theorem replace {place : Route} {node? : Option Node} (alone : LeavesAlone manifest assigned before tree)
    (still : after.workingDirectory = tree.workingDirectory)
    (node : ∀ route, after.get? route = if place = route then node? else tree.get? route)
    (noDirectory : tree.get? place ≠ some .directory) (noneMade : node? ≠ some .directory)
    (fit : place = before.resolve manifest ∨ node? ≠ none ∧ ∃ target, assigned target ∧ before.resolve target = place) :
    LeavesAlone manifest assigned before after where
  workingDirectory := still.trans alone.workingDirectory
  file {route} other unassigned contents := by
    have elsewhere : place ≠ route := by
      rcases fit with rfl | ⟨_, target, assigns, rfl⟩
      · exact Ne.symm other
      · exact unassigned target assigns
    rw [node, if_neg elsewhere]
    exact alone.file other unassigned contents
  directory {route} directory := by
    have kept := alone.directory directory
    have elsewhere : place ≠ route := fun same => noDirectory (same ▸ kept)
    rw [node, if_neg elsewhere]
    exact kept
  present {route} other bound := by
    rw [node]
    split
    · rename_i same
      rcases fit with manifest | ⟨some, _⟩
      · exact absurd (same.symm.trans manifest) other
      · exact some
    · exact alone.present other bound
  made {route} directory := by
    rw [node] at directory
    split at directory
    · exact absurd directory noneMade
    · exact alone.made directory

theorem remove (alone : LeavesAlone manifest assigned before tree) (removed : tree.remove manifest = .ok after) :
    LeavesAlone manifest assigned before after := by
  obtain ⟨file, same⟩ := remove_eq_ok.mp removed
  obtain ⟨contents, file⟩ := isFileAt_iff.mp file
  refine alone.replace (by rw [same]) (get?_remove removed) ?_ nofun (.inl (alone.resolve _))
  rw [file]
  nofun

theorem write {path : Path} {contents : ByteArray} (alone : LeavesAlone manifest assigned before tree)
    (fit : path = manifest ∨ assigned path) (wrote : tree.write path contents = .ok after) :
    LeavesAlone manifest assigned before after := by
  obtain ⟨_, noDirectory, same⟩ := write_eq_ok.mp wrote
  refine alone.replace (by rw [same]) (get?_write wrote) ?_ nofun ?_
  · rwa [ne_eq, ← isDirectoryAt_iff, Bool.not_eq_true]
  · rcases fit with rfl | assigns
    · exact .inl (alone.resolve _)
    · exact .inr ⟨nofun, path, assigns, (alone.resolve _).symm⟩

theorem createDirs {path target : Path} (alone : LeavesAlone manifest assigned before tree) (assigns : assigned target)
    (above : path = target ∨ target.parent? = some path) (created : tree.createDirs path = .ok after) :
    LeavesAlone manifest assigned before after := by
  obtain ⟨free, same⟩ := createDirs_eq_ok.mp created
  have elsewhere : ∀ {route}, route ∉ (before.resolve path).ancestors → after.get? route = tree.get? route := by
    intro route apart
    rw [same, get?_addDirs, alone.resolve, if_neg apart]
  -- On the way there was no file, and now there is a directory.
  have made : ∀ {route}, route ∈ (before.resolve path).ancestors → after.get? route = some .directory := by
    intro route member
    rw [← alone.resolve] at member
    exact same ▸ isDirectoryAt_iff.mp (isDirectoryAt_addDirs free member)
  have noFile : ∀ {route}, route ∈ (before.resolve path).ancestors → ∀ contents, tree.get? route ≠ some (.file contents) := by
    intro route member contents file
    rw [← alone.resolve] at member
    have impossible := free route member
    rw [isFileAt_iff.mpr ⟨contents, file⟩] at impossible
    cases impossible
  exact
    { workingDirectory := (congrArg FileTree.workingDirectory same).trans alone.workingDirectory
      file := fun {route} other unassigned contents => by
        rw [← alone.file other unassigned contents]
        by_cases member : route ∈ (before.resolve path).ancestors
        · simp [made member, noFile member contents]
        · rw [elsewhere member]
      directory := fun {route} directory => by
        by_cases member : route ∈ (before.resolve path).ancestors
        · exact made member
        · exact (elsewhere member).trans (alone.directory directory)
      present := fun {route} other bound => by
        by_cases member : route ∈ (before.resolve path).ancestors
        · simp [made member]
        · exact elsewhere member ▸ alone.present other bound
      made := fun {route} directory => by
        by_cases member : route ∈ (before.resolve path).ancestors
        · exact .inr ⟨path, target, assigns, above, member⟩
        · exact alone.made ((elsewhere member).symm.trans directory) }

/-- A call within what may be touched leaves the rest alone. -/
theorem perform {call : FileCall} {error? : Option IoError} (alone : LeavesAlone manifest assigned before tree)
    (fit : (Event.files call error?).Within manifest assigned) :
    LeavesAlone manifest assigned before (Storage.perform call tree).2 := by
  rcases performed : Storage.perform call tree with ⟨error | answer, after⟩
  · rw [perform_error performed]
    exact alone
  · cases call with
    | remove path => exact alone.remove (fit ▸ perform_remove_ok.mp performed)
    | write path contents => exact alone.write fit (perform_write_ok.mp performed)
    | createDirs path =>
      obtain ⟨target, assigns, above⟩ := fit
      exact alone.createDirs assigns above (perform_createDirs_ok.mp performed)
    | _ => exact (Prod.mk.inj performed).2 ▸ alone

/-- Where no file may have come and no directory have been made, nothing differs. -/
theorem get?_eq_of_present (alone : LeavesAlone manifest assigned before after) {route : Route}
    (other : route ≠ before.resolve manifest) (unassigned : ∀ target, assigned target → before.resolve target ≠ route)
    (present : before.Above assigned route → before.get? route ≠ none) : after.get? route = before.get? route := by
  have files := alone.file other unassigned
  have directories : after.get? route = some .directory ↔ before.get? route = some .directory := by
    refine ⟨fun directory => ?_, alone.directory⟩
    rcases alone.made directory with same | above
    · exact same
    · rcases found : before.get? route with _ | contents | _
      · exact absurd found (present above)
      · rw [(files contents).mpr found] at directory
        cases directory
      · rfl
  rcases found : before.get? route with _ | contents | _
  · rcases left : after.get? route with _ | contents | _
    · rfl
    · rw [(files contents).mp left] at found
      cases found
    · rw [directories.mp left] at found
      cases found
  · exact (files contents).mpr found
  · exact directories.mpr found

/-- Where no place is assigned nothing but the manifest may differ. -/
theorem get?_eq (alone : LeavesAlone manifest assigned before after) (none : ∀ target, ¬ assigned target) {route : Route}
    (other : route ≠ before.resolve manifest) : after.get? route = before.get? route :=
  alone.get?_eq_of_present other (fun target assigns => absurd assigns (none target))
    fun ⟨_, target, assigns, _⟩ => absurd assigns (none target)

end LeavesAlone

end FileTree

theorem Faulty.perform_inner (call : FileCall) (store : Faulty FileTree) :
    (Storage.perform call store).2.inner = store.inner ∨
      (Storage.perform call store).2.inner = (Storage.perform call store.inner).2 := by
  rcases perform_cases call store with ⟨_, _, _, performed⟩ | ⟨_, _, performed⟩
  · exact .inl (by rw [performed])
  · exact .inr (by rw [performed])

/-- A session within what may be touched leaves the rest of the tree alone, whatever faults strike. -/
theorem Session.KeepsTo.leavesAlone {manifest : Path} {assigned : Path → Prop}
    {before after : Session (Faulty FileTree)} (keeps : before.KeepsTo (Event.Within manifest assigned) after) :
    FileTree.LeavesAlone manifest assigned before.files.inner after.files.inner :=
  keeps.preserves (fun files => FileTree.LeavesAlone manifest assigned before.files.inner files.inner)
    (fun files event fit alone => by
      cases event with
      | files call error? =>
        rcases Faulty.perform_inner call files with same | same
        · exact same ▸ alone
        · exact same ▸ alone.perform fit
      | _ => exact alone) (.refl _)

end Scaffold
