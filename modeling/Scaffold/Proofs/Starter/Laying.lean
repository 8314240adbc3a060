import Scaffold.Proofs.Starter.Overlay

/-! # What a layout leaves

A layout that returns put each entry that it took to its place, one after another: a directory with all above it, or a
file in a directory that was made for it. What is put somewhere stays as it is put, as long as no later entry is a file
that goes to the same place.
-/

namespace Scaffold

/-- What an entry is, if it can be read. -/
def Archive.Entry.node? (entry : Entry) : Option Node :=
  if entry.isDirectory then some .directory else entry.contents?.map .file

/-! ## One entry -/

namespace FileTree

variable {tree made after : FileTree} {target path : Path} {node kept : Node} {route : Route}

/-- Make the directory that a path is in, if the path tells one. -/
def makeParent (tree : FileTree) (target : Path) : Except IoError FileTree :=
  match target.parent? with
  | some parent => tree.createDirs parent
  | none => .ok tree

/-- Make a directory, or write a file into a directory that is made for it. -/
def put (tree : FileTree) (target : Path) : Node → Except IoError FileTree
  | .directory => tree.createDirs target
  | .file contents => (tree.makeParent target).bind fun made => made.write target contents

/-- Only directories come along from one tree to another. -/
structure GainsDirectories (tree made : FileTree) : Prop where
  workingDirectory : made.workingDirectory = tree.workingDirectory
  file : ∀ {route contents}, made.get? route = some (.file contents) → tree.get? route = some (.file contents)
  kept : ∀ {route kept}, tree.get? route = some kept → made.get? route = some kept

theorem gainsDirectories_createDirs (created : tree.createDirs path = .ok after) : tree.GainsDirectories after := by
  have same := (createDirs_eq_ok.mp created).2
  have kept : ∀ {route kept}, tree.get? route = some kept → after.get? route = some kept := by
    intro route kept bound
    rw [same, get?_addDirs, bound]
    split <;> rfl
  refine ⟨by rw [same, addDirs], fun {route contents} file => ?_, kept⟩
  have present : tree.isFileAt route = true := by
    rw [← isFileAt_addDirs (tree.resolve path), ← same]
    exact isFileAt_iff.mpr ⟨contents, file⟩
  obtain ⟨before, found⟩ := isFileAt_iff.mp present
  rw [kept found] at file
  rw [found, file]

theorem gainsDirectories_makeParent (ready : tree.makeParent target = .ok made) : tree.GainsDirectories made := by
  unfold makeParent at ready
  split at ready
  · exact gainsDirectories_createDirs ready
  · cases ready
    exact ⟨rfl, id, id⟩

theorem put_directory_eq_ok : tree.put target .directory = .ok after ↔ tree.createDirs target = .ok after := by
  rw [put]

theorem put_file_eq_ok {contents : ByteArray} :
    tree.put target (.file contents) = .ok after ↔
      ∃ made : FileTree, tree.makeParent target = .ok made ∧ made.write target contents = .ok after := by
  rw [put]
  cases tree.makeParent target <;> simp [Except.bind]

theorem put_workingDirectory (done : tree.put target node = .ok after) :
    after.workingDirectory = tree.workingDirectory := by
  cases node with
  | directory => exact (gainsDirectories_createDirs (put_directory_eq_ok.mp done)).workingDirectory
  | file contents =>
    obtain ⟨made, ready, wrote⟩ := put_file_eq_ok.mp done
    rw [(write_eq_ok.mp wrote).2.2, ← (gainsDirectories_makeParent ready).workingDirectory]

theorem resolve_put (done : tree.put target node = .ok after) (path : Path) : after.resolve path = tree.resolve path := by
  rw [resolve, put_workingDirectory done, resolve]

/-- A file is written to its place, for which at most directories were made. -/
theorem get?_put_file {contents : ByteArray} (done : tree.put target (.file contents) = .ok after) :
    ∃ made : FileTree, tree.GainsDirectories made ∧ made.get? (tree.resolve target) ≠ some .directory ∧
      ∀ route, after.get? route = if tree.resolve target = route then some (.file contents) else made.get? route := by
  obtain ⟨made, ready, wrote⟩ := put_file_eq_ok.mp done
  have gains := gainsDirectories_makeParent ready
  have resolved : made.resolve target = tree.resolve target := by rw [resolve, gains.workingDirectory, resolve]
  have noDirectory := (write_eq_ok.mp wrote).2.1
  rw [resolved, ← Bool.not_eq_true, isDirectoryAt_iff] at noDirectory
  exact ⟨made, gains, noDirectory, fun route => resolved ▸ get?_write wrote route⟩

/-- What is put somewhere is there. -/
theorem get?_put (done : tree.put target node = .ok after) : after.get? (tree.resolve target) = some node := by
  cases node with
  | directory =>
    obtain ⟨free, same⟩ := createDirs_eq_ok.mp (put_directory_eq_ok.mp done)
    rw [same]
    exact isDirectoryAt_iff.mp (isDirectoryAt_addDirs free (tree.resolve target).self_mem_ancestors)
  | file contents =>
    obtain ⟨_, _, _, found⟩ := get?_put_file done
    rw [found, if_pos rfl]

/-- Only a file takes the place of what is there. -/
theorem get?_put_of_present (done : tree.put target node = .ok after) (bound : tree.get? route = some kept)
    (elsewhere : node = .directory ∨ tree.resolve target ≠ route) : after.get? route = some kept := by
  cases node with
  | directory => exact (gainsDirectories_createDirs (put_directory_eq_ok.mp done)).kept bound
  | file contents =>
    obtain ⟨made, gains, _, found⟩ := get?_put_file done
    rw [found, if_neg (elsewhere.resolve_left (by simp))]
    exact gains.kept bound

/-- Nothing takes the place of a directory. -/
theorem get?_put_of_directory (done : tree.put target node = .ok after) (directory : tree.get? route = some .directory) :
    after.get? route = some .directory := by
  refine get?_put_of_present done directory ?_
  cases node with
  | directory => exact .inl rfl
  | file contents =>
    obtain ⟨made, gains, noDirectory, _⟩ := get?_put_file done
    refine .inr ?_
    rintro rfl
    exact noDirectory (gains.kept directory)

/-- A file is where it was put, or was there before. -/
theorem file_of_put {contents : ByteArray} (done : tree.put target node = .ok after)
    (file : after.get? route = some (.file contents)) :
    (node = .file contents ∧ tree.resolve target = route) ∨
      tree.get? route = some (.file contents) ∧ (node = .directory ∨ tree.resolve target ≠ route) := by
  cases node with
  | directory => exact .inr ⟨(gainsDirectories_createDirs (put_directory_eq_ok.mp done)).file file, .inl rfl⟩
  | file written =>
    obtain ⟨made, gains, _, found⟩ := get?_put_file done
    rw [found] at file
    split at file
    · rename_i same
      cases file
      exact .inl ⟨rfl, same⟩
    · rename_i other
      exact .inr ⟨gains.file file, .inr other⟩

end FileTree

/-! ## One entry after another -/

namespace Overlay

/-- Entries put to their places one after another, but for those that are not taken. -/
inductive Puts (overlay : Overlay) (top? : Option String) : List Archive.Entry → FileTree → FileTree → Prop
  | nil (tree : FileTree) : Puts overlay top? [] tree tree
  | skip (entry : Archive.Entry) {rest : List Archive.Entry} {tree after : FileTree}
      (aside : overlay.target? (Archive.below top? entry.path) = .ok none) (puts : Puts overlay top? rest tree after) :
      Puts overlay top? (entry :: rest) tree after
  | put (entry : Archive.Entry) (target : Path) (node : Node) {rest : List Archive.Entry} {tree next after : FileTree}
      (aimed : overlay.target? (Archive.below top? entry.path) = .ok (some target)) (read : entry.node? = some node)
      (done : tree.put target node = .ok next) (puts : Puts overlay top? rest next after) :
      Puts overlay top? (entry :: rest) tree after

variable {overlay : Overlay} {top? : Option String} {entry : Archive.Entry} {entries earlier later : List Archive.Entry}
  {tree after : FileTree} {target : Path} {route : Route} {kept : Node}

namespace Puts

theorem workingDirectory (puts : overlay.Puts top? entries tree after) :
    after.workingDirectory = tree.workingDirectory := by
  induction puts with
  | nil _ => rfl
  | skip _ _ _ ih => exact ih
  | put _ _ _ _ _ done _ ih => exact ih.trans (FileTree.put_workingDirectory done)

theorem append (puts : overlay.Puts top? (earlier ++ later) tree after) :
    ∃ middle, overlay.Puts top? earlier tree middle ∧ overlay.Puts top? later middle after := by
  induction earlier generalizing tree with
  | nil => exact ⟨tree, .nil tree, puts⟩
  | cons entry rest ih =>
    cases puts with
    | skip _ aside puts =>
      obtain ⟨middle, first, second⟩ := ih puts
      exact ⟨middle, .skip entry aside first, second⟩
    | put _ target node aimed read done puts =>
      obtain ⟨middle, first, second⟩ := ih puts
      exact ⟨middle, .put entry target node aimed read done first, second⟩

/-- What is there stays, as long as no file goes to the same place. -/
theorem get?_of_present (puts : overlay.Puts top? entries tree after) (bound : tree.get? route = some kept)
    (elsewhere : ∀ entry ∈ entries, entry.isDirectory = false → ∀ target,
      overlay.target? (Archive.below top? entry.path) = .ok (some target) → tree.resolve target ≠ route) :
    after.get? route = some kept := by
  induction puts with
  | nil _ => exact bound
  | skip _ _ _ ih => exact ih bound fun other member => elsewhere other (List.mem_cons_of_mem _ member)
  | put entry target node aimed read done _ ih =>
    refine ih (FileTree.get?_put_of_present done bound ?_) fun other member file place placed => ?_
    · cases kind : entry.isDirectory with
      | true =>
        rw [Archive.Entry.node?, if_pos kind] at read
        exact .inl (Option.some.inj read).symm
      | false => exact .inr (elsewhere entry List.mem_cons_self kind target aimed)
    · rw [FileTree.resolve_put done]
      exact elsewhere other (List.mem_cons_of_mem _ member) file place placed

/-- An entry is found at its place, unless a later file goes there, too. -/
theorem get?_of_last (puts : overlay.Puts top? (earlier ++ entry :: later) tree after)
    (aimed : overlay.target? (Archive.below top? entry.path) = .ok (some target))
    (last : ∀ other ∈ later, other.isDirectory = false → ∀ place,
      overlay.target? (Archive.below top? other.path) = .ok (some place) → tree.resolve place ≠ tree.resolve target) :
    ∃ node, entry.node? = some node ∧ after.get? (tree.resolve target) = some node := by
  obtain ⟨middle, first, second⟩ := puts.append
  have resolved : ∀ path, middle.resolve path = tree.resolve path := fun path => by
    rw [FileTree.resolve, first.workingDirectory, FileTree.resolve]
  cases second with
  | skip _ aside _ =>
    rw [aimed] at aside
    cases aside
  | put _ other node told read done puts =>
    rw [aimed, Except.ok.injEq, Option.some.injEq] at told
    subst told
    refine ⟨node, read, ?_⟩
    rw [← resolved]
    refine puts.get?_of_present (FileTree.get?_put done) fun other member file place placed => ?_
    rw [FileTree.resolve_put done, resolved, resolved]
    exact last other member file place placed

end Puts

/-! ## Layouts that return -/

variable {session left : Session (Faulty FileTree)} {written count : Nat}

theorem writeFile_puts {contents : ByteArray} {mode? : Option Nat}
    (wrote : (writeFile written target contents mode?).apply session = (.ok count, left)) :
    session.files.inner.put target (.file contents) = .ok left.files.inner := by
  obtain ⟨_, middle, made, ran⟩ := Run.bind_eq_ok wrote
  obtain ⟨_, full, put, ran⟩ := Run.bind_eq_ok ran
  obtain ⟨_, last, moded, returned⟩ := Run.bind_eq_ok ran
  obtain ⟨_, rfl⟩ := Prod.mk.inj returned
  have above : session.files.inner.makeParent target = .ok middle.files.inner := by
    have made := createParent_eq_ok made
    unfold ParentMade at made
    cases climbed : target.parent? with
    | some parent =>
      rw [climbed] at made
      rw [FileTree.makeParent, climbed]
      exact Run.createDirs_ok made
    | none =>
      rw [climbed] at made
      rw [FileTree.makeParent, climbed, made]
  have unmoded : last.files.inner = full.files.inner := by
    unfold applyMode at moded
    split at moded
    · exact Run.setMode_ok (Run.mapError_eq_ok.mp moded)
    · exact congrArg (·.files.inner) (Prod.mk.inj moded).2.symm
  rw [FileTree.put, above, unmoded]
  exact Run.write_ok (Run.mapError_eq_ok.mp put)

/-- An entry that was laid out was put to its place. -/
theorem place_puts (placed : (overlay.place top? written entry).apply session = (.ok count, left))
    {rest : List Archive.Entry} (puts : overlay.Puts top? rest left.files.inner after) :
    overlay.Puts top? (entry :: rest) session.files.inner after := by
  unfold place at placed
  split at placed
  · cases placed
  · rename_i aside
    cases placed
    exact .skip entry aside puts
  · rename_i target aimed
    split at placed
    · rename_i directory
      obtain ⟨_, _, made, returned⟩ := Run.bind_eq_ok placed
      obtain ⟨_, rfl⟩ := Prod.mk.inj returned
      have done := FileTree.put_directory_eq_ok.mpr (Run.createDirs_ok (Run.mapError_eq_ok.mp made))
      exact .put entry target .directory aimed (if_pos directory) done puts
    · rename_i file
      split at placed
      · rename_i contents read
        refine .put entry target (.file contents) aimed ?_ (writeFile_puts placed) puts
        rw [Archive.Entry.node?, if_neg file, read, Option.map_some]
      · cases placed

/-- A layout that returns put every entry to its place, whatever faults were to strike. -/
theorem placeAll_puts (laid : (overlay.placeAll top? written entries).apply session = (.ok count, left)) :
    overlay.Puts top? entries session.files.inner left.files.inner := by
  induction entries generalizing written session with
  | nil =>
    obtain ⟨_, rfl⟩ := Prod.mk.inj laid
    exact .nil _
  | cons entry rest ih =>
    obtain ⟨_, middle, placed, laid⟩ := Run.bind_eq_ok laid
    exact place_puts placed (ih laid)

/-! ## Without faults -/

section

variable {next : FileTree} {node : Node}

theorem call_of_ok {α : Type} {obstacle : String → Archive.Obstacle} {step : Run (Faulty FileTree) IoError α} {value : α}
    (ran : step.apply session = (.ok value, left)) :
    (call written obstacle step).apply session = (.ok value, left) :=
  Run.mapError_eq_ok.mpr ran

theorem createParent_of_quiet (quiet : session.files.faults = []) (made : session.files.inner.makeParent target = .ok next)
    (written : Nat) :
    ∃ middle, (createParent written target).apply session = (.ok (), middle) ∧
      middle.files.inner = next ∧ middle.files.faults = [] := by
  unfold FileTree.makeParent at made
  unfold createParent
  cases climbed : target.parent? with
  | some parent =>
    rw [climbed] at made
    obtain ⟨middle, ran, facts⟩ := Run.createDirs_of_quiet quiet made
    exact ⟨middle, call_of_ok ran, facts⟩
  | none =>
    rw [climbed] at made
    cases made
    exact ⟨session, rfl, rfl, quiet⟩

theorem applyMode_of_quiet (quiet : session.files.faults = []) (written : Nat) (target : Path) (mode? : Option Nat) :
    ∃ middle, (applyMode written target mode?).apply session = (.ok (), middle) ∧
      middle.files.inner = session.files.inner ∧ middle.files.faults = [] := by
  cases mode? with
  | none => exact ⟨session, rfl, rfl, quiet⟩
  | some mode =>
    obtain ⟨middle, ran, facts⟩ := Run.setMode_of_quiet quiet target mode
    exact ⟨middle, call_of_ok ran, facts⟩

theorem writeFile_of_quiet (quiet : session.files.faults = []) {contents : ByteArray}
    (done : session.files.inner.put target (.file contents) = .ok next) (written : Nat) (mode? : Option Nat) :
    ∃ left, (writeFile written target contents mode?).apply session = (.ok (written + 1), left) ∧
      left.files.inner = next ∧ left.files.faults = [] := by
  rw [FileTree.put] at done
  cases above : session.files.inner.makeParent target with
  | error error =>
    rw [above] at done
    cases done
  | ok made =>
    rw [above] at done
    obtain ⟨middle, ready, rfl, quiet⟩ := createParent_of_quiet quiet above written
    obtain ⟨full, wrote, rfl, quiet⟩ := Run.write_of_quiet quiet done
    obtain ⟨left, moded, same, quiet⟩ := applyMode_of_quiet quiet (written + 1) target mode?
    refine ⟨left, ?_, same, quiet⟩
    unfold writeFile
    rw [Run.apply_bind_of_ok ready, Run.apply_bind_of_ok (call_of_ok wrote), Run.apply_bind_of_ok moded,
      Run.apply_pure]

/-- Without faults, an entry is laid out as soon as it can be put to its place. -/
theorem place_of_quiet (quiet : session.files.faults = [])
    (aimed : overlay.target? (Archive.below top? entry.path) = .ok (some target)) (read : entry.node? = some node)
    (done : session.files.inner.put target node = .ok next) (written : Nat) :
    ∃ left, (overlay.place top? written entry).apply session = (.ok (written + 1), left) ∧
      left.files.inner = next ∧ left.files.faults = [] := by
  unfold place
  rw [aimed]
  dsimp only
  unfold Archive.Entry.node? at read
  split at read
  · rename_i directory
    obtain rfl := Option.some.inj read
    obtain ⟨left, made, facts⟩ := Run.createDirs_of_quiet quiet (FileTree.put_directory_eq_ok.mp done)
    refine ⟨left, ?_, facts⟩
    rw [if_pos directory]
    unfold createDirectory
    rw [Run.apply_bind_of_ok (call_of_ok made), Run.apply_pure]
  · rename_i file
    obtain ⟨contents, told, rfl⟩ := Option.map_eq_some_iff.mp read
    rw [if_neg file, told]
    exact writeFile_of_quiet quiet done written entry.mode?

/-- Without faults, a layout returns as soon as every entry can be put to its place. -/
theorem placeAll_of_quiet (quiet : session.files.faults = [])
    (puts : overlay.Puts top? entries session.files.inner after) (written : Nat) :
    ∃ count left, (overlay.placeAll top? written entries).apply session = (.ok count, left) ∧
      left.files.inner = after := by
  induction entries generalizing written session with
  | nil =>
    cases puts
    exact ⟨written, session, rfl, rfl⟩
  | cons entry rest ih =>
    rw [placeAll]
    cases puts with
    | skip _ aside puts =>
      have passed : (overlay.place top? written entry).apply session = (.ok written, session) := by
        rw [place, aside]
        rfl
      rw [Run.apply_bind_of_ok passed]
      exact ih quiet puts written
    | put _ target node aimed read done puts =>
      obtain ⟨left, placed, rfl, quiet⟩ := place_of_quiet quiet aimed read done written
      rw [Run.apply_bind_of_ok placed]
      exact ih quiet puts (written + 1)

end

/-! ## Archives -/

/-- An archive is laid out, and leaves a tree. -/
def Unpacks (overlay : Overlay) (unpack : Archive.Unpack) (data : ByteArray) (session : Session (Faulty FileTree))
    (tree : FileTree) : Prop :=
  ∃ count left, (overlay.extract unpack data).apply session = (.ok count, left) ∧ left.files.inner = tree

/-- Without faults, an archive is laid out exactly if every entry can be put to its place, and leaves what that makes. -/
theorem unpacks_iff_puts {unpack : Archive.Unpack} {data : ByteArray} (quiet : session.files.faults = [])
    (read : Archive.entries unpack data = .ok entries) :
    overlay.Unpacks unpack data session after ↔
      overlay.Puts (Archive.commonTop? entries) entries session.files.inner after := by
  unfold Unpacks
  rw [extract, read]
  constructor
  · rintro ⟨count, left, laid, rfl⟩
    exact placeAll_puts laid
  · intro puts
    exact placeAll_of_quiet quiet puts 0

end Overlay

end Scaffold
