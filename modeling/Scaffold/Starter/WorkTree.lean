import Scaffold.Archive.Entry
import Scaffold.Data.OrderedMap
import Scaffold.Session

/-! # Work trees

The files of a revision and the directories they are in, parents first and in the order of their names. What
belongs to the repository itself and symbolic links are left out.
-/

namespace Scaffold.WorkTree

open Archive (Entry)

/-- The name under which a repository keeps its own files. -/
def repositoryName : String := ".git"

/-- The mode bits of a symbolic link. -/
def linkMode : Nat := 0o120000

/-- The names in the path of a file. -/
def namesOf (file : WorkFile) : List String := file.path.components.filterMap PathComponent.name?

/-- The directories above names, the outermost first. -/
def above (names : List String) : List (List String) :=
  (List.range names.length).tail.map fun count => names.take count

/-- A file with the directories above it, by their names. -/
def place (nodes : OrderedMap (List String) (Option WorkFile)) (file : WorkFile) :
    OrderedMap (List String) (Option WorkFile) :=
  let directories := (above (namesOf file)).foldl (fun nodes names => nodes.insertNew names none) nodes
  directories.insert (namesOf file) (some file)

/-- The files and directories of a work tree in order. -/
def nodes (files : WorkTree) : OrderedMap (List String) (Option WorkFile) :=
  files.foldl place OrderedMap.empty

/-- The entry of a file or a directory, unless it is left out. -/
def entryOf? (names : List String) (file? : Option WorkFile) : Option Entry :=
  let path : Path := ⟨"/".intercalate names⟩
  if names.contains repositoryName then none
  else
    match file? with
    | none => some { path, isDirectory := true }
    | some file =>
      if file.mode = linkMode then none
      else some { path, mode? := some file.mode, contents? := file.contents }

/-- The entries of a work tree. -/
def entries (files : WorkTree) : List Entry :=
  (nodes files).entries.filterMap fun (names, file?) => entryOf? names file?

/-- The entries of a checkout that can be listed. -/
def listed (cloned : ClonedTree) : List Entry :=
  match cloned.break? with
  | none => entries cloned.files
  | some (count, _) => (entries cloned.files).take count

/-- Why no more of a checkout can be listed. -/
def stop? (cloned : ClonedTree) : Option Archive.Obstacle :=
  cloned.break?.map fun (_, reason) => .notListed reason

end Scaffold.WorkTree
