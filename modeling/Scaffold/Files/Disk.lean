import Scaffold.Data.OrderedMap
import Scaffold.Files.Call
import Scaffold.Text.Blank

/-! # Files on a disk

A tree of files, directories and symbolic links with the rules of a disk: links are followed on the way to
an entry, `..` leads to the directory that is really above, a trailing slash asks for a directory, and each
failure has the number and text that the system gives it. Nothing is refused for want of permission.
-/

namespace Scaffold

/-- An entry on a disk. -/
inductive DiskNode
  | file (contents : ByteArray) (mode : Nat)
  | directory
  | link (target : String)
  deriving Inhabited

/-- A working directory and the entries below the root by their names. -/
structure Disk where
  workingDirectory : List String
  nodes : OrderedMap (List String) DiskNode
  deriving Inhabited

namespace Disk

/-- The failures of a disk. -/
inductive Problem
  | missing
  | present
  | notDirectory
  | isDirectory
  | nameTooLong
  | tooManyLinks
  | zeroByte
  deriving DecidableEq, Repr, Inhabited

/-- Kind and text of a failure. -/
def Problem.error : Problem → IoError
  | missing => ⟨.notFound, "No such file or directory (os error 2)"⟩
  | present => ⟨.alreadyExists, "File exists (os error 17)"⟩
  | notDirectory => ⟨.notADirectory, "Not a directory (os error 20)"⟩
  | isDirectory => ⟨.isADirectory, "Is a directory (os error 21)"⟩
  | nameTooLong => ⟨.invalidFilename, "File name too long (os error 36)"⟩
  | tooManyLinks => ⟨.filesystemLoop, "Too many levels of symbolic links (os error 40)"⟩
  | zeroByte => ⟨.invalidInput, "file name contained an unexpected NUL byte"⟩

/-- The permission bits of a new file. -/
def newFileMode : Nat := 0o644

/-- The entry at a place; the root is a directory. -/
def get? (disk : Disk) (place : List String) : Option DiskNode :=
  if place.isEmpty then some .directory else disk.nodes.get? place

/-- The names of a path in order. A trailing slash counts as a `.`. -/
def stepsOf (text : String) : List String :=
  let pieces := (Text.split '/' text.toList).map String.ofList
  let names := pieces.filter (!·.isEmpty)
  if pieces.getLast? = some "" && !names.isEmpty then names ++ ["."] else names

/-- Where a path starts. -/
def origin (disk : Disk) (path : Path) : List String :=
  if path.isAbsolute then [] else disk.workingDirectory

/-- Where steps lead from a directory. The last step may lead to nothing. A link that is met on the way, or
last if asked for, is replaced by its target as long as the count of links lasts. -/
def walk (disk : Disk) (follow : Bool) (links : Nat) (place : List String) :
    List String → Except Problem (List String)
  | [] => .ok place
  | step :: rest =>
    if step = "." then disk.walk follow links place rest
    else if step = ".." then disk.walk follow links place.dropLast rest
    else if 255 < step.utf8ByteSize then .error .nameTooLong
    else
      let here := place ++ [step]
      match disk.get? here with
      | none => if rest.isEmpty then .ok here else .error .missing
      | some .directory => disk.walk follow links here rest
      | some (.file ..) => if rest.isEmpty then .ok here else .error .notDirectory
      | some (.link target) =>
        if rest.isEmpty && !follow then .ok here
        else
          match links with
          | 0 => .error .tooManyLinks
          | links + 1 =>
            let start := if target.startsWith "/" then [] else place
            disk.walk follow links start (stepsOf target ++ rest)
termination_by steps => (links, steps.length)

/-- How many links one path may lead through. -/
def maxLinks : Nat := 40

/-- Where a path leads. -/
def locate (disk : Disk) (follow : Bool) (path : Path) : Except Problem (List String) :=
  if path.text.isEmpty then .error .missing
  else if path.text.toList.any (·.toNat = 0) then .error .zeroByte
  else disk.walk follow maxLinks (disk.origin path) (stepsOf path.text)

/-- The entry a path leads to. -/
def find (disk : Disk) (path : Path) : Except Problem (List String × DiskNode) := do
  let place ← disk.locate true path
  match disk.get? place with
  | some node => pure (place, node)
  | none => throw .missing

/-- Kind and size of an entry. -/
def stat (disk : Disk) (path : Path) : Except Problem Metadata := do
  match ← disk.find path with
  | (_, .file contents _) => pure ⟨.file, contents.size⟩
  | (_, .directory) => pure ⟨.directory, 0⟩
  | (_, .link _) => pure ⟨.other, 0⟩

/-- The contents of a file. -/
def read (disk : Disk) (path : Path) : Except Problem ByteArray := do
  match ← disk.find path with
  | (_, .file contents _) => pure contents
  | (_, .directory) => throw .isDirectory
  | (_, .link _) => throw .tooManyLinks

/-- Remove a file or a link. -/
def remove (disk : Disk) (path : Path) : Except Problem Disk := do
  let place ← disk.locate false path
  match disk.get? place with
  | none => throw .missing
  | some .directory => throw .isDirectory
  | some _ => pure { disk with nodes := disk.nodes.erase place }

/-- Whether a path can only be a directory. -/
def asksDirectory (path : Path) : Bool := (stepsOf path.text).getLast?.any fun step =>
  step = "." || step = ".."

/-- Write a file, keeping the permission bits of an existing one. -/
def write (disk : Disk) (path : Path) (contents : ByteArray) : Except Problem Disk := do
  let place ← disk.locate true path
  match disk.get? place with
  | some .directory => throw .isDirectory
  | some (.file _ mode) => pure { disk with nodes := disk.nodes.insert place (.file contents mode) }
  | _ =>
    if asksDirectory path then throw .isDirectory
    else pure { disk with nodes := disk.nodes.insert place (.file contents newFileMode) }

/-- The path without the slashes at its end. -/
def withoutSlashes (path : Path) : Path :=
  let kept := Text.trimEnd (· = '/') path.text.toList
  if kept.isEmpty && path.isAbsolute then ⟨"/"⟩ else ⟨String.ofList kept⟩

/-- Create one directory. -/
def createDir (disk : Disk) (path : Path) : Except Problem Disk := do
  let place ← disk.locate false (withoutSlashes path)
  match disk.get? place with
  | some _ => throw .present
  | none => pure { disk with nodes := disk.nodes.insert place .directory }

/-- Whether a path leads to a directory. -/
def isDirectory (disk : Disk) (path : Path) : Bool :=
  match disk.find path with
  | .ok (_, .directory) => true
  | _ => false

/-- Create a directory, and before it the directory above if that is missing. What was created above stays when
the directory itself cannot be created. The count bounds how far up this goes. -/
def createDirsFrom (disk : Disk) (path : Path) : Nat → Except Problem Unit × Disk
  | 0 => (.ok (), disk)
  | count + 1 =>
    if path.text.isEmpty then (.ok (), disk)
    else
      match disk.createDir path with
      | .ok disk => (.ok (), disk)
      | .error problem =>
        if problem ≠ .missing then (if disk.isDirectory path then .ok () else .error problem, disk)
        else
          match path.parent? with
          | none => (.error .missing, disk)
          | some parent =>
            match disk.createDirsFrom parent count with
            | (.error problem, disk) => (.error problem, disk)
            | (.ok (), disk) =>
              match disk.createDir path with
              | .ok disk => (.ok (), disk)
              | .error problem => (if disk.isDirectory path then .ok () else .error problem, disk)

/-- Create a directory and its missing ancestors. -/
def createDirs (disk : Disk) (path : Path) : Except Problem Unit × Disk :=
  disk.createDirsFrom path (path.text.length + 1)

/-- The entry of a directory that a node makes. Links are listed as themselves. -/
def entryOf? (directory : List String) : List String × DiskNode → Option DirEntry
  | (place, node) =>
    if !place.isEmpty && place.dropLast = directory then
      place.getLast?.map fun name =>
        ⟨name, match node with
          | .file .. => .file
          | .directory => .directory
          | .link _ => .other⟩
    else none

/-- The entries of a directory. -/
def list (disk : Disk) (path : Path) : Except Problem (List DirEntry) := do
  match ← disk.find path with
  | (place, .directory) => pure (disk.nodes.entries.filterMap (entryOf? place))
  | _ => throw .notDirectory

/-- Set the permission bits of an entry; those of directories are not kept. -/
def setMode (disk : Disk) (path : Path) (mode : Nat) : Except Problem Disk := do
  match ← disk.find path with
  | (place, .file contents _) =>
    pure { disk with nodes := disk.nodes.insert place (.file contents (mode % 0o10000)) }
  | _ => pure disk

/-- The answer of a mutation together with the disk it leaves. -/
private def settle (disk : Disk) : Except Problem Disk → Except IoError Unit × Disk
  | .ok changed => (.ok (), changed)
  | .error problem => (.error problem.error, disk)

/-- The working directory as a path. -/
def workingPath (disk : Disk) : Path := ⟨"/" ++ "/".intercalate disk.workingDirectory⟩

/-- Answer a call. -/
def perform (call : FileCall) (disk : Disk) : Except IoError call.Answer × Disk :=
  match call with
  | .workingDirectory => (.ok disk.workingPath, disk)
  | .stat path => ((disk.stat path).mapError Problem.error, disk)
  | .remove path => settle disk (disk.remove path)
  | .read path => ((disk.read path).mapError Problem.error, disk)
  | .write path contents => settle disk (disk.write path contents)
  | .createDirs path =>
    let (answer, disk) := disk.createDirs path
    (answer.mapError Problem.error, disk)
  | .list path => ((disk.list path).mapError Problem.error, disk)
  | .setMode path mode => settle disk (disk.setMode path mode)

instance : Storage Disk where
  perform := perform

/-- The names of an absolute path. -/
def placeOf (path : Path) : List String := path.components.normalize.filterMap PathComponent.name?

/-- Put an entry at a place and directories above it. -/
def place (disk : Disk) (path : Path) (node : DiskNode) : Disk :=
  let names := placeOf path
  let above := (List.range names.length).map names.take |>.filter (!·.isEmpty)
  let nodes := above.foldl (fun nodes directory => nodes.insertNew directory .directory) disk.nodes
  { disk with nodes := nodes.insert names node }

/-- Make a symbolic link. -/
def link (disk : Disk) (path : Path) (target : String) : Except Problem Disk := do
  let place ← disk.locate false path
  match disk.get? place with
  | some _ => throw .present
  | none => pure { disk with nodes := disk.nodes.insert place (.link target) }

/-- What lies below a place, by the names that lead there from it. -/
def below (disk : Disk) (place : List String) : List (List String × DiskNode) :=
  disk.nodes.entries.filterMap fun (names, node) =>
    if place.isPrefixOf names && place.length < names.length then
      some (names.drop place.length, node)
    else none

end Disk

end Scaffold
