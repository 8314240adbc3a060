import Scaffold.Files.Error
import Scaffold.Path

/-! # Filesystem calls

Every access to the filesystem is one of a few calls, so that a store of files, a schedule of faults and a
log of what happened all speak of the same thing. A store answers a call and may change while doing so,
also when the call fails.
-/

namespace Scaffold

/-- Kind of a filesystem entry. -/
inductive EntryKind
  | file
  | directory
  /-- Anything else: a device, a socket, an unresolved link. -/
  | other
  deriving DecidableEq, Repr, Inhabited

/-- What is known about an entry without reading it. -/
structure Metadata where
  kind : EntryKind
  size : Nat
  deriving DecidableEq, Repr, Inhabited

/-- Whether the entry is a regular file. -/
def Metadata.isFile (metadata : Metadata) : Bool := metadata.kind = .file

/-- One entry of a directory listing. -/
structure DirEntry where
  name : String
  kind : EntryKind
  deriving DecidableEq, Repr, Inhabited

/-- A call to the filesystem. -/
inductive FileCall
  | workingDirectory
  | stat (path : Path)
  /-- Remove one file, never a directory. -/
  | remove (path : Path)
  | read (path : Path)
  /-- Write a file whose parent directory exists, replacing any earlier contents. -/
  | write (path : Path) (contents : ByteArray)
  /-- Create a directory and its missing ancestors. -/
  | createDirs (path : Path)
  /-- The entries of a directory in order of their names. -/
  | list (path : Path)
  /-- Set permission bits. -/
  | setMode (path : Path) (mode : Nat)

namespace FileCall

/-- What a successful call returns. -/
def Answer : FileCall → Type
  | workingDirectory => Path
  | stat _ => Metadata
  | read _ => ByteArray
  | list _ => List DirEntry
  | remove _ | write _ _ | createDirs _ | setMode _ _ => Unit

/-- The path a call is about; empty for the working directory. -/
def path : FileCall → Path
  | workingDirectory => ⟨""⟩
  | stat path | remove path | read path | write path _ | createDirs path | list path
  | setMode path _ => path

/-- Whether a call can change the files or directories. -/
def mutates : FileCall → Bool
  | remove _ | write _ _ | createDirs _ | setMode _ _ => true
  | workingDirectory | stat _ | read _ | list _ => false

end FileCall

/-- A store of files that answers calls. -/
class Storage (σ : Type) where
  perform : (call : FileCall) → σ → Except IoError call.Answer × σ

end Scaffold
