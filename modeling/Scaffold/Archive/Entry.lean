import Scaffold.Failure
import Scaffold.Path

/-! # Entries of archives

An archive is a list of files and directories under paths of its own. Why an archive cannot be read, or what it
holds cannot be laid out, is told as an obstacle.
-/

namespace Scaffold.Archive

/-- A file or a directory in an archive. -/
structure Entry where
  path : Path
  isDirectory : Bool := false
  /-- The permission bits, if the archive tells them. -/
  mode? : Option Nat := none
  /-- What a file holds, if it can be read. -/
  contents? : Option ByteArray := some ByteArray.empty
  deriving Inhabited

/-- How the data of a member are unpacked that is neither stored nor deflated, by the number of its method: from what is
in the archive and the length that is told. A method without a way to unpack is not supported. -/
def Unpack : Type := Nat → Option (ByteArray → Nat → Option ByteArray)

/-- Nothing is supported beyond what is stored or deflated. -/
def Unpack.nothing : Unpack := fun _ => none

/-- Why the contents of an archive cannot be had or laid out. -/
inductive Obstacle
  | unsupportedFormat
  | unopenableZip
  | unreadableZipEntry
  | unreadableTarEntry
  | unreadableContents (path : Path)
  | unsafePath (path : Path)
  | notCreated (path : Path) (error : String)
  | notWritten (path : Path) (error : String)
  | modeNotSet (path : Path) (error : String)
  /-- No more of a cloned repository can be listed. -/
  | notListed (error : String)
  deriving DecidableEq, Repr, Inhabited

/-- The text of an obstacle. -/
def Obstacle.message : Obstacle → String
  | unsupportedFormat => "unsupported archive format (expected zip, tar or tar.gz)"
  | unopenableZip => "failed to open zip: " ++ undisclosed
  | unreadableZipEntry => "failed to read zip entry: " ++ undisclosed
  | unreadableTarEntry => "failed to read tar entry: " ++ undisclosed
  | unreadableContents path => "failed to read " ++ path.shown ++ ": " ++ undisclosed
  | unsafePath path => "refusing to extract unsafe path " ++ path.shown
  | notCreated path error => "failed to create " ++ path.shown ++ ": " ++ error
  | notWritten path error => "failed to write " ++ path.shown ++ ": " ++ error
  | modeNotSet path error => "failed to set permissions on " ++ path.shown ++ ": " ++ error
  | notListed error => "failed to walk cloned repository: " ++ error

end Scaffold.Archive
