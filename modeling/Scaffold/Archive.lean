import Scaffold.Archive.Tar
import Scaffold.Archive.Zip

/-! # Archives

An archive is told by its first bytes. If all of its entries lie in one directory, that directory is left out
of their paths.
-/

namespace Scaffold.Archive

/-- The forms of archives. -/
inductive Format
  | zip
  | compressedTar
  | tar
  deriving DecidableEq, Repr, Inhabited

/-- The form of an archive. -/
def format? (data : ByteArray) : Option Format :=
  if hasAt data 0 Zip.memberMagic || hasAt data 0 Zip.endMagic then some .zip
  else if hasAt data 0 Gzip.magic then some .compressedTar
  else if hasAt data 257 (ascii "ustar") then some .tar
  else none

/-- The entries of a tape archive. -/
def tarEntries (stream : Stream) : Except Obstacle (List Entry) :=
  match Tar.entries? stream with
  | some entries => .ok entries
  | none => .error .unreadableTarEntry

/-- The entries of an archive. -/
def entries (unpack : Unpack) (data : ByteArray) : Except Obstacle (List Entry) :=
  match format? data with
  | none => .error .unsupportedFormat
  | some .zip => Zip.entries unpack data
  | some .compressedTar => tarEntries (Gzip.stream data)
  | some .tar => tarEntries ⟨data, true⟩

/-- The directory that an entry lies in, or is, at the top. A file at the top lies in none. -/
def top? (entry : Entry) : Option String :=
  match entry.path.components.filter (· ≠ .here) with
  | .name name :: rest => if rest.isEmpty && !entry.isDirectory then none else some name
  | _ => none

/-- The one directory at the top in which all entries lie. -/
def commonTop? (entries : List Entry) : Option String :=
  match entries.map top? with
  | some name :: rest => if rest.all (· = some name) then some name else none
  | _ => none

/-- A path below the directory at the top, if it starts there; else the path itself. -/
def below (top? : Option String) (path : Path) : Path := (top?.bind path.below?).getD path

end Scaffold.Archive
