import Scaffold.Devfile.Decode
import Scaffold.Devfile.Defect
import Scaffold.Devfile.Encode
import Scaffold.Location
import Scaffold.Text.Utf8
import Scaffold.Yaml.Pen

/-! # Manifests

A devfile together with the file it is kept in. Staging keeps the bytes that were acquired as they are; saving
writes the devfile anew.
-/

namespace Scaffold

/-- The devfile that some bytes write. -/
def Devfile.ofContents? (contents : ByteArray) : Option Devfile := do
  let text ← Text.fromUtf8? contents
  Devfile.ofTree? (← Yaml.Tree.ofText? text.toList)

/-- The text of a devfile. -/
def Devfile.text (devfile : Devfile) : String := devfile.toValue.document

/-- A devfile and where it is kept. -/
structure Manifest where
  path : Path
  devfile : Devfile
  deriving Inhabited, Repr

namespace Manifest

/-- The manifest that some bytes from an origin make at a path. -/
def ofContents (contents : ByteArray) (origin : String) (path : Path) : Except Cause Manifest :=
  match Devfile.ofContents? contents with
  | none => .error (.manifestInvalid origin undisclosed)
  | some devfile =>
    match devfile.defect? with
    | some defect => .error (.manifestInvalid origin defect.message)
    | none => .ok ⟨path, devfile⟩

/-- The bytes that are written for a manifest. -/
def contents (manifest : Manifest) : ByteArray := manifest.devfile.text.toUTF8

/-- The same manifest for a component of another name. -/
def withName (manifest : Manifest) (name : String) : Manifest :=
  { manifest with devfile := manifest.devfile.withName name }

variable {σ : Type} [Storage σ]

/-- Read the manifest at a path. -/
def read (path : Path) : Run σ Cause Manifest := do
  let contents ← Run.during "read devfile" path (Run.read path)
  Run.ofExcept (ofContents contents path.text path)

/-- Stage the bytes acquired for a directory, once they are known to be a manifest. -/
def stage (directory : Path) (contents : ByteArray) (origin : String) : Run σ Cause Manifest := do
  let path := manifestPath directory
  let manifest ← Run.ofExcept (ofContents contents origin path)
  Run.during "write devfile" path (Run.write path contents)
  pure manifest

/-- Write a manifest. -/
def save (manifest : Manifest) : Run σ Cause Unit :=
  Run.during "write devfile" manifest.path (Run.write manifest.path manifest.contents)

end Manifest

end Scaffold
