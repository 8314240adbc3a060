import Scaffold.Archive
import Scaffold.Location

/-! # Laying out starter projects

The entries of a starter project are written below a directory, over what is there already. Only what lies
below the subdirectory asked for is taken, and nothing that leads out of the project. Each entry that was
written counts, so that a layout that was interrupted tells whether it left anything behind.
-/

namespace Scaffold

open Archive (Entry Obstacle)

/-- Where entries go, and which of them. -/
structure Overlay where
  destination : Path
  /-- The names that lead to the subdirectory to take. -/
  subDirectory : List String := []
  deriving Repr, Inhabited, DecidableEq

/-- An obstacle, and how many entries had been written when it was met. -/
structure Interruption where
  obstacle : Obstacle
  written : Nat
  deriving Repr, Inhabited, DecidableEq

namespace Overlay

/-- The names in a path that leads only downwards. -/
def names? (path : Path) : Option (List String) :=
  (path.components.filter (· ≠ .here)).mapM PathComponent.name?

/-- Where names lead below the subdirectory, unless they lead only to it. -/
def below? (overlay : Overlay) (names : List String) : Option (List String) :=
  if overlay.subDirectory.isPrefixOf names then
    let rest := names.drop overlay.subDirectory.length
    if rest.isEmpty then none else some rest
  else none

/-- The path at which names are below the destination. -/
def placeOf (overlay : Overlay) (names : List String) : Path :=
  overlay.destination.join ⟨"/".intercalate names⟩

/-- Where a path of the project goes, if it is taken. -/
def target? (overlay : Overlay) (path : Path) : Except Obstacle (Option Path) :=
  match names? path with
  | none => .error (.unsafePath path)
  | some names => .ok ((overlay.below? names).map overlay.placeOf)

variable {σ : Type} [Storage σ]

/-- A call whose failure interrupts the layout. -/
def call {α : Type} (written : Nat) (obstacle : String → Obstacle) (step : Run σ IoError α) :
    Run σ Interruption α :=
  step.mapError fun error => ⟨obstacle error.message, written⟩

/-- Create a directory. -/
def createDirectory (written : Nat) (target : Path) : Run σ Interruption Nat := do
  call written (.notCreated target) (Run.createDirs target)
  pure (written + 1)

/-- Create the directory that a path is in. -/
def createParent (written : Nat) (target : Path) : Run σ Interruption Unit :=
  match target.parent? with
  | some parent => call written (.notCreated parent) (Run.createDirs parent)
  | none => pure ()

/-- Set permission bits if there are any to set. -/
def applyMode (written : Nat) (target : Path) (mode? : Option Nat) : Run σ Interruption Unit :=
  match mode? with
  | some mode => call written (.modeNotSet target) (Run.setMode target mode)
  | none => pure ()

/-- Write a file and the directory it is in, and then set its permission bits. -/
def writeFile (written : Nat) (target : Path) (contents : ByteArray) (mode? : Option Nat) :
    Run σ Interruption Nat := do
  createParent written target
  call written (.notWritten target) (Run.write target contents)
  applyMode (written + 1) target mode?
  pure (written + 1)

/-- Lay out one entry, whose path may begin with a directory that is left out. -/
def place (overlay : Overlay) (top? : Option String) (written : Nat) (entry : Entry) :
    Run σ Interruption Nat := do
  match overlay.target? (Archive.below top? entry.path) with
  | .error obstacle => throw ⟨obstacle, written⟩
  | .ok none => pure written
  | .ok (some target) =>
    if entry.isDirectory then createDirectory written target
    else
      match entry.contents? with
      | some contents => writeFile written target contents entry.mode?
      | none => throw ⟨.unreadableContents entry.path, written⟩

/-- Lay out entries one after another: how many were written. -/
def placeAll (overlay : Overlay) (top? : Option String) : Nat → List Entry → Run σ Interruption Nat
  | written, [] => pure written
  | written, entry :: rest => do
    let written ← overlay.place top? written entry
    overlay.placeAll top? written rest

/-- Lay out the entries that can be listed, and stop where no more of them can. -/
def placeListed (overlay : Overlay) (top? : Option String) (entries : List Entry) (stop? : Option Obstacle) :
    Run σ Interruption Nat := do
  let written ← overlay.placeAll top? 0 entries
  match stop? with
  | none => pure written
  | some obstacle => throw ⟨obstacle, written⟩

/-- Lay out an archive without the directory that all of it lies in. -/
def extract (overlay : Overlay) (unpack : Archive.Unpack) (archive : ByteArray) : Run σ Interruption Nat := do
  match Archive.entries unpack archive with
  | .error obstacle => throw ⟨obstacle, 0⟩
  | .ok entries => overlay.placeAll (Archive.commonTop? entries) 0 entries

/-- Remove the manifest staged at the destination, if there is one. -/
def clearManifest (overlay : Overlay) : Run σ IoError Unit := do
  match ← Run.attempt (Run.remove (manifestPath overlay.destination)) with
  | .ok () => pure ()
  | .error error => if error.kind = .notFound then pure () else throw error

end Overlay

end Scaffold
