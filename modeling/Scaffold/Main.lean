import Scaffold.Files.Disk
import Scaffold.Program

/-! # The program on a real disk

The working directory, the preference file and the devfile that is named are read, the program runs on them,
and the files it changed are written back. No server is reached, and nobody is asked.
-/

namespace Scaffold

/-- How many levels of the working directory are read. -/
def snapshotDepth : Nat := 4

/-- Put a file on a disk, if there is one. -/
def loadFile (disk : Disk) (path : Path) : IO Disk := do
  try
    let contents ← IO.FS.readBinFile path.text
    pure (disk.place path (.file contents Disk.newFileMode))
  catch _ => pure disk

/-- The names in a directory; none for anything else. -/
def namesIn? (path : Path) : IO (Option (List String)) := do
  let root ← IO.currentDir
  try
    let entries ← (root / path.text).readDir
    pure (some (entries.toList.map (·.fileName)))
  catch _ => pure none

/-- Put an entry on a disk, with what is in it down to a number of levels. -/
def loadEntry (path : Path) (disk : Disk) : Nat → IO Disk
  | 0 => pure disk
  | levels + 1 => do
    match ← namesIn? path with
    | none => loadFile disk path
    | some names =>
      names.foldlM (fun disk name => loadEntry (path.join ⟨name⟩) disk levels) (disk.place path .directory)

/-- Write back what became of the entries of a disk. -/
def writeBack (before after : Disk) : IO Unit := do
  let pathOf (names : List String) : String := "/" ++ "/".intercalate names
  for (names, node) in before.nodes.entries do
    if (after.get? names).isNone then
      if let .file .. := node then IO.FS.removeFile (pathOf names)
  for (names, node) in after.nodes.entries do
    match node, before.get? names with
    | .directory, none => IO.FS.createDirAll (pathOf names)
    | .file contents _, some (.file earlier _) =>
      if !(contents == earlier) then IO.FS.writeBinFile (pathOf names) contents
    | .file contents _, _ => IO.FS.writeBinFile (pathOf names) contents
    | _, _ => pure ()

/-- What the environment says about preferences. -/
def readEnvironment : IO Preference.Environment := do
  pure ⟨← IO.getEnv "HOME", ← IO.getEnv "XDG_CONFIG_HOME", ← IO.getEnv "DEVINIT_PREFERENCE"⟩

/-- The part of the disk that the program may look at. -/
def loadDisk (environment : Preference.Environment) (arguments : List String) : IO Disk := do
  let directory : Path := ⟨(← IO.currentDir).toString⟩
  let disk ← loadEntry directory ⟨Disk.placeOf directory, .empty⟩ snapshotDepth
  let disk ← loadFile disk (directory.join environment.preferenceFile)
  match (CommandLine.read arguments).toOption.bind (·.flags.devfilePath) with
  | some path => loadFile disk (directory.join ⟨path⟩)
  | none => pure disk

end Scaffold

/-- Run the program. -/
def main (arguments : List String) : IO UInt32 := do
  let environment ← Scaffold.readEnvironment
  let disk ← Scaffold.loadDisk environment arguments
  let start : Scaffold.Session Scaffold.Disk :=
    { files := disk, network := ⟨false, [], []⟩, prompter := .withoutTerminal }
  let (report, session) := Scaffold.Program.run environment arguments start
  Scaffold.writeBack disk session.files
  IO.print report.output
  IO.eprint report.errors
  pure report.exitCode.toUInt32
