import Scaffold.Session

/-! # Files in a session -/

namespace Scaffold.Run

variable {σ : Type} [Storage σ]

/-- The error of a failed call. -/
def errorOf? {α : Type} : Except IoError α → Option IoError
  | .error error => some error
  | .ok _ => none

/-- Make a call to the filesystem and log it. The run may be cancelled meanwhile. -/
def call (call : FileCall) : Run σ IoError call.Answer :=
  ofFunction fun session =>
    let (answer, files) := Storage.perform call session.files
    (answer,
      { session with
        files
        isCancelled := session.isCancelled || Session.strikes session.cancelsAfter? 1
        cancelsAfter? := Session.remaining session.cancelsAfter? 1
        log := .files call (errorOf? answer) :: session.log })

/-- The working directory. -/
def workingDirectory : Run σ IoError Path := call .workingDirectory

/-- Kind and size of an entry. -/
def stat (path : Path) : Run σ IoError Metadata := call (.stat path)

/-- Remove a file. -/
def remove (path : Path) : Run σ IoError Unit := call (.remove path)

/-- The contents of a file. -/
def read (path : Path) : Run σ IoError ByteArray := call (.read path)

/-- Write a file. -/
def write (path : Path) (contents : ByteArray) : Run σ IoError Unit := call (.write path contents)

/-- Create a directory and its missing ancestors. -/
def createDirs (path : Path) : Run σ IoError Unit := call (.createDirs path)

/-- The entries of a directory. -/
def list (path : Path) : Run σ IoError (List DirEntry) := call (.list path)

/-- Set permission bits. -/
def setMode (path : Path) (mode : Nat) : Run σ IoError Unit := call (.setMode path mode)

/-- Whether a directory has no entries. -/
def isEmptyDir (path : Path) : Run σ IoError Bool := do
  pure (← list path).isEmpty

/-- Whether there is a regular file at a path. What cannot be inspected is none. -/
def isFile {ε : Type} (path : Path) : Run σ ε Bool := do
  match ← attempt (stat path) with
  | .ok metadata => pure metadata.isFile
  | .error _ => pure false

/-- The cause of a failed call, told as an action on a path. -/
def during {α : Type} (action : String) (path : Path) (step : Run σ IoError α) : Run σ Cause α :=
  step.mapError fun error => .io action path error.message

end Scaffold.Run
