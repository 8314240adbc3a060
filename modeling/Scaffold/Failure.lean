import Scaffold.Files.Error
import Scaffold.Path
import Scaffold.Text.Quoted

/-! # Failures of a run

A run fails for one cause, and its failure also tells what became of the staged manifest. Each cause has a
name, a category and one line of text; the category and the cleanup decide the exit code.
-/

namespace Scaffold

/-- What stands in a message for a diagnosis whose wording is not part of the interface. -/
def undisclosed : String := "<detail>"

/-- Why an operation failed. -/
inductive Cause
  | flagConflict
  | flagDependency
  | starterWithoutDevfile
  | devfileRequired
  | nameInvalid (name reason : String)
  | registryNotFound (name known : String)
  | devfilePathNotFound (path : Path)
  | alreadyInitialised (directory : Path)
  | fetchFailed (url reason : String)
  | manifestInvalid (origin reason : String)
  | devfileNotFound (name registries : String)
  | detectionFailed (directory : Path)
  | starterNotFound (name available : String)
  | downloadFailed (name reason : String)
  | extractFailed (name reason : String)
  | userAborted
  | cancelled
  | prompt (reason : String)
  | io (action : String) (path : Path) (error : String)
  deriving DecidableEq, Repr, Inhabited

/-- Groups of causes. -/
inductive Category
  /-- Rejected flags, before any network access. -/
  | validation
  /-- The directory refuses the command. -/
  | precondition
  | acquisition
  | extraction
  | user
  | runtime
  deriving DecidableEq, Repr, Inhabited

/-- What the rollback did to the context directory. -/
inductive Cleanup
  /-- The run failed before writing anything. -/
  | nothingWritten
  /-- The staged devfile was removed. -/
  | devfileRemoved
  /-- The starter project touched the directory, which was left as it is. -/
  | preserved
  deriving DecidableEq, Repr, Inhabited

/-- A failed run: the cause and what became of the directory. -/
structure Failure where
  cause : Cause
  cleanup : Cleanup
  deriving DecidableEq, Repr, Inhabited

namespace Cause

/-- The name of a cause. -/
def label : Cause → String
  | flagConflict => "FlagConflict"
  | flagDependency => "FlagDependency"
  | starterWithoutDevfile => "StarterWithoutDevfile"
  | devfileRequired => "DevfileRequired"
  | nameInvalid .. => "NameInvalid"
  | registryNotFound .. => "RegistryNotFound"
  | devfilePathNotFound _ => "DevfilePathNotFound"
  | alreadyInitialised _ => "AlreadyInitialised"
  | fetchFailed .. => "FetchFailed"
  | manifestInvalid .. => "ManifestInvalid"
  | devfileNotFound .. => "DevfileNotFound"
  | detectionFailed _ => "DetectionFailed"
  | starterNotFound .. => "StarterNotFound"
  | downloadFailed .. => "DownloadFailed"
  | extractFailed .. => "ExtractFailed"
  | userAborted => "UserAborted"
  | cancelled => "Cancelled"
  | prompt _ => "Prompt"
  | io .. => "Io"

/-- The category of a cause. -/
def category : Cause → Category
  | flagConflict | flagDependency | starterWithoutDevfile | devfileRequired | nameInvalid ..
  | registryNotFound .. | devfilePathNotFound _ => .validation
  | alreadyInitialised _ => .precondition
  | fetchFailed .. | manifestInvalid .. | devfileNotFound .. | detectionFailed _
  | starterNotFound .. => .acquisition
  | downloadFailed .. | extractFailed .. => .extraction
  | userAborted | cancelled => .user
  | prompt _ | io .. => .runtime

/-- The text of a cause. -/
def message : Cause → String
  | flagConflict => "--devfile and --devfile-path cannot be used together"
  | flagDependency => "--devfile-registry can only be used together with --devfile"
  | starterWithoutDevfile => "--starter requires --devfile or --devfile-path"
  | devfileRequired => "either --devfile or --devfile-path must be specified"
  | nameInvalid name reason => "invalid component name " ++ Text.quoted name ++ ": " ++ reason
  | registryNotFound name known =>
    "registry " ++ Text.quoted name ++ " is not configured (known registries: " ++ known ++ ")"
  | devfilePathNotFound path => "devfile not found at " ++ path.text
  | alreadyInitialised directory => "a devfile already exists in " ++ directory.text
  | fetchFailed url reason => "failed to fetch " ++ url ++ ": " ++ reason
  | manifestInvalid origin reason => "invalid devfile " ++ origin ++ ": " ++ reason
  | devfileNotFound name registries =>
    "devfile " ++ Text.quoted name ++ " not found in registries: " ++ registries
  | detectionFailed directory =>
    "could not detect a suitable devfile for the sources in " ++ directory.text
  | starterNotFound name available =>
    "starter project " ++ Text.quoted name ++ " not found in devfile (available: " ++ available ++ ")"
  | downloadFailed name reason =>
    "unable to download starter project " ++ Text.quoted name ++ ": " ++ reason
  | extractFailed name reason =>
    "unable to extract starter project " ++ Text.quoted name ++ ": " ++ reason
  | userAborted => "aborted by user"
  | cancelled => "operation cancelled"
  | prompt reason => "prompt failed: " ++ reason
  | io action path error => "failed to " ++ action ++ " " ++ path.text ++ ": " ++ error

end Cause

/-- The name of a category. -/
def Category.label : Category → String
  | validation => "Validation"
  | precondition => "Precondition"
  | acquisition => "Acquisition"
  | extraction => "Extraction"
  | user => "User"
  | runtime => "Runtime"

namespace Cleanup

/-- The name of a cleanup. -/
def label : Cleanup → String
  | nothingWritten => "NothingWritten"
  | devfileRemoved => "DevfileRemoved"
  | preserved => "Preserved"

/-- The text of a cleanup. -/
def message : Cleanup → String
  | nothingWritten => "the command failed, no files were written"
  | devfileRemoved =>
    "the command failed, manifest removed: devfile.yaml was deleted from the current directory"
  | preserved =>
    "the command failed after downloading the starter project, the directory is not cleaned up " ++
      "(user data may be present)"

end Cleanup

namespace Failure

/-- The cause on one line and the cleanup on the next. -/
def message (failure : Failure) : String := failure.cause.message ++ "\n" ++ failure.cleanup.message

/-- Aborts and cancellations that left nothing behind exit successfully. -/
def exitCode (failure : Failure) : Nat :=
  match failure.cause.category, failure.cleanup with
  | .user, .nothingWritten | .user, .devfileRemoved => 0
  | _, _ => 1

end Failure

end Scaffold
