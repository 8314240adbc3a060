import Scaffold.CommandLine.Help
import Scaffold.Component
import Scaffold.Preference
import Scaffold.Session

/-! # Reports

What the program prints about a run. Results go to the standard output. Notices and failures go to the standard
error, except that a failure reported as JSON is a result.
-/

namespace Scaffold

/-- What the program prints and how it ends. -/
structure Report where
  output : String := ""
  errors : String := ""
  exitCode : Nat := 0
  deriving DecidableEq, Repr, Inhabited

namespace Report

/-- A line of output. -/
def line (text : String) : String := text ++ "\n"

/-- A text in bold type. -/
def bold (text : String) : String := "\x1b[1m" ++ text ++ "\x1b[0m"

/-- A notice on a line. -/
def noticeLine (message : String) : String := line ("• " ++ message)

/-- A component that was set up, in words. -/
def ofComponent (component : Component) : String :=
  line ("✓ Component " ++ bold component.name ++ " initialized") ++
    line ("  Devfile: " ++ component.manifestPath.text) ++
    ((component.starter?.map fun starter => line ("  Starter project: " ++ starter)).getD "") ++
    line "" ++ line component.exitMessage

/-- A component that was set up, as JSON. -/
def jsonOfComponent (component : Component) (telemetry : Telemetry) : Json :=
  .object
    [("name", .string component.name), ("devfilePath", .string component.manifestPath.text),
      ("backend", .string component.backend.name), ("starter", .ofText? component.starter?),
      ("telemetry", .object telemetry.snapshot)]

/-- A failure in words: the cause, and what became of the directory. -/
def ofFailure (failure : Failure) : String :=
  line ("✗ " ++ failure.cause.message) ++
    match failure.cleanup with
    | .preserved => line ("⚠ " ++ failure.cleanup.message)
    | .nothingWritten | .devfileRemoved => noticeLine failure.cleanup.message

/-- A failure as JSON. -/
def jsonOfFailure (failure : Failure) (telemetry : Telemetry) : Json :=
  .object
    [("error", .string failure.cause.label), ("message", .string failure.cause.message),
      ("cleanup", .string failure.cleanup.message), ("telemetry", .object telemetry.snapshot)]

/-- The report of a run's outcome, apart from its notices. -/
def ofOutcome (format : CommandLine.Format) (telemetry : Telemetry) : Except Failure Component → Report
  | .ok component =>
    { output := match format with
        | .text => ofComponent component
        | .json => line (jsonOfComponent component telemetry).render }
  | .error failure =>
    let report : Report := match format with
      | .text => { errors := ofFailure failure }
      | .json => { output := line (jsonOfFailure failure telemetry).render }
    { report with exitCode := failure.exitCode }

/-- The notices of a session, where they are shown. -/
def notices {σ : Type} (session : Session σ) : String :=
  match session.prompter with
  | .silent => ""
  | _ =>
    String.join <| session.events.filterMap fun event =>
      match event with
      | .notice message => some (noticeLine message)
      | _ => none

/-- The report of unusable preferences. -/
def ofPreferences (path : Path) (problem : Preferences.Problem) : Report :=
  { errors := line "Error: Failed to load preferences" ++ line "" ++ line "Caused by:" ++
      line ("    " ++ problem.message path)
    exitCode := 1 }

/-- The report of arguments that do not ask for a run. -/
def ofAside : CommandLine.Aside → Report
  | .help topic => { output := line (CommandLine.helpText topic) }
  | .version => { output := line CommandLine.versionText }
  | .misuse misuse =>
    { errors := line ("error: " ++ misuse.message) ++ line "" ++ line (CommandLine.helpText .program)
      exitCode := 2 }

end Report

end Scaffold
