import Scaffold.Initialise
import Scaffold.Preference.Location
import Scaffold.Report

/-! # The program

From arguments and environment to a report. Preferences that cannot be used stop the program before anything
else is looked at. Nobody is asked, nor told anything on the way, once some flag is given.
-/

namespace Scaffold.Program

variable {σ : Type} [Storage σ]

/-- The session of a request: with flags, nobody is there to answer. -/
def attend (flags : Flags) (session : Session σ) : Session σ :=
  if flags.isEmpty then session else { session with prompter := .silent }

/-- Answer a request. -/
def answer (request : CommandLine.Request) (preferenceFile : Path) (session : Session σ) : Report × Session σ :=
  match (Preferences.load preferenceFile).apply (attend request.flags session) with
  | (.error problem, session) => (Report.ofPreferences preferenceFile problem, session)
  | (.ok preferences, session) =>
    let (outcome, session) := (Run.initialise preferences.registries request.flags).apply session
    let report := Report.ofOutcome request.format session.telemetry outcome
    ({ report with errors := Report.notices session ++ report.errors }, session)

/-- Answer the arguments of the program. -/
def run (environment : Preference.Environment) (arguments : List String) (session : Session σ) :
    Report × Session σ :=
  match CommandLine.read arguments with
  | .ok request => answer request environment.preferenceFile session
  | .error aside => (Report.ofAside aside, session)

end Scaffold.Program
