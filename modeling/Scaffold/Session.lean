import Scaffold.Archive.Entry
import Scaffold.Failure
import Scaffold.Files.Call
import Scaffold.Network
import Scaffold.Prompt
import Scaffold.Telemetry

/-! # Sessions

All that a run acts on, and the log of what it did. A step of a run either returns or fails, and in both
cases leaves a session: what was done before a failure stays done and stays in the log.

A run is cancelled from outside, at any moment: before it starts, while it waits for the network or for the user, during
a call to the files, or just when a fetch or a clone comes to its end. In the last case it is left to chance whether the
run sees the cancellation or the end first, so that both are possible. The prepared answers say when the run is cancelled
while it waits, and for the other moments the session tells how often the same goes well before.
-/

namespace Scaffold

/-- Something that a run did or that happened to it. -/
inductive Event
  /-- A call to the filesystem, and how it failed if it did. -/
  | files (call : FileCall) (error? : Option IoError)
  /-- The contents of an address were asked for. -/
  | fetch (url : String)
  /-- A request went out to an address. -/
  | request (address : String)
  /-- A repository was to be cloned. -/
  | clone (url : String)
  /-- A repository answered. -/
  | reached (url : String)
  /-- A notice to the user. -/
  | notice (message : String)
  | question (question : Question)
  /-- The run was cancelled while it waited, and what it waited for never came. -/
  | cancelled
  /-- The run was cancelled just when a fetch or a clone came to its end, which counts all the same. -/
  | tied

/-- What goes wrong on this side of a clone. -/
inductive Mishap
  /-- There is no directory to clone into. -/
  | directory (reason : String)
  /-- The task that clones breaks down. -/
  | task (reason : String)
  /-- The files of the revision cannot be checked out. -/
  | checkout (reason : String)
  /-- Only so many entries of what was checked out can be listed. -/
  | listing (count : Nat) (reason : String)
  deriving DecidableEq, Repr, Inhabited

/-- What a clone leaves. -/
structure ClonedTree where
  files : WorkTree
  /-- How many entries can be listed before listing fails, and why it does. -/
  break? : Option (Nat × String) := none
  deriving Inhabited

/-- What a run acts on. -/
structure Session (σ : Type) where
  files : σ
  network : Network := {}
  prompter : Prompter := .silent
  isCancelled : Bool := false
  /-- How many calls to the files come before the one during which the run is cancelled. -/
  cancelsAfter? : Option Nat := none
  /-- How many fetches and clones come to their end before the one that does so just when the run is cancelled. -/
  tiesAfter? : Option Nat := none
  mishap? : Option Mishap := none
  unpack : Archive.Unpack := .nothing
  telemetry : Telemetry := Telemetry.empty
  /-- What happened, the latest first. -/
  log : List Event := []

/-- A step of a run, which may fail with an error of a given type. -/
abbrev Run (σ ε : Type) := ExceptT ε (StateM (Session σ))

namespace Session

variable {σ : Type}

/-- What happened, the earliest first. -/
def events (session : Session σ) : List Event := session.log.reverse

/-- Add an event to the log. -/
def note (session : Session σ) (event : Event) : Session σ :=
  { session with log := event :: session.log }

/-- Cancel the run. -/
def cancel (session : Session σ) : Session σ :=
  { session with isCancelled := true, log := .cancelled :: session.log }

/-- Whether the run is cancelled within so many calls to the files from where it happens after a number of them. -/
def strikes (after? : Option Nat) (calls : Nat) : Bool := after?.any (· < calls)

/-- How many calls are left then until it happens. -/
def remaining (after? : Option Nat) (calls : Nat) : Option Nat :=
  after?.bind fun after => if after < calls then none else some (after - calls)

/-- Whether the next fetch or clone counts although the run is cancelled. -/
def prevails (session : Session σ) : Bool := session.tiesAfter? = some 0

/-- Come to the end of a fetch or a clone. -/
def concluded (session : Session σ) : Session σ :=
  if session.isCancelled then session
  else if session.prevails then
    { session with isCancelled := true, tiesAfter? := none, log := .tied :: session.log }
  else { session with tiesAfter? := session.tiesAfter?.map (· - 1) }

end Session

namespace Run

variable {σ ε α : Type}

/-- Run a step. -/
def apply (step : Run σ ε α) (session : Session σ) : Except ε α × Session σ :=
  StateT.run (ExceptT.run step) session

/-- A step given by what it returns and the session it leaves. -/
def ofFunction (step : Session σ → Except ε α × Session σ) : Run σ ε α := ExceptT.mk step

/-- A step that only returns or fails. -/
def ofExcept (result : Except ε α) : Run σ ε α := ofFunction fun session => (result, session)

/-- A step that only changes the session. -/
def update (change : Session σ → Session σ) : Run σ ε Unit :=
  ofFunction fun session => (.ok (), change session)

/-- Add an event to the log. -/
def note (event : Event) : Run σ ε Unit := update (·.note event)

/-- Keep what a step does and turn its failure into a value. -/
def attempt {ε' : Type} (step : Run σ ε α) : Run σ ε' (Except ε α) :=
  ofFunction fun session =>
    let (result, session) := step.apply session
    (.ok result, session)

/-- A step whose error is told in other terms. -/
def mapError {ε' : Type} (restate : ε → ε') (step : Run σ ε α) : Run σ ε' α :=
  ofFunction fun session =>
    let (result, session) := step.apply session
    (result.mapError restate, session)

/-- Fail if the run was cancelled. -/
def checkCancelled : Run σ Cause Unit :=
  ofFunction fun session =>
    (if session.isCancelled then .error .cancelled else .ok (), session)

/-- Wait for something that never comes, until the run is cancelled. -/
def hang : Run σ Cause α :=
  ofFunction fun session => (.error .cancelled, session.cancel)

/-- Do something that takes time and comes to its end, unless it waits until the run is cancelled. -/
def awaited (step : Run σ ε α) : Run σ ε α :=
  ofFunction fun session =>
    let (outcome, session) := step.apply session
    (outcome, session.concluded)

/-- Do something that takes time, unless the run was cancelled already. -/
def guarded (step : Run σ Cause α) : Run σ Cause α := do
  checkCancelled
  step

/-- Record a fact. -/
def record (key : TelemetryKey) (value : Json) : Run σ ε Unit :=
  update fun session => { session with telemetry := session.telemetry.record key value }

end Run

end Scaffold
