import Scaffold.Files.Tree

/-! # Files that fail on schedule

A schedule of faults in front of a store. Before each call the faults are tried in order: one that matches
the call first lets a number of matching calls pass and then fails a number of them. Paths may also be
declared to be of no ordinary kind, and the permission bits that calls ask for are kept.
-/

namespace Scaffold

/-- Which calls a fault is about. -/
inductive FileOperation
  | workingDirectory
  | stat
  | remove
  | read
  | write
  | createDirs
  | list
  | setMode
  deriving DecidableEq, Repr, Inhabited

/-- The operation of a call. -/
def FileCall.operation : FileCall → FileOperation
  | .workingDirectory => .workingDirectory
  | .stat _ => .stat
  | .remove _ => .remove
  | .read _ => .read
  | .write _ _ => .write
  | .createDirs _ => .createDirs
  | .list _ => .list
  | .setMode _ _ => .setMode

/-- A fault of one operation on one path. -/
structure Fault where
  operation : FileOperation
  path : Path
  /-- How many matching calls still pass. -/
  skip : Nat
  /-- How many matching calls still fail; without a bound if absent. -/
  times : Option Nat
  error : IoError
  deriving DecidableEq, Repr, Inhabited

namespace Fault

/-- Whether a call is one the fault is about. -/
def matchesCall (fault : Fault) (call : FileCall) : Bool :=
  fault.operation = call.operation && fault.path.same call.path

/-- The first fault that strikes a call, and the schedule that is left. -/
def strike? (call : FileCall) : List Fault → Option IoError × List Fault
  | [] => (none, [])
  | fault :: rest =>
    let pass (kept : Fault) : Option IoError × List Fault :=
      let (error?, rest) := strike? call rest
      (error?, kept :: rest)
    if !fault.matchesCall call then pass fault
    else if 0 < fault.skip then pass { fault with skip := fault.skip - 1 }
    else
      match fault.times with
      | none => (some fault.error, fault :: rest)
      | some 0 => pass fault
      | some (times + 1) => (some fault.error, { fault with times := some times } :: rest)

end Fault

/-- A store with a schedule of faults. -/
structure Faulty (σ : Type) where
  inner : σ
  faults : List Fault
  /-- Paths whose entries are neither files nor directories. -/
  special : List Path
  /-- The permission bits last asked for, by path. -/
  modes : List (Path × Nat)
  deriving Inhabited

namespace Faulty

variable {σ : Type}

/-- Whether a path is declared special. -/
def isSpecial (store : Faulty σ) (path : Path) : Bool := store.special.any path.same

/-- The metadata of a path, with its kind replaced if the path is special. -/
def reviseStat (store : Faulty σ) (path : Path) (metadata : Metadata) : Metadata :=
  if store.isSpecial path then { metadata with kind := .other } else metadata

/-- A listing, with the kinds of special entries replaced. -/
def reviseList (store : Faulty σ) (path : Path) (entries : List DirEntry) : List DirEntry :=
  entries.map fun entry =>
    if store.isSpecial (path.join ⟨entry.name⟩) then { entry with kind := .other } else entry

/-- Bind a path to a mode in place of an earlier binding. -/
def recordMode (path : Path) (mode : Nat) : List (Path × Nat) → List (Path × Nat)
  | [] => [(path, mode)]
  | (p, m) :: rest =>
    if p.same path then (p, mode) :: rest else (p, m) :: recordMode path mode rest

/-- Answer a call unless a fault strikes. -/
def perform [Storage σ] (call : FileCall) (store : Faulty σ) : Except IoError call.Answer × Faulty σ :=
  match Fault.strike? call store.faults with
  | (some error, faults) => (.error error, { store with faults })
  | (none, faults) =>
    let store := { store with faults }
    match call with
    | .stat path =>
      let (answer, inner) := Storage.perform (.stat path) store.inner
      (answer.map (store.reviseStat path), { store with inner })
    | .list path =>
      let (answer, inner) := Storage.perform (.list path) store.inner
      (answer.map (store.reviseList path), { store with inner })
    | .setMode path mode =>
      let (answer, inner) := Storage.perform (.setMode path mode) store.inner
      (answer, { store with inner, modes := recordMode path mode store.modes })
    | call =>
      let (answer, inner) := Storage.perform call store.inner
      (answer, { store with inner })

instance [Storage σ] : Storage (Faulty σ) where
  perform := perform

/-- All files with their contents, in order of their routes and as they are shown. A path that is declared special keeps
what was written there. -/
def files (store : Faulty FileTree) : List (Path × ByteArray) :=
  store.inner.files.map fun (route, contents) => (⟨route.toPath.shown⟩, contents)

/-- All directories that are reached by listing from the root, each before those in it, as they are shown. -/
def directories (store : Faulty FileTree) : List Path :=
  let listed (route : Route) : Bool :=
    match store.inner.get? route with
    | some .directory => route = [.root] || (route.fileName?.isSome && !store.isSpecial route.toPath)
    | _ => false
  store.inner.nodes.keys.filterMap fun (route : Route) =>
    if route ≠ [.root] && route.ancestors.all listed then some ⟨route.toPath.shown⟩ else none

end Faulty

end Scaffold
