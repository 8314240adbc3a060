import Scaffold.Flags

/-! # Backends

Exactly one backend serves a run: flags decide if there are any, else the sources if the directory holds
any, else the user.
-/

namespace Scaffold

/-- Where the devfile, the starter and the name come from. -/
inductive BackendKind
  | flags
  | detection
  | interactive
  deriving DecidableEq, Repr, Inhabited

namespace BackendKind

/-- The backend for some flags in a directory that is empty or not. -/
def choose (flags : Flags) (directoryIsEmpty : Bool) : BackendKind :=
  if !flags.isEmpty then .flags else if directoryIsEmpty then .interactive else .detection

/-- The name of a backend. -/
def name : BackendKind → String
  | flags => "flags"
  | detection => "detection"
  | interactive => "interactive"

end BackendKind

end Scaffold
