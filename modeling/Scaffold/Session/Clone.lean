import Scaffold.Session

/-! # Cloning repositories

The work tree of a repository at a revision, in a directory of its own. Cancellation ends a clone that is under way, and
also one that begins when the run was cancelled already, unless the clone comes to its end first.
-/

namespace Scaffold.Run

variable {σ : Type}

/-- The repository that is reached at an address. -/
def repository? (network : Network) (url : String) : Option Repository :=
  if network.online then network.repositories.lookup url else none

/-- Why a repository cannot be cloned. -/
def refusal (url : String) : String := "failed to clone repository '" ++ url ++ "': " ++ undisclosed

/-- What becomes of a clone once the repository has answered. -/
def checkedOut (url : String) (repository : Repository) (revision? : Option String) (mishap? : Option Mishap)
    (fail : String → Cause) : Except Cause ClonedTree :=
  match mishap?, repository.checkout? revision? with
  | some (.task reason), _ => .error (fail ("clone task failed: " ++ reason))
  | _, none => .error (fail (refusal url))
  | some (.checkout reason), some _ =>
    .error (fail ("failed to checkout revision '" ++ revision?.getD "HEAD" ++ "': " ++ reason))
  | some (.listing count reason), some files => .ok ⟨files, some (count, reason)⟩
  | _, some files => .ok ⟨files, none⟩

/-- Clone a repository into a directory that is there for it. -/
def cloneInto (url : String) (revision? : Option String) (fail : String → Cause) : Run σ Cause ClonedTree := do
  match repository? (← get).network url with
  | none => throw (fail (refusal url))
  | some repository => do
    note (.reached url)
    if repository.cancels then hang
    else ofExcept (checkedOut url repository revision? (← get).mishap? fail)

/-- Clone a repository and check out a revision, or else what it offers first. -/
def clone (url : String) (revision? : Option String) (fail : String → Cause) : Run σ Cause ClonedTree := do
  match (← get).mishap? with
  | some (.directory reason) => throw (fail ("failed to create temporary directory: " ++ reason))
  | _ => do
    note (.clone url)
    if (← get).isCancelled && !(← get).prevails then throw .cancelled
    else awaited (cloneInto url revision? fail)

end Scaffold.Run
