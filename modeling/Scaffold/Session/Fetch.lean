import Scaffold.Network.Status
import Scaffold.Session

/-! # Fetching pages

The contents of an address, with redirections followed up to ten times. Cancellation is looked for before the first
request, and ends a request that stays without an answer. An answer that comes just when the run is cancelled may count.
-/

namespace Scaffold.Run

variable {σ : Type}

/-- The next reply of a page. -/
def reply (address : String) : Run σ Cause Reply :=
  ofFunction fun session =>
    let (reply, pages) := Network.nextReply address session.network.pages
    (.ok reply,
      { session with
        network := { session.network with pages }
        log := .request address :: session.log })

/-- Where an answer leads instead. -/
def redirection? (url : Url) (status : Nat) (location : Option String) : Option Url.Target :=
  if Network.isRedirect status then location.bind (Url.parse? (some url)) else none

/-- How many redirections are followed. -/
def maxRedirections : Nat := 10

/-- Request an address and, while the count lasts, what it leads to. The failures are told without the
address. -/
def exchange (count : Nat) (url : Url) (fail : String → Cause) : Run σ Cause ByteArray := do
  if !(← get).network.online then throw (fail undisclosed)
  match ← reply url.text with
  | .dropped => throw (fail undisclosed)
  | .cancels => hang
  | .answer status body location complete =>
    match redirection? url status location with
    | some (.web next) =>
      match count with
      | 0 => throw (fail undisclosed)
      | count + 1 => exchange count next fail
    | some _ => throw (fail undisclosed)
    | none =>
      if !Network.isSuccess status then throw (fail ("HTTP " ++ Network.statusText status))
      else if complete then pure body
      else throw (fail undisclosed)

/-- The contents of an address. -/
def fetch (url : String) : Run σ Cause ByteArray :=
  guarded do
    note (.fetch url)
    awaited <|
      match Url.ofText? url with
      | none => throw (.fetchFailed url undisclosed)
      | some target => exchange maxRedirections target (.fetchFailed url)

end Scaffold.Run
