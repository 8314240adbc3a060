import Scaffold.Path
import Scaffold.Text.Search
import Scaffold.Url

/-! # The network

What the servers and repositories that a run can reach would answer. A page has a list of replies of which
each request takes the next; the last one is repeated. A network can be switched off, and then nothing is
reachable.
-/

namespace Scaffold

/-- What a server does with a request. Whether the run is cancelled just when it does so is for the session to tell. -/
inductive Reply
  /-- An answer, perhaps with a place to look instead. A body may end before its announced length. -/
  | answer (status : Nat) (body : ByteArray) (location : Option String) (complete : Bool)
  /-- The connection is closed without an answer. -/
  | dropped
  /-- No answer ever comes, and the run is cancelled meanwhile. -/
  | cancels
  deriving Inhabited

/-- One file of a checked-out work tree. -/
structure WorkFile where
  path : Path
  /-- What is in the file, if it can be read where it was checked out. -/
  contents : Option ByteArray
  /-- Mode bits as the repository records them; `0o120000` is a symbolic link. -/
  mode : Nat
  deriving Inhabited

/-- The files of a revision. -/
abbrev WorkTree := List WorkFile

/-- A repository that can be cloned. -/
structure Repository where
  /-- The branch that is checked out when no revision is asked for. -/
  head : String
  branches : List (String × WorkTree)
  tags : List (String × WorkTree)
  /-- Whether the run is cancelled while the clone is under way, which then never ends by itself. -/
  cancels : Bool
  deriving Inhabited

/-- Everything that can be reached. -/
structure Network where
  online : Bool := true
  pages : List (String × List Reply) := []
  repositories : List (String × Repository) := []
  deriving Inhabited

namespace Repository

/-- The work tree that a revision names: a full reference, or a tag or branch by its name. -/
def revision? (repository : Repository) (name : String) : Option WorkTree :=
  let below (opening : String) : Option String :=
    (Text.after? opening.toList name.toList).map String.ofList
  let branch? (name : String) : Option WorkTree := repository.branches.lookup name
  let tag? (name : String) : Option WorkTree := repository.tags.lookup name
  ((below "refs/heads/").bind branch?) <|> ((below "refs/tags/").bind tag?)
    <|> ((below "heads/").bind branch?) <|> ((below "tags/").bind tag?)
    <|> tag? name <|> branch? name

/-- The work tree of a checkout, of a revision or of the head. -/
def checkout? (repository : Repository) : Option String → Option WorkTree
  | none => repository.branches.lookup repository.head
  | some name => repository.revision? name

end Repository

namespace Network

/-- What an address without a page answers. -/
def notFound : Reply := .answer 404 ByteArray.empty none true

/-- The next reply of a page, and the pages that are left. -/
def nextReply (address : String) : List (String × List Reply) → Reply × List (String × List Reply)
  | [] => (notFound, [])
  | (page, replies) :: rest =>
    if page = address then
      match replies with
      | [] => (notFound, (page, []) :: rest)
      | [reply] => (reply, (page, [reply]) :: rest)
      | reply :: later => (reply, (page, later) :: rest)
    else
      let (reply, rest) := nextReply address rest
      (reply, (page, replies) :: rest)

end Network

end Scaffold
