import Scaffold.Text.Escaped
import Scaffold.Text.Split

/-! # Paths

A path is the text it was given as. What it denotes is its list of components: repeated and trailing
slashes are dropped, and so is every `.` except one that opens a relative path. Messages show the text;
everything else looks at the components. A name that is no text is kept in one that differs from all others.
-/

namespace Scaffold

/-- One component of a path. -/
inductive PathComponent
  /-- The root directory, always first. -/
  | root
  /-- The current directory, which only opens a relative path. -/
  | here
  /-- The parent directory. -/
  | up
  /-- A plain name. -/
  | name (text : String)
  deriving DecidableEq, Repr, Inhabited

namespace PathComponent

/-- The text of a component. -/
def text : PathComponent → String
  | root => "/"
  | here => "."
  | up => ".."
  | name text => text

/-- Components of different kinds are ordered root, current directory, parent directory, name. -/
def rank : PathComponent → Nat
  | root => 0
  | here => 1
  | up => 2
  | name _ => 3

instance : LT PathComponent where
  lt a b := a.rank < b.rank ∨ (a.rank = b.rank ∧ a.text < b.text)

instance (a b : PathComponent) : Decidable (a < b) :=
  inferInstanceAs (Decidable (_ ∨ _))

/-- The component a piece between slashes stands for; none if it is empty or `.`. -/
def ofPiece? : List Char → Option PathComponent
  | [] => none
  | ['.'] => none
  | ['.', '.'] => some up
  | piece => some (name (String.ofList piece))

/-- The name, if the component is a plain name. -/
def name? : PathComponent → Option String
  | name text => some text
  | _ => none

end PathComponent

/-- A path as its components. -/
abbrev Route := List PathComponent

/-- A path as it was written. -/
structure Path where
  text : String
  deriving DecidableEq, Repr, Inhabited

namespace Route

/-- The path that writes the components with single slashes. -/
def toPath : Route → Path
  | .root :: rest => ⟨"/" ++ "/".intercalate (rest.map PathComponent.text)⟩
  | route => ⟨"/".intercalate (route.map PathComponent.text)⟩

/-- The route without its last component; the root and the empty route have no parent. -/
def parent? : Route → Option Route
  | [] => none
  | [.root] => none
  | route => some route.dropLast

/-- The proper ancestors that are left after dropping up to `count` components, the nearest first. -/
def ancestorsFrom : Nat → Route → List Route
  | 0, route => [route]
  | count + 1, route =>
    match parent? route with
    | none => [route]
    | some parent => route :: ancestorsFrom count parent

/-- The route itself and the routes above it, the nearest first. -/
def ancestors (route : Route) : List Route := ancestorsFrom route.length route

/-- Follow one more component: `.` stays, `..` climbs but never above the root. -/
def follow (route : Route) : PathComponent → Route
  | .here => route
  | .up => (parent? route).getD route
  | component => route ++ [component]

/-- The route without `.` and `..`. -/
def normalize (route : Route) : Route := route.foldl follow []

/-- The last component, if it is a plain name. -/
def fileName? (route : Route) : Option String := route.getLast?.bind PathComponent.name?

end Route

namespace Path

/-- Whether the path starts at the root. -/
def isAbsolute (path : Path) : Bool := path.text.toList.head? == some '/'

/-- The components of a path. -/
def components (path : Path) : Route :=
  match Text.split '/' path.text.toList with
  | [] => []
  | ['.'] :: pieces => .here :: pieces.filterMap PathComponent.ofPiece?
  | [] :: [] => []
  | [] :: pieces => .root :: pieces.filterMap PathComponent.ofPiece?
  | pieces => pieces.filterMap PathComponent.ofPiece?

/-- The text that messages show. -/
def shown (path : Path) : String := Text.shown path.text

/-- Whether two paths have the same components. -/
def same (a b : Path) : Bool := a.components == b.components

/-- A path below another one. An absolute second path replaces the first; otherwise the two texts are
put together with one slash. -/
def join (base path : Path) : Path :=
  if path.isAbsolute then path
  else
    let opening := base.text.toList
    if opening.isEmpty || opening.getLast? == some '/' then ⟨base.text ++ path.text⟩
    else ⟨base.text ++ "/" ++ path.text⟩

/-- Drop the pieces at the end that stand for no component. -/
def dropTrailing (pieces : List (List Char)) : List (List Char) :=
  (pieces.reverse.dropWhile fun piece => (PathComponent.ofPiece? piece).isNone).reverse

/-- The text up to the last component; the root and the empty path have no parent. -/
def parent? (path : Path) : Option Path :=
  let rebuild (opening : List Char) (slash : Bool) (pieces : List (List Char)) : Path :=
    let kept := dropTrailing (dropTrailing pieces).dropLast
    let body := Text.glue '/' kept
    ⟨String.ofList (opening ++ (if slash && !kept.isEmpty then ['/'] else []) ++ body)⟩
  match Text.split '/' path.text.toList with
  | [] => none
  | ['.'] :: pieces =>
    if (dropTrailing pieces).isEmpty then some ⟨""⟩ else some (rebuild ['.'] true pieces)
  | [] :: pieces => if (dropTrailing pieces).isEmpty then none else some (rebuild ['/'] false pieces)
  | pieces => some (rebuild [] false pieces)

/-- The last component, if it is a plain name. -/
def fileName? (path : Path) : Option String := path.components.fileName?

/-- The path below its first component, if that has the given name. -/
def below? (path : Path) (name : String) : Option Path :=
  match Text.split '/' path.text.toList with
  | first :: pieces =>
    if PathComponent.ofPiece? first = some (.name name) then
      let kept := pieces.dropWhile fun piece => (PathComponent.ofPiece? piece).isNone
      some ⟨String.ofList (Text.glue '/' (dropTrailing kept))⟩
    else none
  | [] => none

end Path

/-- The extension of a file name: what follows its last dot, unless that dot opens the name. -/
def fileExtension? (name : String) : Option String :=
  let suffix := (name.toList.reverse.takeWhile (· ≠ '.')).reverse
  let stemLength := name.length - suffix.length
  if name = ".." ∨ stemLength ≤ 1 then none else some (String.ofList suffix)

end Scaffold
