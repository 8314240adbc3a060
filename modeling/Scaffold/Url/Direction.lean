import Scaffold.Url.DirectionTable

/-! # Directions in domain names

As soon as a label of a name has a character that runs from right to left, every label of the name must be readable
in one direction: it starts with a letter of that direction, holds none of the other one, and ends with a letter of
it or a digit.
-/

namespace Scaffold.Url

/-- How a character runs. -/
inductive Direction
  | left
  | right
  | arabicDigit
  | europeanDigit
  | attached
  | undirected
  deriving DecidableEq, Repr, Inhabited

namespace Direction

/-- How a character runs. -/
def ofChar (c : Char) : Direction :=
  if rightToLeft.contains c then right
  else if arabicDigits.contains c then arabicDigit
  else if europeanDigits.contains c then europeanDigit
  else if Url.attached.contains c then attached
  else if Url.undirected.contains c then undirected
  else left

/-- Whether a character makes its label one that runs from right to left. -/
def turns (direction : Direction) : Bool := direction = right || direction = arabicDigit

/-- Whether a label that runs from left to right is readable. -/
def readsRight (label : List Direction) : Bool :=
  !label.any turns
    && match label.reverse.dropWhile (· = attached) with
      | last :: _ => last = left || last = europeanDigit
      | [] => true

/-- Whether a label that runs from right to left is readable; it has digits of one kind at most. -/
def readsLeft (label : List Direction) : Bool :=
  !label.contains left && !(label.contains arabicDigit && label.contains europeanDigit)
    && match label.reverse.dropWhile (· = attached) with
      | last :: _ => last.turns || last = europeanDigit
      | [] => false

/-- Whether a label is readable in one direction. -/
def isReadable (label : List Direction) : Bool :=
  match label with
  | [] => true
  | first :: _ => if first = left then readsRight label else first = right && readsLeft label

/-- Whether the labels of a name are readable side by side. -/
def readable (labels : List (List Char)) : Bool :=
  let labels := labels.map (·.map ofChar)
  !labels.any (·.any turns) || labels.all isReadable

end Direction

end Scaffold.Url
