/-! # Finding one text in another -/

namespace Scaffold.Text

/-- Whether the first text occurs somewhere in the second. -/
def occursIn (part : List Char) : List Char → Bool
  | [] => part.isEmpty
  | c :: rest => part.isPrefixOf (c :: rest) || occursIn part rest

/-- The text that follows a fixed opening, if it opens that way. -/
def after? : List Char → List Char → Option (List Char)
  | [], text => some text
  | _ :: _, [] => none
  | c :: opening, d :: text => if c = d then after? opening text else none

/-- The piece after the last occurrence of a separator; the whole text if there is none. -/
def lastPiece (separator : Char) (text : List Char) : List Char :=
  (text.reverse.takeWhile (· ≠ separator)).reverse

end Scaffold.Text
