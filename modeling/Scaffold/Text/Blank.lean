import Scaffold.Text.CodePoints

/-! # White space at the ends of a text

The white space of Unicode, and texts with their leading or trailing characters of one kind removed.
-/

namespace Scaffold.Text

/-- The white-space characters. -/
def blanks : CodePoints :=
  [(0x09, 0x0D), (0x20, 0x20), (0x85, 0x85), (0xA0, 0xA0), (0x1680, 0x1680), (0x2000, 0x200A),
  (0x2028, 0x2029), (0x202F, 0x202F), (0x205F, 0x205F), (0x3000, 0x3000)]

/-- Whether a character is white space. -/
def isBlank (c : Char) : Bool := blanks.contains c

/-- Drop the longest run of matching characters at the start. -/
def trimStart (drop : Char → Bool) (text : List Char) : List Char := text.dropWhile drop

/-- Drop the longest run of matching characters at the end. -/
def trimEnd (drop : Char → Bool) (text : List Char) : List Char :=
  (text.reverse.dropWhile drop).reverse

/-- Drop the white space at both ends. -/
def trim (text : List Char) : List Char := trimEnd isBlank (trimStart isBlank text)

end Scaffold.Text
