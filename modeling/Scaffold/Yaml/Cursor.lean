/-! # Places in a YAML text

A cursor is what is left of a text, together with the place reached: characters passed, lines passed, and
characters passed in the line. The kinds of characters that the rules of YAML speak of are defined here too.
-/

namespace Scaffold.Yaml

/-- A line break: line feed, carriage return, next line, line separator or paragraph separator. -/
def isBreak (c : Char) : Bool :=
  c = '\n' || c = '\r' || c.toNat = 0x85 || c.toNat = 0x2028 || c.toNat = 0x2029

/-- A space or a tab. -/
def isBlank (c : Char) : Bool := c = ' ' || c = '\t'

/-- A character of a name. -/
def isWord (c : Char) : Bool := c.isAlphanum || c = '_' || c = '-'

/-- Whether a character may occur in a text at all. -/
def isAllowed (c : Char) : Bool :=
  c = '\t' || c = '\n' || c = '\r' || (0x20 ≤ c.toNat && c.toNat ≤ 0x7E) || c.toNat = 0x85
    || (0xA0 ≤ c.toNat && c.toNat ≤ 0xFFFD) || 0x10000 ≤ c.toNat

/-- A byte order mark. -/
def isMark (c : Char) : Bool := c.toNat = 0xFEFF

/-- What is left of a text, and the place reached. -/
structure Cursor where
  rest : List Char
  index : Nat := 0
  line : Nat := 0
  column : Nat := 0
  deriving Inhabited

namespace Cursor

/-- The next character. -/
def peek? (cursor : Cursor) : Option Char := cursor.rest.head?

/-- The character after the next. -/
def second? (cursor : Cursor) : Option Char := cursor.rest.tail.head?

/-- Whether the next character satisfies a test. -/
def sees (cursor : Cursor) (test : Char → Bool) : Bool := cursor.peek?.any test

/-- Whether the next character is the given one. -/
def isAt (cursor : Cursor) (c : Char) : Bool := cursor.peek? = some c

/-- Whether nothing is left. -/
def atEnd (cursor : Cursor) : Bool := cursor.rest.isEmpty

/-- Whether the line ends here. -/
def atLineEnd (cursor : Cursor) : Bool := cursor.atEnd || cursor.sees isBreak

/-- Whether a character, or the end of the text in its place, is a blank or a break. -/
def separates : Option Char → Bool
  | none => true
  | some c => isBlank c || isBreak c

/-- Whether a blank, a break or the end is next. -/
def atGap (cursor : Cursor) : Bool := separates cursor.peek?

/-- Whether a blank, a break or the end comes after the next character. -/
def gapFollows (cursor : Cursor) : Bool := separates cursor.second?

/-- Pass one character of a line. -/
def advance (cursor : Cursor) : Cursor :=
  { cursor with
    rest := cursor.rest.tail
    index := cursor.index + 1
    column := cursor.column + 1 }

/-- Pass a number of characters of a line. -/
def advanceBy (cursor : Cursor) : Nat → Cursor
  | 0 => cursor
  | count + 1 => cursor.advance.advanceBy count

/-- Pass a line break, if there is one. -/
def newline (cursor : Cursor) : Cursor :=
  match cursor.rest with
  | '\r' :: '\n' :: rest => ⟨rest, cursor.index + 2, cursor.line + 1, 0⟩
  | c :: rest => if isBreak c then ⟨rest, cursor.index + 1, cursor.line + 1, 0⟩ else cursor
  | [] => cursor

/-- How a line break is read: the two separators stay, every other break is a line feed. -/
def breakText (cursor : Cursor) : List Char :=
  match cursor.peek? with
  | none => []
  | some c =>
    if c.toNat = 0x2028 || c.toNat = 0x2029 then [c] else if isBreak c then ['\n'] else []

/-- Pass the characters of a line that satisfy a test. -/
def skipWhile (cursor : Cursor) (test : Char → Bool) : Cursor :=
  let passed := (cursor.rest.takeWhile test).length
  { cursor with
    rest := cursor.rest.dropWhile test
    index := cursor.index + passed
    column := cursor.column + passed }

/-- Pass the rest of the line. -/
def skipLine (cursor : Cursor) : Cursor := cursor.skipWhile fun c => !isBreak c

/-- The characters of a line that satisfy a test, and the cursor after them. -/
def spanWhile (cursor : Cursor) (test : Char → Bool) : List Char × Cursor :=
  (cursor.rest.takeWhile test, cursor.skipWhile test)

/-- Whether a line starts here with a marker of three equal characters. -/
def atMarker (cursor : Cursor) (c : Char) : Bool :=
  cursor.column = 0 && [c, c, c].isPrefixOf cursor.rest && separates (cursor.rest.drop 3).head?

/-- Whether the start or the end of a document is marked here. -/
def atDocumentMarker (cursor : Cursor) : Bool := cursor.atMarker '-' || cursor.atMarker '.'

/-- Pass blanks and then a comment. -/
def skipComment (cursor : Cursor) : Cursor :=
  let cursor := cursor.skipWhile isBlank
  if cursor.isAt '#' then cursor.skipLine else cursor

end Cursor

end Scaffold.Yaml
