import Scaffold.Yaml.Cursor
import Scaffold.Yaml.Token
import Scaffold.Yaml.Value.Plain

/-! # How texts are written

A text is written plain where this leaves no doubt about where it ends and what it stands for. A text of
several lines is written as a literal block. What neither form can hold goes between single quotes, and what
these cannot hold either goes between double quotes, where every character has a form.
-/

namespace Scaffold.Yaml.Style

/-- Whether a character may stand for itself outside double quotes. -/
def isShown (c : Char) : Bool := c = '\n' || (isAllowed c && !isMark c && c ≠ '\t' && c ≠ '\r' && c.toNat ≠ 0x85)

/-- Whether a blank, a break or the end of the text follows. -/
def gapAfter (rest : List Char) : Bool := Cursor.separates rest.head?

/-- Whether a plain text cannot start with a character. -/
def opensOther (c : Char) (rest : List Char) : Bool :=
  "#,[]&*!|>'\"%@".toList.contains c || c.toNat = 0x7B || c.toNat = 0x7D || c.toNat = 0x60
    || ((c = '?' || c = ':' || c = '-') && gapAfter rest)

/-- Whether a plain text would end at some place after the first character. -/
def endsEarly (previous : Char) : List Char → Bool
  | [] => false
  | c :: rest =>
    (c = ':' && gapAfter rest) || (c = '#' && Cursor.separates (some previous)) || endsEarly c rest

/-- Whether the marks of YAML forbid to write a text plain. -/
def hasIndicators (text : List Char) : Bool :=
  match text with
  | [] => false
  | c :: rest =>
    "---".toList.isPrefixOf text || "...".toList.isPrefixOf text || opensOther c rest || endsEarly c rest

/-- Whether a character for which the first test holds comes right before one for which the second does. -/
def hasPair (first second : Char → Bool) (text : List Char) : Bool :=
  (text.zip text.tail).any fun (left, right) => first left && second right

/-- A space. -/
def isSpace (c : Char) : Bool := c = ' '

/-- Whether a text keeps its meaning only between double quotes. -/
def isSpecial (text : List Char) : Bool := hasPair isSpace isBreak text || !text.all isShown

/-- Whether a text has several lines. -/
def isMultiline (text : List Char) : Bool := text.any isBreak

/-- Whether a text may be written plain, as far as its characters go. -/
def allowsPlain (text : List Char) : Bool :=
  !isSpecial text && !isMultiline text && !hasIndicators text
    && !text.head?.any isSpace && !text.getLast?.any isSpace

/-- Whether a text may be written between single quotes. -/
def allowsSingleQuotes (text : List Char) : Bool := !isSpecial text && !hasPair isBreak isSpace text

/-- Whether a text may be written as a literal block. -/
def allowsLiteral (text : List Char) : Bool := !isSpecial text && !text.getLast?.any isSpace

/-- How a text is written. -/
def ofText (text : String) : ScalarStyle :=
  let chars := text.toList
  if chars.contains '\n' then
    if allowsLiteral chars then .literal else .doubleQuoted
  else if !Value.needsQuotes text && allowsPlain chars then .plain
  else if allowsSingleQuotes chars then .singleQuoted
  else .doubleQuoted

/-- Whether a text can be a key in front of a colon in the same line: it has one line of at most 128 bytes. -/
def isSimpleKey (text : String) : Bool := !isMultiline text.toList && text.utf8ByteSize ≤ 128

end Scaffold.Yaml.Style
