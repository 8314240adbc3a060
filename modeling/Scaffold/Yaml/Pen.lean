import Scaffold.Yaml.Style

/-! # Writing YAML

Values are written in blocks: one entry or item a line, two spaces deeper for each mapping, and the items of a
sequence below a key at the column of that key. Lines are never folded.
-/

namespace Scaffold.Yaml

/-- What is written so far, and what its last line looks like. -/
structure Pen where
  /-- What is written, from its end. -/
  written : List Char := []
  column : Nat := 0
  /-- Whether a space was just written, or nothing yet in this line. -/
  afterSpace : Bool := true
  /-- Whether the line has nothing but indentation and marks of items and keys so far. -/
  atMargin : Bool := true
  deriving Inhabited

namespace Pen

/-- Write a character within a line. -/
def put (pen : Pen) (c : Char) : Pen := { pen with written := c :: pen.written, column := pen.column + 1 }

/-- Write characters within a line. -/
def puts (pen : Pen) (text : List Char) : Pen := text.foldl put pen

/-- Write a line break. -/
def newline (pen : Pen) (c : Char) : Pen := { pen with written := c :: pen.written, column := 0 }

/-- Go to the given column, in a new line unless the present one has nothing yet. -/
def indentTo (pen : Pen) (indent : Nat) : Pen :=
  let fresh := pen.atMargin && (pen.column < indent || (pen.column = indent && pen.afterSpace))
  let pen := if fresh then pen else pen.newline '\n'
  { pen.puts (List.replicate (indent - pen.column) ' ') with afterSpace := true, atMargin := true }

/-- Write a space unless there is one. -/
def space (pen : Pen) : Pen := if pen.afterSpace then pen else pen.put ' '

/-- Write a mark that further items may follow in the line. -/
def mark (pen : Pen) (c : Char) : Pen := { pen.space.put c with afterSpace := false }

/-- Write a word of a line. -/
def word (pen : Pen) (text : List Char) : Pen := { pen.space.puts text with afterSpace := false, atMargin := false }

/-- Write the colon right after a key. -/
def colon (pen : Pen) : Pen := { pen.put ':' with afterSpace := false, atMargin := false }

/-- Write the characters of a literal block. -/
def literalLines (indent : Nat) (pen : Pen) : List Char → Bool → Pen
  | [], _ => pen
  | c :: rest, starts =>
    if isBreak c then literalLines indent { pen.newline c with atMargin := true } rest true
    else
      let pen := if starts then pen.indentTo indent else pen
      literalLines indent { pen.put c with atMargin := false } rest false

/-- What a literal block says about its indentation and about the breaks at its end. -/
def literalHints (text : List Char) : List Char :=
  let indentation := if text.head?.any fun c => c = ' ' || isBreak c then ['2'] else []
  let ending :=
    match text.reverse with
    | [] => ['-']
    | last :: before =>
      if !isBreak last then ['-'] else if before.isEmpty || before.head?.any isBreak then ['+'] else []
  indentation ++ ending

/-- Write a literal block. -/
def literal (pen : Pen) (indent : Nat) (text : List Char) : Pen :=
  let pen := (pen.word ('|' :: literalHints text)).newline '\n'
  literalLines indent { pen with afterSpace := true, atMargin := true } text true

/-- Write what stands between single quotes. -/
def singleQuotedText (indent : Nat) (pen : Pen) : List Char → Bool → Pen
  | [], starts => if starts then pen.indentTo indent else pen
  | c :: rest, starts =>
    if isBreak c then singleQuotedText indent { pen.newline c with atMargin := true } rest true
    else
      let pen := if starts then pen.indentTo indent else pen
      let pen := if c = '\'' then pen.put c else pen
      singleQuotedText indent { pen.put c with atMargin := false } rest false

/-- Write a text between single quotes. -/
def singleQuoted (pen : Pen) (indent : Nat) (text : List Char) : Pen :=
  let pen := singleQuotedText indent (pen.word ['\'']) text false
  { pen.put '\'' with afterSpace := false, atMargin := false }

/-- A number of hexadecimal digits. -/
def hexadecimal (width value : Nat) : List Char :=
  let digits := (Nat.toDigits 16 value).map Char.toUpper
  List.replicate (width - digits.length) '0' ++ digits

/-- The characters that have a letter of their own after a backslash. -/
def escapeLetter? (code : Nat) : Option Char :=
  [(0x00, '0'), (0x07, 'a'), (0x08, 'b'), (0x09, 't'), (0x0A, 'n'), (0x0B, 'v'), (0x0C, 'f'), (0x0D, 'r'),
    (0x1B, 'e'), (0x22, '"'), (0x5C, '\\'), (0x85, 'N'), (0x2028, 'L'), (0x2029, 'P')].lookup code

/-- A character between double quotes. -/
def escape (c : Char) : List Char :=
  if Style.isShown c && !isBreak c && c ≠ '"' && c ≠ '\\' then [c]
  else
    match escapeLetter? c.toNat with
    | some letter => ['\\', letter]
    | none =>
      if c.toNat ≤ 0xFF then '\\' :: 'x' :: hexadecimal 2 c.toNat
      else if c.toNat ≤ 0xFFFF then '\\' :: 'u' :: hexadecimal 4 c.toNat
      else '\\' :: 'U' :: hexadecimal 8 c.toNat

/-- Write a text; what needs more than a line is indented. -/
def text (pen : Pen) (indent : Nat) (content : String) : Pen :=
  match Style.ofText content with
  | .literal | .folded => pen.literal indent content.toList
  | .singleQuoted => pen.singleQuoted indent content.toList
  | .doubleQuoted => pen.word ('"' :: content.toList.flatMap escape ++ ['"'])
  | .plain => pen.word content.toList

/-- Whether a value can be a key in front of a colon in the same line. -/
def isSimpleKey : Value → Bool
  | .string text => Style.isSimpleKey text
  | .sequence items => items.isEmpty
  | .mapping entries => entries.isEmpty
  | _ => true

/-- The column of what is inside something at a column; nothing is around the root. -/
def deeper : Option Nat → Nat
  | none => 0
  | some indent => indent + 2

mutual

/-- Write a value that belongs to something at a column. -/
def value (pen : Pen) (indent : Option Nat) (inMapping : Bool) : Value → Pen
  | .null => pen.word "null".toList
  | .bool content => pen.word (if content then "true".toList else "false".toList)
  | .int content => pen.word (toString content).toList
  | .float content => pen.word content.text.toList
  | .string content => pen.text (max 2 (deeper indent)) content
  | .sequence contents =>
    if contents.isEmpty then pen.word ['[', ']']
    else items pen (if inMapping && !pen.atMargin then indent.getD 0 else deeper indent) contents
  | .mapping contents =>
    if contents.isEmpty then pen.word ['\x7b', '\x7d'] else entries pen (deeper indent) contents

/-- Write the items of a sequence at a column. -/
def items (pen : Pen) (indent : Nat) : List Value → Pen
  | [] => pen
  | item :: rest => items (value ((pen.indentTo indent).mark '-') (some indent) false item) indent rest

/-- Write the entries of a mapping at a column. -/
def entries (pen : Pen) (indent : Nat) : List (Value × Value) → Pen
  | [] => pen
  | (key, content) :: rest =>
    let pen := pen.indentTo indent
    let pen :=
      if isSimpleKey key then (value pen (some indent) true key).colon
      else ((value (pen.mark '?') (some indent) true key).indentTo indent).mark ':'
    entries (value pen (some indent) true content) indent rest

end

end Pen

/-- The text of a document with this value. -/
def Value.document (value : Value) : String :=
  String.ofList ((({} : Pen).value none false value).indentTo 0).written.reverse

end Scaffold.Yaml
