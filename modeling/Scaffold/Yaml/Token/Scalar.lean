import Scaffold.Yaml.Cursor

/-! # Reading scalars

Plain scalars end at an indicator, quoted scalars at their quote, block scalars at a line that is less
indented. In plain and quoted scalars a single line break is read as a space and further ones stay; block
scalars keep their lines, or join them if they are folded.
-/

namespace Scaffold.Yaml

/-- White space that was passed between two parts of a scalar. -/
structure Gap where
  /-- The blanks, if no line ended. -/
  blanks : List Char := []
  /-- Whether a line ended. -/
  broken : Bool := false
  /-- The first line break. -/
  first : List Char := []
  /-- The further line breaks. -/
  further : List Char := []

namespace Gap

/-- What the white space stands for: itself, or a space for one line break, or the breaks but the first. -/
def fold (gap : Gap) : List Char :=
  if !gap.broken then gap.blanks
  else if gap.first = ['\n'] then if gap.further.isEmpty then [' '] else gap.further
  else gap.first ++ gap.further

/-- Add a line break. -/
def addBreak (gap : Gap) (text : List Char) : Gap :=
  if gap.broken then { gap with further := gap.further ++ text }
  else { gap with blanks := [], broken := true, first := text }

end Gap

/-- Pass white space and line breaks. A tab in the indentation of a plain scalar is refused: the bound tells
how far the indentation goes. -/
def skipGap (bound fuel : Nat) (gap : Gap) (cursor : Cursor) : Option (Gap × Cursor) :=
  match fuel, cursor.peek? with
  | fuel + 1, some c =>
    if isBlank c then
      if gap.broken then
        if c = '\t' && cursor.column < bound then none else skipGap bound fuel gap cursor.advance
      else skipGap bound fuel { gap with blanks := gap.blanks ++ [c] } cursor.advance
    else if isBreak c then skipGap bound fuel (gap.addBreak cursor.breakText) cursor.newline
    else some (gap, cursor)
  | _, _ => some (gap, cursor)

/-! ## Plain scalars -/

/-- An indicator that ends a plain scalar between brackets. -/
def endsFlow (c : Char) : Bool :=
  c = ',' || c = '[' || c = ']' || c.toNat = 0x7B || c.toNat = 0x7D

/-- The characters of a plain scalar up to a gap or an indicator. -/
def plainPart (inFlow : Bool) (fuel : Nat) (cursor : Cursor) : Option (List Char × Cursor) :=
  match fuel, cursor.peek? with
  | fuel + 1, some c =>
    if isBlank c || isBreak c then some ([], cursor)
    else if inFlow && c = ':' && cursor.second?.any (fun next => endsFlow next || next = '?') then none
    else if (c = ':' && cursor.gapFollows) || (inFlow && endsFlow c) then some ([], cursor)
    else (plainPart inFlow fuel cursor.advance).map fun (part, after) => (c :: part, after)
  | _, _ => some ([], cursor)

/-- Read a plain scalar whose continuation lines need the given indentation. Besides the text, tell whether
the scalar ended with the end of a line. -/
def plainScalar (inFlow : Bool) (indent fuel : Nat) (gap : Gap) (cursor : Cursor) :
    Option (List Char × Bool × Cursor) :=
  match fuel with
  | 0 => none
  | fuel + 1 =>
    if cursor.atDocumentMarker || cursor.isAt '#' then some ([], gap.broken, cursor)
    else do
      let (part, after) ← plainPart inFlow fuel cursor
      let opening := if part.isEmpty then [] else gap.fold
      let kept := if part.isEmpty then gap else {}
      if !(after.sees fun c => isBlank c || isBreak c) then some (opening ++ part, kept.broken, after)
      else
        let (gap, next) ← skipGap indent fuel kept after
        if !inFlow && next.column < indent then some (opening ++ part, gap.broken, next)
        else
          let (text, broken, last) ← plainScalar inFlow indent fuel gap next
          pure (opening ++ part ++ text, broken, last)

/-! ## Quoted scalars -/

/-- The value of a hexadecimal digit. -/
def hexDigit? (c : Char) : Option Nat :=
  if '0' ≤ c ∧ c ≤ '9' then some (c.toNat - 0x30)
  else if 'a' ≤ c ∧ c ≤ 'f' then some (c.toNat - 0x61 + 10)
  else if 'A' ≤ c ∧ c ≤ 'F' then some (c.toNat - 0x41 + 10)
  else none

/-- The character that a number of hexadecimal digits writes. -/
def hexChar? (digits : List Char) (count : Nat) : Option Char := do
  let digits := digits.take count
  if digits.length < count then none
  else
    let value ← digits.foldlM (fun value c => (hexDigit? c).map (value * 16 + ·)) 0
    if (0xD800 ≤ value ∧ value ≤ 0xDFFF) ∨ 0x10FFFF < value then none else some (Char.ofNat value)

/-- The character that an escape writes, given by the letter after the backslash and what follows it, and
the number of characters that belong to the escape beyond its letter. -/
def escape? (letter : Char) (after : List Char) : Option (Char × Nat) :=
  let code (value : Nat) : Option (Char × Nat) := some (Char.ofNat value, 0)
  let digits (count : Nat) : Option (Char × Nat) := (hexChar? after count).map (·, count)
  match letter with
  | '0' => code 0
  | 'a' => code 7
  | 'b' => code 8
  | 't' | '\t' => code 9
  | 'n' => code 10
  | 'v' => code 11
  | 'f' => code 12
  | 'r' => code 13
  | 'e' => code 27
  | ' ' => code 0x20
  | '"' => code 0x22
  | '/' => code 0x2F
  | '\\' => code 0x5C
  | 'N' => code 0x85
  | '_' => code 0xA0
  | 'L' => code 0x2028
  | 'P' => code 0x2029
  | 'x' => digits 2
  | 'u' => digits 4
  | 'U' => digits 8
  | _ => none

/-- Why a part of a quoted scalar ended. -/
inductive PartEnd
  /-- At the closing quote. -/
  | quote
  /-- At white space. -/
  | gap
  /-- After a line break that was escaped. -/
  | escapedBreak

/-- The characters of a quoted scalar up to a gap or its closing quote. -/
def quotedPart (single : Bool) (fuel : Nat) (cursor : Cursor) : Option (List Char × PartEnd × Cursor) :=
  match fuel, cursor.rest with
  | fuel + 1, c :: rest =>
    let quote := if single then '\'' else '"'
    if isBlank c || isBreak c then some ([], .gap, cursor)
    else if single && c = quote && rest.head? = some quote then
      (quotedPart single fuel (cursor.advanceBy 2)).map fun (part, after) => (quote :: part, after)
    else if c = quote then some ([], .quote, cursor)
    else if !single && c = '\\' then
      match rest with
      | [] => none
      | letter :: after =>
        if isBreak letter then some ([], .escapedBreak, cursor.advance.newline)
        else do
          let (written, count) ← escape? letter after
          let (part, last) ← quotedPart single fuel (cursor.advanceBy (count + 2))
          pure (written :: part, last)
    else (quotedPart single fuel cursor.advance).map fun (part, after) => (c :: part, after)
  | _, _ => some ([], .gap, cursor)

/-- Read a quoted scalar after its opening quote. -/
def quotedScalar (single : Bool) (fuel : Nat) (cursor : Cursor) : Option (List Char × Cursor) :=
  match fuel with
  | 0 => none
  | fuel + 1 =>
    if cursor.atDocumentMarker || cursor.atEnd then none
    else do
      let (part, ended, after) ← quotedPart single fuel cursor
      match ended with
      | .quote => pure (part, after.advance)
      | ended =>
        let start : Gap := match ended with
          | .escapedBreak => { broken := true }
          | _ => {}
        if after.isAt (if single then '\'' else '"') then pure (part, after.advance)
        else
          let (gap, next) ← skipGap 0 fuel start after
          let (text, last) ← quotedScalar single fuel next
          pure (part ++ gap.fold ++ text, last)

/-! ## Block scalars -/

/-- What is kept of the line breaks at the end of a block scalar. -/
inductive Chomp
  | strip
  | clip
  | keep
  deriving DecidableEq

/-- The sign that tells what is kept. -/
def chomp? (c : Char) : Option Chomp :=
  if c = '+' then some .keep else if c = '-' then some .strip else none

/-- The digit that tells the indentation. -/
def indentation? (c : Char) : Option Nat :=
  if '0' ≤ c ∧ c ≤ '9' then some (c.toNat - 0x30) else none

/-- Read the signs after the indicator of a block scalar: in either order what is kept and the indentation,
which must not be zero. -/
def blockHeader (cursor : Cursor) : Option (Chomp × Option Nat × Cursor) :=
  let digit (cursor : Cursor) : Option (Option Nat × Cursor) :=
    match cursor.peek?.bind indentation? with
    | none => some (none, cursor)
    | some 0 => none
    | some count => some (some count, cursor.advance)
  match cursor.peek?.bind chomp? with
  | some chomp => (digit cursor.advance).map fun (indent, cursor) => (chomp, indent, cursor)
  | none => do
    let (indent, cursor) ← digit cursor
    match indent, cursor.peek?.bind chomp? with
    | some _, some chomp => pure (chomp, indent, cursor.advance)
    | _, _ => pure (.clip, indent, cursor)

/-- Pass empty lines and the indentation of the next line. Without a known indentation, find out the deepest
one. Tell the line breaks passed. -/
def blockBreaks (indent? : Option Nat) (fuel deepest : Nat) (cursor : Cursor) :
    Option (List Char × Nat × Cursor) :=
  match fuel with
  | 0 => none
  | fuel + 1 =>
    let room := match indent? with
      | none => cursor.rest.length
      | some indent => indent - cursor.column
    let spaces := (cursor.rest.takeWhile (· = ' ')).length
    let cursor := cursor.advanceBy (min spaces room)
    let deepest := max deepest cursor.column
    let inIndent := match indent? with
      | none => true
      | some indent => cursor.column < indent
    if inIndent && cursor.isAt '\t' then none
    else if cursor.sees isBreak then do
      let (breaks, deepest, after) ← blockBreaks indent? fuel deepest cursor.newline
      pure (cursor.breakText ++ breaks, deepest, after)
    else some ([], deepest, cursor)

/-- Read the lines of a block scalar. `pending` is the break after the line before, `breaks` the empty lines
after that, and `wasBlank` tells whether that line started with a blank. Tell the text and the breaks that
follow it. -/
def blockLines (literal : Bool) (indent fuel : Nat) (pending breaks : List Char) (wasBlank : Bool)
    (cursor : Cursor) : Option (List Char × List Char × List Char × Cursor) :=
  match fuel with
  | 0 => none
  | fuel + 1 =>
    if cursor.column = indent && !cursor.atEnd then do
      let blank := cursor.sees isBlank
      let join :=
        if !literal && pending = ['\n'] && !wasBlank && !blank then
          if breaks.isEmpty then [' '] else []
        else pending
      let (line, ended) := cursor.spanWhile fun c => !isBreak c
      let (following, _, next) ← blockBreaks (some indent) fuel 0 ended.newline
      let (text, last, rest, after) ← blockLines literal indent fuel ended.breakText following blank next
      pure (join ++ breaks ++ line ++ text, last, rest, after)
    else some ([], pending, breaks, cursor)

/-- Read a block scalar after its indicator, where the collection around it has the given indentation. -/
def blockScalar (literal : Bool) (parent : Option Nat) (cursor : Cursor) : Option (List Char × Cursor) := do
  let fuel := cursor.rest.length + 2
  let (chomp, increment, cursor) ← blockHeader cursor
  let cursor := cursor.skipComment
  if !cursor.atLineEnd then none
  else
    let known := increment.map fun increment => parent.getD 0 + increment
    let (breaks, deepest, cursor) ← blockBreaks known fuel 0 cursor.newline
    let least := match parent with
      | none => 1
      | some parent => parent + 1
    let indent := known.getD (max (max deepest least) 1)
    let (text, last, trailing, cursor) ← blockLines literal indent fuel [] breaks false cursor
    pure (match chomp with
      | .strip => (text, cursor)
      | .clip => (text ++ last, cursor)
      | .keep => (text ++ last ++ trailing, cursor))

end Scaffold.Yaml
