import Scaffold.Text.Utf8
import Scaffold.Yaml.Cursor
import Scaffold.Yaml.Token
import Scaffold.Yaml.Token.Scalar

/-! # Reading directives, anchors and tags -/

namespace Scaffold.Yaml

/-! ## Tags -/

/-- Read the handle of a tag. A directive needs a handle that is closed, or a single sign. -/
def tagHandle (inDirective : Bool) (cursor : Cursor) : Option (List Char × Cursor) :=
  if !cursor.isAt '!' then none
  else
    let (name, cursor) := cursor.advance.spanWhile isWord
    if cursor.isAt '!' then some ('!' :: name ++ ['!'], cursor.advance)
    else if inDirective && !name.isEmpty then none
    else some ('!' :: name, cursor)

/-- Whether a character may stand in a tag; brackets and commas only where the tag has an end of its own. -/
def isTagChar (bracketed : Bool) (c : Char) : Bool :=
  isWord c || ";/?:@&=+$.%!~*'()".toList.contains c || (bracketed && ",[]".toList.contains c)

/-- The byte of a percent sign and two hexadecimal digits. -/
def escapedByte? : List Char → Option (UInt8 × List Char)
  | '%' :: a :: b :: rest => do
    let high ← hexDigit? a
    let low ← hexDigit? b
    pure ((high * 16 + low).toUInt8, rest)
  | _ => none

/-- How many bytes a character takes that starts with a byte. -/
def charWidth? (lead : UInt8) : Option Nat :=
  if lead < 0x80 then some 1
  else if 0xC0 ≤ lead && lead < 0xE0 then some 2
  else if 0xE0 ≤ lead && lead < 0xF0 then some 3
  else if 0xF0 ≤ lead && lead < 0xF8 then some 4
  else none

/-- The given number of escaped bytes. -/
def escapedBytes? : Nat → List Char → Option (List UInt8)
  | 0, _ => some []
  | count + 1, text => do
    let (byte, rest) ← escapedByte? text
    pure (byte :: (← escapedBytes? count rest))

/-- The character that escaped bytes write, and how many bytes it takes. -/
def escapedChar? (text : List Char) : Option (Char × Nat) := do
  let (lead, _) ← escapedByte? text
  let width ← charWidth? lead
  let bytes ← escapedBytes? width text
  match (← Text.fromUtf8? ⟨bytes.toArray⟩).toList with
  | [c] => some (c, width)
  | _ => none

/-- Read the characters of a tag. -/
def tagChars (bracketed : Bool) (fuel : Nat) (cursor : Cursor) : Option (List Char × Cursor) :=
  match fuel, cursor.peek? with
  | fuel + 1, some c =>
    if c = '%' then do
      let (decoded, width) ← escapedChar? cursor.rest
      let (chars, after) ← tagChars bracketed fuel (cursor.advanceBy (3 * width))
      pure (decoded :: chars, after)
    else if isTagChar bracketed c then
      (tagChars bracketed fuel cursor.advance).map fun (chars, after) => (c :: chars, after)
    else some ([], cursor)
  | _, _ => some ([], cursor)

/-- Read a tag that has at least one character, counting those of an opening part. -/
def tagText (bracketed : Bool) (opening : List Char) (cursor : Cursor) : Option (List Char × Cursor) := do
  let (chars, after) ← tagChars bracketed (cursor.rest.length + 1) cursor
  if opening.isEmpty && chars.isEmpty then none else pure (opening.drop 1 ++ chars, after)

/-- Read a tag: in angle brackets, behind a handle, or after a single sign. -/
def tag? (cursor : Cursor) : Option (Token × Cursor) := do
  let (handle, suffix, after) ←
    if cursor.second? = some '<' then do
      let (suffix, after) ← tagText true [] (cursor.advanceBy 2)
      if after.isAt '>' then pure ([], suffix, after.advance) else none
    else do
      let (handle, after) ← tagHandle false cursor
      if 1 < handle.length && handle.getLast? = some '!' then
        let (suffix, after) ← tagText false [] after
        pure (handle, suffix, after)
      else
        let (suffix, after) ← tagText false handle after
        if suffix.isEmpty then pure ([], ['!'], after) else pure (['!'], suffix, after)
  if after.atGap || after.isAt ',' then
    some (.tag (String.ofList handle) (String.ofList suffix), after)
  else none

/-! ## Anchors and aliases -/

/-- Read the name of an anchor or an alias after its sign. -/
def anchorName? (cursor : Cursor) : Option (String × Cursor) :=
  let (name, after) := cursor.advance.spanWhile isWord
  let closed := after.atGap || after.sees fun c =>
    "?:,]%@".toList.contains c || c.toNat = 0x7D || c.toNat = 0x60
  if !name.isEmpty && closed then some (String.ofList name, after) else none

/-! ## Directives -/

/-- Read a number of at most nine digits. -/
def versionNumber? (cursor : Cursor) : Option (Nat × Cursor) :=
  let (digits, after) := cursor.spanWhile Char.isDigit
  if digits.isEmpty || 9 < digits.length then none
  else some (digits.foldl (fun value c => value * 10 + (c.toNat - 0x30)) 0, after)

/-- Read the two numbers of a version. -/
def versionDirective? (cursor : Cursor) : Option (Token × Cursor) := do
  let (major, after) ← versionNumber? (cursor.skipWhile isBlank)
  if !after.isAt '.' then none
  else
    let (minor, after) ← versionNumber? after.advance
    pure (.versionDirective major minor, after)

/-- Read the handle and the tag of a directive. -/
def tagDirective? (cursor : Cursor) : Option (Token × Cursor) := do
  let (handle, after) ← tagHandle true (cursor.skipWhile isBlank)
  if !after.sees isBlank then none
  else
    let (suffix, after) ← tagText true [] (after.skipWhile isBlank)
    if after.atGap then some (.tagDirective (String.ofList handle) (String.ofList suffix), after)
    else none

/-- Read a directive with the rest of its line. -/
def directive? (cursor : Cursor) : Option (Token × Cursor) := do
  let (name, after) := cursor.advance.spanWhile isWord
  let (token, after) ←
    if !after.atGap then none
    else if name = "YAML".toList then versionDirective? after
    else if name = "TAG".toList then tagDirective? after
    else none
  let ended := after.skipComment
  if ended.atLineEnd then some (token, ended.newline) else none

end Scaffold.Yaml
