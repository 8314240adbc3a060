import Scaffold.Text.Utf8

/-! # JSON documents as they are read

A document is read for a few texts and lists of texts in it. Numbers and truth values are never looked at,
so one constructor holds them all; a string that no text can be made of, because of an unpaired surrogate
or ill-formed bytes, does no harm where nobody looks at it.
-/

namespace Scaffold.Json

/-- A document. -/
inductive Document
  | null
  /-- A number or a truth value. -/
  | literal
  /-- A string, with its text if it has one. -/
  | string (text? : Option String)
  | array (items : List Document)
  | object (fields : List (Option String × Document))
  deriving Inhabited

namespace Document

/-- What is left to read. -/
abbrev Rest := List UInt8

/-- The code of an ASCII character. -/
private def code (c : Char) : UInt8 := c.toNat.toUInt8

/-- Drop white space. -/
def skipBlanks (bytes : Rest) : Rest :=
  bytes.dropWhile fun b => b == code ' ' || b == code '\n' || b == code '\r' || b == code '\t'

/-- Read a fixed word. -/
def word? (text : String) (bytes : Rest) : Option Rest :=
  let expected := text.toUTF8.toList
  if expected.isPrefixOf bytes then some (bytes.drop expected.length) else none

/-- Whether a byte is a digit. -/
private def isDigit (b : UInt8) : Bool := code '0' ≤ b && b ≤ code '9'

/-- Read one digit or more. -/
def digits? (bytes : Rest) : Option Rest :=
  if bytes.head?.any isDigit then some (bytes.dropWhile isDigit) else none

/-- Read the whole part of a number: a zero alone, or digits that do not start with one. -/
def whole? : Rest → Option Rest
  | [] => none
  | b :: rest =>
    if b == code '0' then if rest.head?.any isDigit then none else some rest
    else if isDigit b then some (rest.dropWhile isDigit)
    else none

/-- Read the fraction of a number, if there is one. -/
def fraction? : Rest → Option Rest
  | b :: rest => if b == code '.' then digits? rest else some (b :: rest)
  | [] => some []

/-- Read the exponent of a number, if there is one. -/
def exponent? : Rest → Option Rest
  | b :: rest =>
    if b == code 'e' || b == code 'E' then
      match rest with
      | sign :: digits =>
        if sign == code '+' || sign == code '-' then digits? digits else digits? rest
      | [] => none
    else some (b :: rest)
  | [] => some []

/-- Read a number. -/
def number? (bytes : Rest) : Option Rest := do
  let unsigned := match bytes with
    | b :: rest => if b == code '-' then rest else bytes
    | [] => []
  let afterWhole ← whole? unsigned
  let afterFraction ← fraction? afterWhole
  exponent? afterFraction

/-- A part of a string: a byte, or a code unit that was written as an escape. -/
inductive Piece
  | byte (value : UInt8)
  | unit (value : Nat)
  deriving DecidableEq

/-- The value of a hexadecimal digit. -/
private def hexValue? (b : UInt8) : Option Nat :=
  if isDigit b then some (b.toNat - 0x30)
  else if code 'a' ≤ b && b ≤ code 'f' then some (b.toNat - 0x61 + 10)
  else if code 'A' ≤ b && b ≤ code 'F' then some (b.toNat - 0x41 + 10)
  else none

/-- The code unit of four hexadecimal digits. -/
def unit? : Rest → Option (Nat × Rest)
  | a :: b :: c :: d :: rest => do
    let value := fun digit => hexValue? digit
    pure ((← value a) * 0x1000 + (← value b) * 0x100 + (← value c) * 0x10 + (← value d), rest)
  | _ => none

/-- The byte that a one-letter escape stands for. -/
private def escaped? (b : UInt8) : Option UInt8 :=
  if b == code '"' || b == code '\\' || b == code '/' then some b
  else if b == code 'b' then some 8
  else if b == code 'f' then some 12
  else if b == code 'n' then some 10
  else if b == code 'r' then some 13
  else if b == code 't' then some 9
  else none

/-- Read the rest of a string after its opening quote. -/
def pieces? (fuel : Nat) (bytes : Rest) : Option (List Piece × Rest) :=
  match fuel, bytes with
  | fuel + 1, b :: rest =>
    if b == code '"' then some ([], rest)
    else if b == code '\\' then
      match rest with
      | [] => none
      | escape :: rest =>
        if escape == code 'u' then do
          let (value, rest) ← unit? rest
          let (pieces, rest) ← pieces? fuel rest
          pure (.unit value :: pieces, rest)
        else do
          let byte ← escaped? escape
          let (pieces, rest) ← pieces? fuel rest
          pure (.byte byte :: pieces, rest)
    else if b < 0x20 then none
    else do
      let (pieces, rest) ← pieces? fuel rest
      pure (.byte b :: pieces, rest)
  | _, _ => none

/-- The bytes of the text that the pieces make up; a surrogate must be one of a pair. -/
def bytesOf? : List Piece → Option (List UInt8)
  | [] => some []
  | .byte b :: rest => (bytesOf? rest).map (b :: ·)
  | .unit high :: .unit low :: rest =>
    if 0xD800 ≤ high ∧ high < 0xDC00 then
      if 0xDC00 ≤ low ∧ low < 0xE000 then
        let c := Char.ofNat (0x10000 + (high - 0xD800) * 0x400 + (low - 0xDC00))
        (bytesOf? rest).map (c.toString.toUTF8.toList ++ ·)
      else none
    else if 0xDC00 ≤ high ∧ high < 0xE000 then none
    else (bytesOf? (.unit low :: rest)).map ((Char.ofNat high).toString.toUTF8.toList ++ ·)
  | .unit value :: rest =>
    if 0xD800 ≤ value ∧ value < 0xE000 then none
    else (bytesOf? rest).map ((Char.ofNat value).toString.toUTF8.toList ++ ·)

/-- The text that the pieces make up, if there is one. -/
def textOf? (pieces : List Piece) : Option String :=
  (bytesOf? pieces).bind fun bytes => Text.fromUtf8? (ByteArray.mk bytes.toArray)

/-- Read the rest of a string after its opening quote. -/
def string? (bytes : Rest) : Option (Option String × Rest) :=
  (pieces? bytes.length bytes).map fun (pieces, rest) => (textOf? pieces, rest)

mutual

/-- Read a value. The fuel bounds the steps; each byte costs at most two. -/
def value? (fuel : Nat) (bytes : Rest) : Option (Document × Rest) :=
  match fuel with
  | 0 => none
  | fuel + 1 =>
    match skipBlanks bytes with
    | [] => none
    | b :: rest =>
      if b == code 'n' then (word? "ull" rest).map (null, ·)
      else if b == code 't' then (word? "rue" rest).map (literal, ·)
      else if b == code 'f' then (word? "alse" rest).map (literal, ·)
      else if b == code '"' then (string? rest).map fun (text?, rest) => (string text?, rest)
      else if b == code '[' then
        match skipBlanks rest with
        | close :: after =>
          if close == code ']' then some (array [], after)
          else (items? fuel rest).map fun (items, rest) => (array items, rest)
        | [] => none
      else if b == 0x7B then
        match skipBlanks rest with
        | close :: after =>
          if close == 0x7D then some (object [], after)
          else (fields? fuel rest).map fun (fields, rest) => (object fields, rest)
        | [] => none
      else (number? (b :: rest)).map (literal, ·)

/-- Read the items of an array up to its end. -/
def items? (fuel : Nat) (bytes : Rest) : Option (List Document × Rest) :=
  match fuel with
  | 0 => none
  | fuel + 1 => do
    let (item, rest) ← value? fuel bytes
    match skipBlanks rest with
    | b :: rest =>
      if b == code ',' then
        let (items, rest) ← items? fuel rest
        pure (item :: items, rest)
      else if b == code ']' then pure ([item], rest)
      else none
    | [] => none

/-- Read the fields of an object up to its end. -/
def fields? (fuel : Nat) (bytes : Rest) : Option (List (Option String × Document) × Rest) :=
  match fuel with
  | 0 => none
  | fuel + 1 => do
    let (key?, rest) ← match skipBlanks bytes with
      | b :: rest => if b == code '"' then string? rest else none
      | [] => none
    let rest ← word? ":" (skipBlanks rest)
    let (value, rest) ← value? fuel rest
    match skipBlanks rest with
    | b :: rest =>
      if b == code ',' then
        let (fields, rest) ← fields? fuel rest
        pure ((key?, value) :: fields, rest)
      else if b == 0x7D then pure ([(key?, value)], rest)
      else none
    | [] => none

end

/-- Read a whole document: one value and nothing but white space around it. -/
def parse? (bytes : ByteArray) : Option Document := do
  let (document, rest) ← value? (2 * bytes.size + 2) bytes.toList
  if (skipBlanks rest).isEmpty then some document else none

/-- The text of a string. -/
def text? : Document → Option String
  | string text? => text?
  | _ => none

/-- The texts of an array of strings. -/
def texts? : Document → Option (List String)
  | array items => items.mapM text?
  | _ => none

end Document

end Scaffold.Json
