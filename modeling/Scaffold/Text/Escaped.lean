import Scaffold.Text.Utf8

/-! # Bytes kept in text

Names need not be well-formed UTF-8. A text keeps such bytes all the same: the well-formed parts are read as they are,
and a zero character marks each byte that is left. So bytes that differ are never kept as the same text, and a text that
is shown has the replacement character where its bytes are no text.
-/

namespace Scaffold.Text

/-- The character that marks a byte. -/
def mark : Char := '\x00'

/-- A character of a text. The mark itself stands twice. -/
def kept (c : Char) : List Char := if c = mark then [mark, mark] else [c]

/-- A byte that belongs to no character. -/
def marked (byte : UInt8) : List Char := [mark, Char.ofNat byte.toNat]

/-- Keep bytes after so many that belong to the character before. -/
def keepAfter : Nat → List UInt8 → List Char
  | _, [] => []
  | taken + 1, _ :: rest => keepAfter taken rest
  | 0, lead :: rest =>
    match (ByteArray.mk (lead :: rest).toArray).utf8DecodeChar? 0 with
    | some c => kept c ++ keepAfter (c.utf8Size - 1) rest
    | none => marked lead ++ keepAfter 0 rest

/-- The text that keeps some bytes. -/
def ofBytes (bytes : List UInt8) : String := String.ofList (keepAfter 0 bytes)

/-- Whether a character that follows the mark belongs to it. -/
def isMarked (c : Char) : Bool := c = mark || (0x80 ≤ c.toNat && c.toNat < 0x100)

/-- The bytes that some characters keep. -/
def bytesIn : List Char → List UInt8
  | [] => []
  | [c] => String.utf8EncodeChar c
  | c :: next :: rest =>
    if c = mark && isMarked next then next.toNat.toUInt8 :: bytesIn rest
    else String.utf8EncodeChar c ++ bytesIn (next :: rest)

/-- The bytes that a text keeps. -/
def toBytes (text : String) : List UInt8 := bytesIn text.toList

/-- A text as it is shown. -/
def shown (text : String) : String :=
  if text.toList.contains mark then fromUtf8Lossy (ByteArray.mk (toBytes text).toArray) else text

end Scaffold.Text
