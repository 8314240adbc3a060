/-! # Reading bytes as text

Bytes are UTF-8. Strict reading refuses bytes that are not well formed; lenient reading puts U+FFFD in
place of each ill-formed sequence, as long as that sequence still begins a well-formed one.
-/

namespace Scaffold.Text

/-- The replacement character. -/
def replacement : Char := Char.ofNat 0xFFFD

/-- Whether a byte lies in a closed range. -/
private def within (low high : Nat) (byte : UInt8) : Bool := low ≤ byte.toNat && byte.toNat ≤ high

/-- The second byte that may follow a lead byte. -/
private def secondAllowed (lead second : UInt8) : Bool :=
  match lead.toNat with
  | 0xE0 => within 0xA0 0xBF second
  | 0xED => within 0x80 0x9F second
  | 0xF0 => within 0x90 0xBF second
  | 0xF4 => within 0x80 0x8F second
  | _ => within 0x80 0xBF second

/-- How many bytes follow a lead byte; `none` for a byte that leads nothing. -/
private def followers (lead : UInt8) : Option Nat :=
  if lead.toNat < 0x80 then some 0
  else if within 0xC2 0xDF lead then some 1
  else if within 0xE0 0xEF lead then some 2
  else if within 0xF0 0xF4 lead then some 3
  else none

/-- The longest run of continuation bytes, up to a bound, that may follow a lead byte. -/
private def continuation (lead : UInt8) (bound : Nat) : List UInt8 → List UInt8
  | [] => []
  | second :: rest =>
    if bound = 0 || !secondAllowed lead second then []
    else second :: (rest.take (bound - 1)).takeWhile (within 0x80 0xBF)

/-- The character that a lead byte and its continuation bytes encode. -/
private def assemble (lead : UInt8) (tail : List UInt8) : Char :=
  let leadBits := match tail.length with
    | 0 => lead.toNat
    | 1 => lead.toNat % 0x20
    | 2 => lead.toNat % 0x10
    | _ => lead.toNat % 0x08
  Char.ofNat (tail.foldl (fun value byte => value * 0x40 + byte.toNat % 0x40) leadBits)

/-- The first character of some bytes and the number of bytes it takes beyond the first. -/
private def firstChar (lead : UInt8) (rest : List UInt8) : Char × Nat :=
  match followers lead with
  | none => (replacement, 0)
  | some count =>
    let tail := continuation lead count rest
    if tail.length = count then (assemble lead tail, count) else (replacement, tail.length)

/-- Read bytes leniently after so many that belong to the character before. -/
def decodeAfter : Nat → List UInt8 → List Char
  | _, [] => []
  | taken + 1, _ :: rest => decodeAfter taken rest
  | 0, lead :: rest =>
    let (c, taken) := firstChar lead rest
    c :: decodeAfter taken rest

/-- Read bytes leniently. -/
def decodeLossy (bytes : List UInt8) : List Char := decodeAfter 0 bytes

/-- Read a byte string leniently. -/
def fromUtf8Lossy (bytes : ByteArray) : String :=
  match String.fromUTF8? bytes with
  | some text => text
  | none => String.ofList (decodeLossy bytes.toList)

/-- Read a byte string strictly. -/
def fromUtf8? (bytes : ByteArray) : Option String := String.fromUTF8? bytes

end Scaffold.Text
