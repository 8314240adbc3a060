import Scaffold.Text.Lowercase
import Scaffold.Text.Split
import Scaffold.Text.Utf8
import Scaffold.Url.Direction
import Scaffold.Url.DomainTable
import Scaffold.Url.Punycode

/-! # Hosts of URLs

A host is a domain name in ASCII or an address. A text whose last label is a number is an address of four
bytes or nothing; one in brackets is an address of eight groups or nothing.
-/

namespace Scaffold.Url

/-- The host of a URL. -/
inductive Host
  | domain (name : String)
  | fourBytes (address : Nat)
  | eightGroups (groups : List Nat)
  deriving DecidableEq, Repr, Inhabited

/-- The value of a hexadecimal digit. -/
def hexValue? (c : Char) : Option Nat :=
  if '0' ≤ c ∧ c ≤ '9' then some (c.toNat - 0x30)
  else if 'a' ≤ c ∧ c ≤ 'f' then some (c.toNat - 0x61 + 10)
  else if 'A' ≤ c ∧ c ≤ 'F' then some (c.toNat - 0x41 + 10)
  else none

/-- The number that digits in a base write; no digits write nothing. -/
def natOfDigits? (base : Nat) : List Char → Option Nat
  | [] => none
  | digits =>
    digits.foldl
      (fun value c => do
        let digit ← hexValue? c
        if digit < base then some ((← value) * base + digit) else none)
      (some 0)

/-- Replace each percent sign followed by two hexadecimal digits by the byte they write. -/
def percentDecode : List UInt8 → List UInt8
  | [] => []
  | [b] => [b]
  | [a, b] => [a, b]
  | p :: a :: b :: rest =>
    if p = 0x25 then
      match hexValue? (Char.ofNat a.toNat), hexValue? (Char.ofNat b.toNat) with
      | some high, some low => (high * 16 + low).toUInt8 :: percentDecode rest
      | _, _ => p :: percentDecode (a :: b :: rest)
    else p :: percentDecode (a :: b :: rest)

namespace Host

/-! ## Addresses of four bytes -/

/-- The value of one part of an address: hexadecimal after `0x`, octal after `0`, decimal otherwise. -/
def part? : List Char → Option Nat
  | ['0', x] => if x = 'x' ∨ x = 'X' then some 0 else natOfDigits? 8 [x]
  | '0' :: x :: rest =>
    if x = 'x' ∨ x = 'X' then natOfDigits? 16 rest else natOfDigits? 8 (x :: rest)
  | part => natOfDigits? 10 part

/-- The parts of a name, without an empty one at the end. -/
def parts (name : List Char) : List (List Char) :=
  let pieces := Text.split '.' name
  if 1 < pieces.length ∧ pieces.getLast? = some [] then pieces.dropLast else pieces

/-- Whether the last part of a name is a number. -/
def endsInNumber (name : List Char) : Bool :=
  match (parts name).getLast? with
  | none => false
  | some last => (!last.isEmpty && last.all Char.isDigit) || (part? last).isSome

/-- The address that four bytes or fewer numbers write; the last number fills the remaining bytes. -/
def fourBytes? (name : List Char) : Option Nat := do
  let numbers ← (parts name).mapM part?
  let opening := numbers.dropLast
  let last ← numbers.getLast?
  if 4 < numbers.length ∨ opening.any (255 < ·) ∨ Nat.pow 256 (5 - numbers.length) ≤ last then none
  else
    let places := List.range opening.length
    some ((opening.zip places).foldl (fun total (value, place) => total + value * Nat.pow 256 (3 - place)) last)

/-! ## Addresses of eight groups -/

/-- Two groups for the four decimal bytes that may close an address. -/
def closingBytes? (text : List Char) : Option (List Nat) := do
  let pieces := Text.split '.' text
  let plain (piece : List Char) : Bool :=
    piece.all Char.isDigit && (piece.length ≤ 1 || piece.head? ≠ some '0') && piece.length ≤ 3
  if pieces.length = 4 ∧ pieces.all plain then
    match ← pieces.mapM (natOfDigits? 10) with
    | [a, b, c, d] =>
      if a < 256 ∧ b < 256 ∧ c < 256 ∧ d < 256 then some [a * 256 + b, c * 256 + d] else none
    | _ => none
  else none

/-- The groups that pieces between colons write. -/
def groups? : List (List Char) → Option (List Nat)
  | [] => some []
  | [piece] =>
    if piece.contains '.' then closingBytes? piece
    else if piece.length ≤ 4 then (natOfDigits? 16 piece).map ([·])
    else none
  | piece :: rest => do
    let group ← if piece.length ≤ 4 then natOfDigits? 16 piece else none
    pure (group :: (← groups? rest))

/-- Cut at the first pair of colons. -/
def cutAtPair : List Char → List Char × Option (List Char)
  | [] => ([], none)
  | [c] => ([c], none)
  | a :: b :: rest =>
    if a = ':' ∧ b = ':' then ([], some rest)
    else
      let (before, after?) := cutAtPair (b :: rest)
      (a :: before, after?)

/-- The address that a text between brackets writes. One pair of colons stands for the groups of zeros
that are missing. -/
def eightGroups? (text : List Char) : Option (List Nat) := do
  let side (text : List Char) : Option (List Nat) :=
    if text.isEmpty then some [] else groups? (Text.split ':' text)
  match cutAtPair text with
  | (whole, none) =>
    let groups ← side whole
    if groups.length = 8 then some groups else none
  | (before, some after) =>
    if before.contains '.' then none
    else
      let left ← side before
      let right ← side after
      if left.length + right.length < 8 then
        some (left ++ List.replicate (8 - left.length - right.length) 0 ++ right)
      else none

/-! ## Domain names -/

/-- The ASCII character that replaces a character, if there is one. -/
def asciiForm? (c : Char) : Option Char :=
  (asciiForms.find? fun (_, last, _) => c.toNat ≤ last).bind fun (first, _, form) =>
    if first ≤ c.toNat then some (Char.ofNat (form + (c.toNat - first))) else none

/-- What a character of a name becomes; `none` if it may not occur. -/
def mapped? (c : Char) : Option (List Char) :=
  if c.toNat < 0x80 then some [c.toLower]
  else if refused.contains c then none
  else if dropped.contains c then some []
  else
    match asciiForm? c, expansions.find? (·.1 = c.toNat) with
    | some form, _ => some [form]
    | none, some (_, expansion) => some expansion.toList
    | none, none => some (Text.lowerChar c)

/-- Whether each joiner follows a mark that it may follow. -/
def joinersPlaced : List Char → Bool
  | [] => true
  | [_] => true
  | a :: b :: rest =>
    ((b.toNat ≠ 0x200C && b.toNat ≠ 0x200D) || viramas.contains a) && joinersPlaced (b :: rest)

/-- Whether a label beyond ASCII may stand in a name. -/
def labelAllowed (label : List Char) : Bool :=
  match label with
  | [] => true
  | first :: _ =>
    !combining.contains first && first.toNat ≠ 0x200C && first.toNat ≠ 0x200D && joinersPlaced label

/-- Whether a label has no characters beyond ASCII. -/
def isAscii (label : List Char) : Bool := label.all (·.toNat < 0x80)

/-- The characters that a label shows: those that it encodes, if it encodes any, else its own. -/
def shown? (label : List Char) : Option (List Char) :=
  match label with
  | 'x' :: 'n' :: '-' :: '-' :: encoded => do
    let decoded ← if isAscii encoded then Punycode.decode? encoded else none
    let settled := decoded.all fun c =>
      c.toNat < 0x80 || !(refused.contains c || dropped.contains c || replaced.contains c)
    if !isAscii decoded && settled && labelAllowed decoded && Punycode.encode decoded = encoded then some decoded
    else none
  | _ => if isAscii label || labelAllowed label then some label else none

/-- A label in ASCII. -/
def asciiLabel (label : List Char) : List Char :=
  if isAscii label then label else "xn--".toList ++ Punycode.encode label

/-- Whether a character may stand in a domain name. -/
def allowed (c : Char) : Bool :=
  0x20 < c.toNat && c.toNat ≠ 0x7F && !"#/:<>?@[\\]^|%".toList.contains c

/-- A domain name in ASCII. -/
def asciiName? (text : List Char) : Option (List Char) := do
  let mapped ← text.mapM mapped?
  let labels := Text.split '.' mapped.flatten
  let shown ← labels.mapM shown?
  let name := Text.glue '.' (labels.map asciiLabel)
  if Direction.readable shown && !name.isEmpty && name.all allowed then some name else none

/-- The host that a text writes. -/
def parse? (text : List Char) : Option Host :=
  match text with
  | '[' :: rest =>
    if rest.getLast? = some ']' then (eightGroups? rest.dropLast).map eightGroups else none
  | _ => do
    let decoded := Text.decodeLossy (percentDecode (String.ofList text).toUTF8.toList)
    let name ← asciiName? decoded
    if endsInNumber name then (fourBytes? name).map fourBytes
    else some (domain (String.ofList name))

/-! ## Writing -/

/-- The length of the run of zeros that opens a list of groups. -/
def zeros (groups : List Nat) : Nat := (groups.takeWhile (· = 0)).length

/-- The place and length of the longest run of zeros, the first of equal ones. -/
def longestZeros (place : Nat) : List Nat → Nat × Nat
  | [] => (0, 0)
  | group :: rest =>
    let later := longestZeros (place + 1) rest
    let here := zeros (group :: rest)
    if here ≠ 0 ∧ later.2 ≤ here then (place, here) else later

/-- The text of a group. -/
def groupText (group : Nat) : String := String.ofList (Nat.toDigits 16 group)

/-- The text of a host. -/
def text : Host → String
  | domain name => name
  | fourBytes address =>
    ".".intercalate ([3, 2, 1, 0].map fun place => toString (address / Nat.pow 256 place % 256))
  | eightGroups groups =>
    let colons (groups : List Nat) : String := ":".intercalate (groups.map groupText)
    let (place, length) := longestZeros 0 groups
    let body :=
      if 2 ≤ length then colons (groups.take place) ++ "::" ++ colons (groups.drop (place + length))
      else colons groups
    "[" ++ body ++ "]"

end Host

end Scaffold.Url
