/-! # Labels beyond ASCII in ASCII

A label is written as its ASCII characters, a dash, and one number for each other character that tells both
the character and its place, in digits whose weight adapts to the numbers before.
-/

namespace Scaffold.Url.Punycode

/-- The number of digits. -/
def base : Nat := 36

/-- The largest digit that can be the last of a number, at a position. -/
def threshold (position bias : Nat) : Nat :=
  if position ≤ bias then 1 else if bias + 26 ≤ position then 26 else position - bias

/-- Count the halvings by 35 that bring a number down to at most 455. -/
def descend (fuel value steps : Nat) : Nat × Nat :=
  match fuel with
  | 0 => (value, steps)
  | fuel + 1 => if 455 < value then descend fuel (value / 35) (steps + base) else (value, steps)

/-- The bias after a number. -/
def adapt (delta count : Nat) (first : Bool) : Nat :=
  let scaled := if first then delta / 700 else delta / 2
  let (value, steps) := descend 64 (scaled + scaled / count) 0
  steps + base * value / (value + 38)

/-- The character of a digit. -/
def digit (value : Nat) : Char :=
  if value < 26 then Char.ofNat (value + 0x61) else Char.ofNat (value - 26 + 0x30)

/-- The value of a digit. -/
def digitValue? (c : Char) : Option Nat :=
  if 'a' ≤ c ∧ c ≤ 'z' then some (c.toNat - 0x61)
  else if '0' ≤ c ∧ c ≤ '9' then some (c.toNat - 0x30 + 26)
  else none

/-- Where a decoding stands: the code point and place reached, the bias, and the number being read. -/
structure Progress where
  codePoint : Nat := 0x80
  place : Nat := 0
  start : Nat := 0
  bias : Nat := 72
  weight : Nat := 1
  position : Nat := base

/-- Insert the characters that digits tell into the ASCII characters. -/
def insertAll (out : List Char) (progress : Progress) : List Char → Option (List Char)
  | [] => if progress.position = base then some out else none
  | c :: rest => do
    let value ← digitValue? c
    let place := progress.place + value * progress.weight
    if 0x100000000 ≤ place then none
    else
      let limit := threshold progress.position progress.bias
      if limit ≤ value then
        insertAll out
          { progress with
            place
            weight := progress.weight * (base - limit)
            position := progress.position + base }
          rest
      else
        let count := out.length + 1
        let codePoint := progress.codePoint + place / count
        let index := place % count
        if codePoint < 0xD800 ∨ (0xE000 ≤ codePoint ∧ codePoint < 0x110000) then
          insertAll (out.take index ++ Char.ofNat codePoint :: out.drop index)
            { codePoint
              place := index + 1
              start := index + 1
              bias := adapt (place - progress.start) count (progress.start = 0) }
            rest
        else none

/-- The label that a text encodes. -/
def decode? (text : List Char) : Option (List Char) :=
  let digits := (text.reverse.takeWhile (· ≠ '-')).reverse
  let plain := text.take (text.length - digits.length - 1)
  insertAll plain {} digits

/-- The digits of a number. -/
def number (fuel value bias position : Nat) : List Char :=
  match fuel with
  | 0 => []
  | fuel + 1 =>
    let limit := threshold position bias
    if value < limit then [digit value]
    else
      digit (limit + (value - limit) % (base - limit)) ::
        number fuel ((value - limit) / (base - limit)) bias (position + base)

/-- Where an encoding stands. -/
structure Encoding where
  delta : Nat
  bias : Nat
  handled : Nat
  first : Bool
  digits : List Char

/-- Pass one character of the label while the given code point is encoded. -/
def encodeChar (codePoint : Nat) (encoding : Encoding) (c : Char) : Encoding :=
  if c.toNat < codePoint then { encoding with delta := encoding.delta + 1 }
  else if c.toNat = codePoint then
    { delta := 0
      bias := adapt encoding.delta (encoding.handled + 1) encoding.first
      handled := encoding.handled + 1
      first := false
      digits := encoding.digits ++ number 32 encoding.delta encoding.bias base }
  else encoding

/-- Encode the occurrences of each code point in turn. -/
def encodeAll (label : List Char) (previous : Nat) (encoding : Encoding) : List Nat → List Char
  | [] => encoding.digits
  | codePoint :: rest =>
    let jumped :=
      { encoding with delta := encoding.delta + (codePoint - previous) * (encoding.handled + 1) }
    let passed := label.foldl (encodeChar codePoint) jumped
    encodeAll label (codePoint + 1) { passed with delta := passed.delta + 1 } rest

/-- A label in ASCII. -/
def encode (label : List Char) : List Char :=
  let plain := label.filter fun c => c.toNat < 0x80
  let others := ((label.map Char.toNat).filter (0x80 ≤ ·)).eraseDups.mergeSort
  let opening := if plain.isEmpty then [] else plain ++ ['-']
  opening ++ encodeAll label 0x80 ⟨0, 72, plain.length, true, []⟩ others

end Scaffold.Url.Punycode
