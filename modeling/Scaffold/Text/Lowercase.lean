import Scaffold.Text.Lowercase.Table

/-! # Lower case

Lower-casing is by character: each character is replaced by its lower-case form, which is one character
except for U+0130. Lower-casing a whole text differs only in a capital sigma, which becomes a final sigma
at the end of a word.
-/

namespace Scaffold.Text

namespace Lowercase

/-- The lower-case form of a character beyond ASCII according to the table of runs. -/
def shifted (c : Char) : List (Nat × Nat × Nat × Int) → Char
  | [] => c
  | (first, last, step, shift) :: rest =>
    if last < c.toNat then shifted c rest
    else if first ≤ c.toNat ∧ (c.toNat - first) % step = 0 then
      Char.ofNat ((c.toNat : Int) + shift).toNat
    else c

/-- Whether the nearest character that is not passed over has a case. -/
def nearCased (neighbours : List Char) : Bool :=
  match neighbours.dropWhile caseIgnorable.contains with
  | [] => false
  | c :: _ => cased.contains c

end Lowercase

/-- The lower-case form of one character. -/
def lowerChar (c : Char) : List Char :=
  if c.toNat < 0x80 then [c.toLower]
  else if c.toNat = 0x130 then ['i', Char.ofNat 0x307]
  else [Lowercase.shifted c Lowercase.shifts]

/-- Lower-case a text; `before` holds the characters already passed, the nearest first. -/
def lowerFrom (before : List Char) : List Char → List Char
  | [] => []
  | c :: rest =>
    let lowered :=
      if c.toNat = 0x3A3 then
        if Lowercase.nearCased before && !Lowercase.nearCased rest then [Char.ofNat 0x3C2]
        else [Char.ofNat 0x3C3]
      else lowerChar c
    lowered ++ lowerFrom (c :: before) rest

/-- The lower-case form of a text. -/
def lower (text : List Char) : List Char := lowerFrom [] text

/-- Lower-case the letters `A` to `Z` and keep every other character. -/
def lowerAscii (text : List Char) : List Char := text.map Char.toLower

end Scaffold.Text
