/-! # Numbers in texts

Decimal digits and the number they write. A number of 64 bits may have a plus sign in front.
-/

namespace Scaffold.Text

/-- The number that decimal digits write. -/
def decimalValue (digits : List Char) : Nat :=
  digits.foldl (fun value c => 10 * value + (c.toNat - '0'.toNat)) 0

/-- A number if it fits into 64 bits. -/
def word? (value : Nat) : Option Nat := if value ≤ 0xFFFFFFFFFFFFFFFF then some value else none

/-- A text without a plus sign in front. -/
def withoutPlus : List Char → List Char
  | '+' :: rest => rest
  | text => text

/-- The number of 64 bits that a text writes. -/
def number? (text : List Char) : Option Nat :=
  let digits := withoutPlus text
  if digits.isEmpty || !digits.all Char.isDigit then none else word? (decimalValue digits)

end Scaffold.Text
