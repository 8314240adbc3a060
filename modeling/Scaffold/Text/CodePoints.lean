/-! # Sets of code points

A property of characters is kept as the closed ranges of its code points, in increasing order.
Membership is the only operation; it stops at the first range that ends at or beyond the character.
-/

namespace Scaffold.Text

/-- Closed ranges of code points, in increasing order. -/
abbrev CodePoints := List (Nat × Nat)

namespace CodePoints

/-- Whether a character belongs to one of the ranges. -/
def contains (ranges : CodePoints) (c : Char) : Bool :=
  match ranges with
  | [] => false
  | (low, high) :: rest => if c.toNat ≤ high then low ≤ c.toNat else contains rest c

end CodePoints

end Scaffold.Text
