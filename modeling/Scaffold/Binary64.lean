/-! # Binary floating-point numbers

Numbers with 53 significant bits, kept as exact integers. Reading a decimal rounds to the nearest number, and
to the even one of two that are equally near. Writing takes the fewest digits that read back, and of those the
nearest to the number.
-/

namespace Scaffold

/-- A number: a significand times a power of two, an infinity, or no number at all. -/
inductive Binary64
  | nan
  | infinite (negative : Bool)
  | finite (negative : Bool) (significand : Nat) (exponent : Int)
  deriving DecidableEq, Repr, Inhabited

namespace Binary64

/-- The least exponent of a significand. -/
def leastExponent : Int := -1074

/-- The greatest exponent of a significand. -/
def greatestExponent : Int := 971

/-- How many digits a decimal has. -/
def digitCount (value : Nat) : Nat := (Nat.toDigits 10 value).length

/-- The quotient rounded to the nearest integer, a half going to the even neighbour. -/
def roundedQuotient (dividend divisor : Nat) : Nat :=
  let floor := dividend / divisor
  let rest := dividend % divisor
  if 2 * rest < divisor then floor
  else if 2 * rest = divisor then floor + floor % 2
  else floor + 1

/-- A fraction scaled down by a power of two. -/
def scaled (numerator denominator : Nat) (exponent : Int) : Nat × Nat :=
  (numerator * Nat.pow 2 (-exponent).toNat, denominator * Nat.pow 2 exponent.toNat)

/-- The exponent at which the integer part of a positive fraction has 53 bits, but not below the least. -/
def exponentOf (numerator denominator : Nat) : Int :=
  let guess := (numerator.log2 : Int) - denominator.log2 - 52
  let (dividend, divisor) := scaled numerator denominator guess
  max leastExponent (if dividend / divisor < Nat.pow 2 52 then guess - 1 else guess)

/-- The number nearest to a positive fraction. -/
def ofFraction (negative : Bool) (numerator denominator : Nat) : Binary64 :=
  let exponent := exponentOf numerator denominator
  let (dividend, divisor) := scaled numerator denominator exponent
  let significand := roundedQuotient dividend divisor
  let (significand, exponent) :=
    if significand = Nat.pow 2 53 then (Nat.pow 2 52, exponent + 1) else (significand, exponent)
  if greatestExponent < exponent then infinite negative
  else if significand = 0 then finite negative 0 0
  else finite negative significand exponent

/-- The number nearest to an integer times a power of ten. -/
def ofDecimal (negative : Bool) (value : Nat) (power : Int) : Binary64 :=
  let magnitude := power + digitCount value
  if value = 0 || magnitude < -330 then finite negative 0 0
  else if 330 < magnitude then infinite negative
  else ofFraction negative (value * Nat.pow 10 power.toNat) (Nat.pow 10 (-power).toNat)

/-- Whether two numbers count as the same key: the two zeros do, and no number equals itself. -/
def same : Binary64 → Binary64 → Bool
  | finite _ 0 _, finite _ 0 _ => true
  | left, right => left = right

/-- A decimal on the grid of a power of ten that reads back as a number, given the number's significand and
exponent: the nearer of the number's two neighbours on that grid, the even one of two equally near. -/
def onGrid? (significand : Nat) (exponent power : Int) : Option Nat :=
  -- a quarter of the last bit, and a step of the grid, on one scale
  let quarter := Nat.pow 2 (exponent - 2).toNat * Nat.pow 10 (-power).toNat
  let step := Nat.pow 10 power.toNat * Nat.pow 2 (2 - exponent).toNat
  let value := 4 * significand * quarter
  let margin := if significand = Nat.pow 2 52 && leastExponent < exponent then quarter else 2 * quarter
  let (least, greatest) := (value - margin, value + 2 * quarter)
  let isEven := significand % 2 = 0
  let reads := fun count =>
    let point := count * step
    (least < point && point < greatest) || (isEven && (point = least || point = greatest))
  let below := value / step
  let above := below + 1
  let fromBelow := value - below * step
  let fromAbove := above * step - value
  match reads below, reads above with
  | true, true =>
    if fromBelow < fromAbove || (fromBelow = fromAbove && below % 2 = 0) then some below else some above
  | true, false => some below
  | false, true => some above
  | false, false => none

/-- The power of ten of the first digit of a positive number. -/
def leadingPower (significand : Nat) (exponent : Int) : Int :=
  (digitCount (significand * Nat.pow 10 400 * Nat.pow 2 exponent.toNat / Nat.pow 2 (-exponent).toNat) : Int) - 401

/-- A decimal without zeros at its end. The fuel bounds their number. -/
def withoutTrailingZeros (fuel : Nat) (value : Nat) (power : Int) : Nat × Int :=
  match fuel with
  | 0 => (value, power)
  | fuel + 1 =>
    if value % 10 = 0 then withoutTrailingZeros fuel (value / 10) (power + 1) else (value, power)

/-- The fewest digits that read back as a positive number, and the power of ten they are multiplied by. -/
def shortest (significand : Nat) (exponent : Int) : Nat × Int :=
  let leading := leadingPower significand exponent
  let found? := (List.range 17).findSome? fun (count : Nat) =>
    let power := leading - count
    (onGrid? significand exponent power).map fun value => (value, power)
  let (value, power) := found?.getD (significand, exponent)
  withoutTrailingZeros 17 value power

/-- A row of zeros. -/
private def zeros (count : Nat) : List Char := List.replicate count '0'

/-- Digits times a power of ten: positional from 10⁻⁵ up to 10¹⁶, and with an exponent elsewhere. -/
def layOut (digits : List Char) (power : Int) : List Char :=
  let point := power + digits.length
  if 0 ≤ power && point ≤ 16 then digits ++ zeros power.toNat ++ ['.', '0']
  else if 0 < point && point ≤ 16 then
    digits.take point.toNat ++ '.' :: digits.drop point.toNat
  else if -5 < point && point ≤ 0 then '0' :: '.' :: (zeros (-point).toNat ++ digits)
  else
    let fraction := if digits.length = 1 then [] else '.' :: digits.drop 1
    digits.take 1 ++ fraction ++ 'e' :: (toString (point - 1)).toList

/-- A sign in front of the text of a negative number. -/
private def signed (negative : Bool) (text : List Char) : String :=
  String.ofList (if negative then '-' :: text else text)

/-- The text of a number. -/
def text : Binary64 → String
  | nan => ".nan"
  | infinite negative => signed negative ".inf".toList
  | finite negative significand exponent =>
    if significand = 0 then signed negative "0.0".toList
    else
      let (value, power) := shortest significand exponent
      signed negative (layOut (Nat.toDigits 10 value) power)

end Binary64

end Scaffold
