import Scaffold.Yaml.Tree
import Scaffold.Yaml.Value

/-! # Plain scalars

What a scalar without quotes stands for: a null, a truth value, an integer, a floating-point number, or its
own text.
-/

namespace Scaffold.Yaml.Value

/-- The value of a digit in a base. -/
def digit? (base : Nat) (c : Char) : Option Nat :=
  let value? :=
    if '0' ≤ c && c ≤ '9' then some (c.toNat - '0'.toNat)
    else if 'a' ≤ c && c ≤ 'f' then some (c.toNat - 'a'.toNat + 10)
    else if 'A' ≤ c && c ≤ 'F' then some (c.toNat - 'A'.toNat + 10)
    else none
  value?.filter (· < base)

/-- The number that digits of a base write; at least one digit is needed. -/
def digits? (base : Nat) (digits : List Char) : Option Nat :=
  if digits.isEmpty then none
  else digits.foldlM (fun value c => (digit? base c).map (base * value + ·)) 0

/-- A text without one sign in front. -/
def unsigned (text : List Char) : List Char :=
  match text with
  | '+' :: rest | '-' :: rest => rest
  | _ => text

/-- Whether a text is digits with a needless zero in front, which makes it no number. -/
def hasLeadingZero (text : List Char) : Bool :=
  match unsigned text with
  | '0' :: rest => !rest.isEmpty && rest.all Char.isDigit
  | _ => false

/-- The number that digits write, in a base told by a letter after a zero. -/
def magnitude? (text : List Char) : Option Nat :=
  match text with
  | '0' :: 'x' :: rest => digits? 16 rest
  | '0' :: 'o' :: rest => digits? 8 rest
  | '0' :: 'b' :: rest => digits? 2 rest
  | _ => if hasLeadingZero text then none else digits? 10 text

/-- The integer that a text writes. -/
def int? (text : List Char) : Option Int :=
  match text with
  | '-' :: rest => (magnitude? rest).map fun value => -(value : Int)
  | '+' :: rest => (magnitude? rest).map Int.ofNat
  | _ => (magnitude? text).map Int.ofNat

/-- Whether an integer has a place among the values: it fits into 64 bits, with a sign or without. -/
def fits (value : Int) : Bool := -0x8000000000000000 ≤ value && value ≤ 0xFFFFFFFFFFFFFFFF

/-- Whether an integer is taken for one although it does not fit: it has 128 bits. -/
def isWide (value : Int) : Bool := -0x80000000000000000000000000000000 ≤ value && value ≤ 0xFFFFFFFFFFFFFFFFFFFFFFFFFFFFFFFF

/-- The exponent at the end of a decimal. -/
def exponent? (text : List Char) : Option Int :=
  match text with
  | [] => some 0
  | mark :: rest =>
    if mark = 'e' || mark = 'E' then
      (digits? 10 (unsigned rest)).map fun value =>
        if rest.head? = some '-' then -(value : Int) else value
    else none

/-- The number nearest to an unsigned decimal with a point or an exponent. -/
def decimal? (negative : Bool) (text : List Char) : Option Binary64 := do
  let whole := text.takeWhile Char.isDigit
  let rest := text.dropWhile Char.isDigit
  let (fraction, rest) :=
    match rest with
    | '.' :: rest => (rest.takeWhile Char.isDigit, rest.dropWhile Char.isDigit)
    | _ => ([], rest)
  let value ← digits? 10 (whole ++ fraction)
  let exponent ← exponent? rest
  pure (Binary64.ofDecimal negative value (exponent - fraction.length))

/-- How infinity may be written. -/
def isInfinityText (text : List Char) : Bool :=
  text = ".inf".toList || text = ".Inf".toList || text = ".INF".toList

/-- How a number that is none may be written. -/
def isNanText (text : List Char) : Bool :=
  text = ".nan".toList || text = ".NaN".toList || text = ".NAN".toList

/-- The floating-point number that a text writes. A decimal beyond the greatest number writes none. -/
def float? (text : List Char) : Option Binary64 :=
  if isNanText text then some .nan
  else
    let negative := text.head? = some '-'
    let rest := unsigned text
    if isInfinityText rest then some (.infinite negative)
    else
      (decimal? negative rest).filter fun number =>
        match number with
        | .finite .. => true
        | _ => false

/-- The truth value that a text writes. -/
def bool? (text : String) : Option Bool :=
  if text = "true" || text = "True" || text = "TRUE" then some true
  else if text = "false" || text = "False" || text = "FALSE" then some false
  else none

/-- What the text of an integer stands for: itself, or nothing at all if it is wide but does not fit. Other
texts are left to the given reading. -/
def intOr? (text : List Char) (otherwise : Option Value) : Option Value :=
  match int? text with
  | some value =>
    if fits value then some (int value) else if isWide value then none else otherwise
  | none => otherwise

/-- What a plain scalar stands for. -/
def ofPlain? (text : String) : Option Value :=
  if text.isEmpty || Tree.isNullText text then some null
  else
    match bool? text with
    | some value => some (bool value)
    | none =>
      intOr? text.toList <|
        if hasLeadingZero text.toList then some (string text)
        else
          match float? text.toList with
          | some number => some (float number)
          | none => some (string text)

/-- Whether a text would stand for something else than itself as a plain scalar, or nearly would. -/
def needsQuotes (text : String) : Bool :=
  hasLeadingZero text.toList ||
    match ofPlain? text with
    | some (string _) => false
    | _ => true

end Scaffold.Yaml.Value
