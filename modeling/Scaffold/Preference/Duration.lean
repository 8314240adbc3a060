import Scaffold.Text.Blank
import Scaffold.Text.Number

/-! # Durations

A duration is written as numbers with units, such as `1h 30m` or `1.5s`, and is their sum. Numbers and sums
that do not fit into 64 bits are refused. Fractions of hours and longer units are cut to whole seconds.
-/

namespace Scaffold

/-- A span of time. -/
structure Duration where
  seconds : Nat
  nanos : Nat := 0
  deriving DecidableEq, Repr, Inhabited

namespace Duration

/-- The nanoseconds of a second. -/
def second : Nat := 1000000000

/-- The units and their lengths in nanoseconds. -/
def units : List (List String × Nat) :=
  [(["nanos", "nsec", "ns"], 1),
    (["usec", "us", "µs"], 1000),
    (["millis", "msec", "ms"], 1000000),
    (["seconds", "second", "secs", "sec", "s"], second),
    (["minutes", "minute", "min", "mins", "m"], 60 * second),
    (["hours", "hour", "hrs", "hr", "h"], 3600 * second),
    (["days", "day", "d"], 86400 * second),
    (["weeks", "week", "wks", "wk", "w"], 604800 * second),
    (["months", "month", "M"], 2630016 * second),
    (["years", "year", "yrs", "yr", "y"], 31557600 * second)]

/-- The length of a unit. -/
def unit? (name : List Char) : Option Nat :=
  (units.find? fun entry => entry.1.contains (String.ofList name)).map Prod.snd

/-- A character that a unit may have. -/
def isUnitChar (c : Char) : Bool := c.isAlpha || c = 'µ'

/-- The sum with some more seconds and nanoseconds. -/
def extend? (duration : Duration) (seconds nanos : Nat) : Option Duration := do
  let nanos ← Text.word? (duration.nanos + nanos)
  let seconds ← Text.word? (duration.seconds + seconds + nanos / second)
  pure ⟨seconds, nanos % second⟩

/-- Add a whole number of units. -/
def addWhole? (duration : Duration) (length count : Nat) : Option Duration := do
  if length < second then duration.extend? 0 (← Text.word? (count * length))
  else duration.extend? (← Text.word? (count * (length / second))) 0

/-- Add a fraction of a unit, given by its digits after the point. -/
def addFraction? (duration : Duration) (length : Nat) (digits : List Char) : Option Duration := do
  let denominator ← Text.word? (Nat.pow 10 digits.length)
  let numerator := Text.decimalValue digits
  if digits.isEmpty || length = 1 then none
  else if length ≤ 60 * second then duration.extend? 0 ((← Text.word? (numerator * length)) / denominator)
  else duration.extend? ((← Text.word? (numerator * (length / second))) / denominator) 0

/-- Whether a character may occur within the digits of a number. -/
def isNumberChar (c : Char) : Bool := c.isDigit || Text.isBlank c

/-- The digits at the start of a text, with blanks among them, and the rest. -/
def digitsOf (text : List Char) : List Char × List Char :=
  ((text.takeWhile isNumberChar).filter Char.isDigit, text.dropWhile isNumberChar)

/-- Add the numbers with units that a text writes. The fuel bounds how many they are. -/
def sum? (fuel : Nat) (duration : Duration) (text : List Char) : Option Duration :=
  match fuel, text.dropWhile Text.isBlank with
  | _, [] => some duration
  | 0, _ => none
  | fuel + 1, text => do
    let (digits, rest) := digitsOf text
    if !text.head?.any Char.isDigit then none
    else
      let count ← Text.word? (Text.decimalValue digits)
      let (fraction?, rest) :=
        match rest with
        | '.' :: rest => (some (digitsOf rest).1, (digitsOf rest).2)
        | _ => (none, rest)
      let length ← unit? (rest.takeWhile isUnitChar)
      let duration ← duration.addWhole? length count
      let duration ←
        match fraction? with
        | some fraction => duration.addFraction? length fraction
        | none => some duration
      sum? fuel duration (rest.dropWhile isUnitChar)

/-- The duration that a text writes; a lone zero needs no unit. -/
def ofText? (text : String) : Option Duration :=
  if text = "0" then some ⟨0, 0⟩
  else if text.toList.all Text.isBlank then none
  else sum? text.length ⟨0, 0⟩ text.toList

end Duration

end Scaffold
