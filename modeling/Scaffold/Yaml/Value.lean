import Scaffold.Binary64

/-! # Values of YAML

What a document says once its scalars are resolved. A mapping keeps its entries in their order; as a key it is
the same as another with the same entries in any order.
-/

namespace Scaffold.Yaml

/-- A resolved value. -/
inductive Value
  | null
  | bool (value : Bool)
  | int (value : Int)
  | float (value : Binary64)
  | string (text : String)
  | sequence (items : List Value)
  | mapping (entries : List (Value × Value))
  deriving Inhabited, Repr

namespace Value

mutual

/-- Whether two values are the same key. -/
def same : Value → Value → Bool
  | null, null => true
  | bool left, bool right => left = right
  | int left, int right => left = right
  | float left, float right => left.same right
  | string left, string right => left = right
  | sequence left, sequence right => sameItems left right
  | mapping left, mapping right => left.length = right.length && sameEntries left right
  | _, _ => false

/-- Whether two lists have the same values in the same order. -/
def sameItems : List Value → List Value → Bool
  | [], [] => true
  | left :: restLeft, right :: restRight => same left right && sameItems restLeft restRight
  | _, _ => false

/-- Whether each of some entries is among others. -/
def sameEntries : List (Value × Value) → List (Value × Value) → Bool
  | [], _ => true
  | (key, value) :: rest, others =>
    others.any (fun other => same key other.1 && same value other.2) && sameEntries rest others

end

/-- Whether no key of a mapping comes twice. -/
def distinctKeys : List (Value × Value) → Bool
  | [] => true
  | (key, _) :: rest => !rest.any (fun entry => same key entry.1) && distinctKeys rest

/-- The text of a string. -/
def text? : Value → Option String
  | string text => some text
  | _ => none

/-- What a mapping has under a text. -/
def get? (name : String) : Value → Option Value
  | mapping entries => (entries.find? fun entry => entry.1.text? = some name).map Prod.snd
  | _ => none

end Value

end Scaffold.Yaml
