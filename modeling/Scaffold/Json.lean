/-! # JSON values

Values that are written out: telemetry facts and reports. Numbers are integers.
-/

namespace Scaffold

/-- A JSON value. -/
inductive Json
  | null
  | bool (value : Bool)
  | number (value : Int)
  | string (text : String)
  | array (items : List Json)
  | object (fields : List (String × Json))
  deriving Inhabited, Repr

namespace Json

/-- A null for a missing text. -/
def ofText? : Option String → Json
  | none => null
  | some text => string text

/-- Two hexadecimal digits. -/
private def hexByte (value : Nat) : List Char :=
  [Nat.digitChar (value / 16), Nat.digitChar (value % 16)]

/-- One character inside quotes. -/
def escapeChar (c : Char) : List Char :=
  match c with
  | '"' => ['\\', '"']
  | '\\' => ['\\', '\\']
  | '\n' => ['\\', 'n']
  | '\r' => ['\\', 'r']
  | '\t' => ['\\', 't']
  | _ =>
    if c.toNat = 8 then ['\\', 'b']
    else if c.toNat = 12 then ['\\', 'f']
    else if c.toNat < 0x20 then ['\\', 'u', '0', '0'] ++ hexByte c.toNat
    else [c]

/-- A text between quotes. -/
def renderText (text : String) : String :=
  String.ofList ('"' :: (text.toList.flatMap escapeChar ++ ['"']))

/-- The spaces before a line at a depth. -/
private def margin (depth : Nat) : String := String.ofList (List.replicate (2 * depth) ' ')

/-- Lines between brackets, separated by commas, at one more depth than the brackets. -/
private def bracketed (opening closing : String) (depth : Nat) (lines : List String) : String :=
  if lines.isEmpty then opening ++ closing
  else
    opening ++ "\n" ++ ",\n".intercalate (lines.map (margin (depth + 1) ++ ·)) ++ "\n" ++
      margin depth ++ closing

mutual

/-- A value on lines of its own, two spaces deeper at each level. -/
def renderAt (depth : Nat) : Json → String
  | null => "null"
  | bool value => if value then "true" else "false"
  | number value => toString value
  | string text => renderText text
  | array items => bracketed "[" "]" depth (renderItems (depth + 1) items)
  | object fields => bracketed "\x7b" "\x7d" depth (renderFields (depth + 1) fields)

/-- The items of an array. -/
def renderItems (depth : Nat) : List Json → List String
  | [] => []
  | item :: rest => renderAt depth item :: renderItems depth rest

/-- The fields of an object. -/
def renderFields (depth : Nat) : List (String × Json) → List String
  | [] => []
  | (key, value) :: rest =>
    (renderText key ++ ": " ++ renderAt depth value) :: renderFields depth rest

end

/-- A value as indented text. -/
def render (value : Json) : String := renderAt 0 value

end Json

end Scaffold
