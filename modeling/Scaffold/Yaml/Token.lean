/-! # Tokens of YAML -/

namespace Scaffold.Yaml

/-- How a scalar was written. -/
inductive ScalarStyle
  | plain
  | singleQuoted
  | doubleQuoted
  | literal
  | folded
  deriving DecidableEq, Repr, Inhabited

/-- A token. Block collections have no characters of their own: their starts and ends follow from the
indentation. -/
inductive Token
  | versionDirective (major minor : Nat)
  | tagDirective (handle tag : String)
  | documentStart
  | documentEnd
  | blockSequenceStart
  | blockMappingStart
  | blockEnd
  | flowSequenceStart
  | flowSequenceEnd
  | flowMappingStart
  | flowMappingEnd
  | blockEntry
  | flowEntry
  | key
  | value
  | reference (name : String)
  | anchor (name : String)
  | tag (handle suffix : String)
  | scalar (style : ScalarStyle) (text : String)
  | streamEnd
  deriving DecidableEq, Repr, Inhabited

end Scaffold.Yaml
