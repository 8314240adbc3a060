import Scaffold.Yaml.Value.Plain

/-! # The value of a tree

A tree stands for a value unless it has a tag of its own making, a key comes twice, or a scalar does not suit
its tag.
-/

namespace Scaffold.Yaml.Value

/-- Whether a tag is of the document's own making. -/
def isLocalTag : Option String → Bool
  | some tag => tag.toList.head? = some '!'
  | none => false

/-- The tags that say which kind of scalar follows start so. -/
def coreTag (kind : String) : String := "tag:yaml.org,2002:" ++ kind

/-- The value of a scalar. -/
def ofScalar? (tag? : Option String) (isPlain : Bool) (content : String) : Option Value :=
  match tag? with
  | none => if isPlain then ofPlain? content else some (string content)
  | some tag =>
    if isLocalTag tag? then none
    else if tag = coreTag "bool" then (bool? content).map bool
    else if tag = coreTag "int" then intOr? content.toList none
    else if tag = coreTag "float" then (float? content.toList).map float
    else if tag = coreTag "null" then if Tree.isNullText content then some null else none
    else some (string content)

mutual

/-- The value of a tree. -/
def ofTree? : Tree → Option Value
  | .scalar tag? isPlain content => ofScalar? tag? isPlain content
  | .sequence tag? items => if isLocalTag tag? then none else (ofItems? items).map sequence
  | .mapping tag? entries =>
    if isLocalTag tag? then none
    else ((ofEntries? entries).filter distinctKeys).map mapping
  | .excess => none

/-- The values of a list of trees. -/
def ofItems? : List Tree → Option (List Value)
  | [] => some []
  | item :: rest => do
    let value ← ofTree? item
    pure (value :: (← ofItems? rest))

/-- The keys and values of a list of entries. -/
def ofEntries? : List (Tree × Tree) → Option (List (Value × Value))
  | [] => some []
  | (key, value) :: rest => do
    let entry := (← ofTree? key, ← ofTree? value)
    pure (entry :: (← ofEntries? rest))

end

end Scaffold.Yaml.Value
