import Scaffold.Yaml.Node

/-! # Trees of a document

A document in which every alias is replaced by what it stands for. Two limits keep this finite: collections
nest no deeper than 128 levels, and a document may follow a hundred aliases for each of its events. What lies
beyond a limit is an excess, which cannot be read as anything.
-/

namespace Scaffold.Yaml

/-- A document without aliases. -/
inductive Tree
  | scalar (tag? : Option String) (isPlain : Bool) (text : String)
  | sequence (tag? : Option String) (items : List Tree)
  | mapping (tag? : Option String) (entries : List (Tree × Tree))
  | excess
  deriving Inhabited, Repr

namespace Node

mutual

/-- How many events tell a node: one for a scalar or an alias, and two around the parts of a collection. -/
def size : Node → Nat
  | reference _ => 1
  | scalar .. => 1
  | sequence _ _ items => 2 + sizeItems items
  | mapping _ _ entries => 2 + sizeEntries entries

/-- The events of a list of nodes. -/
def sizeItems : List Node → Nat
  | [] => 0
  | item :: rest => size item + sizeItems rest

/-- The events of a list of entries. -/
def sizeEntries : List (Node × Node) → Nat
  | [] => 0
  | (key, value) :: rest => size key + size value + sizeEntries rest

end

mutual

/-- The nodes that have an anchor, in the order in which they start. -/
def anchored : Node → List (Nat × Node)
  | reference _ => []
  | node@(scalar anchor? _ _ _) => anchor?.toList.map fun anchor => (anchor, node)
  | node@(sequence anchor? _ items) =>
    (anchor?.toList.map fun anchor => (anchor, node)) ++ anchoredItems items
  | node@(mapping anchor? _ entries) =>
    (anchor?.toList.map fun anchor => (anchor, node)) ++ anchoredEntries entries

/-- The nodes of a list that have an anchor. -/
def anchoredItems : List Node → List (Nat × Node)
  | [] => []
  | item :: rest => anchored item ++ anchoredItems rest

/-- The nodes of a list of entries that have an anchor. -/
def anchoredEntries : List (Node × Node) → List (Nat × Node)
  | [] => []
  | (key, value) :: rest => anchored key ++ anchored value ++ anchoredEntries rest

end

/-- A step that follows aliases as long as its budget lasts. -/
abbrev Expansion := StateM Nat

/-- The node an alias stands for; any other node stands for itself. -/
def resolve? (targets : List (Nat × Node)) : Node → Expansion (Option Node)
  | reference anchor => do
    match ← get with
    | 0 => pure none
    | budget + 1 =>
      set budget
      pure (targets.lookup anchor)
  | node => pure (some node)

/-- Replace the aliases in a node by what they stand for. The depth bounds the nesting of collections. -/
def expand (targets : List (Nat × Node)) (depth : Nat) (node : Node) : Expansion Tree := do
  match ← resolve? targets node with
  | some (scalar _ tag? style text) => pure (.scalar tag? (style = .plain) text)
  | some (sequence _ tag? items) =>
    match depth with
    | 0 => pure .excess
    | depth + 1 => return .sequence tag? (← items.mapM (expand targets depth))
  | some (mapping _ tag? entries) =>
    match depth with
    | 0 => pure .excess
    | depth + 1 =>
      let expandEntry := fun (entry : Node × Node) => do
        let key ← expand targets depth entry.1
        let value ← expand targets depth entry.2
        pure (key, value)
      return .mapping tag? (← entries.mapM expandEntry)
  | some (reference _) | none => pure .excess

/-- How deep collections may nest. -/
def depthLimit : Nat := 128

/-- How many aliases may be followed for each event. -/
def aliasesPerEvent : Nat := 100

/-- The tree of a document with this root. -/
def tree (root : Node) : Tree :=
  let targets := root.anchored.reverse
  ((expand targets depthLimit root).run (aliasesPerEvent * root.size)).1

end Node

namespace Tree

/-- Nothing, not even a null. -/
def blank : Tree := .scalar none true ""

/-- The tree of the only document of a text; a text without a document is blank. -/
def ofText? (text : List Char) : Option Tree :=
  (Node.ofText? text).map fun root? => (root?.map Node.tree).getD blank

/-- The source text of a scalar. -/
def text? : Tree → Option String
  | scalar _ _ text => some text
  | _ => none

/-- Whether a tree is nothing, which may stand for an empty collection. -/
def isBlank : Tree → Bool
  | scalar _ true "" => true
  | _ => false

/-- The items of a sequence. -/
def items? : Tree → Option (List Tree)
  | sequence _ items => some items
  | other => if other.isBlank then some [] else none

/-- The entries of a mapping all of whose keys are scalars, by the text of the key. -/
def fields? : Tree → Option (List (String × Tree))
  | mapping _ entries => entries.mapM fun (key, value) => key.text?.map fun text => (text, value)
  | other => if other.isBlank then some [] else none

/-- How a null may be written. -/
def isNullText (text : String) : Bool :=
  text = "null" || text = "Null" || text = "NULL" || text = "~"

/-- The tag that says null. -/
def nullTag : String := "tag:yaml.org,2002:null"

/-- Whether a tree stands for a missing value; fails for something else under the tag that says null. -/
def isMissing? : Tree → Option Bool
  | scalar none true text => some (text.isEmpty || isNullText text)
  | scalar (some tag) true text =>
    if tag = nullTag then if isNullText text then some true else none else some false
  | _ => some false

/-- Read a value that may be missing. -/
def optional? {α : Type} (decode : Tree → Option α) (tree : Tree) : Option (Option α) := do
  if ← tree.isMissing? then pure none else some <$> decode tree

end Tree

end Scaffold.Yaml
