import Scaffold.Yaml.Token.Scan

/-! # Nodes of a document

Tokens are gathered into the nodes of the one document of a text. An alias refers to an anchor by a number:
a new name takes as its number how many names there are, and a name that is used again takes that number
too. An alias stands for the last node that has its number.
-/

namespace Scaffold.Yaml

/-- A node of a document. -/
inductive Node
  | reference (anchor : Nat)
  | scalar (anchor? : Option Nat) (tag? : Option String) (style : ScalarStyle) (text : String)
  | sequence (anchor? : Option Nat) (tag? : Option String) (items : List Node)
  | mapping (anchor? : Option Nat) (tag? : Option String) (entries : List (Node × Node))
  deriving Inhabited

namespace Node

/-- What is left to gather, and the names known so far. -/
structure Gathering where
  tokens : List Token
  /-- The number of each anchor's name. -/
  anchors : List (String × Nat) := []
  /-- What the handles of tags stand for. -/
  handles : List (String × String) := []

/-- A step that gathers something. -/
abbrev Gather := StateT Gathering Option

/-- The next token. -/
def peek : Gather Token := do
  match (← get).tokens with
  | token :: _ => pure token
  | [] => failure

/-- Pass a token. -/
def skip : Gather Unit := modify fun state => { state with tokens := state.tokens.tail }

/-- The number for an anchor of a name. -/
def enter (name : String) : Gather Nat := do
  let anchors := (← get).anchors
  let number := anchors.length
  let kept := anchors.map fun (known, old) => (known, if known = name then number else old)
  modify fun state =>
    { state with anchors := if (anchors.lookup name).isSome then kept else (name, number) :: anchors }
  pure number

/-- The full form of a tag. -/
def fullTag (handle suffix : String) : Gather String := do
  if handle.isEmpty then pure suffix
  else
    match (← get).handles.lookup handle with
    | some opening => pure (opening ++ suffix)
    | none => failure

/-- The anchor and the tag in front of a node, in either order. -/
def properties : Gather (Option Nat × Option String) := do
  match ← peek with
  | .anchor name =>
    skip
    match ← peek with
    | .tag handle suffix => do
      skip
      let tag ← fullTag handle suffix
      pure (some (← enter name), some tag)
    | _ => pure (some (← enter name), none)
  | .tag handle suffix => do
    skip
    let anchor? ← match ← peek with
      | .anchor name => do
        skip
        pure (some name)
      | _ => pure none
    let tag ← fullTag handle suffix
    match anchor? with
    | some name => pure (some (← enter name), some tag)
    | none => pure (none, some tag)
  | _ => pure (none, none)

/-- A scalar without any text. -/
def blank : Node := scalar none none .plain ""

/-- The tag of a scalar; a single sign counts as none. -/
def scalarTag : Option String → Option String
  | some "!" => none
  | tag? => tag?

/-- Whether a node is missing between a key or a dash and the given token. -/
def endsBlock : Token → Bool
  | .key | .value | .blockEnd => true
  | _ => false

mutual

/-- Gather a node. Block collections are allowed where `block` says so, and items without an indentation
of their own where `indentless` does. -/
def node (fuel : Nat) (block indentless : Bool) : Gather Node :=
  match fuel with
  | 0 => failure
  | fuel + 1 => do
    match ← peek with
    | .reference name =>
      skip
      match (← get).anchors.lookup name with
      | some number => pure (.reference number)
      | none => failure
    | _ =>
      let (anchor?, tag?) ← properties
      let next ← peek
      if indentless && next = .blockEntry then pure (.sequence anchor? tag? (← indentlessItems fuel))
      else
        match next with
        | .scalar style text =>
          skip
          pure (.scalar anchor? (scalarTag tag?) style text)
        | .flowSequenceStart =>
          skip
          pure (.sequence anchor? tag? (← flowItems fuel true))
        | .flowMappingStart =>
          skip
          pure (.mapping anchor? tag? (← flowEntries fuel true))
        | _ =>
          if block && next = .blockSequenceStart then
            skip
            pure (.sequence anchor? tag? (← blockItems fuel))
          else if block && next = .blockMappingStart then
            skip
            pure (.mapping anchor? tag? (← blockEntries fuel))
          else if anchor?.isSome || tag?.isSome then pure (.scalar anchor? tag? .plain "")
          else failure

/-- Gather the items of a block sequence. -/
def blockItems (fuel : Nat) : Gather (List Node) :=
  match fuel with
  | 0 => failure
  | fuel + 1 => do
    match ← peek with
    | .blockEntry =>
      skip
      let next ← peek
      let item ← if next = .blockEntry || next = .blockEnd then pure blank else node fuel true false
      pure (item :: (← blockItems fuel))
    | .blockEnd =>
      skip
      pure []
    | _ => failure

/-- Gather the items of a block sequence at the column of the mapping around it. -/
def indentlessItems (fuel : Nat) : Gather (List Node) :=
  match fuel with
  | 0 => failure
  | fuel + 1 => do
    match ← peek with
    | .blockEntry =>
      skip
      let next ← peek
      let item ←
        if next = .blockEntry || endsBlock next then pure blank else node fuel true false
      pure (item :: (← indentlessItems fuel))
    | _ => pure []

/-- Gather the entries of a block mapping. -/
def blockEntries (fuel : Nat) : Gather (List (Node × Node)) :=
  match fuel with
  | 0 => failure
  | fuel + 1 => do
    match ← peek with
    | .key =>
      skip
      let key ← if endsBlock (← peek) then pure blank else node fuel true true
      let value ← blockValue fuel
      pure ((key, value) :: (← blockEntries fuel))
    | .blockEnd =>
      skip
      pure []
    | _ => failure

/-- Gather the value of an entry of a block mapping. -/
def blockValue (fuel : Nat) : Gather Node :=
  match fuel with
  | 0 => failure
  | fuel + 1 => do
    match ← peek with
    | .value =>
      skip
      if endsBlock (← peek) then pure blank else node fuel true true
    | _ => pure blank

/-- Gather the items of a flow sequence. -/
def flowItems (fuel : Nat) (first : Bool) : Gather (List Node) :=
  match fuel with
  | 0 => failure
  | fuel + 1 => do
    if (← peek) = .flowSequenceEnd then
      skip
      pure []
    else
      if !first then
        if (← peek) = .flowEntry then skip else failure
      match ← peek with
      | .key =>
        skip
        let entry ← singleEntry fuel
        pure (.mapping none none [entry] :: (← flowItems fuel false))
      | .flowSequenceEnd =>
        skip
        pure []
      | _ =>
        let item ← node fuel false false
        pure (item :: (← flowItems fuel false))

/-- Gather the one entry of a mapping without braces. A missing key takes the token after it along. -/
def singleEntry (fuel : Nat) : Gather (Node × Node) :=
  match fuel with
  | 0 => failure
  | fuel + 1 => do
    let next ← peek
    let key ←
      if next = .value || next = .flowEntry || next = .flowSequenceEnd then do
        skip
        pure blank
      else node fuel false false
    let value ←
      if (← peek) = .value then do
        skip
        let next ← peek
        if next = .flowEntry || next = .flowSequenceEnd then pure blank else node fuel false false
      else pure blank
    pure (key, value)

/-- Gather the entries of a flow mapping. -/
def flowEntries (fuel : Nat) (first : Bool) : Gather (List (Node × Node)) :=
  match fuel with
  | 0 => failure
  | fuel + 1 => do
    if (← peek) = .flowMappingEnd then
      skip
      pure []
    else
      if !first then
        if (← peek) = .flowEntry then skip else failure
      match ← peek with
      | .key =>
        skip
        let next ← peek
        let key ←
          if next = .value || next = .flowEntry || next = .flowMappingEnd then pure blank
          else node fuel false false
        let value ← flowValue fuel
        pure ((key, value) :: (← flowEntries fuel false))
      | .flowMappingEnd =>
        skip
        pure []
      | _ =>
        let key ← node fuel false false
        pure ((key, blank) :: (← flowEntries fuel false))

/-- Gather the value of an entry of a flow mapping. -/
def flowValue (fuel : Nat) : Gather Node :=
  match fuel with
  | 0 => failure
  | fuel + 1 => do
    if (← peek) = .value then
      skip
      let next ← peek
      if next = .flowEntry || next = .flowMappingEnd then pure blank else node fuel false false
    else pure blank

end

/-- The handles that need no directive. -/
def usualHandles : List (String × String) := [("!", "!"), ("!!", "tag:yaml.org,2002:")]

/-- Read the directives before a document: one version at most, and each handle once at most. -/
def directives (fuel : Nat) (hasVersion : Bool) (handles : List (String × String)) :
    Gather (Bool × List (String × String)) :=
  match fuel with
  | 0 => failure
  | fuel + 1 => do
    match ← peek with
    | .versionDirective major minor =>
      if hasVersion || major ≠ 1 || (minor ≠ 1 && minor ≠ 2) then failure
      skip
      let (_, handles) ← directives fuel true handles
      pure (true, handles)
    | .tagDirective handle tag =>
      if (handles.lookup handle).isSome then failure
      skip
      let (_, handles) ← directives fuel hasVersion ((handle, tag) :: handles)
      pure (true, handles)
    | _ => pure (false, handles)

/-- Pass the marks that end a document. -/
def skipEnds (fuel : Nat) : Gather Unit :=
  match fuel with
  | 0 => pure ()
  | fuel + 1 => do
    if (← peek) = .documentEnd then
      skip
      skipEnds fuel

/-- Gather the only document of a text; a text without any document has no node. -/
def document (fuel : Nat) : Gather (Option Node) := do
  if (← peek) = .streamEnd then pure none
  else
    let (hasDirectives, handles) ← directives fuel false []
    modify fun state => { state with handles := handles ++ usualHandles }
    let explicit := (← peek) = .documentStart
    if hasDirectives && !explicit then failure
    if explicit then skip
    let next ← peek
    let missing := explicit && (next = .documentStart || next = .documentEnd || next = .streamEnd ||
      match next with
      | .versionDirective .. | .tagDirective .. => true
      | _ => false)
    let root ← if missing then pure blank else node fuel true false
    skipEnds fuel
    if (← peek) = .streamEnd then pure (some root) else failure

/-- The root of the only document of a text; none if there is no document. -/
def ofText? (text : List Char) : Option (Option Node) := do
  let tokens ← Token.ofText? text
  let (root?, _) ← (document (4 * tokens.size + 4)).run { tokens := tokens.toList }
  pure root?

end Node

end Scaffold.Yaml
