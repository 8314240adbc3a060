import Scaffold.Yaml.Token.Property
import Scaffold.Yaml.Token.Scalar

/-! # Tokens of a text

The characters of a text are gathered into tokens, and the indentation into starts and ends of block
collections. Whether a scalar is the key of a mapping shows only at the colon after it; until then its place
among the tokens is remembered, for one line and 1024 characters at most.
-/

namespace Scaffold.Yaml

/-- A place where a key may have started. -/
structure PossibleKey where
  /-- The number of tokens before it. -/
  place : Nat
  index : Nat
  line : Nat
  column : Nat
  /-- Whether nothing but a key can stand there. -/
  required : Bool
  deriving Inhabited

/-- A reading of tokens under way. -/
structure Scanner where
  cursor : Cursor
  tokens : Array Token := #[]
  /-- The columns of the open block collections, the innermost first. -/
  indents : List Nat := []
  /-- The possible key of each open flow collection, the innermost first, and last that outside of all. -/
  keys : List (Option PossibleKey) := [none]
  /-- Whether a key may start at the cursor. -/
  keyAllowed : Bool := true
  deriving Inhabited

namespace Scanner

/-- Whether a flow collection is open. -/
def inFlow (scanner : Scanner) : Bool := 1 < scanner.keys.length

/-- The column of the innermost block collection. -/
def indent? (scanner : Scanner) : Option Nat := scanner.indents.head?

/-- Whether a column is deeper than the innermost block collection. -/
def isDeeper (scanner : Scanner) (column : Nat) : Bool :=
  match scanner.indent? with
  | none => true
  | some indent => indent < column

/-- Add a token. -/
def emit (scanner : Scanner) (token : Token) : Scanner :=
  { scanner with tokens := scanner.tokens.push token }

/-- Put a token at a place among the others. -/
def emitAt (scanner : Scanner) (place : Nat) (token : Token) : Scanner :=
  { scanner with tokens := scanner.tokens.insertIdxIfInBounds place token }

/-- Move the cursor. -/
def moveTo (scanner : Scanner) (cursor : Cursor) : Scanner := { scanner with cursor }

/-- Say whether a key may start next. -/
def allowKey (scanner : Scanner) (allowed : Bool) : Scanner := { scanner with keyAllowed := allowed }

/-- Open a block collection at a column that is deeper than the innermost one. -/
def roll (scanner : Scanner) (column place : Nat) (token : Token) : Scanner :=
  if !scanner.inFlow && scanner.isDeeper column then
    { scanner.emitAt place token with indents := column :: scanner.indents }
  else scanner

/-- Close the block collections that are deeper than a column; all of them if none is given. -/
def unrollTo (column? : Option Nat) : List Nat → Array Token → List Nat × Array Token
  | [], tokens => ([], tokens)
  | indent :: rest, tokens =>
    if column?.all (· < indent) then unrollTo column? rest (tokens.push .blockEnd)
    else (indent :: rest, tokens)

/-- Close the block collections that end before a column, unless a flow collection is open. -/
def unroll (scanner : Scanner) (column? : Option Nat) : Scanner :=
  if scanner.inFlow then scanner
  else
    let (indents, tokens) := unrollTo column? scanner.indents scanner.tokens
    { scanner with indents, tokens }

/-- Forget the innermost possible key; that is an error if there had to be one. -/
def dropKey (scanner : Scanner) : Option Scanner :=
  match scanner.keys with
  | some key :: rest => if key.required then none else some { scanner with keys := none :: rest }
  | _ => some scanner

/-- Remember the cursor as the start of a possible key. -/
def markKey (scanner : Scanner) : Option Scanner :=
  if scanner.keyAllowed then do
    let cursor := scanner.cursor
    let required := !scanner.inFlow && scanner.indent? = some cursor.column
    let dropped ← scanner.dropKey
    let key : PossibleKey := ⟨scanner.tokens.size, cursor.index, cursor.line, cursor.column, required⟩
    pure { dropped with keys := some key :: dropped.keys.tail }
  else some scanner

/-- Whether a possible key is too far back: on an earlier line, or more than 1024 characters ago. -/
def isStale (cursor : Cursor) (key : PossibleKey) : Bool :=
  key.line < cursor.line || key.index + 1024 < cursor.index

/-- Forget the possible keys that are too far back. -/
def dropStaleKeys (scanner : Scanner) : Option Scanner := do
  let keys ← scanner.keys.mapM fun key? =>
    match key? with
    | none => some none
    | some key =>
      if isStale scanner.cursor key then if key.required then none else some none else some (some key)
  pure { scanner with keys }

/-- Pass white space, comments and line breaks up to the next token. -/
def skipToToken (fuel : Nat) (scanner : Scanner) : Scanner :=
  match fuel with
  | 0 => scanner
  | fuel + 1 =>
    let cursor := scanner.cursor
    let cursor := if cursor.column = 0 && cursor.sees isMark then cursor.advance else cursor
    let tabs := scanner.inFlow || !scanner.keyAllowed
    let cursor := cursor.skipWhile fun c => c = ' ' || (tabs && c = '\t')
    let cursor := if cursor.isAt '#' then cursor.skipLine else cursor
    if cursor.sees isBreak then
      skipToToken fuel
        { scanner with
          cursor := cursor.newline
          keyAllowed := scanner.keyAllowed || !scanner.inFlow }
    else scanner.moveTo cursor

/-- The end of the text. -/
def fetchEnd (scanner : Scanner) : Option Scanner := do
  let scanner ← (scanner.unroll none).dropKey
  pure (scanner.emit .streamEnd)

/-- A directive. -/
def fetchDirective (scanner : Scanner) : Option Scanner := do
  let scanner ← (scanner.unroll none).dropKey
  let (token, cursor) ← directive? scanner.cursor
  pure (((scanner.allowKey false).moveTo cursor).emit token)

/-- The start or the end of a document. -/
def fetchDocumentMarker (scanner : Scanner) (token : Token) : Option Scanner := do
  let scanner ← (scanner.unroll none).dropKey
  pure (((scanner.allowKey false).moveTo (scanner.cursor.advanceBy 3)).emit token)

/-- The start of a flow collection. -/
def fetchFlowStart (scanner : Scanner) (token : Token) : Option Scanner := do
  let scanner ← scanner.markKey
  let opened := { scanner with keys := none :: scanner.keys, keyAllowed := true }
  pure ((opened.moveTo scanner.cursor.advance).emit token)

/-- The end of a flow collection. -/
def fetchFlowEnd (scanner : Scanner) (token : Token) : Option Scanner := do
  let scanner ← scanner.dropKey
  let keys := if scanner.inFlow then scanner.keys.tail else scanner.keys
  pure (({ scanner with keys, keyAllowed := false }.moveTo scanner.cursor.advance).emit token)

/-- A comma between brackets. -/
def fetchFlowEntry (scanner : Scanner) : Option Scanner := do
  let scanner ← scanner.dropKey
  pure (((scanner.allowKey true).moveTo scanner.cursor.advance).emit .flowEntry)

/-- A dash before an item. -/
def fetchBlockEntry (scanner : Scanner) : Option Scanner := do
  let scanner ←
    if scanner.inFlow then some scanner
    else if scanner.keyAllowed then
      some (scanner.roll scanner.cursor.column scanner.tokens.size .blockSequenceStart)
    else none
  let scanner ← scanner.dropKey
  pure (((scanner.allowKey true).moveTo scanner.cursor.advance).emit .blockEntry)

/-- A question mark before a key. -/
def fetchKey (scanner : Scanner) : Option Scanner := do
  let scanner ←
    if scanner.inFlow then some scanner
    else if scanner.keyAllowed then
      some (scanner.roll scanner.cursor.column scanner.tokens.size .blockMappingStart)
    else none
  let scanner ← scanner.dropKey
  pure (((scanner.allowKey (!scanner.inFlow)).moveTo scanner.cursor.advance).emit .key)

/-- A colon before a value. What was a possible key becomes one. -/
def fetchValue (scanner : Scanner) : Option Scanner := do
  let scanner ←
    match scanner.keys with
    | some key :: rest =>
      let marked := scanner.emitAt key.place .key
      let rolled := marked.roll key.column key.place .blockMappingStart
      some { rolled with keys := none :: rest, keyAllowed := false }
    | _ =>
      if scanner.inFlow then some (scanner.allowKey false)
      else if scanner.keyAllowed then
        some ((scanner.roll scanner.cursor.column scanner.tokens.size .blockMappingStart).allowKey true)
      else none
  pure ((scanner.moveTo scanner.cursor.advance).emit .value)

/-- A token that a key may start with. -/
def fetchNodePart (scanner : Scanner) (read : Cursor → Option (Token × Cursor)) : Option Scanner := do
  let scanner ← scanner.markKey
  let (token, cursor) ← read scanner.cursor
  pure (((scanner.allowKey false).moveTo cursor).emit token)

/-- A block scalar. -/
def fetchBlockScalar (scanner : Scanner) (literal : Bool) : Option Scanner := do
  let scanner ← scanner.dropKey
  let (text, cursor) ← blockScalar literal scanner.indent? scanner.cursor.advance
  let style : ScalarStyle := if literal then .literal else .folded
  pure (((scanner.allowKey true).moveTo cursor).emit (.scalar style (String.ofList text)))

/-- A quoted scalar. -/
def fetchQuoted (scanner : Scanner) (single : Bool) : Option Scanner :=
  scanner.fetchNodePart fun cursor => do
    let (text, after) ← quotedScalar single (cursor.rest.length + 2) cursor.advance
    let style : ScalarStyle := if single then .singleQuoted else .doubleQuoted
    pure (.scalar style (String.ofList text), after)

/-- A plain scalar. A key may follow where one ends with its line. -/
def fetchPlain (scanner : Scanner) : Option Scanner := do
  let scanner ← scanner.markKey
  let indent := match scanner.indent? with
    | none => 0
    | some indent => indent + 1
  let (text, broken, cursor) ←
    plainScalar scanner.inFlow indent (scanner.cursor.rest.length + 2) {} scanner.cursor
  pure (((scanner.allowKey broken).moveTo cursor).emit (.scalar .plain (String.ofList text)))

/-- Whether a plain scalar starts at the cursor. -/
def startsPlain (scanner : Scanner) (c : Char) : Bool :=
  let indicator := "-?:,[]#&*!|>'\"%@".toList.contains c || c.toNat = 0x7B || c.toNat = 0x7D || c.toNat = 0x60
  (!Cursor.separates (some c) && !indicator)
    || (c = '-' && !scanner.cursor.second?.any isBlank)
    || (!scanner.inFlow && (c = '?' || c = ':') && !scanner.cursor.gapFollows)

/-- An alias or an anchor. -/
def named (token : String → Token) (cursor : Cursor) : Option (Token × Cursor) :=
  (anchorName? cursor).map fun (name, after) => (token name, after)

/-- Read the token at the cursor. -/
def fetch (scanner : Scanner) : Option Scanner :=
  let cursor := scanner.cursor
  match cursor.peek? with
  | none => scanner.fetchEnd
  | some c =>
    let gapFollows := cursor.gapFollows
    if cursor.column = 0 && c = '%' then scanner.fetchDirective
    else if cursor.atMarker '-' then scanner.fetchDocumentMarker .documentStart
    else if cursor.atMarker '.' then scanner.fetchDocumentMarker .documentEnd
    else if c = '[' then scanner.fetchFlowStart .flowSequenceStart
    else if c.toNat = 0x7B then scanner.fetchFlowStart .flowMappingStart
    else if c = ']' then scanner.fetchFlowEnd .flowSequenceEnd
    else if c.toNat = 0x7D then scanner.fetchFlowEnd .flowMappingEnd
    else if c = ',' then scanner.fetchFlowEntry
    else if c = '-' && gapFollows then scanner.fetchBlockEntry
    else if c = '?' && (scanner.inFlow || gapFollows) then scanner.fetchKey
    else if c = ':' && (scanner.inFlow || gapFollows) then scanner.fetchValue
    else if c = '*' then scanner.fetchNodePart (named .reference)
    else if c = '&' then scanner.fetchNodePart (named .anchor)
    else if c = '!' then scanner.fetchNodePart tag?
    else if c = '|' && !scanner.inFlow then scanner.fetchBlockScalar true
    else if c = '>' && !scanner.inFlow then scanner.fetchBlockScalar false
    else if c = '\'' then scanner.fetchQuoted true
    else if c = '"' then scanner.fetchQuoted false
    else if scanner.startsPlain c then scanner.fetchPlain
    else none

/-- Read tokens up to the end of the text. The fuel bounds their number. -/
def run (fuel : Nat) (scanner : Scanner) : Option (Array Token) :=
  match fuel with
  | 0 => none
  | fuel + 1 => do
    let scanner ← (scanner.skipToToken (scanner.cursor.rest.length + 1)).dropStaleKeys
    let scanner ← (scanner.unroll (some scanner.cursor.column)).fetch
    if scanner.tokens.back? = some .streamEnd then pure scanner.tokens else run fuel scanner

end Scanner

/-- The tokens of a text, the last of which tells that it ended. -/
def Token.ofText? (text : List Char) : Option (Array Token) :=
  if text.all isAllowed then Scanner.run (text.length + 2) { cursor := { rest := text } } else none

end Scaffold.Yaml
