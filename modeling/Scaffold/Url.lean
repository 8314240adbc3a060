import Scaffold.Url.Host

/-! # Web addresses

URLs with the schemes `http` and `https`, read as leniently as browsers read them: white space around them
and line breaks in them are dropped, backslashes count as slashes, dot segments are resolved and characters
that may not stand are percent-encoded. Other schemes are recognised but not looked into.
-/

namespace Scaffold

/-- A web address. -/
structure Url where
  secure : Bool
  host : Url.Host
  /-- The port, if it is not the usual one of the scheme. -/
  port : Option Nat
  /-- The segments of the path. -/
  path : List String
  query : Option String
  deriving DecidableEq, Repr, Inhabited

namespace Url

/-- What a reference leads to. -/
inductive Target
  | web (url : Url)
  /-- An address with a scheme that is not of the web. -/
  | foreign
  deriving DecidableEq, Repr, Inhabited

/-- Drop control characters and spaces at both ends, and tabs and line breaks everywhere. -/
def clean (text : List Char) : List Char :=
  let low (c : Char) : Bool := c.toNat ≤ 0x20
  ((text.dropWhile low).reverse.dropWhile low).reverse.filter fun c =>
    c ≠ '\t' && c ≠ '\n' && c ≠ '\r'

/-- Whether a character counts as a slash. -/
def isSlash (c : Char) : Bool := c = '/' || c = '\\'

/-- The scheme in lower case and what follows it. -/
def scheme? (text : List Char) : Option (String × List Char) :=
  let inScheme (c : Char) : Bool := c.isAlphanum || c = '+' || c = '-' || c = '.'
  match text.dropWhile inScheme with
  | ':' :: rest =>
    if text.head?.any Char.isAlpha then
      some (String.ofList ((text.takeWhile inScheme).map Char.toLower), rest)
    else none
  | _ => none

/-- Two upper-case hexadecimal digits after a percent sign. -/
def percentByte (b : UInt8) : List Char :=
  let digit (value : Nat) : Char := (Nat.digitChar value).toUpper
  ['%', digit (b.toNat / 16), digit (b.toNat % 16)]

/-- Percent-encode control characters, characters beyond ASCII and those of a given set. -/
def percentEncode (reserved : List Char) (text : List Char) : String :=
  String.ofList <| text.flatMap fun c =>
    if c.toNat < 0x21 || 0x7E < c.toNat || reserved.contains c then
      c.toString.toUTF8.toList.flatMap percentByte
    else [c]

/-- What may not stand in a segment of a path. -/
def reservedInPath : List Char :=
  ['"', '#', '<', '>', '?', Char.ofNat 0x60, Char.ofNat 0x7B, Char.ofNat 0x7D]

/-- What may not stand in a query. -/
def reservedInQuery : List Char := ['"', '#', '<', '>', '\'']

/-- The pieces between slashes. -/
def segments : List Char → List (List Char)
  | [] => [[]]
  | c :: rest =>
    if isSlash c then [] :: segments rest
    else
      match segments rest with
      | [] => [[c]]
      | piece :: pieces => (c :: piece) :: pieces

/-- A piece of a path with its encoded dots decoded. -/
def dotted : List Char → List Char
  | '%' :: '2' :: c :: rest =>
    if c = 'e' ∨ c = 'E' then '.' :: dotted rest else '%' :: dotted ('2' :: c :: rest)
  | c :: rest => c :: dotted rest
  | [] => []

/-- Follow the pieces of a path from the segments before them. -/
def resolve (before : List String) : List (List Char) → List String
  | [] => before
  | piece :: rest =>
    let ended (path : List String) : List String := if rest.isEmpty then path ++ [""] else path
    if dotted piece = ['.', '.'] then resolve (ended before.dropLast) rest
    else if dotted piece = ['.'] then resolve (ended before) rest
    else resolve (before ++ [percentEncode reservedInPath piece]) rest

/-- Split off the fragment, which is never kept, and the query. -/
def queryOf (text : List Char) : List Char × Option String :=
  let body := text.takeWhile (· ≠ '#')
  match body.dropWhile (· ≠ '?') with
  | '?' :: query => (body.takeWhile (· ≠ '?'), some (percentEncode reservedInQuery query))
  | _ => (body, none)

/-- The port that digits write. -/
def port? (secure : Bool) (digits : List Char) : Option (Option Nat) :=
  if digits.isEmpty then some none
  else if digits.all Char.isDigit then do
    let port ← natOfDigits? 10 digits
    if 65535 < port then none
    else some (if port = (if secure then 443 else 80) then none else some port)
  else none

/-- Cut a host from its port. A colon between brackets belongs to the host. -/
def cutPort (inBrackets : Bool) : List Char → List Char × Option (List Char)
  | [] => ([], none)
  | c :: rest =>
    if c = ':' ∧ !inBrackets then ([], some rest)
    else
      let (host, port?) := cutPort (if c = '[' then true else if c = ']' then false else inBrackets) rest
      (c :: host, port?)

/-- Read an address after the slashes that open it. -/
def authority? (secure : Bool) (text : List Char) : Option Url := do
  let inAuthority (c : Char) : Bool := !isSlash c && c ≠ '?' && c ≠ '#'
  let authority := text.takeWhile inAuthority
  let site := (authority.reverse.takeWhile (· ≠ '@')).reverse
  let (hostText, portText?) := cutPort false site
  let host ← if hostText.isEmpty then none else Host.parse? hostText
  let port ← port? secure (portText?.getD [])
  let (pathText, query) := queryOf (text.dropWhile inAuthority)
  let pieces := match pathText with
    | c :: rest => if isSlash c then segments rest else segments (c :: rest)
    | [] => [[]]
  pure ⟨secure, host, port, resolve [] pieces, query⟩

/-- Read a reference without a scheme against the address it stands in. -/
def relative? (base : Url) (text : List Char) : Option Url :=
  match text with
  | a :: rest =>
    if isSlash a then
      if rest.head?.any isSlash then authority? base.secure (rest.dropWhile isSlash)
      else
        let (pathText, query) := queryOf rest
        some { base with path := resolve [] (segments pathText), query }
    else
      let (pathText, query) := queryOf text
      if pathText.isEmpty then some { base with query := query.orElse fun _ =>
        if a = '#' then base.query else none }
      else some { base with path := resolve base.path.dropLast (segments pathText), query }
  | [] => some base

/-- Read a reference, against a base if there is one. -/
def parse? (base : Option Url) (text : String) : Option Target :=
  let text := clean text.toList
  match scheme? text with
  | some (scheme, rest) =>
    if scheme = "http" ∨ scheme = "https" then
      let secure : Bool := scheme = "https"
      let bare := !(rest.head?.any isSlash && rest.tail.head?.any isSlash)
      match base with
      | some base =>
        if base.secure = secure ∧ bare then (relative? base rest).map .web
        else (authority? secure (rest.dropWhile isSlash)).map .web
      | none => (authority? secure (rest.dropWhile isSlash)).map .web
    else some .foreign
  | none => base.bind fun base => (relative? base text).map .web

/-- The address that a text writes. -/
def ofText? (text : String) : Option Url :=
  match parse? none text with
  | some (.web url) => some url
  | _ => none

/-- Whether a text is a web address. -/
def isUrl (text : String) : Bool := (ofText? text).isSome

/-- The address as it is requested. -/
def text (url : Url) : String :=
  (if url.secure then "https://" else "http://") ++ url.host.text
    ++ (url.port.elim "" fun port => ":" ++ toString port)
    ++ "/" ++ "/".intercalate url.path
    ++ (url.query.elim "" fun query => "?" ++ query)

end Url

end Scaffold
