import Scaffold.Failure
import Scaffold.Text.Blank
import Scaffold.Text.Lowercase

/-! # Component names

A component name is a host label that starts with a letter: at most 63 bytes of lower-case letters, digits
and dashes, with a letter at the start and no dash at the end. Other texts are turned into names by
replacing what is not allowed with dashes.
-/

namespace Scaffold.Name

/-- The longest name. -/
def maxLength : Nat := 63

/-- The name used when nothing else yields one. -/
def fallback : String := "my-component"

/-- The letters `a` to `z`. -/
def isLetter (c : Char) : Bool := 'a' ≤ c && c ≤ 'z'

/-- A letter or a digit. -/
def isPlain (c : Char) : Bool := isLetter c || ('0' ≤ c && c ≤ '9')

/-- Whether a text has the form of a name, whatever its length. -/
def isLabel (text : List Char) : Bool :=
  text.head?.any isLetter && text.getLast?.any isPlain && text.all fun c => isPlain c || c = '-'

/-- Refuse a text that is not a name. -/
def validate (name : String) : Except Cause Unit :=
  if maxLength < name.utf8ByteSize then
    .error (.nameInvalid name ("must be no more than " ++ toString maxLength ++ " characters"))
  else if isLabel name.toList then .ok ()
  else
    .error (.nameInvalid name ("must consist of lower case alphanumeric characters or '-', start with a letter "
      ++ "and end with an alphanumeric character"))

/-- Whether a text is a name. -/
def isValid (name : String) : Bool := (validate name).isOk

/-- Replace everything but letters and digits by dashes, and each run of dashes by one. -/
def dashed : List Char → List Char
  | [] => []
  | c :: rest =>
    let rest := dashed rest
    if isPlain c then c :: rest
    else if rest.head? = some '-' then rest
    else '-' :: rest

/-- The name that a text turns into, if it has a letter. -/
def sanitize? (raw : String) : Option String :=
  let text := dashed ((Text.trim raw.toList).flatMap Text.lowerChar)
  let name := Text.trimEnd (· = '-') ((text.dropWhile fun c => !isLetter c).take maxLength)
  if isValid (String.ofList name) then some (String.ofList name) else none

/-- The name of the first candidate that turns into one, else that of the directory, else the fallback. -/
def suggest (candidates : List String) (directory : Path) : String :=
  ((candidates ++ directory.fileName?.toList).findSome? sanitize?).getD fallback

end Scaffold.Name
