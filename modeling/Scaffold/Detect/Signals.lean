import Scaffold.Data.OrderedMap
import Scaffold.Detect.Language
import Scaffold.Detect.Marker
import Scaffold.Registry
import Scaffold.Text.Utf8

/-! # Signals

What the files of a directory tell about the project in it: how much speaks for each language, which
frameworks are used, and the name the project declares. A stack is scored by how well it fits. Weights and scores are
numbers of 32 bits.
-/

namespace Scaffold

/-- Signals found in a directory. -/
structure Signals where
  /-- The weight of each language that was seen. -/
  languages : OrderedMap Language Nat := .empty
  frameworks : OrderedMap String Unit := .empty
  projectName : Option String := none
  deriving DecidableEq, Inhabited

/-- A file that was looked at. -/
structure SourceFile where
  name : String
  /-- Whether the file is directly in the directory. -/
  isTop : Bool
  /-- The contents, if the file is a marker that could be read. -/
  contents? : Option ByteArray
  deriving Inhabited

namespace Signals

/-- The weight of a marker file. -/
def markerWeight : Nat := 10

/-- The weight of a source file. -/
def sourceWeight : Nat := 1

/-- What a framework in the name or project type adds to a score. -/
def frameworkBonus : Nat := 20

/-- What each fitting tag adds to a score. -/
def tagBonus : Nat := 5

/-- What is left of a sum in 32 bits. -/
def wrap (sum : Nat) : Nat := sum % UInt32.size

/-- Whether nothing was found. -/
def isEmpty (signals : Signals) : Bool := signals.languages.isEmpty && signals.frameworks.isEmpty

/-- The weight of a language. -/
def weight (signals : Signals) (language : Language) : Nat := (signals.languages.get? language).getD 0

/-- Add weight to a language. -/
def addLanguage (signals : Signals) (language : Language) (weight : Nat) : Signals :=
  { signals with
    languages := signals.languages.insert language (wrap (signals.weight language + weight)) }

/-- Add frameworks. -/
def addFrameworks (signals : Signals) (frameworks : List String) : Signals :=
  { signals with
    frameworks := frameworks.foldl (fun set framework => set.insert framework ()) signals.frameworks }

/-- Add what the contents of a marker file tell. The first name declared directly in the directory stays. -/
def addContents (signals : Signals) (file : SourceFile) (contents : ByteArray) : Signals :=
  let text := Text.fromUtf8Lossy contents
  let signals := signals.addFrameworks (Marker.frameworks file.name text)
  if file.isTop && signals.projectName.isNone then
    { signals with projectName := Marker.declaredName? file.name text }
  else signals

/-- Add what a file tells. -/
def addFile (signals : Signals) (file : SourceFile) : Signals :=
  match Language.ofMarker? file.name with
  | some language =>
    let signals := signals.addLanguage language markerWeight
    match file.contents? with
    | some contents => signals.addContents file contents
    | none => signals
  | none =>
    match Language.ofExtension? file.name with
    | some language => signals.addLanguage language sourceWeight
    | none => signals

/-- The signals of some files, in order. -/
def ofFiles (files : List SourceFile) : Signals := files.foldl addFile {}

/-- Whether one of the frameworks occurs in a text. -/
def namesFramework (signals : Signals) (text : List Char) : Bool :=
  signals.frameworks.keys.any fun framework => Text.occursIn framework.toList text

/-- What the languages add to the score of a stack. Half the weight of TypeScript counts for JavaScript. -/
def languageScore (signals : Signals) (stack : Stack) : Nat :=
  match Language.ofLabel? stack.language with
  | none => 0
  | some .javascript => wrap (signals.weight .javascript + signals.weight .typescript / 2)
  | some language => signals.weight language

/-- Whether a tag fits. -/
def tagFits (signals : Signals) (tag : String) : Bool :=
  let lowered := Text.lowerAscii tag.toList
  signals.namesFramework lowered
    || (Language.ofLabel? (String.ofList lowered)).any signals.languages.contains

/-- How well a stack fits; zero is no fit. -/
def score (signals : Signals) (stack : Stack) : Nat :=
  let language := signals.languageScore stack
  if language = 0 then 0
  else
    let title := Text.lowerAscii (stack.name ++ " " ++ stack.projectType).toList
    wrap (language + (if signals.namesFramework title then frameworkBonus else 0)
      + tagBonus * stack.tags.countP signals.tagFits)

/-- Whether a scored stack takes the place of another: by its score, then by its name. -/
def beats (challenger current : Stack × Nat) : Bool :=
  current.2 < challenger.2 || (current.2 = challenger.2 && challenger.1.name < current.1.name)

/-- The better of the best so far and one more. -/
def better (best? : Option (Stack × Nat)) (challenger : Stack × Nat) : Option (Stack × Nat) :=
  match best? with
  | none => some challenger
  | some best => if beats challenger best then some challenger else some best

/-- The stack with the highest score; of equal ones that with the least name, and then the first. -/
def bestMatch (signals : Signals) (listed : List Stack) : Option (Stack × Nat) :=
  listed.foldl
    (fun best? stack =>
      let score := signals.score stack
      if score = 0 then best? else better best? (stack, score))
    none

end Signals

end Scaffold
