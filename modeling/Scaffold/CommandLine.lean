import Scaffold.Flags

/-! # Command lines

The arguments of the program ask for a run, for its version or for help, or they are misused. Switches of the
whole program may stand before the command word and after it; where both do, the later one counts.

A value in an argument of its own is looked at when the next switch of the same command comes, or once all
arguments are read. So help that is asked for before that is given, whatever the value is.
-/

namespace Scaffold.CommandLine

/-- How the outcome of a run is reported. -/
inductive Format
  | text
  | json
  deriving DecidableEq, Repr, Inhabited

namespace Format

/-- All formats. -/
def all : List Format := [text, json]

/-- The name of a format. -/
def name : Format → String
  | text => "text"
  | json => "json"

/-- The format of a name. -/
def ofName? (name : String) : Option Format := all.find? fun format => format.name = name

end Format

/-- What arguments are given to. -/
inductive Command
  /-- The program as a whole. -/
  | program
  | initialise
  | help
  deriving DecidableEq, Repr, Inhabited

/-- What arguments can switch. -/
inductive Switch
  | verbose
  | output
  | help
  | version
  | flag (which : Flag)
  deriving DecidableEq, Repr, Inhabited

namespace Switch

/-- The name of a switch. -/
def name : Switch → String
  | verbose => "verbose"
  | output => "output"
  | help => "help"
  | version => "version"
  | flag which => which.key

/-- The letter of a switch. -/
def letter? : Switch → Option Char
  | verbose => some 'v'
  | output => some 'o'
  | help => some 'h'
  | version => some 'V'
  | flag _ => none

/-- Whether a switch has a value. -/
def takesValue : Switch → Bool
  | output | flag _ => true
  | verbose | help | version => false

end Switch

namespace Command

/-- The word of a command. -/
def word : Command → String
  | program => "devinit"
  | initialise => "init"
  | help => "help"

/-- The commands that a command leads to by their words. -/
def next : Command → List Command
  | program => [initialise, help]
  | initialise | help => []

/-- The switches of a command. -/
def switches : Command → List Switch
  | program => [.verbose, .output, .help, .version]
  | initialise =>
    [.flag .name, .verbose, .flag .devfile, .output, .flag .devfileRegistry, .flag .devfilePath,
      .flag .starter, .help]
  | help => []

/-- The command that a word leads to. -/
def next? (command : Command) (word : String) : Option Command :=
  command.next.find? fun next => next.word = word

/-- The switch of a name. -/
def switch? (command : Command) (name : String) : Option Switch :=
  command.switches.find? fun switch => switch.name = name

/-- The switch of a letter. -/
def switchOfLetter? (command : Command) (letter : Char) : Option Switch :=
  command.switches.find? fun switch => switch.letter? = some letter

end Command

/-- What is wrong with some arguments. -/
inductive Misuse
  | missingCommand
  | unknownArgument (argument : String)
  | missingValue (switch : Switch)
  | needlessValue (switch : Switch) (value : String)
  | unknownFormat (name : String)
  | repeated (switch : Switch)
  deriving DecidableEq, Repr, Inhabited

/-- What the user is told about a misuse. -/
def Misuse.message : Misuse → String
  | missingCommand => "a command is required"
  | unknownArgument argument => "unexpected argument '" ++ argument ++ "'"
  | missingValue switch => "a value is required for '--" ++ switch.name ++ "'"
  | needlessValue switch value => "unexpected value '" ++ value ++ "' for '--" ++ switch.name ++ "'"
  | unknownFormat name => "unknown format '" ++ name ++ "'"
  | repeated switch => "'--" ++ switch.name ++ "' is given more than once"

/-- Arguments that do not ask for a run. -/
inductive Aside
  | help (topic : Command)
  | version
  | misuse (misuse : Misuse)
  deriving DecidableEq, Repr, Inhabited

/-- A run that is asked for. -/
structure Request where
  format : Format
  flags : Flags
  deriving DecidableEq, Repr, Inhabited

/-- The form of an argument. -/
inductive Argument
  /-- Two dashes alone, after which no switch can come. -/
  | dashes
  /-- The name of a switch, perhaps with its value. -/
  | named (name : String) (value? : Option String)
  /-- Letters of switches, of which the last may be followed by its value. -/
  | letters (letters : List Char)
  | word (text : String)
  deriving DecidableEq, Repr, Inhabited

/-- The form of an argument by its dashes. One dash alone is a word. -/
def Argument.ofText (text : String) : Argument :=
  match text.toList with
  | ['-', '-'] => dashes
  | '-' :: '-' :: rest =>
    match rest.dropWhile (· ≠ '=') with
    | [] => named (String.ofList rest) none
    | _ :: value => named (String.ofList (rest.takeWhile (· ≠ '='))) (some (String.ofList value))
  | '-' :: letter :: rest => letters (letter :: rest)
  | _ => word text

/-- What a command was given. -/
structure Given where
  switches : List Switch := []
  format? : Option Format := none
  flags : List (String × String) := []
  /-- The last switch, if its value stands in an argument of its own, and the value if it was met. -/
  pending? : Option (Switch × Option String) := none
  deriving DecidableEq, Repr, Inhabited

namespace Given

/-- Whether the next argument may be the value of the last switch. -/
def awaitsValue (given : Given) : Bool := given.pending?.any fun pending => pending.2.isNone

/-- Take a switch with its value, once. -/
def take (given : Given) (switch : Switch) (value : String) : Except Aside Given :=
  if given.switches.contains switch then .error (.misuse (.repeated switch))
  else
    let given := { given with switches := switch :: given.switches }
    match switch with
    | .output =>
      match Format.ofName? value with
      | some format => .ok { given with format? := some format }
      | none => .error (.misuse (.unknownFormat value))
    | .flag which => .ok { given with flags := given.flags ++ [(which.key, value)] }
    | _ => .ok given

/-- Take the switch that is pending. -/
def settle (given : Given) : Except Aside Given :=
  match given.pending? with
  | none => .ok given
  | some (switch, none) => .error (.misuse (.missingValue switch))
  | some (switch, some value) => { given with pending? := none }.take switch value

/-- Meet a switch, perhaps with a value in the same argument. -/
def meet (given : Given) (command : Command) (switch : Switch) (value? : Option String) : Except Aside Given :=
  match switch.takesValue, value? with
  | false, some value => .error (.misuse (.needlessValue switch value))
  | false, none => do
    let given ← given.settle
    match switch with
    | .help => throw (.help command)
    | .version => throw .version
    | switch => given.take switch ""
  | true, some value => do (← given.settle).take switch value
  | true, none => do pure { ← given.settle with pending? := some (switch, none) }

/-- The value that follows a letter, with or without an equals sign between them. -/
def attached : List Char → Option String
  | [] => none
  | '=' :: value => some (String.ofList value)
  | value => some (String.ofList value)

/-- Meet letters of switches. -/
def meetLetters (given : Given) (command : Command) : List Char → Except Aside Given
  | [] => .ok given
  | letter :: rest =>
    match command.switchOfLetter? letter with
    | none => .error (.misuse (.unknownArgument (String.ofList ['-', letter])))
    | some switch =>
      if switch.takesValue then given.meet command switch (attached rest)
      else do (← given.meet command switch none).meetLetters command rest

/-- Meet a word, which is the value of the last switch or nothing. -/
def meetWord (given : Given) (text : String) : Except Aside Given :=
  match given.pending? with
  | some (switch, none) => .ok { given with pending? := some (switch, some text) }
  | _ => .error (.misuse (.unknownArgument text))

/-- Meet an argument. -/
def meetArgument (given : Given) (command : Command) (text : String) : Except Aside Given :=
  match Argument.ofText text with
  | .named name value? =>
    match command.switch? name with
    | some switch => given.meet command switch value?
    | none => .error (.misuse (.unknownArgument text))
  | .letters letters => given.meetLetters command letters
  | .dashes | .word _ => given.meetWord text

end Given

/-- Read the arguments of a command up to a word that leads to another; that and the rest are left. Nothing can
follow two dashes. -/
def readCommand (command : Command) (given : Given) :
    List String → Except Aside (Given × Option (Command × List String))
  | [] => .ok (given, none)
  | text :: rest =>
    match if given.awaitsValue then none else command.next? text with
    | some next => .ok (given, some (next, rest))
    | none =>
      if Argument.ofText text = .dashes then
        match rest with
        | [] => .ok (given, none)
        | text :: _ => .error (.misuse (.unknownArgument text))
      else do readCommand command (← given.meetArgument command text) rest

/-- The help that some words ask for. -/
def helpOn (topic : Command) : List String → Aside
  | [] => .help topic
  | word :: rest =>
    match topic.next? word with
    | some next => helpOn next rest
    | none => .misuse (.unknownArgument word)

/-- Read the arguments of the program. -/
def read (arguments : List String) : Except Aside Request := do
  let (outer, next?) ← readCommand .program {} arguments
  match next? with
  | some (.initialise, rest) =>
    let (inner, _) ← readCommand .initialise {} rest
    let inner ← inner.settle
    let outer ← outer.settle
    pure ⟨((inner.format?).or outer.format?).getD .text, .ofList inner.flags⟩
  | some (_, rest) => throw (helpOn .program rest)
  | none =>
    let _ ← outer.settle
    throw (.misuse .missingCommand)

end Scaffold.CommandLine
