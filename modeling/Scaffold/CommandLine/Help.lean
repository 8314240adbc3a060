import Scaffold.CommandLine

/-! # Help

What the program tells about itself: its version, and for each command its purpose, its use and its switches.
-/

namespace Scaffold.CommandLine

/-- The version of the program. -/
def versionText : String := "devinit 0.3.0"

namespace Switch

/-- What a switch is for. -/
def purpose : Switch → String
  | verbose => "Enable verbose output"
  | output => "Output format [default: text] [possible values: text, json]"
  | help => "Print help"
  | version => "Print version"
  | flag .name => "Name of the component"
  | flag .devfile => "Name of the devfile stack to use from a registry"
  | flag .devfileRegistry =>
    "Registry to fetch the devfile from (default: every configured registry, in order)"
  | flag .devfilePath => "Path or URL of the devfile to use"
  | flag .starter => "Starter project to download into the current directory"

/-- What stands for the value of a switch. -/
def placeholder (switch : Switch) : String :=
  String.ofList (switch.name.toList.map fun c => if c = '-' then '_' else c.toUpper)

/-- How a switch is written. -/
def usage (switch : Switch) : String :=
  (match switch.letter? with
    | some letter => String.ofList ['-', letter, ',', ' ']
    | none => "    ") ++ "--" ++ switch.name ++
    if switch.takesValue then " <" ++ switch.placeholder ++ ">" else ""

end Switch

namespace Command

/-- What a command is for. -/
def purpose : Command → String
  | program => "devinit - bootstrap a directory as a devfile component"
  | initialise => "Initialize the current directory as a component"
  | help => "Print this message or the help of the given subcommand(s)"

/-- How a command is written. -/
def usage : Command → String
  | program => "devinit [OPTIONS] <COMMAND>"
  | initialise => "devinit init [OPTIONS]"
  | help => "devinit help [COMMAND]..."

end Command

/-- Rows of two columns. -/
def table (rows : List (String × String)) : List String :=
  let width := (rows.map fun row => row.1.length).foldl max 0
  rows.map fun (left, right) =>
    "  " ++ left ++ String.ofList (List.replicate (width - left.length) ' ') ++ "  " ++ right

/-- A table under a title, if it has rows. -/
def titledTable (title : String) (rows : List (String × String)) : List String :=
  if rows.isEmpty then [] else "" :: (title ++ ":") :: table rows

/-- The help on a command. -/
def helpText (command : Command) : String :=
  "\n".intercalate <|
    [command.purpose, "", "Usage: " ++ command.usage]
      ++ titledTable "Commands" (command.next.map fun next => (next.word, next.purpose))
      ++ titledTable "Options" (command.switches.map fun switch => (switch.usage, switch.purpose))

end Scaffold.CommandLine
