/-
**Usage.**

What is printed instead of carrying out a command line, and the codes that a command ends with.
-/

import ResourceGraph.Command.Line

namespace ResourceGraph

/-- How a command ends. -/
inductive ExitCode where
  | success
  | failure
  /-- The command line is not understood. -/
  | misuse
deriving DecidableEq, Repr

/-- The number of a code. -/
def ExitCode.number : ExitCode → Nat
  | success => 0
  | failure => 1
  | misuse => 2

namespace Usage

/-- The name and the version of the program. -/
def programName : String := "seedbed"

/-- The version of the program. -/
def programVersion : String := "0.1.0"

/-- The version line, of a command or of the program. -/
def versionLine (command : Option CommandName) : String :=
  programName ++ (command.elim "" fun name => "-" ++ name.text) ++ " " ++ programVersion ++ "\n"

/-- How a switch is written. -/
def switchText (switch : Switch) : String :=
  let short := switch.short?.elim "    " fun c => "-" ++ String.singleton c ++ ", "
  let value := match switch.values? with
    | some (.oneOf words) => " <" ++ Text.join "|" words ++ ">"
    | some _ => " <VALUE>"
    | none => ""
  "  " ++ short ++ "--" ++ switch.long ++ value ++ "\n"

/-- The switches of a part of the command line. -/
def switchList (part : LinePart) : String :=
  "\nOptions:\n" ++ String.join (part.switches.map switchText)

/-- The help text, about a command or about the program. -/
def helpText : Option CommandName → String
  | none =>
    "Usage: " ++ programName ++ " [OPTIONS] <COMMAND>\n\nCommands:\n" ++
      String.join (CommandName.all.map fun name => "  " ++ name.text ++ "\n") ++
      switchList LinePart.outer
  | some name =>
    "Usage: " ++ programName ++ " " ++ name.text ++ " [OPTIONS]" ++
      (if (LinePart.inner name).plainWords = 0 then "" else " <NAME>") ++ "\n" ++
      switchList (LinePart.inner name)

/-- The wording of a refusal. -/
def refusalText : Refusal → String
  | .unknownArgument => "unexpected argument"
  | .invalidValue => "a value is missing or not allowed"
  | .tooManyValues => "a value is given where none is taken"
  | .conflict => "an argument is repeated or excludes another one"
  | .missingArgument => "a required argument is missing"
  | .unknownCommand => "unrecognized subcommand"
  | .missingCommand => "a subcommand is required"
  | .help _ => "help"
  | .nothing => "nothing to do"
  | .version _ => "version"

end Usage

end ResourceGraph
