/-
**Arguments.**

What a command line asks for. A value given after the command wins over one given before it, a given
one over the environment's, and that one over the standing value.

* `Arguments.ofWords`: the arguments in the words of a command line.
-/

import ResourceGraph.Command.Line
import ResourceGraph.Presentation.Basic
import ResourceGraph.Run.Walk

namespace ResourceGraph

/-- What is validated. -/
inductive ValidationTarget where
  | named (name : String)
  | file (path : String)
deriving DecidableEq, Repr

/-- What is done. -/
inductive Command where
  | list
  | info (document : String)
  | validate (target : ValidationTarget)
  | provision (document : String) (dryRun strictReferences : Bool) (policy : LookupPolicy)
      (reportPath : Option String)
  | delete (document : String) (dryRun : Bool) (tags : List String) (confirmed : Bool)
      (reportPath : Option String)
deriving DecidableEq, Repr

/-- What a command line asks for. -/
structure Arguments where
  documentsDirectory : Option String
  settings : Settings
  verbose : Bool
  jsonLog : Bool
  format : OutputFormat
  command : Command
deriving DecidableEq, Repr

namespace Arguments

/-- Everything that values are taken from. -/
structure Sources where
  before : Given
  after : Given
  environment : Environment

namespace Sources

/-- The value of a switch. -/
def value? (sources : Sources) (switch : Switch) : Option String :=
  ((sources.after.valuesOf switch).getLast?.or (sources.before.valuesOf switch).getLast?).or
    (switch.valueIn? sources.environment)

/-- Whether a switch is given. -/
def has (sources : Sources) (switch : Switch) : Bool :=
  sources.after.has switch || sources.before.has switch

end Sources

/-- The policy of a word. -/
def policyOf : Option String → LookupPolicy
  | some "create" => .treatAsMissing
  | _ => .fail

/-- The form of a word. -/
def formatOf : Option String → OutputFormat
  | some "json" => .json
  | _ => .text

/-- The plain word that names a document. -/
def document (given : Given) : Except Refusal String :=
  match given.words with
  | word :: _ => .ok word
  | [] => .error .missingArgument

/-- What is validated: a document or a file, but not both. -/
def target (given : Given) : Except Refusal ValidationTarget :=
  match given.words, (given.valuesOf .file).getLast? with
  | _ :: _, some _ => .error .conflict
  | word :: _, none => .ok (.named word)
  | [], some path => .ok (.file path)
  | [], none => .error .missingArgument

/-- What is done, from what stands after the command. -/
def commandOf (name : CommandName) (given : Given) : Except Refusal Command :=
  let path := (given.valuesOf .report).getLast?
  match name with
  | .list => .ok .list
  | .info => .info <$> document given
  | .validate => .validate <$> target given
  | .provision => do
    let name ← document given
    return .provision name (given.has .dryRun) (given.has .strictReferences)
      (policyOf (given.valuesOf .lookupFailure).getLast?) path
  | .delete => do
    let name ← document given
    return .delete name (given.has .dryRun) (given.valuesOf .tag) (given.has .yes) path

/-- What help is asked about: nothing, or one known command. -/
def helpAbout : List String → Refusal
  | [] => .help none
  | [word] =>
    if CommandName.isKnown word then .help (CommandName.ofText? word) else .unknownCommand
  | _ => .unknownCommand

/-- Why a command line without a command is not carried out. -/
def withoutCommand (environment : Environment) (before : Given) : Refusal :=
  if before.switches.isEmpty &&
      Switch.shared.all fun switch => (switch.valueIn? environment).isNone then .nothing
  else .missingCommand

/-- The arguments, put together. -/
def assemble (sources : Sources) (command : Command) : Arguments where
  documentsDirectory := sources.value? .documentsDirectory
  settings :=
    { apiUrl := sources.value? .apiUrl
      apiKey := sources.value? .apiKey
      workspace := sources.value? .workspace
      tool := (sources.value? .tool).getD Settings.defaultTool }
  verbose := sources.has .verbose
  jsonLog := sources.has .jsonLog
  format := formatOf (sources.value? .output)
  command := command

/-- What is done, from the words after a command. -/
def readCommand (environment : Environment) (name : CommandName) (words : List String) :
    Except Refusal (Given × Command) := do
  let part := LinePart.inner name
  let (after, _) ← part.read .empty words
  let after ← part.finish environment after
  return (after, ← commandOf name after)

/-- The arguments in the words of a command line. -/
def ofWords (environment : Environment) (words : List String) : Except Refusal Arguments := do
  let (before, rest) ← LinePart.outer.read .empty words
  match rest with
  | [] =>
    let before ← LinePart.outer.finish environment before
    throw (withoutCommand environment before)
  | word :: rest =>
    match CommandName.ofText? word with
    | none => throw (helpAbout rest)
    | some name =>
      let (after, command) ← (readCommand environment name rest).mapError (Refusal.within name)
      let before ← LinePart.outer.finish environment before
      return assemble ⟨before, after, environment⟩ command

end Arguments

end ResourceGraph
