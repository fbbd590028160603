/-
**Switches and commands.**

What may stand on a command line: the commands, and for each of them the switches that it knows. A
switch has a long name, perhaps a short one and perhaps a value, which may also come from a variable
of the environment.
-/

import ResourceGraph.Environment.Basic
import ResourceGraph.Settings

namespace ResourceGraph

/-- The commands by their names. -/
inductive CommandName where
  | list
  | info
  | validate
  | provision
  | delete
deriving DecidableEq, Repr

namespace CommandName

/-- How a command is named. -/
def text : CommandName → String
  | list => "list"
  | info => "info"
  | validate => "validate"
  | provision => "provision"
  | delete => "delete"

/-- Every command. -/
def all : List CommandName := [list, info, validate, provision, delete]

/-- The command of a name. -/
def ofText? (name : String) : Option CommandName :=
  all.find? fun command => command.text == name

/-- The name that asks for help about a command. -/
def helpText : String := "help"

/-- Whether a word may stand where a command does. -/
def isKnown (word : String) : Bool :=
  word == helpText || (ofText? word).isSome

end CommandName

/-- The switches. -/
inductive Switch where
  | documentsDirectory
  | apiUrl
  | apiKey
  | workspace
  | tool
  | verbose
  | jsonLog
  | output
  | file
  | dryRun
  | strictReferences
  | lookupFailure
  | report
  | tag
  | yes
  | help
  | version
deriving DecidableEq, Repr

namespace Switch

/-- The long name of a switch. -/
def long : Switch → String
  | documentsDirectory => "documents-dir"
  | apiUrl => "api-url"
  | apiKey => "api-key"
  | workspace => "workspace"
  | tool => "tool-name"
  | verbose => "verbose"
  | jsonLog => "log-json"
  | output => "output"
  | file => "file"
  | dryRun => "dry-run"
  | strictReferences => "strict-references"
  | lookupFailure => "lookup-failure"
  | report => "report"
  | tag => "tag"
  | yes => "yes"
  | help => "help"
  | version => "version"

/-- The short name of a switch. -/
def short? : Switch → Option Char
  | verbose => some 'v'
  | file => some 'f'
  | yes => some 'y'
  | help => some 'h'
  | version => some 'V'
  | _ => none

/-- What the value of a switch may be. -/
inductive Values where
  /-- Any text. -/
  | any
  /-- A path, which is not empty. -/
  | path
  /-- One of some words. -/
  | oneOf (words : List String)
deriving DecidableEq, Repr

/-- Whether a value is allowed. -/
def Values.allow (values : Values) (value : String) : Bool :=
  match values with
  | any => true
  | path => !value.isEmpty
  | oneOf words => words.contains value

/-- What the value of a switch may be; `none` for a switch without a value. -/
def values? : Switch → Option Values
  | documentsDirectory => some .path
  | apiUrl => some .any
  | apiKey => some .any
  | workspace => some .any
  | tool => some .any
  | output => some (.oneOf ["text", "json"])
  | file => some .path
  | lookupFailure => some (.oneOf ["fail", "create"])
  | report => some .path
  | tag => some .any
  | _ => none

/-- Whether a switch may be given a value. -/
def accepts (switch : Switch) (value : String) : Bool :=
  (switch.values?.map (·.allow value)).getD true

/-- Whether a switch may be given several times. -/
def isRepeatable (switch : Switch) : Bool :=
  switch == tag

/-- The variable that a value is taken from when the switch is not given. -/
def variableName? : Switch → Option String
  | documentsDirectory => some "SEEDBED_DOCUMENTS_DIR"
  | apiUrl => some Settings.apiUrlVariable
  | apiKey => some Settings.apiKeyVariable
  | workspace => some "SEEDBED_WORKSPACE"
  | tool => some "SEEDBED_TOOL_NAME"
  | _ => none

/-- The value of a switch's variable. -/
def valueIn? (switch : Switch) (environment : Environment) : Option String :=
  switch.variableName?.bind environment.get?

/-- The switches that stand before or after any command. -/
def shared : List Switch :=
  [documentsDirectory, apiUrl, apiKey, workspace, tool, verbose, jsonLog, output, help, version]

/-- The switches of a command, apart from the shared ones. -/
def ofCommand : CommandName → List Switch
  | .list => []
  | .info => []
  | .validate => [file]
  | .provision => [dryRun, strictReferences, lookupFailure, report]
  | .delete => [dryRun, tag, yes, report]

end Switch

end ResourceGraph
