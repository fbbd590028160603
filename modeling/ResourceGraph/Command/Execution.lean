/-
**Carrying out commands.**

`carryOut` is the session of a whole command line: definitions are taken from the file in the
working directory, the words are read, and the command is done. Only provisioning and deleting talk
to the service, and only after the document is loaded, a deletion is confirmed, and the address and
the key are there; a dry run talks to nobody.

* `Workplace.perform`: one command;
* `Workplace.finishRun`: what happens to the report of a run.
-/

import ResourceGraph.Command.Session
import ResourceGraph.Command.Usage
import ResourceGraph.Command.Workplace
import ResourceGraph.Environment.File
import ResourceGraph.Http.Client
import ResourceGraph.Run.Provision
import ResourceGraph.Run.Teardown

namespace ResourceGraph

/-- A step of a command, which may fail. -/
abbrev Task (α : Type) := ExceptT Failure Session α

/-- A step that does not fail, whatever it comes to. -/
def Task.certain {α : Type} (session : Session α) : Task α :=
  ExceptT.lift session

namespace Workplace

/-- Prints a result, and a line break after it. -/
def present (text : String) : Session Unit :=
  Session.output (text ++ "\n")

/-- Loads the document of a name. -/
def load (place : Workplace) (name : String) : Task Validated :=
  ExceptT.mk (Session.relay (place.library.load place.tree name))

/-! ### Looking at documents -/

/-- Lists the documents of the library. -/
def listDocuments (place : Workplace) : Session ExitCode := do
  let documents ← Session.relay (place.library.list place.tree)
  Session.log .info ("Found " ++ toString documents.length ++ " document(s) in " ++
    place.library.root)
  present (place.view.listing documents)
  return .success

/-- Shows a document. -/
def showDocument (place : Workplace) (name : String) : Task ExitCode := do
  let validated ← place.load name
  present (place.view.document validated.document place.settings.tool)
  return .success

/-- The name of what is validated, and what comes of loading it. -/
def examine (place : Workplace) :
    ValidationTarget → String × Logged (Except Failure Validated)
  | .named name => (name, place.library.load place.tree name)
  | .file path => (path, Document.ofFile place.tree path)

/-- Says whether a document is valid. -/
def validate (place : Workplace) (target : ValidationTarget) : Task ExitCode := do
  let (source, logged) := place.examine target
  match ← Task.certain (Session.relay logged) with
  | .ok validated =>
    present (place.view.findings source ⟨[], validated.warnings⟩)
    return .success
  | .error (.invalid _ problems) =>
    present (place.view.problems source problems)
    return .failure
  | .error failure => throw failure

/-! ### Runs -/

/-- A step of a dialogue that must not reach the service. -/
def offlineStep : (call : Call) → Wire call.Answer
  | .send request => return (offline request ()).1
  | .log entry => Wire.log entry

/-- How a run reaches the service: not at all in a dry run, else over a client. -/
def connection (place : Workplace) (dryRun : Bool) : Task (Option HttpClient) := do
  if dryRun then return none
  let url ← ExceptT.mk (pure place.settings.requiredUrl)
  let key ← ExceptT.mk (pure place.settings.requiredKey)
  let client := HttpClient.connect url key
  Session.log .info ("Using resource service at " ++ client.baseUrl)
  return some client

/-- A dialogue over a connection. -/
def carry {α : Type} (connection : Option HttpClient) (dialogue : Dialogue α) : Session α :=
  Session.converse <|
    match connection with
    | some client => Wire.followingRedirects (client.carry dialogue)
    | none => dialogue.expand offlineStep

/-- Writes the report of a run to a file, if one is named. -/
def saveReport (report : RunReport) : Option String → Task Unit
  | none => return ()
  | some path => do
    match ← Task.certain (Session.writeFile path report.json.pretty) with
    | .ok () => Session.log .info ("Run report written to " ++ path)
    | .error reason => throw (.io reason)

/-- Saves and shows the report of a run, and says how the run ended. -/
def finishRun (place : Workplace) (outcome : RunOutcome) (reportPath : Option String) :
    Task ExitCode := do
  let report := outcome.report
  saveReport report reportPath
  present (place.view.report report)
  match outcome with
  | .ok report => return if report.hasFailures then .failure else .success
  | .error abort =>
    Session.log .error abort.message
    Session.complain ("Error: " ++ abort.message ++ "\n")
    return .failure

/-- The outcome with the time when the run was finished. -/
def finishedAt (time : Instant) : RunOutcome → RunOutcome
  | .ok report => .ok { report with finishedAt := some time }
  | .error abort => .error { abort with report := { abort.report with finishedAt := some time } }

/-- Does a run over a connection, from start to end. -/
def run (place : Workplace) (connection : Option HttpClient)
    (walk : Occasion → Dialogue RunOutcome) (reportPath : Option String) : Task ExitCode := do
  let runId ← Session.identify
  let started ← Session.takeTime
  let outcome ← Task.certain (carry connection (walk ⟨runId, started, started⟩))
  let finished ← Session.takeTime
  place.finishRun (finishedAt finished outcome) reportPath

/-- The options of a run. -/
def options (place : Workplace) (dryRun : Bool) (policy : LookupPolicy) (strict : Bool) :
    RunOptions :=
  ⟨dryRun, place.settings.workspace, place.settings.tool, policy, strict⟩

/-- Provisions a document. -/
def provision (place : Workplace) (name : String) (options : RunOptions)
    (reportPath : Option String) : Task ExitCode := do
  let validated ← place.load name
  let connection ← place.connection options.dryRun
  place.run connection (fun occasion => validated.document.provision options occasion) reportPath

/-! ### Deleting -/

/-- The word that confirms a deletion. -/
def confirmation : String := "delete"

/-- What a deletion covers. -/
def coverage (tags : List String) : String :=
  if tags.isEmpty then "every resource" else "resources tagged " ++ Text.join ", " tags

/-- Asks whether to delete. -/
def confirm (document : Document) (tool : String) (tags : List String) : Task Bool := do
  Session.complain ("This will delete " ++ coverage tags ++ " of '" ++ document.name ++
    "' carrying " ++ document.cleanupTag tool ++ ".\n")
  Session.complain ("Type '" ++ confirmation ++ "' to confirm: ")
  match ← Task.certain Session.readLine with
  | .ok line => return Text.trim line == confirmation
  | .error reason => throw (.io reason)

/-- Deletes what a document declares, once that is confirmed. -/
def delete (place : Workplace) (name : String) (options : RunOptions) (tags : List String)
    (confirmed : Bool) (reportPath : Option String) : Task ExitCode := do
  let validated ← place.load name
  let agreed ←
    if confirmed || options.dryRun then pure true
    else confirm validated.document options.tool tags
  if agreed then
    let connection ← place.connection options.dryRun
    place.run connection (fun occasion => validated.document.teardown options occasion tags)
      reportPath
  else
    Session.complain "Delete cancelled.\n"
    return .success

/-! ### Commands -/

/-- Does what a command says. -/
def perform (place : Workplace) : Command → Task ExitCode
  | .list => place.listDocuments
  | .info name => place.showDocument name
  | .validate target => place.validate target
  | .provision name dryRun strict policy reportPath =>
    place.provision name (place.options dryRun policy strict) reportPath
  | .delete name dryRun tags confirmed reportPath =>
    place.delete name (place.options dryRun .fail false) tags confirmed reportPath

/-- Does what a command says, and reports a failure. -/
def execute (place : Workplace) (command : Command) : Session ExitCode := do
  Session.log .debug ("Documents directory: " ++ place.library.root)
  match ← (place.perform command).run with
  | .ok code => return code
  | .error failure =>
    Session.complain ("Error: " ++ failure.message ++ "\n")
    return .failure

end Workplace

/-- Answers a command line that is not carried out. -/
def answerRefusal : Refusal → Session ExitCode
  | .help about => do
    Session.output (Usage.helpText about)
    return .success
  | .version of => do
    Session.output (Usage.versionLine of)
    return .success
  | .nothing => do
    Session.complain (Usage.helpText none)
    return .misuse
  | refusal => do
    Session.complain ("error: " ++ Usage.refusalText refusal ++ "\n")
    return .misuse

/-- Takes the definitions of the file in the working directory; a faulty one is only complained
about. -/
def loadDefinitions (tree : FileTree) (environment : Environment) : Session Environment := do
  let (environment, outcome) := environment.load tree none
  match outcome with
  | .ok () => return environment
  | .error failure =>
    Session.complain ("Warning: " ++ failure.message ++ "\n")
    return environment

/-- The session of a command line. -/
def carryOut (tree : FileTree) (environment : Environment) (terminal : Bool)
    (words : List String) : Session ExitCode := do
  let environment ← loadDefinitions tree environment
  match Arguments.ofWords environment words with
  | .error refusal => answerRefusal refusal
  | .ok arguments =>
    (arguments.workplace tree environment terminal).execute arguments.command

end ResourceGraph
