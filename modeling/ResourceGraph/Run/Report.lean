/-
**Run reports.**

A run records one result for each resource it handled, in the order of the walk. The report adds
what was run, when, and in which revision. `RunReport.json` writes a report with its fields in
declared order; what is absent is left out.
-/

import ResourceGraph.Document.Fingerprint
import ResourceGraph.Failure
import ResourceGraph.Run.Id
import ResourceGraph.Time.Instant

namespace ResourceGraph

/-- What happened to a resource. -/
inductive Action where
  | created
  /-- Nothing was done; a note says why. -/
  | skipped
  /-- The resource could not be handled; an error says why. -/
  | failed
  | deleted
deriving DecidableEq, Repr

/-- The name of an action. -/
def Action.name : Action → String
  | created => "created"
  | skipped => "skipped"
  | failed => "failed"
  | deleted => "deleted"

/-- Every action. -/
def Action.all : List Action := [created, skipped, failed, deleted]

/-- The action of a name. -/
def Action.ofName? (name : String) : Option Action :=
  all.find? fun action => action.name == name

/-- The two walks over a document. -/
inductive Operation where
  | provision
  | teardown
deriving DecidableEq, Repr

/-- The name of an operation. -/
def Operation.name : Operation → String
  | provision => "provision"
  | teardown => "teardown"

/-- The operation of a name. -/
def Operation.ofName? (name : String) : Option Operation :=
  [provision, teardown].find? fun operation => operation.name == name

/-- The result of one resource. -/
structure ResourceResult where
  reference : String
  kind : Kind
  resourceName : String
  action : Action
  serverId : Option String
  error : Option String
  note : Option String
deriving DecidableEq, Repr

namespace ResourceResult

/-- A result of a resource with nothing but its action. -/
def bare (resource : Resource) (action : Action) : ResourceResult :=
  ⟨resource.reference, resource.kind, resource.name, action, none, none, none⟩

/-- A resource that was created. -/
def created (resource : Resource) (id : String) : ResourceResult :=
  { bare resource .created with serverId := some id }

/-- A resource that was deleted. -/
def deleted (resource : Resource) (id : String) : ResourceResult :=
  { bare resource .deleted with serverId := some id }

/-- A resource that was skipped, with its identifier if it is known. -/
def skipped (resource : Resource) (id : Option String) (note : String) : ResourceResult :=
  { bare resource .skipped with serverId := id, note := some note }

/-- A resource that could not be handled. -/
def failed (resource : Resource) (error : String) : ResourceResult :=
  { bare resource .failed with error := some error }

/-- The result with a note. -/
def withNote (result : ResourceResult) (note : String) : ResourceResult :=
  { result with note := some note }

/-- A result as a value. -/
def json (result : ResourceResult) : Json :=
  .object ([("id_reference", .string result.reference), ("resource_type", .string result.kind.name),
      ("resource_name", .string result.resourceName), ("action", .string result.action.name)] ++
    Json.optionalField "server_id" (result.serverId.map .string) ++
    Json.optionalField "error" (result.error.map .string) ++
    Json.optionalField "note" (result.note.map .string))

end ResourceResult

/-- The report of a run. -/
structure RunReport where
  runId : RunId
  operation : Operation
  document : String
  fingerprint : String
  dryRun : Bool
  startedAt : Instant
  finishedAt : Option Instant
  results : List ResourceResult
deriving DecidableEq, Repr

namespace RunReport

/-- The report of a run that starts. -/
def start (runId : RunId) (startedAt : Instant) (operation : Operation) (document : Document)
    (dryRun : Bool) : RunReport :=
  ⟨runId, operation, document.name, document.fingerprint, dryRun, startedAt, none, []⟩

/-- The report with one more result. -/
def push (report : RunReport) (result : ResourceResult) : RunReport :=
  { report with results := report.results ++ [result] }

/-- The number of results with an action. -/
def count (report : RunReport) (action : Action) : Nat :=
  report.results.countP fun result => result.action == action

/-- Whether some resource could not be handled. -/
def hasFailures (report : RunReport) : Bool :=
  0 < report.count .failed

/-- The milliseconds that the run took, once it is finished. -/
def duration? (report : RunReport) : Option Int :=
  report.finishedAt.map (Instant.millisSince report.startedAt)

/-- The action that an operation is for. -/
def mainAction : Operation → Action
  | .provision => .created
  | .teardown => .deleted

/-- The counts in one line. -/
def summary (report : RunReport) : String :=
  let primary := mainAction report.operation
  toString (report.count primary) ++ " " ++ primary.name ++ ", " ++
    toString (report.count .skipped) ++ " skipped, " ++ toString (report.count .failed) ++ " failed"

/-- A report as a value. -/
def json (report : RunReport) : Json :=
  .object ([("run_id", .string report.runId.text), ("operation", .string report.operation.name),
      ("document", .string report.document), ("fingerprint", .string report.fingerprint),
      ("dry_run", .bool report.dryRun), ("started_at", .string report.startedAt.text)] ++
    Json.optionalField "finished_at" (report.finishedAt.map fun time => .string time.text) ++
    [("results", .array (report.results.map ResourceResult.json))])

end RunReport

/-- A run that a fatal failure ended. The report holds what was done before. -/
structure Abort where
  report : RunReport
  cause : Failure
deriving DecidableEq, Repr

/-- The wording of an aborted run. -/
def Abort.message (abort : Abort) : String :=
  abort.report.operation.name ++ " of '" ++ abort.report.document ++ "' aborted after " ++
    toString abort.report.results.length ++ " resource(s): " ++ abort.cause.message

end ResourceGraph
