/-
**Walks over resources.**

What provisioning and teardown share: the options of a run, the circumstances it is stamped with,
and the way from the results of a walk to a report. A failure that is not fatal becomes the result
of its resource; a fatal one ends the walk, and the resource at hand gets the last result.
-/

import ResourceGraph.Run.Report
import ResourceGraph.Service.Resource

namespace ResourceGraph

/-- What happens to a resource whose look-up fails. -/
inductive LookupPolicy where
  /-- It is recorded as failed. -/
  | fail
  /-- It is taken as missing, and created. -/
  | treatAsMissing
deriving DecidableEq, Repr

/-- The options of a run. -/
structure RunOptions where
  /-- Nothing is sent. -/
  dryRun : Bool
  workspace : Option String
  tool : String
  lookupPolicy : LookupPolicy
  /-- A resource with an unresolved reference fails. -/
  strictReferences : Bool
deriving DecidableEq, Repr

/-- What a report is stamped with. -/
structure Occasion where
  runId : RunId
  startedAt : Instant
  finishedAt : Instant
deriving DecidableEq, Repr

/-- The results of a walk, and the failure that ended it early. -/
structure Walk where
  results : List ResourceResult
  cause : Option Failure
deriving DecidableEq, Repr

namespace Walk

/-- A walk over nothing. -/
def finished : Walk := ⟨[], none⟩

/-- A walk that ends at a resource. -/
def aborted (resource : Resource) (cause : Failure) : Walk :=
  ⟨[.failed resource cause.describe], some cause⟩

/-- The walk with a result before it. -/
def after (result : ResourceResult) (walk : Walk) : Walk :=
  ⟨result :: walk.results, walk.cause⟩

end Walk

/-- The scope of a run over a document. -/
def RunOptions.scope (options : RunOptions) (document : Document) : Scope :=
  ⟨options.workspace, document.cleanupTag options.tool⟩

/-- A failure at a resource: fatal ones stay failures, others become a result. -/
def settle (resource : Resource) (failure : Failure) (reason : String) :
    Except Failure ResourceResult :=
  if failure.isFatal then .error failure else .ok (.failed resource reason)

/-- The report of a walk. -/
def RunReport.ofWalk (occasion : Occasion) (operation : Operation) (document : Document)
    (dryRun : Bool) (walk : Walk) : RunReport :=
  { start occasion.runId occasion.startedAt operation document dryRun with
    finishedAt := some occasion.finishedAt
    results := walk.results }

/-- What a run ends with: a report, or an abort that holds one. -/
abbrev RunOutcome := Except Abort RunReport

/-- The report that an outcome holds. -/
def RunOutcome.report : RunOutcome → RunReport
  | .ok report => report
  | .error abort => abort.report

open Dialogue in
/-- Says that a fatal failure ends the walk at a resource. -/
def abortAt (resource : Resource) (cause : Failure) : Dialogue Walk := do
  log .warn ("Aborting run at " ++ resource.reference ++ ": " ++ cause.message)
  return Walk.aborted resource cause

/-- How log entries name the resource of a result. -/
def ResourceResult.label (result : ResourceResult) : String :=
  result.kind.name ++ " " ++ result.resourceName ++ " (" ++ result.reference ++ ")"

end ResourceGraph
