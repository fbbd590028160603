/-
**Provisioning.**

Resources are handled in declared order. The placeholders of a resource are replaced by the
identifiers that earlier results published; then the resource is looked up, and created only if it
is not there. A resource that was skipped without a known identifier publishes a synthetic one.

* `Provision.handle`: the dialogue for one resource;
* `Provision.walk`: the resources of a document, one after the other;
* `Document.provision`: the whole run, with its report.
-/

import ResourceGraph.Run.Walk
import ResourceGraph.Document.Placeholder

namespace ResourceGraph

namespace Provision

open Dialogue

/-- The identifiers after a result. -/
def publish (ids : Identifiers) (result : ResourceResult) : Identifiers :=
  match result.action, result.serverId with
  | .created, some id => ids.publish result.reference id
  | .skipped, some id => ids.publish result.reference id
  | .skipped, none => ids.publishSynthetic result.reference
  | _, _ => ids

/-- The references that resolved properties still name: those of every property in turn, each
once. -/
def unresolvedReferences (properties : Fields) : List String :=
  (properties.flatMap fun field => field.2.placeholders).foldl Json.addReference []

/-- The result of a create call. -/
def resultOf (resource : Resource) : CreateOutcome → ResourceResult
  | .created id => .created resource id
  | .duplicateFound id => .skipped resource (some id) "already exists (reported by service)"
  | .duplicateUnresolved =>
    .skipped resource none "already exists (reported by service, identifier unknown)"
  | .failed reason => .failed resource reason

/-- Creates a resource that is not there. -/
def createMissing (scope : Scope) (resource : Resource) (properties : Fields) :
    Dialogue (Except Failure ResourceResult) := do
  log .debug ("Creating " ++ resource.kind.name ++ " " ++ resource.name)
  match ← (scope.create resource.kind resource.name properties).run with
  | .ok outcome => return .ok (resultOf resource outcome)
  | .error failure => return settle resource failure failure.describe

/-- Looks a resource up and creates it if it is not there. -/
def lookUpAndCreate (options : RunOptions) (scope : Scope) (resource : Resource)
    (properties : Fields) : Dialogue (Except Failure ResourceResult) := do
  match ← (scope.find resource.kind resource.name).run with
  | .ok (some id) => return .ok (.skipped resource (some id) "already exists")
  | .ok none => createMissing scope resource properties
  | .error failure =>
    if failure.isFatal then return .error failure
    match options.lookupPolicy with
    | .fail =>
      return .ok (.failed resource ("Existence check failed: " ++ failure.describe))
    | .treatAsMissing =>
      log .warn ("Existence check for " ++ resource.reference ++ " failed, treating as missing: " ++
        failure.message)
      createMissing scope resource properties

/-- Handles one resource; a failure is fatal. -/
def handle (options : RunOptions) (scope : Scope) (ids : Identifiers) (resource : Resource) :
    Dialogue (Except Failure ResourceResult) := do
  let properties := Json.resolveFields ids resource.properties
  let unresolved := unresolvedReferences properties
  if !unresolved.isEmpty then
    log .warn (resource.reference ++ " still references " ++ Text.join ", " unresolved ++
      " (declared later or not provisioned)")
  if !unresolved.isEmpty && options.strictReferences then
    return .ok (.failed resource ("Unresolved reference(s): " ++ Text.join ", " unresolved))
  if options.dryRun then
    return .ok (.skipped resource none "dry run")
  lookUpAndCreate options scope resource properties

/-- The log entry for a result. -/
def logResult (result : ResourceResult) : Dialogue Unit :=
  match result.action with
  | .failed => log .warn (result.label ++ ": failed: " ++ result.error.getD "unknown error")
  | action =>
    log .info (result.label ++ ": " ++ action.name ++
      (result.serverId.elim "" fun id => " [" ++ id ++ "]"))

/-- Handles resources in order, with the identifiers published before. -/
def walk (options : RunOptions) (scope : Scope) (ids : Identifiers) :
    List Resource → Dialogue Walk
  | [] => return Walk.finished
  | resource :: rest => do
    match ← handle options scope ids resource with
    | .error cause => abortAt resource cause
    | .ok result =>
      logResult result
      return (← walk options scope (publish ids result) rest).after result

end Provision

open Dialogue in
/-- Provisions every resource of a document in declared order. -/
def Document.provision (options : RunOptions) (occasion : Occasion) (document : Document) :
    Dialogue RunOutcome := do
  let scope := options.scope document
  log .info ("Provisioning " ++ toString document.resources.length ++ " resource(s) tagged " ++
    scope.tag)
  let walk ← Provision.walk options scope .empty document.resources
  let report := RunReport.ofWalk occasion .provision document options.dryRun walk
  match walk.cause with
  | some cause => return .error ⟨report, cause⟩
  | none =>
    log .info ("Provisioning finished: " ++ report.summary)
    return .ok report

end ResourceGraph
