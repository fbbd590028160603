/-
**Teardown.**

Resources are handled in reverse declared order, so that a resource is gone before those it relies
on. With a tag filter, only resources that declare one of its tags are touched. A kind that is swept
is swept once: after a sweep without a failure, later resources of the kind are already cleaned.

* `Teardown.handle`: the dialogue for one resource;
* `Teardown.walk`: the resources one after the other, with the kinds swept so far;
* `Document.teardown`: the whole run, with its report.
-/

import ResourceGraph.Run.Walk

namespace ResourceGraph

namespace Teardown

open Dialogue

/-- The result of a delete call. -/
def resultOf (scope : Scope) (resource : Resource) : DeleteOutcome → ResourceResult
  | .deleted id => .deleted resource id
  | .notFound => .skipped resource none "not found"
  | .swept [] => .skipped resource none "not found"
  | .swept (first :: rest) =>
    (ResourceResult.deleted resource first).withNote
      ("removed " ++ toString (rest.length + 1) ++ " " ++ resource.kind.name ++
        " resource(s) tagged " ++ scope.tag)

/-- Whether a tag filter leaves a resource out. -/
def isFilteredOut (tags : List String) (resource : Resource) : Bool :=
  !tags.isEmpty && !resource.hasAnyTag tags

/-- The kinds swept after a call for a resource. -/
def sweptAfter (swept : List Kind) (resource : Resource)
    (outcome : Except Failure DeleteOutcome) : List Kind :=
  match outcome with
  | .ok _ => if resource.kind.isSwept then resource.kind :: swept else swept
  | .error _ => swept

/-- Handles one resource: the result and the kinds swept after it. A failure is fatal. -/
def handle (options : RunOptions) (scope : Scope) (tags : List String) (swept : List Kind)
    (resource : Resource) : Dialogue (Except Failure (ResourceResult × List Kind)) := do
  if isFilteredOut tags resource then
    return .ok (.skipped resource none ("filtered out (no tag in " ++ Text.join ", " tags ++ ")"),
      swept)
  if options.dryRun then
    return .ok (.skipped resource none "dry run", swept)
  if resource.kind.isSwept && swept.contains resource.kind then
    return .ok (.skipped resource none "already cleaned", swept)
  let outcome ← (scope.delete resource.kind resource.name).run
  let swept := sweptAfter swept resource outcome
  match outcome with
  | .ok outcome => return .ok (resultOf scope resource outcome, swept)
  | .error failure => return (settle resource failure failure.describe).map (·, swept)

/-- Handles resources in order, after some kinds were swept. -/
def walk (options : RunOptions) (scope : Scope) (tags : List String) (swept : List Kind) :
    List Resource → Dialogue Walk
  | [] => return Walk.finished
  | resource :: rest => do
    match ← handle options scope tags swept resource with
    | .error cause => abortAt resource cause
    | .ok (result, swept) =>
      log .info (result.label ++ ": " ++ result.action.name)
      return (← walk options scope tags swept rest).after result

end Teardown

open Dialogue in
/-- Tears every resource of a document down in reverse declared order. -/
def Document.teardown (options : RunOptions) (occasion : Occasion) (tags : List String)
    (document : Document) : Dialogue RunOutcome := do
  let scope := options.scope document
  log .info ("Tearing down " ++ toString document.resources.length ++ " resource(s) tagged " ++
    scope.tag)
  let walk ← Teardown.walk options scope tags [] document.resources.reverse
  let report := RunReport.ofWalk occasion .teardown document options.dryRun walk
  match walk.cause with
  | some cause => return .error ⟨report, cause⟩
  | none =>
    log .info ("Teardown finished: " ++ report.summary)
    return .ok report

end ResourceGraph
