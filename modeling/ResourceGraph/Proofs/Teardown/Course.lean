/-
**How teardown handles one resource.**

Handling a resource takes one of six courses: nothing is sent because the resource is filtered out,
the run is dry, or its kind was swept before; the query before the deletion fails; it finds nothing;
or it is followed by one deletion of what it found.

* `Teardown.Course`: the six courses, each with what is exchanged and what comes of it;
* `handle_course`: handling a resource takes one of them, for any service;
* `visit_course`: so does every visit of a teardown;
* `converse_teardown`: a teardown is its visits.
-/

import ResourceGraph.Proofs.Run.Visits
import ResourceGraph.Proofs.Service.Deletion
import ResourceGraph.Run.Teardown

namespace ResourceGraph

namespace Teardown

open Dialogue

/-! ### The courses -/

section Course

variable (options : RunOptions) (scope : Scope) (tags : List String) (swept : List Kind)
  (resource : Resource)

/-- The kind of the resource was swept before. -/
def Cleaned : Prop :=
  resource.kind.isSwept = true ∧ resource.kind ∈ swept

/-- The service is asked about the resource. -/
structure Asks : Prop where
  kept : isFilteredOut tags resource = false
  wet : options.dryRun = false
  uncleaned : ¬ Cleaned swept resource

/-- The query before the deletion of the resource. -/
def query : Request :=
  scope.deletionQuery resource.kind resource.name

/-- What comes of a delete call. -/
def concluded (outcome : Except Failure DeleteOutcome) :
    Except Failure (ResourceResult × List Kind) :=
  match outcome with
  | .ok done => .ok (resultOf scope resource done, sweptAfter swept resource outcome)
  | .error failure =>
    (settle resource failure failure.describe).map (·, sweptAfter swept resource outcome)

/-- **The courses of handling a resource**, with what is exchanged and what comes of it. -/
inductive Course : List Exchange → Except Failure (ResourceResult × List Kind) → Prop where
  | filteredOut (out : isFilteredOut tags resource = true) :
      Course [] (.ok (.skipped resource none ("filtered out (no tag in " ++ Text.join ", " tags ++
        ")"), swept))
  | dryRun (kept : isFilteredOut tags resource = false) (dry : options.dryRun = true) :
      Course [] (.ok (.skipped resource none "dry run", swept))
  | cleaned (kept : isFilteredOut tags resource = false) (wet : options.dryRun = false)
      (cleaned : Cleaned swept resource) :
      Course [] (.ok (.skipped resource none "already cleaned", swept))
  | queryFailed {failure : Failure} (asks : Asks options tags swept resource) :
      Course [(query scope resource, .error failure)]
        (concluded scope swept resource (.error failure))
  | notFound {found : Json} (asks : Asks options tags swept resource)
      (nothing : scope.targets resource.kind found = []) :
      Course [(query scope resource, .ok found)] (concluded scope swept resource (.ok .notFound))
  | deletes {found : Json} {id : String} {more : List String} {answer : Reply}
      (asks : Asks options tags swept resource)
      (targets : scope.targets resource.kind found = id :: more) :
      Course [(query scope resource, .ok found),
          (Scope.deletionRequest resource.kind id more, answer)]
        (concluded scope swept resource (Scope.deletionOutcome resource.kind id more answer))

end Course

/-! ### Handling takes a course -/

section Handle

variable {σ : Type} (service : Service σ) (state : σ) (options : RunOptions) (scope : Scope)
  (tags : List String) (swept : List Kind) (resource : Resource)

/-- Handling that asks the service is a delete call and what comes of it. -/
theorem converse_handle (asks : Asks options tags swept resource) :
    converse service state (handle options scope tags swept resource) =
      let deleted := converse service state (scope.delete resource.kind resource.name).run
      ⟨concluded scope swept resource deleted.result, deleted.exchanges, deleted.state⟩ := by
  obtain ⟨kept, wet, uncleaned⟩ := asks
  have unswept : (resource.kind.isSwept && swept.contains resource.kind) = false := by
    refine Bool.eq_false_iff.mpr fun both => uncleaned ?_
    obtain ⟨sweeps, before⟩ := Bool.and_eq_true_iff.mp both
    exact ⟨sweeps, List.contains_iff_mem.mp before⟩
  unfold handle
  simp only [kept, wet, unswept, Bool.false_eq_true, if_false, converse_bind]
  cases (converse service state (scope.delete resource.kind resource.name).run).result with
  | ok done => simp only [converse_pure, List.append_nil, concluded]
  | error failure => simp only [converse_pure, List.append_nil, concluded]

/-- **Handling a resource takes one of the courses.** -/
theorem handle_course :
    let handled := converse service state (handle options scope tags swept resource)
    Course options scope tags swept resource handled.exchanges handled.result := by
  by_cases out : isFilteredOut tags resource = true
  · unfold handle
    simp only [out, if_true, converse_pure]
    exact .filteredOut out
  · have kept := Bool.eq_false_iff.mpr out
    by_cases dry : options.dryRun = true
    · unfold handle
      simp only [kept, dry, Bool.false_eq_true, if_false, if_true, converse_pure]
      exact .dryRun kept dry
    · have wet := Bool.eq_false_iff.mpr dry
      by_cases cleaned : Cleaned swept resource
      · have before : (resource.kind.isSwept && swept.contains resource.kind) = true :=
          Bool.and_eq_true_iff.mpr ⟨cleaned.1, List.contains_iff_mem.mpr cleaned.2⟩
        unfold handle
        simp only [kept, wet, before, Bool.false_eq_true, if_false, if_true, converse_pure]
        exact .cleaned kept wet cleaned
      · have asks : Asks options tags swept resource := ⟨kept, wet, cleaned⟩
        rw [converse_handle service state options scope tags swept resource asks,
          Scope.converse_delete]
        dsimp only
        cases (service (scope.deletionQuery resource.kind resource.name) state).1 with
        | error failure => exact .queryFailed asks
        | ok found =>
          dsimp only
          cases targets : scope.targets resource.kind found with
          | nil => exact .notFound asks targets
          | cons id more => exact .deletes asks targets

end Handle

/-! ### A teardown is its visits -/

section Run

variable {σ : Type} (service : Service σ) (state : σ) (options : RunOptions) (scope : Scope)
  (tags : List String)

/-- The log entry for a result. -/
def entryOf (result : ResourceResult) : LogEntry :=
  ⟨.info, result.label ++ ": " ++ result.action.name⟩

theorem walk_eq_along (swept : List Kind) (resources : List Resource) :
    walk options scope tags swept resources =
      Walk.along (handle options scope tags) entryOf swept resources := by
  induction resources generalizing swept with
  | nil => rfl
  | cons resource rest ih =>
    unfold walk Walk.along
    simp only [ih]
    refine congrArg (handle options scope tags swept resource >>= ·) (funext fun outcome => ?_)
    cases outcome with
    | error cause => rfl
    | ok result => rfl

/-- **Every visit takes a course.** -/
theorem visit_course {swept : List Kind} {resources : List Resource} {here : Visit σ (List Kind)}
    (member : here ∈ Walk.visits service (handle options scope tags) swept state resources) :
    Course options scope tags here.known here.resource here.exchanges here.outcome := by
  have course := handle_course service here.stateBefore options scope tags here.known here.resource
  rw [Walk.eq_visit_of_mem service _ swept state member]
  exact course

end Run

end Teardown

section Document

open Dialogue

variable {σ : Type} (service : Service σ) (state : σ) (options : RunOptions) (tags : List String)
  (document : Document)

/-- The visits of tearing a document down. -/
def Document.teardownVisits : List (Visit σ (List Kind)) :=
  Walk.visits service (Teardown.handle options (options.scope document) tags) [] state
    document.resources.reverse

/-- **Tearing a document down is its visits.** -/
theorem converse_teardown (occasion : Occasion) :
    converse service state (document.teardown options occasion tags) =
      let visited := document.teardownVisits service state options tags
      ⟨RunOutcome.ofWalk occasion .teardown document options.dryRun (Walk.ofVisits visited),
        visited.flatMap Visit.exchanges, Walk.stateAfter state visited⟩ := by
  unfold Document.teardown Document.teardownVisits
  simp only [converse_bind, converse_log, Teardown.walk_eq_along, Walk.converse_along,
    List.nil_append]
  unfold RunOutcome.ofWalk
  dsimp only
  cases (Walk.ofVisits _).cause with
  | none => simp only [converse_bind, converse_log, converse_pure, List.append_nil]
  | some cause => simp only [converse_pure, List.append_nil]

end Document

end ResourceGraph
