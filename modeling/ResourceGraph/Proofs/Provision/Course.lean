/-
**How provisioning handles one resource.**

Handling a resource takes one of six courses, told apart by what is exchanged with the service:
nothing is sent because an unresolved reference is not allowed or because the run is dry; one
look-up is sent, which finds the resource, fails fatally or fails; or the look-up is followed by one
creation.

* `Provision.Course`: the six courses, each with what is exchanged and what comes of it;
* `handle_course`: handling a resource takes one of them, for any service;
* `visit_course`: so does every visit of a provisioning run;
* `converse_provision`: a run is its visits.
-/

import ResourceGraph.Proofs.Run.Visits
import ResourceGraph.Proofs.Service.Calls
import ResourceGraph.Run.Provision

namespace ResourceGraph

namespace Provision

open Dialogue

/-! ### The courses -/

section Course

variable (options : RunOptions) (scope : Scope) (ids : Identifiers) (resource : Resource)

/-- The properties of a resource with the references replaced that have an identifier. -/
def resolved : Fields :=
  Json.resolveFields ids resource.properties

/-- An unresolved reference keeps the resource from being handled. -/
def HeldBack : Prop :=
  options.strictReferences = true ∧ unresolvedReferences (resolved ids resource) ≠ []

/-- The service is asked about the resource. -/
def Asks : Prop :=
  options.dryRun = false ∧ ¬ HeldBack options ids resource

/-- The reply to a look-up lets the resource be created. -/
def LooksMissing : Reply → Prop
  | .ok found => scope.FindsNothing resource.kind found
  | .error failure => failure.isFatal = false ∧ options.lookupPolicy = .treatAsMissing

/-- The request that looks the resource up. -/
def lookup : Request :=
  scope.lookupRequest resource.kind resource.name

/-- The request that creates the resource. -/
def creation : Request :=
  scope.createRequest resource.kind.endpoint resource.name (resolved ids resource)

/-- What comes of the reply to a creation. -/
def creationOutcome (reply : Reply) : Except Failure ResourceResult :=
  match Scope.outcomeOf resource.kind.endpoint reply with
  | .ok outcome => .ok (resultOf resource outcome)
  | .error failure => settle resource failure failure.describe

/-- **The courses of handling a resource**, with what is exchanged and what comes of it. -/
inductive Course : List Exchange → Except Failure ResourceResult → Prop where
  | heldBack (held : HeldBack options ids resource) :
      Course [] (.ok (.failed resource ("Unresolved reference(s): " ++
        Text.join ", " (unresolvedReferences (resolved ids resource)))))
  | dryRun (free : ¬ HeldBack options ids resource) (dry : options.dryRun = true) :
      Course [] (.ok (.skipped resource none "dry run"))
  | exists {found : Json} {id : String} (asks : Asks options ids resource)
      (finds : scope.Finds resource.kind found id) :
      Course [(lookup scope resource, .ok found)]
        (.ok (.skipped resource (some id) "already exists"))
  | lookupFatal {failure : Failure} (asks : Asks options ids resource)
      (fatal : failure.isFatal = true) :
      Course [(lookup scope resource, .error failure)] (.error failure)
  | lookupFailed {failure : Failure} (asks : Asks options ids resource)
      (passing : failure.isFatal = false) (policy : options.lookupPolicy = .fail) :
      Course [(lookup scope resource, .error failure)]
        (.ok (.failed resource ("Existence check failed: " ++ failure.describe)))
  | creates {found reply : Reply} (asks : Asks options ids resource)
      (missing : LooksMissing options scope resource found) :
      Course [(lookup scope resource, found), (creation scope ids resource, reply)]
        (creationOutcome resource reply)

variable {options scope ids resource}

/-- A course sends nothing, the look-up, or the look-up and the creation. -/
theorem Course.requests {exchanges : List Exchange} {outcome : Except Failure ResourceResult}
    (course : Course options scope ids resource exchanges outcome) :
    exchanges.map Prod.fst = [] ∨ exchanges.map Prod.fst = [lookup scope resource] ∨
      exchanges.map Prod.fst = [lookup scope resource, creation scope ids resource] := by
  cases course with
  | heldBack held => exact Or.inl rfl
  | dryRun free dry => exact Or.inl rfl
  | «exists» asks finds => exact Or.inr (Or.inl rfl)
  | lookupFatal asks fatal => exact Or.inr (Or.inl rfl)
  | lookupFailed asks passing policy => exact Or.inr (Or.inl rfl)
  | creates asks missing => exact Or.inr (Or.inr rfl)

end Course

/-! ### Handling takes a course -/

section Handle

variable {σ : Type} (service : Service σ) (state : σ) (options : RunOptions) (scope : Scope)
  (ids : Identifiers) (resource : Resource)

theorem converse_createMissing :
    converse service state (createMissing scope resource (resolved ids resource)) =
      let reply := service (creation scope ids resource) state
      ⟨creationOutcome resource reply.1, [(creation scope ids resource, reply.1)], reply.2⟩ := by
  unfold createMissing creationOutcome
  simp only [converse_bind, converse_log, Scope.converse_create, List.nil_append]
  unfold creation
  cases Scope.outcomeOf resource.kind.endpoint (service _ state).1 with
  | ok outcome => rfl
  | error failure => rfl

theorem lookUpAndCreate_course (asks : Asks options ids resource) :
    let handled := converse service state
      (lookUpAndCreate options scope resource (resolved ids resource))
    Course options scope ids resource handled.exchanges handled.result := by
  unfold lookUpAndCreate
  simp only [converse_bind, Scope.converse_find]
  cases (service (scope.lookupRequest resource.kind resource.name) state).1 with
  | ok found =>
    simp only [Except.map]
    cases first : (scope.matchesIn resource.kind.endpoint found).head? with
    | some id =>
      simp only [converse_pure, List.append_nil]
      exact .exists asks (scope.head?_matchesIn_eq_some_iff.mp first)
    | none =>
      simp only [converse_createMissing, List.cons_append, List.nil_append]
      exact .creates asks (scope.head?_matchesIn_eq_none_iff.mp first)
  | error failure =>
    simp only [Except.map]
    cases fatal : failure.isFatal with
    | true =>
      simp only [if_true, converse_pure, List.append_nil]
      exact .lookupFatal asks fatal
    | false =>
      cases policy : options.lookupPolicy with
      | fail =>
        simp only [Bool.false_eq_true, if_false, converse_pure, List.append_nil]
        exact .lookupFailed asks fatal policy
      | treatAsMissing =>
        simp only [Bool.false_eq_true, if_false, converse_bind, converse_log,
          converse_createMissing, List.cons_append, List.nil_append]
        exact .creates asks ⟨fatal, policy⟩

/-- **Handling a resource takes one of the courses.** -/
theorem handle_course :
    let handled := converse service state (handle options scope ids resource)
    Course options scope ids resource handled.exchanges handled.result := by
  unfold handle
  simp only [converse_ite_log]
  by_cases held : HeldBack options ids resource
  · have unresolved : (unresolvedReferences (Json.resolveFields ids resource.properties)).isEmpty =
        false := List.isEmpty_eq_false_iff.mpr held.2
    simp only [unresolved, held.1, Bool.not_false, Bool.and_self, if_true, converse_pure]
    exact .heldBack held
  · have free : (!(unresolvedReferences (Json.resolveFields ids resource.properties)).isEmpty &&
        options.strictReferences) = false := by
      refine Bool.eq_false_iff.mpr fun both => held ?_
      obtain ⟨unresolved, strict⟩ := Bool.and_eq_true_iff.mp both
      exact ⟨strict, by simpa [resolved] using unresolved⟩
    simp only [free, Bool.false_eq_true, if_false]
    cases dry : options.dryRun with
    | true =>
      simp only [if_true, converse_pure]
      exact .dryRun held dry
    | false =>
      simp only [Bool.false_eq_true, if_false]
      exact lookUpAndCreate_course service state options scope ids resource ⟨dry, held⟩

end Handle

/-! ### A run is its visits -/

section Run

variable {σ : Type} (service : Service σ) (state : σ) (options : RunOptions) (scope : Scope)

/-- Handles one resource, with the identifiers that are known then. -/
def step (ids : Identifiers) (resource : Resource) :
    Dialogue (Except Failure (ResourceResult × Identifiers)) := do
  return (← handle options scope ids resource).map fun result => (result, publish ids result)

/-- The log entry for a result. -/
def entryOf (result : ResourceResult) : LogEntry :=
  match result.action with
  | .failed => ⟨.warn, result.label ++ ": failed: " ++ result.error.getD "unknown error"⟩
  | action =>
    ⟨.info, result.label ++ ": " ++ action.name ++
      (result.serverId.elim "" fun id => " [" ++ id ++ "]")⟩

theorem logResult_eq (result : ResourceResult) :
    logResult result = log (entryOf result).level (entryOf result).message := by
  unfold logResult entryOf
  cases result.action <;> rfl

theorem walk_eq_along (ids : Identifiers) (resources : List Resource) :
    walk options scope ids resources = Walk.along (step options scope) entryOf ids resources := by
  induction resources generalizing ids with
  | nil => rfl
  | cons resource rest ih =>
    unfold walk Walk.along step
    simp only [bind_assoc, pure_bind, logResult_eq, ih]
    refine congrArg (handle options scope ids resource >>= ·) (funext fun outcome => ?_)
    cases outcome with
    | error cause => rfl
    | ok result => rfl

/-- What comes of a course, with what is known then. -/
def reached (ids : Identifiers) (outcome : Except Failure ResourceResult) :
    Except Failure (ResourceResult × Identifiers) :=
  outcome.map fun result => (result, publish ids result)

section Reached

variable {here : Visit σ Identifiers} {ids : Identifiers}

theorem recorded_of_reached {result : ResourceResult}
    (same : here.outcome = reached ids (.ok result)) : here.recorded = result := by
  rw [Visit.recorded, same]
  rfl

theorem cause?_of_reached_ok {result : ResourceResult}
    (same : here.outcome = reached ids (.ok result)) : here.cause? = none := by
  rw [Visit.cause?, same]
  rfl

theorem cause?_of_reached_error {cause : Failure}
    (same : here.outcome = reached ids (.error cause)) : here.cause? = some cause := by
  rw [Visit.cause?, same]
  rfl

end Reached

theorem visit_step (ids : Identifiers) (resource : Resource) :
    Walk.visit service (step options scope) ids state resource =
      let handled := converse service state (handle options scope ids resource)
      ⟨ids, resource, handled.exchanges, reached ids handled.result, state, handled.state⟩ := by
  unfold Walk.visit step
  simp only [converse_bind, converse_pure, List.append_nil]
  rfl

/-- **Every visit takes a course.** -/
theorem visit_course {ids : Identifiers} {resources : List Resource} {here : Visit σ Identifiers}
    (member : here ∈ Walk.visits service (step options scope) ids state resources) :
    ∃ outcome, Course options scope here.known here.resource here.exchanges outcome ∧
      here.outcome = reached here.known outcome := by
  have course := handle_course service here.stateBefore options scope here.known here.resource
  have same := (Walk.eq_visit_of_mem service _ ids state member).trans
    (visit_step service here.stateBefore options scope here.known here.resource)
  have exchanged := congrArg Visit.exchanges same
  have outcome := congrArg Visit.outcome same
  dsimp only at course exchanged outcome
  rw [← exchanged] at course
  exact ⟨_, course, outcome⟩

end Run

end Provision

section Document

open Dialogue

variable {σ : Type} (service : Service σ) (state : σ) (options : RunOptions) (document : Document)

/-- The visits of provisioning a document. -/
def Document.provisionVisits : List (Visit σ Identifiers) :=
  Walk.visits service (Provision.step options (options.scope document)) .empty state
    document.resources

/-- **Provisioning a document is its visits.** -/
theorem converse_provision (occasion : Occasion) :
    converse service state (document.provision options occasion) =
      let visited := document.provisionVisits service state options
      ⟨RunOutcome.ofWalk occasion .provision document options.dryRun (Walk.ofVisits visited),
        visited.flatMap Visit.exchanges, Walk.stateAfter state visited⟩ := by
  unfold Document.provision Document.provisionVisits
  simp only [converse_bind, converse_log, Provision.walk_eq_along, Walk.converse_along,
    List.nil_append]
  unfold RunOutcome.ofWalk
  dsimp only
  cases (Walk.ofVisits _).cause with
  | none => simp only [converse_bind, converse_log, converse_pure, List.append_nil]
  | some cause => simp only [converse_pure, List.append_nil]

end Document

end ResourceGraph
