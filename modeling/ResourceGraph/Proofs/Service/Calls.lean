/-
**What the calls for one resource exchange.**

The conversation of a look-up and of a creation, for any service. Each is one request.

* `Scope.Identifies`: an entry of a reply that is a match and has a usable identifier;
* `Scope.Finds`, `Scope.FindsNothing`: what a look-up finds in a reply;
  `head?_matchesIn_eq_some_iff` says that it answers with the first match;
* `converse_find`, `converse_create`: the conversations.
-/

import ResourceGraph.Proofs.Service.Conversation
import ResourceGraph.Proofs.Service.Identifier

namespace ResourceGraph

namespace Scope

open Dialogue

variable (scope : Scope)

/-! ### Matches in a reply -/

/-- The entry is a match with a usable identifier. On the work services it has to carry the cleanup
tag as a whole; on the others every entry of the reply is a match. -/
def Identifies (kind : Kind) (entry : Json) (id : String) : Prop :=
  idOf? entry = some id ∧
    (kind = .workItem ∨ kind = .workOrder → carriesTag scope.tag entry = true)

theorem isMatch_iff (kind : Kind) (entry : Json) :
    scope.isMatch kind.endpoint entry = true ↔
      (kind = .workItem ∨ kind = .workOrder → carriesTag scope.tag entry = true) := by
  cases kind <;> simp [isMatch, Kind.endpoint, Endpoint.location, Endpoint.product, Endpoint.system,
    Endpoint.asset, Endpoint.testResult, Endpoint.workflow, Endpoint.workItem, Endpoint.workOrder,
    Endpoint.work, Endpoint.dataTable, Endpoint.file, Endpoint.notebook, Endpoint.tagged,
    Endpoint.plain]

/-- The usable identifier of an entry that is a match. -/
def identifier? (kind : Kind) (entry : Json) : Option String :=
  if scope.isMatch kind.endpoint entry then idOf? entry else none

theorem identifier?_eq_some_iff {kind : Kind} {entry : Json} {id : String} :
    scope.identifier? kind entry = some id ↔ scope.Identifies kind entry id := by
  unfold identifier? Identifies
  rw [← isMatch_iff, Option.ite_none_right_eq_some, and_comm]

theorem identifier?_eq_none_iff {kind : Kind} {entry : Json} :
    scope.identifier? kind entry = none ↔ ∀ id, ¬ scope.Identifies kind entry id := by
  simp only [Option.eq_none_iff_forall_ne_some, ne_eq, identifier?_eq_some_iff]

theorem matchesIn_eq (kind : Kind) (reply : Json) :
    scope.matchesIn kind.endpoint reply =
      (entriesUnder kind.endpoint.collection reply).filterMap (scope.identifier? kind) := by
  rw [matchesIn, List.filterMap_filter]
  rfl

/-- The first match in the reply that has a usable identifier has this one. -/
def Finds (kind : Kind) (reply : Json) (id : String) : Prop :=
  ∃ before entry after, entriesUnder kind.endpoint.collection reply = before ++ entry :: after ∧
    scope.Identifies kind entry id ∧
    ∀ earlier ∈ before, ∀ other, ¬ scope.Identifies kind earlier other

/-- No match in the reply has a usable identifier. -/
def FindsNothing (kind : Kind) (reply : Json) : Prop :=
  ∀ entry ∈ entriesUnder kind.endpoint.collection reply, ∀ id, ¬ scope.Identifies kind entry id

/-- **A look-up answers with the first match.** -/
theorem head?_matchesIn_eq_some_iff {kind : Kind} {reply : Json} {id : String} :
    (scope.matchesIn kind.endpoint reply).head? = some id ↔ scope.Finds kind reply id := by
  unfold Finds
  rw [matchesIn_eq, List.head?_filterMap, List.findSome?_eq_some_iff]
  simp only [identifier?_eq_some_iff, identifier?_eq_none_iff]

theorem head?_matchesIn_eq_none_iff {kind : Kind} {reply : Json} :
    (scope.matchesIn kind.endpoint reply).head? = none ↔ scope.FindsNothing kind reply := by
  unfold FindsNothing
  rw [matchesIn_eq, List.head?_filterMap, List.findSome?_eq_none_iff]
  simp only [identifier?_eq_none_iff]

theorem Finds.not_findsNothing {scope : Scope} {kind : Kind} {reply : Json} {id : String}
    (finds : scope.Finds kind reply id) : ¬ scope.FindsNothing kind reply := by
  obtain ⟨before, entry, after, entries, identifies, _⟩ := finds
  refine fun nothing => nothing entry ?_ id identifies
  rw [entries]
  exact List.mem_append_right _ List.mem_cons_self

theorem Finds.unique {scope : Scope} {kind : Kind} {reply : Json} {first second : String}
    (one : scope.Finds kind reply first) (other : scope.Finds kind reply second) :
    first = second := by
  rw [← head?_matchesIn_eq_some_iff] at one other
  exact Option.some.inj (one.symm.trans other)

theorem Finds.ne_empty {scope : Scope} {kind : Kind} {reply : Json} {id : String}
    (finds : scope.Finds kind reply id) : id ≠ "" := by
  obtain ⟨_, entry, _, _, identifies, _⟩ := finds
  exact idUnder?_ne_empty identifies.1

theorem mem_matchesIn_ne_empty {endpoint : Endpoint} {reply : Json} {id : String}
    (member : id ∈ scope.matchesIn endpoint reply) : id ≠ "" :=
  mem_filterMap_idOf?_ne_empty member

/-! ### Looking up and creating -/

section Converse

variable {σ : Type} (service : Service σ) (state : σ)

/-- The request that looks a resource up. -/
def lookupRequest (kind : Kind) (name : String) : Request :=
  queryRequest kind.endpoint (scope.lookupFilter kind.endpoint name) kind.endpoint.matchLimit

theorem converse_find (kind : Kind) (name : String) :
    converse service state (scope.find kind name).run =
      let lookup := scope.lookupRequest kind name
      let reply := service lookup state
      ⟨reply.1.map fun found => (scope.matchesIn kind.endpoint found).head?, [(lookup, reply.1)],
        reply.2⟩ := by
  unfold find
  simp only [converse_run_bind, converse_run_request]
  unfold lookupRequest
  cases (service _ state).1 with
  | ok found => rfl
  | error failure => rfl

/-- What a create call did, read from its reply. -/
def outcomeOf (endpoint : Endpoint) : Reply → Except Failure CreateOutcome
  | .ok reply => .ok (createOutcome endpoint reply)
  | .error failure => CreateOutcome.ofFailure failure

theorem converse_create (kind : Kind) (name : String) (properties : Fields) :
    converse service state (scope.create kind name properties).run =
      let creation := scope.createRequest kind.endpoint name properties
      let reply := service creation state
      ⟨outcomeOf kind.endpoint reply.1, [(creation, reply.1)], reply.2⟩ := by
  unfold create
  simp only [converse_run_tryCatch, converse_run_bind, converse_run_request]
  cases (service _ state).1 with
  | ok reply => rfl
  | error failure => rfl

theorem outcomeOf_isNamed {endpoint : Endpoint} {reply : Reply} {outcome : CreateOutcome}
    (handled : outcomeOf endpoint reply = .ok outcome) : outcome.IsNamed := by
  cases reply with
  | ok reply =>
    cases handled
    exact createOutcome_isNamed endpoint reply
  | error failure => exact CreateOutcome.ofFailure_isNamed handled

end Converse

end Scope

end ResourceGraph
