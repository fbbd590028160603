/-
**No resource influences those before it.**

Provisioning a document starts as provisioning its first resources alone does: the same requests
with the same replies, the same results, and the same end if it ends there. So a resource is looked
up, created and recorded in the same way whatever is declared after it.

* `Document.truncated`: the document with its first resources only;
* `provisionVisits_truncated`: its visits are the first visits of the whole document;
* `provision_causal`: what follows for the two runs.
-/

import ResourceGraph.Proofs.Provision.Requests

namespace ResourceGraph

/-- The document with its first resources only. -/
def Document.truncated (document : Document) (count : Nat) : Document :=
  { document with resources := document.resources.take count }

namespace Provision

section Prefix

variable {σ : Type} (service : Service σ) (state : σ) (options : RunOptions)

/-- What is declared first decides the first visits. -/
theorem take_provisionVisits {document other : Document} {count : Nat}
    (named : other.name = document.name)
    (same : other.resources.take count = document.resources.take count) :
    (other.provisionVisits service state options).take count =
      (document.provisionVisits service state options).take count := by
  have scope : options.scope other = options.scope document := by
    unfold RunOptions.scope Document.cleanupTag
    rw [named]
  unfold Document.provisionVisits
  rw [← Walk.visits_take, ← Walk.visits_take, same, scope]

/-- **The visits of the first resources are the first visits.** -/
theorem provisionVisits_truncated (document : Document) (count : Nat) :
    (document.truncated count).provisionVisits service state options =
      (document.provisionVisits service state options).take count :=
  Walk.visits_take service _ _ state document.resources count

variable {service state options}

/-- **A run fails at its last visit**, and not at any of fewer first visits. -/
theorem length_le_or_cause_eq_none {document : Document} {visits : List (Visit σ Identifiers)}
    (visited : document.provisionVisits service state options = visits) {cause : Failure}
    (fails : (Walk.ofVisits visits).cause = some cause) (count : Nat) :
    visits.length ≤ count ∨ (Walk.ofVisits (visits.take count)).cause = none := by
  subst visited
  unfold Document.provisionVisits at fails ⊢
  rcases Walk.visits_finished_or_aborted service
      (step options (options.scope document)) .empty state document.resources with
    ⟨_, goesOn⟩ | ⟨before, last, _, _, split, _, goesOn, _⟩
  · rw [Walk.ofVisits, List.findSome?_eq_none_iff.mpr goesOn] at fails
    cases fails
  · rw [split, List.length_append, List.length_singleton]
    refine (Nat.lt_or_ge before.length count).imp id fun short => ?_
    rw [List.take_append_of_le_length short]
    exact List.findSome?_eq_none_iff.mpr fun here member =>
      goesOn here (List.mem_of_mem_take member)

end Prefix

end Provision

/-! ### Runs -/

section Run

open Dialogue

/-- **Declaration order is dependency order.** Provisioning the first resources of a document visits
them as provisioning the whole document does. So it sends the first requests, with the same replies,
and has the first results; it is aborted exactly if the whole run is aborted at one of these
resources, and then both have the same failure, exchanges and results. Any other document of the
same name that starts with the same resources is handled in the same way as far as they go. -/
theorem provision_causal {σ : Type} (service : Service σ) (state : σ) (options : RunOptions)
    (occasion : Occasion) (document : Document) (count : Nat) :
    let whole := converse service state (document.provision options occasion)
    let part := converse service state ((document.truncated count).provision options occasion)
    (document.truncated count).provisionVisits service state options =
        (document.provisionVisits service state options).take count ∧
      part.exchanges <+: whole.exchanges ∧
      part.result.report.results = whole.result.report.results.take count ∧
      (∀ abort, whole.result = .error abort → abort.report.results.length ≤ count →
        ∃ early, part.result = .error early ∧ early.cause = abort.cause ∧
          early.report.results = abort.report.results ∧ part.exchanges = whole.exchanges) ∧
      (∀ early, part.result = .error early →
        ∃ abort, whole.result = .error abort ∧ abort.report.results.length ≤ count) ∧
      ∀ other : Document, other.name = document.name →
        other.resources.take count = document.resources.take count →
          (other.provisionVisits service state options).take count =
            (document.provisionVisits service state options).take count := by
  have first := Provision.provisionVisits_truncated service state options document count
  rw [converse_provision, converse_provision]
  dsimp only
  rw [first, RunOutcome.report_ofWalk, RunOutcome.report_ofWalk]
  simp only [RunOutcome.ofWalk_eq_error_iff]
  generalize visited : document.provisionVisits service state options = visits
  refine ⟨trivial, ?_, List.map_take, ?_, ?_, ?_⟩
  · refine ⟨(visits.drop count).flatMap Visit.exchanges, ?_⟩
    rw [← List.flatMap_append, List.take_append_drop]
  · rintro ⟨report, cause⟩ ⟨fails, rfl⟩ short
    have all : visits.take count = visits := by
      refine List.take_of_length_le ?_
      have recorded : (visits.map Visit.recorded).length = visits.length := List.length_map _
      exact Nat.le_trans (Nat.le_of_eq recorded.symm) short
    rw [all]
    exact ⟨⟨RunReport.ofWalk _ _ (document.truncated count) _ _, cause⟩, ⟨fails, rfl⟩,
      rfl, rfl, rfl⟩
  · rintro ⟨report, cause⟩ ⟨fails, _⟩
    have whole : (Walk.ofVisits visits).cause = some cause := by
      rw [Walk.ofVisits, ← List.take_append_drop count visits, List.findSome?_append]
      exact Option.or_eq_some_iff.mpr (Or.inl fails)
    refine ⟨⟨_, cause⟩, ⟨whole, rfl⟩, ?_⟩
    rcases Provision.length_le_or_cause_eq_none visited whole count with short | goesOn
    · have recorded : (visits.map Visit.recorded).length = visits.length := List.length_map _
      exact Nat.le_trans (Nat.le_of_eq recorded) short
    · rw [goesOn] at fails
      cases fails
  · intro other named same
    rw [← visited]
    exact Provision.take_provisionVisits service state options named same

/-- A document with a system in a location, and a product. -/
def staffed : Document :=
  { chained with resources := chained.resources ++ [⟨.product, "Probe", [], "probe", []⟩] }

/-- The credentials are rejected. -/
def rejected : Failure := .service (.unauthorized "expired")

/-- A service that creates locations and rejects the credentials when a system is to be created. -/
def locking : Service Unit := fun request _ =>
  (if request.path = "/nisysmgmt/v1/virtual" then .error rejected
    else .ok (.object [("id", .string "loc-1")]), ())

/-- A run that is aborted at the second resource is aborted there without the third one. -/
theorem provision_causal_locking :
    let whole := converse locking () (staffed.provision leniently .epoch)
    let part := converse locking () ((staffed.truncated 2).provision leniently .epoch)
    (∃ abort, whole.result = .error abort ∧ abort.report.results.length ≤ 2 ∧
        abort.cause = rejected) ∧
      (∃ early, part.result = .error early ∧ early.cause = rejected) ∧
      part.exchanges = whole.exchanges ∧ whole.exchanges.length = 4 := by
  intro whole part
  obtain ⟨_, _, _, aborted, _⟩ := provision_causal locking () leniently .epoch staffed 2
  have ends : ∃ report, whole.result = .error ⟨report, rejected⟩ ∧ report.results.length = 2 :=
    ⟨_, rfl, rfl⟩
  obtain ⟨report, failed, two⟩ := ends
  obtain ⟨early, stopped, sameCause, _, sameExchanges⟩ := aborted _ failed (Nat.le_of_eq two)
  exact ⟨⟨_, failed, Nat.le_of_eq two, rfl⟩, ⟨early, stopped, sameCause⟩, sameExchanges, rfl⟩

end Run

end ResourceGraph
