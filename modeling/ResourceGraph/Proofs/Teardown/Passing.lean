/-
**Teardown runs without a failure.**

Where no resource fails, the run reaches all of them. At each one nothing is sent, or what the query
finds is deleted. A kind was swept exactly if a resource of the kind was reached before that passes
the filter, and then its other resources count as already cleaned.

* `Teardown.Done`: a visit without a failure; `Course.done` says that there is nothing else;
* `resources_of_passes`: such a run reaches every resource;
* `swept_visits`: which kinds were swept on the way;
* `Course.cleaned_iff`: which resources count as already cleaned.
-/

import ResourceGraph.Proofs.Teardown.Report

namespace ResourceGraph

namespace Teardown

variable {σ : Type}

/-! ### Visits without a failure -/

/-- **A visit without a failure**: nothing is sent, or what the query finds is deleted. -/
inductive Done (options : RunOptions) (scope : Scope) (tags : List String)
    (here : Visit σ (List Kind)) : Prop where
  | silent (idle : ¬ Asks options tags here.known here.resource) (sent : here.exchanges = [])
      (known : here.knownAfter = here.known)
  | asked {found : Json} {done : DeleteOutcome} {deletions : List Exchange}
      (asks : Asks options tags here.known here.resource)
      (sent : here.exchanges = (query scope here.resource, .ok found) :: deletions)
      (known : here.knownAfter = sweptAfter here.known here.resource (.ok done))
      (deletes : (scope.targets here.resource.kind found = [] ∧ deletions = []) ∨
        ∃ id more answer, scope.targets here.resource.kind found = id :: more ∧
          deletions = [(Scope.deletionRequest here.resource.kind id more, answer)] ∧
          Scope.deletionOutcome here.resource.kind id more answer = .ok done)

section Visit

variable {options : RunOptions} {scope : Scope} {tags : List String} {here : Visit σ (List Kind)}

theorem knownAfter_of_ok {result : ResourceResult} {next : List Kind}
    (reached : here.outcome = .ok (result, next)) : here.knownAfter = next := by
  unfold Visit.knownAfter
  rw [reached]

theorem Course.done
    (course : Course options scope tags here.known here.resource here.exchanges here.outcome)
    (passes : here.recorded.action ≠ .failed) : Done options scope tags here := by
  generalize exchanged : here.exchanges = exchanges at course
  generalize reached : here.outcome = outcome at course
  cases course with
  | filteredOut out =>
    refine .silent (fun asks => ?_) exchanged (knownAfter_of_ok reached)
    rw [asks.kept] at out
    cases out
  | dryRun kept dry =>
    refine .silent (fun asks => ?_) exchanged (knownAfter_of_ok reached)
    rw [asks.wet] at dry
    cases dry
  | cleaned kept wet cleaned =>
    exact .silent (fun asks => asks.uncleaned cleaned) exchanged (knownAfter_of_ok reached)
  | queryFailed asks =>
    refine absurd ?_ passes
    rw [(recorded_of_concluded_error reached).1]
    rfl
  | notFound asks nothing =>
    exact .asked asks exchanged (knownAfter_of_ok reached) (Or.inl ⟨nothing, rfl⟩)
  | @deletes found id more answer asks targets =>
    cases concludes : Scope.deletionOutcome here.resource.kind id more answer with
    | error failure =>
      rw [concludes] at reached
      refine absurd ?_ passes
      rw [(recorded_of_concluded_error reached).1]
      rfl
    | ok done =>
      rw [concludes] at reached
      exact .asked asks exchanged (knownAfter_of_ok reached)
        (Or.inr ⟨id, more, answer, targets, rfl, concludes⟩)

/-- **A visit sweeps a kind** if it asks about a resource of the kind. -/
theorem Done.mem_knownAfter_iff {kind : Kind} (done : Done options scope tags here)
    (sweeps : kind.isSwept = true) : kind ∈ here.knownAfter ↔
      kind ∈ here.known ∨ here.resource.kind = kind ∧
        Asks options tags here.known here.resource := by
  cases done with
  | silent idle sent known =>
    rw [known]
    exact (or_iff_left fun ⟨_, asks⟩ => idle asks).symm
  | asked asks sent known deletes =>
    rw [known, sweptAfter]
    by_cases same : here.resource.kind = kind
    · rw [same, if_pos sweeps]
      exact iff_of_true List.mem_cons_self (Or.inr ⟨rfl, asks⟩)
    · have apart : ¬ (here.resource.kind = kind ∧ Asks options tags here.known here.resource) :=
        fun both => same both.1
      rw [or_iff_left apart]
      split
      · exact List.mem_cons.trans (or_iff_right fun equal => same equal.symm)
      · exact Iff.rfl

theorem filteredOut_ne_cleaned (text : String) :
    "filtered out (no tag in " ++ text ++ ")" ≠ "already cleaned" := by
  intro same
  have first := congrArg (fun note : String => note.toList.head?) same
  simp at first

theorem skipped_ne_skipped {resource : Resource} {note other : String} (apart : note ≠ other) :
    ResourceResult.skipped resource none note ≠ .skipped resource none other :=
  fun same => apart (Option.some.inj (congrArg ResourceResult.note same))

/-- A resource that the service is asked about does not count as already cleaned. -/
theorem recorded_ne_cleaned {swept : List Kind} {outcome : Except Failure DeleteOutcome}
    (reached : here.outcome = concluded scope swept here.resource outcome) :
    here.recorded ≠ .skipped here.resource none "already cleaned" := by
  have acted {result : ResourceResult} (acts : result.action ≠ .skipped) :
      result ≠ .skipped here.resource none "already cleaned" :=
    fun same => acts (congrArg ResourceResult.action same)
  cases outcome with
  | error failure =>
    rw [(recorded_of_concluded_error reached).1]
    exact acted Action.noConfusion
  | ok done =>
    rw [(recorded_of_concluded_ok reached).1]
    cases done with
    | deleted id => exact acted Action.noConfusion
    | notFound => exact skipped_ne_skipped (by decide)
    | swept ids =>
      cases ids with
      | nil => exact skipped_ne_skipped (by decide)
      | cons first rest => exact acted Action.noConfusion

/-- **Which resources count as already cleaned**: those of a kind that was swept, in a run that
would send something. -/
theorem Course.cleaned_iff
    (course : Course options scope tags here.known here.resource here.exchanges here.outcome) :
    here.recorded = .skipped here.resource none "already cleaned" ↔
      isFilteredOut tags here.resource = false ∧ options.dryRun = false ∧
        Cleaned here.known here.resource := by
  generalize here.exchanges = exchanges at course
  generalize reached : here.outcome = outcome at course
  cases course with
  | filteredOut out =>
    rw [(recorded_of_ok reached).1]
    refine iff_of_false (skipped_ne_skipped (filteredOut_ne_cleaned _)) fun ⟨kept, _⟩ => ?_
    rw [kept] at out
    cases out
  | dryRun kept dry =>
    rw [(recorded_of_ok reached).1]
    refine iff_of_false (skipped_ne_skipped (by decide)) fun ⟨_, wet, _⟩ => ?_
    rw [wet] at dry
    cases dry
  | cleaned kept wet cleaned =>
    exact iff_of_true (recorded_of_ok reached).1 ⟨kept, wet, cleaned⟩
  | queryFailed asks =>
    exact iff_of_false (recorded_ne_cleaned reached) fun ⟨_, _, before⟩ => asks.uncleaned before
  | notFound asks nothing =>
    exact iff_of_false (recorded_ne_cleaned reached) fun ⟨_, _, before⟩ => asks.uncleaned before
  | deletes asks targets =>
    exact iff_of_false (recorded_ne_cleaned reached) fun ⟨_, _, before⟩ => asks.uncleaned before

/-- **Which kinds were swept** after some visits: those that a visit asked about, and all that a
resource was reached of which passes the filter. -/
structure Swept (options : RunOptions) (tags : List String) (kind : Kind)
    (before : List (Visit σ (List Kind))) (known : List Kind) : Prop where
  asked : kind ∈ known → ∃ earlier ∈ before, earlier.resource.kind = kind ∧
    Asks options tags earlier.known earlier.resource
  reached : ∀ earlier ∈ before, earlier.resource.kind = kind →
    isFilteredOut tags earlier.resource = false → kind ∈ known

theorem Swept.mem_iff {kind : Kind} {before : List (Visit σ (List Kind))} {known : List Kind}
    (swept : Swept options tags kind before known) :
    kind ∈ known ↔ ∃ earlier ∈ before, earlier.resource.kind = kind ∧
      isFilteredOut tags earlier.resource = false := by
  constructor
  · intro member
    obtain ⟨earlier, among, same, asks⟩ := swept.asked member
    exact ⟨earlier, among, same, asks.kept⟩
  · rintro ⟨earlier, among, same, kept⟩
    exact swept.reached earlier among same kept

/-- **Every visit keeps account of what was swept.** -/
theorem Swept.visit {kind : Kind} {before : List (Visit σ (List Kind))}
    (sweeps : kind.isSwept = true) (wet : options.dryRun = false)
    (done : Done options scope tags here)
    (swept : Swept options tags kind before here.known) :
    Swept options tags kind (before ++ [here]) here.knownAfter := by
  have known := done.mem_knownAfter_iff sweeps
  refine ⟨fun member => ?_, fun earlier among same kept => known.mpr ?_⟩
  · rcases known.mp member with early | ⟨same, asks⟩
    · obtain ⟨earlier, among, counts⟩ := swept.asked early
      exact ⟨earlier, List.mem_append_left _ among, counts⟩
    · exact ⟨here, List.mem_concat_self, same, asks⟩
  · rcases List.mem_append.mp among with early | last
    · exact Or.inl (swept.reached earlier early same kept)
    · -- a resource of the kind that passes the filter does not ask only if the kind was swept
      obtain rfl := List.mem_singleton.mp last
      by_cases cleaned : Cleaned earlier.known earlier.resource
      · refine Or.inl ?_
        rw [← same]
        exact cleaned.2
      · exact Or.inr ⟨same, kept, wet, cleaned⟩

end Visit

/-! ### Runs without a failure -/

section Visits

variable (service : Service σ) (state : σ) (options : RunOptions) (tags : List String)
  (document : Document)
  (passes : ∀ here ∈ document.teardownVisits service state options tags,
    here.recorded.action ≠ .failed)

include passes

/-- A run without a failed resource reaches all of them. -/
theorem resources_of_passes :
    (document.teardownVisits service state options tags).map Visit.resource =
      document.resources.reverse := by
  refine Walk.map_resource_visits service _ _ _ fun here member => ?_
  cases ends : here.cause? with
  | none => rfl
  | some cause =>
    refine absurd ?_ (passes here member)
    rw [Visit.recorded_of_cause ends]
    rfl

theorem done_of_mem {here : Visit σ (List Kind)}
    (member : here ∈ document.teardownVisits service state options tags) :
    Done options (options.scope document) tags here :=
  (visit_course service state options _ tags member).done (passes here member)

/-- **Which kinds were swept along a run.** -/
theorem swept_visits {kind : Kind} (sweeps : kind.isSwept = true) (wet : options.dryRun = false)
    {before after : List (Visit σ (List Kind))}
    (split : document.teardownVisits service state options tags = before ++ after) :
    Swept options tags kind before (Walk.knownAfter [] before) := by
  refine Walk.visits_induction service _ [] state
    (fun before known _ => Swept options tags kind before known) ?_ ?_ split
  · exact ⟨fun member => absurd member List.not_mem_nil,
      fun earlier among => absurd among List.not_mem_nil⟩
  · intro earlier here later split swept
    have member : here ∈ document.teardownVisits service state options tags := by
      rw [Document.teardownVisits, split]
      exact List.mem_append_cons_self
    exact swept.visit sweeps wet (done_of_mem service state options tags document passes member)

end Visits

end Teardown

end ResourceGraph
