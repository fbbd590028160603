/-
**One sweep without a failure for each swept kind.**

The resources of a swept kind that pass the filter sweep their kind one after the other until a
sweep does not fail; the resources after it count as already cleaned, and nothing is sent for them.
So every failed sweep is repeated at the next resource of the kind, unless its failure is fatal:
then the run ends there.

* `Teardown.Sweeps`: a visit that sweeps its kind, and what comes of it;
* `Course.silent_or_called`: a visit sends nothing, or it makes a delete call; `exists_sweeps` is
  the call for a swept kind;
* `Teardown.SweepHistory`: what may happen at the resources of a kind on the way;
  `SweepHistory.visit` is the step, `sweepHistory_visits` the walk;
* `SweepHistory.parts`: failed sweeps, then at most one that does not fail, then nothing;
* `teardown_sweeps_once`: a whole run.
-/

import ResourceGraph.Proofs.Teardown.Restriction
import ResourceGraph.Proofs.Teardown.Sweeps

namespace ResourceGraph

namespace Teardown

open Dialogue

variable {σ : Type}

/-! ### Visits that sweep -/

/-- The delete call of the resource of a visit. -/
def deleteCall (service : Service σ) (scope : Scope) (here : Visit σ (List Kind)) :
    Conversation σ (Except Failure DeleteOutcome) :=
  converse service here.stateBefore (scope.delete here.resource.kind here.resource.name).run

/-- **The visit sweeps the kind of its resource**, and this comes of it. -/
structure Sweeps (service : Service σ) (scope : Scope) (here : Visit σ (List Kind))
    (outcome : Except Failure DeleteOutcome) : Prop where
  /-- What is exchanged is the delete call of the resource. -/
  called : (deleteCall service scope here).exchanges = here.exchanges
  result : (deleteCall service scope here).result = outcome
  /-- It starts with the query for all of the kind that carry the cleanup tag. -/
  asks : ∃ reply deletions, here.exchanges =
    (Scope.queryRequest here.resource.kind.endpoint
      (scope.sweepFilter here.resource.kind.endpoint) 1000, reply) :: deletions
  recorded : here.recorded = match outcome with
    | .ok done => resultOf scope here.resource done
    | .error failure => .failed here.resource failure.describe

/-- Whether the visit is about a resource of the kind that passes the filter. -/
def ofKind (tags : List String) (kind : Kind) (here : Visit σ (List Kind)) : Bool :=
  here.resource.kind == kind && !isFilteredOut tags here.resource

section Step

variable {service : Service σ} {options : RunOptions} {scope : Scope} {tags : List String}
  {here : Visit σ (List Kind)}

theorem ofKind_iff {kind : Kind} : ofKind tags kind here = true ↔
    here.resource.kind = kind ∧ isFilteredOut tags here.resource = false := by
  rw [ofKind, Bool.and_eq_true, beq_iff_eq, Bool.not_eq_true']

/-- **A visit sends nothing and leaves known what was, or it makes the delete call of its
resource**, which starts with the query. -/
theorem Course.silent_or_called
    (course : Course options scope tags here.known here.resource here.exchanges here.outcome) :
    (¬ Asks options tags here.known here.resource ∧ here.exchanges = [] ∧
        here.knownAfter = here.known) ∨
      Asks options tags here.known here.resource ∧
        (∃ reply deletions, here.exchanges = (query scope here.resource, reply) :: deletions) ∧
        ∃ outcome, here.outcome = concluded scope here.known here.resource outcome := by
  generalize here.exchanges = exchanges at course ⊢
  generalize reached : here.outcome = outcome at course ⊢
  cases course with
  | filteredOut out =>
    refine Or.inl ⟨fun asks => ?_, rfl, knownAfter_of_ok reached⟩
    exact Bool.false_ne_true (asks.kept.symm.trans out)
  | dryRun kept dry =>
    refine Or.inl ⟨fun asks => ?_, rfl, knownAfter_of_ok reached⟩
    exact Bool.false_ne_true (asks.wet.symm.trans dry)
  | cleaned kept wet cleaned =>
    exact Or.inl ⟨fun asks => asks.uncleaned cleaned, rfl, knownAfter_of_ok reached⟩
  | queryFailed asks => exact Or.inr ⟨asks, ⟨_, _, rfl⟩, _, rfl⟩
  | notFound asks nothing => exact Or.inr ⟨asks, ⟨_, _, rfl⟩, _, rfl⟩
  | deletes asks targets => exact Or.inr ⟨asks, ⟨_, _, rfl⟩, _, rfl⟩

/-- What is known after a delete call. -/
theorem knownAfter_of_concluded {outcome : Except Failure DeleteOutcome}
    (reached : here.outcome = concluded scope here.known here.resource outcome) :
    here.knownAfter = sweptAfter here.known here.resource outcome := by
  unfold Visit.knownAfter
  rw [reached]
  cases outcome with
  | ok done => rfl
  | error failure =>
    unfold concluded settle
    dsimp only
    cases failure.isFatal <;> rfl

/-- **A visit of another kind, or of a resource that is filtered out, sweeps nothing of the
kind.** -/
theorem contains_knownAfter_of_other {kind : Kind}
    (course : Course options scope tags here.known here.resource here.exchanges here.outcome)
    (other : ofKind tags kind here = false) :
    here.knownAfter.contains kind = here.known.contains kind := by
  rcases course.silent_or_called with ⟨_, _, known⟩ | ⟨asks, _, outcome, reached⟩
  · rw [known]
  · have apart : here.resource.kind ≠ kind := fun same => by
      rw [ofKind_iff.mpr ⟨same, asks.kept⟩] at other
      cases other
    rw [knownAfter_of_concluded reached]
    unfold sweptAfter
    cases outcome with
    | error failure => rfl
    | ok done =>
      dsimp only
      split
      · rw [List.contains_cons, beq_eq_false_iff_ne.mpr apart.symm, Bool.false_or]
      · rfl

variable {state : σ} {swept : List Kind} {resources : List Resource}

/-- **A visit that asks about a resource of a swept kind sweeps the kind.** -/
theorem exists_sweeps
    (member : here ∈ Walk.visits service (handle options scope tags) swept state resources)
    (bulk : here.resource.kind.isSwept = true)
    (asks : Asks options tags here.known here.resource) :
    ∃ outcome, Sweeps service scope here outcome ∧
      here.outcome = concluded scope here.known here.resource outcome := by
  have same := Walk.eq_visit_of_mem service (handle options scope tags) swept state member
  rw [Walk.visit, converse_handle service here.stateBefore options scope tags here.known
    here.resource asks] at same
  have called : (deleteCall service scope here).exchanges = here.exchanges :=
    (congrArg Visit.exchanges same).symm
  have reached : here.outcome =
      concluded scope here.known here.resource (deleteCall service scope here).result :=
    congrArg Visit.outcome same
  obtain ⟨_, ⟨reply, deletions, first⟩, _⟩ :=
    (visit_course service state options scope tags member).silent_or_called.resolve_left
      fun silent => silent.1 asks
  rw [query, Scope.deletionQuery_of_isSwept bulk] at first
  cases result : (deleteCall service scope here).result with
  | ok done =>
    rw [result] at reached
    exact ⟨_, ⟨called, result, ⟨reply, deletions, first⟩, (recorded_of_concluded_ok reached).1⟩,
      reached⟩
  | error failure =>
    rw [result] at reached
    exact ⟨_, ⟨called, result, ⟨reply, deletions, first⟩, (recorded_of_concluded_error reached).1⟩,
      reached⟩

/-! ### The history of a swept kind -/

/-- **What may happen at the resources of a swept kind**: sweeps that fail, then one that does not,
and after it nothing. The flag tells whether there was one that did not fail. -/
inductive SweepHistory (service : Service σ) (scope : Scope) :
    List (Visit σ (List Kind)) → Bool → Prop where
  | start : SweepHistory service scope [] false
  | failed {own : List (Visit σ (List Kind))} {here : Visit σ (List Kind)} {failure : Failure}
      (before : SweepHistory service scope own false)
      (sweeps : Sweeps service scope here (.error failure)) :
      SweepHistory service scope (own ++ [here]) false
  | swept {own : List (Visit σ (List Kind))} {here : Visit σ (List Kind)} {done : DeleteOutcome}
      (before : SweepHistory service scope own false)
      (sweeps : Sweeps service scope here (.ok done)) :
      SweepHistory service scope (own ++ [here]) true
  | cleaned {own : List (Visit σ (List Kind))} {here : Visit σ (List Kind)}
      (before : SweepHistory service scope own true) (silent : here.exchanges = [])
      (recorded : here.recorded = .skipped here.resource none "already cleaned") :
      SweepHistory service scope (own ++ [here]) true

/-- A sweep continues the history of a kind that was not swept. -/
theorem SweepHistory.called {own : List (Visit σ (List Kind))}
    {outcome : Except Failure DeleteOutcome}
    (history : SweepHistory service scope own false) (bulk : here.resource.kind.isSwept = true)
    (unswept : here.known.contains here.resource.kind = false)
    (sweeps : Sweeps service scope here outcome)
    (known : here.knownAfter = sweptAfter here.known here.resource outcome) :
    SweepHistory service scope (own ++ [here]) (here.knownAfter.contains here.resource.kind) := by
  rw [known]
  unfold sweptAfter
  cases outcome with
  | error failure =>
    rw [unswept]
    exact .failed history sweeps
  | ok done =>
    have now : (here.resource.kind :: here.known).contains here.resource.kind = true :=
      List.contains_iff_mem.mpr List.mem_cons_self
    rw [if_pos bulk, now]
    exact .swept history sweeps

/-- **Every visit continues the history of a swept kind.** -/
theorem SweepHistory.visit {kind : Kind} (bulk : kind.isSwept = true) (wet : options.dryRun = false)
    (member : here ∈ Walk.visits service (handle options scope tags) swept state resources)
    {before : List (Visit σ (List Kind))}
    (history : SweepHistory service scope (before.filter (ofKind tags kind))
      (here.known.contains kind)) :
    SweepHistory service scope ((before ++ [here]).filter (ofKind tags kind))
      (here.knownAfter.contains kind) := by
  have course := visit_course service state options scope tags member
  rw [List.filter_append]
  -- the flag of the history is whether the kind is among those known to be swept
  cases own : ofKind tags kind here with
  | false =>
    rw [List.filter_cons_of_neg (Bool.eq_false_iff.mp own), List.filter_nil, List.append_nil,
      contains_knownAfter_of_other course own]
    exact history
  | true =>
    obtain ⟨rfl, kept⟩ := ofKind_iff.mp own
    rw [List.filter_cons_of_pos own, List.filter_nil]
    by_cases cleaned : Cleaned here.known here.resource
    · have already : here.known.contains here.resource.kind = true :=
        List.contains_iff_mem.mpr cleaned.2
      obtain ⟨_, silent, known⟩ := course.silent_or_called.resolve_right
        fun called => called.1.uncleaned cleaned
      rw [already] at history
      rw [known, already]
      exact .cleaned history silent (course.cleaned_iff.mpr ⟨kept, wet, cleaned⟩)
    · have unswept : here.known.contains here.resource.kind = false := by
        rw [← Bool.not_eq_true, List.contains_iff_mem]
        exact fun before => cleaned ⟨bulk, before⟩
      obtain ⟨outcome, sweeps, reached⟩ := exists_sweeps member bulk ⟨kept, wet, cleaned⟩
      rw [unswept] at history
      exact history.called bulk unswept sweeps (knownAfter_of_concluded reached)

/-- **The parts of the history of a swept kind**: failed sweeps, and after them at most one that
does not fail; what follows it counts as already cleaned. -/
theorem SweepHistory.parts {own : List (Visit σ (List Kind))} {flag : Bool}
    (history : SweepHistory service scope own flag) :
    ∃ failing rest, own = failing ++ rest ∧
      (∀ here ∈ failing, ∃ failure, Sweeps service scope here (.error failure)) ∧
      (flag = false → rest = []) ∧
      (flag = true → ∃ clean later, rest = clean :: later ∧
        (∃ done, Sweeps service scope clean (.ok done)) ∧ ∀ here ∈ later, here.exchanges = [] ∧
          here.recorded = .skipped here.resource none "already cleaned") := by
  induction history with
  | start => exact ⟨[], [], rfl, List.forall_mem_nil _, fun _ => rfl, nofun⟩
  | @failed own here failure before sweeps ih =>
    obtain ⟨failing, rest, rfl, failed, none, _⟩ := ih
    obtain rfl := none rfl
    refine ⟨failing ++ [here], [], ?_, ?_, fun _ => rfl, nofun⟩
    · rw [List.append_nil, List.append_nil]
    · exact List.forall_mem_append.mpr ⟨failed, List.forall_mem_singleton.mpr ⟨failure, sweeps⟩⟩
  | @swept own here done before sweeps ih =>
    obtain ⟨failing, rest, rfl, failed, none, _⟩ := ih
    obtain rfl := none rfl
    refine ⟨failing, [here], ?_, failed, nofun,
      fun _ => ⟨here, [], rfl, ⟨done, sweeps⟩, List.forall_mem_nil _⟩⟩
    rw [List.append_nil]
  | @cleaned own here before silent recorded ih =>
    obtain ⟨failing, rest, rfl, failed, _, clean⟩ := ih
    obtain ⟨first, later, rfl, sweeps, others⟩ := clean rfl
    refine ⟨failing, first :: (later ++ [here]), ?_, failed, nofun,
      fun _ => ⟨first, later ++ [here], rfl, sweeps, ?_⟩⟩
    · rw [List.append_assoc, List.cons_append]
    · exact List.forall_mem_append.mpr ⟨others, List.forall_mem_singleton.mpr ⟨silent, recorded⟩⟩

end Step

section Visits

variable (service : Service σ) (state : σ) (options : RunOptions) (tags : List String)
  (document : Document)

/-- **The history of a swept kind along a run.** -/
theorem sweepHistory_visits {kind : Kind} (bulk : kind.isSwept = true)
    (wet : options.dryRun = false) :
    let visited := document.teardownVisits service state options tags
    SweepHistory service (options.scope document) (visited.filter (ofKind tags kind))
      ((Walk.knownAfter [] visited).contains kind) := by
  refine Walk.visits_induction service _ [] state
    (fun before known _ => SweepHistory service (options.scope document)
      (before.filter (ofKind tags kind)) (known.contains kind)) .start ?_ (List.append_nil _).symm
  intro before here after split history
  have member : here ∈ document.teardownVisits service state options tags := by
    rw [Document.teardownVisits, split]
    exact List.mem_append_cons_self
  exact history.visit bulk wet member

/-- A run without a fatal reply reaches all resources. -/
theorem resources_of_not_fatal
    (passes : ∀ exchange ∈
      (document.teardownVisits service state options tags).flatMap Visit.exchanges,
      ¬ FatallyAnswered exchange) :
    (document.teardownVisits service state options tags).map Visit.resource =
      document.resources.reverse := by
  refine Walk.map_resource_visits service _ _ _ fun here member => ?_
  cases ends : here.cause? with
  | none => rfl
  | some cause =>
    have sound := (visit_told service state options (options.scope document) tags member).sound
    obtain ⟨fatal, earlier, request, exchanged, _⟩ := sound.ends cause ends
    refine absurd (fatallyAnswered_error.mpr fatal) (passes (request, .error cause) ?_)
    refine List.mem_flatMap.mpr ⟨here, member, ?_⟩
    rw [exchanged]
    exact List.mem_append_right _ (List.mem_singleton_self _)

end Visits

/-- Only a kind that is swept counts as already cleaned. -/
theorem recorded_ne_cleaned_of_not_isSwept {service : Service σ} {state : σ} {options : RunOptions}
    {tags : List String} {document : Document} {here : Visit σ (List Kind)}
    (member : here ∈ document.teardownVisits service state options tags)
    (single : here.resource.kind.isSwept = false) :
    here.recorded ≠ .skipped here.resource none "already cleaned" := by
  intro recorded
  obtain ⟨_, _, bulk, _⟩ :=
    (visit_course service state options _ tags member).cleaned_iff.mp recorded
  rw [single] at bulk
  cases bulk

end Teardown

/-! ### Runs -/

section Run

open Dialogue

/-- **One sweep without a failure for each swept kind.** In a run that is not dry, the resources
reached are the last declared ones, and all of them unless a reply was fatal. Of those of a swept
kind that pass the filter, each sweeps the kind up to the first whose sweep does not fail; the ones
before it fail, and nothing is sent for the ones after it, which count as already cleaned. A
resource of any other kind never does. -/
theorem teardown_sweeps_once {σ : Type} (service : Service σ) (state : σ) {options : RunOptions}
    (wet : options.dryRun = false) (occasion : Occasion) (tags : List String)
    (document : Document) :
    let run := converse service state (document.teardown options occasion tags)
    let visited := document.teardownVisits service state options tags
    let scope := options.scope document
    run.result.report.results = visited.map Visit.recorded ∧
      run.exchanges = visited.flatMap Visit.exchanges ∧
      visited.map Visit.resource <+: document.resources.reverse ∧
      ((∀ exchange ∈ run.exchanges, ¬ FatallyAnswered exchange) →
        visited.map Visit.resource = document.resources.reverse) ∧
      (∀ kind ∈ [Kind.testResult, .file], ∃ failing rest,
        visited.filter (Teardown.ofKind tags kind) = failing ++ rest ∧
        (∀ here ∈ failing, ∃ failure, Teardown.Sweeps service scope here (.error failure)) ∧
        ∀ clean later, rest = clean :: later →
          (∃ done, Teardown.Sweeps service scope clean (.ok done)) ∧
            ∀ here ∈ later, here.exchanges = [] ∧
              here.recorded = .skipped here.resource none "already cleaned") ∧
      ∀ here ∈ visited, here.resource.kind ∉ [Kind.testResult, .file] →
        here.recorded ≠ .skipped here.resource none "already cleaned" := by
  have bulk_iff : ∀ kind : Kind, kind.isSwept = true ↔ kind ∈ [Kind.testResult, .file] := by
    intro kind
    cases kind <;> decide
  rw [converse_teardown]
  dsimp only
  rw [RunOutcome.report_ofWalk]
  refine ⟨rfl, rfl, Walk.visits_resources_prefix service _ _ _ _,
    Teardown.resources_of_not_fatal service state options tags document, fun kind bulk => ?_,
    fun here member single => ?_⟩
  · obtain ⟨failing, rest, parts, failed, unswept, swept⟩ :=
      (Teardown.sweepHistory_visits service state options tags document
        ((bulk_iff kind).mpr bulk) wet).parts
    refine ⟨failing, rest, parts, failed, fun clean later split => ?_⟩
    cases flag :
        (Walk.knownAfter [] (document.teardownVisits service state options tags)).contains kind with
    | false =>
      rw [unswept flag] at split
      cases split
    | true =>
      obtain ⟨first, others, same, sweeps, cleaned⟩ := swept flag
      rw [same] at split
      cases split
      exact ⟨sweeps, cleaned⟩
  · refine Teardown.recorded_ne_cleaned_of_not_isSwept member ?_
    rw [← Bool.not_eq_true, bulk_iff]
    exact single

/-- A document with three test results and a location. -/
def measured : Document where
  formatVersion := "1.0"
  name := "measured"
  title := "Measured"
  description := none
  author := none
  tags := []
  setupMinutes := none
  resources := [⟨.testResult, "First", [], "first", []⟩, ⟨.testResult, "Second", [], "second", []⟩,
    ⟨.location, "Lab", [], "lab", []⟩, ⟨.testResult, "Third", [], "third", []⟩]

/-- What a service finds that has one test result. -/
def measuredEntries : Json :=
  .object [("results", .array [.object [("id", .string "r-1")]])]

/-- A service that is busy when it is asked for the first time. -/
def recovering : Service Nat := fun _ count =>
  (if count = 0 then .error busy else .ok measuredEntries, count + 1)

/-- The first sweep fails, the second deletes what there is, and the last test result is already
cleaned. -/
theorem teardown_sweeps_once_measured :
    let run := converse recovering 0 (measured.teardown thoroughly .epoch [])
    let visited := measured.teardownVisits recovering 0 thoroughly []
    thoroughly.dryRun = false ∧
      visited.map Visit.resource = measured.resources.reverse ∧
      run.result.report.results.map ResourceResult.action =
        [.failed, .skipped, .deleted, .skipped] ∧
      run.exchanges.length = 4 ∧
      ∃ failing rest, visited.filter (Teardown.ofKind [] .testResult) = failing ++ rest ∧
        (∀ here ∈ failing, ∃ failure,
          Teardown.Sweeps recovering (thoroughly.scope measured) here (.error failure)) ∧
        ∀ clean later, rest = clean :: later →
          (∃ done, Teardown.Sweeps recovering (thoroughly.scope measured) clean (.ok done)) ∧
            ∀ here ∈ later, here.exchanges = [] ∧
              here.recorded = .skipped here.resource none "already cleaned" := by
  have wet : thoroughly.dryRun = false := rfl
  obtain ⟨_, _, _, _, once, _⟩ := teardown_sweeps_once recovering 0 wet .epoch [] measured
  exact ⟨wet, rfl, rfl, rfl, once .testResult List.mem_cons_self⟩

/-- Not every failed sweep is repeated, and not every resource of a swept kind sweeps it or is
already cleaned: credentials that are rejected end the run. -/
theorem not_swept_of_fatal :
    ¬ ∀ (service : Service Unit) (options : RunOptions) (tags : List String) (document : Document),
      options.dryRun = false → ∀ resource ∈ document.resources,
        resource.kind ∈ [Kind.testResult, .file] → Teardown.isFilteredOut tags resource = false →
          ∃ here ∈ document.teardownVisits service () options tags, here.resource = resource ∧
            ((∃ outcome, Teardown.Sweeps service (options.scope document) here outcome) ∨
              here.exchanges = [] ∧ here.recorded = .skipped resource none "already cleaned") := by
  intro all
  have visited : (campus.teardownVisits revoking () thoroughly []).map Visit.resource =
      [⟨.system, "Bench", [], "bench", ["site", "hot"]⟩,
        ⟨.testResult, "Second", [], "second", []⟩] := rfl
  obtain ⟨here, member, same, _⟩ := all revoking thoroughly [] campus rfl
    ⟨.testResult, "First", [], "first", ["site"]⟩ (by decide) (by decide) rfl
  have reached := List.mem_map_of_mem (f := Visit.resource) member
  rw [visited, same] at reached
  revert reached
  decide

end Run

end ResourceGraph
