/-
**What sweeps leave.**

A kind that is swept is swept once in a run: at the first resource of the kind that passes the
filter. Resources of the kind after it count as already cleaned, and nothing is sent for them. One
sweep asks for 1000 matches and deletes those. So a run leaves nothing of the kind if there were no
more than that, and otherwise all that were more.

* `Teardown.Keeps`: a service that holds resources of a kind, pages through them and deletes them;
* `Teardown.Leaves`: what is left of them on the way; `Leaves.visit` is the step, `leaves_visits`
  the walk.
-/

import Mathlib.Data.Finset.Card
import Mathlib.Data.Finset.Sort
import ResourceGraph.Proofs.Teardown.Passing

namespace ResourceGraph

namespace Teardown

open Dialogue

variable {σ : Type}

/-! ### A service that holds resources of a kind -/

/-- **The service holds resources of a swept kind**, under identifiers. -/
structure Keeps (service : Service σ) (scope : Scope) (kind : Kind) (held : σ → Finset String) :
    Prop where
  /-- A sweep query is answered with as many of them as it asks for, or with all if there are
  fewer. -/
  pages : ∀ limit state found,
    (service (Scope.queryRequest kind.endpoint (scope.sweepFilter kind.endpoint) limit) state).1 =
      .ok found →
        (scope.targets kind found).Nodup ∧ (∀ id ∈ scope.targets kind found, id ∈ held state) ∧
          (scope.targets kind found).length = min limit (held state).card
  /-- A deletion that is accepted removes what it carries. -/
  removes : ∀ id more state,
    Scope.Accepted kind (service (Scope.deletionRequest kind id more) state).1 →
      held (service (Scope.deletionRequest kind id more) state).2 =
        held state \ (id :: more).toFinset
  /-- Queries remove nothing. -/
  asks : ∀ other name state, held (service (scope.deletionQuery other name) state).2 = held state
  /-- Neither do deletions of other kinds. -/
  apart : ∀ other id more state, other ≠ kind →
    held (service (Scope.deletionRequest other id more) state).2 = held state

/-- A sweep passes only if its deletion is accepted. -/
theorem accepted_of_isSwept {kind : Kind} (sweeps : kind.isSwept = true) {id : String}
    {more : List String} {reply : Reply} {done : DeleteOutcome}
    (passes : Scope.deletionOutcome kind id more reply = .ok done) : Scope.Accepted kind reply := by
  rcases Scope.deletionOutcome_eq_ok passes with rfl | ⟨_, accepted⟩
  · unfold Scope.deletionOutcome at passes
    unfold Kind.isSwept at sweeps
    split at sweeps
    · rename_i manner
      rw [manner] at passes
      cases (Scope.exists_of_bind_deletionProblem? passes).1
    · cases sweeps
  · exact accepted

/-! ### What is left on the way -/

/-- **What is left of a kind**: all of it as long as the kind was not swept, and then what one sweep
leaves. -/
structure Leaves (kind : Kind) (held : σ → Finset String) (start : σ) (known : List Kind)
    (state : σ) : Prop where
  untouched : kind ∉ known → held state = held start
  swept : kind ∈ known → (held state).card = (held start).card - 1000

section Step

variable {service : Service σ} {options : RunOptions} {scope : Scope} {tags : List String}
  {kind : Kind} {held : σ → Finset String} {here : Visit σ (List Kind)}

/-- **A sweep** leaves what is more than 1000. -/
theorem card_of_sweep (keeps : Keeps service scope kind held) (sweeps : kind.isSwept = true)
    (same : here.resource.kind = kind) (asks : Asks options tags here.known here.resource)
    (done : Done options scope tags here)
    (served : Served service here.stateBefore here.exchanges here.stateAfter) :
    (held here.stateAfter).card = (held here.stateBefore).card - 1000 := by
  cases done with
  | silent idle => exact absurd asks idle
  | @asked found done deletions _ sent _ deletes =>
    rw [same] at deletes
    rw [sent, query, same] at served
    obtain ⟨answered, later⟩ := served
    have page : (service (Scope.queryRequest kind.endpoint (scope.sweepFilter kind.endpoint) 1000)
        here.stateBefore).1 = .ok found := by
      rw [← Scope.deletionQuery_of_isSwept sweeps scope here.resource.name]
      exact answered.symm
    obtain ⟨distinct, inside, length⟩ := keeps.pages 1000 here.stateBefore found page
    have asked := keeps.asks kind here.resource.name here.stateBefore
    rcases deletes with ⟨nothing, rfl⟩ | ⟨id, more, answer, targets, rfl, concludes⟩
    · -- an empty page in answer to a query for 1000 means that nothing was held
      have after : here.stateAfter =
          (service (scope.deletionQuery kind here.resource.name) here.stateBefore).2 := later
      rw [nothing, List.length_nil] at length
      rw [after, asked]
      omega
    · obtain ⟨replied, after⟩ := later
      have accepted := accepted_of_isSwept sweeps concludes
      rw [replied] at accepted
      have removed := keeps.removes id more _ accepted
      rw [targets] at distinct inside length
      -- the page has no repetitions, so as many are removed as it lists
      have carried : (id :: more).toFinset ⊆ held here.stateBefore := fun given member =>
        inside given (List.mem_toFinset.mp member)
      have after : here.stateAfter = (service (Scope.deletionRequest kind id more)
          (service (scope.deletionQuery kind here.resource.name) here.stateBefore).2).2 := after
      rw [after, removed, asked, Finset.card_sdiff_of_subset carried,
        List.toFinset_card_of_nodup distinct, length]
      omega

/-- **A visit of another kind**, or one that does not ask, leaves the kind as it is. -/
theorem held_of_other (keeps : Keeps service scope kind held)
    (other : ¬ (here.resource.kind = kind ∧ Asks options tags here.known here.resource))
    (done : Done options scope tags here)
    (served : Served service here.stateBefore here.exchanges here.stateAfter) :
    held here.stateAfter = held here.stateBefore := by
  cases done with
  | silent idle sent =>
    rw [sent] at served
    exact congrArg held served
  | @asked found done deletions asks sent _ deletes =>
    have apart : here.resource.kind ≠ kind := fun same => other ⟨same, asks⟩
    rw [sent] at served
    obtain ⟨_, later⟩ := served
    have asked := keeps.asks here.resource.kind here.resource.name here.stateBefore
    rcases deletes with ⟨_, rfl⟩ | ⟨id, more, answer, _, rfl, _⟩
    · have after : here.stateAfter = (service (query scope here.resource) here.stateBefore).2 :=
        later
      rw [after]
      exact asked
    · obtain ⟨_, after⟩ := later
      have after : here.stateAfter = (service (Scope.deletionRequest here.resource.kind id more)
          (service (query scope here.resource) here.stateBefore).2).2 := after
      rw [after, keeps.apart here.resource.kind id more _ apart]
      exact asked

/-- **Every visit keeps account of what is left.** -/
theorem Leaves.visit {start : σ} (keeps : Keeps service scope kind held)
    (sweeps : kind.isSwept = true) (done : Done options scope tags here)
    (served : Served service here.stateBefore here.exchanges here.stateAfter)
    (leaves : Leaves kind held start here.known here.stateBefore) :
    Leaves kind held start here.knownAfter here.stateAfter := by
  have known := done.mem_knownAfter_iff sweeps
  by_cases sweep : here.resource.kind = kind ∧ Asks options tags here.known here.resource
  · obtain ⟨same, asks⟩ := sweep
    have unswept : kind ∉ here.known := by
      rw [← same]
      rw [← same] at sweeps
      exact fun before => asks.uncleaned ⟨sweeps, before⟩
    refine ⟨fun unknown => absurd (known.mpr (Or.inr ⟨same, asks⟩)) unknown, fun _ => ?_⟩
    rw [card_of_sweep keeps sweeps same asks done served, leaves.untouched unswept]
  · rw [or_iff_left sweep] at known
    refine ⟨fun unswept => ?_, fun swept => ?_⟩
    · rw [held_of_other keeps sweep done served]
      exact leaves.untouched fun before => unswept (known.mpr before)
    · rw [held_of_other keeps sweep done served]
      exact leaves.swept (known.mp swept)

end Step

/-- **What is left along a run.** -/
theorem leaves_visits (service : Service σ) (state : σ) (options : RunOptions) (tags : List String)
    (document : Document) {kind : Kind} {held : σ → Finset String}
    (keeps : Keeps service (options.scope document) kind held) (sweeps : kind.isSwept = true)
    (passes : ∀ here ∈ document.teardownVisits service state options tags,
      here.recorded.action ≠ .failed)
    {before after : List (Visit σ (List Kind))}
    (split : document.teardownVisits service state options tags = before ++ after) :
    Leaves kind held state (Walk.knownAfter [] before) (Walk.stateAfter state before) := by
  refine Walk.visits_induction service _ [] state
    (fun _ known last => Leaves kind held state known last) ?_ ?_ split
  · exact ⟨fun _ => rfl, fun swept => absurd swept List.not_mem_nil⟩
  · intro earlier here later split leaves
    have member : here ∈ document.teardownVisits service state options tags := by
      rw [Document.teardownVisits, split]
      exact List.mem_append_cons_self
    exact leaves.visit keeps sweeps (done_of_mem service state options tags document passes member)
      (Walk.served_of_mem service _ _ _ member)

end Teardown

/-! ### Runs -/

section Run

open Dialogue

/-- **What a sweep leaves.** Let a run send requests, let no resource fail in it, and let a resource
of a swept kind pass the filter. Of what the service holds of the kind, all that is more than 1000
is left: nothing, if there is no more than that. Every resource of the kind after the first that
passes the filter counts as already cleaned, and one more sweep would then find what is left. -/
theorem teardown_sweeps {σ : Type} (service : Service σ) (state : σ) (options : RunOptions)
    (occasion : Occasion) (tags : List String) (document : Document) (kind : Kind)
    (held : σ → Finset String) (sweeps : kind.isSwept = true)
    (keeps : Teardown.Keeps service (options.scope document) kind held)
    (wet : options.dryRun = false)
    (handled : ∃ resource ∈ document.resources, resource.kind = kind ∧
      Teardown.isFilteredOut tags resource = false)
    (passes : ∀ result ∈ (converse service state
      (document.teardown options occasion tags)).result.report.results, result.action ≠ .failed) :
    let run := converse service state (document.teardown options occasion tags)
    let visited := document.teardownVisits service state options tags
    (held run.state).card = (held state).card - 1000 ∧
      (held run.state = ∅ ↔ (held state).card ≤ 1000) ∧
      ∀ before here after, visited = before ++ here :: after → here.resource.kind = kind →
        (here.recorded = .skipped here.resource none "already cleaned" ↔
          Teardown.isFilteredOut tags here.resource = false ∧
            ∃ earlier ∈ before, earlier.resource.kind = kind ∧
              Teardown.isFilteredOut tags earlier.resource = false) ∧
        (here.recorded = .skipped here.resource none "already cleaned" →
          (held here.stateBefore).card = (held state).card - 1000 ∧
            ∀ found, (service ((options.scope document).deletionQuery kind here.resource.name)
              here.stateBefore).1 = .ok found →
                ((options.scope document).targets kind found).length =
                  min 1000 ((held state).card - 1000)) := by
  rw [converse_teardown] at passes ⊢
  dsimp only at passes ⊢
  rw [RunOutcome.report_ofWalk] at passes
  have passed : ∀ here ∈ document.teardownVisits service state options tags,
      here.recorded.action ≠ .failed := fun here member => passes _ (List.mem_map_of_mem member)
  have left : (held (Walk.stateAfter state
      (document.teardownVisits service state options tags))).card =
      (held state).card - 1000 := by
    have whole := (List.append_nil (document.teardownVisits service state options tags)).symm
    have swept := Teardown.swept_visits service state options tags document passed sweeps wet whole
    refine (Teardown.leaves_visits service state options tags document keeps sweeps passed
      whole).swept (swept.mem_iff.mpr ?_)
    obtain ⟨resource, member, same, kept⟩ := handled
    rw [← List.mem_reverse,
      ← Teardown.resources_of_passes service state options tags document passed] at member
    obtain ⟨here, visit, rfl⟩ := List.mem_map.mp member
    exact ⟨here, visit, same, kept⟩
  refine ⟨left, ?_, fun before here after split same => ?_⟩
  · rw [← Finset.card_eq_zero, left]
    omega
  · have member : here ∈ document.teardownVisits service state options tags := by
      rw [split]
      exact List.mem_append_cons_self
    obtain ⟨_, _, _, known, reached, _⟩ := Walk.exists_of_visits_eq_append service _ _ _ split
    have swept := Teardown.swept_visits service state options tags document passed sweeps wet split
    have leaves :=
      Teardown.leaves_visits service state options tags document keeps sweeps passed split
    rw [← known] at swept
    rw [← known, ← reached] at leaves
    have course := Teardown.visit_course service state options _ tags member
    rw [course.cleaned_iff, Teardown.Cleaned, same]
    refine ⟨?_, fun ⟨_, _, _, cleaned⟩ => ?_⟩
    · rw [swept.mem_iff]
      exact ⟨fun ⟨kept, _, _, early⟩ => ⟨kept, early⟩,
        fun ⟨kept, early⟩ => ⟨kept, wet, sweeps, early⟩⟩
    · have card := leaves.swept cleaned
      refine ⟨card, fun found answered => ?_⟩
      rw [Scope.deletionQuery_of_isSwept sweeps] at answered
      rw [(keeps.pages 1000 here.stateBefore found answered).2.2, card]

/-! ### A service with more than a sweep deletes -/

/-- The identifier of a test result with a number, as many letters as it counts. -/
def numberedId (number : ℕ) : String :=
  String.ofList (List.replicate (number + 1) 'r')

/-- How many matches a query asks for. -/
def Request.matchLimit (request : Request) : ℕ :=
  ((request.body.bind (·.field? "take")).bind (·.natural?)).getD 0

/-- The identifiers that the body of a request lists. -/
def Request.carriedIds (request : Request) : List String :=
  (((request.body.bind (·.field? "ids")).bind (·.items?)).getD []).filterMap (·.text?)

/-- A service that holds numbered test results. A query is answered with the first of them, and a
deletion removes those that it names. -/
def depot : Service (Finset ℕ) := fun request numbers =>
  if request.path = "/nitestmonitor/v2/query-results" then
    (.ok (.object [("results", .array (((numbers.sort).take request.matchLimit).map fun number =>
      .object [("id", .string (numberedId number))]))]), numbers)
  else if request.method = .post ∧ request.path = "/nitestmonitor/v2/delete-results" then
    (.ok .null, numbers.filter fun number => numberedId number ∉ request.carriedIds)
  else (.ok .null, numbers)

theorem numberedId_injective : Function.Injective numberedId := by
  intro first second same
  have lengths := congrArg List.length (String.ofList_injective same)
  rw [List.length_replicate, List.length_replicate] at lengths
  omega

theorem idOf?_numberedId (number : ℕ) :
    idOf? (.object [("id", .string (numberedId number))]) = some (numberedId number) := by
  have filled : (numberedId number).isEmpty = false := by
    rw [← Bool.not_eq_true, String.isEmpty_iff, numberedId, String.ofList_eq_empty_iff]
    exact List.cons_ne_nil _ _
  simp only [idOf?, idUnder?, Json.field?, Fields.get?, if_true, filled, Bool.false_eq_true,
    if_false]

theorem depot_pages (numbers : Finset ℕ) (scope : Scope) (filter : Filter) (limit : ℕ)
    (found : Json)
    (answered : (depot (Scope.queryRequest Kind.testResult.endpoint filter limit) numbers).1 =
      .ok found) :
    scope.targets .testResult found = ((numbers.sort).take limit).map numberedId := by
  have page : found = .object [("results", .array (((numbers.sort).take limit).map fun number =>
      .object [("id", .string (numberedId number))]))] := (Except.ok.inj answered).symm
  have entries : entriesUnder "results" found = ((numbers.sort).take limit).map fun number =>
      .object [("id", .string (numberedId number))] := by
    rw [page]
    rfl
  show (entriesUnder "results" found).filterMap idOf? = _
  rw [entries, List.filterMap_map]
  have named : (idOf? ∘ fun number => .object [("id", .string (numberedId number))]) =
      some ∘ numberedId := funext idOf?_numberedId
  rw [named, List.filterMap_eq_map]

theorem depot_of_not_deletion {request : Request} (numbers : Finset ℕ)
    (other : request.method = .post → request.path ≠ "/nitestmonitor/v2/delete-results") :
    (depot request numbers).2 = numbers := by
  unfold depot
  split
  · rfl
  · rw [if_neg fun ⟨posts, path⟩ => other posts path]

theorem depot_removes (id : String) (more : List String) (numbers : Finset ℕ) :
    (depot (Scope.deletionRequest .testResult id more) numbers).2 =
      numbers.filter fun number => numberedId number ∉ id :: more := by
  have carried : (Scope.deletionRequest .testResult id more).carriedIds = id :: more := by
    show ((id :: more).map Json.string).filterMap (·.text?) = id :: more
    rw [List.filterMap_map]
    exact List.filterMap_some
  show numbers.filter (fun number =>
    numberedId number ∉ (Scope.deletionRequest .testResult id more).carriedIds) = _
  rw [carried]

theorem depot_keeps (scope : Scope) :
    Teardown.Keeps depot scope .testResult (Finset.image numberedId) := by
  refine ⟨fun limit numbers found answered => ?_, fun id more numbers _ => ?_,
    fun other name numbers => ?_, fun other id more numbers apart => ?_⟩
  · rw [depot_pages numbers scope _ limit found answered]
    have distinct : ((numbers.sort).take limit).Nodup :=
      (Finset.sort_nodup numbers _).sublist (List.take_sublist _ _)
    refine ⟨distinct.map numberedId_injective, fun id member => ?_, ?_⟩
    · obtain ⟨number, among, rfl⟩ := List.mem_map.mp member
      exact Finset.mem_image_of_mem _ ((Finset.mem_sort _).mp (List.mem_of_mem_take among))
    · rw [List.length_map, List.length_take, Finset.length_sort,
        Finset.card_image_of_injective _ numberedId_injective]
  · rw [depot_removes]
    ext given
    simp only [Finset.mem_image, Finset.mem_filter, Finset.mem_sdiff, List.mem_toFinset]
    constructor
    · rintro ⟨number, ⟨among, left⟩, rfl⟩
      exact ⟨⟨number, among, rfl⟩, left⟩
    · rintro ⟨⟨number, among, rfl⟩, left⟩
      exact ⟨number, ⟨among, left⟩, rfl⟩
  · rw [depot_of_not_deletion]
    intro _ path
    obtain ⟨filter, limit, same⟩ := scope.exists_deletionQuery_eq other name
    rw [same] at path
    exact (Kind.testResult.deletionPath?_ne other).1 (congrArg some path.symm)
  · rw [depot_of_not_deletion]
    intro posts path
    have listed := Scope.deletionPath?_of_post posts
    rw [path] at listed
    cases other with
    | testResult => exact apart rfl
    | _ => exact absurd listed (by decide)

theorem depot_accepts (request : Request) (numbers : Finset ℕ) :
    ∃ answer, (depot request numbers).1 = .ok answer ∧ entriesUnder "failed" answer = [] := by
  unfold depot
  split
  · exact ⟨_, rfl, rfl⟩
  · split
    · exact ⟨_, rfl, rfl⟩
    · exact ⟨_, rfl, rfl⟩

/-- A document with two test results. -/
def measurements : Document where
  formatVersion := "1.0"
  name := "measurements"
  title := "Measurements"
  description := none
  author := none
  tags := []
  setupMinutes := none
  resources := [⟨.testResult, "First", [], "first", []⟩, ⟨.testResult, "Second", [], "second", []⟩]

theorem depot_passes (numbers : Finset ℕ) :
    ∀ here ∈ measurements.teardownVisits depot numbers thoroughly [],
      here.recorded.action ≠ .failed := by
  intro here member failed
  have told := Teardown.visit_told depot numbers thoroughly _ [] member
  obtain ⟨exchange, among, failure, fails⟩ := told.failed_iff.mp failed
  obtain ⟨before, replied⟩ := (Walk.served_of_mem depot _ _ _ member).exists_of_mem among
  obtain ⟨answer, accepted, nothing⟩ := depot_accepts exchange.1 before
  rw [accepted] at replied
  have resource : here.resource.kind = .testResult := by
    have declared := Teardown.mem_resources depot numbers thoroughly [] measurements member
    have all : ∀ resource ∈ measurements.resources, resource.kind = .testResult := by decide
    exact all _ declared
  rw [resource] at fails
  cases fails with
  | answered there => cases replied
  | refused deletes listed found =>
    cases replied
    cases listed
    rw [Scope.deletionProblem?_eq_none_iff.mpr nothing] at found
    cases found

/-- Of 1001 test results one is left, although the second resource counts as already cleaned. -/
theorem teardown_sweeps_crowded :
    let scope := thoroughly.scope measurements
    let held : Finset ℕ → Finset String := Finset.image numberedId
    let run := converse depot (Finset.range 1001) (measurements.teardown thoroughly .epoch [])
    Teardown.Keeps depot scope .testResult held ∧
      (∀ result ∈ run.result.report.results, result.action ≠ .failed) ∧
      (held (Finset.range 1001)).card = 1001 ∧ (held run.state).card = 1 ∧
      ∃ here ∈ measurements.teardownVisits depot (Finset.range 1001) thoroughly [],
        here.recorded = .skipped here.resource none "already cleaned" ∧
        (held here.stateBefore).card = 1 := by
  intro scope held run
  have passes : ∀ result ∈ run.result.report.results, result.action ≠ .failed := by
    show ∀ result ∈ (converse depot (Finset.range 1001)
      (measurements.teardown thoroughly .epoch [])).result.report.results, result.action ≠ .failed
    rw [converse_teardown]
    dsimp only
    rw [RunOutcome.report_ofWalk]
    intro result member
    obtain ⟨here, visit, rfl⟩ := List.mem_map.mp member
    exact depot_passes _ here visit
  have many : (held (Finset.range 1001)).card = 1001 := by
    rw [Finset.card_image_of_injective _ numberedId_injective, Finset.card_range]
  obtain ⟨left, _, visits⟩ := teardown_sweeps depot (Finset.range 1001) thoroughly .epoch []
    measurements .testResult held rfl (depot_keeps scope) rfl
    ⟨_, List.mem_cons_self, rfl, rfl⟩ passes
  have resources := Teardown.resources_of_passes depot (Finset.range 1001) thoroughly []
    measurements (depot_passes _)
  obtain ⟨second, rest, split, visited, others⟩ := List.map_eq_cons_iff.mp resources
  obtain ⟨first, more, same, last, none⟩ := List.map_eq_cons_iff.mp others
  rw [same] at split
  obtain ⟨cleaned, found⟩ := visits [second] first more split (by rw [last])
  have noted := cleaned.mpr ⟨rfl, second, List.mem_singleton_self second, by rw [visited], rfl⟩
  rw [many] at left found
  refine ⟨depot_keeps scope, passes, many, left, first, ?_, noted, (found noted).1⟩
  rw [split]
  exact List.mem_cons_of_mem _ List.mem_cons_self

end Run

end ResourceGraph
