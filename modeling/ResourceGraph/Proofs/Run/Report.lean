/-
**What a run reports.**

A run reports one result for each resource that it visited, in the order of the visits. A result is
well-formed when it carries what its action promises: an identifier that is not empty, an error, or
a note. A run is aborted by the first fatal reply, which is then the last reply of all.

* `ResourceResult.Records`, `ResourceResult.WellFormed`: what a result says of its resource;
* `FatallyAnswered`: an exchange that ends a run;
* `Visit.Sound`: a visit whose result is well-formed and that ends the walk exactly at a fatal
  reply;
* `RunOutcome.Concludes`: what a run ends with, given what was exchanged;
  `RunOutcome.Concludes.last_of_fatal` says that nothing is exchanged after a fatal reply;
* `concludes_visits`: a walk of sound visits concludes in this way.
-/

import Mathlib.Data.List.Forall2
import ResourceGraph.Proofs.Run.Visits

namespace ResourceGraph

/-! ### Results -/

namespace ResourceResult

/-- The result is about the resource. -/
structure Records (result : ResourceResult) (resource : Resource) : Prop where
  reference : result.reference = resource.reference
  kind : result.kind = resource.kind
  name : result.resourceName = resource.name

/-- The result carries what its action promises. -/
def WellFormed (result : ResourceResult) : Prop :=
  match result.action with
  | .created => (∃ id, result.serverId = some id ∧ id ≠ "") ∧ result.error = none
  | .deleted => (∃ id, result.serverId = some id ∧ id ≠ "") ∧ result.error = none
  | .skipped => result.note.isSome ∧ ∀ id, result.serverId = some id → id ≠ ""
  | .failed => result.error.isSome ∧ result.serverId = none

variable (resource : Resource)

theorem created_wellFormed {id : String} (named : id ≠ "") : (created resource id).WellFormed :=
  ⟨⟨id, rfl, named⟩, rfl⟩

theorem skipped_wellFormed {id : Option String} (note : String)
    (named : ∀ given, id = some given → given ≠ "") : (skipped resource id note).WellFormed :=
  ⟨rfl, named⟩

theorem failed_wellFormed (error : String) : (failed resource error).WellFormed :=
  ⟨rfl, rfl⟩

end ResourceResult

/-- The counts of three actions add up when no other action occurs. -/
theorem RunReport.count_add_count_add_count {report : RunReport} {main : Action}
    (distinct : main ≠ .skipped ∧ main ≠ .failed)
    (only : ∀ result ∈ report.results,
      result.action = main ∨ result.action = .skipped ∨ result.action = .failed) :
    report.count main + report.count .skipped + report.count .failed = report.results.length := by
  unfold RunReport.count
  revert only
  induction report.results with
  | nil => exact fun _ => rfl
  | cons result rest ih =>
    intro only
    obtain ⟨here, later⟩ := List.forall_mem_cons.mp only
    have counted := ih later
    simp only [List.countP_cons, List.length_cons, beq_iff_eq]
    rcases here with main | skipped | failed
    · simp only [main, if_true, if_neg distinct.1, if_neg distinct.2]
      omega
    · simp only [skipped, if_true, if_neg (Ne.symm distinct.1), reduceCtorEq, if_false]
      omega
    · simp only [failed, if_true, if_neg (Ne.symm distinct.2), reduceCtorEq, if_false]
      omega

/-! ### Fatal replies -/

/-- Rejected credentials and internal failures end a run. -/
def Failure.EndsRun (failure : Failure) : Prop :=
  (∃ message, failure = .service (.unauthorized message)) ∨ ∃ message, failure = .internal message

theorem Failure.isFatal_iff_endsRun {failure : Failure} :
    failure.isFatal = true ↔ failure.EndsRun := by
  unfold Failure.EndsRun
  constructor
  · intro fatal
    unfold Failure.isFatal at fatal
    split at fatal
    · exact Or.inl ⟨_, rfl⟩
    · exact Or.inr ⟨_, rfl⟩
    · cases fatal
  · rintro (⟨message, rfl⟩ | ⟨message, rfl⟩) <;> rfl

/-- The exchange ends a run. -/
def FatallyAnswered (exchange : Exchange) : Prop :=
  ∃ failure, exchange.2 = .error failure ∧ failure.EndsRun

theorem not_fatallyAnswered_ok (request : Request) (value : Json) :
    ¬ FatallyAnswered (request, .ok value) := by
  rintro ⟨failure, answered, _⟩
  cases answered

theorem fatallyAnswered_error {request : Request} {failure : Failure} :
    FatallyAnswered (request, .error failure) ↔ failure.EndsRun := by
  constructor
  · rintro ⟨other, answered, ends⟩
    cases answered
    exact ends
  · exact fun ends => ⟨failure, rfl, ends⟩

/-- What only the last value of a list can be, nothing follows. -/
theorem last_of_forall_not {α : Type} {holds : α → Prop} {earlier before after : List α}
    {last here : α} (none : ∀ value ∈ earlier, ¬ holds value)
    (split : earlier ++ [last] = before ++ here :: after) (given : holds here) :
    after = [] ∧ here = last := by
  rcases List.eq_nil_or_concat after with rfl | ⟨rest, final, rfl⟩
  · obtain ⟨_, same⟩ := List.append_inj' split rfl
    exact ⟨rfl, (List.cons.inj same).1.symm⟩
  · rw [List.concat_eq_append, ← List.cons_append, ← List.append_assoc] at split
    have among : here ∈ earlier := by
      rw [(List.append_inj' split rfl).1]
      exact List.mem_append_right _ List.mem_cons_self
    exact absurd given (none here among)

/-! ### Conclusions -/

/-- **What a run over resources ends with**, given what was exchanged: either every resource has its
result and no reply was fatal, or the last reply of all was the first fatal one and the resource
that was being handled has the last result. -/
inductive RunOutcome.Concludes (sentFor : Resource → Request → Prop) (resources : List Resource)
    (exchanges : List Exchange) : RunOutcome → Prop where
  | finished {report : RunReport}
      (each : List.Forall₂ ResourceResult.Records report.results resources)
      (passes : ∀ exchange ∈ exchanges, ¬ FatallyAnswered exchange) :
      Concludes sentFor resources exchanges (.ok report)
  | aborted {report : RunReport} {cause : Failure} {before after : List Resource}
      {resource : Resource} {results : List ResourceResult} {last : ResourceResult}
      {earlier : List Exchange} {request : Request}
      (parts : resources = before ++ resource :: after)
      (recorded : report.results = results ++ [last])
      (each : List.Forall₂ ResourceResult.Records results before)
      (ofLast : last.Records resource) (failed : last.action = .failed)
      (sent : sentFor resource request) (fatal : cause.EndsRun)
      (ends : exchanges = earlier ++ [(request, .error cause)])
      (passes : ∀ exchange ∈ earlier, ¬ FatallyAnswered exchange) :
      Concludes sentFor resources exchanges (.error ⟨report, cause⟩)

/-- A run is aborted exactly if some reply was fatal. -/
theorem RunOutcome.Concludes.aborted_iff {sentFor : Resource → Request → Prop}
    {resources : List Resource} {exchanges : List Exchange} {outcome : RunOutcome}
    (concludes : outcome.Concludes sentFor resources exchanges) :
    (∃ abort, outcome = .error abort) ↔ ∃ exchange ∈ exchanges, FatallyAnswered exchange := by
  cases concludes with
  | finished each passes =>
    constructor
    · rintro ⟨abort, same⟩
      cases same
    · rintro ⟨exchange, member, fatal⟩
      exact absurd fatal (passes exchange member)
  | @aborted report cause _ _ _ _ _ _ request parts recorded each ofLast failed sent fatal ends
      passes =>
    refine ⟨fun _ => ⟨(request, .error cause), ?_, fatallyAnswered_error.mpr fatal⟩,
      fun _ => ⟨⟨report, cause⟩, rfl⟩⟩
    rw [ends]
    exact List.mem_append_right _ (List.mem_singleton_self _)

/-- **Nothing is exchanged after a fatal reply**, and the run is aborted with its failure. -/
theorem RunOutcome.Concludes.last_of_fatal {sentFor : Resource → Request → Prop}
    {resources : List Resource} {exchanges : List Exchange} {outcome : RunOutcome}
    (concludes : outcome.Concludes sentFor resources exchanges) {before after : List Exchange}
    {here : Exchange} (split : exchanges = before ++ here :: after) (fatal : FatallyAnswered here) :
    after = [] ∧ ∃ report cause, outcome = .error ⟨report, cause⟩ ∧ here.2 = .error cause := by
  cases concludes with
  | finished each passes =>
    have member : here ∈ exchanges := by
      rw [split]
      exact List.mem_append_right _ List.mem_cons_self
    exact absurd fatal (passes here member)
  | aborted parts recorded each ofLast failed sent ending ends passes =>
    obtain ⟨nothing, same⟩ := last_of_forall_not passes (ends.symm.trans split) fatal
    exact ⟨nothing, _, _, rfl, congrArg Prod.snd same⟩

/-! ### Sound visits -/

variable {σ μ : Type}

/-- A visit with a well-formed result that ends the walk exactly when a reply was fatal, which is
then its last one. -/
structure Visit.Sound (here : Visit σ μ) : Prop where
  records : here.recorded.Records here.resource
  wellFormed : here.recorded.WellFormed
  passes : here.cause? = none → ∀ exchange ∈ here.exchanges, ¬ FatallyAnswered exchange
  ends : ∀ cause, here.cause? = some cause → cause.EndsRun ∧ ∃ earlier request,
    here.exchanges = earlier ++ [(request, .error cause)] ∧
      ∀ exchange ∈ earlier, ¬ FatallyAnswered exchange

theorem Visit.recorded_of_cause {here : Visit σ μ} {cause : Failure}
    (ends : here.cause? = some cause) :
    here.recorded = .failed here.resource cause.describe := by
  unfold Visit.cause? at ends
  unfold Visit.recorded
  cases reached : here.outcome with
  | ok pair =>
    rw [reached] at ends
    cases ends
  | error other =>
    rw [reached] at ends
    cases ends
    rfl

variable {visited : List (Visit σ μ)}

theorem forall₂_records (sound : ∀ here ∈ visited, here.Sound) :
    List.Forall₂ ResourceResult.Records (visited.map Visit.recorded)
      (visited.map Visit.resource) := by
  rw [List.forall₂_map_left_iff, List.forall₂_map_right_iff, List.forall₂_same]
  exact fun here member => (sound here member).records

theorem not_fatallyAnswered_of_mem (sound : ∀ here ∈ visited, here.Sound)
    (goesOn : ∀ here ∈ visited, here.cause? = none) :
    ∀ exchange ∈ visited.flatMap Visit.exchanges, ¬ FatallyAnswered exchange := by
  intro exchange member
  obtain ⟨here, visit, exchanged⟩ := List.mem_flatMap.mp member
  exact (sound here visit).passes (goesOn here visit) exchange exchanged

/-- **A walk of sound visits concludes.** -/
theorem concludes_visits (service : Service σ)
    (handle : μ → Resource → Dialogue (Except Failure (ResourceResult × μ)))
    (known : μ) (state : σ) (resources : List Resource) {sentFor : Resource → Request → Prop}
    (sound : ∀ here ∈ Walk.visits service handle known state resources, here.Sound)
    (sent : ∀ here ∈ Walk.visits service handle known state resources,
      ∀ request ∈ here.requests, sentFor here.resource request)
    (occasion : Occasion) (operation : Operation) (document : Document) (dryRun : Bool) :
    let visited := Walk.visits service handle known state resources
    (RunOutcome.ofWalk occasion operation document dryRun (Walk.ofVisits visited)).Concludes
      sentFor resources (visited.flatMap Visit.exchanges) := by
  rcases Walk.visits_finished_or_aborted service handle known state resources with
    ⟨all, goesOn⟩ | ⟨before, last, cause, after, visited, parts, goesOn, ends⟩
  · have noCause : (Walk.ofVisits (Walk.visits service handle known state resources)).cause =
        none := List.findSome?_eq_none_iff.mpr goesOn
    dsimp only
    rw [RunOutcome.ofWalk, noCause]
    refine .finished ?_ (not_fatallyAnswered_of_mem sound goesOn)
    exact (congrArg (List.Forall₂ _ _) all).mp (forall₂_records sound)
  · dsimp only
    rw [visited] at sound sent ⊢
    obtain ⟨soundBefore, soundLast⟩ := List.forall_mem_append.mp sound
    have lastSound := soundLast last (List.mem_singleton_self _)
    obtain ⟨fatal, earlier, request, exchanged, passes⟩ := lastSound.ends cause ends
    have itsCause : (Walk.ofVisits (before ++ [last])).cause = some cause := by
      simp only [Walk.ofVisits, List.findSome?_append, List.findSome?_eq_none_iff.mpr goesOn,
        List.findSome?_cons, ends, Option.none_or]
    have endsThere : (before ++ [last]).flatMap Visit.exchanges =
        (before.flatMap Visit.exchanges ++ earlier) ++ [(request, .error cause)] := by
      rw [List.flatMap_append, List.flatMap_singleton, exchanged, List.append_assoc]
    rw [RunOutcome.ofWalk, itsCause]
    refine .aborted parts ?_ (forall₂_records soundBefore) lastSound.records ?_ ?_ fatal
      endsThere ?_
    · exact List.map_append
    · rw [Visit.recorded_of_cause ends]
      rfl
    · refine sent last (List.mem_append_right _ (List.mem_singleton_self _)) request ?_
      rw [Visit.requests, exchanged, List.map_append]
      exact List.mem_append_right _ (List.mem_singleton_self _)
    · exact List.forall_mem_append.mpr ⟨not_fatallyAnswered_of_mem soundBefore goesOn, passes⟩

end ResourceGraph
