/-
**The visits of a walk.**

Provisioning and teardown walk over resources in the same way: a resource is handled with what is
known from the resources before it, its result is logged, and the walk goes on with what is known
then; a fatal failure ends it. `Walk.along` is that walk for any way to handle a resource, and
`Walk.visits` lists what happened at every resource that was reached.

* `converse_along`: the results, the exchanges and the last state of a walk are those of its visits,
  one after the other;
* `eq_visit_of_mem`: every visit is a conversation of its own;
* `served_of_mem`: its replies are the service's;
* `exists_of_visits_eq_append`: what was known at a visit is what the visits before it left;
* `visits_induction`: what every visit keeps holds along the walk;
* `visits_finished_or_aborted`: either all resources were visited without a fatal failure, or the
  walk ended at the first one; `map_resource_visits` is for a walk that no visit ends;
* `visits_take`: the first visits are those of the first resources;
* `visits_filter`: what is passed over leaves no trace in the visits of the others.
-/

import Mathlib.Data.List.Induction
import ResourceGraph.Proofs.Service.Conversation
import ResourceGraph.Run.Walk

namespace ResourceGraph

variable {σ μ : Type}

/-- A run that starts and ends at the epoch. -/
def Occasion.epoch : Occasion :=
  ⟨⟨⟨0, Nat.two_pow_pos 128⟩⟩, ⟨0, 0, 0⟩, ⟨0, 0, 0⟩⟩

/-- What a run ends with after a walk. -/
def RunOutcome.ofWalk (occasion : Occasion) (operation : Operation) (document : Document)
    (dryRun : Bool) (walk : Walk) : RunOutcome :=
  let report := RunReport.ofWalk occasion operation document dryRun walk
  match walk.cause with
  | some cause => .error ⟨report, cause⟩
  | none => .ok report

/-- The report that is left of a walk, finished or not. -/
theorem RunOutcome.report_ofWalk (occasion : Occasion) (operation : Operation) (document : Document)
    (dryRun : Bool) (walk : Walk) :
    (RunOutcome.ofWalk occasion operation document dryRun walk).report =
      RunReport.ofWalk occasion operation document dryRun walk := by
  unfold RunOutcome.ofWalk
  dsimp only
  split <;> rfl

/-- What comes of a walk is a failure exactly if the walk has a cause. -/
theorem RunOutcome.ofWalk_eq_error_iff {occasion : Occasion} {operation : Operation}
    {document : Document} {dryRun : Bool} {walk : Walk} {abort : Abort} :
    ofWalk occasion operation document dryRun walk = .error abort ↔
      walk.cause = some abort.cause ∧
        abort.report = RunReport.ofWalk occasion operation document dryRun walk := by
  obtain ⟨report, cause⟩ := abort
  unfold ofWalk
  dsimp only
  cases walk.cause with
  | none => simp only [reduceCtorEq, false_and]
  | some other =>
    simp only [Except.error.injEq, Abort.mk.injEq, Option.some.injEq]
    rw [and_comm, @eq_comm _ report]

/-- What happened at one resource of a walk. -/
structure Visit (σ μ : Type) where
  /-- What the resources before left known. -/
  known : μ
  resource : Resource
  exchanges : List Exchange
  /-- The result and what is known then; a failure is fatal. -/
  outcome : Except Failure (ResourceResult × μ)
  stateBefore : σ
  stateAfter : σ

namespace Visit

/-- The fatal failure at the resource, if there was one. -/
def cause? (visit : Visit σ μ) : Option Failure :=
  match visit.outcome with
  | .ok _ => none
  | .error cause => some cause

/-- The result that the walk records of the resource. -/
def recorded (visit : Visit σ μ) : ResourceResult :=
  match visit.outcome with
  | .ok (result, _) => result
  | .error cause => .failed visit.resource cause.describe

/-- What is known after the visit. -/
def knownAfter (visit : Visit σ μ) : μ :=
  match visit.outcome with
  | .ok (_, next) => next
  | .error _ => visit.known

/-- The requests that were sent. -/
def requests (visit : Visit σ μ) : List Request :=
  visit.exchanges.map Prod.fst

end Visit

/-- An element of the parts put together stands in one of the parts. -/
theorem exists_of_flatMap_eq_append {α β : Type} {part : α → List β} {values : List α}
    {before after : List β} {given : β} (split : values.flatMap part = before ++ given :: after) :
    ∃ earlier value later first rest, values = earlier ++ value :: later ∧
      part value = first ++ given :: rest ∧ before = earlier.flatMap part ++ first := by
  induction values generalizing before with
  | nil => simp at split
  | cons value values ih =>
    rw [List.flatMap_cons] at split
    rcases List.append_eq_append_iff.mp split with ⟨more, rfl, later⟩ | ⟨more, same, parts⟩
    · obtain ⟨earlier, found, rest, first, last, rfl, inside, rfl⟩ := ih later
      refine ⟨value :: earlier, found, rest, first, last, rfl, inside, ?_⟩
      rw [List.flatMap_cons, List.append_assoc]
    · -- with nothing left of the first part, the element starts a later one
      cases more with
      | nil =>
        have later : values.flatMap part = [] ++ given :: after := parts.symm
        obtain ⟨earlier, found, rest, first, last, rfl, inside, empty⟩ := ih later
        refine ⟨value :: earlier, found, rest, first, last, rfl, inside, ?_⟩
        rw [List.flatMap_cons, List.append_assoc, ← empty, List.append_nil, same, List.append_nil]
      | cons first rest =>
        obtain ⟨rfl, _⟩ := List.cons.inj parts
        exact ⟨[], value, values, before, rest, rfl, same, rfl⟩

namespace Walk

open Dialogue

/-- The walk over resources that handles each in a given way. -/
def along (handle : μ → Resource → Dialogue (Except Failure (ResourceResult × μ)))
    (entry : ResourceResult → LogEntry) (known : μ) : List Resource → Dialogue Walk
  | [] => return finished
  | resource :: rest => do
    match ← handle known resource with
    | .error cause => abortAt resource cause
    | .ok (result, next) =>
      log (entry result).level (entry result).message
      return (← along handle entry next rest).after result

section Visits

variable (service : Service σ)
  (handle : μ → Resource → Dialogue (Except Failure (ResourceResult × μ)))

/-- The visit of a resource. -/
def visit (known : μ) (state : σ) (resource : Resource) : Visit σ μ :=
  let handled := converse service state (handle known resource)
  ⟨known, resource, handled.exchanges, handled.result, state, handled.state⟩

/-- The visits of a walk, up to the first with a fatal failure. -/
def visits (known : μ) (state : σ) : List Resource → List (Visit σ μ)
  | [] => []
  | resource :: rest =>
    let here := visit service handle known state resource
    here :: if here.cause?.isSome then [] else visits here.knownAfter here.stateAfter rest

/-- The walk that some visits make. -/
def ofVisits (visits : List (Visit σ μ)) : Walk :=
  ⟨visits.map Visit.recorded, visits.findSome? Visit.cause?⟩

/-- The state after some visits. -/
def stateAfter (state : σ) (visits : List (Visit σ μ)) : σ :=
  visits.foldl (fun _ visit => visit.stateAfter) state

/-- What is known after some visits. -/
def knownAfter (known : μ) (visits : List (Visit σ μ)) : μ :=
  visits.foldl (fun _ visit => visit.knownAfter) known

variable (known : μ) (state : σ)

theorem visits_cons_of_none {resource : Resource} {rest : List Resource}
    (goesOn : (visit service handle known state resource).cause? = none) :
    visits service handle known state (resource :: rest) =
      let here := visit service handle known state resource
      here :: visits service handle here.knownAfter here.stateAfter rest := by
  rw [visits]
  simp only [goesOn, Option.isSome_none, Bool.false_eq_true, if_false]

theorem visits_cons_of_some {resource : Resource} {rest : List Resource} {cause : Failure}
    (ends : (visit service handle known state resource).cause? = some cause) :
    visits service handle known state (resource :: rest) =
      [visit service handle known state resource] := by
  rw [visits]
  simp only [ends, Option.isSome_some, if_true]

/-- **A walk is its visits.** -/
theorem converse_along (entry : ResourceResult → LogEntry) (resources : List Resource) :
    converse service state (along handle entry known resources) =
      let visited := visits service handle known state resources
      ⟨ofVisits visited, visited.flatMap Visit.exchanges, stateAfter state visited⟩ := by
  induction resources generalizing known state with
  | nil => rfl
  | cons resource rest ih =>
    rw [along, converse_bind]
    dsimp only
    cases handled : (converse service state (handle known resource)).result with
    | error cause =>
      have ends : (visit service handle known state resource).cause? = some cause := by
        simp only [visit, Visit.cause?, handled]
      rw [visits_cons_of_some service handle known state ends]
      simp only [abortAt, converse_bind, converse_log, converse_pure, ofVisits, aborted, stateAfter,
        List.map_cons, List.map_nil, List.findSome?_cons, List.flatMap_cons, List.flatMap_nil,
        List.foldl_cons, List.foldl_nil, List.append_nil, ends]
      simp only [visit, Visit.recorded, handled]
    | ok pair =>
      obtain ⟨result, next⟩ := pair
      have goesOn : (visit service handle known state resource).cause? = none := by
        simp only [visit, Visit.cause?, handled]
      have knownNext : (visit service handle known state resource).knownAfter = next := by
        simp only [visit, Visit.knownAfter, handled]
      have recorded : (visit service handle known state resource).recorded = result := by
        simp only [visit, Visit.recorded, handled]
      rw [visits_cons_of_none service handle known state goesOn]
      simp only [converse_bind, converse_log, converse_pure, ih, knownNext, ofVisits, after,
        stateAfter, List.map_cons, List.findSome?_cons, List.flatMap_cons, List.foldl_cons,
        List.append_nil, List.nil_append, goesOn, recorded]
      rfl

/-- **Every visit is a conversation of its own.** -/
theorem eq_visit_of_mem {resources : List Resource} {here : Visit σ μ}
    (member : here ∈ visits service handle known state resources) :
    here = visit service handle here.known here.stateBefore here.resource := by
  induction resources generalizing known state with
  | nil => cases member
  | cons resource rest ih =>
    cases ends : (visit service handle known state resource).cause? with
    | some cause =>
      rw [visits_cons_of_some service handle known state ends, List.mem_singleton] at member
      subst member
      rfl
    | none =>
      rw [visits_cons_of_none service handle known state ends] at member
      rcases List.mem_cons.mp member with rfl | later
      · rfl
      · exact ih _ _ later

/-- **What is known at a visit is what the visits before it left.** -/
theorem exists_of_visits_eq_append {resources : List Resource} {before after : List (Visit σ μ)}
    {here : Visit σ μ}
    (split : visits service handle known state resources = before ++ here :: after) :
    ∃ rest, resources = before.map Visit.resource ++ here.resource :: rest ∧
      (∀ earlier ∈ before, earlier.cause? = none) ∧ here.known = knownAfter known before ∧
      here.stateBefore = stateAfter state before ∧
      visits service handle here.known here.stateBefore (here.resource :: rest) =
        here :: after := by
  induction before generalizing known state resources with
  | nil =>
    cases resources with
    | nil => cases split
    | cons resource rest =>
      obtain ⟨rfl, _⟩ := List.cons.inj split
      exact ⟨rest, rfl, List.forall_mem_nil _, rfl, rfl, split⟩
  | cons first before ih =>
    cases resources with
    | nil => cases split
    | cons resource rest =>
      cases ends : (visit service handle known state resource).cause? with
      | some cause =>
        rw [visits_cons_of_some service handle known state ends] at split
        simp at split
      | none =>
        rw [visits_cons_of_none service handle known state ends] at split
        obtain ⟨rfl, later⟩ := List.cons.inj split
        obtain ⟨more, sameRest, goneOn, sameKnown, sameState, same⟩ := ih _ _ later
        refine ⟨more, ?_, List.forall_mem_cons.mpr ⟨ends, goneOn⟩, sameKnown, sameState, same⟩
        rw [sameRest]
        rfl

theorem served_of_mem {resources : List Resource} {here : Visit σ μ}
    (member : here ∈ visits service handle known state resources) :
    Served service here.stateBefore here.exchanges here.stateAfter := by
  rw [eq_visit_of_mem service handle known state member]
  exact served_converse service here.stateBefore (handle here.known here.resource)

/-- **What every visit keeps holds along the walk**, of the visits so far, what is known after them
and the state that they leave. -/
theorem visits_induction {resources : List Resource} (holds : List (Visit σ μ) → μ → σ → Prop)
    (start : holds [] known state)
    (step : ∀ before here after,
      visits service handle known state resources = before ++ here :: after →
        holds before here.known here.stateBefore →
          holds (before ++ [here]) here.knownAfter here.stateAfter)
    {before after : List (Visit σ μ)}
    (split : visits service handle known state resources = before ++ after) :
    holds before (knownAfter known before) (stateAfter state before) := by
  induction before using List.reverseRecOn generalizing after with
  | nil => exact start
  | append_singleton before here ih =>
    rw [List.append_assoc, List.singleton_append] at split
    obtain ⟨_, _, _, sameKnown, sameState, _⟩ :=
      exists_of_visits_eq_append service handle known state split
    have kept := ih split
    rw [← sameKnown, ← sameState] at kept
    unfold knownAfter stateAfter
    rw [List.foldl_append, List.foldl_append]
    exact step before here after split kept

/-- **A walk visits all resources, or it ends at the first fatal failure.** -/
theorem visits_finished_or_aborted (resources : List Resource) :
    let visited := visits service handle known state resources
    (visited.map Visit.resource = resources ∧ ∀ here ∈ visited, here.cause? = none) ∨
      ∃ before last cause rest, visited = before ++ [last] ∧
        resources = before.map Visit.resource ++ last.resource :: rest ∧
        (∀ earlier ∈ before, earlier.cause? = none) ∧ last.cause? = some cause := by
  induction resources generalizing known state with
  | nil => exact Or.inl ⟨rfl, List.forall_mem_nil _⟩
  | cons resource rest ih =>
    cases ends : (visit service handle known state resource).cause? with
    | some cause =>
      rw [visits_cons_of_some service handle known state ends]
      exact Or.inr ⟨[], _, cause, rest, rfl, rfl, List.forall_mem_nil _, ends⟩
    | none =>
      rw [visits_cons_of_none service handle known state ends]
      rcases ih (visit service handle known state resource).knownAfter
        (visit service handle known state resource).stateAfter with
        ⟨all, goneOn⟩ | ⟨before, last, cause, more, split, parts, goneOn, fatal⟩
      · refine Or.inl ⟨?_, List.forall_mem_cons.mpr ⟨ends, goneOn⟩⟩
        rw [List.map_cons, all]
        rfl
      · refine Or.inr ⟨_ :: before, last, cause, more, ?_, ?_,
          List.forall_mem_cons.mpr ⟨ends, goneOn⟩, fatal⟩
        · exact congrArg (List.cons _) split
        · rw [parts, List.map_cons, List.cons_append]
          rfl

/-- **Where no visit ends the walk, it visits all resources.** -/
theorem map_resource_visits {resources : List Resource}
    (goesOn : ∀ here ∈ visits service handle known state resources, here.cause? = none) :
    (visits service handle known state resources).map Visit.resource = resources := by
  rcases visits_finished_or_aborted service handle known state resources with
    ⟨all, _⟩ | ⟨before, last, cause, rest, split, _, _, ends⟩
  · exact all
  · have member : last ∈ visits service handle known state resources := by
      rw [split]
      exact List.mem_concat_self
    rw [goesOn last member] at ends
    cases ends

/-- **The first visits are those of the first resources.** -/
theorem visits_take (resources : List Resource) (count : Nat) :
    visits service handle known state (resources.take count) =
      (visits service handle known state resources).take count := by
  induction resources generalizing known state count with
  | nil => rw [List.take_nil, visits, List.take_nil]
  | cons resource rest ih =>
    cases count with
    | zero => rfl
    | succ count =>
      rw [List.take_succ_cons]
      cases ends : (visit service handle known state resource).cause? with
      | some cause =>
        rw [visits_cons_of_some service handle known state ends,
          visits_cons_of_some service handle known state ends, List.take_succ_cons, List.take_nil]
      | none =>
        rw [visits_cons_of_none service handle known state ends,
          visits_cons_of_none service handle known state ends, List.take_succ_cons]
        exact congrArg (List.cons _) (ih _ _ count)

/-- **What is passed over leaves no trace.** Where one walk passes some resources over without a
word and handles the others as another walk does, its visits of these are the visits of the other
walk over these alone. -/
theorem visits_filter {other : μ → Resource → Dialogue (Except Failure (ResourceResult × μ))}
    {keep : Resource → Bool} {passedOver : Resource → ResourceResult}
    (passes : ∀ known state resource, keep resource = false →
      converse service state (handle known resource) =
        ⟨.ok (passedOver resource, known), [], state⟩)
    (same : ∀ known resource, keep resource = true → handle known resource = other known resource)
    (resources : List Resource) :
    (visits service handle known state resources).filter (fun here => keep here.resource) =
      visits service other known state (resources.filter keep) := by
  induction resources generalizing known state with
  | nil => rfl
  | cons resource rest ih =>
    by_cases kept : keep resource = true
    · have visited : visit service handle known state resource =
          visit service other known state resource := by
        unfold visit
        rw [same known resource kept]
      rw [List.filter_cons_of_pos kept]
      cases ends : (visit service other known state resource).cause? with
      | some cause =>
        rw [visits_cons_of_some service handle known state (visited ▸ ends),
          visits_cons_of_some service other known state ends, visited]
        exact List.filter_cons_of_pos (p := keep ∘ Visit.resource) kept
      | none =>
        rw [visits_cons_of_none service handle known state (visited ▸ ends),
          visits_cons_of_none service other known state ends, visited]
        dsimp only
        rw [← ih]
        exact List.filter_cons_of_pos (p := keep ∘ Visit.resource) kept
    · have visited : visit service handle known state resource =
          ⟨known, resource, [], .ok (passedOver resource, known), state, state⟩ := by
        unfold visit
        rw [passes known state resource (Bool.eq_false_iff.mpr kept)]
      have goesOn : (visit service handle known state resource).cause? = none := by
        rw [visited]
        rfl
      rw [visits_cons_of_none service handle known state goesOn, List.filter_cons_of_neg kept,
        visited, ← ih]
      exact List.filter_cons_of_neg (p := keep ∘ Visit.resource) kept

theorem visits_resources_prefix (resources : List Resource) :
    (visits service handle known state resources).map Visit.resource <+: resources := by
  rcases visits_finished_or_aborted service handle known state resources with
    ⟨all, _⟩ | ⟨before, last, cause, rest, split, parts, _⟩
  · refine ⟨[], ?_⟩
    rw [all, List.append_nil]
  · refine ⟨rest, ?_⟩
    rw [split, parts, List.map_append, List.append_assoc]
    rfl

end Visits

end Walk

end ResourceGraph
