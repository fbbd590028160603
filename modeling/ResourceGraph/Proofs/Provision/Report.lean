/-
**What provisioning reports.**

Provisioning ends with a report of one result for each resource in declared order, unless a reply is
fatal: then that reply is the last one, and the report ends with the resource that was being
handled. Whatever the service replies, every result is well-formed, and none says that something was
deleted.

* `creationOutcome_eq_error_iff`: a creation ends the run exactly at a fatal reply;
* `Course.result`, `Course.passes`, `Course.ends`: what comes of each course;
* `visit_sound`: every visit is sound, and so a run concludes as it should.
-/

import ResourceGraph.Proofs.Provision.Course
import ResourceGraph.Proofs.Run.Report

namespace ResourceGraph

namespace Provision

open Dialogue

/-- The request looks the resource up or creates it. -/
def IsFor (scope : Scope) (resource : Resource) (request : Request) : Prop :=
  request = lookup scope resource ∨ ∃ properties,
    request = scope.createRequest resource.kind.endpoint resource.name properties

/-! ### What comes of a creation -/

theorem not_isFatal_of_ofFailure {failure : Failure} {outcome : CreateOutcome}
    (handled : CreateOutcome.ofFailure failure = .ok outcome) : failure.isFatal = false := by
  unfold CreateOutcome.ofFailure at handled
  split at handled
  · rename_i failed
    cases failed with
    | unauthorized message => cases handled
    | _ => rfl
  · cases handled

theorem eq_of_ofFailure_eq_error {failure other : Failure}
    (raised : CreateOutcome.ofFailure failure = .error other) : other = failure := by
  unfold CreateOutcome.ofFailure at raised
  split at raised
  · split at raised
    · cases raised
    · cases raised
      rfl
  · cases raised
    rfl

/-- **A creation ends the run exactly at a fatal reply.** -/
theorem creationOutcome_eq_error_iff {resource : Resource} {reply : Reply} {cause : Failure} :
    creationOutcome resource reply = .error cause ↔ reply = .error cause ∧ cause.EndsRun := by
  cases reply with
  | ok value =>
    constructor
    · intro raised
      cases raised
    · rintro ⟨raised, _⟩
      cases raised
  | error failure =>
    cases handled : CreateOutcome.ofFailure failure with
    | ok outcome =>
      have passing := not_isFatal_of_ofFailure handled
      have result : creationOutcome resource (.error failure) =
          .ok (resultOf resource outcome) := by
        simp only [creationOutcome, Scope.outcomeOf, handled]
      rw [result]
      constructor
      · intro raised
        cases raised
      · rintro ⟨same, fatal⟩
        cases same
        rw [Failure.isFatal_iff_endsRun.mpr fatal] at passing
        cases passing
    | error other =>
      obtain rfl := eq_of_ofFailure_eq_error handled
      have settled : creationOutcome resource (.error other) =
          settle resource other other.describe := by
        simp only [creationOutcome, Scope.outcomeOf, handled]
      rw [settled, settle]
      by_cases fatal : other.isFatal = true
      · rw [if_pos fatal, Except.error.injEq]
        constructor
        · rintro rfl
          exact ⟨rfl, Failure.isFatal_iff_endsRun.mp fatal⟩
        · exact fun ends => Except.error.inj ends.1
      · rw [if_neg fatal]
        constructor
        · intro raised
          cases raised
        · rintro ⟨same, ends⟩
          cases same
          exact absurd (Failure.isFatal_iff_endsRun.mpr ends) fatal

theorem resultOf_wellFormed (resource : Resource) {outcome : CreateOutcome}
    (named : outcome.IsNamed) : (resultOf resource outcome).WellFormed := by
  cases outcome with
  | created id => exact ResourceResult.created_wellFormed resource named
  | duplicateFound id =>
    refine ResourceResult.skipped_wellFormed resource _ fun given same => ?_
    cases same
    exact named
  | duplicateUnresolved =>
    exact ResourceResult.skipped_wellFormed resource _ fun given same => by cases same
  | failed reason => exact ResourceResult.failed_wellFormed resource reason

theorem creationOutcome_result {resource : Resource} {reply : Reply} {result : ResourceResult}
    (passes : creationOutcome resource reply = .ok result) :
    result.Records resource ∧ result.WellFormed ∧ result.action ≠ .deleted := by
  unfold creationOutcome at passes
  split at passes
  · rename_i outcome handled
    cases passes
    refine ⟨?_, resultOf_wellFormed resource (Scope.outcomeOf_isNamed handled), ?_⟩
    · cases outcome <;> exact ⟨rfl, rfl, rfl⟩
    · cases outcome <;> exact Action.noConfusion
  · unfold settle at passes
    split at passes
    · cases passes
    · cases passes
      exact ⟨⟨rfl, rfl, rfl⟩, ResourceResult.failed_wellFormed resource _, Action.noConfusion⟩

/-! ### What comes of a course -/

section Course

variable {options : RunOptions} {scope : Scope} {ids : Identifiers} {resource : Resource}
  {exchanges : List Exchange} {outcome : Except Failure ResourceResult}

/-- The result of a course is well-formed, and it is about the resource. -/
theorem Course.result {result : ResourceResult}
    (course : Course options scope ids resource exchanges (.ok result)) :
    result.Records resource ∧ result.WellFormed ∧ result.action ≠ .deleted := by
  generalize reached : Except.ok result = outcome at course
  cases course with
  | heldBack held =>
    cases reached
    exact ⟨⟨rfl, rfl, rfl⟩, ResourceResult.failed_wellFormed resource _, Action.noConfusion⟩
  | dryRun free dry =>
    cases reached
    refine ⟨⟨rfl, rfl, rfl⟩, ?_, Action.noConfusion⟩
    exact ResourceResult.skipped_wellFormed resource _ fun given same => by cases same
  | «exists» asks finds =>
    cases reached
    refine ⟨⟨rfl, rfl, rfl⟩, ?_, Action.noConfusion⟩
    refine ResourceResult.skipped_wellFormed resource _ fun given same => ?_
    cases same
    exact finds.ne_empty
  | lookupFatal asks fatal => cases reached
  | lookupFailed asks passing policy =>
    cases reached
    exact ⟨⟨rfl, rfl, rfl⟩, ResourceResult.failed_wellFormed resource _, Action.noConfusion⟩
  | creates asks missing => exact creationOutcome_result reached.symm

theorem LooksMissing.not_fatallyAnswered {reply : Reply} {request : Request}
    (missing : LooksMissing options scope resource reply) :
    ¬ FatallyAnswered (request, reply) := by
  cases reply with
  | ok found => exact not_fatallyAnswered_ok request found
  | error failure =>
    rw [fatallyAnswered_error, ← Failure.isFatal_iff_endsRun, missing.1]
    exact Bool.false_ne_true

/-- A course with a result has no fatal reply. -/
theorem Course.passes {result : ResourceResult}
    (course : Course options scope ids resource exchanges (.ok result)) :
    ∀ exchange ∈ exchanges, ¬ FatallyAnswered exchange := by
  generalize reached : Except.ok result = outcome at course
  cases course with
  | heldBack held => exact List.forall_mem_nil _
  | dryRun free dry => exact List.forall_mem_nil _
  | «exists» asks finds =>
    exact List.forall_mem_singleton.mpr (not_fatallyAnswered_ok _ _)
  | lookupFatal asks fatal => cases reached
  | lookupFailed asks passing policy =>
    rw [List.forall_mem_singleton, fatallyAnswered_error, ← Failure.isFatal_iff_endsRun, passing]
    exact Bool.false_ne_true
  | creates asks missing =>
    refine List.forall_mem_cons.mpr ⟨missing.not_fatallyAnswered,
      List.forall_mem_singleton.mpr ?_⟩
    rintro ⟨failure, answered, fatal⟩
    rw [creationOutcome_eq_error_iff.mpr ⟨answered, fatal⟩] at reached
    cases reached

/-- A course with a fatal failure ends with the first fatal reply. -/
theorem Course.ends {cause : Failure}
    (course : Course options scope ids resource exchanges (.error cause)) :
    cause.EndsRun ∧ ∃ earlier request, exchanges = earlier ++ [(request, .error cause)] ∧
      ∀ exchange ∈ earlier, ¬ FatallyAnswered exchange := by
  generalize reached : Except.error cause = outcome at course
  cases course with
  | heldBack held => cases reached
  | dryRun free dry => cases reached
  | «exists» asks finds => cases reached
  | lookupFatal asks fatal =>
    cases reached
    exact ⟨Failure.isFatal_iff_endsRun.mp fatal, [], _, rfl, List.forall_mem_nil _⟩
  | lookupFailed asks passing policy => cases reached
  | creates asks missing =>
    obtain ⟨rfl, fatal⟩ := creationOutcome_eq_error_iff.mp reached.symm
    exact ⟨fatal, [_], _, rfl, List.forall_mem_singleton.mpr missing.not_fatallyAnswered⟩

theorem Course.isFor (course : Course options scope ids resource exchanges outcome) :
    ∀ request ∈ exchanges.map Prod.fst, IsFor scope resource request := by
  intro request sent
  rcases course.requests with none | one | both
  · rw [none] at sent
    cases sent
  · rw [one, List.mem_singleton] at sent
    exact Or.inl sent
  · rw [both] at sent
    rcases List.mem_cons.mp sent with rfl | later
    · exact Or.inl rfl
    · exact Or.inr ⟨_, List.mem_singleton.mp later⟩

end Course

/-! ### Visits -/

section Visits

variable {σ : Type} (service : Service σ) (state : σ) (options : RunOptions) (document : Document)
  {here : Visit σ Identifiers}

/-- **Every visit of a run is sound**, and nothing is said to be deleted. -/
theorem visit_sound (member : here ∈ document.provisionVisits service state options) :
    here.Sound ∧ here.recorded.action ≠ .deleted := by
  obtain ⟨outcome, course, same⟩ := visit_course service state options _ member
  cases outcome with
  | ok result =>
    obtain ⟨records, wellFormed, kept⟩ := course.result
    have goesOn := cause?_of_reached_ok same
    rw [← recorded_of_reached same] at records wellFormed kept
    refine ⟨⟨records, wellFormed, fun _ => course.passes, fun cause ends => ?_⟩, kept⟩
    rw [goesOn] at ends
    cases ends
  | error cause =>
    have ends := cause?_of_reached_error same
    have recorded := Visit.recorded_of_cause ends
    refine ⟨⟨?_, ?_, fun goesOn => ?_, fun other found => ?_⟩, ?_⟩
    · rw [recorded]
      exact ⟨rfl, rfl, rfl⟩
    · rw [recorded]
      exact ResourceResult.failed_wellFormed _ _
    · rw [ends] at goesOn
      cases goesOn
    · rw [ends] at found
      cases found
      exact course.ends
    · rw [recorded]
      exact Action.noConfusion

theorem visit_isFor (member : here ∈ document.provisionVisits service state options) :
    ∀ request ∈ here.requests, IsFor (options.scope document) here.resource request := by
  obtain ⟨outcome, course, _⟩ := visit_course service state options _ member
  exact course.isFor

end Visits

end Provision

/-! ### Runs -/

section Run

open Dialogue

/-- **What provisioning ends with.** Whatever the service replies, the run ends with a finished
report of one result for each resource in order, or it is aborted at the first fatal reply, which is
the last one, with a finished report up to the resource that was being handled. All results are
well-formed, and the counts of the summary add up to their number. -/
theorem provision_concludes {σ : Type} (service : Service σ) (state : σ) (options : RunOptions)
    (occasion : Occasion) (document : Document) :
    let run := converse service state (document.provision options occasion)
    let report := run.result.report
    run.result.Concludes (Provision.IsFor (options.scope document)) document.resources
        run.exchanges ∧
      ((∃ abort, run.result = .error abort) ↔
        ∃ exchange ∈ run.exchanges, FatallyAnswered exchange) ∧
      report.finishedAt = some occasion.finishedAt ∧
      (∀ result ∈ report.results, result.WellFormed ∧ result.action ≠ .deleted) ∧
      report.summary = toString (report.count .created) ++ " created, " ++
        toString (report.count .skipped) ++ " skipped, " ++
        toString (report.count .failed) ++ " failed" ∧
      report.count .created + report.count .skipped + report.count .failed =
        report.results.length := by
  have sound := fun here => @Provision.visit_sound σ service state options document here
  rw [converse_provision]
  dsimp only
  have concludes := concludes_visits service (Provision.step options (options.scope document))
    .empty state document.resources (fun here member => (sound here member).1)
    (fun here member => Provision.visit_isFor service state options document member)
    occasion .provision document options.dryRun
  have results : ∀ result ∈ (document.provisionVisits service state options).map Visit.recorded,
      result.WellFormed ∧ result.action ≠ .deleted := by
    intro result member
    obtain ⟨here, visit, rfl⟩ := List.mem_map.mp member
    exact ⟨(sound here visit).1.wellFormed, (sound here visit).2⟩
  rw [RunOutcome.report_ofWalk]
  refine ⟨concludes, concludes.aborted_iff, rfl, results, ?_, ?_⟩
  · simp only [RunReport.summary, RunReport.ofWalk, RunReport.start, RunReport.mainAction,
      Action.name, String.append_assoc]
    rfl
  · refine RunReport.count_add_count_add_count ⟨Action.noConfusion, Action.noConfusion⟩ ?_
    intro result member
    have kept := (results result member).2
    cases action : result.action with
    | created => exact Or.inl rfl
    | skipped => exact Or.inr (Or.inl rfl)
    | failed => exact Or.inr (Or.inr rfl)
    | deleted => exact absurd action kept

end Run

end ResourceGraph
