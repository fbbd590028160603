/-
**What teardown reports.**

Teardown ends with a report of one result for each resource in reverse declared order, unless a
reply is fatal: then that reply is the last one, and the report ends with the resource that was
being handled. Whatever else goes wrong at a resource becomes its result and nobody else's.

* `Teardown.Fails`: what goes wrong in an exchange: a reply that is a failure, unless it says that
  there was nothing at the path of a deletion, or one that lists what was not deleted;
* `deletionOutcome_eq_error_iff`: a deletion fails exactly where its exchange does;
* `visit_told`: a visit passes with all its exchanges, or it fails with the last one;
* `visit_sound`: so every visit is sound, and a run concludes as it should.
-/

import ResourceGraph.Proofs.Run.Report
import ResourceGraph.Proofs.Teardown.Deletions

namespace ResourceGraph

namespace Teardown

open Dialogue

/-! ### What goes wrong in an exchange -/

/-- A deletion at a path found nothing there. -/
def Gone (exchange : Exchange) : Prop :=
  exchange.1.method = .delete ∧
    ∃ message body, exchange.2 = .error (.service (.refused 404 message body))

/-- The exchange goes wrong with the failure: it was answered with it, or the reply to a deletion
lists what was not deleted. -/
inductive Fails (kind : Kind) : Exchange → Failure → Prop where
  | answered {request : Request} {failure : Failure} (there : ¬ Gone (request, .error failure)) :
      Fails kind (request, .error failure) failure
  | refused {request : Request} {answer : Json} {failed : String} {problem : Failure}
      (deletes : request.IsDeletion) (listed : Scope.failedKey? kind = some failed)
      (found : deletionProblem? failed answer = some problem) :
      Fails kind (request, .ok answer) problem

theorem isMissing_iff {failure : Failure} : Scope.isMissing failure = true ↔
    ∃ message body, failure = .service (.refused 404 message body) := by
  constructor
  · intro missing
    cases failure with
    | service failed =>
      have status := eq_of_beq missing
      cases failed with
      | refused status message body =>
        cases status
        exact ⟨message, body, rfl⟩
      | _ => cases status
    | _ => cases missing
  · rintro ⟨message, body, rfl⟩
    rfl

theorem not_gone_post {path : String} {body : Json} {reply : Reply} :
    ¬ Gone (.post path body, reply) := by
  rintro ⟨method, _⟩
  cases method

/-- What a reply to a deletion lists is no reason to end a run. -/
theorem not_endsRun_of_deletionProblem? {failed : String} {answer : Json} {problem : Failure}
    (found : deletionProblem? failed answer = some problem) : ¬ problem.EndsRun := by
  unfold deletionProblem? at found
  split at found
  · cases found
  · cases found
    rintro (⟨message, same⟩ | ⟨message, same⟩) <;> cases same

/-- **A fatal reply** is what goes wrong fatally. -/
theorem fatallyAnswered_iff (kind : Kind) {exchange : Exchange} :
    FatallyAnswered exchange ↔ ∃ failure, Fails kind exchange failure ∧ failure.EndsRun := by
  constructor
  · obtain ⟨request, reply⟩ := exchange
    rintro ⟨failure, rfl, ends⟩
    refine ⟨failure, .answered ?_, ends⟩
    rintro ⟨_, message, body, same⟩
    cases same
    rcases ends with ⟨_, impossible⟩ | ⟨_, impossible⟩ <;> cases impossible
  · rintro ⟨failure, fails, ends⟩
    cases fails with
    | answered there => exact fatallyAnswered_error.mpr ends
    | refused deletes listed found => exact absurd ends (not_endsRun_of_deletionProblem? found)

/-! ### Deletions that fail -/

theorem isDeletion_deletionRequest (kind : Kind) (id : String) (more : List String) :
    (Scope.deletionRequest kind id more).IsDeletion := by
  unfold Scope.deletionRequest
  cases manner : kind.endpoint.deletion with
  | atPath collection => exact Or.inl rfl
  | posted path idsKey constants failed =>
    refine Or.inr ⟨kind, ?_⟩
    simp only [Kind.deletionPath?, manner, Request.post]
  | sweep path failed limit =>
    refine Or.inr ⟨kind, ?_⟩
    simp only [Kind.deletionPath?, manner, Request.post]

/-- A posted deletion fails with its reply or with what the reply lists. -/
theorem posted_eq_error_iff {kind : Kind} {path failed : String} {body : Json} {reply : Reply}
    {outcome : DeleteOutcome} {failure : Failure} (listed : Scope.failedKey? kind = some failed)
    (deletes : (Request.post path body).IsDeletion) :
    (reply.bind fun answer => (deletionProblem? failed answer).elim (.ok outcome) .error) =
        .error failure ↔
      Fails kind (.post path body, reply) failure := by
  cases reply with
  | error other =>
    constructor
    · intro same
      cases same
      exact .answered not_gone_post
    · intro fails
      cases fails
      rfl
  | ok answer =>
    rw [Except.bind]
    constructor
    · intro raised
      cases found : deletionProblem? failed answer with
      | none =>
        rw [found] at raised
        cases raised
      | some problem =>
        rw [found] at raised
        cases raised
        exact .refused deletes listed found
    · intro fails
      cases fails with
      | refused _ also found =>
        rw [listed] at also
        cases also
        rw [found]
        rfl

/-- **A deletion fails exactly where its exchange goes wrong.** -/
theorem deletionOutcome_eq_error_iff {kind : Kind} {id : String} {more : List String}
    {reply : Reply} {failure : Failure} :
    Scope.deletionOutcome kind id more reply = .error failure ↔
      Fails kind (Scope.deletionRequest kind id more, reply) failure := by
  have deletes := isDeletion_deletionRequest kind id more
  unfold Scope.deletionOutcome
  unfold Scope.deletionRequest at deletes ⊢
  cases manner : kind.endpoint.deletion with
  | atPath collection =>
    have unlisted : Scope.failedKey? kind = none := by
      simp only [Scope.failedKey?, manner]
    dsimp only
    cases reply with
    | ok answer =>
      refine iff_of_false (fun same => by cases same) fun fails => ?_
      cases fails with
      | refused _ listed _ =>
        rw [unlisted] at listed
        cases listed
    | error other =>
      dsimp only
      by_cases missing : Scope.isMissing other = true
      · rw [if_pos missing]
        refine iff_of_false (fun same => by cases same) fun fails => ?_
        obtain ⟨message, body, rfl⟩ := isMissing_iff.mp missing
        cases fails with
        | answered there => exact there ⟨rfl, message, body, rfl⟩
      · rw [if_neg missing, Except.error.injEq]
        constructor
        · rintro rfl
          refine .answered fun gone => missing ?_
          obtain ⟨_, message, body, same⟩ := gone
          cases same
          rfl
        · intro fails
          cases fails
          rfl
  | posted path idsKey constants failed =>
    rw [manner] at deletes
    exact posted_eq_error_iff (by simp only [Scope.failedKey?, manner]) deletes
  | sweep path failed limit =>
    rw [manner] at deletes
    exact posted_eq_error_iff (by simp only [Scope.failedKey?, manner]) deletes

/-- A deletion that found nothing there counts as nothing to delete. -/
theorem deletionOutcome_of_gone {kind : Kind} {id : String} {more : List String} {reply : Reply}
    (gone : Gone (Scope.deletionRequest kind id more, reply)) :
    Scope.deletionOutcome kind id more reply = .ok .notFound := by
  obtain ⟨method, message, body, rfl⟩ := gone
  unfold Scope.deletionOutcome
  unfold Scope.deletionRequest at method
  cases manner : kind.endpoint.deletion with
  | atPath collection => rfl
  | posted path idsKey constants failed =>
    rw [manner] at method
    cases method
  | sweep path failed limit =>
    rw [manner] at method
    cases method

/-! ### What a visit tells -/

section Told

variable {σ : Type}

/-- **A visit tells what happened**: all exchanges pass and the resource is deleted or skipped, or
the last one fails and so does the resource, which ends the run if the failure is fatal. -/
inductive Told (here : Visit σ (List Kind)) : Prop where
  | passed (passes : ∀ exchange ∈ here.exchanges, ∀ failure,
        ¬ Fails here.resource.kind exchange failure)
      (goesOn : here.cause? = none)
      (recorded : (∃ id note, id ≠ "" ∧
          here.recorded = { ResourceResult.deleted here.resource id with note := note }) ∨
        ∃ note, here.recorded = .skipped here.resource none note)
      (gone : ∀ exchange ∈ here.exchanges, Gone exchange →
        here.recorded = .skipped here.resource none "not found")
  | failed {earlier : List Exchange} {last : Exchange} {failure : Failure}
      (exchanged : here.exchanges = earlier ++ [last])
      (passes : ∀ exchange ∈ earlier, (∀ other, ¬ Fails here.resource.kind exchange other) ∧
        ¬ Gone exchange)
      (fails : Fails here.resource.kind last failure)
      (recorded : here.recorded = .failed here.resource failure.describe)
      (cause : here.cause? = if failure.isFatal then some failure else none)

variable {scope : Scope} {swept : List Kind} {here : Visit σ (List Kind)}

theorem recorded_of_ok {result : ResourceResult} {known : List Kind}
    (reached : here.outcome = .ok (result, known)) :
    here.recorded = result ∧ here.cause? = none := by
  unfold Visit.recorded Visit.cause?
  rw [reached]
  exact ⟨rfl, rfl⟩

/-- A failed call fails the resource, and the run with it if it is fatal. -/
theorem recorded_of_concluded_error {failure : Failure}
    (reached : here.outcome = concluded scope swept here.resource (.error failure)) :
    here.recorded = .failed here.resource failure.describe ∧
      here.cause? = if failure.isFatal then some failure else none := by
  unfold concluded settle at reached
  unfold Visit.recorded Visit.cause?
  rw [reached]
  by_cases fatal : failure.isFatal = true
  · simp only [fatal, if_true]
    exact ⟨rfl, rfl⟩
  · simp only [fatal, Bool.false_eq_true, if_false]
    exact ⟨rfl, rfl⟩

/-- A call that is done is recorded, and the run goes on. -/
theorem recorded_of_concluded_ok {done : DeleteOutcome}
    (reached : here.outcome = concluded scope swept here.resource (.ok done)) :
    here.recorded = resultOf scope here.resource done ∧ here.cause? = none :=
  recorded_of_ok reached

/-- A visit that sends nothing passes. -/
theorem told_of_silent {known : List Kind} {note : String} (silent : here.exchanges = [])
    (reached : here.outcome = .ok (.skipped here.resource none note, known)) : Told here := by
  obtain ⟨recorded, goesOn⟩ := recorded_of_ok reached
  refine .passed ?_ goesOn (Or.inr ⟨note, recorded⟩) ?_
  · rw [silent]
    exact List.forall_mem_nil _
  · rw [silent]
    exact List.forall_mem_nil _

/-- A query is posted, so it neither deletes nor finds a path empty. -/
theorem not_gone_query (scope : Scope) (resource : Resource) (reply : Reply) :
    ¬ Gone (query scope resource, reply) := by
  obtain ⟨filter, limit, same⟩ := scope.exists_deletionQuery_eq resource.kind resource.name
  rw [query, same]
  exact not_gone_post

theorem not_fails_query (scope : Scope) (resource : Resource) (found : Json) (failure : Failure) :
    ¬ Fails resource.kind (query scope resource, .ok found) failure := by
  intro fails
  cases fails with
  | refused deletes _ _ => exact not_isDeletion_query scope resource deletes

end Told

section Visits

variable {σ : Type} (service : Service σ) (state : σ) (options : RunOptions) (scope : Scope)
  (tags : List String)

/-- **Every visit tells what happened.** -/
theorem visit_told {swept : List Kind} {resources : List Resource} {here : Visit σ (List Kind)}
    (member : here ∈ Walk.visits service (handle options scope tags) swept state resources) :
    Told here := by
  have course := visit_course service state options scope tags member
  generalize exchanged : here.exchanges = exchanges at course
  generalize reached : here.outcome = outcome at course
  cases course with
  | filteredOut out => exact told_of_silent exchanged reached
  | dryRun kept dry => exact told_of_silent exchanged reached
  | cleaned kept wet cleaned => exact told_of_silent exchanged reached
  | @queryFailed failure asks =>
    obtain ⟨recorded, cause⟩ := recorded_of_concluded_error reached
    have last : here.exchanges = [] ++ [(query scope here.resource, .error failure)] := exchanged
    exact .failed last (List.forall_mem_nil _)
      (.answered (not_gone_query scope here.resource _)) recorded cause
  | @notFound found asks nothing =>
    obtain ⟨recorded, goesOn⟩ := recorded_of_concluded_ok reached
    refine .passed ?_ goesOn (Or.inr ⟨_, recorded⟩) fun _ _ _ => recorded
    rw [exchanged]
    exact List.forall_mem_singleton.mpr (not_fails_query scope here.resource found)
  | @deletes found id more answer asks targets =>
    cases concludes : Scope.deletionOutcome here.resource.kind id more answer with
    | error failure =>
      rw [concludes] at reached
      obtain ⟨recorded, cause⟩ := recorded_of_concluded_error reached
      have last : here.exchanges = [(query scope here.resource, .ok found)] ++
          [(Scope.deletionRequest here.resource.kind id more, answer)] := exchanged
      exact .failed last (List.forall_mem_singleton.mpr
        ⟨not_fails_query scope here.resource found, not_gone_query scope here.resource _⟩)
        (deletionOutcome_eq_error_iff.mp concludes) recorded cause
    | ok done =>
      rw [concludes] at reached
      obtain ⟨recorded, goesOn⟩ := recorded_of_concluded_ok reached
      refine .passed ?_ goesOn ?_ ?_
      · rw [exchanged]
        refine List.forall_mem_cons.mpr ⟨not_fails_query scope here.resource found,
          List.forall_mem_singleton.mpr fun failure fails => ?_⟩
        rw [deletionOutcome_eq_error_iff.mpr fails] at concludes
        cases concludes
      · have named : id ≠ "" := Scope.mem_targets_ne_empty (targets ▸ List.mem_cons_self)
        rcases Scope.deletionOutcome_eq_ok concludes with rfl | ⟨rfl | rfl, _⟩
        · exact Or.inr ⟨_, recorded⟩
        · exact Or.inl ⟨id, none, named, recorded⟩
        · exact Or.inl ⟨id, some _, named, recorded⟩
      · rw [exchanged]
        refine List.forall_mem_cons.mpr ⟨fun gone => absurd gone
          (not_gone_query scope here.resource _), List.forall_mem_singleton.mpr fun gone => ?_⟩
        rw [deletionOutcome_of_gone gone] at concludes
        cases concludes
        exact recorded

end Visits

/-! ### What follows from it -/

section Told

variable {σ : Type} {here : Visit σ (List Kind)}

/-- The result of a visit is about its resource, and nothing is said to be created. -/
theorem Told.result (told : Told here) :
    here.recorded.Records here.resource ∧ here.recorded.WellFormed ∧
      here.recorded.action ≠ .created ∧
      (here.recorded.action = .skipped → here.recorded.serverId = none) := by
  cases told with
  | passed passes goesOn recorded gone =>
    rcases recorded with ⟨id, note, named, recorded⟩ | ⟨note, recorded⟩
    · rw [recorded]
      exact ⟨⟨rfl, rfl, rfl⟩, ⟨⟨id, rfl, named⟩, rfl⟩, Action.noConfusion, Action.noConfusion⟩
    · rw [recorded]
      refine ⟨⟨rfl, rfl, rfl⟩, ?_, Action.noConfusion, fun _ => rfl⟩
      exact ResourceResult.skipped_wellFormed here.resource note fun given same => by cases same
  | failed exchanged passes fails recorded cause =>
    rw [recorded]
    exact ⟨⟨rfl, rfl, rfl⟩, ResourceResult.failed_wellFormed here.resource _, Action.noConfusion,
      Action.noConfusion⟩

/-- **What goes wrong in an exchange is the result of its resource**, and it ends the run exactly if
it is fatal. -/
theorem Told.of_fails (told : Told here) {exchange : Exchange} {failure : Failure}
    (member : exchange ∈ here.exchanges) (fails : Fails here.resource.kind exchange failure) :
    here.recorded = .failed here.resource failure.describe ∧
      (here.cause? = none ↔ ¬ failure.EndsRun) := by
  cases told with
  | passed passes goesOn recorded gone => exact absurd fails (passes exchange member failure)
  | @failed earlier last cause exchanged passes wrong recorded ends =>
    have final : exchange = last := by
      rw [exchanged, List.mem_append, List.mem_singleton] at member
      exact member.resolve_left fun before => (passes exchange before).1 failure fails
    subst final
    obtain rfl : cause = failure := by
      cases wrong with
      | answered there =>
        cases fails
        rfl
      | refused deletes listed found =>
        cases fails with
        | refused _ also same =>
          rw [listed] at also
          cases also
          exact Option.some.inj (found.symm.trans same)
    refine ⟨recorded, ?_⟩
    rw [ends, ← Failure.isFatal_iff_endsRun]
    cases cause.isFatal <;> simp

/-- **A resource fails** exactly if something goes wrong in an exchange. -/
theorem Told.failed_iff (told : Told here) : here.recorded.action = .failed ↔
    ∃ exchange ∈ here.exchanges, ∃ failure, Fails here.resource.kind exchange failure := by
  constructor
  · intro failed
    cases told with
    | passed passes goesOn recorded gone =>
      rcases recorded with ⟨id, note, _, recorded⟩ | ⟨note, recorded⟩
      · rw [recorded] at failed
        cases failed
      · rw [recorded] at failed
        cases failed
    | failed exchanged passes fails recorded cause =>
      refine ⟨_, ?_, _, fails⟩
      rw [exchanged]
      exact List.mem_append_right _ (List.mem_singleton_self _)
  · rintro ⟨exchange, member, failure, fails⟩
    rw [(told.of_fails member fails).1]
    rfl

/-- **A resource that is gone is skipped.** -/
theorem Told.of_gone (told : Told here) {exchange : Exchange} (member : exchange ∈ here.exchanges)
    (gone : Gone exchange) :
    here.recorded = .skipped here.resource none "not found" ∧ here.cause? = none := by
  cases told with
  | passed passes goesOn recorded skipped => exact ⟨skipped exchange member gone, goesOn⟩
  | failed exchanged passes fails recorded cause =>
    rw [exchanged, List.mem_append, List.mem_singleton] at member
    rcases member with before | rfl
    · exact absurd gone (passes exchange before).2
    · cases fails with
      | answered there => exact absurd gone there
      | refused =>
        obtain ⟨_, message, body, same⟩ := gone
        cases same

/-- **A visit that tells what happened is sound.** -/
theorem Told.sound (told : Told here) : here.Sound := by
  obtain ⟨records, wellFormed, _⟩ := told.result
  refine ⟨records, wellFormed, fun goesOn exchange member fatal => ?_, fun cause ends => ?_⟩
  · obtain ⟨failure, fails, fatally⟩ := (fatallyAnswered_iff here.resource.kind).mp fatal
    exact (told.of_fails member fails).2.mp goesOn fatally
  · cases told with
    | passed passes goesOn recorded gone =>
      rw [goesOn] at ends
      cases ends
    | @failed earlier last failure exchanged passes fails recorded same =>
      rw [same, Option.ite_none_right_eq_some] at ends
      obtain ⟨fatal, itself⟩ := ends
      cases itself
      have fatally := Failure.isFatal_iff_endsRun.mp fatal
      refine ⟨fatally, earlier, ?_⟩
      cases fails with
      | @answered request _ there =>
        refine ⟨request, exchanged, fun exchange before fatal => ?_⟩
        obtain ⟨other, wrong, _⟩ := (fatallyAnswered_iff here.resource.kind).mp fatal
        exact (passes exchange before).1 other wrong
      | refused _ _ found => exact absurd fatally (not_endsRun_of_deletionProblem? found)

end Told

/-- The request asks for the resource or deletes what was found of it. -/
def IsFor (scope : Scope) (resource : Resource) (request : Request) : Prop :=
  request = query scope resource ∨
    ∃ id more, request = Scope.deletionRequest resource.kind id more

theorem Course.isFor {options : RunOptions} {scope : Scope} {tags : List String} {swept : List Kind}
    {resource : Resource} {exchanges : List Exchange}
    {outcome : Except Failure (ResourceResult × List Kind)}
    (course : Course options scope tags swept resource exchanges outcome) :
    ∀ request ∈ exchanges.map Prod.fst, IsFor scope resource request := by
  cases course with
  | filteredOut out => exact List.forall_mem_nil _
  | dryRun kept dry => exact List.forall_mem_nil _
  | cleaned kept wet cleaned => exact List.forall_mem_nil _
  | queryFailed asks => exact List.forall_mem_singleton.mpr (Or.inl rfl)
  | notFound asks nothing => exact List.forall_mem_singleton.mpr (Or.inl rfl)
  | deletes asks targets =>
    exact List.forall_mem_cons.mpr ⟨Or.inl rfl, List.forall_mem_singleton.mpr (Or.inr ⟨_, _, rfl⟩)⟩

end Teardown

/-! ### Runs -/

section Run

open Dialogue

/-- **What teardown ends with.** Whatever the service replies, the run ends with a finished report
of one result for each resource in reverse order, or it is aborted at the first fatal reply, which
is the last one, with a finished report up to the resource that was being handled. A resource fails
exactly if something goes wrong in one of its exchanges, and the failure is then described in its
result; where there was nothing at the path of a deletion, the resource is skipped. All results are
well-formed, only what was deleted has an identifier, and the counts of the summary add up to their
number. -/
theorem teardown_concludes {σ : Type} (service : Service σ) (state : σ) (options : RunOptions)
    (occasion : Occasion) (tags : List String) (document : Document) :
    let run := converse service state (document.teardown options occasion tags)
    let visited := document.teardownVisits service state options tags
    let report := run.result.report
    run.result.Concludes (Teardown.IsFor (options.scope document)) document.resources.reverse
        run.exchanges ∧
      ((∃ abort, run.result = .error abort) ↔
        ∃ exchange ∈ run.exchanges, FatallyAnswered exchange) ∧
      report.finishedAt = some occasion.finishedAt ∧
      report.results = visited.map Visit.recorded ∧
      run.exchanges = visited.flatMap Visit.exchanges ∧
      (∀ here ∈ visited,
        (here.recorded.action = .failed ↔ ∃ exchange ∈ here.exchanges, ∃ failure,
          Teardown.Fails here.resource.kind exchange failure) ∧
        (∀ exchange ∈ here.exchanges, ∀ failure,
          Teardown.Fails here.resource.kind exchange failure →
            here.recorded = .failed here.resource failure.describe ∧
            (here.cause? = none ↔ ¬ failure.EndsRun)) ∧
        ∀ exchange ∈ here.exchanges, Teardown.Gone exchange →
          here.recorded = .skipped here.resource none "not found" ∧ here.cause? = none) ∧
      (∀ result ∈ report.results, result.WellFormed ∧ result.action ≠ .created ∧
        (result.action = .skipped → result.serverId = none)) ∧
      report.summary = toString (report.count .deleted) ++ " deleted, " ++
        toString (report.count .skipped) ++ " skipped, " ++
        toString (report.count .failed) ++ " failed" ∧
      report.count .deleted + report.count .skipped + report.count .failed =
        report.results.length := by
  have told : ∀ here ∈ document.teardownVisits service state options tags, Teardown.Told here :=
    fun here member => Teardown.visit_told service state options _ tags member
  rw [converse_teardown]
  dsimp only
  have concludes := concludes_visits service
    (Teardown.handle options (options.scope document) tags) [] state document.resources.reverse
    (fun here member => (told here member).sound)
    (fun here member => (Teardown.visit_course service state options _ tags member).isFor)
    occasion .teardown document options.dryRun
  have results : ∀ result ∈
      (document.teardownVisits service state options tags).map Visit.recorded,
      result.WellFormed ∧ result.action ≠ .created ∧
        (result.action = .skipped → result.serverId = none) := by
    intro result member
    obtain ⟨here, visit, rfl⟩ := List.mem_map.mp member
    exact (told here visit).result.2
  rw [RunOutcome.report_ofWalk]
  refine ⟨concludes, concludes.aborted_iff, rfl, rfl, rfl, fun here member => ?_, results, ?_, ?_⟩
  · exact ⟨(told here member).failed_iff,
      fun exchange among failure fails => (told here member).of_fails among fails,
      fun exchange among gone => (told here member).of_gone among gone⟩
  · simp only [RunReport.summary, RunReport.ofWalk, RunReport.start, RunReport.mainAction,
      Action.name, String.append_assoc]
    rfl
  · refine RunReport.count_add_count_add_count ⟨Action.noConfusion, Action.noConfusion⟩ ?_
    intro result member
    have uncreated := (results result member).2.1
    cases action : result.action with
    | created => exact absurd action uncreated
    | skipped => exact Or.inr (Or.inl rfl)
    | failed => exact Or.inr (Or.inr rfl)
    | deleted => exact Or.inl rfl

/-- A document with a system in a location. -/
def workshop : Document where
  formatVersion := "1.0"
  name := "workshop"
  title := "Workshop"
  description := none
  author := none
  tags := []
  setupMinutes := none
  resources := [⟨.location, "Lab", [], "lab", []⟩,
    ⟨.system, "Bench", [("location", .string "${lab}")], "bench", []⟩]

/-- What a stuck service says it has. -/
def workshopEntries : Json :=
  .object [("data", .array [.object [("id", .string "sys-1")]]),
    ("locations", .array [.object [("id", .string "loc-1")]])]

/-- What a stuck service says when it is to remove a system. -/
def busy : Failure := .service (.refused 500 "busy" none)

/-- What a stuck service says when it is to delete a location. -/
def unknown : Failure := .service (.refused 404 "unknown" none)

/-- A service that finds a system and a location, is too busy to remove the one and does not know
the other any more. -/
def stuck : Service Unit := fun request _ =>
  (if request.path = "/nisysmgmt/v1/remove-systems" then .error busy
    else if request.method = .delete then .error unknown
    else .ok workshopEntries, ())

/-- The visit of the system. -/
def benchRemoval : Visit Unit (List Kind) :=
  Walk.visit stuck (Teardown.handle thoroughly (thoroughly.scope workshop) []) [] ()
    ⟨.system, "Bench", [("location", .string "${lab}")], "bench", []⟩

/-- The visit of the location. -/
def lostLabRemoval : Visit Unit (List Kind) :=
  Walk.visit stuck (Teardown.handle thoroughly (thoroughly.scope workshop) []) [] ()
    ⟨.location, "Lab", [], "lab", []⟩

/-- The busy service fails the system, the run goes on, and the location that is gone is skipped. -/
theorem teardown_concludes_stuck :
    let removal := Scope.deletionRequest .system "sys-1" []
    let deletion := Scope.deletionRequest .location "loc-1" []
    workshop.teardownVisits stuck () thoroughly [] = [benchRemoval, lostLabRemoval] ∧
      (removal, .error busy) ∈ benchRemoval.exchanges ∧
      Teardown.Fails .system (removal, .error busy) busy ∧
      benchRemoval.recorded = .failed benchRemoval.resource busy.describe ∧
      benchRemoval.cause? = none ∧
      (deletion, .error unknown) ∈ lostLabRemoval.exchanges ∧
      Teardown.Gone (deletion, .error unknown) ∧
      lostLabRemoval.recorded = .skipped lostLabRemoval.resource none "not found" := by
  intro removal deletion
  have visited : workshop.teardownVisits stuck () thoroughly [] = [benchRemoval, lostLabRemoval] :=
    rfl
  have removed : (removal, .error busy) ∈ benchRemoval.exchanges :=
    List.mem_cons_of_mem _ List.mem_cons_self
  have deleted : (deletion, .error unknown) ∈ lostLabRemoval.exchanges :=
    List.mem_cons_of_mem _ List.mem_cons_self
  have fails : Teardown.Fails .system (removal, .error busy) busy :=
    .answered Teardown.not_gone_post
  have gone : Teardown.Gone (deletion, .error unknown) := ⟨rfl, _, _, rfl⟩
  obtain ⟨_, _, _, _, _, visits, _⟩ := teardown_concludes stuck () thoroughly .epoch [] workshop
  rw [visited, List.forall_mem_cons, List.forall_mem_singleton] at visits
  obtain ⟨⟨_, failed, _⟩, _, _, skipped⟩ := visits
  obtain ⟨recorded, goesOn⟩ := failed _ removed busy fails
  refine ⟨visited, removed, fails, recorded, goesOn.mpr ?_, deleted, gone,
    (skipped _ deleted gone).1⟩
  rintro (⟨_, same⟩ | ⟨_, same⟩) <;> cases same

/-- Not every failure of a call fails its resource: a location that is gone is skipped. -/
theorem not_failed_of_gone :
    ¬ ∀ here ∈ workshop.teardownVisits stuck () thoroughly [], ∀ exchange ∈ here.exchanges,
      ∀ failure, exchange.2 = .error failure → ¬ failure.EndsRun →
        here.recorded.action = .failed := by
  intro all
  have visit : lostLabRemoval ∈ workshop.teardownVisits stuck () thoroughly [] :=
    List.mem_cons_of_mem _ List.mem_cons_self
  have exchanged : (Scope.deletionRequest .location "loc-1" [], .error unknown) ∈
      lostLabRemoval.exchanges := List.mem_cons_of_mem _ List.mem_cons_self
  have harmless : ¬ unknown.EndsRun := by
    rintro (⟨_, same⟩ | ⟨_, same⟩) <;> cases same
  have failed := all lostLabRemoval visit _ exchanged unknown rfl harmless
  cases failed

end Run

end ResourceGraph
