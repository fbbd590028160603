/-
**How a failed result is explained.**

A result that failed carries a text. What goes wrong in a request is told with the wording of its
failure, and what a reply says was not done with the messages in it. All of these texts say
something but one: a reply to a creation that creates nothing, and whose only message is an empty
text, is explained with that empty text.

* `Failure.describe_ne_empty`: the wording of a failure; `Failure.message_prefix_describe`;
* `Kind.Wordless`: a reply whose only word about what was not created is an empty one;
* `Scope.createOutcome_eq_failed_empty_iff`: only such a reply is a failure without a text;
* `Visit.Explains`: the text of a failed result, and what it has to contain;
* `failures_explained`: every visit of every run.
-/

import ResourceGraph.Proofs.Provision.Report
import ResourceGraph.Proofs.Service.Creation
import ResourceGraph.Proofs.Teardown.Report
import ResourceGraph.Proofs.Text.Pieces

namespace ResourceGraph

/-! ### Failures -/

theorem Failure.message_ne_empty (failure : Failure) : failure.message ≠ "" := by
  cases failure with
  | invalid document problems =>
    unfold message
    simp only [String.append_assoc]
    exact Text.append_ne_empty (by decide) _
  | notFound | missingSetting | service | io | internal => exact Text.append_ne_empty (by decide) _

/-- A report tells a failure with its message, and then with its details. -/
theorem Failure.message_prefix_describe (failure : Failure) :
    failure.message.toList <+: failure.describe.toList := by
  unfold describe
  split
  · rw [String.toList_append]
    exact List.prefix_append _ _
  · exact List.prefix_rfl

theorem Failure.describe_ne_empty (failure : Failure) : failure.describe ≠ "" := by
  intro empty
  have told := failure.message_prefix_describe
  rw [empty] at told
  exact failure.message_ne_empty (String.toList_inj.mp (List.prefix_nil.mp told))

/-! ### Replies that say nothing -/

/-- The messages in a reply about what was not created, for the kinds that are created in lists. -/
def Kind.messages (kind : Kind) (reply : Json) : List String :=
  match kind.failures? with
  | some failures =>
    (reply.field? failures).elim [] messagesIn ++ (reply.field? "error").elim [] messagesIn
  | none => []

/-- **Nothing was created, and the only word about it is an empty one.** -/
structure Kind.Wordless (kind : Kind) (reply : Json) : Prop where
  unnamed : ∀ id, ¬ kind.Names reply id
  messages : kind.messages reply = [""]

theorem CreateOutcome.ofBatch_eq_failed_empty_iff {created failed : String} {reply : Json} :
    ofBatch created failed reply = .failed "" ↔ (∀ id, ¬ FirstUsable created reply id) ∧
      (reply.field? failed).elim [] messagesIn ++ (reply.field? "error").elim [] messagesIn =
        [""] := by
  have unnamed := (ofBatch_tells created failed reply).failed_iff
  unfold ofBatch at unnamed ⊢
  cases first : ((entriesUnder created reply).filterMap idOf?).head? with
  | some id =>
    refine iff_of_false (fun same => by cases same) fun wordless => ?_
    exact wordless.1 id (firstUsable_iff.mp first)
  | none =>
    rw [first] at unnamed
    dsimp only at unnamed ⊢
    generalize (reply.field? failed).elim [] messagesIn ++
      (reply.field? "error").elim [] messagesIn = messages at unnamed ⊢
    constructor
    · intro came
      refine ⟨(unnamed.mp ⟨"", came⟩).1, ?_⟩
      -- three ways to a text: a duplicate has none, without messages it is fixed, and else they are
      -- joined
      by_cases reported : messages.any reportsDuplicate = true
      · rw [if_pos reported] at came
        have duplicate := duplicate_isDuplicate reply
        rw [came] at duplicate
        rcases duplicate with same | ⟨id, same⟩ <;> cases same
      · rw [if_neg reported] at came
        cases messages with
        | nil => simp at came
        | cons message rest =>
          have joined : Text.join "; " (message :: rest) = "" := CreateOutcome.failed.inj came
          rcases (Text.join_eq_empty_iff (by decide)).mp joined with none | one
          · cases none
          · exact one
    · rintro ⟨_, rfl⟩
      rfl

theorem CreateOutcome.ofSingle_ne_failed_empty (key : String) (reply : Json) :
    ofSingle key reply ≠ .failed "" := by
  intro came
  unfold ofSingle at came
  generalize idUnder? key reply = named at came
  cases named with
  | some id => cases came
  | none =>
    exact Text.append_ne_empty (Text.append_ne_empty (by decide) _) _
      (CreateOutcome.failed.inj came)

/-- **Only a wordless reply is a failure without a text.** -/
theorem Scope.createOutcome_eq_failed_empty_iff (kind : Kind) (reply : Json) :
    createOutcome kind.endpoint reply = .failed "" ↔ kind.Wordless reply := by
  have spoken : kind.failures? = none → ¬ kind.Wordless reply := by
    intro single wordless
    have messages := wordless.messages
    rw [Kind.messages, single] at messages
    cases messages
  have batch : ∀ created failures, kind.failures? = some failures →
      kind.Names reply = FirstUsable created reply →
      (CreateOutcome.ofBatch created failures reply = .failed "" ↔ kind.Wordless reply) := by
    intro created failures listed names
    rw [CreateOutcome.ofBatch_eq_failed_empty_iff, ← names]
    constructor
    · rintro ⟨unnamed, messages⟩
      refine ⟨unnamed, ?_⟩
      rw [Kind.messages, listed]
      exact messages
    · intro wordless
      have messages := wordless.messages
      rw [Kind.messages, listed] at messages
      exact ⟨wordless.unnamed, messages⟩
  cases kind with
  | location | workflow | dataTable | notebook | system =>
    exact iff_of_false (CreateOutcome.ofSingle_ne_failed_empty _ reply) (spoken rfl)
  | product | asset | dut | testResult | workItem | workOrder => exact batch _ _ rfl rfl
  | file =>
    refine iff_of_false (fun came => ?_) (spoken rfl)
    change CreateOutcome.ofUpload reply = .failed "" at came
    unfold CreateOutcome.ofUpload at came
    split at came
    · cases came
    · exact CreateOutcome.ofSingle_ne_failed_empty _ reply came

/-! ### Visits -/

section Visit

variable {σ μ : Type}

/-- **The text of a failed result**: it has the wording of the last request's failure, if that went
wrong. -/
structure Visit.Explains (here : Visit σ μ) (text : String) : Prop where
  told : here.recorded.error = some text
  contains : ∀ request failure, here.exchanges.getLast? = some (request, .error failure) →
    failure.message.toList <:+: text.toList

/-- The resource was looked up, and the reply to its creation is a wordless one. -/
def Visit.Wordless (here : Visit σ μ) : Prop :=
  ∃ lookup creation reply, here.exchanges = [lookup, (creation, .ok reply)] ∧
    here.resource.kind.Wordless reply

/-- A result is explained unless it carries an empty text, which only a wordless reply leads to. -/
structure Visit.Explained (here : Visit σ μ) : Prop where
  empty_iff : here.recorded.error = some "" ↔ here.Wordless
  explains : here.recorded.action = .failed → ∃ text, here.Explains text

variable {here : Visit σ μ}

/-- A result that did not fail has nothing to explain. -/
theorem Visit.explained_of_passed {result : ResourceResult} (recorded : here.recorded = result)
    (passed : result.action ≠ .failed) (untold : result.error = none) (worded : ¬ here.Wordless) :
    here.Explained := by
  refine ⟨iff_of_false (fun told => ?_) worded, fun failed => absurd (recorded ▸ failed) passed⟩
  rw [recorded, untold] at told
  cases told

theorem Visit.explained_of_failed {text : String}
    (recorded : here.recorded = .failed here.resource text) (empty_iff : text = "" ↔ here.Wordless)
    (contains : ∀ request failure, here.exchanges.getLast? = some (request, .error failure) →
      failure.message.toList <:+: text.toList) : here.Explained := by
  refine ⟨?_, fun _ => ⟨text, congrArg _ recorded, contains⟩⟩
  rw [recorded]
  exact Option.some_inj.trans empty_iff

theorem Visit.not_wordless {exchanges : List Exchange} (exchanged : here.exchanges = exchanges)
    (few : exchanges.length < 2) : ¬ here.Wordless := by
  rintro ⟨lookup, creation, reply, both, _⟩
  rw [← exchanged, both] at few
  exact Nat.lt_irrefl 2 few

theorem Visit.wordless_iff {lookup : Exchange} {creation : Request} {reply : Reply}
    (exchanged : here.exchanges = [lookup, (creation, reply)]) :
    here.Wordless ↔ ∃ value, reply = .ok value ∧ here.resource.kind.Wordless value := by
  unfold Wordless
  rw [exchanged]
  constructor
  · rintro ⟨_, _, value, same, wordless⟩
    cases same
    exact ⟨value, rfl, wordless⟩
  · rintro ⟨value, rfl, wordless⟩
    exact ⟨lookup, creation, value, rfl, wordless⟩

/-- A failure of the last request is told with its wording; something may stand before that. -/
theorem Visit.explained_of_failure {request : Request} {failure : Failure} {text : String}
    (last : here.exchanges.getLast? = some (request, .error failure))
    (worded : ¬ here.Wordless) (recorded : here.recorded = .failed here.resource text)
    (ends : failure.describe.toList <:+ text.toList) : here.Explained := by
  have told : text ≠ "" := by
    rintro rfl
    exact failure.describe_ne_empty (String.toList_inj.mp (List.suffix_nil.mp ends))
  refine Visit.explained_of_failed recorded (iff_of_false told worded) fun asked other found => ?_
  cases last.symm.trans found
  exact failure.message_prefix_describe.isInfix.trans ends.isInfix

end Visit

namespace Provision

section Visits

variable {σ : Type} {options : RunOptions} {scope : Scope} {here : Visit σ Identifiers}

/-- A failure that is settled fails the resource, fatal or not. -/
theorem recorded_of_settled {failure : Failure}
    (same : here.outcome = reached here.known (settle here.resource failure failure.describe)) :
    here.recorded = .failed here.resource failure.describe := by
  unfold settle at same
  by_cases fatal : failure.isFatal = true
  · rw [if_pos fatal] at same
    exact Visit.recorded_of_cause (cause?_of_reached_error same)
  · rw [if_neg fatal] at same
    exact recorded_of_reached same

/-- What comes of a creation is explained. -/
theorem explained_of_creation {lookup : Exchange} {creation : Request} {reply : Reply}
    (exchanged : here.exchanges = [lookup, (creation, reply)])
    (same : here.outcome = reached here.known (creationOutcome here.resource reply)) :
    here.Explained := by
  have wordless := Visit.wordless_iff exchanged
  cases reply with
  | ok value =>
    have recorded : here.recorded =
        resultOf here.resource (Scope.createOutcome here.resource.kind.endpoint value) :=
      recorded_of_reached same
    have empty_iff := Scope.createOutcome_eq_failed_empty_iff here.resource.kind value
    have told : here.Wordless ↔ here.resource.kind.Wordless value := by
      rw [wordless]
      simp only [Except.ok.injEq, exists_eq_left']
    rw [← told] at empty_iff
    generalize Scope.createOutcome here.resource.kind.endpoint value = outcome at recorded empty_iff
    cases outcome with
    | created | duplicateFound | duplicateUnresolved =>
      refine Visit.explained_of_passed recorded Action.noConfusion rfl fun worded => ?_
      cases empty_iff.mpr worded
    | failed reason =>
      refine Visit.explained_of_failed recorded ?_ fun last failure found => ?_
      · rw [← empty_iff, CreateOutcome.failed.injEq]
      · rw [exchanged] at found
        cases found
  | error failure =>
    have worded : ¬ here.Wordless := by
      rw [wordless]
      rintro ⟨value, impossible, _⟩
      cases impossible
    by_cases existing : failure.ReportsExisting
    · -- a refusal that reports the resource as existing skips it, so there is nothing to explain
      obtain ⟨outcome, handled, duplicate⟩ := (CreateOutcome.ofFailure_cases failure).1 existing
      have came : creationOutcome here.resource (.error failure) =
          .ok (resultOf here.resource outcome) := by
        simp only [creationOutcome, Scope.outcomeOf, handled]
      have recorded := recorded_of_reached (same.trans (congrArg _ came))
      rcases duplicate with rfl | ⟨id, rfl⟩
      · exact Visit.explained_of_passed recorded Action.noConfusion rfl worded
      · exact Visit.explained_of_passed recorded Action.noConfusion rfl worded
    · have handled := (CreateOutcome.ofFailure_cases failure).2 existing
      have came : creationOutcome here.resource (.error failure) =
          settle here.resource failure failure.describe := by
        simp only [creationOutcome, Scope.outcomeOf, handled]
      rw [came] at same
      exact Visit.explained_of_failure (congrArg List.getLast? exchanged) worded
        (recorded_of_settled same) List.suffix_rfl

/-- **Every visit of provisioning is explained.** -/
theorem explained_of_course {outcome : Except Failure ResourceResult}
    (course : Course options scope here.known here.resource here.exchanges outcome)
    (same : here.outcome = reached here.known outcome) : here.Explained := by
  generalize exchanged : here.exchanges = exchanges at course
  cases course with
  | heldBack held =>
    refine Visit.explained_of_failed (recorded_of_reached same) ?_ fun request failure last => ?_
    · exact iff_of_false (Text.append_ne_empty (by decide) _)
        (Visit.not_wordless exchanged Nat.zero_lt_two)
    · rw [exchanged] at last
      cases last
  | dryRun free dry =>
    exact Visit.explained_of_passed (recorded_of_reached same) Action.noConfusion rfl
      (Visit.not_wordless exchanged Nat.zero_lt_two)
  | «exists» asks finds =>
    exact Visit.explained_of_passed (recorded_of_reached same) Action.noConfusion rfl
      (Visit.not_wordless exchanged Nat.one_lt_two)
  | lookupFatal asks fatal =>
    exact Visit.explained_of_failure (congrArg List.getLast? exchanged)
      (Visit.not_wordless exchanged Nat.one_lt_two)
      (Visit.recorded_of_cause (cause?_of_reached_error same)) List.suffix_rfl
  | lookupFailed asks passing policy =>
    refine Visit.explained_of_failure (congrArg List.getLast? exchanged)
      (Visit.not_wordless exchanged Nat.one_lt_two) (recorded_of_reached same) ?_
    rw [String.toList_append]
    exact List.suffix_append _ _
  | creates asks missing => exact explained_of_creation exchanged same

end Visits

end Provision

/-- **What goes wrong in a deletion is told**, with the wording of the failure. -/
theorem Teardown.Told.explains {σ : Type} {here : Visit σ (List Kind)} (told : Teardown.Told here) :
    here.recorded.error ≠ some "" ∧
      (here.recorded.action = .failed → ∃ text, here.Explains text) := by
  cases told with
  | passed passes goesOn recorded gone =>
    rcases recorded with ⟨id, note, _, recorded⟩ | ⟨note, recorded⟩
    · rw [recorded]
      exact ⟨(Option.some_ne_none "").symm, Action.noConfusion⟩
    · rw [recorded]
      exact ⟨(Option.some_ne_none "").symm, Action.noConfusion⟩
  | @failed earlier last failure exchanged passes fails recorded cause =>
    have error : here.recorded.error = some failure.describe := congrArg _ recorded
    refine ⟨?_, fun _ => ⟨failure.describe, error, fun request other found => ?_⟩⟩
    · rw [error]
      exact fun empty => failure.describe_ne_empty (Option.some.inj empty)
    · rw [exchanged, List.getLast?_concat] at found
      obtain rfl := Option.some.inj found
      cases fails
      exact failure.message_prefix_describe.isInfix

/-! ### Runs -/

section Run

open Dialogue

/-- **How the failures of a run are explained.** Whatever the service replies, and finished or not,
the results of a run are those of its visits. In a teardown every failed result carries a text that
says something; in a provisioning run it does so unless the reply to the creation is wordless, and
then its text is empty. If the last request at the resource was answered with a failure, the text
contains the wording of it. -/
theorem failures_explained {σ : Type} (service : Service σ) (state : σ) (options : RunOptions)
    (occasion : Occasion) (document : Document) (tags : List String) :
    let provisioning := converse service state (document.provision options occasion)
    let provisioned := document.provisionVisits service state options
    let teardown := converse service state (document.teardown options occasion tags)
    let tornDown := document.teardownVisits service state options tags
    (provisioning.result.report.results = provisioned.map Visit.recorded ∧
        provisioning.exchanges = provisioned.flatMap Visit.exchanges ∧
        ∀ here ∈ provisioned, (here.recorded.error = some "" ↔ here.Wordless) ∧
          (here.recorded.action = .failed → ∃ text, here.Explains text)) ∧
      teardown.result.report.results = tornDown.map Visit.recorded ∧
      teardown.exchanges = tornDown.flatMap Visit.exchanges ∧
      ∀ here ∈ tornDown, here.recorded.error ≠ some "" ∧
        (here.recorded.action = .failed → ∃ text, here.Explains text) := by
  rw [converse_provision, converse_teardown]
  dsimp only
  rw [RunOutcome.report_ofWalk, RunOutcome.report_ofWalk]
  refine ⟨⟨rfl, rfl, fun here member => ?_⟩, rfl, rfl, fun here member => ?_⟩
  · obtain ⟨outcome, course, same⟩ := Provision.visit_course service state options _ member
    exact ⟨(Provision.explained_of_course course same).empty_iff,
      (Provision.explained_of_course course same).explains⟩
  · exact (Teardown.visit_told service state options _ tags member).explains

/-- A document with one product. -/
def storeroom : Document :=
  { workshop with resources := [⟨.product, "Widget", [], "widget", []⟩] }

/-- A reply that lists no product, and a failure with an empty message. -/
def speechless : Json :=
  .object [("failed", .array [.object [("message", .string "")]]), ("products", .array [])]

/-- A service that replies in this way to everything. -/
def mute : Service Unit := fun _ _ => (.ok speechless, ())

/-- The visit of the product. -/
def widgetVisit : Visit Unit Identifiers :=
  Walk.visit mute (Provision.step thoroughly (thoroughly.scope storeroom)) .empty ()
    ⟨.product, "Widget", [], "widget", []⟩

/-- The product fails without a word. -/
theorem failures_explained_mute :
    let run := converse mute () (storeroom.provision thoroughly .epoch)
    run.result.report.results = [widgetVisit.recorded] ∧ widgetVisit.recorded.action = .failed ∧
      widgetVisit.Wordless ∧ widgetVisit.recorded.error = some "" := by
  intro run
  have visited : storeroom.provisionVisits mute () thoroughly = [widgetVisit] := rfl
  have unnamed : ∀ id, ¬ Kind.product.Names speechless id := fun id named => by
    have none : ((entriesUnder "products" speechless).filterMap idOf?).head? = none := by
      decide +kernel
    rw [firstUsable_iff.mpr named] at none
    cases none
  have wordless : widgetVisit.Wordless := ⟨_, _, speechless, rfl, unnamed, by decide +kernel⟩
  obtain ⟨⟨results, _, visits⟩, _⟩ := failures_explained mute () thoroughly .epoch storeroom []
  rw [visited] at results visits
  exact ⟨results, rfl, wordless, (visits _ List.mem_cons_self).1.mpr wordless⟩

end Run

end ResourceGraph
