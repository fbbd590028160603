/-
**When a command line reaches for the network, and how it ends.**

Nothing is delivered before everything is in place: a command that provisions or deletes and is no
dry run, a valid document, an address and a key, and the word for a deletion that asks for it. The
exit code of such a command is a success only if the deletion was declined or the run went through
with every resource.

* `Supplied`: a setting that is not blank; `reach_eq_ok_iff` says which ones a run needs;
* `Plan.Took`: the run that took place among the events of a session; `Took.unique`;
* `Plan.Cleared`: what has to be in place before a request is delivered; `Course.cleared`;
* `Declined`: a line was read that is not the word; `Course.of_declined`;
* `Course.of_took`: a run that took place decides the exit code; `Course.of_success`,
  `Course.of_lacking`;
* `carryOut_gated`: every command line.
-/

import Mathlib.Data.List.Basic
import Mathlib.Data.List.TakeWhile
import ResourceGraph.Proofs.Command.Course
import ResourceGraph.Proofs.Document.Grammar
import ResourceGraph.Proofs.Document.Library
import ResourceGraph.Proofs.Text.Pieces

namespace ResourceGraph

open Interaction (AllAsks replay)
open Session

/-! ### Settings -/

/-- A setting that is given and is not blank. -/
def Supplied (setting : Option String) : Prop :=
  ∃ text, setting = some text ∧ Grammar.Filled text

theorem Settings.required_eq_ok_iff (name : String) {setting : Option String} :
    (∃ value, Settings.required name setting = .ok value) ↔ Supplied setting := by
  unfold Settings.required Supplied
  cases setting with
  | none => simp
  | some text =>
    simp only [Option.map_some, Option.filter_some, Text.isEmpty_trim,
      ← Schema.isBlankText_eq_false_iff, Option.some.injEq, exists_eq_left']
    cases Text.isBlankText text with
    | true => simp
    | false => simp

namespace Workplace

variable {place : Workplace}

theorem reach_of_dry {connection : Option HttpClient}
    (reaches : place.reach true = .ok connection) : connection = none := by
  cases reaches
  rfl

/-- **The service can be reached exactly if the address and the key are supplied.** -/
theorem reach_eq_ok_iff :
    (∃ connection, place.reach false = .ok connection) ↔
      Supplied place.settings.apiUrl ∧ Supplied place.settings.apiKey := by
  rw [← Settings.required_eq_ok_iff Settings.apiUrlVariable,
    ← Settings.required_eq_ok_iff Settings.apiKeyVariable]
  unfold reach Settings.requiredUrl Settings.requiredKey
  cases Settings.required Settings.apiUrlVariable place.settings.apiUrl with
  | error failure => simp [bind, Except.bind]
  | ok url =>
    cases Settings.required Settings.apiKeyVariable place.settings.apiKey with
    | error failure => simp [bind, Except.bind]
    | ok key => simp [bind, Except.bind, pure, Except.pure]

end Workplace

/-! ### Deliveries -/

theorem sessionDeliveriesOf_append (first second : List SessionEvent) :
    sessionDeliveriesOf (first ++ second) =
      sessionDeliveriesOf first ++ sessionDeliveriesOf second :=
  List.filterMap_append

theorem sessionDeliveriesOf_eq_nil {events : List SessionEvent}
    (none : ∀ event ∈ events, ∀ request, event.1 ≠ .wire (.deliver request)) :
    sessionDeliveriesOf events = [] := by
  refine List.filterMap_eq_nil_iff.mpr fun event member => ?_
  have other := none event member
  split
  · exact absurd ‹_› (other _)
  · rfl

theorem sessionDeliveriesOf_ne_nil {before after : List SessionEvent} {request : WireRequest}
    {delivery : Delivery} :
    sessionDeliveriesOf (before ++ ⟨.wire (.deliver request), delivery⟩ :: after) ≠ [] := by
  rw [sessionDeliveriesOf_append]
  exact List.append_ne_nil_of_right_ne_nil _ (List.cons_ne_nil _ _)

theorem exists_delivery {events : List SessionEvent} (delivered : sessionDeliveriesOf events ≠ []) :
    ∃ before request delivery after,
      events = before ++ ⟨.wire (.deliver request), delivery⟩ :: after := by
  by_contra none
  refine delivered (sessionDeliveriesOf_eq_nil fun event member request same => none ?_)
  obtain ⟨step, delivery⟩ := event
  obtain rfl : step = _ := same
  obtain ⟨before, after, split⟩ := List.append_of_mem member
  exact ⟨before, request, delivery, after, split⟩

/-- Where nothing is delivered, all events come before a delivery. -/
theorem subset_before_delivery {opening rest before after : List SessionEvent}
    {request : WireRequest} {delivery : Delivery} (none : sessionDeliveriesOf opening = [])
    (split : opening ++ rest = before ++ ⟨.wire (.deliver request), delivery⟩ :: after) :
    opening ⊆ before := by
  rcases List.append_eq_append_iff.mp split with ⟨more, rfl, _⟩ | ⟨more, rfl, tail⟩
  · exact List.subset_append_left _ _
  · cases more with
    | nil => exact List.append_subset.mpr ⟨List.Subset.refl _, List.nil_subset _⟩
    | cons here more =>
      obtain ⟨rfl, _⟩ := List.cons.inj tail
      exact absurd none sessionDeliveriesOf_ne_nil

theorem Quiet.deliveries {events : List SessionEvent} (quiet : Quiet events) :
    sessionDeliveriesOf events = [] := by
  refine sessionDeliveriesOf_eq_nil fun event member request same => ?_
  have silent := quiet event member
  rw [same] at silent
  exact silent

/-- A run that cannot reach the service only says something. -/
theorem silent_carry {α : Type} (dialogue : Dialogue α) :
    Silent (Workplace.carry none dialogue) := by
  have logs : AllAsks (fun step : WireStep => ∃ entry, step = .log entry)
      (dialogue.expand Workplace.offlineStep) := by
    refine (AllAsks.trivial dialogue).expand fun call _ => ?_
    cases call with
    | send request => exact .done _
    | log entry => exact .asking ⟨entry, rfl⟩
  refine logs.expand fun step logged => ?_
  obtain ⟨entry, rfl⟩ := logged
  exact .asking trivial

/-- A run only talks to the service and writes log entries. -/
theorem wires_carry {α : Type} (connection : Option HttpClient) (dialogue : Dialogue α) :
    AllAsks (fun step => ∃ wired, step = .wire wired) (Workplace.carry connection dialogue) :=
  (AllAsks.trivial _).expand fun step _ => .asking ⟨step, rfl⟩

/-! ### Lines that are read -/

/-- A line was read that is not the word which confirms a deletion. -/
def Declined (events : List SessionEvent) : Prop :=
  ∃ line, ⟨.readLine, .ok line⟩ ∈ events ∧ Text.trim line ≠ Workplace.confirmation

theorem Quiet.not_read {events : List SessionEvent} (quiet : Quiet events)
    {reply : Except String String} : ⟨.readLine, reply⟩ ∉ events :=
  fun member => quiet _ member

theorem Quiet.not_declined {events : List SessionEvent} (quiet : Quiet events) :
    ¬ Declined events := by
  rintro ⟨line, member, _⟩
  exact quiet.not_read member

theorem Quiet.not_identified {events : List SessionEvent} (quiet : Quiet events) :
    ∀ event ∈ events, event.1 ≠ .identify := by
  intro event member same
  have silent := quiet event member
  rw [same] at silent
  exact silent

section Read

variable {first second : List SessionEvent} {reply : Except String String} (before : Quiet first)
  (after : Quiet second)

include before after

/-- Only one line is read among quiet events. -/
theorem eq_of_read {other : Except String String}
    (member : ⟨.readLine, other⟩ ∈ first ++ ⟨.readLine, reply⟩ :: second) : other = reply := by
  rcases List.mem_append.mp member with earlier | here
  · exact absurd earlier before.not_read
  · rcases List.mem_cons.mp here with same | later
    · cases same
      rfl
    · exact absurd later after.not_read

theorem deliveries_of_read : sessionDeliveriesOf (first ++ ⟨.readLine, reply⟩ :: second) = [] := by
  rw [sessionDeliveriesOf_append, before.deliveries]
  exact after.deliveries

theorem not_identified_of_read :
    ∀ event ∈ first ++ ⟨.readLine, reply⟩ :: second, event.1 ≠ .identify :=
  List.forall_mem_append.mpr ⟨before.not_identified,
    List.forall_mem_cons.mpr ⟨SessionStep.noConfusion, after.not_identified⟩⟩

end Read

namespace Plan

variable {plan : Plan} {events : List SessionEvent}

theorem Agreed.deliveries (agreed : plan.Agreed events) : sessionDeliveriesOf events = [] := by
  cases agreed with
  | unasked trusted quiet => exact quiet.deliveries
  | confirmed asks before word after => exact deliveries_of_read before after

theorem Agreed.not_declined (agreed : plan.Agreed events) : ¬ Declined events := by
  cases agreed with
  | unasked trusted quiet => exact quiet.not_declined
  | confirmed asks before word after =>
    rintro ⟨line, member, other⟩
    cases eq_of_read before after member
    exact other word

theorem Agreed.exists_word (agreed : plan.Agreed events) (asks : plan.asks = true) :
    ∃ line, ⟨.readLine, .ok line⟩ ∈ events ∧ Text.trim line = Workplace.confirmation := by
  cases agreed with
  | unasked trusted quiet =>
    rw [trusted] at asks
    cases asks
  | @confirmed first second line asks before word after =>
    exact ⟨line, List.mem_append_right _ List.mem_cons_self, word⟩

theorem Agreed.not_identified (agreed : plan.Agreed events) :
    ∀ event ∈ events, event.1 ≠ .identify := by
  cases agreed with
  | unasked trusted quiet => exact quiet.not_identified
  | confirmed asks before word after => exact not_identified_of_read before after

/-! ### The run of a plan -/

/-- The first value of a kind parts a list in one way. -/
theorem append_cons_inj_of_first {α : Type} (kind : α → Prop) {first second rest more : List α}
    {here there : α} (firstNone : ∀ value ∈ first, ¬ kind value)
    (secondNone : ∀ value ∈ second, ¬ kind value)
    (hereIs : kind here) (thereIs : kind there)
    (same : first ++ here :: rest = second ++ there :: more) :
    first = second ∧ here = there ∧ rest = more := by
  rcases List.append_eq_append_iff.mp same with ⟨between, rfl, parts⟩ | ⟨between, rfl, parts⟩
  · cases between with
    | nil =>
      obtain ⟨rfl, rfl⟩ := List.cons.inj parts
      exact ⟨(List.append_nil _).symm, rfl, rfl⟩
    | cons value between =>
      obtain ⟨rfl, _⟩ := List.cons.inj parts
      exact absurd hereIs (secondNone here (List.mem_append_right _ List.mem_cons_self))
  · cases between with
    | nil =>
      obtain ⟨rfl, rfl⟩ := List.cons.inj parts
      exact ⟨List.append_nil _, rfl, rfl⟩
    | cons value between =>
      obtain ⟨rfl, _⟩ := List.cons.inj parts
      exact absurd thereIs (firstNone there (List.mem_append_right _ List.mem_cons_self))

section Course

variable {σ : Type} (plan : Plan) (place : Workplace)
  (answer : (step : SessionStep) → σ → step.Answer × σ) (state : σ)

/-- **The run took place among the events, and this is what it ended with.** It is the dialogue of
the plan over the document of its name, from the state that the events before it leave; it starts
with the first identifier that is made. -/
inductive Took : List SessionEvent → RunOutcome → Prop where
  | run {validated : Validated} {connection : Option HttpClient} {earlier after : List SessionEvent}
      {runId : RunId} {started : Instant}
      (provides : place.library.Provides place.tree plan.name validated)
      (reaches : place.reach plan.options.dryRun = .ok connection)
      (first : ∀ event ∈ earlier, event.1 ≠ .identify) :
      Took (begun earlier runId started ++
          (plan.talk answer state connection validated.document earlier runId started).events ++
            after)
        (plan.talk answer state connection validated.document earlier runId started).result

/-- **What has to be in place before a request is delivered**, with the events up to then. -/
structure Cleared (before : List SessionEvent) : Prop where
  wet : plan.options.dryRun = false
  provides : ∃ validated, place.library.Provides place.tree plan.name validated
  address : Supplied place.settings.apiUrl
  key : Supplied place.settings.apiKey
  agreed : plan.asks = true →
    ∃ line, ⟨.readLine, .ok line⟩ ∈ before ∧ Text.trim line = Workplace.confirmation

variable {plan place answer state} {code : ExitCode}

theorem Took.identified {outcome : RunOutcome}
    (took : plan.Took place answer state events outcome) :
    ∃ event ∈ events, event.1 = .identify := by
  cases took with
  | @run validated connection earlier after runId started provides reaches first =>
    refine ⟨⟨.identify, runId⟩, ?_, rfl⟩
    exact List.mem_append_left _
      (List.mem_append_left _ (List.mem_append_right _ List.mem_cons_self))

/-- Only one run takes place. -/
theorem Took.unique {outcome other : RunOutcome}
    (took : plan.Took place answer state events outcome)
    (others : plan.Took place answer state events other) : outcome = other := by
  generalize same : events = given at others
  cases took with
  | @run validated connection earlier after runId started provides reaches first =>
    cases others with
    | @run validated' connection' earlier' after' runId' started' provides' reaches' first' =>
      obtain rfl := provides.unique provides'
      cases reaches.symm.trans reaches'
      unfold begun at same
      simp only [List.append_assoc, List.cons_append, List.nil_append] at same
      obtain ⟨rfl, identified, rest⟩ :=
        append_cons_inj_of_first (fun event => event.1 = .identify) first first' rfl rfl same
      cases identified
      cases (List.cons.inj rest).1
      rfl

/-- **A request is only delivered when everything is in place.** -/
theorem Course.cleared (course : plan.Course place answer state events code)
    {before after : List SessionEvent} {request : WireRequest} {delivery : Delivery}
    (split : events = before ++ ⟨.wire (.deliver request), delivery⟩ :: after) :
    plan.Cleared place before := by
  have delivered : sessionDeliveriesOf events ≠ [] := by
    rw [split]
    exact sessionDeliveriesOf_ne_nil
  cases course with
  | unloaded fails quiet => exact absurd quiet.deliveries delivered
  | unread loads asks first second => exact absurd (deliveries_of_read first second) delivered
  | declined loads asks first other second =>
    exact absurd (deliveries_of_read first second) delivered
  | unreached loads agreed lacks => exact absurd agreed.deliveries delivered
  | @ran validated connection earlier rest runId started finished _ loads agreed reaches
      quiet ends =>
    -- before the run there are no deliveries, so the one at hand comes later
    have opening : sessionDeliveriesOf (begun earlier runId started) = [] := by
      unfold begun
      rw [sessionDeliveriesOf_append, agreed.deliveries]
      rfl
    have closing : sessionDeliveriesOf (⟨.takeTime, finished⟩ :: rest) = [] := quiet.deliveries
    have wet : plan.options.dryRun = false := by
      refine Bool.eq_false_iff.mpr fun dry => delivered ?_
      rw [dry] at reaches
      obtain rfl := Workplace.reach_of_dry reaches
      have talked : Quiet _ :=
        (silent_carry (plan.dialogue validated.document ⟨runId, started, started⟩)).of_mem answer
          (replay answer state (begun earlier runId started))
      rw [sessionDeliveriesOf_append, sessionDeliveriesOf_append, opening, closing]
      exact (congrArg (· ++ []) talked.deliveries)
    rw [wet] at reaches
    obtain ⟨address, key⟩ := Workplace.reach_eq_ok_iff.mp ⟨connection, reaches⟩
    refine ⟨wet, ⟨validated, Library.load_eq_ok_iff.mp loads⟩, address, key, fun asks => ?_⟩
    obtain ⟨line, member, word⟩ := agreed.exists_word asks
    rw [List.append_assoc] at split
    exact ⟨line, subset_before_delivery opening split (List.mem_append_left _ member), word⟩

/-- **After another line nothing is delivered**, and the command ends in success. -/
theorem Course.of_declined (course : plan.Course place answer state events code)
    (declined : Declined events) : code = .success ∧ sessionDeliveriesOf events = [] := by
  cases course with
  | unloaded fails quiet => exact absurd declined quiet.not_declined
  | unread loads asks first second =>
    obtain ⟨line, member, _⟩ := declined
    cases eq_of_read first second member
  | declined loads asks first other second => exact ⟨rfl, deliveries_of_read first second⟩
  | unreached loads agreed lacks => exact absurd declined agreed.not_declined
  | @ran validated connection earlier rest runId started finished _ loads agreed reaches
      quiet ends =>
    obtain ⟨line, member, other⟩ := declined
    have talked := (wires_carry connection (plan.dialogue validated.document
      ⟨runId, started, started⟩)).of_mem answer (replay answer state (begun earlier runId started))
    rcases List.mem_append.mp member with opening | closing
    · rcases List.mem_append.mp opening with before | inside
      · rcases List.mem_append.mp before with asked | starting
        · exact absurd ⟨line, asked, other⟩ agreed.not_declined
        · rcases List.mem_cons.mp starting with same | timed
          · cases same
          · cases List.mem_singleton.mp timed
      · obtain ⟨wired, same⟩ := talked _ inside
        cases same
    · rcases List.mem_cons.mp closing with same | later
      · cases same
      · exact absurd later quiet.not_read

/-- **A success is declined or clean.** -/
theorem Course.of_success (course : plan.Course place answer state events .success) :
    Declined events ∨ ∃ outcome, plan.Took place answer state events outcome ∧ outcome.Clean := by
  cases course with
  | declined loads asks first other second =>
    exact Or.inl ⟨_, List.mem_append_right _ List.mem_cons_self, other⟩
  | ran loads agreed reaches quiet ends =>
    refine Or.inr ⟨_, .run (Library.load_eq_ok_iff.mp loads) reaches agreed.not_identified, ?_⟩
    rcases ends with ⟨_, clean⟩ | ⟨failed, _⟩
    · exact clean
    · cases failed

/-- Where an identifier is made, a run took place and decides the exit code. -/
theorem Course.exists_took (course : plan.Course place answer state events code)
    {event : SessionEvent} (member : event ∈ events) (identified : event.1 = .identify) :
    ∃ outcome, plan.Took place answer state events outcome ∧ Settles outcome events code := by
  cases course with
  | unloaded fails quiet => exact absurd identified (quiet.not_identified event member)
  | unread loads asks first second =>
    exact absurd identified (not_identified_of_read first second event member)
  | declined loads asks first other second =>
    exact absurd identified (not_identified_of_read first second event member)
  | unreached loads agreed lacks => exact absurd identified (agreed.not_identified event member)
  | ran loads agreed reaches quiet ends =>
    refine ⟨_, .run (Library.load_eq_ok_iff.mp loads) reaches agreed.not_identified, ?_⟩
    exact ends.of_subset fun event member => List.mem_append_right _ (List.mem_cons_of_mem _ member)

/-- **A run that took place decides the exit code.** -/
theorem Course.of_took (course : plan.Course place answer state events code) {outcome : RunOutcome}
    (took : plan.Took place answer state events outcome) : Settles outcome events code := by
  obtain ⟨event, member, identified⟩ := took.identified
  obtain ⟨same, ran, settles⟩ := course.exists_took member identified
  rw [took.unique ran]
  exact settles

/-- Without a valid document, or without a setting that is needed, the command fails. -/
theorem Course.of_lacking (course : plan.Course place answer state events code)
    (lacks : (∀ validated, ¬ place.library.Provides place.tree plan.name validated) ∨
      plan.options.dryRun = false ∧ ¬ Declined events ∧
        ¬ (Supplied place.settings.apiUrl ∧ Supplied place.settings.apiKey)) : code = .failure := by
  cases course with
  | unloaded fails quiet => rfl
  | unread loads asks first second => rfl
  | declined loads asks first other second =>
    rcases lacks with unprovided | ⟨_, going, _⟩
    · exact absurd (Library.load_eq_ok_iff.mp loads) (unprovided _)
    · exact absurd ⟨_, List.mem_append_right _ List.mem_cons_self, other⟩ going
  | unreached loads agreed missing => rfl
  | ran loads agreed reaches quiet ends =>
    rcases lacks with unprovided | ⟨wet, _, unsupplied⟩
    · exact absurd (Library.load_eq_ok_iff.mp loads) (unprovided _)
    · rw [wet] at reaches
      exact absurd (Workplace.reach_eq_ok_iff.mp ⟨_, reaches⟩) unsupplied

end Course

end Plan

/-! ### Command lines -/

/-- **When a command line reaches for the network, and how it ends.** Whatever the surroundings
answer, a request is only delivered for a command that provisions or deletes, once everything is in
place for it. Such a command ends in success only if the deletion was declined, and then nothing was
delivered, or if the run took place and is clean. Without a valid document or without a setting that
the run needs it ends in failure. A run takes place wherever an identifier is made, and settles the
exit code: a failure if it was aborted or some resource failed, and a success otherwise, unless its
report could not be written. -/
theorem carryOut_gated {σ : Type} (answer : (step : SessionStep) → σ → step.Answer × σ) (state : σ)
    (tree : FileTree) (environment : Environment) (terminal : Bool) (words : List String) :
    let session := Interaction.run answer state (carryOut tree environment terminal words)
    (∀ before request delivery after,
      session.events = before ++ ⟨.wire (.deliver request), delivery⟩ :: after →
        ∃ place plan, AsksFor tree environment terminal words place plan ∧
          plan.Cleared place before) ∧
    ∀ place plan, AsksFor tree environment terminal words place plan →
      (session.result = .success → Declined session.events ∨
        ∃ outcome, plan.Took place answer state session.events outcome ∧ outcome.Clean) ∧
      (Declined session.events → session.result = .success ∧
        sessionDeliveriesOf session.events = []) ∧
      ((∀ validated, ¬ place.library.Provides place.tree plan.name validated) →
        session.result = .failure) ∧
      (plan.options.dryRun = false → ¬ Declined session.events →
        ¬ (Supplied place.settings.apiUrl ∧ Supplied place.settings.apiKey) →
          session.result = .failure) ∧
      ((∃ event ∈ session.events, event.1 = .identify) →
        ∃ outcome, plan.Took place answer state session.events outcome) ∧
      ∀ outcome, plan.Took place answer state session.events outcome →
        Settles outcome session.events session.result := by
  intro session
  refine ⟨fun before request delivery after split => ?_, fun place plan asksFor => ?_⟩
  · by_cases planned : ∃ place plan, AsksFor tree environment terminal words place plan
    · obtain ⟨place, plan, asksFor⟩ := planned
      have course := carryOut_course answer state tree environment terminal words asksFor
      exact ⟨place, plan, asksFor, course.cleared split⟩
    · have quiet : Quiet session.events :=
        quiet_carryOut answer state tree environment terminal words
          fun place plan asksFor => planned ⟨place, plan, asksFor⟩
      refine absurd quiet.deliveries ?_
      rw [split]
      exact sessionDeliveriesOf_ne_nil
  · have course : plan.Course place answer state session.events session.result :=
      carryOut_course answer state tree environment terminal words asksFor
    refine ⟨fun success => ?_, course.of_declined,
      fun unprovided => course.of_lacking (Or.inl unprovided),
      fun wet going unsupplied => course.of_lacking (Or.inr ⟨wet, going, unsupplied⟩),
      fun ⟨event, member, identified⟩ => ?_, fun outcome took => course.of_took took⟩
    · rw [success] at course
      exact course.of_success
    · obtain ⟨outcome, took, _⟩ := course.exists_took member identified
      exact ⟨outcome, took⟩

/-- A document with one location, as a file. -/
def shelfText : String :=
  "format_version: 1.0\nname: a\ntitle: a\nresources:\n" ++
    "- type: location\n  name: a\n  id_reference: a\n  properties:\n    a: b\n"

/-- A working directory with the document in its library. -/
def shelfTree : FileTree :=
  (FileTree.empty "/w").add "documents/a.yaml" (.file shelfText.toUTF8.toList)

/-- Surroundings without a network, where nobody confirms anything. -/
def secluded : (step : SessionStep) → Unit → step.Answer × Unit
  | .output _, _ => ((), ())
  | .complain _, _ => ((), ())
  | .readLine, _ => (.ok "", ())
  | .writeFile _ _, _ => (.ok (), ())
  | .takeTime, _ => (⟨0, 0, 0⟩, ())
  | .identify, _ => (Occasion.epoch.runId, ())
  | .wire (.deliver _), _ => (.error "down", ())
  | .wire (.wait _), _ => ((), ())
  | .wire (.log _), _ => ((), ())

/-- A command line that provisions the document. -/
def shelfWords : List String := ["--api-url", "http://a", "--api-key", "k", "provision", "a"]

/-- What is delivered in vain is delivered with everything in place. -/
theorem carryOut_gated_secluded :
    ∃ before request delivery after,
      (Interaction.run secluded () (carryOut shelfTree ⟨[]⟩ false shelfWords)).events =
        before ++ ⟨.wire (.deliver request), delivery⟩ :: after ∧
      ∃ place plan, AsksFor shelfTree ⟨[]⟩ false shelfWords place plan ∧
        plan.Cleared place before := by
  have delivered : sessionDeliveriesOf
      (Interaction.run secluded () (carryOut shelfTree ⟨[]⟩ false shelfWords)).events ≠ [] := by
    decide +kernel
  obtain ⟨before, request, delivery, after, split⟩ := exists_delivery delivered
  exact ⟨before, request, delivery, after, split,
    (carryOut_gated secluded () shelfTree ⟨[]⟩ false shelfWords).1 before request delivery
      after split⟩

end ResourceGraph
