/-
**How a command that runs something takes its course.**

Provisioning and deleting do the same but for what they run: the document is loaded, a deletion is
confirmed, the service is reached for, and the run takes place. Each of these steps can be the last.

* `RunOutcome.Clean`, `Settles`: how a run ends, and which exit code that leads to;
* `Plan`: the run that a command asks for; `perform_eq_follow` says that the command follows it;
* `Plan.Agreed`: the events of asking for a word, with the word as the answer;
* `Plan.Course`: the ways in which following a plan goes, each with its events and its exit code;
* `follow_course`: following a plan goes one of these ways;
* `carryOut_course`: so does the session of a command line that asks for a run, and any other
  session is quiet.
-/

import ResourceGraph.Proofs.Command.Steps
import ResourceGraph.Proofs.Http.Runs

namespace ResourceGraph

open Interaction (replay replay_append state_run)
open Session

/-! ### How a run ends -/

/-- The run was finished, and no resource failed. -/
def RunOutcome.Clean : RunOutcome → Prop
  | .ok report => ∀ result ∈ report.results, result.action ≠ .failed
  | .error _ => False

/-- A file could not be written. -/
def Unsaved (events : List SessionEvent) : Prop :=
  ∃ path text reason, ⟨.writeFile path text, .error reason⟩ ∈ events

theorem Unsaved.of_subset {events more : List SessionEvent} (unsaved : Unsaved events)
    (subset : events ⊆ more) : Unsaved more := by
  obtain ⟨path, text, reason, member⟩ := unsaved
  exact ⟨path, text, reason, subset member⟩

/-- **The exit code of a run that took place**: a success only if the run is clean, and then unless
its report could not be written. -/
def Settles (outcome : RunOutcome) (events : List SessionEvent) (code : ExitCode) : Prop :=
  code = .success ∧ outcome.Clean ∨ code = .failure ∧ (outcome.Clean → Unsaved events)

theorem Settles.of_subset {outcome : RunOutcome} {events more : List SessionEvent} {code : ExitCode}
    (settles : Settles outcome events code) (subset : events ⊆ more) : Settles outcome more code :=
  settles.imp_right fun ⟨failed, spoiled⟩ => ⟨failed, fun clean => (spoiled clean).of_subset subset⟩

theorem settles_finishedAt {time : Instant} {outcome : RunOutcome} {events : List SessionEvent}
    {code : ExitCode} :
    Settles (Workplace.finishedAt time outcome) events code ↔ Settles outcome events code := by
  cases outcome with
  | ok report => rfl
  | error abort => rfl

/-! ### Plans -/

/-- A run that a command asks for. -/
structure Plan where
  name : String
  operation : Operation
  options : RunOptions
  tags : List String
  /-- A word has to be given before the run. -/
  asks : Bool
  reportPath : Option String

/-- What the run says to the service. -/
def Plan.dialogue (plan : Plan) (document : Document) (occasion : Occasion) : Dialogue RunOutcome :=
  document.run plan.operation plan.options occasion plan.tags

namespace Workplace

variable (place : Workplace)

/-- The run that a command asks for, if it is one that provisions or deletes. -/
def plan? : Command → Option Plan
  | .list => none
  | .info _ => none
  | .validate _ => none
  | .provision name dryRun strict policy path =>
    some ⟨name, .provision, place.options dryRun policy strict, [], false, path⟩
  | .delete name dryRun tags confirmed path =>
    some ⟨name, .teardown, place.options dryRun .fail false, tags, !(confirmed || dryRun), path⟩

/-- Does the run of a plan over a document. -/
def pursue (plan : Plan) (document : Document) : Task ExitCode := do
  let connection ← place.connection plan.options.dryRun
  place.run connection (plan.dialogue document) plan.reportPath

/-- Does the run of a plan over a document, if that is agreed to. -/
def goAhead (plan : Plan) (document : Document) (agreed : Bool) : Task ExitCode := do
  if agreed then place.pursue plan document
  else
    Session.complain "Delete cancelled.\n"
    return .success

/-- Does the run of a plan, if the document is there and the run is agreed to. -/
def follow (plan : Plan) : Task ExitCode := do
  let validated ← place.load plan.name
  if plan.asks then
    let agreed ← confirm validated.document plan.options.tool plan.tags
    place.goAhead plan validated.document agreed
  else place.pursue plan validated.document

/-- **A command that asks for a run follows its plan.** -/
theorem perform_eq_follow {command : Command} {plan : Plan}
    (planned : place.plan? command = some plan) :
    place.perform command = place.follow plan := by
  cases command with
  | list => cases planned
  | info name => cases planned
  | validate target => cases planned
  | provision name dryRun strict policy path =>
    cases planned
    rfl
  | delete name dryRun tags confirmed path =>
    cases planned
    unfold perform delete follow
    refine congrArg (place.load name >>= ·) (funext fun validated => ?_)
    cases confirmed with
    | true => rfl
    | false =>
      cases dryRun with
      | true => rfl
      | false => rfl

/-- A command that asks for no run only says something. -/
theorem silent_perform {command : Command} (planless : place.plan? command = none) :
    Silent (place.perform command).run := by
  cases command with
  | list => exact allAsks_lift place.silent_listDocuments
  | info name => exact place.silent_showDocument name
  | validate target => exact place.silent_validate target
  | provision name dryRun strict policy path => cases planless
  | delete name dryRun tags confirmed path => cases planless

end Workplace

/-! ### The ways in which it goes -/

namespace Plan

/-- **The run is agreed to**: nobody has to be asked, or the line that is read is the word. -/
inductive Agreed (plan : Plan) : List SessionEvent → Prop where
  | unasked {events : List SessionEvent} (trusted : plan.asks = false) (quiet : Quiet events) :
      Agreed plan events
  | confirmed {first second : List SessionEvent} {line : String} (asks : plan.asks = true)
      (before : Quiet first) (word : Text.trim line = Workplace.confirmation)
      (after : Quiet second) :
      Agreed plan (first ++ ⟨.readLine, .ok line⟩ :: second)

theorem Agreed.prepend {plan : Plan} {earlier events : List SessionEvent} (quiet : Quiet earlier)
    (agreed : plan.Agreed events) : plan.Agreed (earlier ++ events) := by
  cases agreed with
  | unasked trusted rest => exact .unasked trusted (quiet.append rest)
  | confirmed asks before word after =>
    rw [← List.append_assoc]
    exact .confirmed asks (quiet.append before) word after

theorem Agreed.append {plan : Plan} {events later : List SessionEvent} (agreed : plan.Agreed events)
    (quiet : Quiet later) : plan.Agreed (events ++ later) := by
  cases agreed with
  | unasked trusted rest => exact .unasked trusted (rest.append quiet)
  | confirmed asks before word after =>
    rw [List.append_assoc]
    exact .confirmed asks before word (after.append quiet)

/-- The events up to the run, which starts with an identifier and the time. -/
def begun (earlier : List SessionEvent) (runId : RunId) (started : Instant) : List SessionEvent :=
  earlier ++ [⟨.identify, runId⟩, ⟨.takeTime, started⟩]

section Course

variable {σ : Type} (plan : Plan) (place : Workplace)
  (answer : (step : SessionStep) → σ → step.Answer × σ) (state : σ)

/-- The run over a document, from the state that the events before it leave. -/
def talk (connection : Option HttpClient) (document : Document) (earlier : List SessionEvent)
    (runId : RunId) (started : Instant) :
    Interaction.Outcome SessionStep SessionStep.Answer σ RunOutcome :=
  Interaction.run answer (replay answer state (begun earlier runId started))
    (Workplace.carry connection (plan.dialogue document ⟨runId, started, started⟩))

theorem talk_replay (connection : Option HttpClient) (document : Document)
    (earlier before : List SessionEvent) (runId : RunId) (started : Instant) :
    plan.talk answer (replay answer state earlier) connection document before runId started =
      plan.talk answer state connection document (earlier ++ before) runId started := by
  unfold talk begun
  rw [List.append_assoc, ← replay_append]

theorem append_begun_append (earlier before middle rest : List SessionEvent) (runId : RunId)
    (started : Instant) :
    earlier ++ (begun before runId started ++ middle ++ rest) =
      begun (earlier ++ before) runId started ++ middle ++ rest := by
  simp only [begun, List.append_assoc]

/-- **The ways in which following a plan goes**, with the events and the exit code. -/
inductive Course : List SessionEvent → ExitCode → Prop where
  | unloaded {events : List SessionEvent} {failure : Failure}
      (fails : (place.library.load place.tree plan.name).value = .error failure)
      (quiet : Quiet events) : Course events .failure
  | unread {validated : Validated} {first second : List SessionEvent} {reason : String}
      (loads : (place.library.load place.tree plan.name).value = .ok validated)
      (asks : plan.asks = true) (before : Quiet first) (after : Quiet second) :
      Course (first ++ ⟨.readLine, .error reason⟩ :: second) .failure
  | declined {validated : Validated} {first second : List SessionEvent} {line : String}
      (loads : (place.library.load place.tree plan.name).value = .ok validated)
      (asks : plan.asks = true) (before : Quiet first)
      (other : Text.trim line ≠ Workplace.confirmation) (after : Quiet second) :
      Course (first ++ ⟨.readLine, .ok line⟩ :: second) .success
  | unreached {validated : Validated} {events : List SessionEvent} {failure : Failure}
      (loads : (place.library.load place.tree plan.name).value = .ok validated)
      (agreed : plan.Agreed events) (lacks : place.reach plan.options.dryRun = .error failure) :
      Course events .failure
  | ran {validated : Validated} {connection : Option HttpClient} {earlier after : List SessionEvent}
      {runId : RunId} {started finished : Instant} {code : ExitCode}
      (loads : (place.library.load place.tree plan.name).value = .ok validated)
      (agreed : plan.Agreed earlier) (reaches : place.reach plan.options.dryRun = .ok connection)
      (quiet : Quiet after)
      (ends : Settles
        (plan.talk answer state connection validated.document earlier runId started).result
          after code) :
      Course (begun earlier runId started ++
          (plan.talk answer state connection validated.document earlier runId started).events ++
            ⟨.takeTime, finished⟩ :: after) code

variable {plan place answer state}

theorem Course.prepend {earlier events : List SessionEvent} {code : ExitCode}
    (quiet : Quiet earlier)
    (course : plan.Course place answer (replay answer state earlier) events code) :
    plan.Course place answer state (earlier ++ events) code := by
  cases course with
  | unloaded fails rest => exact .unloaded fails (quiet.append rest)
  | unread loads asks before after =>
    rw [← List.append_assoc]
    exact .unread loads asks (quiet.append before) after
  | declined loads asks before other after =>
    rw [← List.append_assoc]
    exact .declined loads asks (quiet.append before) other after
  | unreached loads agreed lacks => exact .unreached loads (agreed.prepend quiet) lacks
  | @ran validated connection before after runId started finished code loads agreed reaches
      rest ends =>
    rw [talk_replay] at ends ⊢
    rw [append_begun_append]
    exact .ran loads (agreed.prepend quiet) reaches rest ends

theorem Course.append {events later : List SessionEvent} {code : ExitCode}
    (course : plan.Course place answer state events code) (quiet : Quiet later) :
    plan.Course place answer state (events ++ later) code := by
  cases course with
  | unloaded fails rest => exact .unloaded fails (rest.append quiet)
  | unread loads asks before after =>
    rw [List.append_assoc]
    exact .unread loads asks before (after.append quiet)
  | declined loads asks before other after =>
    rw [List.append_assoc]
    exact .declined loads asks before other (after.append quiet)
  | unreached loads agreed lacks => exact .unreached loads (agreed.append quiet) lacks
  | ran loads agreed reaches rest ends =>
    rw [List.append_assoc]
    exact .ran loads agreed reaches (rest.append quiet)
      (ends.of_subset (List.subset_append_left _ _))

end Course

end Plan

/-! ### Following a plan -/

/-- The exit code that a command ends with; a failure counts as one. -/
def codeOf : Except Failure ExitCode → ExitCode
  | .ok code => code
  | .error _ => .failure

section Follow

variable {σ : Type} (answer : (step : SessionStep) → σ → step.Answer × σ) (state : σ)

/-- Two things are said, then a line is read, and what comes of it is settled. -/
theorem run_ask (scope question : String) {next : Except String String → Task Bool}
    (verdict : Except String String → Except Failure Bool)
    (settles : ∀ reply state, Interaction.run answer state (next reply).run =
      ⟨verdict reply, [], state⟩) :
    let asked := Interaction.run answer state (do
        liftM (complain scope)
        liftM (complain question)
        let reply ← liftM readLine
        next reply : Task Bool).run
    ∃ first reply, Quiet first ∧ asked.events = first ++ [⟨.readLine, reply⟩] ∧
      asked.result = verdict reply := by
  let warned := Interaction.run answer state (complain scope >>= fun _ => complain question)
  let read := answer .readLine warned.state
  have quiet : Quiet warned.events :=
    ((silent_complain scope).bind fun _ => silent_complain question).of_mem answer state
  have settled : Interaction.run answer read.2 (next read.1).run = _ := settles read.1 read.2
  refine ⟨warned.events, read.1, quiet, ?_, congrArg Interaction.Outcome.result settled⟩
  exact congrArg (fun rest => warned.events ++ ⟨.readLine, read.1⟩ :: rest)
    (congrArg Interaction.Outcome.events settled)

/-- Asking for the word ends with a line being read, or with the failure to read one. -/
theorem run_confirm (document : Document) (tool : String) (tags : List String) :
    let asked := Interaction.run answer state (Workplace.confirm document tool tags).run
    ∃ first reply, Quiet first ∧ asked.events = first ++ [⟨.readLine, reply⟩] ∧
      asked.result =
        (reply.map fun line => Text.trim line == Workplace.confirmation).mapError Failure.io := by
  refine run_ask answer state _ _ _ fun reply state => ?_
  cases reply with
  | ok line => rfl
  | error reason => rfl

theorem hasFailures_eq_false_iff {report : RunReport} :
    report.hasFailures = false ↔ ∀ result ∈ report.results, result.action ≠ .failed := by
  simp [RunReport.hasFailures, RunReport.count]

/-- A report is not saved only if its file cannot be written. -/
theorem unsaved_saveReport {report : RunReport} {path : Option String} {failure : Failure}
    (fails : (Interaction.run answer state (Workplace.saveReport report path).run).result =
      .error failure) :
    Unsaved (Interaction.run answer state (Workplace.saveReport report path).run).events := by
  cases path with
  | none => cases fails
  | some path =>
    unfold Workplace.saveReport at fails ⊢
    dsimp only at fails ⊢
    rw [certain_eq, run_lift_bind] at fails ⊢
    dsimp only at fails ⊢
    refine Unsaved.of_subset ?_ (List.subset_append_left _ _)
    cases reply : (Interaction.run answer state (writeFile path report.json.pretty)).result with
    | ok done =>
      rw [reply] at fails
      cases fails
    | error reason =>
      have tried : (answer (.writeFile path report.json.pretty) state).1 = .error reason := reply
      refine ⟨path, report.json.pretty, reason, List.mem_singleton.mpr ?_⟩
      rw [tried]

/-- How the report of a run ends the command. -/
theorem settles_finishRun (place : Workplace) (outcome : RunOutcome) (path : Option String) :
    let done := Interaction.run answer state (place.finishRun outcome path).run
    Settles outcome done.events (codeOf done.result) := by
  unfold Workplace.finishRun
  dsimp only
  cases saved :
      (Interaction.run answer state (Workplace.saveReport outcome.report path).run).result with
  | error failure =>
    rw [Interaction.run_bind_of_error answer state saved]
    exact Or.inr ⟨rfl, fun _ => unsaved_saveReport answer state saved⟩
  | ok done =>
    rw [Interaction.run_bind_of_ok answer state saved]
    dsimp only
    rw [run_lift_bind]
    cases outcome with
    | error abort => exact Or.inr ⟨rfl, False.elim⟩
    | ok report =>
      dsimp only
      cases failures : report.hasFailures with
      | true =>
        refine Or.inr ⟨rfl, fun clean => ?_⟩
        rw [hasFailures_eq_false_iff.mpr clean] at failures
        cases failures
      | false => exact Or.inl ⟨rfl, hasFailures_eq_false_iff.mp failures⟩

/-- A run takes an identifier and the time, talks to the service, takes the time again and is
reported. -/
theorem run_run (place : Workplace) (connection : Option HttpClient)
    (walk : Occasion → Dialogue RunOutcome) (path : Option String) :
    let done := Interaction.run answer state (place.run connection walk path).run
    ∃ runId started finished after,
      let begun := [⟨.identify, runId⟩, ⟨.takeTime, started⟩]
      let talk := Interaction.run answer (replay answer state begun)
        (Workplace.carry connection (walk ⟨runId, started, started⟩))
      done.events = begun ++ talk.events ++ ⟨.takeTime, finished⟩ :: after ∧ Quiet after ∧
        Settles talk.result after (codeOf done.result) := by
  simp only [Workplace.run, certain_eq, run_lift_bind]
  refine ⟨(answer .identify state).1, (answer .takeTime (answer .identify state).2).1, _, _,
    rfl, ?_, ?_⟩
  · exact (place.silent_finishRun _ path).of_mem answer _
  · exact settles_finishedAt.mp (settles_finishRun answer _ place _ path)

variable {place : Workplace} {plan : Plan}

/-- A run that is agreed to takes place if the service can be reached. -/
theorem pursue_course {validated : Validated}
    (loads : (place.library.load place.tree plan.name).value = .ok validated)
    {earlier : List SessionEvent} (agreed : plan.Agreed earlier) :
    let done := Interaction.run answer (replay answer state earlier)
      (place.pursue plan validated.document).run
    plan.Course place answer state (earlier ++ done.events) (codeOf done.result) := by
  have quiet : Quiet _ :=
    (place.silent_connection plan.options.dryRun).of_mem answer (replay answer state earlier)
  have left :=
    state_run answer (replay answer state earlier) (place.connection plan.options.dryRun).run
  have connected := place.result_connection plan.options.dryRun answer (replay answer state earlier)
  unfold Workplace.pursue
  cases reached : place.reach plan.options.dryRun with
  | error failure =>
    rw [reached] at connected
    rw [Interaction.run_bind_of_error answer _ connected]
    exact .unreached loads (agreed.append quiet) reached
  | ok connection =>
    rw [reached] at connected
    rw [Interaction.run_bind_of_ok answer _ connected]
    dsimp only
    generalize Interaction.run answer (replay answer state earlier)
      (place.connection plan.options.dryRun).run = first at quiet left
    rw [left, ← replay_append]
    obtain ⟨runId, started, finished, after, events, quietAfter, ends⟩ := run_run answer
      (replay answer state (earlier ++ first.events)) place connection
      (plan.dialogue validated.document) plan.reportPath
    rw [← replay_append] at events ends
    rw [events, ← List.append_assoc, ← List.append_assoc, ← List.append_assoc]
    exact .ran loads (agreed.append quiet) reached quietAfter ends

/-- **Following a plan goes one of the ways.** -/
theorem follow_course :
    let done := Interaction.run answer state (place.follow plan).run
    plan.Course place answer state done.events (codeOf done.result) := by
  have quiet : Quiet _ := (place.silent_load plan.name).of_mem answer state
  have left := state_run answer state (place.load plan.name).run
  have loaded : (Interaction.run answer state (place.load plan.name).run).result = _ :=
    result_relay (place.library.load place.tree plan.name) answer state
  unfold Workplace.follow
  cases loads : (place.library.load place.tree plan.name).value with
  | error failure =>
    rw [loads] at loaded
    rw [Interaction.run_bind_of_error answer _ loaded]
    exact .unloaded loads quiet
  | ok validated =>
    rw [loads] at loaded
    rw [Interaction.run_bind_of_ok answer _ loaded]
    dsimp only
    generalize Interaction.run answer state (place.load plan.name).run = first at quiet left
    rw [left]
    refine .prepend quiet ?_
    cases asks : plan.asks with
    | false => exact pursue_course answer _ loads (.unasked asks (List.forall_mem_nil _))
    | true =>
      simp only [if_true]
      obtain ⟨warned, reply, silent, events, result⟩ := run_confirm answer
        (replay answer state first.events) validated.document plan.options.tool plan.tags
      have left := state_run answer (replay answer state first.events)
        (Workplace.confirm validated.document plan.options.tool plan.tags).run
      cases reply with
      | error reason =>
        rw [Interaction.run_bind_of_error answer _ result]
        dsimp only
        rw [events]
        exact .unread loads asks silent (List.forall_mem_nil _)
      | ok line =>
        rw [Interaction.run_bind_of_ok answer _ result]
        dsimp only
        rw [left, events]
        by_cases word : Text.trim line = Workplace.confirmation
        · rw [beq_iff_eq.mpr word]
          exact pursue_course answer _ loads (.confirmed asks silent word (List.forall_mem_nil _))
        · rw [beq_eq_false_iff_ne.mpr word, List.append_assoc]
          refine .declined loads asks silent word ?_
          exact List.forall_mem_singleton.mpr trivial

/-- A command that asks for a run goes one of the ways of its plan. -/
theorem execute_course {command : Command} (planned : place.plan? command = some plan) :
    let done := Interaction.run answer state (place.execute command)
    plan.Course place answer state done.events done.result := by
  unfold Workplace.execute
  rw [place.perform_eq_follow planned, Interaction.run_bind]
  dsimp only
  rw [state_run]
  refine .prepend ((silent_log _ _).of_mem answer state) ?_
  rw [Interaction.run_bind]
  dsimp only
  generalize replay answer state _ = known
  have course : plan.Course place answer known _ _ := follow_course answer known
  cases followed : (Interaction.run answer known (place.follow plan).run).result with
  | ok code =>
    rw [followed] at course
    exact course.append (List.forall_mem_nil _)
  | error failure =>
    rw [followed] at course
    exact course.append ((silent_complain _).of_mem answer _)

/-- A command that asks for no run only says something. -/
theorem silent_execute {command : Command} (planless : place.plan? command = none) :
    Silent (place.execute command) := by
  refine (silent_log _ _).bind fun _ => (place.silent_perform planless).bind fun result => ?_
  cases result with
  | ok code => exact .done code
  | error failure => exact (silent_complain _).bind fun _ => .done _

end Follow

/-! ### Command lines -/

/-- **The words of a command line ask for a run**, with what they make the command work with. -/
inductive AsksFor (tree : FileTree) (environment : Environment) (terminal : Bool)
    (words : List String) : Workplace → Plan → Prop where
  | command {arguments : Arguments} {plan : Plan}
      (reads : Arguments.ofWords (environment.load tree none).1 words = .ok arguments)
      (planned : (arguments.workplace tree (environment.load tree none).1 terminal).plan?
        arguments.command = some plan) :
      AsksFor tree environment terminal words
        (arguments.workplace tree (environment.load tree none).1 terminal) plan

section CommandLine

variable {σ : Type} (answer : (step : SessionStep) → σ → step.Answer × σ) (state : σ)
  (tree : FileTree) (environment : Environment) (terminal : Bool) (words : List String)

/-- **A command line that asks for a run goes one of the ways of its plan.** -/
theorem carryOut_course {place : Workplace} {plan : Plan}
    (asksFor : AsksFor tree environment terminal words place plan) :
    let done := Interaction.run answer state (carryOut tree environment terminal words)
    plan.Course place answer state done.events done.result := by
  obtain ⟨reads, planned⟩ := asksFor
  unfold carryOut
  rw [Interaction.run_bind]
  dsimp only
  rw [result_loadDefinitions, reads, state_run]
  exact .prepend ((noting_loadDefinitions tree environment).silent.of_mem answer state)
    (execute_course answer _ planned)

/-- **Any other command line only says something.** -/
theorem quiet_carryOut
    (planless : ∀ place plan, ¬ AsksFor tree environment terminal words place plan) :
    Quiet (Interaction.run answer state (carryOut tree environment terminal words)).events := by
  unfold carryOut
  rw [Interaction.run_bind]
  dsimp only
  rw [result_loadDefinitions]
  refine Quiet.append ((noting_loadDefinitions tree environment).silent.of_mem answer state) ?_
  cases reads : Arguments.ofWords (environment.load tree none).1 words with
  | error refusal => exact (silent_answerRefusal refusal).of_mem answer _
  | ok arguments =>
    refine (silent_execute ?_).of_mem answer _
    exact Option.eq_none_iff_forall_ne_some.mpr fun plan planned =>
      planless _ plan (.command reads planned)

end CommandLine

end ResourceGraph
