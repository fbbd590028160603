/-
**What a session asks of its surroundings.**

Most steps of a session only say something: they print, complain, write a file or a log entry. Such
a step is quiet; the others read a line, take the time or an identifier, or reach for the network.

* `Interaction.AllAsks`: an interaction asks questions of one kind only, whatever it is answered;
  the events of every run are of that kind then, `AllAsks.of_mem`; `allAsks_lift` is for steps that
  may fail;
* `Interaction.replay`: the state that some events leave; `state_run`;
* `Interaction.run_bind_of_ok`, `Interaction.run_bind_of_error`: a step that may fail, and what
  follows it;
* `SessionStep.IsQuiet`, `Quiet`, `Session.Silent`: steps, events and sessions that only say
  something; looking at documents and reporting a run are silent;
* `SessionStep.IsNote`, `Session.Noting`: of these, the steps and sessions that complain or write
  log entries; loading a document and reaching for the service do no more;
* `Workplace.reach`: what comes of reaching for the service, `result_connection`.
-/

import ResourceGraph.Command.Execution

namespace ResourceGraph

/-! ### Questions and states -/

namespace Interaction

variable {Ask Inner : Type} {Answer : Ask → Type} {Reply : Inner → Type} {α β ε σ : Type}

/-- Only questions of one kind are asked, whatever the answers are. -/
inductive AllAsks (kind : Ask → Prop) : Interaction Ask Answer α → Prop where
  | done (result : α) : AllAsks kind (done result)
  | ask {question : Ask} {next : Answer question → Interaction Ask Answer α} (here : kind question)
      (rest : ∀ reply, AllAsks kind (next reply)) : AllAsks kind (ask question next)

namespace AllAsks

variable {kind : Ask → Prop} {interaction : Interaction Ask Answer α}

theorem asking {question : Ask} (here : kind question) :
    AllAsks kind (Interaction.asking question : Interaction Ask Answer (Answer question)) :=
  .ask here fun reply => .done reply

/-- What asks questions of one kind asks questions of a wider kind. -/
theorem mono {wider : Ask → Prop} (asks : AllAsks kind interaction)
    (within : ∀ question, kind question → wider question) : AllAsks wider interaction := by
  induction asks with
  | done result => exact .done result
  | ask here _ ih => exact .ask (within _ here) ih

theorem bind {next : α → Interaction Ask Answer β} (first : AllAsks kind interaction)
    (second : ∀ value, AllAsks kind (next value)) : AllAsks kind (interaction >>= next) := by
  induction first with
  | done result => exact second result
  | ask here _ ih => exact .ask here ih

theorem expand {inner : Inner → Prop}
    {answer : (question : Ask) → Interaction Inner Reply (Answer question)}
    (asks : AllAsks kind interaction)
    (steps : ∀ question, kind question → AllAsks inner (answer question)) :
    AllAsks inner (interaction.expand answer) := by
  induction asks with
  | done result => exact .done result
  | ask here _ ih => exact (steps _ here).bind ih

/-- **The events of a run are of the kind.** -/
theorem of_mem (asks : AllAsks kind interaction)
    (answer : (question : Ask) → σ → Answer question × σ) (state : σ) :
    ∀ event ∈ (run answer state interaction).events, kind event.1 := by
  induction asks generalizing state with
  | done result => exact List.forall_mem_nil _
  | ask here _ ih => exact List.forall_mem_cons.mpr ⟨here, ih _ _⟩

/-- Whatever an interaction asks, it is a question. -/
theorem trivial (interaction : Interaction Ask Answer α) : AllAsks (fun _ => True) interaction := by
  induction interaction with
  | done result => exact .done result
  | ask question next ih => exact .ask True.intro ih

end AllAsks

section Replay

variable (answer : (question : Ask) → σ → Answer question × σ) (state : σ)

/-- The state that the surroundings are in after some events. -/
def replay (events : List (Event Ask Answer)) : σ :=
  events.foldl (fun state event => (answer event.1 state).2) state

theorem replay_append (first second : List (Event Ask Answer)) :
    replay answer state (first ++ second) = replay answer (replay answer state first) second :=
  List.foldl_append

/-- **A run leaves the state that its events leave.** -/
theorem state_run (interaction : Interaction Ask Answer α) :
    (run answer state interaction).state =
      replay answer state (run answer state interaction).events := by
  induction interaction generalizing state with
  | done result => rfl
  | ask question next ih => exact ih _ _

/-! ### Steps that may fail -/

variable {first : ExceptT ε (Interaction Ask Answer) α}
  {next : α → ExceptT ε (Interaction Ask Answer) β}

theorem run_bind_of_ok {value : α} (succeeds : (run answer state first.run).result = .ok value) :
    run answer state (first >>= next).run =
      let done := run answer state first.run
      let rest := run answer done.state (next value).run
      ⟨rest.result, done.events ++ rest.events, rest.state⟩ := by
  rw [ExceptT.run_bind, run_bind]
  dsimp only
  rw [succeeds]

theorem run_bind_of_error {failure : ε}
    (fails : (run answer state first.run).result = .error failure) :
    run answer state (first >>= next).run =
      let done := run answer state first.run
      ⟨.error failure, done.events, done.state⟩ := by
  rw [ExceptT.run_bind, run_bind]
  dsimp only
  rw [fails]
  exact congrArg (Outcome.mk _ · _) (List.append_nil _)

/-- The parts of a step that may fail ask what they ask. -/
theorem AllAsks.run_bind {kind : Ask → Prop} (firstAsks : AllAsks kind first.run)
    (nextAsks : ∀ value, AllAsks kind (next value).run) : AllAsks kind (first >>= next).run := by
  rw [ExceptT.run_bind]
  refine firstAsks.bind fun result => ?_
  cases result with
  | ok value => exact nextAsks value
  | error failure => exact .done _

end Replay

end Interaction

/-! ### Quiet steps -/

/-- The step only says something. -/
def SessionStep.IsQuiet : SessionStep → Prop
  | .output _ => True
  | .complain _ => True
  | .readLine => False
  | .writeFile _ _ => True
  | .takeTime => False
  | .identify => False
  | .wire (.deliver _) => False
  | .wire (.wait _) => False
  | .wire (.log _) => True

/-- The step complains, or writes a log entry. -/
def SessionStep.IsNote : SessionStep → Prop
  | .output _ => False
  | .complain _ => True
  | .readLine => False
  | .writeFile _ _ => False
  | .takeTime => False
  | .identify => False
  | .wire (.deliver _) => False
  | .wire (.wait _) => False
  | .wire (.log _) => True

theorem SessionStep.IsNote.isQuiet {step : SessionStep} (note : step.IsNote) : step.IsQuiet := by
  unfold IsNote at note
  split at note <;> first | exact note.elim | trivial

/-- All events only say something. -/
def Quiet (events : List SessionEvent) : Prop :=
  ∀ event ∈ events, event.1.IsQuiet

theorem Quiet.append {first second : List SessionEvent} (firstQuiet : Quiet first)
    (secondQuiet : Quiet second) : Quiet (first ++ second) :=
  List.forall_mem_append.mpr ⟨firstQuiet, secondQuiet⟩

namespace Session

open Interaction (AllAsks)

/-- All that the session does is to say something. -/
abbrev Silent {α : Type} (session : Session α) : Prop :=
  AllAsks SessionStep.IsQuiet session

/-- All that the session does is to complain or to write log entries. -/
abbrev Noting {α : Type} (session : Session α) : Prop :=
  AllAsks SessionStep.IsNote session

theorem Noting.silent {α : Type} {session : Session α} (noting : Noting session) : Silent session :=
  noting.mono fun _ note => note.isQuiet

theorem noting_complain (text : String) : Noting (complain text) :=
  .asking trivial

theorem noting_log (level : Level) (message : String) : Noting (log level message) :=
  .asking trivial

theorem silent_output (text : String) : Silent (output text) :=
  .asking trivial

theorem silent_complain (text : String) : Silent (complain text) :=
  (noting_complain text).silent

theorem silent_writeFile (path text : String) : Silent (writeFile path text) :=
  .asking trivial

theorem silent_log (level : Level) (message : String) : Silent (log level message) :=
  (noting_log level message).silent

/-- A step that does not fail asks what its session asks. -/
theorem allAsks_lift {α : Type} {kind : SessionStep → Prop} {session : Session α}
    (asks : AllAsks kind session) : AllAsks kind (ExceptT.lift session : Task α).run :=
  asks.bind fun _ => .done _

theorem certain_eq {α : Type} (session : Session α) : Task.certain session = liftM session :=
  rfl

/-- A session inside a step that may fail, and what follows it. -/
theorem run_lift_bind {α β σ : Type} (session : Session α) (next : α → Task β)
    (answer : (step : SessionStep) → σ → step.Answer × σ) (state : σ) :
    Interaction.run answer state ((liftM session : Task α) >>= next).run =
      let done := Interaction.run answer state session
      let rest := Interaction.run answer done.state (next done.result).run
      ⟨rest.result, done.events ++ rest.events, rest.state⟩ :=
  (congrArg _ (ExceptT.run_bind_lift session next)).trans
    (Interaction.run_bind answer state session _)

theorem noting_logAll (entries : List LogEntry) : Noting (logAll entries) := by
  induction entries with
  | nil => exact .done ()
  | cons entry rest ih => exact (noting_log entry.level entry.message).bind fun _ => ih

theorem noting_relay {α : Type} (logged : Logged α) : Noting (relay logged) :=
  (noting_logAll logged.entries).bind fun _ => .done logged.value

theorem result_relay {α σ : Type} (logged : Logged α)
    (answer : (step : SessionStep) → σ → step.Answer × σ) (state : σ) :
    (Interaction.run answer state (relay logged)).result = logged.value := by
  rw [relay, Interaction.run_bind]
  rfl

end Session

open Session
open Interaction (AllAsks)

namespace Workplace

variable (place : Workplace)

theorem noting_load (name : String) : Noting (place.load name).run :=
  noting_relay _

theorem silent_load (name : String) : Silent (place.load name).run :=
  (place.noting_load name).silent

theorem silent_listDocuments : Silent place.listDocuments :=
  (noting_relay _).silent.bind fun _ => (silent_log _ _).bind fun _ =>
    (silent_output _).bind fun _ => .done _

theorem silent_showDocument (name : String) : Silent (place.showDocument name).run :=
  (place.silent_load name).run_bind fun _ => (allAsks_lift (silent_output _)).run_bind fun _ =>
    .done _

theorem silent_validate (target : ValidationTarget) : Silent (place.validate target).run := by
  unfold validate
  refine (allAsks_lift (noting_relay _).silent).run_bind fun outcome => ?_
  split
  · exact (allAsks_lift (silent_output _)).run_bind fun _ => .done _
  · exact (allAsks_lift (silent_output _)).run_bind fun _ => .done _
  · exact .done _

/-- How a run reaches the service, or which setting is missing. -/
def reach (dryRun : Bool) : Except Failure (Option HttpClient) :=
  if dryRun then .ok none
  else do
    let url ← place.settings.requiredUrl
    let key ← place.settings.requiredKey
    return some (.connect url key)

theorem noting_connection (dryRun : Bool) : Noting (place.connection dryRun).run := by
  cases dryRun with
  | true => exact .done _
  | false =>
    refine AllAsks.run_bind (.done _) fun url => AllAsks.run_bind (.done _) fun key => ?_
    exact (allAsks_lift (noting_log _ _)).run_bind fun _ => .done _

theorem silent_connection (dryRun : Bool) : Silent (place.connection dryRun).run :=
  (place.noting_connection dryRun).silent

theorem result_connection (dryRun : Bool) {σ : Type}
    (answer : (step : SessionStep) → σ → step.Answer × σ) (state : σ) :
    (Interaction.run answer state (place.connection dryRun).run).result = place.reach dryRun := by
  unfold connection reach
  cases dryRun with
  | true => rfl
  | false =>
    cases place.settings.requiredUrl with
    | error failure => rfl
    | ok url =>
      cases place.settings.requiredKey with
      | error failure => rfl
      | ok key => rfl

theorem silent_saveReport (report : RunReport) (path : Option String) :
    Silent (saveReport report path).run := by
  cases path with
  | none => exact .done _
  | some path =>
    refine (allAsks_lift (silent_writeFile _ _)).run_bind fun written => ?_
    split
    · exact allAsks_lift (silent_log _ _)
    · exact .done _

theorem silent_finishRun (outcome : RunOutcome) (path : Option String) :
    Silent (place.finishRun outcome path).run := by
  refine (silent_saveReport _ path).run_bind fun _ =>
    (allAsks_lift (silent_output _)).run_bind fun _ => ?_
  cases outcome with
  | ok report => exact .done _
  | error abort =>
    exact (allAsks_lift (silent_log _ _)).run_bind fun _ =>
      (allAsks_lift (silent_complain _)).run_bind fun _ => .done _

end Workplace

theorem silent_answerRefusal (refusal : Refusal) : Silent (answerRefusal refusal) := by
  unfold answerRefusal
  split
  · exact (silent_output _).bind fun _ => .done _
  · exact (silent_output _).bind fun _ => .done _
  · exact (silent_complain _).bind fun _ => .done _
  · exact (silent_complain _).bind fun _ => .done _

theorem noting_loadDefinitions (tree : FileTree) (environment : Environment) :
    Noting (loadDefinitions tree environment) := by
  unfold loadDefinitions
  dsimp only
  split
  · exact .done _
  · exact (noting_complain _).bind fun _ => .done _

theorem result_loadDefinitions (tree : FileTree) (environment : Environment) {σ : Type}
    (answer : (step : SessionStep) → σ → step.Answer × σ) (state : σ) :
    (Interaction.run answer state (loadDefinitions tree environment)).result =
      (environment.load tree none).1 := by
  unfold loadDefinitions
  dsimp only
  split <;> rfl

end ResourceGraph
