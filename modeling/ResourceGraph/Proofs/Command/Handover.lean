/-
**How the report of a run is handed over.**

When a run has ended its report is saved first, if a file is named for it, and shown only then. A
file that cannot be written therefore ends the command with the report nowhere: it is not printed,
and what ended an aborted run is not told. In every other case the report is printed whole, and an
abort is told.

* `Interaction.AllEnds`: every result of an interaction is of one kind, whatever it is answered;
* `Workplace.prepare`: what a command does before its run; `follow_eq_prepare_bind` parts a plan
  there;
* `Workplace.HandsOver`: the ways in which a report is handed over; `handsOver_finishRun`;
* `Plan.Reports`: a command that only prepares, or whose run is handed over; `follow_reports`;
* `carryOut_handover`: every run of every command line.
-/

import ResourceGraph.Proofs.Command.Gate

namespace ResourceGraph

open Interaction (AllAsks replay replay_append state_run)
open Session

/-! ### Ends -/

namespace Interaction

variable {Ask : Type} {Answer : Ask → Type} {α β ε σ : Type}

/-- Every result is of one kind, whatever the answers are. -/
inductive AllEnds (kind : α → Prop) : Interaction Ask Answer α → Prop where
  | done {result : α} (here : kind result) : AllEnds kind (done result)
  | ask {question : Ask} {next : Answer question → Interaction Ask Answer α}
      (rest : ∀ reply, AllEnds kind (next reply)) : AllEnds kind (ask question next)

namespace AllEnds

variable {kind : α → Prop} {later : β → Prop} {interaction : Interaction Ask Answer α}

theorem trivial (interaction : Interaction Ask Answer α) : AllEnds (fun _ => True) interaction := by
  induction interaction with
  | done result => exact .done True.intro
  | ask question next ih => exact .ask ih

theorem bind {next : α → Interaction Ask Answer β} (first : AllEnds kind interaction)
    (second : ∀ value, kind value → AllEnds later (next value)) :
    AllEnds later (interaction >>= next) := by
  induction first with
  | done here => exact second _ here
  | ask _ ih => exact .ask ih

/-- A step that may fail ends in one way or the other. -/
theorem run_bind {kind : Except ε α → Prop} {later : Except ε β → Prop}
    {first : ExceptT ε (Interaction Ask Answer) α} {next : α → ExceptT ε (Interaction Ask Answer) β}
    (firstEnds : AllEnds kind first.run)
    (fails : ∀ failure, kind (.error failure) → later (.error failure))
    (nextEnds : ∀ value, kind (.ok value) → AllEnds later (next value).run) :
    AllEnds later (first >>= next).run := by
  rw [ExceptT.run_bind]
  refine firstEnds.bind fun result here => ?_
  cases result with
  | ok value => exact nextEnds value here
  | error failure => exact .done (fails failure here)

/-- **The result of a run is of the kind.** -/
theorem result (ends : AllEnds kind interaction)
    (answer : (question : Ask) → σ → Answer question × σ) (state : σ) :
    kind (run answer state interaction).result := by
  induction ends generalizing state with
  | done here => exact here
  | ask _ ih => exact ih _ _

end AllEnds

end Interaction

open Interaction (AllEnds)

/-! ### Before the run -/

/-- The step neither prints nor writes a file, and starts no run. -/
def SessionStep.IsPreparation : SessionStep → Prop
  | .output _ => False
  | .complain _ => True
  | .readLine => True
  | .writeFile _ _ => False
  | .takeTime => True
  | .identify => False
  | .wire _ => True

theorem SessionStep.IsNote.isPreparation {step : SessionStep} (note : step.IsNote) :
    step.IsPreparation := by
  unfold IsNote at note
  split at note <;> first | exact note.elim | trivial

/-- Nothing is printed or written, and no run is started. -/
def Prepares (events : List SessionEvent) : Prop :=
  ∀ event ∈ events, event.1.IsPreparation

theorem Prepares.append {first second : List SessionEvent} (firstPrepares : Prepares first)
    (secondPrepares : Prepares second) : Prepares (first ++ second) :=
  List.forall_mem_append.mpr ⟨firstPrepares, secondPrepares⟩

theorem Prepares.not_identified {events : List SessionEvent} (prepares : Prepares events) :
    ∀ event ∈ events, event.1 ≠ .identify := by
  intro event member same
  have preparation := prepares event member
  rw [same] at preparation
  exact preparation

/-- All that the session does is to prepare. -/
abbrev Preparing {α : Type} (session : Session α) : Prop :=
  AllAsks SessionStep.IsPreparation session

theorem Session.Noting.preparing {α : Type} {session : Session α} (noting : Noting session) :
    Preparing session :=
  noting.mono fun _ note => note.isPreparation

theorem preparing_readLine : Preparing readLine :=
  .asking trivial

/-- What is said at the end of a command that fails. -/
def complaint : Except Failure ExitCode → List SessionEvent
  | .ok _ => []
  | .error failure => [⟨.complain ("Error: " ++ failure.message ++ "\n"), ()⟩]

theorem prepares_complaint (result : Except Failure ExitCode) : Prepares (complaint result) := by
  cases result with
  | ok code => exact List.forall_mem_nil _
  | error failure => exact List.forall_mem_singleton.mpr trivial

namespace Workplace

/-- What a run needs: a document, and the connection to the service. -/
abbrev Ready := Document × Option HttpClient

variable (place : Workplace) (plan : Plan)

/-- Reaches for the service. -/
def ready (document : Document) : Task (Option Ready) := do
  let connection ← place.connection plan.options.dryRun
  return some (document, connection)

/-- Reaches for the service, if the run is agreed to. -/
def readyIf (document : Document) (agreed : Bool) : Task (Option Ready) := do
  if agreed then place.ready plan document
  else
    Session.complain "Delete cancelled.\n"
    return none

/-- What a command does before its run, and what the run needs unless it is called off. -/
def prepare : Task (Option Ready) := do
  let validated ← place.load plan.name
  if plan.asks then
    let agreed ← confirm validated.document plan.options.tool plan.tags
    place.readyIf plan validated.document agreed
  else place.ready plan validated.document

/-- The run, unless it is called off. -/
def start : Option Ready → Task ExitCode
  | none => return .success
  | some (document, connection) => place.run connection (plan.dialogue document) plan.reportPath

theorem pursue_eq_ready_bind (document : Document) :
    place.pursue plan document = place.ready plan document >>= place.start plan := by
  rw [pursue, ready, bind_assoc]
  refine congrArg _ (funext fun connection => ?_)
  rw [pure_bind]
  rfl

theorem goAhead_eq_readyIf_bind (document : Document) (agreed : Bool) :
    place.goAhead plan document agreed =
      place.readyIf plan document agreed >>= place.start plan := by
  cases agreed with
  | true => exact place.pursue_eq_ready_bind plan document
  | false => rfl

/-- **A plan is prepared, and then run.** -/
theorem follow_eq_prepare_bind : place.follow plan = place.prepare plan >>= place.start plan := by
  rw [follow, prepare, bind_assoc]
  refine congrArg _ (funext fun validated => ?_)
  cases plan.asks with
  | true =>
    simp only [if_true, bind_assoc]
    exact congrArg _ (funext fun agreed =>
      place.goAhead_eq_readyIf_bind plan validated.document agreed)
  | false => exact place.pursue_eq_ready_bind plan validated.document

theorem preparing_ready (document : Document) : Preparing (place.ready plan document).run :=
  (place.noting_connection _).preparing.run_bind fun _ => .done _

theorem preparing_confirm (document : Document) (tool : String) (tags : List String) :
    Preparing (confirm document tool tags).run := by
  refine (allAsks_lift (noting_complain _).preparing).run_bind fun _ =>
    (allAsks_lift (noting_complain _).preparing).run_bind fun _ =>
      (allAsks_lift preparing_readLine).run_bind fun reply => ?_
  cases reply with
  | ok line => exact .done _
  | error reason => exact .done _

theorem preparing_prepare : Preparing (place.prepare plan).run := by
  refine (place.noting_load plan.name).preparing.run_bind fun validated => ?_
  cases plan.asks with
  | false => exact place.preparing_ready plan validated.document
  | true =>
    refine (preparing_confirm _ _ _).run_bind fun agreed => ?_
    cases agreed with
    | true => exact place.preparing_ready plan validated.document
    | false => exact (allAsks_lift (noting_complain _).preparing).run_bind fun _ => .done _

/-- What a run is given is the valid document of its name, and the way in which the service is
reached. -/
def IsReady : Except Failure (Option Ready) → Prop
  | .ok (some (document, connection)) =>
    (∃ validated, place.library.Provides place.tree plan.name validated ∧
      validated.document = document) ∧
      place.reach plan.options.dryRun = .ok connection
  | .ok none => True
  | .error _ => True

theorem ends_load (name : String) :
    AllEnds (· = (place.library.load place.tree name).value) (place.load name).run :=
  (AllEnds.trivial _).bind fun _ _ => .done rfl

theorem ends_connection (dryRun : Bool) :
    AllEnds (· = place.reach dryRun) (place.connection dryRun).run := by
  cases dryRun with
  | true => exact .done rfl
  | false =>
    unfold connection reach
    cases place.settings.requiredUrl with
    | error failure => exact .done rfl
    | ok url =>
      cases place.settings.requiredKey with
      | error failure => exact .done rfl
      | ok key => exact .ask fun _ => .done rfl

theorem ends_ready {validated : Validated}
    (provides : place.library.Provides place.tree plan.name validated) :
    AllEnds (place.IsReady plan) (place.ready plan validated.document).run :=
  (place.ends_connection _).run_bind (fun _ _ => trivial) fun _ reaches =>
    .done ⟨⟨validated, provides, rfl⟩, reaches.symm⟩

theorem ends_prepare : AllEnds (place.IsReady plan) (place.prepare plan).run := by
  refine (place.ends_load plan.name).run_bind (fun _ _ => trivial) fun validated loads => ?_
  have provides := Library.load_eq_ok_iff.mp loads.symm
  cases plan.asks with
  | false => exact place.ends_ready plan provides
  | true =>
    refine (AllEnds.trivial _).run_bind (fun _ _ => trivial) fun agreed _ => ?_
    cases agreed with
    | true => exact place.ends_ready plan provides
    | false => exact (AllEnds.trivial _).run_bind (fun _ _ => trivial) fun _ _ => .done trivial

end Workplace

/-! ### After the run -/

/-- The exit code of a run whose report is handed over. -/
def RunOutcome.code : RunOutcome → ExitCode
  | .ok report => if report.hasFailures then .failure else .success
  | .error _ => .failure

namespace Workplace

variable (place : Workplace)

/-- Shows the report of a run, and tells what ended it. -/
def tell (outcome : RunOutcome) : Task ExitCode := do
  present (place.view.report outcome.report)
  match outcome with
  | .ok _ => return outcome.code
  | .error abort =>
    Session.log .error abort.message
    Session.complain ("Error: " ++ abort.message ++ "\n")
    return outcome.code

/-- A report is saved, and told of only then. -/
theorem finishRun_eq_saveReport_bind (outcome : RunOutcome) (path : Option String) :
    place.finishRun outcome path =
      saveReport outcome.report path >>= fun _ => place.tell outcome := by
  cases outcome with
  | ok report => rfl
  | error abort => rfl

/-- The report is printed, and what ended an aborted run is told. -/
def telling (outcome : RunOutcome) : List SessionEvent :=
  ⟨.output (place.view.report outcome.report ++ "\n"), ()⟩ ::
    match outcome with
    | .ok _ => []
    | .error abort =>
      [⟨.wire (.log ⟨.error, abort.message⟩), ()⟩,
        ⟨.complain ("Error: " ++ abort.message ++ "\n"), ()⟩]

/-- **The ways in which the report of a run is handed over**, with the events up to the end of the
command and the exit code. -/
inductive HandsOver (outcome : RunOutcome) : Option String → List SessionEvent → ExitCode →
    Prop where
  | shown : HandsOver outcome none (place.telling outcome) outcome.code
  | saved {path : String} : HandsOver outcome (some path)
      (⟨.writeFile path outcome.report.json.pretty, .ok ()⟩ ::
        ⟨.wire (.log ⟨.info, "Run report written to " ++ path⟩), ()⟩ ::
          place.telling outcome) outcome.code
  | lost {path reason : String} : HandsOver outcome (some path)
      [⟨.writeFile path outcome.report.json.pretty, .error reason⟩,
        ⟨.complain ("Error: " ++ (Failure.io reason).message ++ "\n"), ()⟩] .failure

section Run

variable {σ : Type} (answer : (step : SessionStep) → σ → step.Answer × σ) (state : σ)

/-- A report is saved, or the failure to write its file is left. -/
theorem run_saveReport (report : RunReport) (path : String) :
    let saved := Interaction.run answer state (saveReport report (some path)).run
    (saved.result = .ok () ∧ saved.events = [⟨.writeFile path report.json.pretty, .ok ()⟩,
        ⟨.wire (.log ⟨.info, "Run report written to " ++ path⟩), ()⟩]) ∨
      ∃ reason, saved.result = .error (.io reason) ∧
        saved.events = [⟨.writeFile path report.json.pretty, .error reason⟩] := by
  unfold saveReport
  dsimp only
  rw [certain_eq, run_lift_bind]
  dsimp only
  have events : (Interaction.run answer state (writeFile path report.json.pretty)).events =
      [⟨.writeFile path report.json.pretty,
        (Interaction.run answer state (writeFile path report.json.pretty)).result⟩] := rfl
  rw [events]
  cases (Interaction.run answer state (writeFile path report.json.pretty)).result with
  | ok done => exact Or.inl ⟨rfl, rfl⟩
  | error reason => exact Or.inr ⟨reason, rfl, rfl⟩

theorem run_tell (outcome : RunOutcome) :
    let told := Interaction.run answer state (place.tell outcome).run
    told.result = .ok outcome.code ∧ told.events = place.telling outcome := by
  cases outcome with
  | ok report => exact ⟨rfl, rfl⟩
  | error abort => exact ⟨rfl, rfl⟩

/-- **The report of a run is handed over**, whatever the run ended with and wherever the report
goes. -/
theorem handsOver_finishRun (outcome : RunOutcome) (path : Option String) :
    let done := Interaction.run answer state (place.finishRun outcome path).run
    place.HandsOver outcome path (done.events ++ complaint done.result) (codeOf done.result) := by
  rw [finishRun_eq_saveReport_bind]
  dsimp only
  cases path with
  | none =>
    obtain ⟨result, events⟩ := place.run_tell answer state outcome
    rw [saveReport, pure_bind, result, events]
    show place.HandsOver outcome none (place.telling outcome ++ []) outcome.code
    rw [List.append_nil]
    exact .shown
  | some path =>
    rcases run_saveReport answer state outcome.report path with
      ⟨saved, written⟩ | ⟨reason, failed, written⟩
    · rw [Interaction.run_bind_of_ok answer state saved]
      dsimp only
      obtain ⟨result, events⟩ := place.run_tell answer
        (Interaction.run answer state (saveReport outcome.report (some path)).run).state outcome
      rw [written, result, events]
      show place.HandsOver outcome (some path)
        (_ :: _ :: (place.telling outcome ++ [])) outcome.code
      rw [List.append_nil]
      exact .saved
    · -- the failure ends the step here, before anything is told
      rw [Interaction.run_bind_of_error answer state failed]
      dsimp only
      rw [written]
      exact .lost

/-- A run takes an identifier and the time, talks to the service, takes the time again and is handed
over. -/
theorem handsOver_run (connection : Option HttpClient) (walk : Occasion → Dialogue RunOutcome)
    (path : Option String) :
    let done := Interaction.run answer state (place.run connection walk path).run
    ∃ runId started finished closing,
      let begun := [⟨.identify, runId⟩, ⟨.takeTime, started⟩]
      let talk := Interaction.run answer (replay answer state begun)
        (carry connection (walk ⟨runId, started, started⟩))
      done.events = begun ++ talk.events ++ ⟨.takeTime, finished⟩ :: closing ∧
        place.HandsOver (finishedAt finished talk.result) path (closing ++ complaint done.result)
          (codeOf done.result) := by
  simp only [Workplace.run, certain_eq, run_lift_bind]
  exact ⟨(answer .identify state).1, (answer .takeTime (answer .identify state).2).1, _, _, rfl,
    place.handsOver_finishRun answer _ _ path⟩

end Run

end Workplace

/-! ### Following a plan -/

namespace Plan

section Reports

variable {σ : Type} (plan : Plan) (place : Workplace)
  (answer : (step : SessionStep) → σ → step.Answer × σ) (state : σ)

/-- **A command only prepares its run, or the run takes place and is handed over**; at the end of
the command a failure is told. -/
inductive Reports : List SessionEvent → Except Failure ExitCode → Prop where
  | idle {events : List SessionEvent} {result : Except Failure ExitCode}
      (prepares : Prepares events) : Reports events result
  | ran {validated : Validated} {connection : Option HttpClient}
      {earlier closing : List SessionEvent} {runId : RunId}
      {started finished : Instant} {result : Except Failure ExitCode}
      (provides : place.library.Provides place.tree plan.name validated)
      (reaches : place.reach plan.options.dryRun = .ok connection) (prepares : Prepares earlier)
      (hands : place.HandsOver
        (Workplace.finishedAt finished
          (plan.talk answer state connection validated.document earlier runId started).result)
        plan.reportPath (closing ++ complaint result) (codeOf result)) :
      Reports (begun earlier runId started ++
          (plan.talk answer state connection validated.document earlier runId started).events ++
            ⟨.takeTime, finished⟩ :: closing) result

variable {plan place answer state}

theorem Reports.prepend {earlier events : List SessionEvent} {result : Except Failure ExitCode}
    (prepares : Prepares earlier)
    (reports : plan.Reports place answer (replay answer state earlier) events result) :
    plan.Reports place answer state (earlier ++ events) result := by
  cases reports with
  | idle rest => exact .idle (prepares.append rest)
  | @ran validated connection before closing runId started finished _ provides reaches rest hands =>
    rw [talk_replay] at hands ⊢
    rw [append_begun_append]
    exact .ran provides reaches (prepares.append rest) hands

end Reports

end Plan

section Follow

variable {σ : Type} (answer : (step : SessionStep) → σ → step.Answer × σ) (state : σ)
  {place : Workplace} {plan : Plan}

/-- What is prepared is run, and handed over. -/
theorem start_reports {document : Document} {connection : Option HttpClient}
    (ready : place.IsReady plan (.ok (some (document, connection)))) :
    let done := Interaction.run answer state (place.start plan (some (document, connection))).run
    plan.Reports place answer state done.events done.result := by
  obtain ⟨⟨validated, provides, rfl⟩, reaches⟩ := ready
  obtain ⟨runId, started, finished, closing, events, hands⟩ :=
    place.handsOver_run answer state connection (plan.dialogue validated.document) plan.reportPath
  show plan.Reports place answer state (Interaction.run answer state
    (place.run connection (plan.dialogue validated.document) plan.reportPath).run).events _
  rw [events]
  exact .ran provides reaches (List.forall_mem_nil _) hands

/-- **Following a plan prepares its run, and hands it over.** -/
theorem follow_reports :
    let done := Interaction.run answer state (place.follow plan).run
    plan.Reports place answer state done.events done.result := by
  have prepares : Prepares _ := (place.preparing_prepare plan).of_mem answer state
  have left := state_run answer state (place.prepare plan).run
  have ready := (place.ends_prepare plan).result answer state
  rw [place.follow_eq_prepare_bind plan]
  dsimp only
  cases prepared : (Interaction.run answer state (place.prepare plan).run).result with
  | error failure =>
    rw [Interaction.run_bind_of_error answer state prepared]
    exact .idle prepares
  | ok needed =>
    rw [Interaction.run_bind_of_ok answer state prepared]
    dsimp only
    rw [left]
    refine .prepend prepares ?_
    rw [prepared] at ready
    cases needed with
    | none => exact .idle (List.forall_mem_nil _)
    | some needed => exact start_reports answer _ ready

/-- A command that asks for a run prepares it and hands it over, and tells a failure. -/
theorem execute_reports {command : Command} (planned : place.plan? command = some plan) :
    let done := Interaction.run answer state (place.execute command)
    ∃ events result, plan.Reports place answer state events result ∧
      done.events = events ++ complaint result ∧ done.result = codeOf result := by
  unfold Workplace.execute
  rw [place.perform_eq_follow planned, Interaction.run_bind]
  dsimp only
  rw [state_run]
  have prepares : Prepares (Interaction.run answer state
      (log .debug ("Documents directory: " ++ place.library.root))).events :=
    (noting_log _ _).preparing.of_mem answer state
  generalize (Interaction.run answer state
    (log .debug ("Documents directory: " ++ place.library.root))).events = opening at prepares ⊢
  have reports : plan.Reports place answer (replay answer state opening) _ _ :=
    follow_reports answer _
  refine ⟨_, _, reports.prepend prepares, ?_⟩
  rw [Interaction.run_bind, List.append_assoc]
  dsimp only
  cases (Interaction.run answer (replay answer state opening) (place.follow plan).run).result with
  | ok code => exact ⟨rfl, rfl⟩
  | error failure => exact ⟨rfl, rfl⟩

/-- A command line that asks for a run does so too. -/
theorem carryOut_reports {tree : FileTree} {environment : Environment} {terminal : Bool}
    {words : List String} (asksFor : AsksFor tree environment terminal words place plan) :
    let session := Interaction.run answer state (carryOut tree environment terminal words)
    ∃ events result, plan.Reports place answer state events result ∧
      session.events = events ++ complaint result ∧ session.result = codeOf result := by
  obtain ⟨reads, planned⟩ := asksFor
  have prepares : Prepares
      (Interaction.run answer state (loadDefinitions tree environment)).events :=
    (noting_loadDefinitions tree environment).preparing.of_mem answer state
  unfold carryOut
  rw [Interaction.run_bind]
  dsimp only
  rw [result_loadDefinitions, reads, state_run]
  generalize (Interaction.run answer state (loadDefinitions tree environment)).events = opening
    at prepares ⊢
  obtain ⟨events, result, reports, split, code⟩ :=
    execute_reports answer (replay answer state opening) planned
  refine ⟨_, result, reports.prepend prepares, ?_, code⟩
  dsimp only
  rw [split, List.append_assoc]

end Follow

/-! ### What is printed -/

/-- A file was to be written and could not be. -/
def isRefusedFile : SessionEvent → Bool
  | ⟨.writeFile _ _, .error _⟩ => true
  | _ => false

theorem unsaved_iff_any {events : List SessionEvent} :
    Unsaved events ↔ events.any isRefusedFile = true := by
  rw [List.any_eq_true]
  constructor
  · rintro ⟨path, text, reason, member⟩
    exact ⟨_, member, rfl⟩
  · rintro ⟨event, member, refused⟩
    unfold isRefusedFile at refused
    split at refused
    · exact ⟨_, _, _, member⟩
    · cases refused

instance (events : List SessionEvent) : Decidable (Unsaved events) :=
  decidable_of_iff _ unsaved_iff_any.symm

theorem outputOf_append (first second : List SessionEvent) :
    outputOf (first ++ second) = outputOf first ++ outputOf second := by
  unfold outputOf
  rw [List.filterMap_append, String.join_append]

/-- Nothing is printed, and no file is written. -/
def Undisclosed (events : List SessionEvent) : Prop :=
  ∀ event ∈ events, (∀ text, event.1 ≠ .output text) ∧ ∀ path text, event.1 ≠ .writeFile path text

namespace Undisclosed

variable {first events : List SessionEvent}

theorem append (before : Undisclosed first) (after : Undisclosed events) :
    Undisclosed (first ++ events) :=
  List.forall_mem_append.mpr ⟨before, after⟩

theorem of_prepares (prepares : Prepares events) : Undisclosed events := by
  intro event member
  have preparation := prepares event member
  refine ⟨fun text same => ?_, fun path text same => ?_⟩
  · rw [same] at preparation
    exact preparation
  · rw [same] at preparation
    exact preparation

theorem outputOf_eq (undisclosed : Undisclosed events) : outputOf events = "" := by
  refine (congrArg String.join (List.filterMap_eq_nil_iff.mpr fun event member => ?_)).trans
    String.join_nil
  have unprinted := (undisclosed event member).1
  split
  · exact absurd ‹_› (unprinted _)
  · rfl

theorem unsaved_append_iff (undisclosed : Undisclosed first) :
    Unsaved (first ++ events) ↔ Unsaved events := by
  refine ⟨?_, fun unsaved => unsaved.of_subset (List.subset_append_right _ _)⟩
  rintro ⟨path, text, reason, member⟩
  rcases List.mem_append.mp member with before | after
  · exact absurd rfl ((undisclosed _ before).2 path text)
  · exact ⟨path, text, reason, after⟩

end Undisclosed

namespace Workplace.HandsOver

variable {place : Workplace} {outcome : RunOutcome} {path : Option String}
  {events : List SessionEvent} {code : ExitCode}

theorem outputOf_telling (place : Workplace) (outcome : RunOutcome) :
    outputOf (place.telling outcome) = place.view.report outcome.report ++ "\n" := by
  cases outcome with
  | ok report => simp [telling, outputOf]
  | error abort => simp [telling, outputOf]

theorem not_unsaved_telling (place : Workplace) (outcome : RunOutcome) :
    ¬ Unsaved (place.telling outcome) := by
  rintro ⟨path, text, reason, member⟩
  rcases List.mem_cons.mp member with same | member
  · cases same
  · cases outcome with
    | ok report => cases member
    | error abort =>
      rcases List.mem_cons.mp member with same | member
      · cases same
      · cases List.mem_singleton.mp member

theorem mem_telling (place : Workplace) (abort : Abort) :
    ⟨.complain ("Error: " ++ abort.message ++ "\n"), ()⟩ ∈ place.telling (.error abort) :=
  List.mem_cons_of_mem _ (List.mem_cons_of_mem _ List.mem_cons_self)

/-- **The report is printed, and an abort is told, unless the file of the report cannot be
written.** -/
theorem disclosed (hands : place.HandsOver outcome path events code) :
    (¬ Unsaved events → outputOf events = place.view.report outcome.report ++ "\n" ∧
      ∀ abort, outcome = .error abort →
        ⟨.complain ("Error: " ++ abort.message ++ "\n"), ()⟩ ∈ events) ∧
    (Unsaved events → outputOf events = "" ∧ code = .failure) := by
  cases hands with
  | shown =>
    refine ⟨fun _ => ⟨outputOf_telling place outcome, ?_⟩, fun unsaved =>
      absurd unsaved (not_unsaved_telling place outcome)⟩
    rintro abort rfl
    exact mem_telling place abort
  | saved =>
    refine ⟨fun _ => ⟨?_, ?_⟩, fun unsaved => ?_⟩
    · exact outputOf_telling place outcome
    · rintro abort rfl
      exact List.mem_cons_of_mem _ (List.mem_cons_of_mem _ (mem_telling place abort))
    · obtain ⟨path, text, reason, member⟩ := unsaved
      rcases List.mem_cons.mp member with same | member
      · cases same
      · rcases List.mem_cons.mp member with same | member
        · cases same
        · exact absurd ⟨path, text, reason, member⟩ (not_unsaved_telling place outcome)
  | lost =>
    exact ⟨fun saved => absurd ⟨_, _, _, List.mem_cons_self⟩ saved, fun _ => ⟨rfl, rfl⟩⟩

end Workplace.HandsOver

/-- Up to the end of a run nothing is printed or saved. -/
theorem undisclosed_run {σ : Type} {plan : Plan}
    {answer : (step : SessionStep) → σ → step.Answer × σ}
    {state : σ} {connection : Option HttpClient} {document : Document} {earlier : List SessionEvent}
    {runId : RunId} {started finished : Instant} (prepares : Prepares earlier) :
    Undisclosed (Plan.begun earlier runId started ++
      (plan.talk answer state connection document earlier runId started).events ++
        [⟨.takeTime, finished⟩]) := by
  have identified : Undisclosed [⟨.identify, runId⟩] :=
    List.forall_mem_singleton.mpr ⟨fun _ => SessionStep.noConfusion,
      fun _ _ => SessionStep.noConfusion⟩
  have timed : ∀ time, Undisclosed [⟨.takeTime, time⟩] := fun time =>
    .of_prepares (List.forall_mem_singleton.mpr trivial)
  have talked : Undisclosed
      (plan.talk answer state connection document earlier runId started).events := by
    refine .of_prepares fun event member => ?_
    obtain ⟨wired, same⟩ := (wires_carry connection _).of_mem answer _ event member
    rw [same]
    trivial
  exact (((Undisclosed.of_prepares prepares).append (identified.append (timed started))).append
    talked).append (timed finished)

theorem report_finishedAt (finished : Instant) (outcome : RunOutcome) :
    (Workplace.finishedAt finished outcome).report =
      { outcome.report with finishedAt := some finished } := by
  cases outcome with
  | ok report => rfl
  | error abort => rfl

/-! ### Command lines -/

/-- **How the report of a run is handed over.** Whatever the surroundings answer, the end of a run
is followed in one of three ways: without a file the report is printed, with one it is saved and
then printed, and what ended an aborted run is told after it. The third way is that the file cannot
be written: then nothing is printed at all, and only that failure is told. So the whole report, with
the results of the run, is printed exactly if no file is refused. -/
theorem carryOut_handover {σ : Type} (answer : (step : SessionStep) → σ → step.Answer × σ)
    (state : σ)
    (tree : FileTree) (environment : Environment) (terminal : Bool) (words : List String) :
    let session := Interaction.run answer state (carryOut tree environment terminal words)
    ∀ place plan, AsksFor tree environment terminal words place plan →
      ∀ outcome, plan.Took place answer state session.events outcome →
        ∃ before finished closing,
          session.events = before ++ ⟨.takeTime, finished⟩ :: closing ∧
          place.HandsOver (Workplace.finishedAt finished outcome) plan.reportPath closing
            session.result ∧
          (¬ Unsaved session.events →
            outputOf session.events =
              place.view.report { outcome.report with finishedAt := some finished } ++ "\n" ∧
            ∀ abort, outcome = .error abort →
              ⟨.complain ("Error: " ++ abort.message ++ "\n"), ()⟩ ∈ session.events) ∧
          (Unsaved session.events → outputOf session.events = "" ∧ session.result = .failure) := by
  intro session place plan asksFor outcome took
  obtain ⟨events, result, reports, split, code⟩ := carryOut_reports answer state asksFor
  cases reports with
  | idle prepares =>
    -- without an identifier no run took place
    obtain ⟨event, member, identified⟩ := took.identified
    have quiet : Prepares session.events := by
      rw [split]
      exact prepares.append (prepares_complaint result)
    exact absurd identified (quiet.not_identified event member)
  | @ran validated connection earlier closing runId started finished _ provides reaches prepares
      hands =>
    have parts : session.events = Plan.begun earlier runId started ++
        (plan.talk answer state connection validated.document earlier runId started).events ++
          ⟨.takeTime, finished⟩ :: (closing ++ complaint result) := by
      rw [split, List.append_assoc, List.cons_append]
    -- the run that took place is the one that is handed over, since there is only one
    obtain rfl : outcome =
        (plan.talk answer state connection validated.document earlier runId started).result :=
      took.unique (parts ▸ .run provides reaches prepares.not_identified)
    obtain ⟨saved, lost⟩ := hands.disclosed
    rw [← code] at hands lost
    refine ⟨_, finished, _, parts, hands, ?_⟩
    rw [parts, List.append_cons, (undisclosed_run prepares).unsaved_append_iff, outputOf_append,
      (undisclosed_run prepares).outputOf_eq, String.empty_append]
    refine ⟨fun written => ?_, lost⟩
    obtain ⟨printed, told⟩ := saved written
    rw [report_finishedAt] at printed
    refine ⟨printed, ?_⟩
    intro abort aborted
    rw [aborted] at told
    exact List.mem_append_right _
      (told { abort with report := { abort.report with finishedAt := some finished } } rfl)

/-- Surroundings without a network, where no file can be written. -/
def crowded : (step : SessionStep) → Unit → step.Answer × Unit
  | .writeFile _ _, _ => (.error "No space left on device (os error 28)", ())
  | step, state => secluded step state

/-- A command line that provisions the document and saves the report. -/
def filedWords : List String := shelfWords ++ ["--report", "run.json"]

/-- Nothing is printed of a run whose report cannot be saved. -/
theorem carryOut_handover_crowded :
    let session := Interaction.run crowded () (carryOut shelfTree ⟨[]⟩ false filedWords)
    ∃ place plan outcome, AsksFor shelfTree ⟨[]⟩ false filedWords place plan ∧
      plan.Took place crowded () session.events outcome ∧ Unsaved session.events ∧
        outputOf session.events = "" ∧ session.result = .failure := by
  intro session
  obtain ⟨⟨event, member, identified⟩, unsaved⟩ :
      (∃ event ∈ session.events, event.1 = .identify) ∧ Unsaved session.events := by
    decide +kernel
  obtain ⟨place, plan, asksFor⟩ :
      ∃ place plan, AsksFor shelfTree ⟨[]⟩ false filedWords place plan := by
    by_contra none
    have quiet : Quiet session.events := quiet_carryOut crowded () shelfTree ⟨[]⟩ false filedWords
      fun place plan asksFor => none ⟨place, plan, asksFor⟩
    exact quiet.not_identified event member identified
  obtain ⟨outcome, took, _⟩ :=
    (carryOut_course crowded () shelfTree ⟨[]⟩ false filedWords asksFor).exists_took
      member identified
  obtain ⟨before, finished, closing, _, _, _, lost⟩ :=
    carryOut_handover crowded () shelfTree ⟨[]⟩ false filedWords place plan asksFor outcome took
  exact ⟨place, plan, outcome, asksFor, took, unsaved, lost unsaved⟩

end ResourceGraph
