/-
**What a dialogue exchanges with the service.**

A dialogue sends requests and writes log entries; only the requests reach the service. A
`Conversation` is what is left of a run when the log is put aside: the result, every request with
its reply in order, and the state of the service.

* `exchangesOf`: the requests of some events with their replies;
* `converse_bind`, `converse_log`: the conversation of a dialogue, part by part;
* `converse_run_bind`, `converse_run_tryCatch`, `converse_run_request`: the same for steps that may
  fail;
* `served_converse`: every reply is the service's, from the state that the exchanges before it left.
-/

import ResourceGraph.Service.Dialogue

namespace ResourceGraph

/-- A request with its reply. -/
abbrev Exchange := Request × Reply

/-- The request of an event with its reply; log entries are none. -/
def exchange? : CallEvent → Option Exchange
  | ⟨.send request, reply⟩ => some (request, reply)
  | ⟨.log _, _⟩ => none

/-- The requests among the steps with their replies, in order. -/
def exchangesOf (events : List CallEvent) : List Exchange :=
  events.filterMap exchange?

@[simp]
theorem exchangesOf_append (first second : List CallEvent) :
    exchangesOf (first ++ second) = exchangesOf first ++ exchangesOf second :=
  List.filterMap_append

/-- What a dialogue leaves when the log is put aside. -/
structure Conversation (σ α : Type) where
  result : α
  exchanges : List Exchange
  state : σ

namespace Dialogue

variable {σ α β : Type} (service : Service σ) (state : σ)

/-- The conversation of a dialogue with a service. -/
def converse (dialogue : Dialogue α) : Conversation σ α :=
  let outcome := run service state dialogue
  ⟨outcome.result, exchangesOf outcome.events, outcome.state⟩

@[simp]
theorem converse_pure (value : α) :
    converse service state (pure value : Dialogue α) = ⟨value, [], state⟩ :=
  rfl

/-- **The conversation of two parts is that of the one and then of the other.** -/
@[simp]
theorem converse_bind (dialogue : Dialogue α) (next : α → Dialogue β) :
    converse service state (dialogue >>= next) =
      let first := converse service state dialogue
      let second := converse service first.state (next first.result)
      ⟨second.result, first.exchanges ++ second.exchanges, second.state⟩ := by
  simp only [converse, run, Interaction.run_bind, exchangesOf_append]

@[simp]
theorem converse_log (level : Level) (message : String) :
    converse service state (log level message) = ⟨(), [], state⟩ :=
  rfl

/-- A log entry that is only written sometimes makes no difference. -/
theorem converse_ite_log (condition : Prop) [Decidable condition] (level : Level) (message : String)
    (next : Unit → Dialogue α) :
    converse service state (if condition then log level message >>= next else next ()) =
      converse service state (next ()) := by
  split
  · simp only [converse_bind, converse_log, List.nil_append]
  · rfl

/-! ### Steps that may fail -/

@[simp]
theorem converse_run_pure (value : α) :
    converse service state (pure value : Attempt α).run = ⟨.ok value, [], state⟩ :=
  rfl

@[simp]
theorem converse_run_throw (failure : Failure) :
    converse service state (throw failure : Attempt α).run = ⟨.error failure, [], state⟩ :=
  rfl

@[simp]
theorem converse_run_request (request : Request) :
    converse service state (Dialogue.request request).run =
      ⟨(service request state).1, [(request, (service request state).1)],
        (service request state).2⟩ :=
  rfl

/-- **A step that fails is the last one.** -/
@[simp]
theorem converse_run_bind (attempt : Attempt α) (next : α → Attempt β) :
    converse service state (attempt >>= next).run =
      let first := converse service state attempt.run
      match first.result with
      | .ok value =>
        let second := converse service first.state (next value).run
        ⟨second.result, first.exchanges ++ second.exchanges, second.state⟩
      | .error failure => ⟨.error failure, first.exchanges, first.state⟩ := by
  rw [ExceptT.run_bind, converse_bind]
  dsimp only
  cases (converse service state attempt.run).result with
  | ok value => rfl
  | error failure => simp only [converse_pure, List.append_nil]

/-- A failure that is caught starts what is put in its place. -/
@[simp]
theorem converse_run_tryCatch (attempt : Attempt α) (handler : Failure → Attempt α) :
    converse service state (tryCatch attempt handler : Attempt α).run =
      let first := converse service state attempt.run
      match first.result with
      | .ok value => ⟨.ok value, first.exchanges, first.state⟩
      | .error failure =>
        let second := converse service first.state (handler failure).run
        ⟨second.result, first.exchanges ++ second.exchanges, second.state⟩ := by
  have unfolded : (tryCatch attempt handler : Attempt α).run =
      attempt.run >>= fun result : Except Failure α =>
        (match result with
        | .ok value => pure (.ok value)
        | .error failure => (handler failure).run : Dialogue (Except Failure α)) := by
    refine congrArg (attempt.run >>= ·) (funext fun result => ?_)
    cases result <;> rfl
  rw [unfolded, converse_bind]
  dsimp only
  cases (converse service state attempt.run).result with
  | ok value => simp only [converse_pure, List.append_nil]
  | error failure => rfl

/-! ### Whose the replies are -/

/-- The replies are the service's, which goes from the one state to the other. -/
def Served : σ → List Exchange → σ → Prop
  | state, [], last => last = state
  | state, (request, reply) :: rest, last =>
    reply = (service request state).1 ∧ Served (service request state).2 rest last

/-- **What a dialogue exchanges is served.** -/
theorem served_converse (dialogue : Dialogue α) :
    Served service state (converse service state dialogue).exchanges
      (converse service state dialogue).state := by
  induction dialogue generalizing state with
  | done result => rfl
  | ask call next ih =>
    cases call with
    | send request => exact ⟨rfl, ih (service request state).1 (service request state).2⟩
    | log entry => exact ih () state

variable {service state}

theorem Served.exists_of_mem {exchanges : List Exchange} {last : σ}
    (served : Served service state exchanges last) {exchange : Exchange}
    (member : exchange ∈ exchanges) : ∃ before, exchange.2 = (service exchange.1 before).1 := by
  induction exchanges generalizing state with
  | nil => cases member
  | cons first rest ih =>
    obtain ⟨replied, later⟩ := served
    rcases List.mem_cons.mp member with rfl | among
    · exact ⟨state, replied⟩
    · exact ih later among

end Dialogue

end ResourceGraph
