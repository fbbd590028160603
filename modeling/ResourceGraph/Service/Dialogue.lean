/-
**Dialogues with the service.**

A dialogue sends requests and writes log entries. It is an `Interaction`, so every law about
dialogues holds for any service: whatever replies come, depending on all that was sent before.

* `Dialogue.run`: a dialogue with a service that has a state;
* `requestsOf`, `entriesOf`: what was sent and what was logged, in order.
-/

import ResourceGraph.Interaction
import ResourceGraph.Log
import ResourceGraph.Service.Request

namespace ResourceGraph

/-- A step of a dialogue. -/
inductive Call where
  | send (request : Request)
  | log (entry : LogEntry)
deriving DecidableEq, Repr

/-- What a step is answered with. -/
def Call.Answer : Call → Type
  | send _ => Reply
  | log _ => Unit

/-- A dialogue with the service. -/
abbrev Dialogue := Interaction Call Call.Answer

/-- A step with its answer. -/
abbrev CallEvent := Interaction.Event Call Call.Answer

/-- A service: the reply to a request, and the state after it. -/
abbrev Service (σ : Type) := Request → σ → Reply × σ

namespace Dialogue

/-- Sends a request. -/
def send (request : Request) : Dialogue Reply :=
  Interaction.asking (Call.send request)

/-- Writes a log entry. -/
def log (level : Level) (message : String) : Dialogue Unit :=
  Interaction.asking (Call.log ⟨level, message⟩)

/-- The answers of a service; log entries do not reach it. -/
def answers {σ : Type} (service : Service σ) : (call : Call) → σ → call.Answer × σ
  | .send request, state => service request state
  | .log _, state => ((), state)

/-- Runs a dialogue with a service. -/
def run {σ α : Type} (service : Service σ) (state : σ) (dialogue : Dialogue α) :
    Interaction.Outcome Call Call.Answer σ α :=
  Interaction.run (answers service) state dialogue

/-- A step that may fail. -/
abbrev Attempt (α : Type) := ExceptT Failure Dialogue α

/-- Sends a request and fails with its failure. -/
def request (request : Request) : Attempt Json :=
  ExceptT.mk do
    log .debug ("Sending " ++ request.label)
    send request

end Dialogue

/-- The requests among the steps, in order. -/
def requestsOf (events : List CallEvent) : List Request :=
  events.filterMap fun event =>
    match event.1 with
    | .send request => some request
    | .log _ => none

/-- The log entries among the steps, in order. -/
def entriesOf (events : List CallEvent) : List LogEntry :=
  events.filterMap fun event =>
    match event.1 with
    | .send _ => none
    | .log entry => some entry

/-- A service that must not be used: every request fails, and fatally. -/
def offline : Service Unit := fun request _ =>
  (.error (.internal ("Refusing to send " ++ request.label ++
    ": no service is configured for this run")), ())

end ResourceGraph
