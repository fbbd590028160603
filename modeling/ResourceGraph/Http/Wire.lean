/-
**Conversations on the wire.**

A conversation delivers requests, waits and writes log entries. It is an `Interaction`, so that
whatever delivers requests can carry it out.

* `Wire.followingRedirects`: a conversation where an answer that asks for another request is not the
  answer of the attempt;
* `deliveriesOf`: the requests that were delivered, in order.
-/

import ResourceGraph.Http.Message
import ResourceGraph.Interaction
import ResourceGraph.Log

namespace ResourceGraph

/-- A step of a conversation. -/
inductive WireStep where
  | deliver (request : WireRequest)
  | wait (milliseconds : Nat)
  | log (entry : LogEntry)
deriving DecidableEq, Repr

/-- What a step is answered with. -/
def WireStep.Answer : WireStep → Type
  | deliver _ => Delivery
  | wait _ => Unit
  | log _ => Unit

/-- A conversation on the wire. -/
abbrev Wire := Interaction WireStep WireStep.Answer

/-- A step with its answer. -/
abbrev WireEvent := Interaction.Event WireStep WireStep.Answer

namespace Wire

/-- Delivers a request. -/
def deliver (request : WireRequest) : Wire Delivery :=
  Interaction.asking (WireStep.deliver request)

/-- Waits. -/
def wait (milliseconds : Nat) : Wire Unit :=
  Interaction.asking (WireStep.wait milliseconds)

/-- Writes a log entry. -/
def log (entry : LogEntry) : Wire Unit :=
  Interaction.asking (WireStep.log entry)

/-- How often an attempt follows answers to other addresses. -/
def redirectLimit : Nat := 10

/-- Delivers a request, and those that answers ask for instead, up to a number of times. -/
def deliverFollowing (limit : Nat) (request : WireRequest) : Wire Delivery := do
  match ← deliver request with
  | .error reason => return .error reason
  | .ok answer =>
    match answer.settled request.method with
    | .error reason => return .error reason
    | .ok answer =>
      match request.redirected? answer with
      | none => return .ok answer
      | some next =>
        match limit with
        | 0 => return .error "too many redirects"
        | limit + 1 => deliverFollowing limit next

/-- A step, with redirects followed. -/
def stepFollowing : (step : WireStep) → Wire step.Answer
  | .deliver request => deliverFollowing redirectLimit request
  | .wait milliseconds => wait milliseconds
  | .log entry => log entry

/-- A conversation, with redirects followed. -/
def followingRedirects {α : Type} (wire : Wire α) : Wire α :=
  wire.expand stepFollowing

end Wire

/-- The requests delivered among the steps, in order. -/
def deliveriesOf (events : List WireEvent) : List WireRequest :=
  events.filterMap fun event =>
    match event.1 with
    | .deliver request => some request
    | .wait _ => none
    | .log _ => none

end ResourceGraph
