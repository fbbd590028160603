/-
**Sessions.**

A session is what a command does in its surroundings: it prints, asks for a line, writes a file,
takes the time and a new identifier, and talks to the service. It is an `Interaction`, so that a law
about sessions holds whatever the surroundings answer.
-/

import ResourceGraph.Http.Wire
import ResourceGraph.Run.Id
import ResourceGraph.Time.Instant

namespace ResourceGraph

/-- A step of a session. -/
inductive SessionStep where
  /-- Prints on the standard output. -/
  | output (text : String)
  /-- Prints on the standard error output. -/
  | complain (text : String)
  /-- Reads a line from the standard input. -/
  | readLine
  /-- Writes a file. -/
  | writeFile (path text : String)
  /-- Takes the time. -/
  | takeTime
  /-- Makes a new identifier. -/
  | identify
  /-- A step of the conversation with the service, or a log entry. -/
  | wire (step : WireStep)
deriving DecidableEq, Repr

/-- What a step is answered with. -/
def SessionStep.Answer : SessionStep → Type
  | output _ => Unit
  | complain _ => Unit
  | readLine => Except String String
  | writeFile _ _ => Except String Unit
  | takeTime => Instant
  | identify => RunId
  | wire step => step.Answer

/-- A session. -/
abbrev Session := Interaction SessionStep SessionStep.Answer

/-- A step with its answer. -/
abbrev SessionEvent := Interaction.Event SessionStep SessionStep.Answer

namespace Session

/-- Prints on the standard output. -/
def output (text : String) : Session Unit :=
  Interaction.asking (SessionStep.output text)

/-- Prints on the standard error output. -/
def complain (text : String) : Session Unit :=
  Interaction.asking (SessionStep.complain text)

/-- Reads a line. -/
def readLine : Session (Except String String) :=
  Interaction.asking SessionStep.readLine

/-- Writes a file. -/
def writeFile (path text : String) : Session (Except String Unit) :=
  Interaction.asking (SessionStep.writeFile path text)

/-- Takes the time. -/
def takeTime : Session Instant :=
  Interaction.asking SessionStep.takeTime

/-- Makes a new identifier. -/
def identify : Session RunId :=
  Interaction.asking SessionStep.identify

/-- Talks to the service. -/
def converse {α : Type} (wire : Wire α) : Session α :=
  wire.expand fun step => Interaction.asking (SessionStep.wire step)

/-- Writes a log entry. -/
def log (level : Level) (message : String) : Session Unit :=
  converse (Wire.log ⟨level, message⟩)

/-- Writes log entries. -/
def logAll : List LogEntry → Session Unit
  | [] => return ()
  | entry :: rest => do
    log entry.level entry.message
    logAll rest

/-- Writes the entries of a value, and goes on with the value. -/
def relay {α : Type} (logged : Logged α) : Session α := do
  logAll logged.entries
  return logged.value

end Session

/-- What was printed on the standard output. -/
def outputOf (events : List SessionEvent) : String :=
  String.join (events.filterMap fun event =>
    match event.1 with
    | .output text => some text
    | _ => none)

/-- What was printed on the standard error output. -/
def complaintsOf (events : List SessionEvent) : String :=
  String.join (events.filterMap fun event =>
    match event.1 with
    | .complain text => some text
    | _ => none)

/-- The requests that were delivered, in order. -/
def sessionDeliveriesOf (events : List SessionEvent) : List WireRequest :=
  events.filterMap fun event =>
    match event.1 with
    | .wire (.deliver request) => some request
    | _ => none

end ResourceGraph
