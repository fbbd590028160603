/-
**The client of the resource service.**

The client turns a request to the service into a request on the wire, with its credentials, and an
answer into a reply. When the service asks to wait or cannot be reached, the client tries again,
three times in all.

* `HttpClient.prepare`: the request on the wire;
* `HttpClient.interpret`: the reply that an attempt ends with;
* `HttpClient.send`: the attempts for one request;
* `HttpClient.carry`: a whole dialogue over the wire.
-/

import ResourceGraph.Http.Wire
import ResourceGraph.Json.Printer
import ResourceGraph.Service.Dialogue

namespace ResourceGraph

/-- A client with the address and the key of the service. -/
structure HttpClient where
  baseUrl : String
  key : String
deriving DecidableEq, Repr

namespace HttpClient

/-- A client for an address; slashes at its end mean nothing. -/
def connect (baseUrl key : String) : HttpClient :=
  ⟨Text.dropTrailing '/' baseUrl, key⟩

/-- How many attempts a request has. -/
def attemptLimit : Nat := 3

/-- The wait after the first attempt, in milliseconds; it grows with every attempt. -/
def baseDelay : Nat := 1000

/-- The longest wait that the service can ask for, in seconds. -/
def longestDelay : Nat := 30

/-- The wait that is assumed where the service does not say how long, in seconds. -/
def assumedDelay : Nat := 60

/-- What the client calls itself. -/
def userAgent : String := "seedbed/0.1.0"

/-- The content type of requests and answers. -/
def contentType : String := "application/json"

/-! ### One attempt -/

/-- The headers of a request. -/
def headers (client : HttpClient) (request : Request) : Headers :=
  [("authorization", "Bearer " ++ client.key), ("accept", contentType),
    ("user-agent", userAgent)] ++
    (request.body.map fun _ => ("content-type", contentType)).toList

/-- The request on the wire; `none` if its address or its key cannot be sent. -/
def prepare (client : HttpClient) (request : Request) : Option WireRequest :=
  if Headers.canSend client.key then
    (Url.ofText? (client.baseUrl ++ request.path)).map fun url =>
      ⟨request.method, url.withQuery request.query, client.headers request,
        request.body.map Json.compact⟩
  else none

/-- The seconds that a text names; a sign is allowed, and the number has to fit into 64 bits. -/
def seconds? (text : String) : Option Nat :=
  let digits := match text.toList with
    | '+' :: rest => rest
    | chars => chars
  if digits.isEmpty || !digits.all Char.isDigit then none
  else
    let value := Text.digitsValue digits
    if value < Nat.pow 2 64 then some value else none

/-- The seconds that an answer asks to wait. -/
def askedDelay (answer : WireAnswer) : Nat :=
  ((answer.headers.get? "retry-after").bind seconds?).getD assumedDelay

/-- The message about rejected credentials. -/
def rejection (status : String) : Failure :=
  .service (.unauthorized ("Service rejected credentials (" ++ status ++ ")"))

/-- The reply in the text of a successful answer: nothing stands for null. -/
def replyOfText (text : String) : Reply :=
  if Text.isBlankText text then .ok .null
  else
    match Json.ofText? text with
    | some value => .ok value
    | none => .error (.service (.malformed "Failed to parse response: not a JSON value"))

/-- The reply that an answer carries. -/
def replyOfAnswer (answer : WireAnswer) : Reply :=
  if answer.status = 429 then .error (.service (.rateLimited (askedDelay answer)))
  else if answer.status = 401 then .error (rejection "401 Unauthorized")
  else if answer.status = 403 then .error (rejection "403 Forbidden")
  else
    match answer.body with
    | .error reason =>
      .error (.service (.malformed ("Failed to read response body: " ++ reason)))
    | .ok text =>
      if answer.isSuccess then replyOfText text
      else .error (.service (.ofResponse answer.status text))

/-- The reply that an attempt ends with. -/
def interpret : Delivery → Reply
  | .ok answer => replyOfAnswer answer
  | .error reason => .error (.service (.unreachable ("Request failed: " ++ reason)))

/-- One attempt. A request that cannot be sent is never delivered. -/
def attempt (client : HttpClient) (request : Request) : Wire Reply :=
  match client.prepare request with
  | some prepared => interpret <$> Wire.deliver prepared
  | none => return interpret (.error "builder error")

/-! ### All attempts -/

/-- The milliseconds before an attempt that follows a failure: more with every attempt, and not less
than the service asks for, up to a limit. -/
def delay (number : Nat) (failure : Failure) : Nat :=
  max (baseDelay * number) (1000 * min ((failure.retryDelay?).getD 0) longestDelay)

/-- Announces an attempt that follows a failure, and waits for it. -/
def backOff (request : Request) (number : Nat) (failure : Failure) : Wire Unit := do
  let milliseconds := delay number failure
  Wire.log ⟨.debug, "Retry attempt " ++ toString number ++ " of " ++ toString attemptLimit ++
    " for " ++ request.label ++ " in " ++ toString (milliseconds / 1000) ++ "s"⟩
  Wire.wait milliseconds

/-- An attempt and, while trying again may help, more of them; the number counts the earlier
ones. -/
def attempts (client : HttpClient) (request : Request) (number : Nat) : Nat → Wire Reply
  | 0 => client.attempt request
  | more + 1 => do
    match ← client.attempt request with
    | .ok value => return .ok value
    | .error failure =>
      if failure.isRetryable then
        backOff request (number + 1) failure
        attempts client request (number + 1) more
      else return .error failure

/-- Sends a request. -/
def send (client : HttpClient) (request : Request) : Wire Reply :=
  client.attempts request 0 (attemptLimit - 1)

/-- A step of a dialogue over the wire. -/
def step (client : HttpClient) : (call : Call) → Wire call.Answer
  | .send request => client.send request
  | .log entry => Wire.log entry

/-- A dialogue over the wire. -/
def carry {α : Type} (client : HttpClient) (dialogue : Dialogue α) : Wire α :=
  dialogue.expand client.step

end HttpClient

end ResourceGraph
