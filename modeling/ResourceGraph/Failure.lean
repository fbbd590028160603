/-
**What can go wrong.**

A `Failure` is a cause: a document that is not there or is invalid, a missing setting, a failed call
of the service, a failed file operation, or an internal one. `Failure.message` is its one wording.

* `ServiceFailure.ofResponse`: the failure of a reply with a status that is no success;
* `Failure.isFatal`: rejected credentials and internal failures end a whole run, any other failure
  ends the work on one resource;
* `Failure.describe`: the wording in a report, with what the service told beyond its message.
-/

import ResourceGraph.Json.Source
import ResourceGraph.Text.Blank
import ResourceGraph.Text.Search

namespace ResourceGraph

/-- A failed call of the resource service. -/
inductive ServiceFailure where
  /-- The service rejected the credentials. -/
  | unauthorized (message : String)
  /-- The service answered with a status that is no success. -/
  | refused (status : Nat) (message : String) (body : Option Json)
  /-- The service asks to wait. -/
  | rateLimited (seconds : Nat)
  /-- The service could not be reached. -/
  | unreachable (message : String)
  /-- The reply could not be interpreted. -/
  | malformed (message : String)
deriving DecidableEq, Repr

/-- A cause of failure. -/
inductive Failure where
  /-- There is no document of that name. -/
  | notFound (name : String)
  /-- The document has problems; all of them are listed. -/
  | invalid (document : String) (problems : List String)
  /-- A required setting was not supplied. -/
  | missingSetting (name : String)
  | service (failure : ServiceFailure)
  | io (message : String)
  | internal (message : String)
deriving DecidableEq, Repr

namespace ServiceFailure

/-- The wording of a failed call. -/
def message : ServiceFailure → String
  | unauthorized message => "Authentication failed: " ++ message
  | refused status message _ => "Request failed: " ++ toString status ++ " - " ++ message
  | rateLimited seconds => "Rate limited, retry after " ++ toString seconds ++ " seconds"
  | unreachable message => "Network error communicating with the service: " ++ message
  | malformed message => "Invalid response from the service: " ++ message

/-- The status that the service answered with. -/
def status? : ServiceFailure → Option Nat
  | unauthorized _ => some 401
  | refused status _ _ => some status
  | rateLimited _ => some 429
  | unreachable _ => none
  | malformed _ => none

/-- Whether the service reported a conflict. -/
def isConflict (failure : ServiceFailure) : Bool :=
  failure.status? == some 409

/-- Whether the service reported a missing resource. -/
def isNotFound (failure : ServiceFailure) : Bool :=
  failure.status? == some 404

/-- The body of the reply, if it was a value. -/
def body? : ServiceFailure → Option Json
  | refused _ _ body => body
  | _ => none

/-- The message that the body of a reply carries. Of `error.message`, `message` and a string `error`
the first one there decides; it counts only if it is a string and not empty. -/
def messageIn? (body : Json) : Option String := do
  let error := body.field? "error"
  let candidate ← ((error.bind (·.field? "message")).or (body.field? "message")).or
    (error.filter (·.isString))
  let text ← candidate.text?
  if text.isEmpty then none else some text

/-- The failure of a reply with a status that is no success: its message is the one that the body
carries, else the trimmed text, else the status. -/
def ofResponse (status : Nat) (text : String) : ServiceFailure :=
  let body := Json.ofText? text
  let plain :=
    if Text.isBlankText text then "HTTP " ++ toString status else Text.trim text
  refused status ((body.bind messageIn?).getD plain) body

end ServiceFailure

namespace Failure

/-- The wording of a failure. -/
def message : Failure → String
  | notFound name => "Configuration error: Document not found: " ++ name
  | invalid document problems =>
    "Configuration error: Document '" ++ document ++ "' is invalid (" ++ toString problems.length ++
      " problem(s)): " ++ Text.join "; " problems
  | missingSetting name => "Configuration error: Missing setting: " ++ name
  | service failure => "API error: " ++ failure.message
  | io message => "IO error: " ++ message
  | internal message => "Internal error: " ++ message

/-- Whether trying again may help. -/
def isRetryable : Failure → Bool
  | service (.rateLimited _) => true
  | service (.unreachable _) => true
  | _ => false

/-- The seconds that the service asks to wait before trying again. -/
def retryDelay? : Failure → Option Nat
  | service (.rateLimited seconds) => some seconds
  | _ => none

/-- Whether the failure ends a whole run and not the work on one resource only. -/
def isFatal : Failure → Bool
  | service (.unauthorized _) => true
  | internal _ => true
  | _ => false

/-- The failed call behind the failure. -/
def service? : Failure → Option ServiceFailure
  | service failure => some failure
  | _ => none

/-- The name and the inner messages of an error body. -/
def details (body : Json) : String :=
  let error := (body.field? "error").getD body
  let name :=
    match (error.field? "name").bind (·.text?) with
    | some name => " [" ++ name ++ "]"
    | none => ""
  let inner := (((error.field? "innerErrors").bind (·.items?)).getD []).filterMap fun item =>
    (item.field? "message").bind (·.text?)
  name ++ if inner.isEmpty then "" else " (" ++ Text.join "; " inner ++ ")"

/-- The wording of a failure in a report: its message, and the details of its body. -/
def describe (failure : Failure) : String :=
  match failure.service?.bind (·.body?) with
  | some body => failure.message ++ details body
  | none => failure.message

end Failure

end ResourceGraph
