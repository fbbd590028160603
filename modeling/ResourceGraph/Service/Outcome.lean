/-
**Reading the service's replies.**

What a create or a delete call did, read from its reply or its failure.

* `idOf?`: a usable identifier is a number or a text that is not empty;
* `CreateOutcome.ofBatch`, `CreateOutcome.ofSingle`: replies to calls that create;
* `CreateOutcome.ofFailure`: a failure that reports a duplicate is an outcome, any other stays one;
* `deletionProblem?`: what a reply to a delete call says went wrong.
-/

import ResourceGraph.Failure
import ResourceGraph.Service.Payload

namespace ResourceGraph

/-- What a create call did. -/
inductive CreateOutcome where
  | created (id : String)
  /-- The resource exists under this identifier. -/
  | duplicateFound (id : String)
  /-- The resource exists and the service did not name it. -/
  | duplicateUnresolved
  /-- The service accepted the call and nothing usable came of it. -/
  | failed (reason : String)
deriving DecidableEq, Repr

/-- What a delete call did. -/
inductive DeleteOutcome where
  | deleted (id : String)
  /-- There was nothing to delete. -/
  | notFound
  /-- Everything of the kind that carries the cleanup tag was deleted. -/
  | swept (ids : List String)
deriving DecidableEq, Repr

/-- An identifier under a key: a number, or a text that is not empty. -/
def idUnder? (key : String) (value : Json) : Option String :=
  match value.field? key with
  | some (.string text) => if text.isEmpty then none else some text
  | some (.number number) => some number.text
  | _ => none

/-- The identifier of an entry in a reply. -/
def idOf? (entry : Json) : Option String :=
  idUnder? "id" entry

/-- The entries of a collection in a reply. -/
def entriesUnder (collection : String) (reply : Json) : List Json :=
  ((reply.field? collection).bind (·.items?)).getD []

/-- The phrases that report a duplicate. -/
def duplicateMarkers : List String := ["already exists", "duplicate"]

/-- Whether a message reports a duplicate, in either case. The markers are ASCII, and no other
character has a lower case within them, so folding ASCII letters is enough. -/
def reportsDuplicate (message : String) : Bool :=
  let folded := Text.foldCase message.toList
  duplicateMarkers.any fun marker => Text.occursIn marker.toList folded

mutual

/-- The messages in a value: of a mapping its own first, then those of its other fields. -/
def messagesIn : Json → List String
  | .object fields =>
    ((Fields.get? "message" fields).bind (·.text?)).toList ++ messagesInFields fields
  | .array items => messagesInItems items
  | _ => []

/-- The messages in the items of a list. -/
def messagesInItems : List Json → List String
  | [] => []
  | item :: rest => messagesIn item ++ messagesInItems rest

/-- The messages in the fields of a mapping other than its message. -/
def messagesInFields : List (String × Json) → List String
  | [] => []
  | (key, value) :: rest =>
    if key = "message" then messagesInFields rest else messagesIn value ++ messagesInFields rest

end

/-- The identifier that a mapping itself gives of an existing resource. Of the two keys the first
that holds a text decides. -/
def existingIdHere? (fields : Fields) : Option String :=
  ((((fields.get? "resourceId").bind (·.text?)).or
    ((fields.get? "existingId").bind (·.text?))).filter fun text => !text.isEmpty)

mutual

/-- The identifier that a value gives of an existing resource: the mapping's own, else the first of
its fields. -/
def existingId? : Json → Option String
  | .object fields => (existingIdHere? fields).or (existingIdInFields? fields)
  | .array items => existingIdInItems? items
  | _ => none

/-- The first identifier that the items of a list give. -/
def existingIdInItems? : List Json → Option String
  | [] => none
  | item :: rest => (existingId? item).or (existingIdInItems? rest)

/-- The first identifier that the fields of a mapping give. -/
def existingIdInFields? : List (String × Json) → Option String
  | [] => none
  | (_, value) :: rest => (existingId? value).or (existingIdInFields? rest)

end

namespace CreateOutcome

/-- The outcome of a report that the resource exists. -/
def duplicate (body : Json) : CreateOutcome :=
  (existingId? body).elim duplicateUnresolved duplicateFound

/-- The outcome of a reply that lists what was created and what failed. -/
def ofBatch (created failed : String) (reply : Json) : CreateOutcome :=
  match ((entriesUnder created reply).filterMap idOf?).head? with
  | some id => .created id
  | none =>
    let messages := ((reply.field? failed).elim [] messagesIn) ++
      ((reply.field? "error").elim [] messagesIn)
    if messages.any reportsDuplicate then duplicate reply
    else if messages.isEmpty then .failed "Service returned no identifier"
    else .failed (Text.join "; " messages)

/-- The outcome of a reply that is the created resource. -/
def ofSingle (key : String) (reply : Json) : CreateOutcome :=
  (idUnder? key reply).elim (.failed ("Service response carried no '" ++ key ++ "'")) .created

/-- The part of an address after its last slash, slashes at the end left aside. -/
def lastSegment (address : String) : String :=
  let reversed := address.toList.reverse.dropWhile (· == '/')
  String.ofList (reversed.takeWhile (· != '/')).reverse

/-- The outcome of an upload: the identifier ends the address of the file. -/
def ofUpload (reply : Json) : CreateOutcome :=
  match (((reply.field? "uri").bind (·.text?)).map lastSegment).filter fun id => !id.isEmpty with
  | some id => .created id
  | none => ofSingle "id" reply

/-- Whether a failed call reports a duplicate. -/
def failureReportsDuplicate : ServiceFailure → Bool
  | .refused status message _ => status == 409 || reportsDuplicate message
  | _ => false

/-- The outcome of a failed call that reports a duplicate; any other failure stays one. -/
def ofFailure : Failure → Except Failure CreateOutcome
  | .service failure =>
    if failureReportsDuplicate failure then .ok (failure.body?.elim duplicateUnresolved duplicate)
    else .error (.service failure)
  | other => .error other

end CreateOutcome

/-- What a reply to a delete call says went wrong, if it lists failures. -/
def deletionProblem? (failed : String) (reply : Json) : Option Failure :=
  match entriesUnder failed reply with
  | [] => none
  | failures =>
    let messages := messagesInItems failures
    let reasons := if messages.isEmpty then failures.map Payload.storedText else messages
    some (.service (.malformed ("Service refused to delete: " ++ Text.join "; " reasons)))

end ResourceGraph
