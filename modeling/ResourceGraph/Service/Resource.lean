/-
**Looking up, creating and deleting resources.**

The dialogues for one resource of any kind, within a scope: the workspace, if one is configured, and
the cleanup tag. A look-up asks for resources of the name that carry the tag; a deletion looks up
first and deletes only what the look-up returned.
-/

import ResourceGraph.Service.Catalogue
import ResourceGraph.Service.Dialogue
import ResourceGraph.Service.Outcome

namespace ResourceGraph

/-- What restricts the calls of a run. -/
structure Scope where
  workspace : Option String
  tag : String
deriving DecidableEq, Repr

namespace Scope

open Dialogue

variable (scope : Scope)

/-- The filter of a look-up by name. -/
def lookupFilter (endpoint : Endpoint) (name : String) : Filter :=
  endpoint.nameClause name :: endpoint.tagClause scope.tag :: Filter.inWorkspace scope.workspace

/-- The filter of a sweep. -/
def sweepFilter (endpoint : Endpoint) : Filter :=
  endpoint.tagClause scope.tag :: Filter.inWorkspace scope.workspace

/-- The request of a query. -/
def queryRequest (endpoint : Endpoint) (filter : Filter) (limit : Nat) : Request :=
  .post endpoint.queryPath (.object [("filter", .string filter.text), ("take", Json.ofNat limit)])

/-- Whether the joined tags of an entry include a tag as a whole. -/
def carriesTag (tag : String) (entry : Json) : Bool :=
  (((entry.field? "properties").bind (·.field? Endpoint.tagsProperty)).bind
    (·.text?)).any fun tags => ((Text.pieces ',' tags).map Text.trim).contains tag

/-- Whether an entry of a reply is a match. Clauses on joined tags match parts of tags too, so the
entry is checked; other clauses need no check. -/
def isMatch (endpoint : Endpoint) (entry : Json) : Bool :=
  match endpoint.carrier with
  | .joinedTag => carriesTag scope.tag entry
  | _ => true

/-- The usable identifiers of the matches in a reply. -/
def matchesIn (endpoint : Endpoint) (reply : Json) : List String :=
  ((entriesUnder endpoint.collection reply).filter (scope.isMatch endpoint)).filterMap idOf?

/-- Looks up a resource by its name: the first usable identifier of a match. -/
def find (kind : Kind) (name : String) : Attempt (Option String) := do
  let endpoint := kind.endpoint
  let reply ← request
    (queryRequest endpoint (scope.lookupFilter endpoint name) endpoint.matchLimit)
  return (scope.matchesIn endpoint reply).head?

/-- The custom properties of a resource, with its name or its cleanup tag where they belong. -/
def customProperties (endpoint : Endpoint) (name : String) (properties : Fields) : Fields :=
  let stored := Payload.storedProperties (properties.get? "properties")
  let named := endpoint.nameProperty.elim stored fun key => stored.insert key (.string name)
  match endpoint.carrier with
  | .property => named.insert Endpoint.cleanupProperty (.string scope.tag)
  | .keyword => named
  | .joinedTag =>
    let declared := (properties.get? Endpoint.tagsProperty).or (named.get? Endpoint.tagsProperty)
    named.insert Endpoint.tagsProperty (.string (Payload.joinedTags declared scope.tag))

/-- The keywords of a resource that carries the cleanup tag there. -/
def keywordFields (endpoint : Endpoint) (properties : Fields) : List (String × Json) :=
  match endpoint.carrier with
  | .keyword =>
    [("keywords", Json.ofTexts (Payload.keywords (properties.get? "keywords") scope.tag))]
  | _ => []

/-- The fields that are set whatever is declared. -/
def forcedFields (endpoint : Endpoint) (name : String) (properties : Fields) :
    List (String × Json) :=
  (endpoint.nameField, .string name) :: (scope.keywordFields endpoint properties ++
    endpoint.derived properties ++
    [("properties", .object (scope.customProperties endpoint name properties))])

/-- The fields that stand in when they are not declared. -/
def defaultFields (endpoint : Endpoint) (name : String) : List (String × Json) :=
  endpoint.defaults name ++
    (scope.workspace.map fun workspace => ("workspace", Json.string workspace)).toList

/-- What a create call says about the resource. -/
def createEntry (endpoint : Endpoint) (name : String) (properties : Fields) : Json :=
  .object (Payload.setMissing
    (Payload.setAll (Payload.declared endpoint.reserved properties)
      (scope.forcedFields endpoint name properties))
    (scope.defaultFields endpoint name))

/-- The request of a create call. -/
def createRequest (endpoint : Endpoint) (name : String) (properties : Fields) : Request :=
  let entry := scope.createEntry endpoint name properties
  .post endpoint.createPath
    (endpoint.batchKey.elim entry fun key => .object [(key, .array [entry])])

/-- The outcome of the reply to a create call. -/
def createOutcome (endpoint : Endpoint) (reply : Json) : CreateOutcome :=
  match endpoint.createReply with
  | .single key => .ofSingle key reply
  | .batch created failed => .ofBatch created failed reply
  | .upload => .ofUpload reply

/-- Creates a resource. -/
def create (kind : Kind) (name : String) (properties : Fields) : Attempt CreateOutcome :=
  let endpoint := kind.endpoint
  tryCatch
    (do return createOutcome endpoint (← request (scope.createRequest endpoint name properties)))
    fun failure => ExceptT.mk (pure (CreateOutcome.ofFailure failure))

/-- Posts a list of identifiers to delete; a reply that lists failures is one. -/
def postDeletion (path idsKey : String) (constants : Fields) (failed : String)
    (ids : List String) : Attempt Unit := do
  let reply ← request (.post path (.object (constants.insert idsKey (Json.ofTexts ids))))
  match deletionProblem? failed reply with
  | some problem => throw problem
  | none => return

/-- Whether a failed call says that there was nothing to delete. -/
def isMissing : Failure → Bool
  | .service failure => failure.isNotFound
  | _ => false

/-- Deletes what is at the path of an identifier; nothing there is an outcome. -/
def deleteAt (collection id : String) : Attempt DeleteOutcome :=
  tryCatch
    (do
      let _ ← request (.delete (collection ++ "/" ++ id))
      return .deleted id)
    fun failure => if isMissing failure then return .notFound else throw failure

/-- Deletes everything of a kind that carries the cleanup tag, up to the limit of a sweep. -/
def sweep (endpoint : Endpoint) (path failed : String) (limit : Nat) : Attempt DeleteOutcome := do
  let reply ← request (queryRequest endpoint (scope.sweepFilter endpoint) limit)
  let ids := (entriesUnder endpoint.collection reply).filterMap idOf?
  if ids.isEmpty then return .notFound
  postDeletion path "ids" [] failed ids
  return .swept ids

/-- Deletes a resource by its name, or sweeps its kind. -/
def delete (kind : Kind) (name : String) : Attempt DeleteOutcome := do
  let endpoint := kind.endpoint
  match endpoint.deletion with
  | .sweep path failed limit => scope.sweep endpoint path failed limit
  | .atPath collection =>
    match ← scope.find kind name with
    | none => return .notFound
    | some id => deleteAt collection id
  | .posted path idsKey constants failed =>
    match ← scope.find kind name with
    | none => return .notFound
    | some id =>
      postDeletion path idsKey constants failed [id]
      return .deleted id

end Scope

end ResourceGraph
