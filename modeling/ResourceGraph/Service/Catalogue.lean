/-
**How the service handles each kind.**

`Kind.endpoint` gives, for every kind, the paths of its calls, the shape of the bodies, where the
cleanup tag is kept and how the replies are read. All that differs between kinds is in this table;
`Service/Resource` works on any entry of it.
-/

import ResourceGraph.Document.Kind
import ResourceGraph.Service.Filter
import ResourceGraph.Service.Payload

namespace ResourceGraph

/-- Where a resource keeps the cleanup tag. -/
inductive TagCarrier where
  /-- In a custom property of its own. -/
  | property
  /-- Among its keywords. -/
  | keyword
  /-- In a custom property that joins tags with commas. -/
  | joinedTag
deriving DecidableEq, Repr

/-- How a reply names the resource that was created. -/
inductive CreateReply where
  /-- Under a key of its own. -/
  | single (key : String)
  /-- In a list of what was created, beside a list of what failed. -/
  | batch (created failed : String)
  /-- At the end of an address. -/
  | upload
deriving DecidableEq, Repr

/-- How resources are deleted. -/
inductive Deletion where
  /-- One by one, at the path of the resource below a collection. -/
  | atPath (collection : String)
  /-- One by one, by a posted list of identifiers beside constant fields. -/
  | posted (path idsKey : String) (constants : Fields) (failed : String)
  /-- All that carry the cleanup tag at once, up to a limit. -/
  | sweep (path failed : String) (limit : Nat)
deriving DecidableEq, Repr

/-- How the service handles a kind. -/
structure Endpoint where
  /-- Where resources are created. -/
  createPath : String
  /-- The key of the list around a created resource, if there is one. -/
  batchKey : Option String
  /-- The field of the body that holds the name. -/
  nameField : String
  /-- The custom property that repeats the name, if there is one. -/
  nameProperty : Option String
  /-- The declared keys that are not passed on as they are. -/
  reserved : List String
  /-- Fields made from the declared properties. -/
  derived : Fields → List (String × Json)
  /-- Fields that stand in when they are not declared, for a name. -/
  defaults : String → List (String × Json)
  createReply : CreateReply
  /-- Where resources are queried. -/
  queryPath : String
  /-- The key of the list of matches. -/
  collection : String
  /-- The clause on the name. -/
  nameClause : String → Clause
  /-- The clause on the cleanup tag. -/
  tagClause : String → Clause
  carrier : TagCarrier
  /-- The number of matches that a look-up asks for. -/
  matchLimit : Nat
  deletion : Deletion

namespace Endpoint

/-- The custom property that keeps the cleanup tag. -/
def cleanupProperty : String := "seedbedCleanupTag"

/-- The custom property that joins tags. -/
def tagsProperty : String := "tags"

/-- How a filter names a custom property. -/
def propertyField (key : String) : String :=
  "properties[\"" ++ key ++ "\"]"

/-- A resource with a name and custom properties, one of them for the cleanup tag. -/
def plain (createPath queryPath collection : String) (deletion : Deletion) : Endpoint where
  createPath := createPath
  batchKey := none
  nameField := "name"
  nameProperty := none
  reserved := ["properties"]
  derived := fun _ => []
  defaults := fun _ => []
  createReply := .single "id"
  queryPath := queryPath
  collection := collection
  nameClause := .equals "name"
  tagClause := .equals (propertyField cleanupProperty)
  carrier := .property
  matchLimit := 1
  deletion := deletion

/-- A resource with a name, keywords and custom properties, created in a list. -/
def tagged (createPath queryPath collection : String) (deletion : Deletion) : Endpoint :=
  { plain createPath queryPath collection deletion with
    batchKey := some collection
    reserved := ["keywords", "properties"]
    createReply := .batch collection "failed"
    tagClause := .contains "keywords"
    carrier := .keyword }

/-- Locations carry the tag in a property of their own. -/
def location : Endpoint :=
  plain "/nilocation/v1/locations" "/nilocation/v1/query-locations" "locations"
    (.atPath "/nilocation/v1/locations")

/-- Products carry the tag as a keyword; the name stands in for the part number. -/
def product : Endpoint :=
  { tagged "/nitestmonitor/v2/products" "/nitestmonitor/v2/query-products" "products"
      (.posted "/nitestmonitor/v2/delete-products" "ids" [] "failed") with
    defaults := fun name => [("partNumber", .string name)] }

/-- Systems are named by their alias and carry the tag as a keyword. -/
def system : Endpoint :=
  { tagged "/nisysmgmt/v1/virtual" "/nisysmgmt/v1/query-systems" "data"
      (.posted "/nisysmgmt/v1/remove-systems" "tgts" [("force", .bool true)] "failedIds") with
    batchKey := none
    nameField := "alias"
    reserved := ["keywords", "properties", "alias"]
    createReply := .single "minionId"
    nameClause := .equals "alias" }

/-- An asset of a default type. -/
def asset (defaultType : String) : Endpoint :=
  { tagged "/niapm/v1/assets" "/niapm/v1/query-assets" "assets"
      (.posted "/niapm/v1/delete-assets" "ids" [] "failed") with
    defaults := fun _ => [("assetType", .string defaultType)]
    nameClause := .equals "AssetName"
    tagClause := .contains "Keywords" }

/-- The status of a test result: a text is short for its type, and none is a pass. -/
def status (properties : Fields) : Json :=
  match properties.get? "status" with
  | some (.string text) =>
    .object [("statusName", .string text), ("statusType", .string (Text.upperText text))]
  | some (.object fields) => .object fields
  | _ => .object [("statusName", .string "Passed"), ("statusType", .string "PASSED")]

/-- Test results are named by their program, carry the tag as a keyword, and are swept. -/
def testResult : Endpoint :=
  { tagged "/nitestmonitor/v2/results" "/nitestmonitor/v2/query-results" "results"
      (.sweep "/nitestmonitor/v2/delete-results" "failed" 1000) with
    nameField := "programName"
    reserved := ["keywords", "properties", "status"]
    derived := fun properties => [("status", status properties)]
    nameClause := .equals "programName" }

/-- Workflows carry the tag in a property of their own. -/
def workflow : Endpoint :=
  { plain "/niworkorder/v1/workflows" "/niworkorder/v1/query-workflows" "workflows"
      (.posted "/niworkorder/v1/delete-workflows" "ids" [] "failedWorkflowIds") with
    defaults := fun _ => [("states", .array []), ("actions", .array [])] }

/-- A resource of the work services: its tags are joined in one custom property. -/
def work (createPath queryPath deletePath collection created failed failedIds : String)
    (defaults : List (String × Json)) : Endpoint :=
  { plain createPath queryPath collection (.posted deletePath "ids" [] failedIds) with
    batchKey := some collection
    reserved := ["properties", tagsProperty]
    defaults := fun _ => defaults
    createReply := .batch created failed
    tagClause := .contains (propertyField tagsProperty)
    carrier := .joinedTag
    matchLimit := 100 }

/-- Work items are new test plans unless they say otherwise. -/
def workItem : Endpoint :=
  work "/niworkitem/v1/workitems" "/niworkitem/v1/query-workitems" "/niworkitem/v1/delete-workitems"
    "workItems" "createdWorkItems" "failedWorkItems" "failedWorkItemIds"
    [("state", .string "NEW"), ("type", .string "testplan")]

/-- Work orders are new unless they say otherwise. -/
def workOrder : Endpoint :=
  work "/niworkorder/v1/workorders" "/niworkorder/v1/query-workorders"
    "/niworkorder/v1/delete-workorders" "workOrders" "createdWorkOrders" "failedWorkOrders"
    "failedWorkOrderIds" [("state", .string "NEW")]

/-- A column of a data table. A text is the name of a nullable column of texts. -/
def column : Json → Json
  | .string name =>
    .object [("columnType", .string "NULLABLE"), ("dataType", .string "STRING"),
      ("name", .string name)]
  | .object fields =>
    let column := Payload.setMissing (Payload.declared ["properties"] fields)
      [("dataType", .string "STRING"), ("columnType", .string "NULLABLE")]
    match Fields.get? "properties" fields with
    | some properties =>
      .object (column.insert "properties" (.object (Payload.storedProperties (some properties))))
    | none => .object column
  | other => other

/-- The columns of a data table. -/
def columns (properties : Fields) : Json :=
  .array ((((properties.get? "columns").bind (·.items?)).getD []).map column)

/-- Data tables carry the tag in a property of their own; their columns are completed. -/
def dataTable : Endpoint :=
  { plain "/nidataframe/v1/tables" "/nidataframe/v1/query-tables" "tables"
      (.atPath "/nidataframe/v1/tables") with
    reserved := ["properties", "columns"]
    derived := fun properties => [("columns", columns properties)] }

/-- Files carry the tag and their name in properties of their own, and are swept. -/
def file : Endpoint :=
  { plain "/nifile/v1/service-groups/Default/upload-files"
      "/nifile/v1/service-groups/Default/query-files-linq" "availableFiles"
      (.sweep "/nifile/v1/service-groups/Default/delete-files" "failed" 1000) with
    nameProperty := some "Name"
    defaults := fun _ => [("content", .string "")]
    createReply := .upload
    tagClause := .equals ("properties." ++ cleanupProperty) }

/-- Notebooks carry the tag in a property of their own. -/
def notebook : Endpoint :=
  plain "/ninotebook/v1/notebook" "/ninotebook/v1/notebook/query" "notebooks"
    (.atPath "/ninotebook/v1/notebook")

end Endpoint

/-- How the service handles a kind. -/
def Kind.endpoint : Kind → Endpoint
  | location => Endpoint.location
  | product => Endpoint.product
  | system => Endpoint.system
  | asset => Endpoint.asset "GENERIC"
  | dut => Endpoint.asset "DEVICE_UNDER_TEST"
  | testResult => Endpoint.testResult
  | workflow => Endpoint.workflow
  | workItem => Endpoint.workItem
  | workOrder => Endpoint.workOrder
  | dataTable => Endpoint.dataTable
  | file => Endpoint.file
  | notebook => Endpoint.notebook

/-- Whether deleting a resource of a kind removes all of the kind that carry the cleanup tag. -/
def Kind.isSwept (kind : Kind) : Bool :=
  match kind.endpoint.deletion with
  | .sweep .. => true
  | _ => false

end ResourceGraph
