/-
**Documents.**

A document declares resources in order. Everything a document creates carries its cleanup tag, made
of the tool's name and the document's name. `Document.json` writes a document with its fields in
declared order, leaving out what is absent or empty.
-/

import ResourceGraph.Document.Kind
import ResourceGraph.Json.Basic

namespace ResourceGraph

/-- One declared resource. -/
structure Resource where
  kind : Kind
  /-- The name the resource is created under. -/
  name : String
  /-- Properties of the kind; their strings may be placeholders. -/
  properties : Fields
  /-- The name that placeholders elsewhere in the document use. -/
  reference : String
  tags : List String
deriving DecidableEq, Repr

/-- A document. -/
structure Document where
  formatVersion : String
  name : String
  title : String
  description : Option String
  author : Option String
  tags : List String
  /-- A rough setup time in minutes. -/
  setupMinutes : Option UInt32
  /-- The resources; a resource may only rely on those before it. -/
  resources : List Resource
deriving DecidableEq, Repr

/-- What a listing shows of a document. -/
structure DocumentSummary where
  name : String
  title : String
  description : Option String
  author : Option String
  tags : List String
  setupMinutes : Option UInt32
  resourceCount : Nat
deriving DecidableEq, Repr

/-- The tag on everything that a tool creates from a document. -/
def cleanupTag (tool document : String) : String :=
  tool ++ "-example:" ++ document

/-- A field that is left out when its value is absent. -/
def Json.optionalField (key : String) : Option Json → Fields
  | some value => [(key, value)]
  | none => []

/-- A field that is left out when its list of texts is empty. -/
def Json.textsField (key : String) (texts : List String) : Fields :=
  if texts.isEmpty then [] else [(key, Json.ofTexts texts)]

namespace Resource

/-- Whether one of the tags is among those of the resource. -/
def hasAnyTag (resource : Resource) (tags : List String) : Bool :=
  tags.any resource.tags.contains

/-- A resource as a value. -/
def json (resource : Resource) : Json :=
  .object ([("type", .string resource.kind.name), ("name", .string resource.name),
    ("properties", .object resource.properties), ("id_reference", .string resource.reference)] ++
    Json.textsField "tags" resource.tags)

end Resource

namespace Document

/-- The tag on everything that a tool creates from the document. -/
def cleanupTag (document : Document) (tool : String) : String :=
  ResourceGraph.cleanupTag tool document.name

/-- The references of the resources, in order. -/
def references (document : Document) : List String :=
  document.resources.map (·.reference)

/-- A document as a value. -/
def json (document : Document) : Json :=
  .object ([("format_version", .string document.formatVersion), ("name", .string document.name),
      ("title", .string document.title)] ++
    Json.optionalField "description" (document.description.map .string) ++
    Json.optionalField "author" (document.author.map .string) ++
    Json.textsField "tags" document.tags ++
    Json.optionalField "estimated_setup_time_minutes"
      (document.setupMinutes.map fun minutes => Json.ofNat minutes.toNat) ++
    [("resources", .array (document.resources.map Resource.json))])

/-- What a listing shows of the document. -/
def summary (document : Document) : DocumentSummary where
  name := document.name
  title := document.title
  description := document.description
  author := document.author
  tags := document.tags
  setupMinutes := document.setupMinutes
  resourceCount := document.resources.length

end Document

/-- A summary as a value; what is absent is null. -/
def DocumentSummary.json (summary : DocumentSummary) : Json :=
  .object [("name", .string summary.name), ("title", .string summary.title),
    ("description", Json.ofOptionalText summary.description),
    ("author", Json.ofOptionalText summary.author), ("tags", Json.ofTexts summary.tags),
    ("estimated_setup_time_minutes",
      (summary.setupMinutes.map fun minutes => Json.ofNat minutes.toNat).getD .null),
    ("resource_count", Json.ofNat summary.resourceCount)]

end ResourceGraph
