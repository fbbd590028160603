/-
**Validation of documents.**

A raw value becomes a document in three steps: a format version written as a number is taken as its
text, the schema pass checks the structure, and the reference pass checks the placeholders of the
document read.

* `Document.referenceFindings`: undefined references are problems; references to the resource itself
  or a later one are warnings, for they have no identifier yet when they are needed;
* `Document.validate`: the document and its warnings, or one failure with all problems of a pass.
-/

import ResourceGraph.Document.Placeholder
import ResourceGraph.Document.Record
import ResourceGraph.Document.Schema
import ResourceGraph.Failure
import ResourceGraph.Json.Printer
import ResourceGraph.Log

namespace ResourceGraph

namespace Document

/-- The position of the last resource that declares a reference. -/
def lastPosition? (document : Document) (reference : String) : Option Nat :=
  let positions := document.references.zipIdx.filter fun entry => entry.1 == reference
  positions.getLast?.map (·.2)

/-- The problem of a reference that no resource declares. -/
def undefinedReference (index : Nat) (resource : Resource) (reference : String) : Problem where
  field := Schema.entryPath index ++ ".properties"
  message := "Undefined reference '$\x7b" ++ reference ++ "\x7d' in resource '" ++
    resource.reference ++ "'"

/-- The warning about a reference to the resource itself or to a later one. -/
def forwardReference (index : Nat) (resource : Resource) (reference : String) : String :=
  Schema.entryPath index ++ " ('" ++ resource.reference ++ "') references '" ++ reference ++
    "', which is declared at or after it and will not be resolved when '" ++ resource.reference ++
    "' is provisioned"

/-- What the reference pass finds at a resource. -/
def resourceFindings (document : Document) (index : Nat) (resource : Resource) : Findings :=
  let references := (Json.object resource.properties).placeholders
  { problems := (references.filter fun reference => (document.lastPosition? reference).isNone).map
      (undefinedReference index resource)
    warnings := (references.filter fun reference =>
      (document.lastPosition? reference).any (index ≤ ·)).map (forwardReference index resource) }

/-- What the reference pass finds in a document. -/
def referenceFindings (document : Document) : Findings :=
  let found := document.resources.zipIdx.map fun entry =>
    document.resourceFindings entry.2 entry.1
  ⟨found.flatMap (·.problems), found.flatMap (·.warnings)⟩

end Document

namespace Json

/-- A number taken as its text; any other value as it is. -/
def numberAsText : Json → Json
  | number value => string value.text
  | other => other

/-- Changes the value of a key, where it is. -/
def mapField (key : String) (change : Json → Json) (fields : Fields) : Fields :=
  fields.map fun field => if field.1 = key then (field.1, change field.2) else field

/-- The value with a format version that is a number taken as its text. -/
def withTextVersion : Json → Json
  | object fields => object (mapField "format_version" numberAsText fields)
  | other => other

end Json

/-- A document that passed validation, and the warnings about it. -/
structure Validated where
  document : Document
  warnings : List String
deriving DecidableEq, Repr

/-- Reads a raw value as a document. The source names the document in a failure. -/
def Document.validate (source : String) (raw : Json) : Logged (Except Failure Validated) := do
  let raw := raw.withTextVersion
  let schema := Schema.check raw
  if !schema.isValid then return .error (.invalid source schema.texts)
  match Document.ofJson raw with
  | .error malformation =>
    return .error (.invalid source ["Malformed document: " ++ malformation.message])
  | .ok document =>
    let references := document.referenceFindings
    if !references.isValid then return .error (.invalid source references.texts)
    let warnings := references.warnings ++ schema.warnings
    Logged.write .debug ("Document '" ++ document.name ++ "' passed validation with " ++
      toString warnings.length ++ " warning(s)")
    return .ok ⟨document, warnings⟩

end ResourceGraph
