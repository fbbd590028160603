/-
**Reading a document from a value.**

A record is a mapping with known fields, or a list that holds the fields in declared order. Fields
that are not known are ignored, a required field has to be there, and an optional one may be absent
or null. `Document.ofJson` checks nothing beyond the types of the fields.
-/

import ResourceGraph.Document.Basic

namespace ResourceGraph

/-- Why a value is no document. -/
inductive Malformation where
  /-- A field is absent or not of its type. -/
  | shape
  /-- The setup time does not fit its type. -/
  | minutesOutOfRange (value : Nat)
deriving DecidableEq, Repr

/-- The wording of a malformation. -/
def Malformation.message : Malformation → String
  | shape => "unexpected shape"
  | minutesOutOfRange value => "invalid value: integer `" ++ toString value ++ "`, expected u32"

namespace Json

/-- The fields of a record in declared order. A list may stop early and not be longer. -/
def record? (names : List String) : Json → Option (List (Option Json))
  | object fields => some (names.map fun name => Fields.get? name fields)
  | array items =>
    if items.length ≤ names.length then
      some (items.map some ++ List.replicate (names.length - items.length) none)
    else none
  | _ => none

/-- A required text. -/
def requiredText : Option Json → Except Malformation String
  | some (string text) => .ok text
  | _ => .error .shape

/-- A text that may be absent or null. -/
def optionalText : Option Json → Except Malformation (Option String)
  | none => .ok none
  | some null => .ok none
  | some (string text) => .ok (some text)
  | some _ => .error .shape

/-- A list of texts that may be absent or null. -/
def optionalTexts : Option Json → Except Malformation (List String)
  | none => .ok []
  | some null => .ok []
  | some (array items) => items.mapM fun item => requiredText (some item)
  | some _ => .error .shape

/-- A number of minutes that may be absent or null. -/
def optionalMinutes : Option Json → Except Malformation (Option UInt32)
  | none => .ok none
  | some null => .ok none
  | some value =>
    match value.natural? with
    | some minutes =>
      if minutes < UInt32.size then .ok (some (UInt32.ofNat minutes))
      else .error (.minutesOutOfRange minutes)
    | none => .error .shape

/-- A kind: its name, or a mapping from its name to null. -/
def requiredKind : Option Json → Except Malformation Kind
  | some (string name) => (Kind.ofName? name).elim (.error .shape) .ok
  | some (object [(name, null)]) => (Kind.ofName? name).elim (.error .shape) .ok
  | _ => .error .shape

end Json

/-- The fields of a declared resource. -/
def Resource.fieldNames : List String :=
  ["type", "name", "properties", "id_reference", "tags"]

/-- A declared resource. -/
def Resource.ofJson (value : Json) : Except Malformation Resource :=
  match value.record? Resource.fieldNames with
  | some [kind, name, properties, reference, tags] => do
    let kind ← Json.requiredKind kind
    let name ← Json.requiredText name
    let properties ← (properties.bind (·.fields?)).elim (.error .shape) .ok
    let reference ← Json.requiredText reference
    let tags ← Json.optionalTexts tags
    pure ⟨kind, name, properties, reference, tags⟩
  | _ => .error .shape

/-- The fields of a document. -/
def Document.fieldNames : List String :=
  ["format_version", "name", "title", "description", "author", "tags",
    "estimated_setup_time_minutes", "resources"]

/-- A document. -/
def Document.ofJson (value : Json) : Except Malformation Document :=
  match value.record? Document.fieldNames with
  | some [version, name, title, description, author, tags, minutes, resources] => do
    let version ← Json.requiredText version
    let name ← Json.requiredText name
    let title ← Json.requiredText title
    let description ← Json.optionalText description
    let author ← Json.optionalText author
    let tags ← Json.optionalTexts tags
    let minutes ← Json.optionalMinutes minutes
    let items ← (resources.bind (·.items?)).elim (.error .shape) .ok
    let resources ← items.mapM Resource.ofJson
    pure ⟨version, name, title, description, author, tags, minutes, resources⟩
  | _ => .error .shape

end ResourceGraph
