/-
**Request bodies from declared properties.**

Declared keys are renamed from `snake_case` to `camelCase`. Custom properties, keywords and tags are
texts on the service, so values of another type are written out; the cleanup tag is added to them.
-/

import ResourceGraph.Json.Printer
import ResourceGraph.Text.Blank
import ResourceGraph.Text.Search
import ResourceGraph.Text.Uppercase

namespace ResourceGraph.Payload

/-- The rest of a key in `camelCase`. The first flag tells whether a character was written, the
second whether the next one is written in upper case. -/
def camelFrom (started raised : Bool) : List Char → List Char
  | [] => []
  | c :: rest =>
    if c = '_' then camelFrom started started rest
    else if raised then Text.upperChar c ++ camelFrom true false rest
    else c :: camelFrom true false rest

/-- A key in `camelCase`: an underscore is dropped and raises the next character, unless it stands
at the start. -/
def camelCase (key : String) : String :=
  String.ofList (camelFrom false false key.toList)

/-- A value as the text that the service stores for it. -/
def storedText : Json → String
  | .string text => text
  | .null => ""
  | other => other.compact

/-- Custom properties as texts; anything but a mapping has none. -/
def storedProperties : Option Json → Fields
  | some (.object fields) =>
    Fields.ofList (fields.map fun field => (field.1, .string (storedText field.2)))
  | _ => []

/-- A list of texts with one more, unless it is there. -/
def including (tag : String) (texts : List String) : List String :=
  if texts.contains tag then texts else texts ++ [tag]

/-- Declared keywords and the cleanup tag. -/
def keywords (declared : Option Json) (tag : String) : List String :=
  including tag (((declared.bind (·.items?)).getD []).map storedText)

/-- The parts of a text between commas, trimmed, without empty ones. -/
def commaParts (text : String) : List String :=
  ((Text.pieces ',' text).map Text.trim).filter fun part => !part.isEmpty

/-- Declared tags, a list or a text with commas. -/
def declaredTags : Option Json → List String
  | some (.array items) => items.map storedText
  | some (.string text) => commaParts text
  | _ => []

/-- Declared tags and the cleanup tag, joined with commas. -/
def joinedTags (declared : Option Json) (tag : String) : String :=
  Text.join "," (including tag (declaredTags declared))

/-- The declared properties under their names on the service, without the reserved ones. -/
def declared (reserved : List String) (properties : Fields) : Fields :=
  Fields.ofList ((properties.filter fun field => !reserved.contains field.1).map fun field =>
    (camelCase field.1, field.2))

/-- Sets fields, whatever was there before. -/
def setAll (fields : Fields) (forced : List (String × Json)) : Fields :=
  forced.foldl (fun fields field => fields.insert field.1 field.2) fields

/-- Sets the fields that are not there yet. -/
def setMissing (fields : Fields) (defaults : List (String × Json)) : Fields :=
  defaults.foldl (fun fields field => fields.insertIfNew field.1 field.2) fields

end ResourceGraph.Payload
