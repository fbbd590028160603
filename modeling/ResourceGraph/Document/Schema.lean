/-
**The schema pass.**

Checks the structure of a raw value before it is read as a document, and reports every problem and
not the first one only. A problem names the path of the field it is about. The problems of a
resource entry depend on the entry and on the references that earlier entries declare, and on
nothing else.
-/

import ResourceGraph.Document.Kind
import ResourceGraph.Json.Basic
import ResourceGraph.Text.Blank

namespace ResourceGraph

/-- A problem of one field; the path of the document itself is empty. -/
structure Problem where
  field : String
  message : String
deriving DecidableEq, Repr

/-- The text of a problem. -/
def Problem.text (problem : Problem) : String :=
  if problem.field.isEmpty then problem.message else problem.field ++ ": " ++ problem.message

/-- What a pass over a document finds: problems make it invalid, warnings do not. -/
structure Findings where
  problems : List Problem
  warnings : List String
deriving DecidableEq, Repr

/-- No problems. -/
def Findings.isValid (findings : Findings) : Bool :=
  findings.problems.isEmpty

/-- The texts of the problems. -/
def Findings.texts (findings : Findings) : List String :=
  findings.problems.map Problem.text

namespace Schema

/-- The format versions that are understood. -/
def supportedVersions : List String := ["1.0"]

/-- The fields that a document must have. -/
def requiredFields : List String := ["format_version", "name", "title", "resources"]

/-- The fields that a resource must have. -/
def requiredResourceFields : List String := ["type", "name", "properties", "id_reference"]

/-- Identifier syntax: a letter or an underscore, then letters, digits and underscores, all
ASCII. -/
def isIdentifier (text : String) : Bool :=
  match text.toList with
  | [] => false
  | first :: rest =>
    (first.isAlpha || first == '_') && rest.all fun c => c.isAlphanum || c == '_'

/-- The path of a resource entry. -/
def entryPath (index : Nat) : String :=
  "resources[" ++ toString index ++ "]"

/-- Problems of a value that has to be a text with more than blanks. -/
def textProblems (path : String) : Json → List Problem
  | .string text => if Text.isBlankText text then [⟨path, path ++ " cannot be empty"⟩] else []
  | _ => [⟨path, path ++ " must be a string"⟩]

/-- Problems of a value that has to be a text or null. -/
def optionalTextProblems (path : String) (value : Json) : List Problem :=
  if value.isString || value.isNull then [] else [⟨path, path ++ " must be a string"⟩]

/-- Problems of a value that has to be a list of texts or null. -/
def tagsProblems (path : String) : Json → List Problem
  | .array items =>
    if items.all Json.isString then [] else [⟨path, "tags must be a list of strings"⟩]
  | .null => []
  | _ => [⟨path, "tags must be a list of strings"⟩]

/-- Problems of a value that has to be a supported format version. -/
def versionProblems : Json → List Problem
  | .string version =>
    if supportedVersions.contains version then []
    else [⟨"format_version", "Unsupported format_version '" ++ version ++ "'. Supported: " ++
      Text.join ", " supportedVersions⟩]
  | _ => [⟨"format_version", "format_version must be a string"⟩]

/-- Problems of a value that has to be a natural number or null. -/
def minutesProblems (value : Json) : List Problem :=
  if value.natural?.isSome || value.isNull then []
  else [⟨"estimated_setup_time_minutes",
    "estimated_setup_time_minutes must be a non-negative integer"⟩]

/-- Problems of a value that has to be the name of a kind. -/
def kindProblems (path : String) : Json → List Problem
  | .string name =>
    if (Kind.ofName? name).isSome then [] else [⟨path, Kind.unsupportedMessage name⟩]
  | _ => [⟨path, "type must be a string"⟩]

/-- Problems of a value that has to be a mapping. -/
def propertiesProblems (path : String) : Json → List Problem
  | .object _ => []
  | _ => [⟨path, "properties must be a mapping"⟩]

/-- Problems of a value that has to be a reference which is not declared before. -/
def referenceProblems (path : String) (declared : List String) : Json → List Problem
  | .string reference =>
    if !isIdentifier reference then
      [⟨path, "id_reference '" ++ reference ++ "' is invalid. Must start with a letter or " ++
        "underscore and contain only letters, digits and underscores."⟩]
    else if declared.contains reference then [⟨path, "Duplicate id_reference: " ++ reference⟩]
    else []
  | _ => [⟨path, "id_reference must be a string"⟩]

/-- Problems of the value of a key, if it is there. -/
def fieldProblems (key : String) (check : Json → List Problem) (fields : Fields) : List Problem :=
  (fields.get? key).elim [] check

/-- Problems of a resource entry, after entries that declare some references. -/
def entryProblems (index : Nat) (declared : List String) : Json → List Problem
  | .object fields =>
    let path := entryPath index
    ((requiredResourceFields.filter fun key => !Fields.hasKey fields key).map fun key =>
        ⟨path ++ "." ++ key, "Missing required resource field '" ++ key ++ "'"⟩) ++
      fieldProblems "type" (kindProblems (path ++ ".type")) fields ++
      fieldProblems "name" (textProblems (path ++ ".name")) fields ++
      fieldProblems "properties" (propertiesProblems (path ++ ".properties")) fields ++
      fieldProblems "tags" (tagsProblems (path ++ ".tags")) fields ++
      fieldProblems "id_reference" (referenceProblems (path ++ ".id_reference") declared) fields
  | _ => [⟨entryPath index, "Resource entry must be a mapping"⟩]

/-- The reference that an entry declares, if it has identifier syntax. -/
def declaredReference? (entry : Json) : Option String :=
  ((entry.field? "id_reference").bind (·.text?)).filter isIdentifier

/-- Problems of resource entries from an index on, after entries that declare some references. -/
def entriesProblems (index : Nat) (declared : List String) : List Json → List Problem
  | [] => []
  | entry :: rest =>
    entryProblems index declared entry ++
      entriesProblems (index + 1) (declared ++ (declaredReference? entry).toList) rest

/-- Problems of the fields of a document other than its resource entries. -/
def documentProblems (fields : Fields) : List Problem :=
  ((requiredFields.filter fun key => !Fields.hasKey fields key).map fun key =>
      ⟨key, "Missing required field '" ++ key ++ "'"⟩) ++
    fieldProblems "format_version" versionProblems fields ++
    fieldProblems "name" (textProblems "name") fields ++
    fieldProblems "title" (textProblems "title") fields ++
    fieldProblems "description" (optionalTextProblems "description") fields ++
    fieldProblems "author" (optionalTextProblems "author") fields ++
    fieldProblems "tags" (tagsProblems "tags") fields ++
    fieldProblems "estimated_setup_time_minutes" minutesProblems fields

/-- What the schema pass finds in a value. -/
def check : Json → Findings
  | .object fields =>
    let problems := documentProblems fields
    match Fields.get? "resources" fields with
    | some (.array entries) =>
      ⟨problems ++ entriesProblems 0 [] entries,
        if entries.isEmpty then ["Document declares no resources"] else []⟩
    | some _ => ⟨problems ++ [⟨"resources", "resources must be a list"⟩], []⟩
    | none => ⟨problems, []⟩
  | _ => ⟨[⟨"", "Document must be a mapping"⟩], []⟩

end Schema

end ResourceGraph
