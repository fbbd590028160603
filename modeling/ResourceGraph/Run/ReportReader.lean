/-
**Reading run reports.**

A report is read from the text it is written as. Its records are mappings with known fields, each at
most once, or lists of the fields in declared order; fields that are not known are ignored.
-/

import ResourceGraph.Json.Source
import ResourceGraph.Run.Report

namespace ResourceGraph

namespace Json.Source

/-- The fields of a mapping under a key. -/
def fieldsUnder (key : String) (fields : List (Option String × Source)) : List Source :=
  fields.filterMap fun field => if field.1 = some key then some field.2 else none

/-- The value of a field that occurs at most once; `none` if it is repeated. -/
def atMostOnce : List Source → Option (Option Source)
  | [] => some none
  | [value] => some (some value)
  | _ => none

/-- The fields of a record in declared order. -/
def record? (names : List String) : Source → Option (List (Option Source))
  | object fields =>
    if fields.all fun field => field.1.isSome then
      names.mapM fun name => atMostOnce (fieldsUnder name fields)
    else none
  | array items =>
    if items.length ≤ names.length then
      some (items.map some ++ List.replicate (names.length - items.length) none)
    else none
  | _ => none

/-- A required text. -/
def requiredText? : Option Source → Option String
  | some (string text) => text
  | _ => none

/-- A text that may be absent or null. -/
def optionalText? : Option Source → Option (Option String)
  | none => some none
  | some null => some none
  | some (string text) => text.map some
  | _ => none

/-- A required Boolean. -/
def requiredBool? : Option Source → Option Bool
  | some (bool value) => some value
  | _ => none

/-- A required name, as a text or as the only key of a mapping to null. -/
def requiredName? : Option Source → Option String
  | some (string text) => text
  | some (object [(key, null)]) => key
  | _ => none

/-- A required list. -/
def requiredItems? : Option Source → Option (List Source)
  | some (array items) => some items
  | _ => none

end Json.Source

open Json.Source in
/-- Reads a result. -/
def ResourceResult.ofSource? (source : Json.Source) : Option ResourceResult :=
  match source.record? ["id_reference", "resource_type", "resource_name", "action", "server_id",
      "error", "note"] with
  | some [reference, kind, name, action, serverId, error, note] => do
    let reference ← requiredText? reference
    let kind ← Kind.ofName? (← requiredName? kind)
    let name ← requiredText? name
    let action ← Action.ofName? (← requiredName? action)
    let serverId ← optionalText? serverId
    let error ← optionalText? error
    let note ← optionalText? note
    pure ⟨reference, kind, name, action, serverId, error, note⟩
  | _ => none

open Json.Source in
/-- Reads a report. -/
def RunReport.ofSource? (source : Json.Source) : Option RunReport :=
  match source.record? ["run_id", "operation", "document", "fingerprint", "dry_run", "started_at",
      "finished_at", "results"] with
  | some [runId, operation, document, fingerprint, dryRun, startedAt, finishedAt, results] => do
    let runId ← RunId.ofText? (← requiredText? runId)
    let operation ← Operation.ofName? (← requiredName? operation)
    let document ← requiredText? document
    let fingerprint ← requiredText? fingerprint
    let dryRun ← requiredBool? dryRun
    let startedAt ← Instant.ofText? (← requiredText? startedAt)
    let finishedAt ←
      match ← optionalText? finishedAt with
      | some text => (Instant.ofText? text).map some
      | none => some none
    let results ← (← requiredItems? results).mapM ResourceResult.ofSource?
    pure ⟨runId, operation, document, fingerprint, dryRun, startedAt, finishedAt, results⟩
  | _ => none

/-- Reads a report from its text. No depth of nesting is refused, for ignored fields may nest. -/
def RunReport.ofText? (text : String) : Option RunReport :=
  (Json.Source.ofText? (text.length + 2) text).bind RunReport.ofSource?

end ResourceGraph
