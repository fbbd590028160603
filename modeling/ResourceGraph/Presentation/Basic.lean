/-
**Presentation of results.**

What the commands print: listings, documents, findings and run reports, as text for reading or as
values for other programs.

* `Presentation.listing`, `Presentation.document`: what a library holds;
* `Presentation.findings`, `Presentation.problems`: whether a document is valid;
* `Presentation.report`: what a run did.
-/

import ResourceGraph.Document.Fingerprint
import ResourceGraph.Document.Schema
import ResourceGraph.Presentation.Style
import ResourceGraph.Presentation.Table
import ResourceGraph.Run.Report

namespace ResourceGraph

/-- The two forms of output. -/
inductive OutputFormat where
  | text
  | json
deriving DecidableEq, Repr

/-- The name of a form. -/
def OutputFormat.name : OutputFormat → String
  | text => "text"
  | json => "json"

/-- How results are shown. -/
structure Presentation where
  format : OutputFormat
  /-- Text is styled. -/
  inColor : Bool
deriving DecidableEq, Repr

namespace Presentation

/-- The longest title or name in a table. -/
def titleLimit : Nat := 40

/-- The longest detail in a table. -/
def detailLimit : Nat := 60

/-- The text if it is short enough, else its start and three dots. -/
def shortened (limit : Nat) (text : String) : String :=
  let chars := text.toList
  if chars.length ≤ limit then text else String.ofList (chars.take (limit - 3)) ++ "..."

/-- Lines with a break after each. -/
def lines (texts : List String) : String :=
  String.join (texts.map (· ++ "\n"))

/-- The texts, separated by commas. -/
def commaList (texts : List String) : String :=
  Text.join ", " texts

/-- A number of minutes, or a dash. -/
def minutesText (minutes : Option UInt32) : String :=
  (minutes.map toString).getD "-"

/-! ### Documents -/

/-- The table of a listing. -/
def listingTable (documents : List DocumentSummary) : Table where
  header := ["Name", "Title", "Resources", "Setup (min)", "Tags"]
  rows := documents.map fun document =>
    [document.name, shortened titleLimit document.title, toString document.resourceCount,
      minutesText document.setupMinutes, commaList document.tags]

/-- A listing of documents. -/
def listing (view : Presentation) (documents : List DocumentSummary) : String :=
  match view.format with
  | .json => (Json.array (documents.map DocumentSummary.json)).pretty
  | .text =>
    if documents.isEmpty then Style.yellow.paint view.inColor "⚠" ++ " No documents found.\n"
    else (listingTable documents).text ++ "\n\n" ++ toString documents.length ++ " document(s)\n"

/-- The table of a document's resources. -/
def resourceTable (document : Document) : Table where
  header := ["#", "Type", "Name", "Reference", "Tags"]
  rows := document.resources.zipIdx.map fun (resource, index) =>
    [toString (index + 1), resource.kind.name, shortened titleLimit resource.name,
      resource.reference, commaList resource.tags]

/-- What is shown of a fingerprint: all of it, where it cannot be cut. -/
def shownFingerprint (fingerprint : String) : String :=
  (Fingerprint.short? fingerprint).getD fingerprint

/-- A document and its resources. -/
def document (view : Presentation) (document : Document) (tool : String) : String :=
  match view.format with
  | .json => document.json.pretty
  | .text =>
    lines (["", Style.bold.paint view.inColor document.title ++ " (" ++ document.name ++ ")"] ++
      document.description.toList.map ("   " ++ ·) ++
      document.author.toList.map ("   Author: " ++ ·) ++
      (document.setupMinutes.toList.map fun minutes =>
        "   Estimated setup: " ++ toString minutes ++ " min") ++
      ["   Cleanup tag: " ++ document.cleanupTag tool,
        "   Fingerprint: " ++ shownFingerprint document.fingerprint, "",
        (resourceTable document).text])

/-! ### Validation -/

/-- The outcome of a validation as a value. -/
def outcomeJson (source : String) (valid : Bool) (problems warnings : List String) : Json :=
  .object [("document", .string source), ("errors", Json.ofTexts problems), ("valid", .bool valid),
    ("warnings", Json.ofTexts warnings)]

/-- The line that says that a document is invalid. -/
def invalidLine (view : Presentation) (source : String) (count : Nat) : String :=
  Style.red.paint view.inColor "✗" ++ " " ++ source ++ " is invalid (" ++ toString count ++
    " problem(s))"

/-- An item of a list. -/
def bullet (text : String) : String :=
  "   - " ++ text

/-- The findings about a document. -/
def findings (view : Presentation) (source : String) (findings : Findings) : String :=
  match view.format with
  | .json => (outcomeJson source findings.isValid findings.texts findings.warnings).pretty
  | .text =>
    let verdict :=
      if findings.isValid then Style.green.paint view.inColor "✓" ++ " " ++ source ++ " is valid"
      else view.invalidLine source findings.problems.length
    let warnings :=
      if findings.warnings.isEmpty then []
      else ["", Style.yellow.paint view.inColor "⚠" ++ " Warnings:"] ++ findings.warnings.map bullet
    lines (verdict :: findings.texts.map bullet ++ warnings)

/-- The problems of a document that was not loaded. -/
def problems (view : Presentation) (source : String) (problems : List String) : String :=
  match view.format with
  | .json => (outcomeJson source false problems []).pretty
  | .text => lines (view.invalidLine source problems.length :: problems.map bullet)

/-! ### Run reports -/

/-- How an action is shown. -/
def action (view : Presentation) : Action → String
  | .created => Style.green.paint view.inColor "+created"
  | .deleted => Style.red.paint view.inColor "-deleted"
  | .skipped => Style.dimmed.paint view.inColor "skipped"
  | .failed => Style.boldRed.paint view.inColor "failed"

/-- The table of a run's results. -/
def resultTable (view : Presentation) (results : List ResourceResult) : Table where
  header := ["Resource", "Type", "Action", "Server ID", "Detail"]
  rows := results.map fun result =>
    [result.resourceName ++ " (" ++ result.reference ++ ")", result.kind.name,
      view.action result.action, result.serverId.getD "-",
      shortened detailLimit ((result.error.or result.note).getD "")]

/-- The lines above the results of a run. -/
def reportHeading (view : Presentation) (report : RunReport) : String :=
  let mode := if report.dryRun then " (dry run)" else ""
  lines ["", Style.bold.paint view.inColor report.operation.name ++ " " ++ report.document ++ mode,
    "   Run: " ++ report.runId.text,
    "   Fingerprint: " ++ shownFingerprint report.fingerprint, ""]

/-- The results of a run and the line below them. -/
def reportResults (view : Presentation) (report : RunReport) : String :=
  if report.results.isEmpty then "   No resources.\n"
  else
    let mark :=
      if report.hasFailures then Style.red.paint view.inColor "✗"
      else Style.green.paint view.inColor "✓"
    let duration := (report.duration?.map fun millis => " in " ++ toString millis ++ " ms").getD ""
    lines [(view.resultTable report.results).text, "", mark ++ " " ++ report.summary ++ duration]

/-- The report of a run. -/
def report (view : Presentation) (report : RunReport) : String :=
  match view.format with
  | .json => report.json.pretty
  | .text => view.reportHeading report ++ view.reportResults report

/-- Whether a report can be shown: as text, its fingerprint has to be one that can be cut. -/
def canShow (view : Presentation) (report : RunReport) : Bool :=
  view.format == .json || (Fingerprint.short? report.fingerprint).isSome

end Presentation

end ResourceGraph
