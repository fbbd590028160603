import ResourceGraph.Text.Blank
import ResourceGraph.Text.Search
import ResourceGraph.Text.Hex
import ResourceGraph.Text.Digits
import ResourceGraph.Binary64.Basic
import ResourceGraph.Binary64.Shortest
import ResourceGraph.Json.Basic
import ResourceGraph.Json.Printer
import ResourceGraph.Json.Literal
import ResourceGraph.Json.Source
import ResourceGraph.Digest.Sha256
import ResourceGraph.Failure
import ResourceGraph.Log
import ResourceGraph.Document.Kind
import ResourceGraph.Document.Basic
import ResourceGraph.Document.Record
import ResourceGraph.Document.Placeholder
import ResourceGraph.Document.Schema
import ResourceGraph.Document.Validation
import ResourceGraph.Document.Fingerprint
import ResourceGraph.Text.Uppercase
import ResourceGraph.Text.Ranges
import ResourceGraph.Text.WidthRanges
import ResourceGraph.Text.Alphanumeric
import ResourceGraph.Text.Width
import ResourceGraph.Interaction
import ResourceGraph.Service.Request
import ResourceGraph.Service.Dialogue
import ResourceGraph.Service.Filter
import ResourceGraph.Service.Payload
import ResourceGraph.Service.Outcome
import ResourceGraph.Service.Catalogue
import ResourceGraph.Service.Resource
import ResourceGraph.Service.Scripted
import ResourceGraph.Time.Calendar
import ResourceGraph.Time.Instant
import ResourceGraph.Run.Id
import ResourceGraph.Run.Report
import ResourceGraph.Run.ReportReader
import ResourceGraph.Run.Walk
import ResourceGraph.Run.Provision
import ResourceGraph.Run.Teardown
import ResourceGraph.Settings
import ResourceGraph.Yaml.Fault
import ResourceGraph.Yaml.Cursor
import ResourceGraph.Yaml.Token
import ResourceGraph.Yaml.ScalarText
import ResourceGraph.Yaml.BlockText
import ResourceGraph.Yaml.NameText
import ResourceGraph.Yaml.TokenStream
import ResourceGraph.Yaml.Node
import ResourceGraph.Yaml.Meaning
import ResourceGraph.Yaml.Reader
import ResourceGraph.Files.Path
import ResourceGraph.Files.Tree
import ResourceGraph.Document.Library
import ResourceGraph.Presentation.Style
import ResourceGraph.Presentation.Table
import ResourceGraph.Presentation.Basic
import ResourceGraph.Environment.Basic
import ResourceGraph.Environment.Definition
import ResourceGraph.Environment.File
import ResourceGraph.Http.Percent
import ResourceGraph.Http.Url
import ResourceGraph.Http.Message
import ResourceGraph.Http.Wire
import ResourceGraph.Http.Client
import ResourceGraph.Command.Switch
import ResourceGraph.Command.Line
import ResourceGraph.Command.Arguments
import ResourceGraph.Command.Session
import ResourceGraph.Command.Usage
import ResourceGraph.Command.Workplace
import ResourceGraph.Command.Execution
import ResourceGraph.Http.Encoding
import ResourceGraph.Main
import ResourceGraph.Proofs.Json.Induction
import ResourceGraph.Proofs.Json.Fields
import ResourceGraph.Proofs.Document.Placeholder
import ResourceGraph.Proofs.Document.Findings
import ResourceGraph.Proofs.Document.Grammar
import ResourceGraph.Proofs.Service.Conversation
import ResourceGraph.Proofs.Text.Pieces
import ResourceGraph.Proofs.Service.Identifier
import ResourceGraph.Proofs.Service.Calls
import ResourceGraph.Proofs.Service.Deletion
import ResourceGraph.Proofs.Service.Filter
import ResourceGraph.Proofs.Service.Entry
import ResourceGraph.Proofs.Service.Store
import ResourceGraph.Proofs.Run.Visits
import ResourceGraph.Proofs.Run.Report
import ResourceGraph.Proofs.Provision.Course
import ResourceGraph.Proofs.Provision.Report
import ResourceGraph.Proofs.Provision.Identifiers
import ResourceGraph.Proofs.Provision.Requests
import ResourceGraph.Proofs.Provision.Namesakes
import ResourceGraph.Proofs.Teardown.Course
import ResourceGraph.Proofs.Teardown.Deletions
import ResourceGraph.Proofs.Document.Acceptance
import ResourceGraph.Proofs.Teardown.Report
import ResourceGraph.Proofs.Teardown.Sweeps
import ResourceGraph.Proofs.Teardown.Order
import ResourceGraph.Proofs.Provision.Prefix
import ResourceGraph.Proofs.Run.DryRun
import ResourceGraph.Proofs.Document.Mentions
import ResourceGraph.Proofs.Provision.ForwardReferences
import ResourceGraph.Proofs.Binary64.Interval
import ResourceGraph.Proofs.Binary64.Shortest
import ResourceGraph.Proofs.Json.NumberText
import ResourceGraph.Proofs.Json.CompactText
import ResourceGraph.Proofs.Document.Fingerprint
import ResourceGraph.Proofs.Document.Serialization
import ResourceGraph.Proofs.Http.Attempts
import ResourceGraph.Proofs.Http.Runs
import ResourceGraph.Proofs.Teardown.Restriction
import ResourceGraph.Proofs.Command.Steps
import ResourceGraph.Proofs.Command.Course
import ResourceGraph.Proofs.Command.Gate
import ResourceGraph.Proofs.Service.Creation
import ResourceGraph.Proofs.Service.Duplicates
import ResourceGraph.Proofs.Teardown.Absence
import ResourceGraph.Proofs.Run.Recognition
import ResourceGraph.Proofs.Service.Existing
import ResourceGraph.Proofs.Service.Declared
import ResourceGraph.Proofs.Teardown.Retries
import ResourceGraph.Proofs.Document.Conversion
import ResourceGraph.Proofs.Document.Problems
import ResourceGraph.Proofs.Document.Entries
import ResourceGraph.Proofs.Document.References
import ResourceGraph.Proofs.Document.Resolution
import ResourceGraph.Proofs.Files.Path
import ResourceGraph.Proofs.Document.Listing
import ResourceGraph.Proofs.Document.Addressing
import ResourceGraph.Proofs.Service.Refusal
import ResourceGraph.Proofs.Command.Handover
import ResourceGraph.Proofs.Run.Explanations
