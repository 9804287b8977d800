import Triage.Analysis
import Triage.Analysis.Codec
import Triage.Archive
import Triage.Binary.Basic
import Triage.Binary.Round
import Triage.Bundled.Prompt
import Triage.Bundled.Schemas
import Triage.Catalog
import Triage.Command
import Triage.Command.Arguments
import Triage.Config
import Triage.Context
import Triage.Decimal.Layout
import Triage.Decimal.Numeral
import Triage.Decimal.Shortest
import Triage.Environment
import Triage.Environment.File
import Triage.Failure
import Triage.Files
import Triage.Gate
import Triage.Identifier
import Triage.Json.Compare
import Triage.Json.Depth
import Triage.Json.Fields
import Triage.Json.Members
import Triage.Json.Number
import Triage.Json.Reader
import Triage.Json.Skim
import Triage.Json.Value
import Triage.Json.Writer
import Triage.Llm.Completion
import Triage.Llm.Endpoint
import Triage.Llm.Error
import Triage.Llm.Gateway
import Triage.Llm.Provider
import Triage.Llm.Request
import Triage.Llm.Settings
import Triage.Main
import Triage.Pattern
import Triage.Pattern.Reader
import Triage.Pipeline
import Triage.Program
import Triage.Prompt
import Triage.Prompt.Error
import Triage.Prompt.Registry
import Triage.Proofs.Analysis.Codec
import Triage.Proofs.Analysis.Envelope
import Triage.Proofs.Analysis.Selection
import Triage.Proofs.Binary.Finite
import Triage.Proofs.Binary.Order
import Triage.Proofs.Bundled.Documents
import Triage.Proofs.Bundled.Messages
import Triage.Proofs.Bundled.Prompt
import Triage.Proofs.Catalog
import Triage.Proofs.Command.Analyze
import Triage.Proofs.Command.Listing
import Triage.Proofs.Config.Routes
import Triage.Proofs.Decimal.Shortest
import Triage.Proofs.Files
import Triage.Proofs.Gate
import Triage.Proofs.Json.Blanks
import Triage.Proofs.Json.Canonical
import Triage.Proofs.Json.Closing
import Triage.Proofs.Json.Codec
import Triage.Proofs.Json.Completion
import Triage.Proofs.Json.Continuation
import Triage.Proofs.Json.Indented
import Triage.Proofs.Json.Literal
import Triage.Proofs.Json.Magnitude
import Triage.Proofs.Json.Move
import Triage.Proofs.Json.Nesting
import Triage.Proofs.Json.Numeric
import Triage.Proofs.Json.Order
import Triage.Proofs.Json.Parts
import Triage.Proofs.Json.Progress
import Triage.Proofs.Json.Record
import Triage.Proofs.Json.RoundTrip
import Triage.Proofs.Json.Single
import Triage.Proofs.Json.Skim
import Triage.Proofs.Json.Spelling
import Triage.Proofs.Json.Truncated
import Triage.Proofs.Json.Weight
import Triage.Proofs.Llm.Body
import Triage.Proofs.Llm.Completion
import Triage.Proofs.Llm.Fallback
import Triage.Proofs.Llm.Limits
import Triage.Proofs.Llm.Replies
import Triage.Proofs.Llm.Routes
import Triage.Proofs.Loading
import Triage.Proofs.Pipeline.Audit
import Triage.Proofs.Pipeline.Calls
import Triage.Proofs.Pipeline.Choices
import Triage.Proofs.Pipeline.Enrichment
import Triage.Proofs.Pipeline.Envelope
import Triage.Proofs.Pipeline.Persistence
import Triage.Proofs.Pipeline.Strict
import Triage.Proofs.Pipeline.Verdict
import Triage.Proofs.Repair.Balance
import Triage.Proofs.Repair.BrokenOff
import Triage.Proofs.Repair.CommaRounds
import Triage.Proofs.Repair.Commas
import Triage.Proofs.Repair.DroppedCommas
import Triage.Proofs.Repair.Extraction
import Triage.Proofs.Repair.Faithful
import Triage.Proofs.Repair.Fences
import Triage.Proofs.Repair.Lines
import Triage.Proofs.Repair.Payload
import Triage.Proofs.Repair.Rounds
import Triage.Proofs.Repair.Stray
import Triage.Proofs.Repair.Strings
import Triage.Proofs.Repair.TrailingCommas
import Triage.Proofs.Repair.Truncation
import Triage.Proofs.Repair.Valid
import Triage.Proofs.Schema.Meaning
import Triage.Proofs.Schema.Places
import Triage.Proofs.Schema.Pointers
import Triage.Proofs.Store.Faithful
import Triage.Proofs.Store.History
import Triage.Proofs.Store.Lasting
import Triage.Proofs.Store.Latest
import Triage.Proofs.Store.Records
import Triage.Proofs.Store.Stored
import Triage.Proofs.Store.Tenants
import Triage.Proofs.Store.Text
import Triage.Proofs.Template.Names
import Triage.Proofs.Template.Shape
import Triage.Proofs.Text.Lines
import Triage.Proofs.Ticket.Description
import Triage.Proofs.Ticket.Shape
import Triage.Proofs.Timestamp.Chronology
import Triage.Proofs.Timestamp.Digits
import Triage.Proofs.Timestamp.Stored
import Triage.Proofs.Timestamp.Text
import Triage.Repair
import Triage.Repair.Brackets
import Triage.Repair.Commas
import Triage.Repair.Extraction
import Triage.Repair.Fences
import Triage.Repair.Place
import Triage.Run
import Triage.Run.Codec
import Triage.Schema
import Triage.Schema.Document
import Triage.Schema.Error
import Triage.Schema.Fault
import Triage.Schema.Library
import Triage.Schema.Reader
import Triage.Schema.Registry
import Triage.Store
import Triage.Store.Backend
import Triage.Store.Codec
import Triage.Store.Error
import Triage.Store.Location
import Triage.Store.Row
import Triage.Table
import Triage.Template
import Triage.Template.Body
import Triage.Template.Body.Reader
import Triage.Template.Engine
import Triage.Template.Expr
import Triage.Template.Expr.Eval
import Triage.Template.Expr.Reader
import Triage.Template.Operation
import Triage.Template.Token
import Triage.Template.Value
import Triage.Text.Blank
import Triage.Text.Case
import Triage.Text.CaseTable
import Triage.Text.Digits
import Triage.Text.HiddenTable
import Triage.Text.Lines
import Triage.Text.Quoted
import Triage.Ticket
import Triage.Ticket.Codec
import Triage.Timestamp
import Triage.Yaml.Cursor
import Triage.Yaml.Fields
import Triage.Yaml.Node
import Triage.Yaml.Scalar
import Triage.Yaml.Token
