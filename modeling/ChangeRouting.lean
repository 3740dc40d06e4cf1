import ChangeRouting.Batch.Basic
import ChangeRouting.Batch.Boundary
import ChangeRouting.Batch.Builder
import ChangeRouting.Calendar
import ChangeRouting.Cell.Basic
import ChangeRouting.Change.Basic
import ChangeRouting.Change.ColumnValues
import ChangeRouting.Change.Event
import ChangeRouting.Change.Payload
import ChangeRouting.Clock
import ChangeRouting.CommandLine.Arguments
import ChangeRouting.CommandLine.Execute
import ChangeRouting.CommandLine.Files
import ChangeRouting.CommandLine.Help
import ChangeRouting.CommandLine.Listing
import ChangeRouting.CommandLine.Log
import ChangeRouting.CommandLine.Notices
import ChangeRouting.CommandLine.StorePlace
import ChangeRouting.CommandLine.Template
import ChangeRouting.Condition.Basic
import ChangeRouting.Condition.Grammar
import ChangeRouting.Config.Basic
import ChangeRouting.Config.Check
import ChangeRouting.Config.Document
import ChangeRouting.Fault
import ChangeRouting.Gap.Basic
import ChangeRouting.Gap.Coverage
import ChangeRouting.Gap.Reconcile
import ChangeRouting.Gap.Visibility
import ChangeRouting.Main
import ChangeRouting.Node.Basic
import ChangeRouting.Node.Set
import ChangeRouting.Node.Tree
import ChangeRouting.Number.Basic
import ChangeRouting.Number.Printing
import ChangeRouting.Number.Reading
import ChangeRouting.Number.Rounding
import ChangeRouting.Proofs.Batch.Boundaries
import ChangeRouting.Proofs.Batch.Building
import ChangeRouting.Proofs.Batch.Delivery
import ChangeRouting.Proofs.Batch.InStep
import ChangeRouting.Proofs.Batch.Ledger
import ChangeRouting.Proofs.Batch.Targets
import ChangeRouting.Proofs.Change.ColumnValues
import ChangeRouting.Proofs.Change.Payload
import ChangeRouting.Proofs.Config.Check
import ChangeRouting.Proofs.Gap.Dated
import ChangeRouting.Proofs.Gap.Load
import ChangeRouting.Proofs.Gap.Overlap
import ChangeRouting.Proofs.Gap.Ranges
import ChangeRouting.Proofs.Gap.Reconcile
import ChangeRouting.Proofs.Gap.Settle
import ChangeRouting.Proofs.Gap.Table
import ChangeRouting.Proofs.Node.Tree
import ChangeRouting.Proofs.Query.Engine
import ChangeRouting.Proofs.Query.Token
import ChangeRouting.Proofs.Read.Handover
import ChangeRouting.Proofs.Read.Queries
import ChangeRouting.Proofs.Read.Rows
import ChangeRouting.Proofs.Read.Unreadable
import ChangeRouting.Proofs.Selection.Cache
import ChangeRouting.Proofs.Selection.Calls
import ChangeRouting.Proofs.Selection.Candidates
import ChangeRouting.Proofs.Selection.Expressions
import ChangeRouting.Proofs.Selection.Hooks
import ChangeRouting.Proofs.Selection.Lookup
import ChangeRouting.Proofs.Selection.Matching
import ChangeRouting.Proofs.Selection.Settings
import ChangeRouting.Proofs.Selection.Topology
import ChangeRouting.Proofs.Selection.View
import ChangeRouting.Proofs.Service.Abreast
import ChangeRouting.Proofs.Service.Attached
import ChangeRouting.Proofs.Service.Backlog
import ChangeRouting.Proofs.Service.Capped
import ChangeRouting.Proofs.Service.Capture
import ChangeRouting.Proofs.Service.Consistency
import ChangeRouting.Proofs.Service.Entitled
import ChangeRouting.Proofs.Service.Failure
import ChangeRouting.Proofs.Service.Frame
import ChangeRouting.Proofs.Service.InStep
import ChangeRouting.Proofs.Service.Independence
import ChangeRouting.Proofs.Service.Limits
import ChangeRouting.Proofs.Service.Lots
import ChangeRouting.Proofs.Service.Once
import ChangeRouting.Proofs.Service.Pass
import ChangeRouting.Proofs.Service.Recorded
import ChangeRouting.Proofs.Service.Refreshes
import ChangeRouting.Proofs.Service.Retention
import ChangeRouting.Proofs.Service.Sent
import ChangeRouting.Proofs.Service.Skip
import ChangeRouting.Proofs.Service.Tandem
import ChangeRouting.Proofs.Service.Transaction
import ChangeRouting.Proofs.Service.Turns
import ChangeRouting.Proofs.Service.Unmarked
import ChangeRouting.Proofs.Service.Whole
import ChangeRouting.Proofs.Service.World
import ChangeRouting.Proofs.Store.ChangeLog
import ChangeRouting.Proofs.Store.Snapshots
import ChangeRouting.Proofs.Text.Fields
import ChangeRouting.Proofs.Work
import ChangeRouting.Query.Engine
import ChangeRouting.Query.Parameter
import ChangeRouting.Query.Pattern
import ChangeRouting.Query.Plain
import ChangeRouting.Query.Token
import ChangeRouting.Read.Handover
import ChangeRouting.Read.Rows
import ChangeRouting.Report.Configuration
import ChangeRouting.Report.Cycle
import ChangeRouting.Report.Json
import ChangeRouting.Selection.Column
import ChangeRouting.Selection.Lookup
import ChangeRouting.Selection.Scope
import ChangeRouting.Selection.Script
import ChangeRouting.Selection.Strategy
import ChangeRouting.Selection.Subselect
import ChangeRouting.Selection.Topology
import ChangeRouting.Service.Basic
import ChangeRouting.Service.Cycle
import ChangeRouting.Service.Pass
import ChangeRouting.Service.Tandem
import ChangeRouting.Service.Transaction
import ChangeRouting.Store.Basic
import ChangeRouting.Store.BatchTable
import ChangeRouting.Store.Catalogue
import ChangeRouting.Store.ChangeLog
import ChangeRouting.Store.Definition
import ChangeRouting.Store.Directory
import ChangeRouting.Store.Document
import ChangeRouting.Store.GapTable
import ChangeRouting.Store.Layout
import ChangeRouting.Store.Loose
import ChangeRouting.Store.Table
import ChangeRouting.Text.Blank
import ChangeRouting.Text.Case
import ChangeRouting.Text.CaseTable
import ChangeRouting.Text.HiddenTable
import ChangeRouting.Text.Quote
import ChangeRouting.Text.Range
import ChangeRouting.Toml.Document
import ChangeRouting.Toml.Lexical
import ChangeRouting.Toml.Value
import ChangeRouting.Word
