import FlatTables.CommandLine.Arguments
import FlatTables.CommandLine.Run
import FlatTables.Evaluation
import FlatTables.Main
import FlatTables.Service
import FlatTables.Storage.Journal
import FlatTables.Engine.Course
import FlatTables.Proofs.Decimal.ReadBack
import FlatTables.Proofs.Catalog
import FlatTables.Proofs.Text.Lines
import FlatTables.Proofs.Condition
import FlatTables.Proofs.Engine.Plan
import FlatTables.Proofs.Samples
import FlatTables.Proofs.Engine.Step
import FlatTables.Proofs.Storage.Loading
import FlatTables.Proofs.Engine.Refinement
import FlatTables.Proofs.Text.Encoding
import FlatTables.Proofs.Value
import FlatTables.Proofs.Storage.DataLine
import FlatTables.Proofs.Storage.DataFile
import FlatTables.Proofs.Storage.Workspace
import FlatTables.Proofs.Storage.Folder
import FlatTables.Proofs.Storage.Reloading
import FlatTables.Proofs.Storage.FileNames
import FlatTables.Proofs.Engine.Ledger
import FlatTables.Proofs.Engine.Restart
import FlatTables.Proofs.Storage.ReadBack
import FlatTables.Proofs.Storage.WriteFault
import FlatTables.Proofs.Engine.Encodable
import FlatTables.Proofs.Query.Grammar
import FlatTables.Proofs.Query.Spelling
import FlatTables.Proofs.Query.Cutting
import FlatTables.Proofs.Query.Pieces
import FlatTables.Proofs.Query.Layout
import FlatTables.Proofs.Query.RoundTrip
import FlatTables.Proofs.Query.Derivation
import FlatTables.Proofs.Query.Acceptance
import FlatTables.Proofs.Query.Quoting
import FlatTables.Proofs.Engine.Attempt
import FlatTables.Proofs.Engine.Noninterference
import FlatTables.Proofs.Engine.FilterAppend
import FlatTables.Proofs.Engine.Replay
import FlatTables.Proofs.Engine.WrittenValues
import FlatTables.Proofs.Engine.Totality
import FlatTables.Proofs.Storage.Directories
import FlatTables.Proofs.Storage.Footprint
import FlatTables.Storage.Operation
import FlatTables.Proofs.Storage.TemporaryFile
import FlatTables.Proofs.Storage.Operation
import FlatTables.Proofs.Storage.FailedWrite
import FlatTables.Proofs.Storage.EscapingWrite
import FlatTables.Proofs.Telemetry.Metrics
import FlatTables.Proofs.Engine.History
import FlatTables.Proofs.Engine.Conservation
import FlatTables.Proofs.Query.Wording
import FlatTables.Proofs.Text.Padding
import FlatTables.Proofs.Query.Padding
import FlatTables.Proofs.Query.Trimming
import FlatTables.Proofs.FrontEnds
import FlatTables.Proofs.Engine.Frame
import FlatTables.Proofs.Engine.Interleaving
import FlatTables.Proofs.Storage.LoadFault
import FlatTables.Proofs.CommandLine.FailedStart
import FlatTables.Proofs.Decimal.Spelling
import FlatTables.Proofs.Literal.Integer
import FlatTables.Proofs.Comparison
import FlatTables.Proofs.Evaluation
import FlatTables.Proofs.Engine.Selection
import FlatTables.Proofs.Engine.Insertion
import FlatTables.Proofs.Engine.Deletion
import FlatTables.Proofs.Query.MalformedCondition
import FlatTables.Proofs.Query.Scanning
import FlatTables.Proofs.Query.Origins
import FlatTables.Proofs.Query.SourceText
import FlatTables.Proofs.Engine.Unanswered
import FlatTables.Proofs.Shell.Replies
import FlatTables.Proofs.Shell.Conversation
import FlatTables.Proofs.CommandLine.SingleStatement
import FlatTables.Proofs.Text.LineBreaks
import FlatTables.Proofs.Shell.Script
import FlatTables.Proofs.Telemetry.Signals
import FlatTables.Proofs.Engine.Story
import FlatTables.Proofs.Engine.Stories
import FlatTables.Proofs.Text.CodeRanges
import FlatTables.Proofs.Storage.PrintedSchema
import FlatTables.Proofs.Registration
import FlatTables.Proofs.Storage.Decoding
import FlatTables.Proofs.Storage.Admission
import FlatTables.Proofs.Update
import FlatTables.Proofs.Engine.Lifecycle
import FlatTables.Proofs.Engine.Course
import FlatTables.Proofs.Engine.Rejected
import FlatTables.Proofs.Query.Placement
import FlatTables.Proofs.Literal.IntegerText
import FlatTables.Proofs.Engine.Projection
