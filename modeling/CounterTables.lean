import CounterTables.Formula.Expr
import CounterTables.Number.Binary64
import CounterTables.Json.Writer
import CounterTables.Run.Telemetry
import CounterTables.Run.Architecture
import CounterTables.Layout.Reader
import CounterTables.Run.Summary
import CounterTables.Settings.File
import CounterTables.Source.Url
import CounterTables.Command.Execution
import CounterTables.Main
import CounterTables.Proofs.Formula.CompiledText
import CounterTables.Proofs.Layout.MetricColumns
import CounterTables.Proofs.Layout.QuotedLines
import CounterTables.Proofs.Layout.Alignment
import CounterTables.Proofs.Json.WellKeyed
import CounterTables.Proofs.Record.Attributes
import CounterTables.Proofs.Document.Division
import CounterTables.Proofs.Document.Deletion
import CounterTables.Proofs.Layout.WidthLimit
import CounterTables.Proofs.Run.Segments
import CounterTables.Proofs.Run.Concatenation
import CounterTables.Proofs.Run.Interruption
import CounterTables.Proofs.Layout.Arguments
import CounterTables.Proofs.Layout.BareText
import CounterTables.Proofs.Formula.Spelling
import CounterTables.Proofs.Formula.Renderings
import CounterTables.Proofs.Formula.Nesting
import CounterTables.Proofs.Formula.Tiling
import CounterTables.Proofs.Formula.FirstFault
import CounterTables.Proofs.Formula.Edits
import CounterTables.Proofs.Formula.Listings
import CounterTables.Proofs.Json.WholeNumber
import CounterTables.Proofs.Record.CodeText
import CounterTables.Proofs.Document.Reordering
import CounterTables.Proofs.Source.Contents
import CounterTables.Proofs.Command.Refusal
import CounterTables.Proofs.Settings.Overriding
import CounterTables.Proofs.Source.AliasTarget
import CounterTables.Proofs.Run.EventListing
import CounterTables.Proofs.Document.ReportOrder
import CounterTables.Proofs.Formula.DecimalPoint
import CounterTables.Proofs.Formula.StackInvariant
import CounterTables.Proofs.Layout.QuotedText
