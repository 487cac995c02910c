import JavaComments.CommandLine
import JavaComments.Comment.Basic
import JavaComments.Comment.Layout
import JavaComments.Decimal.Binary64
import JavaComments.Decimal.Estimate
import JavaComments.Decimal.Shortest
import JavaComments.Decimal.Spelling
import JavaComments.Error
import JavaComments.Event
import JavaComments.FileSystem.Basic
import JavaComments.FileSystem.Path
import JavaComments.JavaDoc.Basic
import JavaComments.JavaDoc.Bench
import JavaComments.JavaDoc.Builder
import JavaComments.JavaDoc.Section
import JavaComments.Job
import JavaComments.Json.Blank
import JavaComments.Json.Choice
import JavaComments.Json.Failure
import JavaComments.Json.Mismatch
import JavaComments.Json.Number
import JavaComments.Json.Printer
import JavaComments.Json.Quoted
import JavaComments.Json.Reader
import JavaComments.Json.Reason
import JavaComments.Json.Record
import JavaComments.Json.Result
import JavaComments.Json.Sequence
import JavaComments.Main
import JavaComments.Plan
import JavaComments.Program
import JavaComments.Proofs.CommandLine.Command
import JavaComments.Proofs.CommandLine.Line
import JavaComments.Proofs.CommandLine.Numeral
import JavaComments.Proofs.CommandLine.Order
import JavaComments.Proofs.CommandLine.Settings
import JavaComments.Proofs.Comment.BlockEnd
import JavaComments.Proofs.Comment.CodeUnit
import JavaComments.Proofs.Comment.Concatenation
import JavaComments.Proofs.Comment.Containment
import JavaComments.Proofs.Comment.Escape
import JavaComments.Proofs.Comment.JavaLine
import JavaComments.Proofs.Comment.Margin
import JavaComments.Proofs.Comment.Marked
import JavaComments.Proofs.Comment.Readback
import JavaComments.Proofs.Comment.Scanner
import JavaComments.Proofs.Comment.UnicodeEscape
import JavaComments.Proofs.Comment.UnitGuard
import JavaComments.Proofs.Comment.WrittenLines
import JavaComments.Proofs.FileSystem.Saved
import JavaComments.Proofs.JavaDoc.Clones
import JavaComments.Proofs.JavaDoc.Entries
import JavaComments.Proofs.JavaDoc.History
import JavaComments.Proofs.JavaDoc.Lineage
import JavaComments.Proofs.JavaDoc.Lines
import JavaComments.Proofs.JavaDoc.SampleCode
import JavaComments.Proofs.JavaDoc.Sections
import JavaComments.Proofs.JavaDoc.Summary
import JavaComments.Proofs.Job.Compose
import JavaComments.Proofs.Job.Log
import JavaComments.Proofs.Job.Run
import JavaComments.Proofs.Json.Choice
import JavaComments.Proofs.Json.Grammar
import JavaComments.Proofs.Json.Object
import JavaComments.Proofs.Json.Position
import JavaComments.Proofs.Json.Printer
import JavaComments.Proofs.Json.Quoted
import JavaComments.Proofs.Json.Reader
import JavaComments.Proofs.Json.Record
import JavaComments.Proofs.Json.Sequence
import JavaComments.Proofs.Json.Slot
import JavaComments.Proofs.Json.Stable.Basic
import JavaComments.Proofs.Json.Stable.Quoted
import JavaComments.Proofs.Json.Stable.Record
import JavaComments.Proofs.Json.Stable.Sequence
import JavaComments.Proofs.Json.Tuple
import JavaComments.Proofs.Json.Unread.Basic
import JavaComments.Proofs.Json.Unread.Record
import JavaComments.Proofs.Json.Unread.Sequence
import JavaComments.Proofs.Json.Unread.Value
import JavaComments.Proofs.Program.Raw
import JavaComments.Proofs.Program.Run
import JavaComments.Proofs.Request.Grammar
import JavaComments.Proofs.Request.Position
import JavaComments.Proofs.Request.Replay
import JavaComments.Proofs.Request.RoundTrip
import JavaComments.Proofs.Request.Truncation
import JavaComments.Proofs.Text.Breaks
import JavaComments.Proofs.Text.Hexadecimal
import JavaComments.Proofs.Text.Lines
import JavaComments.Request.Basic
import JavaComments.Request.Printer
import JavaComments.Request.Reader
import JavaComments.Text.Hidden
import JavaComments.Text.Lines
import JavaComments.Text.Literal
import JavaComments.Text.Utf8
