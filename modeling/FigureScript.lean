import FigureScript.CommandLine.Arguments
import FigureScript.CommandLine.Run
import FigureScript.Error
import FigureScript.Figure.Basic
import FigureScript.Figure.Check
import FigureScript.Figure.Location
import FigureScript.Figure.Problem
import FigureScript.Figure.Reading
import FigureScript.Figure.Writing
import FigureScript.Files.Content
import FigureScript.Files.Expand
import FigureScript.Files.OsError
import FigureScript.Files.Path
import FigureScript.Files.Pattern
import FigureScript.Files.Store
import FigureScript.Json.Decode
import FigureScript.Json.Fault
import FigureScript.Json.Reader
import FigureScript.Json.TaggedReader
import FigureScript.Json.Value
import FigureScript.Json.Writer
import FigureScript.Log
import FigureScript.Main
import FigureScript.Number.Binary
import FigureScript.Number.Nearest
import FigureScript.Number.Notation
import FigureScript.Number.Numeral
import FigureScript.Number.Precision
import FigureScript.Number.Shortest
import FigureScript.Process.Basic
import FigureScript.Process.Format
import FigureScript.Process.Machine
import FigureScript.Process.Shell.Arithmetic
import FigureScript.Process.Shell.Builtin
import FigureScript.Process.Shell.Condition
import FigureScript.Process.Shell.Expand
import FigureScript.Process.Shell.Run
import FigureScript.Process.Shell.Script
import FigureScript.Process.Shell.State
import FigureScript.Process.Shell.Token
import FigureScript.Process.Shell.Wildcard
import FigureScript.Process.Shell.Word
import FigureScript.Process.Tool.Basic
import FigureScript.Process.Tool.Calculation
import FigureScript.Process.Tool.Edit
import FigureScript.Process.Tool.Files
import FigureScript.Process.Tool.Lines
import FigureScript.Process.Tool.Regular
import FigureScript.Process.Tool.Search
import FigureScript.Process.Tool.Table
import FigureScript.Program.Axes
import FigureScript.Program.ErrorBar
import FigureScript.Program.OfColorplot
import FigureScript.Program.OfFigure
import FigureScript.Program.OfMultiplot
import FigureScript.Program.OfPlot
import FigureScript.Program.Source
import FigureScript.Program.Statement
import FigureScript.Proofs.CommandLine.Rounds
import FigureScript.Proofs.Figure.Accepted
import FigureScript.Proofs.Figure.Grid
import FigureScript.Proofs.Figure.Loaded
import FigureScript.Proofs.Figure.Located
import FigureScript.Proofs.Figure.Noise
import FigureScript.Proofs.Figure.Parts
import FigureScript.Proofs.Figure.Reals
import FigureScript.Proofs.Figure.RoundTrip
import FigureScript.Proofs.Figure.Skeleton
import FigureScript.Proofs.Figure.Violations
import FigureScript.Proofs.Files.Expand
import FigureScript.Proofs.Files.Names
import FigureScript.Proofs.Files.Store
import FigureScript.Proofs.Files.Written
import FigureScript.Proofs.Json.Compaction
import FigureScript.Proofs.Json.Layout
import FigureScript.Proofs.Json.Noise
import FigureScript.Proofs.Json.Numbers
import FigureScript.Proofs.Json.Records
import FigureScript.Proofs.Json.Reread
import FigureScript.Proofs.Json.Strings
import FigureScript.Proofs.Keyed
import FigureScript.Proofs.Number.Literal
import FigureScript.Proofs.Number.Rounding
import FigureScript.Proofs.Number.Scaling
import FigureScript.Proofs.Number.Shortest
import FigureScript.Proofs.Number.Spelling
import FigureScript.Proofs.Outcome
import FigureScript.Proofs.Program.Addressing
import FigureScript.Proofs.Program.AxesExpressions
import FigureScript.Proofs.Program.Blank
import FigureScript.Proofs.Program.BlockStructure
import FigureScript.Proofs.Program.Broadcast
import FigureScript.Proofs.Program.CodeLines
import FigureScript.Proofs.Program.Compiled
import FigureScript.Proofs.Program.Declaration
import FigureScript.Proofs.Program.DeclaredBeforeUse
import FigureScript.Proofs.Program.Drawings
import FigureScript.Proofs.Program.GridBlocks
import FigureScript.Proofs.Program.Legends
import FigureScript.Proofs.Program.Phases
import FigureScript.Proofs.Program.Rechecked
import FigureScript.Proofs.Program.Rejected
import FigureScript.Proofs.Program.Retained
import FigureScript.Proofs.Program.SecondaryAxis
import FigureScript.Proofs.Program.Shapes
import FigureScript.Proofs.Program.Skeleton
import FigureScript.Proofs.Program.StyleHints
import FigureScript.Proofs.Program.TextConfinement
import FigureScript.Proofs.Recorder.Axes
import FigureScript.Proofs.Recorder.Cell
import FigureScript.Proofs.Recorder.ErrorBars
import FigureScript.Proofs.Recorder.FailedCalls
import FigureScript.Proofs.Recorder.Fields
import FigureScript.Proofs.Recorder.Figure
import FigureScript.Proofs.Recorder.Grid
import FigureScript.Proofs.Recorder.Isolation
import FigureScript.Proofs.Recorder.Kept
import FigureScript.Proofs.Recorder.Paths
import FigureScript.Proofs.Recorder.Rows
import FigureScript.Proofs.Recorder.Saved
import FigureScript.Proofs.Session.Action
import FigureScript.Proofs.Session.Batch
import FigureScript.Proofs.Session.Conversion
import FigureScript.Proofs.Session.Exported
import FigureScript.Proofs.Session.FailedFiles
import FigureScript.Proofs.Style.Calls
import FigureScript.Proofs.Style.Lists
import FigureScript.Proofs.Style.Turns
import FigureScript.Proofs.Style.Words
import FigureScript.Proofs.Text.Literal
import FigureScript.Proofs.Text.OneLine
import FigureScript.Proofs.Text.Outline
import FigureScript.Proofs.Workbook.Titles
import FigureScript.Proofs.Workbook.Worksheet
import FigureScript.Recorder.Axes
import FigureScript.Recorder.Figure
import FigureScript.Recorder.Rows
import FigureScript.Session.Basic
import FigureScript.Session.Batch
import FigureScript.Session.Runner
import FigureScript.Session.SavedFigure
import FigureScript.Settings.Basic
import FigureScript.Settings.Discover
import FigureScript.Style.Cycle
import FigureScript.Text.Alphanumeric
import FigureScript.Text.Displayed
import FigureScript.Text.Lines
import FigureScript.Text.Octets
import FigureScript.Text.Quoted
import FigureScript.Text.Utf8
import FigureScript.Text.Visible
import FigureScript.Workbook.Basic
import FigureScript.Workbook.CellRange
import FigureScript.Workbook.OfPlot
import FigureScript.Workbook.Place
import FigureScript.Workbook.SheetName
import FigureScript.Workbook.StoredText
import FigureScript.Yaml.Cursor
import FigureScript.Yaml.Decode
import FigureScript.Yaml.Event
import FigureScript.Yaml.Lexer
import FigureScript.Yaml.Problem
import FigureScript.Yaml.Scalar
import FigureScript.Yaml.ScalarValue
import FigureScript.Yaml.Token
