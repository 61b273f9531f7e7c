import SourceCensus.Block
import SourceCensus.Census
import SourceCensus.Color.Key
import SourceCensus.Color.Light
import SourceCensus.Color.Row
import SourceCensus.Command.Markup
import SourceCensus.Command.Options
import SourceCensus.Command.Request
import SourceCensus.Command.Screen
import SourceCensus.Command.Session
import SourceCensus.Complaint
import SourceCensus.Decimal.Binary
import SourceCensus.Decimal.Reading
import SourceCensus.Decimal.Shortest
import SourceCensus.Encoding.Basic
import SourceCensus.Encoding.Name
import SourceCensus.Encoding.Units
import SourceCensus.Fault
import SourceCensus.Files.Exclusion
import SourceCensus.Files.Glob
import SourceCensus.Files.Locate
import SourceCensus.Files.Path
import SourceCensus.Files.Read
import SourceCensus.Files.Tree
import SourceCensus.Files.Walk
import SourceCensus.Json.Reader
import SourceCensus.Json.Writer
import SourceCensus.Literal.Scan
import SourceCensus.Literal.Strip
import SourceCensus.Log.Journal
import SourceCensus.Log.Record
import SourceCensus.MagicNumber
import SourceCensus.Main
import SourceCensus.Mode
import SourceCensus.Pattern.Basic
import SourceCensus.Pattern.Escape
import SourceCensus.Pattern.Failure
import SourceCensus.Pattern.Match
import SourceCensus.Pattern.Reader
import SourceCensus.Pattern.Search
import SourceCensus.Pattern.Token
import SourceCensus.Proofs.Block.Declaration
import SourceCensus.Proofs.Block.Matching
import SourceCensus.Proofs.Block.Nesting
import SourceCensus.Proofs.Block.Span
import SourceCensus.Proofs.Census
import SourceCensus.Proofs.Census.History
import SourceCensus.Proofs.Color.Argument
import SourceCensus.Proofs.Color.Assignment
import SourceCensus.Proofs.Color.Call
import SourceCensus.Proofs.Color.Contrast
import SourceCensus.Proofs.Color.HexKey
import SourceCensus.Proofs.Color.Seam
import SourceCensus.Proofs.Command.Output
import SourceCensus.Proofs.Command.Request
import SourceCensus.Proofs.Decimal.Numeral
import SourceCensus.Proofs.Decimal.Shortest
import SourceCensus.Proofs.Fault
import SourceCensus.Proofs.Files.Locate
import SourceCensus.Proofs.Files.Path
import SourceCensus.Proofs.Files.Reorder
import SourceCensus.Proofs.Files.Resolve
import SourceCensus.Proofs.Files.Sought
import SourceCensus.Proofs.Files.Suffix
import SourceCensus.Proofs.Files.Walk
import SourceCensus.Proofs.Files.Write
import SourceCensus.Proofs.Json.Document
import SourceCensus.Proofs.Json.Layout
import SourceCensus.Proofs.Json.Number
import SourceCensus.Proofs.Json.Text
import SourceCensus.Proofs.Literal.Alike
import SourceCensus.Proofs.Literal.Continued
import SourceCensus.Proofs.Literal.Grammar
import SourceCensus.Proofs.Literal.Hidden
import SourceCensus.Proofs.Literal.Hollow
import SourceCensus.Proofs.Literal.Idle
import SourceCensus.Proofs.Literal.Line
import SourceCensus.Proofs.Literal.Progress
import SourceCensus.Proofs.Literal.Seam
import SourceCensus.Proofs.Literal.Strip
import SourceCensus.Proofs.Literal.Token
import SourceCensus.Proofs.Log.Hierarchy
import SourceCensus.Proofs.Log.Journal
import SourceCensus.Proofs.Log.Source
import SourceCensus.Proofs.MagicNumber
import SourceCensus.Proofs.Pattern.Loop
import SourceCensus.Proofs.Pattern.Match
import SourceCensus.Proofs.Pattern.Search
import SourceCensus.Proofs.Ranking
import SourceCensus.Proofs.Ranking.Top
import SourceCensus.Proofs.Report.Document
import SourceCensus.Proofs.Report.Grid
import SourceCensus.Proofs.Report.Table
import SourceCensus.Proofs.Run
import SourceCensus.Proofs.Settings.Basic
import SourceCensus.Proofs.Settings.Failure
import SourceCensus.Proofs.Settings.Load
import SourceCensus.Proofs.Tally
import SourceCensus.Proofs.Text.Cursor
import SourceCensus.Proofs.Text.Digits
import SourceCensus.Proofs.Text.Run
import SourceCensus.Proofs.Usable
import SourceCensus.Report.Document
import SourceCensus.Report.Grid
import SourceCensus.Report.Plain
import SourceCensus.Report.Table
import SourceCensus.Run
import SourceCensus.Setting
import SourceCensus.Settings.Basic
import SourceCensus.Settings.Discovery
import SourceCensus.Settings.Environment
import SourceCensus.Settings.Field
import SourceCensus.Settings.Load
import SourceCensus.Tally
import SourceCensus.Text.Alphanumeric
import SourceCensus.Text.Breadth
import SourceCensus.Text.Character
import SourceCensus.Text.Cursor
import SourceCensus.Text.Identifier
import SourceCensus.Text.Integer
import SourceCensus.Text.Lowercase
import SourceCensus.Text.Names
import SourceCensus.Text.Quoted
import SourceCensus.Toml.Failure
import SourceCensus.Toml.Quoted
import SourceCensus.Toml.Reader
import SourceCensus.Toml.Scalar
import SourceCensus.Toml.Table
