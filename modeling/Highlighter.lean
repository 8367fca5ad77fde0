import Highlighter.Main
import Highlighter.Scan.Lines
import Highlighter.Scan.Stream
import Highlighter.World.FileTree
import Highlighter.Proofs.Pattern.Invariant
import Highlighter.Proofs.Pattern.Locality
import Highlighter.Proofs.Rule.Cover
import Highlighter.Proofs.Scan.Steps
import Highlighter.Proofs.Scan.Stream
import Highlighter.Proofs.Scan.Coverage
import Highlighter.Proofs.Scan.LineByLine
import Highlighter.Proofs.Pattern.Preference
import Highlighter.Proofs.Language.Rules
import Highlighter.Proofs.Rule.Row
import Highlighter.Proofs.Language.Header
import Highlighter.Proofs.Language.Words
import Highlighter.Proofs.Scan.Restart
import Highlighter.Proofs.Scan.Cursor
import Highlighter.Proofs.Scan.OwnTable
import Highlighter.Proofs.Output.Device
import Highlighter.Proofs.Output.Terminal
import Highlighter.Proofs.Output.Ansi
import Highlighter.Proofs.Output.Markup
import Highlighter.Proofs.Output.Html
import Highlighter.Proofs.Text.Quoted
import Highlighter.Proofs.Text.Position
import Highlighter.Proofs.Output.Table
import Highlighter.Proofs.Scan.Order
import Highlighter.Proofs.Language.Order
import Highlighter.Proofs.Output.Buffer
import Highlighter.Proofs.Output.Writing
import Highlighter.Proofs.CommandLine.Output
import Highlighter.Proofs.Output.Visible
import Highlighter.Proofs.Scan.LinePlaces
import Highlighter.Proofs.Pattern.Shortened
import Highlighter.Proofs.Language.Spans
import Highlighter.Proofs.Scan.AnyOffset
import Highlighter.Proofs.Pattern.Nesting
import Highlighter.Proofs.Rule.Groups
import Highlighter.Proofs.Text.ByteOrder
import Highlighter.Proofs.Toml.Keys
import Highlighter.Proofs.Theme.Entries
import Highlighter.Proofs.Theme.Reordered
import Highlighter.Proofs.Language.OperatorRuns
import Highlighter.Proofs.Rule.Start
import Highlighter.Proofs.Text.Counting
import Highlighter.Proofs.Text.PositionOrder
import Highlighter.Proofs.CommandLine.Exit
import Highlighter.Proofs.CommandLine.ScanLog
import Highlighter.Proofs.Language.Plain
import Highlighter.Proofs.Language.WordBorders
import Highlighter.Proofs.Language.Parentheses
