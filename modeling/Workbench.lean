import Workbench.Board.Basic
import Workbench.Board.Event
import Workbench.Board.Feed
import Workbench.Builtin
import Workbench.Config
import Workbench.Console.Arguments
import Workbench.Console.Clock
import Workbench.Console.Help
import Workbench.Console.Outcome
import Workbench.Console.Repl
import Workbench.Console.Report
import Workbench.Console.Request
import Workbench.Engine.Basic
import Workbench.Engine.Host
import Workbench.Engine.Status
import Workbench.Evaluator
import Workbench.Failure
import Workbench.Fault
import Workbench.Form.Basic
import Workbench.Form.Parser
import Workbench.Form.Printer
import Workbench.Form.Wire
import Workbench.Json.Basic
import Workbench.Json.Printer
import Workbench.Json.Reader
import Workbench.Main
import Workbench.Observer.Audience
import Workbench.Observer.Reaction
import Workbench.Observer.Registry
import Workbench.Position
import Workbench.Program
import Workbench.Proofs.Engine.Readiness
import Workbench.Proofs.Evaluator.Metered
import Workbench.Proofs.Evaluator.Places
import Workbench.Proofs.Evaluator.Sink
import Workbench.Proofs.Form.Grammar
import Workbench.Proofs.Form.Places
import Workbench.Proofs.Observer.Conduct
import Workbench.Proofs.Observer.Course
import Workbench.Proofs.Observer.Dispatch
import Workbench.Proofs.Observer.Registry
import Workbench.Proofs.Program.Layout
import Workbench.Proofs.Session.Atomicity
import Workbench.Proofs.Session.Effects
import Workbench.Proofs.Session.Faithfulness
import Workbench.Proofs.Session.History
import Workbench.Proofs.Session.Moments
import Workbench.Proofs.Value.Places
import Workbench.Session.Basic
import Workbench.Session.Run
import Workbench.Text.Alphabetic
import Workbench.Text.Blank
import Workbench.Text.CharRanges
import Workbench.Text.Decimal
import Workbench.Text.Extending
import Workbench.Text.Hidden
import Workbench.Text.Ignorable
import Workbench.Text.Join
import Workbench.Text.Lines
import Workbench.Text.Numeral
import Workbench.Text.Quoted
import Workbench.Token.Basic
import Workbench.Token.Lexer
import Workbench.Uuid
import Workbench.Value.Basic
import Workbench.Value.Json
import Workbench.Value.Operation
import Workbench.Value.Render
import Workbench.Proofs.Evaluator.Journal
import Workbench.Proofs.Program.Limits
import Workbench.Proofs.Form.Seam
import Workbench.Proofs.Program.Pieces
import Workbench.Proofs.Program.Depth
import Workbench.Proofs.Engine.Answers
import Workbench.Proofs.Engine.Waiting
import Workbench.Proofs.Observer.Ledger
import Workbench.Proofs.Observer.Roster
import Workbench.Proofs.Token.Extent
import Workbench.Proofs.Program.Literals
import Workbench.Proofs.Program.Names
import Workbench.Proofs.Board.Feed
import Workbench.Proofs.Board.Replay
import Workbench.Proofs.Session.Open
import Workbench.Proofs.Console.Repl
import Workbench.Proofs.Form.Errors
import Workbench.Proofs.Json.Order
import Workbench.Proofs.Json.RoundTrip
import Workbench.Proofs.Value.Arithmetic
import Workbench.Proofs.Program.Nesting
import Workbench.Proofs.Value.Comparison
import Workbench.Proofs.Value.Description
import Workbench.Proofs.Text.Quoted
import Workbench.Proofs.Value.Debug
import Workbench.Proofs.Json.Spelling
import Workbench.Proofs.Config.File
import Workbench.Proofs.Form.Measures
import Workbench.Proofs.Program.Endings
import Workbench.Proofs.Config.Workable
import Workbench.Form.Descent
import Workbench.Proofs.Form.Descent
import Workbench.Proofs.Token.Cursor
import Workbench.Proofs.Evaluator.Pairing
import Workbench.Proofs.Evaluator.Coupling
