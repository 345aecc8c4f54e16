import SqlReplay.Format.PrettyPrinter
import SqlReplay.Cli.Run
import SqlReplay.Record
import SqlReplay.Sql.Position
import SqlReplay.Store.MemoryStore
import SqlReplay.Text.Template
import SqlReplay.Proofs.Sql.Modes
import SqlReplay.Proofs.Sql.Detection
import SqlReplay.Proofs.Sql.Lexemes
import SqlReplay.Proofs.Literal.Form
import SqlReplay.Proofs.Sql.References
import SqlReplay.Proofs.Exec.Registry
import SqlReplay.Proofs.Script.DeclareBlock
import SqlReplay.Proofs.Sql.Seam
import SqlReplay.Proofs.Sql.Substitution
import SqlReplay.Proofs.Exec.Split
import SqlReplay.Proofs.Exec.Cut
import SqlReplay.Proofs.Exec.RoundTrip
import SqlReplay.Proofs.Script.Message
import SqlReplay.Proofs.Script.Plan
import SqlReplay.Proofs.Script.Policy
import SqlReplay.Proofs.Exec.Pieces
import SqlReplay.Proofs.Script.Report
import SqlReplay.Proofs.Exec.Bindings
import SqlReplay.Proofs.Script.Formatting
import SqlReplay.Proofs.Script.Arrangement
import SqlReplay.Proofs.Sql.Boundary
import SqlReplay.Proofs.Sql.Collapsed
import SqlReplay.Proofs.Sql.OneLine
import SqlReplay.Proofs.Json.Depth
import SqlReplay.Proofs.Json.Reading
import SqlReplay.Proofs.Store.Loading
import SqlReplay.Proofs.Store.Agreement
import SqlReplay.Proofs.Cli.Asking
import SqlReplay.Proofs.Cli.Remembering
import SqlReplay.Proofs.Literal.Spelling
import SqlReplay.Proofs.Literal.Sizing
import SqlReplay.Proofs.Literal.Room
import SqlReplay.Proofs.Script.Rendering
import SqlReplay.Proofs.Store.Content
import SqlReplay.Proofs.Literal.Closing
import SqlReplay.Proofs.Sql.Ordering
import SqlReplay.Proofs.Format.Casing
import SqlReplay.Proofs.Store.Sharing
import SqlReplay.Proofs.Log.Line
import SqlReplay.Proofs.Log.Runs
import SqlReplay.Proofs.Text.Numeral
import SqlReplay.Proofs.Config.Variables
import SqlReplay.Proofs.Sql.ClosingRun
import SqlReplay.Proofs.Exec.Names
