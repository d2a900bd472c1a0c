import SnippetBench.Main
import SnippetBench.Proofs.Report.TableRun
import SnippetBench.Proofs.Cli.ConfigurationError
import SnippetBench.Proofs.Cli.Placement
import SnippetBench.Proofs.Config.Usable
import SnippetBench.Proofs.Document.Composition
import SnippetBench.Proofs.Document.FirstMistake
import SnippetBench.Proofs.Document.Lossless
import SnippetBench.Proofs.Document.Outline
import SnippetBench.Proofs.Script.BlockReading
import SnippetBench.Proofs.Script.Layout
import SnippetBench.Proofs.Document.ParseStack
import SnippetBench.Proofs.Script.NameLiteral
import SnippetBench.Proofs.Script.TimedCode
import SnippetBench.Proofs.Report.Trimming
import SnippetBench.Proofs.Interpreter.Availability
import SnippetBench.Proofs.Log.Levels
import SnippetBench.Proofs.Cli.Course
import SnippetBench.Proofs.Cli.StartingUp
import SnippetBench.Proofs.Cli.Verbosity
import SnippetBench.Proofs.Cli.RuntimeReport
import SnippetBench.Proofs.Script.Lifetime
import SnippetBench.Proofs.Files.Growth
import SnippetBench.Proofs.Cli.LogFile
import SnippetBench.Proofs.Cli.Restoration
import SnippetBench.Proofs.Files.PathText
import SnippetBench.Proofs.Cli.ListingAgreement
import SnippetBench.Proofs.Report.Bounds
import SnippetBench.Proofs.Report.Equivariance
import SnippetBench.Proofs.Report.TrialOrder
import SnippetBench.Proofs.Cli.Provenance
import SnippetBench.Proofs.Document.CarriageReturns
import SnippetBench.Proofs.Document.DeclaredName
import SnippetBench.Proofs.Script.Lifting
import SnippetBench.Proofs.Script.FutureStatement
import SnippetBench.Proofs.Report.DurationReading
import SnippetBench.Proofs.Report.CellBounds
import SnippetBench.Proofs.Interpreter.ReportLines
import SnippetBench.Proofs.Script.Commentary
import SnippetBench.Proofs.Interpreter.Remembering
import SnippetBench.Proofs.Interpreter.VersionSearch
import SnippetBench.Proofs.Files.ScriptPath
import SnippetBench.Proofs.Files.Atomicity
import SnippetBench.Proofs.Log.FailedSetUp
import SnippetBench.Proofs.Cli.StartFailure
import SnippetBench.Proofs.Cli.DryRun
import SnippetBench.Proofs.Document.Fence
import SnippetBench.Proofs.Text.Replacement
import SnippetBench.Proofs.Interpreter.Streaming
