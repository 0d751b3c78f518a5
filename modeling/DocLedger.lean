import DocLedger.Main
import DocLedger.Client.Call
import DocLedger.Error.View
import DocLedger.Host.LogFile
import DocLedger.Metrics.Call
import DocLedger.Notation
import DocLedger.Proofs.Json.Front
import DocLedger.Proofs.Json.Extension
import DocLedger.Proofs.Json.Cut
import DocLedger.Proofs.Text.Utf8
import DocLedger.Proofs.Stream.Pieces
import DocLedger.Proofs.Stream.Documents
import DocLedger.Proofs.Stream.Faults
import DocLedger.Proofs.Watch.Lifecycle
import DocLedger.Watch.Session
import DocLedger.Proofs.Watch.Stop
import DocLedger.Proofs.Host.Paths
import DocLedger.Proofs.Client.SameFiles
import DocLedger.Proofs.Json.Written
import DocLedger.Proofs.Value.Room
import DocLedger.Proofs.Json.Room
import DocLedger.Proofs.Json.RoundTrip
import DocLedger.Proofs.Client.StoredPayload
import DocLedger.Proofs.Client.ReadBack
import DocLedger.Proofs.Client.OneCall
import DocLedger.Proofs.Index.Layers
import DocLedger.Proofs.Index.WatchWords
import DocLedger.Proofs.Client.StartWatch
import DocLedger.Client.Fleet
import DocLedger.Proofs.Metrics.Series
import DocLedger.Proofs.Metrics.Changes
import DocLedger.Proofs.Metrics.Tallies
import DocLedger.Proofs.Number.Order
import DocLedger.Proofs.Metrics.Distribution
import DocLedger.Proofs.Text.Lines
import DocLedger.Proofs.Watch.Lines
import DocLedger.Proofs.Log.WatchCount
import DocLedger.Proofs.Watch.Ends
import DocLedger.Proofs.Engine.Spares
import DocLedger.Proofs.Client.WatchAccount
import DocLedger.Proofs.Report.Pass
import DocLedger.Proofs.Watch.Reports
import DocLedger.Proofs.Watch.BadText
import DocLedger.Proofs.Log.CommandCount
import DocLedger.Proofs.Host.Capture
import DocLedger.Proofs.Host.Runs
import DocLedger.Proofs.Json.Given
import DocLedger.Proofs.Report.Fits
import DocLedger.Proofs.Client.Tasks
import DocLedger.Proofs.Client.Outcomes
import DocLedger.Proofs.Stream.Spans
import DocLedger.Proofs.Report.Accepted
import DocLedger.Proofs.Report.Misfits
import DocLedger.Proofs.Engine.Keeps
import DocLedger.Proofs.Report.NormalForm
import DocLedger.Proofs.Log.PassCount
import DocLedger.Cli.Course
import DocLedger.Proofs.Index.Composition
import DocLedger.Proofs.Index.Lookups
import DocLedger.Proofs.Index.Documents
import DocLedger.Proofs.Report.Agreement
import DocLedger.Proofs.Cli.Course
import DocLedger.Proofs.Cli.Follow
import DocLedger.Proofs.Cli.Verdict
import DocLedger.Proofs.Index.Rows
import DocLedger.Proofs.Stream.Recovery
import DocLedger.Proofs.Index.Faults
import DocLedger.Proofs.Console.Escaped
import DocLedger.Proofs.Cli.Handled
import DocLedger.Proofs.Cli.Errors
import DocLedger.Proofs.Index.Orders
import DocLedger.Proofs.Client.Payloads
import DocLedger.Proofs.Number.Spelling
import DocLedger.Proofs.Json.Composed
import DocLedger.Proofs.Command.SafePayload
import DocLedger.Proofs.Number.Nearest
import DocLedger.Proofs.Metrics.Exposition
import DocLedger.Proofs.Json.Ascii
import DocLedger.Proofs.Log.OneLine
import DocLedger.Proofs.Client.Labels
import DocLedger.Proofs.Console.Codes
import DocLedger.Proofs.Console.Marks
import DocLedger.Proofs.Console.LaidOut
import DocLedger.Proofs.Cli.Pushed
