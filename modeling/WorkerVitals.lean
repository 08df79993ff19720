import WorkerVitals.Agent.Basic
import WorkerVitals.Agent.Observation
import WorkerVitals.Bench
import WorkerVitals.Collector
import WorkerVitals.Decimal.Binary
import WorkerVitals.Decimal.Layout
import WorkerVitals.Decimal.Read
import WorkerVitals.Decimal.Shortest
import WorkerVitals.Event
import WorkerVitals.Fault
import WorkerVitals.File.Content
import WorkerVitals.File.Tree
import WorkerVitals.Json.Numeral
import WorkerVitals.Json.Read
import WorkerVitals.Json.Rejection
import WorkerVitals.Json.Token
import WorkerVitals.Json.Write
import WorkerVitals.Log.Filter
import WorkerVitals.Log.Line
import WorkerVitals.Log.Rule.Basic
import WorkerVitals.Log.Rule.Read
import WorkerVitals.Main
import WorkerVitals.Metric.Basic
import WorkerVitals.Metric.Ceiling
import WorkerVitals.Metric.Kind
import WorkerVitals.Metric.Sample
import WorkerVitals.Metric.Wire
import WorkerVitals.Network.Counters
import WorkerVitals.Network.Probe
import WorkerVitals.Network.Rate
import WorkerVitals.Network.Table
import WorkerVitals.Pacing
import WorkerVitals.Pattern.Basic
import WorkerVitals.Pattern.CharSet
import WorkerVitals.Pattern.Read
import WorkerVitals.Pattern.Sign
import WorkerVitals.Publisher
import WorkerVitals.Registry
import WorkerVitals.Settings.Basic
import WorkerVitals.Settings.CommandLine
import WorkerVitals.Settings.Help
import WorkerVitals.Settings.Options
import WorkerVitals.Snapshot.Basic
import WorkerVitals.Snapshot.NameMap
import WorkerVitals.Snapshot.Wire
import WorkerVitals.Text.Alphabetic
import WorkerVitals.Text.Alphanumeric
import WorkerVitals.Text.Blank
import WorkerVitals.Text.Cut
import WorkerVitals.Text.Line
import WorkerVitals.Text.Numeral
import WorkerVitals.Text.Quoted
import WorkerVitals.Text.Ranges
import WorkerVitals.Text.Visible
import WorkerVitals.Time.Clock
import WorkerVitals.Time.Elapsed
import WorkerVitals.Time.Instant
import WorkerVitals.Time.Stopwatch
import WorkerVitals.World
import WorkerVitals.Proofs.Binary64.Sign
import WorkerVitals.Proofs.Network.Capture
import WorkerVitals.Proofs.Network.Run
import WorkerVitals.Proofs.Collector.Round
import WorkerVitals.Proofs.Collector.Session
import WorkerVitals.Proofs.Snapshot.NameMap
import WorkerVitals.Proofs.Registry
import WorkerVitals.Proofs.Collector.History
import WorkerVitals.Proofs.Collector.Failing
import WorkerVitals.Proofs.Collector.Completed
import WorkerVitals.Proofs.Network.Table
import WorkerVitals.Proofs.Network.Rendering
import WorkerVitals.Proofs.Network.Unwinding
import WorkerVitals.Proofs.Network.Directions
import WorkerVitals.Proofs.Network.Overlap
import WorkerVitals.Proofs.Time.Elapsed
import WorkerVitals.Proofs.Pacing
import WorkerVitals.Proofs.Agent.Spacing
import WorkerVitals.Proofs.Binary64.Finite
import WorkerVitals.Proofs.Json.Quoting
import WorkerVitals.Proofs.Json.Spelling
import WorkerVitals.Proofs.Json.Reading
import WorkerVitals.Proofs.Json.Finite
import WorkerVitals.Proofs.Json.Yield
import WorkerVitals.Proofs.Snapshot.Finite
import WorkerVitals.Proofs.Snapshot.RoundTrip
import WorkerVitals.Proofs.Binary64.Positive
import WorkerVitals.Proofs.Network.Threads
import WorkerVitals.Proofs.Network.Interleaving
import WorkerVitals.Proofs.Network.Steady
import WorkerVitals.Proofs.Network.Window
import WorkerVitals.Proofs.Collector.Validity
import WorkerVitals.Proofs.Agent.Pair
import WorkerVitals.Proofs.Agent.Trace
import WorkerVitals.Proofs.Settings.Values
import WorkerVitals.Proofs.Settings.CommandLine
import WorkerVitals.Proofs.Collector.Report
import WorkerVitals.Proofs.Snapshot.Walk
import WorkerVitals.Proofs.Collector.Beside
import WorkerVitals.Proofs.World.Calm
import WorkerVitals.Proofs.World.Notebook
import WorkerVitals.Proofs.World.Isolation
import WorkerVitals.Proofs.Pacing.Exact
import WorkerVitals.Proofs.Pacing.Pieces
import WorkerVitals.Proofs.Network.Share
import WorkerVitals.Proofs.Text.Writing
import WorkerVitals.Proofs.Pacing.Order
import WorkerVitals.Proofs.Agent.Start
import WorkerVitals.Proofs.Snapshot.Validity
import WorkerVitals.Proofs.Json.Grammar
import WorkerVitals.Proofs.Json.Tree
import WorkerVitals.Proofs.Json.Values
import WorkerVitals.Proofs.Snapshot.Members
import WorkerVitals.Proofs.Snapshot.Failing
import WorkerVitals.Proofs.Time.Timer
