import Sidecar.Text.Blank
import Sidecar.Text.Escaped
import Sidecar.Text.Quoted
import Sidecar.Duration.Basic
import Sidecar.Duration.Text
import Sidecar.Duration.Parse
import Sidecar.Duration.Wide
import Sidecar.Decimal.Basic
import Sidecar.Decimal.Shortest
import Sidecar.Decimal.Positional
import Sidecar.Decimal.Rounding
import Sidecar.Config
import Sidecar.Json.Number
import Sidecar.Json.Value
import Sidecar.Json.Reader
import Sidecar.Escalation
import Sidecar.Metrics.Buckets
import Sidecar.Metrics.Error
import Sidecar.Metrics.Fingerprint
import Sidecar.Metrics.Registry
import Sidecar.Metrics.Exposition
import Sidecar.Readiness.Gate
import Sidecar.Readiness.StopChannel
import Sidecar.Readiness.Watcher
import Sidecar.Readiness.Script
import Sidecar.Http.Request
import Sidecar.Http.Router
import Sidecar.Server.Error
import Sidecar.Net.IpAddress
import Sidecar.Net.HostLookup
import Sidecar.Net.Host
import Sidecar.Server.Address
import Sidecar.Server.Listener
import Sidecar.Server.Lifecycle
import Sidecar.Main
import Sidecar.Proofs.Watcher
import Sidecar.Proofs.ServerRun
import Sidecar.Proofs.Escalation
import Sidecar.Proofs.DurationText
import Sidecar.Proofs.TextOrder
import Sidecar.Proofs.ReadinessGate
import Sidecar.Proofs.InstrumentTable
import Sidecar.Proofs.StopChannelThreads
import Sidecar.Proofs.WatcherRun
import Sidecar.Proofs.AbandonedStop
import Sidecar.Proofs.Trimming
import Sidecar.Proofs.ListenAddress
import Sidecar.Proofs.ConfigReading
import Sidecar.Proofs.ListenerRun
import Sidecar.Proofs.HistogramBuckets
import Sidecar.Proofs.WideReading
