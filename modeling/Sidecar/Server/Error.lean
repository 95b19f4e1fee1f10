import Sidecar.Config
import Sidecar.Metrics.Error
/-! Errors the telemetry server reports to its caller. Configuration and metrics errors are
passed through with their own text. -/
namespace Sidecar.Server

inductive ServerError where
  | invalidAddress (address : String)
  | bind (address reason : String)
  | stopped
  | drainTimeout (timeout : Duration)
  | config (error : ConfigError)
  | metrics (error : Metrics.MetricsError)

def ServerError.message : ServerError → String
  | .invalidAddress a => "Invalid listen address " ++ Text.quote a ++ ": expected host:port"
  | .bind a r => "Failed to bind " ++ a ++ ": " ++ r
  | .stopped => "Telemetry server has been stopped and cannot be restarted"
  | .drainTimeout t => "Connections still open after " ++ t.text ++ " drain timeout"
  | .config e => e.message
  | .metrics e => e.message

end Sidecar.Server
