import Sidecar.Duration.Text
/-! Fatal failures found after start. No caller is left to receive them, so they are handed to
an escalation, which by default ends the process. -/
namespace Sidecar

/-- A failure that no caller can receive. -/
inductive FatalError where
  /-- Readiness was not enabled within the configured timeout. -/
  | readinessTimeout (timeout : Duration)
  /-- The listener stopped serving after it was bound. -/
  | listenerFailed (reason : String)
deriving DecidableEq

def FatalError.message : FatalError → String
  | .readinessTimeout t =>
    "Readiness not enabled within " ++ t.text ++
      " - call enable_readiness() once initialization completes"
  | .listenerFailed r => "Telemetry listener failed after bind: " ++ r

end Sidecar
