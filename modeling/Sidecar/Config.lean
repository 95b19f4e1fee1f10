import Sidecar.Duration.Parse
import Sidecar.Duration.Text
import Sidecar.Text.Quoted
/-! Server configuration and service identity, read from environment variables.

A configuration has a listen address, the time the application has to enable readiness, and
the poll interval of the readiness watcher. Reading checks, in this order: a set but blank
address, the timeout text, the poll interval text, and then `validate`, which checks an empty
address, a zero poll interval, and the two durations against `Duration.signedMax`. -/
namespace Sidecar

def listenAddressVar : String := "INTERNAL_SERVER_LISTEN_ADDR"

inductive DurationSetting where
  | readinessTimeout
  | pollInterval
deriving DecidableEq, Repr

def DurationSetting.var : DurationSetting → String
  | .readinessTimeout => "INTERNAL_SERVER_WAIT_ENABLE_HEALTH_CHECK_DURATION"
  | .pollInterval => "INTERNAL_SERVER_HEALTH_CHECK_POLL_INTERVAL"

inductive ConfigError where
  /-- A duration variable is set to a text that does not read as a duration. -/
  | invalidDuration (setting : DurationSetting) (value : String)
  /-- The poll interval is zero. -/
  | zeroDuration (setting : DurationSetting)
  /-- A duration is longer than `Duration.signedMax`. -/
  | durationOutOfRange (setting : DurationSetting)
  /-- The listen address is blank. -/
  | emptyListenAddress
deriving DecidableEq, Repr

def ConfigError.message : ConfigError → String
  | .invalidDuration s v => "Invalid duration for " ++ s.var ++ ": " ++ Text.quote v
  | .zeroDuration s => s.var ++ " must be greater than zero"
  | .durationOutOfRange s =>
    s.var ++ " exceeds the maximum duration of " ++ Duration.signedMax.text
  | .emptyListenAddress => listenAddressVar ++ " must not be empty"

structure ServerConfig where
  listenAddress : String
  readinessTimeout : Duration
  readinessPollInterval : Duration
deriving DecidableEq

/-- A lookup of environment variables: the value of a set variable. -/
abbrev Lookup := String → Option String

namespace ServerConfig

/-- All interfaces on port 28080, one minute to enable readiness, a poll every 15 seconds. -/
def default : ServerConfig where
  listenAddress := ":28080"
  readinessTimeout := Duration.ofSecs 60
  readinessPollInterval := Duration.ofSecs 15

def duration (c : ServerConfig) : DurationSetting → Duration
  | .readinessTimeout => c.readinessTimeout
  | .pollInterval => c.readinessPollInterval

/-- Checks a configuration the watcher must be able to run with. -/
def validate (c : ServerConfig) : Except ConfigError Unit :=
  if Text.isBlankText c.listenAddress then .error .emptyListenAddress
  else if c.readinessPollInterval = Duration.zero then .error (.zeroDuration .pollInterval)
  else if Duration.signedMax < c.readinessTimeout then
    .error (.durationOutOfRange .readinessTimeout)
  else if Duration.signedMax < c.readinessPollInterval then
    .error (.durationOutOfRange .pollInterval)
  else .ok ()

/-- A duration setting read from the environment: none when unset. -/
def durationVar (env : Lookup) (s : DurationSetting) : Except ConfigError (Option Duration) :=
  match env s.var with
  | none => .ok none
  | some v =>
    match Duration.parse? v with
    | some d => .ok (some d)
    | none => .error (.invalidDuration s v)

/-- Reads a configuration from the environment; unset variables keep their defaults. -/
def ofLookup (env : Lookup) : Except ConfigError ServerConfig := do
  let address ←
    match env listenAddressVar with
    | some v => if Text.isBlankText v then .error .emptyListenAddress else pure (Text.trim v)
    | none => pure default.listenAddress
  let timeout ← durationVar env .readinessTimeout
  let poll ← durationVar env .pollInterval
  let c : ServerConfig :=
    { listenAddress := address
      readinessTimeout := timeout.getD default.readinessTimeout
      readinessPollInterval := poll.getD default.readinessPollInterval }
  c.validate
  pure c

end ServerConfig

def serviceNameVar : String := "OTEL_SERVICE_NAME"

def serviceVersionVar : String := "OTEL_SERVICE_VERSION"

/-- Every environment variable that the configuration and the service identity read. -/
def environmentVars : List String :=
  [listenAddressVar, DurationSetting.readinessTimeout.var, DurationSetting.pollInterval.var,
    serviceNameVar, serviceVersionVar]

/-- Who the service is: reported on the index endpoint and in `target_info`. -/
structure ServiceInfo where
  name : String
  version : String
deriving DecidableEq

/-- Reads the service identity; a missing or blank value falls back to `unknown-service` or
`unknown-version`, and any other value is kept as it is. -/
def ServiceInfo.ofLookup (env : Lookup) : ServiceInfo :=
  let present (var : String) : Option String :=
    (env var).filter (fun v => !Text.isBlankText v)
  { name := (present serviceNameVar).getD "unknown-service"
    version := (present serviceVersionVar).getD "unknown-version" }

end Sidecar
