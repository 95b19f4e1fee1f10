import Sidecar.Server.Lifecycle
/-! The demo command. It reads its settings and its service identity from the environment, makes
a metrics registry with a counter for its checks and builds the server on that registry,
registers two passing checks, starts, and declares the application ready after half a second of
warm-up. Once termination is asked it stops the server. -/
namespace Sidecar.Demo

/-- The simulated start-up work before the application declares itself ready. -/
def warmup : Nat := 500 * 1000000

def checksRunCounter : String := "demo_health_checks_total"

def checkNames : List String := ["database", "cache"]

/-- The demo up to the application's readiness: the running server and the lines it logs, or
the error it ends with. -/
def startUp (env : Lookup) : Except String (Server × List String) := do
  let config ← (ServerConfig.ofLookup env).mapError ConfigError.message
  let service := ServiceInfo.ofLookup env
  let metrics ← (Metrics.Registry.create service .standard).mapError Metrics.MetricsError.message
  let (metrics, made) :=
    metrics.register .counter checksRunCounter "Health checks evaluated by the demo" ["check"]
  made.mapError Metrics.MetricsError.message
  let s ← (({ service, config } : Server.Builder).buildWith (some metrics)).mapError
    Server.ServerError.message
  let s := checkNames.foldl (fun s n => s.registerCheck n .passing) s
  let (s, started) := s.start
  started.mapError Server.ServerError.message
  let listening := match s.boundAddress with
    | some a => "Telemetry endpoints available at " ++ a.text
    | none => "Telemetry endpoints available"
  pure ((s.wait warmup).enableReadiness,
    ["Starting telemetry sidecar demo: " ++ service.name ++ " " ++ service.version, listening,
      "Application ready"])

/-- Stops the server once termination is asked: the line the demo logs, or the error it ends
with. -/
def shutDown (s : Server) : Except String String :=
  match s.stop.2 with
  | .ok () => .ok "Telemetry sidecar demo shut down gracefully"
  | .error e => .error ("Error during shutdown: " ++ e.message)

end Sidecar.Demo

/-- Runs the demo. The end of standard input asks for termination, in place of the signals this
runtime does not catch. -/
def main : IO UInt32 := do
  let mut pairs : List (String × String) := []
  for name in Sidecar.environmentVars do
    if let some v ← IO.getEnv name then
      pairs := pairs ++ [(name, v)]
  let env : Sidecar.Lookup := fun name => (pairs.find? (·.1 == name)).map (·.2)
  match Sidecar.Demo.startUp env with
  | .error e =>
    IO.eprintln e
    pure 1
  | .ok (s, lines) =>
    for line in lines do
      IO.println line
    let stdin ← IO.getStdin
    repeat
      let line ← stdin.getLine
      if line.isEmpty then break
    match Sidecar.Demo.shutDown s with
    | .ok line =>
      IO.println line
      pure 0
    | .error e =>
      IO.eprintln e
      pure 1
