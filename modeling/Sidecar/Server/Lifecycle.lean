import Sidecar.Server.Listener
import Sidecar.Readiness.Gate
import Sidecar.Readiness.Watcher
import Sidecar.Metrics.Registry
import Sidecar.Http.Router
/-! The telemetry server: readiness gate, readiness watcher, listener and metrics together.

```
NotStarted ──start──▶ Running ──stop──▶ Stopped
```

A successful start binds the listener and spawns the watcher; a failed one leaves the server
not started, so a later start can still succeed. Starting while running does nothing, whatever
the address; starting once stopped is refused. Stopping a running server stops the watcher
first, then drains the listener and shuts the metrics down, also when the drain times out, and
answers what the drain answered; stopping in any other state does nothing. The watcher's task
wakes while the listener still serves, and a tick it takes then reads the raised signal. Stopped is terminal. A caller may give a stop up at
one of its awaits (`stopAbandoned`); the server is stopped by then, but its metrics are shut
down only by a stop that runs to its end.

The server keeps a clock in nanoseconds. Waiting lets the watcher tick; a readiness evaluation
holds the clock's thread while its checks run, so no tick fires during it and an overdue tick
fires when the server next waits. What the watcher escalates is kept in order. -/
namespace Sidecar.Server

inductive Lifecycle where
  | notStarted
  | running
  | stopped
deriving DecidableEq

/-- The lifecycle state with the watcher of a running server, and its stopped watcher once the
server has stopped. -/
inductive Phase where
  | notStarted
  | running (watcher : Readiness.Watcher)
  | stopped (watcher : Readiness.Watcher)

end Sidecar.Server

namespace Sidecar

structure Server where
  config : ServerConfig
  service : ServiceInfo
  gate : Readiness.Gate := {}
  metrics : Metrics.Registry
  listener : Server.Listener
  network : Server.Network := {}
  phase : Server.Phase := .notStarted
  /-- The current instant, in nanoseconds. -/
  clock : Nat := 0
  /-- The failures escalated so far, oldest first. -/
  escalations : List FatalError := []

namespace Server

structure Builder where
  service : ServiceInfo
  config : ServerConfig := ServerConfig.default
  drainTimeout : Option Duration := none

/-- Validates the configuration, then builds a server on the metrics registry given, or on a
fresh one with the standard buckets. -/
def Builder.buildWith (b : Builder) (given : Option Metrics.Registry) : Except ServerError Server :=
  match b.config.validate with
  | .error e => .error (.config e)
  | .ok () =>
    let made : Except Metrics.MetricsError Metrics.Registry := match given with
      | some m => .ok m
      | none => Metrics.Registry.create b.service Metrics.BucketConfig.standard
    match made with
    | .error e => .error (.metrics e)
    | .ok metrics =>
      .ok { config := b.config, service := b.service, metrics,
            listener := { drainTimeout := b.drainTimeout.getD defaultDrainTimeout } }

def Builder.build (b : Builder) : Except ServerError Server := b.buildWith none

/-- Builds a server from the environment: its configuration, then the service identity. -/
def ofLookup (env : Lookup) : Except ServerError Server :=
  match ServerConfig.ofLookup env with
  | .error e => .error (.config e)
  | .ok c => ({ service := ServiceInfo.ofLookup env, config := c } : Builder).build

def lifecycle (s : Server) : Lifecycle :=
  match s.phase with
  | .notStarted => .notStarted
  | .running _ => .running
  | .stopped _ => .stopped

def isRunning (s : Server) : Bool := s.listener.running

/-- The address of the last successful bind. -/
def boundAddress (s : Server) : Option Net.SocketAddress := s.listener.bound

def readinessEnabled (s : Server) : Bool := s.gate.enabled

/-- Starts serving on an address, spawning the watcher at the current instant. -/
def startAt (s : Server) (address : String) : Server × Except ServerError Unit :=
  match s.phase with
  | .running _ => (s, .ok ())
  | .stopped _ => (s, .error .stopped)
  | .notStarted =>
    match s.listener.start s.network address with
    | (l, .error e) => ({ s with listener := l }, .error e)
    | (l, .ok _) =>
      let w := Readiness.Watcher.spawn ⟨s.config.readinessTimeout, s.config.readinessPollInterval⟩ s.clock
      ({ s with listener := l, phase := .running w }, .ok ())

def start (s : Server) : Server × Except ServerError Unit :=
  s.startAt s.config.listenAddress

/-- Marks the server stopped and stops its watcher `w`. The watcher's task wakes while the
listener still serves; when it has a tick due, the tick is taken first, the order in which only
the raised signal keeps it from escalating. -/
def stopWatcher (s : Server) (w : Readiness.Watcher) : Server :=
  let r := w.stop.1.wake s.listener.running s.gate.enabled s.clock
  { s with phase := .stopped r.1, escalations := s.escalations ++ r.2.toList }

/-- Stops serving: the watcher, then the listener, then the metrics, which are shut down even
when the drain times out; it answers what the drain answered. -/
def stop (s : Server) : Server × Except ServerError Unit :=
  match s.phase with
  | .running w =>
    let (l, drained) := s.listener.shutdownDraining s.network.drainTime
    ({ s.stopWatcher w with listener := l, metrics := s.metrics.shutdown }, drained)
  | _ => (s, .ok ())

/-- Where a stop waits, and so where a caller that gives up on it, for instance through a
timeout, leaves it. -/
inductive StopAwait where
  /-- Waiting for the lifecycle lock: nothing is done yet. -/
  | lifecycleLock
  /-- The server is marked stopped and its watcher told to stop; waiting for the listener's
  lock. -/
  | listenerLock
  /-- The listener's serve task has been told to shut down, and ends by itself; waiting for the
  drain. -/
  | drain

/-- A stop given up at one of its awaits: what it did before the await stays done, and the rest,
the metrics' shutdown included, never happens. A listener that serves nothing does not make the
stop wait for a drain. -/
def stopAbandoned (s : Server) : StopAwait → Server
  | .lifecycleLock => s
  | .listenerLock =>
    match s.phase with
    | .running w => s.stopWatcher w
    | _ => s
  | .drain =>
    match s.phase with
    | .running w =>
      if s.listener.serving then
        { s.stopWatcher w with listener := (s.listener.shutdownDraining s.network.drainTime).1 }
      else s.stop.1
    | _ => s

/-- Waits `d` nanoseconds, letting the watcher tick. -/
def wait (s : Server) (d : Nat) : Server :=
  let now := s.clock + d
  match s.phase with
  | .running w =>
    let (w', f) := w.run s.listener.running s.gate.enabled s.clock now
    { s with phase := .running w', clock := now, escalations := s.escalations ++ f.toList }
  | _ => { s with clock := now }

/-- Holds the clock's thread for `d` nanoseconds: no tick fires meanwhile. -/
def hold (s : Server) (d : Nat) : Server := { s with clock := s.clock + d }

def registerCheck (s : Server) (name : String) (p : Readiness.Probe) : Server :=
  { s with gate := s.gate.register name p }

def enableReadiness (s : Server) : Server := { s with gate := s.gate.enable }

/-- Evaluates readiness; the checks hold the clock's thread while they run. -/
def evaluate (s : Server) : Server × Readiness.Evaluation :=
  let e := s.gate.evaluate
  (s.hold e.elapsed, e)

/-- A GET from a client on this host to the bound port; none when no port has been bound. No
connection from this host reaches the listener, so the client gets no response. -/
def get? (s : Server) (_path : String) : Option (Except String Http.Response) :=
  s.listener.bound.map fun _ => .error "no response"

/-- Starts a GET, waits `d` nanoseconds, then stops the server; none when no port has been
bound. -/
def stopDuringRequest? (s : Server) (path : String) (d : Nat) :
    Option (Server × Except ServerError Unit × Except String Http.Response) := do
  let r ← s.get? path
  let (s', stopped) := (s.wait d).stop
  pure (s', stopped, r)

end Server

end Sidecar
