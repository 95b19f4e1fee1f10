import Sidecar.Server.Address
import Sidecar.Net.Host
/-! The listener: binds a socket, serves in the background, drains on shutdown.

Starting while serving gives the bound address back without binding again. A start refused by
address normalization changes nothing; a bind that fails leaves no address bound. Shutting down
while not serving does nothing; shutting down while serving waits for the serve task to drain,
and a task still running at the drain timeout is aborted and the timeout reported.

Binding and draining are up to the operating system and the clients (`Network`): how an address
binds, and how long the requests in flight keep the serve task. On the host the service runs on
here (`Stack`), a normalized address is read as a strict socket address first; failing that, the
host before the last colon is looked up and the address found taken with the port after it, and
the host then decides whether the address can be bound (`Net.Host.admits`). -/
namespace Sidecar.Server

open Net

def defaultDrainTimeout : Duration := Duration.ofSecs 5

/-- A host's network stack: its resolver, the addresses it lets a socket bind, and the port it
gives for port zero. -/
structure Stack where
  resolver : Resolver := {}
  host : Host := {}
  ephemeralPort : Nat := 40000

def Stack.resolve (n : Stack) (address : String) : Except BindError SocketAddress :=
  match SocketAddress.parse? address with
  | some a => .ok a
  | none =>
    match splitLastColon address.toList with
    | none => .error .invalidSocketAddress
    | some (host, port) =>
      match portValue? port with
      | none => .error .invalidPortValue
      | some p =>
        match n.resolver.lookup (String.ofList host) with
        | .error e => .error (.lookup e)
        | .ok ip => .ok { ip, port := p }

/-- Binds a normalized address; port zero is given a free port. -/
def Stack.bind (n : Stack) (address : String) : Except BindError SocketAddress := do
  let a ← n.resolve address
  n.host.admits a.ip a.scope
  pure (if a.port = 0 then { a with port := n.ephemeralPort } else a)

/-- What the operating system and the clients decide: how a normalized address binds, and how
many nanoseconds the serve task takes to end once told to shut down, which is as long as the
requests in flight take. The defaults are the host's stack, with no request in flight, since no
connection from this host reaches the listener. -/
structure Network where
  bind : String → Except BindError SocketAddress := ({} : Stack).bind
  drainTime : Nat := 0

structure Listener where
  drainTimeout : Duration := defaultDrainTimeout
  /-- The address of the last successful bind. -/
  bound : Option SocketAddress := none
  /-- Whether a serve task is present. -/
  serving : Bool := false
  /-- Whether the serve loop is active. -/
  running : Bool := false

namespace Listener

/-- Binds an address and starts serving; gives the bound address. -/
def start (l : Listener) (net : Network) (address : String) :
    Listener × Except ServerError SocketAddress :=
  match l.serving, l.bound with
  | true, some a => (l, .ok a)
  | _, _ =>
    match normalizeAddress address with
    | .error e => (l, .error e)
    | .ok target =>
      match net.bind target with
      | .error e => ({ l with bound := none }, .error (.bind target e.message))
      | .ok a => ({ l with bound := some a, serving := true, running := true }, .ok a)

/-- Stops serving when the serve task, once told to shut down, takes `drain` nanoseconds to end:
a task still running at the drain timeout is aborted and the timeout is reported. -/
def shutdownDraining (l : Listener) (drain : Nat) : Listener × Except ServerError Unit :=
  if l.serving then
    ({ l with serving := false, running := false },
      if drain ≤ l.drainTimeout.toNanos then .ok () else .error (.drainTimeout l.drainTimeout))
  else (l, .ok ())

theorem shutdownDraining_of_idle {l : Listener} (hs : l.serving = false) (drain : Nat) :
    l.shutdownDraining drain = (l, .ok ()) := by
  simp [shutdownDraining, hs]

theorem shutdownDraining_of_serving {l : Listener} (hs : l.serving = true) (drain : Nat) :
    l.shutdownDraining drain =
      ({ l with serving := false, running := false },
        if drain ≤ l.drainTimeout.toNanos then .ok () else .error (.drainTimeout l.drainTimeout)) := by
  simp [shutdownDraining, hs]

/-- A serve task that ends within the drain timeout makes the shutdown succeed. -/
theorem shutdownDraining_ok {l : Listener} {drain : Nat} (hd : drain ≤ l.drainTimeout.toNanos) :
    (l.shutdownDraining drain).2 = .ok () := by
  cases hs : l.serving with
  | true =>
    rw [shutdownDraining_of_serving hs]
    exact if_pos hd
  | false => rw [shutdownDraining_of_idle hs]

/-- A shutdown while serving reports the drain timeout exactly when the serve task outlasts it. -/
theorem shutdownDraining_timeout_iff {l : Listener} (hs : l.serving = true) (drain : Nat) :
    (l.shutdownDraining drain).2 = .error (.drainTimeout l.drainTimeout) ↔
      l.drainTimeout.toNanos < drain := by
  rw [shutdownDraining_of_serving hs]
  by_cases hd : drain ≤ l.drainTimeout.toNanos
  · rw [if_pos hd]
    exact ⟨(fun h => by cases h), fun hlt => absurd hd (Nat.not_le.2 hlt)⟩
  · rw [if_neg hd]
    exact ⟨fun _ => Nat.not_le.1 hd, fun _ => rfl⟩

end Listener

end Sidecar.Server
