import Sidecar.Server.Listener
/-! # Runs of a listener

A listener is started on addresses and shut down, one call at a time: its serving lock
serializes the calls, and the serve task ends only once it is told to, so between calls the
listener's state changes only through them. How long a shutdown waits is up to the serve task:
each shutdown comes with the time the task takes to drain.

Three fields are written at different points of a start and a shutdown: the bound address, the
serve task and the serve loop's running flag. Between calls they agree (`Coherent`): a serve task
serves a bound address, and the loop runs exactly while a serve task is present. So a start while
serving always finds an address to give back, and its fall-through to a second bind is never
taken. From that, every state a run reaches follows the start and shutdown rules
(`listener_rules`). -/
namespace Sidecar.Server.Listener

variable {l : Listener} {net : Network} {address target : String} {a : Net.SocketAddress}

/-! ## One call -/

theorem start_of_serving (hs : l.serving = true) (hb : l.bound = some a) :
    l.start net address = (l, .ok a) := by
  simp [start, hs, hb]

theorem start_of_invalid {e : ServerError} (hs : l.serving = false)
    (he : normalizeAddress address = .error e) : l.start net address = (l, .error e) := by
  simp [start, hs, he]

theorem start_of_bind_error {b : Net.BindError} (hs : l.serving = false)
    (hn : normalizeAddress address = .ok target) (hb : net.bind target = .error b) :
    l.start net address = ({ l with bound := none }, .error (.bind target b.message)) := by
  simp [start, hs, hn, hb]

theorem start_of_bind (hs : l.serving = false) (hn : normalizeAddress address = .ok target)
    (hb : net.bind target = .ok a) :
    l.start net address = ({ l with bound := some a, serving := true, running := true }, .ok a) := by
  simp [start, hs, hn, hb]

/-! ## Runs -/

/-- A call on a listener: a start on an address, over the network the host offers at that
moment, or a shutdown whose serve task takes `drain` nanoseconds to end. -/
inductive Call where
  | start (net : Network) (address : String)
  | shutdown (drain : Nat)

def call (l : Listener) : Call → Listener
  | .start net address => (l.start net address).1
  | .shutdown drain => (l.shutdownDraining drain).1

def runCalls (l : Listener) (cs : List Call) : Listener := cs.foldl call l

/-- What holds of the start and is kept by every call holds all along a run. -/
theorem runCalls_induction (P : Listener → Prop) (step : ∀ l c, P l → P (l.call c)) :
    ∀ (cs : List Call) {l : Listener}, P l → P (l.runCalls cs)
  | [], _, h => h
  | c :: cs, l, h => runCalls_induction P step cs (step l c h)

/-- Between calls a serve task serves a bound address, and the serve loop runs exactly while a
serve task is present. -/
structure Coherent (l : Listener) : Prop where
  bound : l.serving = true → l.bound.isSome
  running : l.running = l.serving

/-- A new listener, with any drain timeout, has nothing bound and nothing serving. -/
theorem coherent_new (drainTimeout : Duration) : Coherent { drainTimeout } :=
  ⟨nofun, rfl⟩

theorem coherent_start (h : Coherent l) (net : Network) (address : String) :
    Coherent (l.start net address).1 := by
  cases hs : l.serving with
  | true =>
    obtain ⟨a, hb⟩ := Option.isSome_iff_exists.1 (h.bound hs)
    rw [start_of_serving hs hb]
    exact h
  | false =>
    cases hn : normalizeAddress address with
    | error e =>
      rw [start_of_invalid hs hn]
      exact h
    | ok target =>
      cases hb : net.bind target with
      | error b =>
        rw [start_of_bind_error hs hn hb]
        exact ⟨fun hs' => absurd hs' (by simp [hs]), h.running⟩
      | ok a =>
        rw [start_of_bind hs hn hb]
        exact ⟨fun _ => rfl, rfl⟩

theorem coherent_shutdownDraining (h : Coherent l) (drain : Nat) :
    Coherent (l.shutdownDraining drain).1 := by
  cases hs : l.serving with
  | true =>
    rw [shutdownDraining_of_serving hs]
    exact ⟨nofun, rfl⟩
  | false =>
    rw [shutdownDraining_of_idle hs]
    exact h

theorem coherent_call (h : Coherent l) : ∀ c, Coherent (l.call c)
  | .start net address => coherent_start h net address
  | .shutdown drain => coherent_shutdownDraining h drain

theorem coherent_runCalls (h : Coherent l) (cs : List Call) : Coherent (l.runCalls cs) :=
  runCalls_induction Coherent (fun _ c h => coherent_call h c) cs h

/-! ## What start and shutdown do -/

/-- What start and shutdown do from a listener state `l`. -/
structure ListenerRules (l : Listener) : Prop where
  /-- A serve task serves a bound address: a start while serving never falls through to bind
  again. -/
  boundWhileServing : l.serving = true → l.bound.isSome
  /-- The serve loop runs exactly while a serve task is present. -/
  runningIffServing : l.running = true ↔ l.serving = true
  /-- A start while serving, on any address, gives the bound address back and changes nothing. -/
  startServing : l.serving = true → ∃ a, l.bound = some a ∧ ∀ net address,
    l.start net address = (l, .ok a)
  /-- A start on an address that normalization refuses changes nothing; when not serving it
  fails with normalization's error. -/
  startInvalid : ∀ net address e, normalizeAddress address = .error e →
    (l.start net address).1 = l ∧ (l.serving = false → (l.start net address).2 = .error e)
  /-- A start whose bind fails leaves no address bound and nothing serving. -/
  startBindError : ∀ net address target b, l.serving = false →
    normalizeAddress address = .ok target → net.bind target = .error b →
    (l.start net address).1.bound = none ∧ (l.start net address).1.serving = false ∧
      (l.start net address).1.running = false ∧
      (l.start net address).2 = .error (.bind target b.message)
  /-- A shutdown while not serving succeeds and changes nothing. -/
  shutdownIdle : l.serving = false → ∀ drain, l.shutdownDraining drain = (l, .ok ())
  /-- A shutdown while serving leaves nothing serving and the loop stopped. It reports the drain
  timeout exactly when the serve task outlasts it, and succeeds otherwise; a start after it
  binds afresh. -/
  shutdownServing : l.serving = true → ∀ drain,
    (l.shutdownDraining drain).1.serving = false ∧ (l.shutdownDraining drain).1.running = false ∧
      ((l.shutdownDraining drain).2 = .error (.drainTimeout l.drainTimeout) ↔
        l.drainTimeout.toNanos < drain) ∧
      (drain ≤ l.drainTimeout.toNanos → (l.shutdownDraining drain).2 = .ok ()) ∧
      ∀ net address target a, normalizeAddress address = .ok target → net.bind target = .ok a →
        ((l.shutdownDraining drain).1.start net address).2 = .ok a ∧
          ((l.shutdownDraining drain).1.start net address).1.bound = some a

theorem listenerRules_of_coherent (h : Coherent l) : ListenerRules l where
  boundWhileServing := h.bound
  runningIffServing := by rw [h.running]
  startServing hs := by
    obtain ⟨a, hb⟩ := Option.isSome_iff_exists.1 (h.bound hs)
    exact ⟨a, hb, fun _ _ => start_of_serving hs hb⟩
  startInvalid net address e he := by
    cases hs : l.serving with
    | true =>
      obtain ⟨a, hb⟩ := Option.isSome_iff_exists.1 (h.bound hs)
      rw [start_of_serving hs hb]
      exact ⟨rfl, nofun⟩
    | false =>
      rw [start_of_invalid hs he]
      exact ⟨rfl, fun _ => rfl⟩
  startBindError net address target b hs hn hb := by
    rw [start_of_bind_error hs hn hb]
    exact ⟨rfl, hs, h.running.trans hs, rfl⟩
  shutdownIdle hs := shutdownDraining_of_idle hs
  shutdownServing hs drain := by
    refine ⟨?_, ?_, shutdownDraining_timeout_iff hs drain, fun hd => shutdownDraining_ok hd,
      fun net address target a hn hb => ?_⟩
    · rw [shutdownDraining_of_serving hs]
    · rw [shutdownDraining_of_serving hs]
    · rw [shutdownDraining_of_serving hs, start_of_bind rfl hn hb]
      exact ⟨rfl, rfl⟩

/-- Every state a run of a new listener reaches, whatever its drain timeout and whatever starts
and shutdowns it went through, follows the start and shutdown rules. -/
theorem listener_rules (drainTimeout : Duration) (cs : List Call) :
    ListenerRules (({ drainTimeout } : Listener).runCalls cs) :=
  listenerRules_of_coherent (coherent_runCalls (coherent_new drainTimeout) cs)

end Sidecar.Server.Listener
