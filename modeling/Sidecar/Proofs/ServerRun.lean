import Sidecar.Server.Lifecycle
import Sidecar.Proofs.Watcher

/-!
# Runs of a telemetry server

A run is any sequence of calls on one server: starts on any address, stops, readiness calls,
evaluations, and time passing, in which the watcher ticks. The lifecycle mutex serializes
starts and stops, and a tick holds the stop channel's read guard while it escalates, so each
call and each tick takes effect at one instant and a run is a fold of `call`. A stop wakes the
watcher's task, which may take a due tick before its stop branch; that tick reads the raised
signal.

Proved here, for every run of a freshly built server:

* `coherent_runCalls`: the listener and the watcher agree with the lifecycle (`Coherent`);
* `start_stop_lifecycle`: what start and stop do in each lifecycle state, and that the lifecycle
  only moves `notStarted → running` on a start whose bind succeeded and `running → stopped` on
  a stop, so `stopped` is terminal.
-/

namespace Sidecar.Server

open Readiness

/-- A call on a telemetry server. `start()` is `startAt` of the configured address, which no
call changes. -/
inductive Call where
  | startAt (address : String)
  | stop
  | enableReadiness
  | registerCheck (name : String) (p : Probe)
  | evaluate
  /-- Time passes: the watcher ticks. -/
  | wait (d : Nat)

def call (s : Server) : Call → Server
  | .startAt a => (s.startAt a).1
  | .stop => s.stop.1
  | .enableReadiness => s.enableReadiness
  | .registerCheck n p => s.registerCheck n p
  | .evaluate => s.evaluate.1
  | .wait d => s.wait d

def runCalls (s : Server) (cs : List Call) : Server := cs.foldl call s

/-- A server as built: not started, nothing bound or serving, nothing escalated, readiness not
enabled. -/
structure Fresh (s : Server) : Prop where
  notStarted : s.phase = .notStarted
  unbound : s.listener.bound = none
  idle : s.listener.serving = false
  quiet : s.listener.running = false
  noEscalation : s.escalations = []
  disabled : s.gate.enabled = false

def watchSettings (c : ServerConfig) : WatchSettings := ⟨c.readinessTimeout, c.readinessPollInterval⟩

variable {s : Server} {w : Watcher}

/-! ## Runs -/

@[simp] theorem runCalls_nil (s : Server) : s.runCalls [] = s := rfl

@[simp] theorem runCalls_cons (s : Server) (c : Call) (cs : List Call) :
    s.runCalls (c :: cs) = (s.call c).runCalls cs := rfl

theorem runCalls_append (s : Server) (cs ds : List Call) :
    s.runCalls (cs ++ ds) = (s.runCalls cs).runCalls ds := List.foldl_append

theorem runCalls_concat (s : Server) (cs : List Call) (c : Call) :
    s.runCalls (cs ++ [c]) = (s.runCalls cs).call c := by
  rw [runCalls_append]
  rfl

/-- What holds of the start and is kept by every call holds all along a run. -/
theorem runCalls_induction (P : Server → Prop) (step : ∀ s c, P s → P (s.call c)) :
    ∀ (cs : List Call) {s : Server}, P s → P (s.runCalls cs)
  | [], _, h => h
  | c :: cs, s, h => runCalls_induction P step cs (step s c h)

theorem Builder.fresh_of_buildWith {b : Builder} {given : Option Metrics.Registry}
    (h : b.buildWith given = .ok s) : s.Fresh := by
  unfold Builder.buildWith at h
  split at h
  · cases h
  · dsimp only at h
    split at h
    · cases h
    · cases h
      exact ⟨rfl, rfl, rfl, rfl, rfl, rfl⟩

theorem Builder.fresh_of_build {b : Builder} (h : b.build = .ok s) : s.Fresh :=
  fresh_of_buildWith h

/-! ## The listener -/

namespace Listener

variable {l : Listener}

/-- Address normalization refuses only with an invalid address. -/
theorem normalizeAddress_error {a : String} {e : ServerError} (h : normalizeAddress a = .error e) :
    ∃ t, e = .invalidAddress t := by
  simp only [normalizeAddress] at h
  split at h
  · cases h; exact ⟨_, rfl⟩
  · split at h
    · cases h; exact ⟨_, rfl⟩
    · split at h
      · cases h
      · split at h
        · cases h; exact ⟨_, rfl⟩
        · cases h

/-- A listener that serves nothing and has no address either binds and serves, or is refused
with an invalid address or a bind failure and keeps its state. -/
theorem start_of_unbound (hs : l.serving = false) (hb : l.bound = none) (net : Network)
    (a : String) :
    (∃ addr, l.start net a = ({ l with bound := some addr, serving := true, running := true }, .ok addr)) ∨
      ∃ e, l.start net a = (l, .error e) ∧
        ((∃ t, e = .invalidAddress t) ∨ ∃ target r, e = .bind target r) := by
  obtain ⟨dt, bound, serving, running⟩ := l
  simp only at hs hb
  subst hs hb
  unfold start
  cases hn : normalizeAddress a with
  | error e => exact .inr ⟨e, rfl, .inl (normalizeAddress_error hn)⟩
  | ok target =>
    cases hbind : net.bind target with
    | error e =>
      exact .inr ⟨.bind target e.message, by simp only [hbind], .inr ⟨target, e.message, rfl⟩⟩
    | ok addr => exact .inl ⟨addr, by simp only [hbind]⟩

end Listener

/-! ## One call -/

theorem startAt_of_running (h : s.phase = .running w) (a : String) :
    s.startAt a = (s, .ok ()) := by
  simp [startAt, h]

theorem startAt_of_stopped (h : s.phase = .stopped w) (a : String) :
    s.startAt a = (s, .error .stopped) := by
  simp [startAt, h]

theorem startAt_of_bound (h : s.phase = .notStarted) {a : String} {l : Listener}
    {addr : Net.SocketAddress} (hl : s.listener.start s.network a = (l, .ok addr)) :
    s.startAt a =
      ({ s with listener := l, phase := .running (Watcher.spawn (watchSettings s.config) s.clock) },
        .ok ()) := by
  simp [startAt, h, hl, watchSettings]

theorem startAt_of_refused (h : s.phase = .notStarted) {a : String} {l : Listener}
    {e : ServerError} (hl : s.listener.start s.network a = (l, .error e)) :
    s.startAt a = ({ s with listener := l }, .error e) := by
  simp [startAt, h, hl]

theorem stopWatcher_eq (s : Server) (w : Watcher) :
    s.stopWatcher w =
      { s with phase := .stopped (w.stop.1.wake s.listener.running s.gate.enabled s.clock).1,
               escalations := s.escalations ++
                 (w.stop.1.wake s.listener.running s.gate.enabled s.clock).2.toList } := rfl

/-- Stopping a watcher whose handle is kept escalates nothing: its task wakes to a raised
signal, whichever branch its select takes. -/
theorem escalations_stopWatcher (hd : w.channel.handleDropped = false) :
    (s.stopWatcher w).escalations = s.escalations := by
  simp [stopWatcher_eq, Watcher.wake_quiet (Watcher.stop_raises hd)]

theorem stop_of_running (h : s.phase = .running w) :
    s.stop =
      ({ s.stopWatcher w with
          listener := (s.listener.shutdownDraining s.network.drainTime).1
          metrics := s.metrics.shutdown }, (s.listener.shutdownDraining s.network.drainTime).2) := by
  simp only [stop, h]

theorem stop_of_not_running (h : ∀ w, s.phase ≠ .running w) : s.stop = (s, .ok ()) := by
  unfold stop
  split
  · next w hw => exact absurd hw (h w)
  · rfl

theorem wait_of_running (h : s.phase = .running w) (d : Nat) :
    s.wait d =
      { s with
          phase := .running (w.run s.listener.running s.gate.enabled s.clock (s.clock + d)).1
          clock := s.clock + d
          escalations := s.escalations ++
            (w.run s.listener.running s.gate.enabled s.clock (s.clock + d)).2.toList } := by
  simp [wait, h]

theorem wait_of_not_running (h : ∀ w, s.phase ≠ .running w) (d : Nat) :
    s.wait d = { s with clock := s.clock + d } := by
  unfold wait
  split
  · next w hw => exact absurd hw (h w)
  · rfl

/-- A start changes only the listener and the phase. -/
theorem startAt_frame (s : Server) (a : String) :
    ∃ l p, (s.startAt a).1 = { s with listener := l, phase := p } := by
  unfold startAt
  split
  · exact ⟨s.listener, s.phase, rfl⟩
  · exact ⟨s.listener, s.phase, rfl⟩
  · split
    · exact ⟨_, _, rfl⟩
    · exact ⟨_, _, rfl⟩

/-- A stop changes only the phase, the listener, the metrics and the escalations. -/
theorem stop_frame (s : Server) :
    ∃ p l m e, s.stop.1 = { s with phase := p, listener := l, metrics := m, escalations := e } := by
  unfold stop
  split
  · exact ⟨_, _, _, _, rfl⟩
  · exact ⟨s.phase, s.listener, s.metrics, s.escalations, rfl⟩

/-- Time passing changes only the phase, the clock and the escalations. -/
theorem wait_frame (s : Server) (d : Nat) :
    ∃ p e, s.wait d = { s with phase := p, clock := s.clock + d, escalations := e } := by
  unfold wait
  split
  · exact ⟨_, _, rfl⟩
  · exact ⟨s.phase, s.escalations, rfl⟩

@[simp] theorem config_call (s : Server) (c : Call) : (s.call c).config = s.config := by
  cases c with
  | startAt a =>
    obtain ⟨l, p, h⟩ := startAt_frame s a
    simp only [call, h]
  | stop =>
    obtain ⟨p, l, m, e, h⟩ := stop_frame s
    simp only [call, h]
  | wait d =>
    obtain ⟨p, e, h⟩ := wait_frame s d
    simp only [call, h]
  | _ => rfl

@[simp] theorem config_runCalls (s : Server) (cs : List Call) :
    (s.runCalls cs).config = s.config := by
  induction cs generalizing s with
  | nil => rfl
  | cons c cs ih => rw [runCalls_cons, ih, config_call]

@[simp] theorem network_call (s : Server) (c : Call) : (s.call c).network = s.network := by
  cases c with
  | startAt a =>
    obtain ⟨l, p, h⟩ := startAt_frame s a
    simp only [call, h]
  | stop =>
    obtain ⟨p, l, m, e, h⟩ := stop_frame s
    simp only [call, h]
  | wait d =>
    obtain ⟨p, e, h⟩ := wait_frame s d
    simp only [call, h]
  | _ => rfl

@[simp] theorem network_runCalls (s : Server) (cs : List Call) :
    (s.runCalls cs).network = s.network := by
  induction cs generalizing s with
  | nil => rfl
  | cons c cs ih => rw [runCalls_cons, ih, network_call]

/-! ## How the lifecycle moves -/

theorem lifecycle_eq_notStarted : s.lifecycle = .notStarted ↔ s.phase = .notStarted := by
  unfold lifecycle
  split <;> simp_all

theorem lifecycle_eq_running : s.lifecycle = .running ↔ ∃ w, s.phase = .running w := by
  unfold lifecycle
  split <;> simp_all

theorem lifecycle_eq_stopped : s.lifecycle = .stopped ↔ ∃ w, s.phase = .stopped w := by
  unfold lifecycle
  split <;> simp_all

/-- From `notStarted`, a call either leaves the server not started, or is a start whose
listener bound, and the server runs a watcher spawned at that instant. -/
theorem phase_call_of_notStarted (h : s.phase = .notStarted) (c : Call) :
    (s.call c).phase = .notStarted ∨
      ∃ a l addr, c = .startAt a ∧ s.listener.start s.network a = (l, .ok addr) ∧
        (s.call c).phase = .running (Watcher.spawn (watchSettings s.config) s.clock) := by
  cases c with
  | startAt a =>
    rcases hl : s.listener.start s.network a with ⟨l, e | addr⟩
    · left
      simp only [call, startAt_of_refused h hl]
      exact h
    · exact .inr ⟨a, l, addr, rfl, hl, by simp only [call, startAt_of_bound h hl]⟩
  | stop =>
    have hn : ∀ w, s.phase ≠ .running w := by simp [h]
    left
    simp only [call, stop_of_not_running hn]
    exact h
  | wait d =>
    have hn : ∀ w, s.phase ≠ .running w := by simp [h]
    left
    simp only [call, wait_of_not_running hn]
    exact h
  | enableReadiness | registerCheck | evaluate => exact .inl h

theorem phase_stop_of_running (h : s.phase = .running w) :
    (s.call .stop).phase = .stopped (w.stop.1.wake s.listener.running s.gate.enabled s.clock).1 := by
  simp only [call, stop_of_running h, stopWatcher_eq]

/-- From `running`, a call keeps the server running with the same watcher, or is time passing,
in which the watcher runs, or is a stop, which stops the watcher and wakes its task. -/
theorem phase_call_of_running (h : s.phase = .running w) (c : Call) :
    (s.call c).phase = .running w ∨
      (∃ d, c = .wait d ∧
        (s.call c).phase = .running (w.run s.listener.running s.gate.enabled s.clock (s.clock + d)).1) ∨
      (c = .stop ∧
        (s.call c).phase = .stopped (w.stop.1.wake s.listener.running s.gate.enabled s.clock).1) := by
  cases c with
  | startAt a =>
    left
    simp only [call, startAt_of_running h]
    exact h
  | stop => exact .inr (.inr ⟨rfl, phase_stop_of_running h⟩)
  | wait d => exact .inr (.inl ⟨d, rfl, by simp only [call, wait_of_running h]⟩)
  | enableReadiness | registerCheck | evaluate => exact .inl h

theorem phase_call_of_stopped (h : s.phase = .stopped w) (c : Call) :
    (s.call c).phase = .stopped w := by
  cases c with
  | startAt a =>
    simp only [call, startAt_of_stopped h]
    exact h
  | stop =>
    have hn : ∀ w, s.phase ≠ .running w := by simp [h]
    simp only [call, stop_of_not_running hn]
    exact h
  | wait d =>
    have hn : ∀ w, s.phase ≠ .running w := by simp [h]
    simp only [call, wait_of_not_running hn]
    exact h
  | enableReadiness | registerCheck | evaluate => exact h

theorem phase_runCalls_of_stopped (h : s.phase = .stopped w) (cs : List Call) :
    (s.runCalls cs).phase = .stopped w :=
  runCalls_induction (fun s => s.phase = .stopped w) (fun _ c h => phase_call_of_stopped h c) cs h

/-! ## The readiness gate -/

def Call.onGate : Call → Gate → Gate
  | .enableReadiness, g => g.enable
  | .registerCheck n p, g => g.register n p
  | _, g => g

theorem gate_call (s : Server) (c : Call) : (s.call c).gate = c.onGate s.gate := by
  cases c with
  | startAt a =>
    obtain ⟨l, p, h⟩ := startAt_frame s a
    simp only [call, Call.onGate, h]
  | stop =>
    obtain ⟨p, l, m, e, h⟩ := stop_frame s
    simp only [call, Call.onGate, h]
  | wait d =>
    obtain ⟨p, e, h⟩ := wait_frame s d
    simp only [call, Call.onGate, h]
  | enableReadiness | registerCheck | evaluate => rfl

/-- Readiness, once enabled, stays enabled. -/
theorem enabled_runCalls (h : s.gate.enabled = true) (cs : List Call) :
    (s.runCalls cs).gate.enabled = true := by
  refine runCalls_induction (fun s => s.gate.enabled = true) (fun s c hs => ?_) cs h
  rw [gate_call]
  cases c <;> simp [Call.onGate, Gate.enable, Gate.register, hs]

theorem enabled_runCalls_of_mem {cs : List Call} (h : .enableReadiness ∈ cs) (s : Server) :
    (s.runCalls cs).gate.enabled = true := by
  induction cs generalizing s with
  | nil => cases h
  | cons c cs ih =>
    rw [runCalls_cons]
    rcases List.mem_cons.1 h with rfl | hmem
    · exact enabled_runCalls rfl cs
    · exact ih hmem _

/-! ## The listener and the watcher agree with the lifecycle -/

/-- Before the first successful start nothing is bound or serving; a running server serves a
bound address and its watcher's stop signal is neither raised nor dropped; a stopped server
serves nothing and has raised it. -/
def Coherent (p : Phase) (l : Listener) : Prop :=
  match p with
  | .notStarted => l.bound = none ∧ l.serving = false ∧ l.running = false
  | .running w =>
    l.serving = true ∧ l.running = true ∧ l.bound.isSome ∧ w.channel.stopped = false ∧
      w.channel.handleDropped = false
  | .stopped w => l.serving = false ∧ l.running = false ∧ w.channel.stopped = true

theorem Fresh.coherent (h : s.Fresh) : Coherent s.phase s.listener := by
  rw [h.notStarted]
  exact ⟨h.unbound, h.idle, h.quiet⟩

theorem coherent_call (h : Coherent s.phase s.listener) (c : Call) :
    Coherent (s.call c).phase (s.call c).listener := by
  cases c with
  | enableReadiness | registerCheck | evaluate =>
    exact h
  | startAt a =>
    match hp : s.phase with
    | .notStarted =>
      rw [hp] at h
      obtain ⟨hb, hs, hr⟩ := h
      rcases Listener.start_of_unbound hs hb s.network a with ⟨addr, hl⟩ | ⟨e, hl, -⟩
      · simp [call, startAt_of_bound hp hl, Coherent, Watcher.spawn]
      · simp only [call, startAt_of_refused hp hl, hp]
        exact ⟨hb, hs, hr⟩
    | .running w =>
      simp only [call, startAt_of_running hp a]
      exact h
    | .stopped w =>
      simp only [call, startAt_of_stopped hp a]
      exact h
  | stop =>
    by_cases hrun : ∃ w, s.phase = .running w
    · obtain ⟨w, hp⟩ := hrun
      rw [hp] at h
      obtain ⟨hs, -, -, -, hd⟩ := h
      simp [call, stop_of_running hp, stopWatcher_eq, Coherent,
        Listener.shutdownDraining_of_serving hs, Watcher.wake_stop_stopped hd]
    · simp only [call, stop_of_not_running (not_exists.1 hrun)]
      exact h
  | wait d =>
    by_cases hrun : ∃ w, s.phase = .running w
    · obtain ⟨w, hp⟩ := hrun
      rw [hp] at h
      obtain ⟨hs, hr, hb, hc, hd⟩ := h
      have hl := @Watcher.later_run s.listener.running s.gate.enabled w s.clock (s.clock + d)
      simp only [call, wait_of_running hp, Coherent]
      exact ⟨hs, hr, hb, hl.channel ▸ hc, hl.channel ▸ hd⟩
    · simp only [call, wait_of_not_running (not_exists.1 hrun)]
      exact h

/-- Every run of a fresh server keeps its listener and watcher coherent with its lifecycle. -/
theorem coherent_runCalls (h : s.Fresh) (cs : List Call) :
    Coherent (s.runCalls cs).phase (s.runCalls cs).listener :=
  runCalls_induction (fun s => Coherent s.phase s.listener) (fun _ c h => coherent_call h c) cs
    h.coherent

/-! ## What start and stop do -/

/-- What start and stop do from a server state `s`, and how one call moves its lifecycle. -/
structure StartStopRules (s : Server) : Prop where
  /-- Before the first successful start nothing is bound or serving. A start on any address
  either binds, after which the server runs and serves the bound address, or is refused with an
  invalid address or a bind failure and changes nothing; the listener decides which. -/
  notStarted : s.lifecycle = .notStarted → s.boundAddress = none ∧ s.isRunning = false ∧
    ∀ a, (∃ addr, (s.listener.start s.network a).2 = .ok addr ∧ (s.startAt a).2 = .ok () ∧
        (s.startAt a).1.lifecycle = .running ∧ (s.startAt a).1.boundAddress = some addr ∧
        (s.startAt a).1.isRunning = true) ∨
      ∃ e, (s.listener.start s.network a).2 = .error e ∧ s.startAt a = (s, .error e) ∧
        ((∃ t, e = .invalidAddress t) ∨ ∃ target r, e = .bind target r)
  /-- A start while running succeeds on any address and changes nothing: there is one bind. -/
  startRunning : s.lifecycle = .running → ∀ a, s.startAt a = (s, .ok ())
  /-- A start once stopped is refused on any address and changes nothing. -/
  startStopped : s.lifecycle = .stopped → ∀ a, s.startAt a = (s, .error .stopped)
  /-- A stop while not running succeeds and changes nothing: the metrics stay up. -/
  stopIdle : s.lifecycle ≠ .running → s.stop = (s, .ok ())
  /-- A stop while running delivers the watcher's stop signal and ends the watcher, with nothing
  escalated; it drains the listener, which then serves nothing, and shuts the metrics down
  whether or not the drain timed out. It answers the drain timeout exactly when the serve task
  outlasts it, and succeeds otherwise. -/
  stopRunning : ∀ w, s.phase = .running w →
    w.stop.2 = true ∧
      (∃ w' o, s.stop.1.phase = .stopped w' ∧ w'.phase = .done o ∧ w'.channel.stopped = true) ∧
      s.stop.1.escalations = s.escalations ∧ s.stop.1.isRunning = false ∧
      s.stop.1.metrics = s.metrics.shutdown ∧
      (s.stop.2 = .error (.drainTimeout s.listener.drainTimeout) ↔
        s.listener.drainTimeout.toNanos < s.network.drainTime) ∧
      (s.network.drainTime ≤ s.listener.drainTimeout.toNanos → s.stop.2 = .ok ())
  /-- A call moves the lifecycle only from `notStarted` to `running`, by a start whose listener
  bound, or from `running` to `stopped`, by a stop; so `stopped` is terminal. -/
  moves : ∀ c, (s.call c).lifecycle = s.lifecycle ∨
    (s.lifecycle = .notStarted ∧ (s.call c).lifecycle = .running ∧
      ∃ a addr, c = .startAt a ∧ (s.listener.start s.network a).2 = .ok addr) ∨
    (s.lifecycle = .running ∧ (s.call c).lifecycle = .stopped ∧ c = .stop)

theorem startStopRules_of_coherent (h : Coherent s.phase s.listener) : StartStopRules s where
  notStarted hl := by
    have hp := lifecycle_eq_notStarted.1 hl
    rw [hp] at h
    obtain ⟨hb, hs, hr⟩ := h
    refine ⟨hb, hr, fun a => ?_⟩
    rcases Listener.start_of_unbound hs hb s.network a with ⟨addr, hst⟩ | ⟨e, hst, he⟩
    · have hs' := startAt_of_bound hp hst
      refine .inl ⟨addr, by rw [hst], ?_, ?_, ?_, ?_⟩ <;>
        simp [hs', lifecycle, boundAddress, isRunning]
    · exact .inr ⟨e, by rw [hst], by rw [startAt_of_refused hp hst], he⟩
  startRunning hl a := by
    obtain ⟨w, hp⟩ := lifecycle_eq_running.1 hl
    exact startAt_of_running hp a
  startStopped hl a := by
    obtain ⟨w, hp⟩ := lifecycle_eq_stopped.1 hl
    exact startAt_of_stopped hp a
  stopIdle hl := stop_of_not_running fun w hp => hl (lifecycle_eq_running.2 ⟨w, hp⟩)
  stopRunning w hp := by
    rw [hp] at h
    obtain ⟨hs, -, -, hc, hd⟩ := h
    obtain ⟨o, ho⟩ := @Watcher.wake_phase s.listener.running s.gate.enabled w.stop.1 s.clock
    rw [stop_of_running hp]
    exact ⟨(Watcher.stop_delivered hc hd).1, ⟨_, o, rfl, ho, Watcher.wake_stop_stopped hd _⟩,
      escalations_stopWatcher hd, by simp [isRunning, Listener.shutdownDraining_of_serving hs], rfl,
      Listener.shutdownDraining_timeout_iff hs _, Listener.shutdownDraining_ok⟩
  moves c := by
    match hp : s.phase with
    | .notStarted =>
      rcases phase_call_of_notStarted hp c with hp' | ⟨a, l, addr, rfl, hst, hp'⟩
      · exact .inl (by simp [lifecycle, hp, hp'])
      · exact .inr (.inl ⟨by simp [lifecycle, hp], by simp [lifecycle, hp'], a, addr, rfl,
          by rw [hst]⟩)
    | .running w =>
      rcases phase_call_of_running hp c with hp' | ⟨d, -, hp'⟩ | ⟨rfl, hp'⟩
      · exact .inl (by simp [lifecycle, hp, hp'])
      · exact .inl (by simp [lifecycle, hp, hp'])
      · exact .inr (.inr ⟨by simp [lifecycle, hp], by simp [lifecycle, hp'], rfl⟩)
    | .stopped w => exact .inl (by simp [lifecycle, hp, phase_call_of_stopped hp c])

/-- Every state a run of a fresh server reaches follows the start and stop rules. -/
theorem start_stop_lifecycle {s0 : Server} (h0 : s0.Fresh) (cs : List Call) :
    StartStopRules (s0.runCalls cs) :=
  startStopRules_of_coherent (coherent_runCalls h0 cs)

theorem start_stop_lifecycle_checkout :
    let s0 : Server :=
      { config := .default, service := ⟨"checkout", "1.2.3"⟩,
        metrics := { service := ⟨"checkout", "1.2.3"⟩, config := .standard }, listener := {} }
    s0.Fresh ∧ StartStopRules (s0.runCalls [.startAt "127.0.0.1:0", .wait 1000, .stop]) :=
  have h0 : Fresh _ := ⟨rfl, rfl, rfl, rfl, rfl, rfl⟩
  ⟨h0, start_stop_lifecycle h0 _⟩

/-- A drain of six seconds outlasts the default five: the stop answers the drain timeout and
still shuts the metrics down. -/
example :
    let s : Server :=
      ({ config := .default, service := ⟨"checkout", "1.2.3"⟩,
         metrics := { service := ⟨"checkout", "1.2.3"⟩, config := .standard }, listener := {},
         network := { drainTime := 6000000000 } } : Server).runCalls [.startAt "127.0.0.1:0"]
    s.stop.2 = .error (.drainTimeout (Duration.ofSecs 5)) ∧ s.stop.1.metrics.closed = true :=
  ⟨rfl, rfl⟩

end Sidecar.Server
