import Sidecar.Proofs.ServerRun
import Sidecar.Metrics.Exposition

/-!
# Stops given up at an await

A stop marks the server stopped and tells its watcher to stop before its first await, drains the
listener, and shuts the metrics down only once the drain is over. A caller that bounds a stop,
for instance with a timeout, may give it up at any of its awaits (`Server.stopAbandoned`). The
server is then stopped for good, since stopped is terminal, while its metrics stay up: every
later stop finds it stopped and does nothing.

Proved here, for every run of a built server in which calls and stops given up at any await
interleave (`runMoves`):

* `abandoned_stop_rules`: a stopped server has delivered its watcher's stop, and its metrics
  answer `shutDown` exactly when a stop that found it running ran to its end; so a stop given
  up after its first await leaves it stopped with its metrics up whatever follows;
* `abandoned_drain_leaves_metrics_open`: a built server that is started, then stopped by a stop
  given up during the drain, then stopped again, is stopped while its metrics still render.
-/

namespace Sidecar.Server

open Readiness

/-- A call on a server, or a stop given up at one of its awaits. -/
inductive Move where
  | call (c : Call)
  | abandonStop (p : StopAwait)

def move (s : Server) : Move → Server
  | .call c => s.call c
  | .abandonStop p => s.stopAbandoned p

def runMoves (s : Server) (ms : List Move) : Server := ms.foldl move s

variable {s : Server} {w : Watcher}

/-! ## Runs -/

@[simp] theorem runMoves_nil (s : Server) : s.runMoves [] = s := rfl

@[simp] theorem runMoves_cons (s : Server) (m : Move) (ms : List Move) :
    s.runMoves (m :: ms) = (s.move m).runMoves ms := rfl

theorem runMoves_append (s : Server) (ms ns : List Move) :
    s.runMoves (ms ++ ns) = (s.runMoves ms).runMoves ns := List.foldl_append

/-- What holds of the start and is kept by every move holds all along a run. -/
theorem runMoves_induction (P : Server → Prop) (step : ∀ s m, P s → P (s.move m)) :
    ∀ (ms : List Move) {s : Server}, P s → P (s.runMoves ms)
  | [], _, h => h
  | m :: ms, s, h => runMoves_induction P step ms (step s m h)

/-! ## What one move does -/

theorem stopAbandoned_of_not_running (h : ∀ w, s.phase ≠ .running w) (p : StopAwait) :
    s.stopAbandoned p = s := by
  cases hp : s.phase with
  | running w => exact absurd hp (h w)
  | notStarted | stopped => cases p <;> simp [stopAbandoned, hp]

/-- A stop given up once past the lifecycle lock has marked the server stopped and stopped its
watcher. -/
theorem phase_stopAbandoned_of_running (h : s.phase = .running w) {p : StopAwait}
    (hp : p ≠ .lifecycleLock) :
    (s.stopAbandoned p).phase =
      .stopped (w.stop.1.wake s.listener.running s.gate.enabled s.clock).1 := by
  cases p with
  | lifecycleLock => exact absurd rfl hp
  | listenerLock => simp [stopAbandoned, h, stopWatcher_eq]
  | drain =>
    by_cases hs : s.listener.serving = true
    · simp [stopAbandoned, h, hs, stopWatcher_eq]
    · simp only [stopAbandoned, h, hs]
      simp [stop_of_running h, stopWatcher_eq]

/-- A stop given up while the listener serves has not reached the metrics. -/
theorem metrics_stopAbandoned (h : s.listener.serving = true) (p : StopAwait) :
    (s.stopAbandoned p).metrics = s.metrics := by
  cases p with
  | lifecycleLock => rfl
  | listenerLock =>
    simp only [stopAbandoned]
    split <;> rfl
  | drain =>
    simp only [stopAbandoned, h, if_true]
    split <;> rfl

theorem metrics_call_stop_of_running (h : s.lifecycle = .running) :
    (s.call .stop).metrics = s.metrics.shutdown := by
  obtain ⟨w, hp⟩ := lifecycle_eq_running.1 h
  simp only [call, stop_of_running hp]

/-- Only a stop that finds the server running touches its metrics. -/
theorem metrics_call_of_not_stop {c : Call} (h : ¬(c = .stop ∧ s.lifecycle = .running)) :
    (s.call c).metrics = s.metrics := by
  cases c with
  | startAt a =>
    obtain ⟨l, p, hs⟩ := startAt_frame s a
    simp only [call, hs]
  | stop =>
    have hn : ∀ w, s.phase ≠ .running w := fun w hp => h ⟨rfl, lifecycle_eq_running.2 ⟨w, hp⟩⟩
    simp only [call, stop_of_not_running hn]
  | wait d =>
    obtain ⟨p, e, hs⟩ := wait_frame s d
    simp only [call, hs]
  | enableReadiness | registerCheck | evaluate => rfl

theorem phase_move_of_stopped (h : s.phase = .stopped w) (m : Move) :
    (s.move m).phase = .stopped w := by
  cases m with
  | call c => exact phase_call_of_stopped h c
  | abandonStop p =>
    have hn : ∀ w, s.phase ≠ .running w := by simp [h]
    simp only [move, stopAbandoned_of_not_running hn]
    exact h

theorem lifecycle_runMoves_of_stopped (h : s.lifecycle = .stopped) (ms : List Move) :
    (s.runMoves ms).lifecycle = .stopped := by
  obtain ⟨w, hp⟩ := lifecycle_eq_stopped.1 h
  refine lifecycle_eq_stopped.2 ⟨w, ?_⟩
  exact runMoves_induction (fun s => s.phase = .stopped w) (fun _ m h => phase_move_of_stopped h m)
    ms hp

/-! ## What every run keeps -/

/-- Before the first start and while running, the listener and the watcher agree with the
lifecycle and the metrics are up; once stopped, the watcher's stop has been delivered. Unlike
`Coherent`, a stopped server may still serve: a stop given up before the drain leaves the
listener as it was. -/
def Sound (s : Server) : Prop :=
  match s.phase with
  | .notStarted => Coherent .notStarted s.listener ∧ s.metrics.closed = false
  | .running w => Coherent (.running w) s.listener ∧ s.metrics.closed = false
  | .stopped w => w.channel.stopped = true

theorem Sound.of_coherent (hc : Coherent s.phase s.listener)
    (hm : s.lifecycle = .stopped ∨ s.metrics.closed = false) : s.Sound := by
  unfold Sound
  split
  · next hp => exact ⟨hp ▸ hc, hm.resolve_left (by simp [lifecycle, hp])⟩
  · next hp => exact ⟨hp ▸ hc, hm.resolve_left (by simp [lifecycle, hp])⟩
  · next hp =>
    rw [hp] at hc
    exact hc.2.2

theorem Sound.coherent (h : s.Sound) (hl : s.lifecycle ≠ .stopped) :
    Coherent s.phase s.listener ∧ s.metrics.closed = false := by
  unfold Sound at h
  split at h
  · next hp => exact hp ▸ h
  · next hp => exact hp ▸ h
  · next w hp => exact absurd (lifecycle_eq_stopped.2 ⟨w, hp⟩) hl

theorem Sound.delivered (h : s.Sound) (hp : s.phase = .stopped w) : w.channel.stopped = true := by
  unfold Sound at h
  rw [hp] at h
  exact h

/-- A running server serves, so a stop given up on it has not reached the metrics. -/
theorem Sound.metrics_stopAbandoned (h : s.Sound) (p : StopAwait) :
    (s.stopAbandoned p).metrics = s.metrics := by
  by_cases hrun : ∃ w, s.phase = .running w
  · obtain ⟨w, hp⟩ := hrun
    have hc := (h.coherent (by simp [lifecycle, hp])).1
    rw [hp] at hc
    exact Server.metrics_stopAbandoned hc.1 p
  · rw [stopAbandoned_of_not_running (not_exists.1 hrun)]

theorem Fresh.sound (h : s.Fresh) (hm : s.metrics.closed = false) : s.Sound :=
  Sound.of_coherent h.coherent (.inr hm)

theorem sound_call (h : s.Sound) (c : Call) : (s.call c).Sound := by
  by_cases hl : s.lifecycle = .stopped
  · obtain ⟨w, hp⟩ := lifecycle_eq_stopped.1 hl
    have hp' := phase_call_of_stopped hp c
    unfold Sound
    rw [hp']
    exact h.delivered hp
  · obtain ⟨hc, hm⟩ := h.coherent hl
    refine Sound.of_coherent (coherent_call hc c) ?_
    by_cases hstop : c = .stop ∧ s.lifecycle = .running
    · obtain ⟨rfl, hrun⟩ := hstop
      obtain ⟨w, hp⟩ := lifecycle_eq_running.1 hrun
      exact .inl (lifecycle_eq_stopped.2 ⟨_, phase_stop_of_running hp⟩)
    · exact .inr (by rw [metrics_call_of_not_stop hstop, hm])

theorem sound_stopAbandoned (h : s.Sound) (p : StopAwait) : (s.stopAbandoned p).Sound := by
  by_cases hrun : ∃ w, s.phase = .running w ∧ p ≠ .lifecycleLock
  · obtain ⟨w, hp, hpl⟩ := hrun
    have hc := (h.coherent (by simp [lifecycle, hp])).1
    rw [hp] at hc
    obtain ⟨-, -, -, -, hdropped⟩ := hc
    unfold Sound
    rw [phase_stopAbandoned_of_running hp hpl]
    show (w.stop.1.wake s.listener.running s.gate.enabled s.clock).1.channel.stopped = true
    exact Watcher.wake_stop_stopped hdropped _
  · have hsame : s.stopAbandoned p = s := by
      by_cases hp : p = .lifecycleLock
      · rw [hp]
        rfl
      · exact stopAbandoned_of_not_running (fun w hw => hrun ⟨w, hw, hp⟩) p
    rw [hsame]
    exact h

theorem sound_move (h : s.Sound) : ∀ m : Move, (s.move m).Sound
  | .call c => sound_call h c
  | .abandonStop p => sound_stopAbandoned h p

/-! ## When the metrics are shut down -/

theorem exposition_eq_shutDown_iff (r : Metrics.Registry) :
    r.exposition = .error .shutDown ↔ r.closed = true := by
  unfold Metrics.Registry.exposition
  cases r.closed <;> simp

/-- Along a sound run, a move shuts the metrics down only as a stop that finds the server running
and runs to its end, and metrics once shut down stay so. -/
theorem closed_move (h : s.Sound) (m : Move) :
    (s.move m).metrics.closed = true ↔
      s.metrics.closed = true ∨ m = .call .stop ∧ s.lifecycle = .running := by
  cases m with
  | call c =>
    by_cases hstop : c = .stop ∧ s.lifecycle = .running
    · obtain ⟨rfl, hrun⟩ := hstop
      simp [move, metrics_call_stop_of_running hrun, Metrics.Registry.shutdown, hrun]
    · have hne : ¬(Move.call c = .call .stop ∧ s.lifecycle = .running) := by
        rintro ⟨hc, hrun⟩
        exact hstop ⟨Move.call.inj hc, hrun⟩
      simp only [move, metrics_call_of_not_stop hstop, hne, or_false]
  | abandonStop p =>
    simp [move, h.metrics_stopAbandoned p]

theorem closed_runMoves (h : s.Sound) (ms : List Move) :
    (s.runMoves ms).metrics.closed = true ↔
      s.metrics.closed = true ∨
        ∃ pre post, ms = pre ++ .call .stop :: post ∧ (s.runMoves pre).lifecycle = .running := by
  induction ms generalizing s with
  | nil => simp
  | cons m ms ih =>
    rw [runMoves_cons, ih (sound_move h m), closed_move h m]
    constructor
    · rintro ((hc | ⟨rfl, hrun⟩) | ⟨pre, post, rfl, hrun⟩)
      · exact .inl hc
      · exact .inr ⟨[], ms, rfl, hrun⟩
      · exact .inr ⟨m :: pre, post, rfl, hrun⟩
    · rintro (hc | ⟨pre, post, hms, hrun⟩)
      · exact .inl (.inl hc)
      · cases pre with
        | nil =>
          obtain ⟨rfl, rfl⟩ := List.cons.inj hms
          exact .inl (.inr ⟨rfl, hrun⟩)
        | cons m' pre =>
          obtain ⟨rfl, rfl⟩ := List.cons.inj hms
          exact .inr ⟨pre, post, rfl, hrun⟩

/-- A stopped server's metrics never shut down: no stop can find it running any more. -/
theorem closed_runMoves_of_stopped (h : s.Sound) (hl : s.lifecycle = .stopped) (ms : List Move) :
    (s.runMoves ms).metrics.closed = s.metrics.closed := by
  have hnone : ¬∃ pre post, ms = pre ++ .call .stop :: post ∧
      (s.runMoves pre).lifecycle = .running := by
    rintro ⟨pre, -, -, hrun⟩
    rw [lifecycle_runMoves_of_stopped hl pre] at hrun
    cases hrun
  rw [Bool.eq_iff_iff, closed_runMoves h ms]
  exact or_iff_left hnone

/-! ## Every run of a built server -/

theorem Builder.metrics_open_of_build {b : Builder} (h : b.build = .ok s) :
    s.metrics.closed = false := by
  unfold Builder.build Builder.buildWith at h
  split at h
  · cases h
  · dsimp only at h
    split at h
    · cases h
    · next metrics hm =>
      cases h
      unfold Metrics.Registry.create at hm
      split at hm
      · cases hm
      · split at hm
        · cases hm
        · cases hm
          rfl

/-- What every run of a server does when any of its stops may be given up at an await. -/
structure AbandonedStopRules (s0 : Server) : Prop where
  /-- A stopped server has delivered its watcher's stop, however its stop ended. -/
  watcherStopped : ∀ ms w, (s0.runMoves ms).phase = .stopped w → w.channel.stopped = true
  /-- Stopped is terminal. -/
  terminal : ∀ pre post, (s0.runMoves pre).lifecycle = .stopped →
    (s0.runMoves (pre ++ post)).lifecycle = .stopped
  /-- The metrics answer `shutDown` exactly when a stop that found the server running ran to its
  end. -/
  shutDown : ∀ ms, (s0.runMoves ms).metrics.exposition = .error .shutDown ↔
    ∃ pre post, ms = pre ++ .call .stop :: post ∧ (s0.runMoves pre).lifecycle = .running
  /-- A stop given up after its first await leaves the server stopped and its metrics up,
  whatever follows. -/
  abandoned : ∀ pre p post, p ≠ .lifecycleLock → (s0.runMoves pre).lifecycle = .running →
    (s0.runMoves (pre ++ .abandonStop p :: post)).lifecycle = .stopped ∧
      (s0.runMoves (pre ++ .abandonStop p :: post)).metrics.exposition ≠ .error .shutDown

theorem abandoned_stop_rules {b : Builder} {s0 : Server} (h : b.build = .ok s0) :
    AbandonedStopRules s0 := by
  have hm := Builder.metrics_open_of_build h
  have h0 : s0.Sound := (Builder.fresh_of_build h).sound hm
  have hsound : ∀ ms, (s0.runMoves ms).Sound := fun ms => runMoves_induction Sound
    (fun _ m hs => sound_move hs m) ms h0
  refine ⟨fun ms w hp => (hsound ms).delivered hp, ?_, ?_, ?_⟩
  · intro pre post hl
    rw [runMoves_append]
    exact lifecycle_runMoves_of_stopped hl post
  · intro ms
    rw [exposition_eq_shutDown_iff, closed_runMoves h0, hm]
    simp
  · intro pre p post hp hrun
    obtain ⟨w, hw⟩ := lifecycle_eq_running.1 hrun
    let s1 := (s0.runMoves pre).stopAbandoned p
    have hl1 : s1.lifecycle = .stopped :=
      lifecycle_eq_stopped.2 ⟨_, phase_stopAbandoned_of_running hw hp⟩
    have hm1 : s1.metrics.closed = false := by
      rw [(hsound pre).metrics_stopAbandoned p]
      exact ((hsound pre).coherent (by rw [hrun]; decide)).2
    have hrun1 : s0.runMoves (pre ++ .abandonStop p :: post) = s1.runMoves post := by
      rw [runMoves_append, runMoves_cons]
      rfl
    refine hrun1 ▸ ⟨lifecycle_runMoves_of_stopped hl1 post, ?_⟩
    rw [Ne, exposition_eq_shutDown_iff,
      closed_runMoves_of_stopped (sound_stopAbandoned (hsound pre) p) hl1 post, hm1]
    decide

theorem abandoned_stop_rules_checkout :
    ∃ s0, ({ service := ⟨"checkout", "1.2.3"⟩ } : Builder).build = .ok s0 ∧
      AbandonedStopRules s0 := by
  obtain ⟨s0, hb⟩ : ∃ s0, ({ service := ⟨"checkout", "1.2.3"⟩ } : Builder).build = .ok s0 :=
    ⟨_, rfl⟩
  exact ⟨s0, hb, abandoned_stop_rules hb⟩

/-- A built server, started, then stopped by a stop given up during the drain, then stopped once
more: it is stopped for good, and its metrics still render. -/
theorem abandoned_drain_leaves_metrics_open :
    ∃ s0, ({ service := ⟨"checkout", "1.2.3"⟩ } : Builder).build = .ok s0 ∧
      let s := s0.runMoves [.call (.startAt "127.0.0.1:0"), .abandonStop .drain, .call .stop]
      s.lifecycle = .stopped ∧ s.metrics.exposition ≠ .error .shutDown := by
  refine ⟨_, rfl, ?_, ?_⟩
  · decide +kernel
  · rw [Ne, exposition_eq_shutDown_iff]
    decide +kernel

end Sidecar.Server
