import Sidecar.Escalation
import Sidecar.Readiness.StopChannel
/-! The readiness watcher: after the server starts, it checks at every tick whether the
application has enabled readiness, and escalates once if the deadline passes first.

Instants are nanoseconds on a monotonic clock. A watcher spawned at instant `s` has the deadline
`s + timeout` when that instant is representable (below `2^63` seconds) and none otherwise.
Its task starts ticking when it first runs, at some instant `r > s`, since the spawn returns
before the task runs: the first tick is at `r + p` and each later one `p` after the previous
tick fired, where `p` is the poll interval
clamped into `[1 ms, 24 h]`. A tick that fires late, because the runtime was blocked, does not
make up for the ticks it missed.

At a tick the watcher reads, in this order: whether the listener still serves (if not, it stops),
whether the gate is enabled (it is satisfied), and whether the tick is strictly later than the
deadline (it escalates the readiness timeout, unless its stop signal is raised). A stop raises
the signal and returns without waiting for the task. The task, woken by the signal, takes the stop
branch of its select; when a tick is due as well the select may take the tick first, and that
tick reads the raised signal. -/
namespace Sidecar.Readiness

inductive WatchOutcome where
  | satisfied
  | stopped
  | escalated
deriving DecidableEq

structure WatchSettings where
  timeout : Duration
  pollInterval : Duration

def minPollInterval : Duration := Duration.ofMillis 1

def maxPollInterval : Duration := Duration.ofSecs (24 * 60 * 60)

/-- The tick period in nanoseconds: the poll interval clamped into `[1 ms, 24 h]`. -/
def WatchSettings.period (s : WatchSettings) : Nat :=
  (s.pollInterval.clamp minPollInterval maxPollInterval).toNanos

/-- Instants are representable below `2^63` seconds. -/
def instantLimit : Nat := Nat.pow 2 63 * nanosPerSec

/-- The deadline of a watcher spawned at `spawn`, if representable. -/
def deadlineFrom (spawn : Nat) (timeout : Duration) : Option Nat :=
  if spawn + timeout.toNanos < instantLimit then some (spawn + timeout.toNanos) else none

inductive WatchPhase where
  /-- Spawned; its task has not run yet. -/
  | idle
  /-- Polling, with the instant of the next tick. -/
  | polling (nextTick : Nat)
  | done (outcome : WatchOutcome)
deriving DecidableEq

structure Watcher where
  timeout : Duration
  /-- The instant of the spawn. -/
  spawnedAt : Nat
  /-- The tick period in nanoseconds. -/
  period : Nat
  period_pos : 0 < period
  deadline : Option Nat
  channel : StopChannel := {}
  phase : WatchPhase := .idle

/-- The clamped period is at least one millisecond. -/
theorem WatchSettings.period_pos (s : WatchSettings) : 0 < s.period := by
  unfold WatchSettings.period Duration.clamp
  have hlo : minPollInterval.toNanos = 1000000 := rfl
  have hhi : maxPollInterval.toNanos = 86400000000000 := rfl
  split
  · rw [hlo]; omega
  · rename_i h1
    split
    · rw [hhi]; omega
    · have : ¬ s.pollInterval.toNanos < minPollInterval.toNanos := h1
      omega

namespace Watcher

def spawn (s : WatchSettings) (now : Nat) : Watcher :=
  { timeout := s.timeout, spawnedAt := now, period := s.period, period_pos := s.period_pos,
    deadline := deadlineFrom now s.timeout }

def outcome? (w : Watcher) : Option WatchOutcome :=
  match w.phase with
  | .done o => some o
  | _ => none

def overdue (w : Watcher) (t : Nat) : Bool :=
  match w.deadline with
  | some d => d < t
  | none => false

/-- What a tick at instant `t` decides from what it reads: none while it keeps polling. -/
def verdict (w : Watcher) (serving enabled : Bool) (t : Nat) : Option WatchOutcome :=
  if !serving then some .stopped
  else if enabled then some .satisfied
  else if w.overdue t then
    match w.channel.unlessStopped (fun _ => ()) with
    | some () => some .escalated
    | none => some .stopped
  else none

/-- One tick at instant `t` of a polling watcher, with the failure it escalates. -/
def tick (w : Watcher) (serving enabled : Bool) (t : Nat) : Watcher × Option FatalError :=
  match w.verdict serving enabled t with
  | some .escalated => ({ w with phase := .done .escalated }, some (.readinessTimeout w.timeout))
  | some o => ({ w with phase := .done o }, none)
  | none => ({ w with phase := .polling (t + w.period) }, none)

/-- Raises the stop signal; reports whether this call delivered it. The task is not waited for. -/
def stop (w : Watcher) : Watcher × Bool :=
  let r := w.channel.stop?.getD (w.channel, false)
  ({ w with channel := r.1 }, r.2)

/-- The task takes the stop branch of its select: a watcher that has not ended ends stopped. -/
def halt (w : Watcher) : Watcher :=
  match w.phase with
  | .done _ => w
  | _ => { w with phase := .done .stopped }

/-- The task woken at instant `t` by its raised stop signal. A tick due by then may win the
select; it runs at `t`, and the stop branch follows. -/
def wake (w : Watcher) (serving enabled : Bool) (t : Nat) : Watcher × Option FatalError :=
  match w.phase with
  | .polling n =>
    if n ≤ t then
      let r := w.tick serving enabled t
      (r.1.halt, r.2)
    else (w.halt, none)
  | _ => (w.halt, none)

/-- Lets the task tick from the instant the runtime gives it, `start`, while the listener's
serving flag and the gate's flag stay as given, through every tick before `stop`. A polling task
whose tick is overdue ticks at `start`; an idle task starts its ticker at `start`, or one
nanosecond after the spawn if that is later. -/
def run (w : Watcher) (serving enabled : Bool) (start stop : Nat) : Watcher × Option FatalError :=
  match w.phase with
  | .done _ => (w, none)
  | .idle =>
    let first := max start (w.spawnedAt + 1) + w.period
    ticks { w with phase := .polling first } first
  | .polling n => ticks w (max n start)
where
  /-- Ticks from instant `t` on, through every tick before `stop`. -/
  ticks (w : Watcher) (t : Nat) : Watcher × Option FatalError :=
    if _h : t < stop then
      match w.tick serving enabled t with
      | (w', some f) => (w', some f)
      | (w', none) =>
        match w'.phase with
        | .polling _ =>
          have := w.period_pos
          ticks w' (t + w.period)
        | _ => (w', none)
    else (w, none)
  termination_by stop - t
  decreasing_by omega

end Watcher

end Sidecar.Readiness
