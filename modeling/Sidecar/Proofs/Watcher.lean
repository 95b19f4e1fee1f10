import Sidecar.Readiness.Watcher

/-! What a watcher's ticks can do. A tick changes nothing but the phase, so a watcher keeps its
timeout, spawn instant, period, deadline and stop channel for its whole life (`Later`). A
watcher escalates only at a tick that reads a serving listener and a disabled gate, while its
stop signal is not raised, at an instant strictly past a deadline it has; it then ends
`escalated`, and a watcher that has ended never ticks again. A stop only raises the signal; the
task it wakes ends, and escalates nothing even when a due tick runs first (`wake_quiet`). -/

namespace Sidecar.Readiness.Watcher

variable {serving enabled : Bool}

/-- `w'` is `w` later in its life: only the phase has moved. -/
structure Later (w w' : Watcher) : Prop where
  timeout : w'.timeout = w.timeout
  spawnedAt : w'.spawnedAt = w.spawnedAt
  period : w'.period = w.period
  deadline : w'.deadline = w.deadline
  channel : w'.channel = w.channel

@[refl] theorem Later.refl (w : Watcher) : Later w w := ⟨rfl, rfl, rfl, rfl, rfl⟩

theorem Later.trans {w₁ w₂ w₃ : Watcher} (h₁ : Later w₁ w₂) (h₂ : Later w₂ w₃) : Later w₁ w₃ :=
  ⟨h₂.timeout.trans h₁.timeout, h₂.spawnedAt.trans h₁.spawnedAt, h₂.period.trans h₁.period,
    h₂.deadline.trans h₁.deadline, h₂.channel.trans h₁.channel⟩

theorem later_phase (w : Watcher) (p : WatchPhase) : Later w { w with phase := p } :=
  ⟨rfl, rfl, rfl, rfl, rfl⟩

theorem overdue_iff {w : Watcher} {t : Nat} :
    w.overdue t = true ↔ ∃ d, w.deadline = some d ∧ d < t := by
  unfold overdue
  cases w.deadline <;> simp

theorem deadlineFrom_eq_some {spawn d : Nat} {timeout : Duration} :
    deadlineFrom spawn timeout = some d ↔
      spawn + timeout.toNanos < instantLimit ∧ d = spawn + timeout.toNanos := by
  unfold deadlineFrom
  split
  · simp_all [eq_comm]
  · simp only [reduceCtorEq, false_iff, not_and]
    omega

theorem outcome?_eq_none {w : Watcher} : w.outcome? = none ↔ ∀ o, w.phase ≠ .done o := by
  unfold outcome?
  split <;> simp_all

/-- A tick decides to escalate exactly when the listener serves, the gate is disabled, the tick
is overdue and the stop signal is not raised. -/
theorem verdict_eq_escalated {w : Watcher} {t : Nat} :
    w.verdict serving enabled t = some .escalated ↔
      serving = true ∧ enabled = false ∧ w.overdue t = true ∧ w.channel.stopped = false := by
  unfold verdict StopChannel.unlessStopped
  cases serving <;> cases enabled <;> cases w.overdue t <;> cases w.channel.stopped <;> simp

theorem later_tick {w w' : Watcher} {t : Nat} {r : Option FatalError}
    (h : w.tick serving enabled t = (w', r)) : Later w w' := by
  unfold tick at h
  split at h <;> (cases h; exact later_phase _ _)

theorem tick_escalates {w w' : Watcher} {t : Nat} {f : FatalError}
    (h : w.tick serving enabled t = (w', some f)) :
    f = .readinessTimeout w.timeout ∧ w'.phase = .done .escalated ∧
      w.verdict serving enabled t = some .escalated := by
  unfold tick at h
  split at h
  · next hv =>
    simp only [Prod.mk.injEq, Option.some.injEq] at h
    obtain ⟨rfl, rfl⟩ := h
    exact ⟨rfl, rfl, hv⟩
  · simp at h
  · simp at h

/-- The tick loop keeps the watcher. -/
theorem later_ticks (stop : Nat) (w : Watcher) (t : Nat) :
    Later w (run.ticks serving enabled stop w t).1 := by
  fun_induction run.ticks serving enabled stop w t with
  | case1 w t _ w' f htick => exact later_tick htick
  | case2 w t _ w' htick _ _ _ ih => exact (later_tick htick).trans ih
  | case3 w t _ w' htick _ => exact later_tick htick
  | case4 w t _ => exact Later.refl w

/-- The tick loop escalates only at a tick `t'` no earlier than where it starts and before where
it stops, past the deadline, while the listener serves, the gate is disabled and the stop signal
is not raised; the watcher then ends `escalated`. -/
theorem ticks_escalates {stop : Nat} {w : Watcher} {t : Nat} {f : FatalError}
    (h : (run.ticks serving enabled stop w t).2 = some f) :
    f = .readinessTimeout w.timeout ∧ serving = true ∧ enabled = false ∧
      w.channel.stopped = false ∧ (run.ticks serving enabled stop w t).1.phase = .done .escalated ∧
      ∃ t', t ≤ t' ∧ t' < stop ∧ w.overdue t' = true := by
  fun_induction run.ticks serving enabled stop w t with
  | case1 w t ht w' f' htick =>
    obtain ⟨hf, hphase, hv⟩ := tick_escalates htick
    obtain ⟨hs, he, ho, hc⟩ := verdict_eq_escalated.1 hv
    cases h
    exact ⟨hf, hs, he, hc, hphase, t, Nat.le_refl t, ht, ho⟩
  | case2 w t _ w' htick _ _ _ ih =>
    have hw := later_tick htick
    obtain ⟨hf, hs, he, hc, hphase, t', ht', hlt, ho⟩ := ih h
    have ho' : w.overdue t' = true := by
      rw [overdue_iff, ← hw.deadline]
      exact overdue_iff.1 ho
    exact ⟨hf.trans (by rw [hw.timeout]), hs, he, hw.channel ▸ hc, hphase, t',
      by omega, hlt, ho'⟩
  | case3 => simp at h
  | case4 => simp at h

/-- Running a watcher keeps it. -/
theorem later_run (w : Watcher) (start stop : Nat) :
    Later w (w.run serving enabled start stop).1 := by
  unfold run
  split
  · exact Later.refl w
  · exact (later_phase w _).trans (later_ticks stop _ _)
  · exact later_ticks stop w _

/-- A watcher that has ended does not tick again. -/
theorem run_of_done {w : Watcher} {o : WatchOutcome} (h : w.phase = .done o)
    (start stop : Nat) : w.run serving enabled start stop = (w, none) := by
  unfold run
  rw [h]

/-- A watcher escalates its readiness timeout only while it has not ended, at a tick in
`[start, stop)` past its deadline, reading a serving listener and a disabled gate with its stop
signal not raised; it then ends `escalated`. -/
theorem run_escalates {w : Watcher} {start stop : Nat} {f : FatalError}
    (h : (w.run serving enabled start stop).2 = some f) :
    f = .readinessTimeout w.timeout ∧ serving = true ∧ enabled = false ∧
      w.channel.stopped = false ∧ w.outcome? = none ∧
      (w.run serving enabled start stop).1.phase = .done .escalated ∧
      ∃ t, start ≤ t ∧ t < stop ∧ w.overdue t = true := by
  unfold run at h ⊢
  split at h
  · simp at h
  · next hidle =>
    obtain ⟨hf, hs, he, hc, hphase, t, ht, hlt, ho⟩ := ticks_escalates h
    refine ⟨hf, hs, he, hc, by simp [outcome?, hidle], hphase, t, by omega, hlt, ho⟩
  · next n hpoll =>
    obtain ⟨hf, hs, he, hc, hphase, t, ht, hlt, ho⟩ := ticks_escalates h
    refine ⟨hf, hs, he, hc, by simp [outcome?, hpoll], hphase, t, by omega, hlt, ho⟩

/-- While the handle is kept, a stop raises the signal. -/
theorem stop_raises {w : Watcher} (hd : w.channel.handleDropped = false) :
    w.stop.1.channel.stopped = true := by
  simp [stop, StopChannel.stop?, hd]

/-- The first stop while the handle is kept is the one that delivers the signal. -/
theorem stop_delivered {w : Watcher} (hc : w.channel.stopped = false)
    (hd : w.channel.handleDropped = false) :
    w.stop.2 = true ∧ w.stop.1.channel.stopped = true :=
  ⟨by simp [stop, StopChannel.stop?, hc, hd], stop_raises hd⟩

theorem stop_handle (w : Watcher) : w.stop.1.channel.handleDropped = w.channel.handleDropped := by
  unfold stop StopChannel.stop?
  split <;> rfl

/-- A raised signal stays raised through later stops. -/
theorem stop_keeps_stopped {w : Watcher} (hc : w.channel.stopped = true) :
    w.stop.1.channel.stopped = true := by
  unfold stop StopChannel.stop?
  split <;> simp [hc]

theorem halt_phase (w : Watcher) : w.halt.phase = .done (w.outcome?.getD .stopped) := by
  unfold halt outcome?
  cases hp : w.phase <;> simp [hp]

theorem later_halt (w : Watcher) : Later w w.halt := by
  unfold halt
  split
  · exact Later.refl w
  · exact later_phase w _

theorem halt_of_done {w : Watcher} {o : WatchOutcome} (h : w.phase = .done o) : w.halt = w := by
  simp [halt, h]

/-- A tick escalates nothing once the stop signal is raised. -/
theorem tick_quiet {w : Watcher} (hc : w.channel.stopped = true) (t : Nat) :
    (w.tick serving enabled t).2 = none := by
  rcases htick : w.tick serving enabled t with ⟨w', _ | f⟩
  · rfl
  · have hv := verdict_eq_escalated.1 (tick_escalates htick).2.2
    rw [hc] at hv
    cases hv.2.2.2

/-- A task woken by its raised signal escalates nothing, whichever branch its select takes. -/
theorem wake_quiet {w : Watcher} (hc : w.channel.stopped = true) (t : Nat) :
    (w.wake serving enabled t).2 = none := by
  unfold wake
  split
  · split
    · exact tick_quiet hc t
    · rfl
  · rfl

/-- The same overdue tick escalates when the signal is not raised. -/
example :
    let w : Watcher :=
      { Watcher.spawn ⟨Duration.ofSecs 1, Duration.ofSecs 1⟩ 0 with phase := .polling 2000000000 }
    (w.wake true false 2000000000).2 = some (.readinessTimeout (Duration.ofSecs 1)) ∧
      (w.stop.1.wake true false 2000000000).2 = none := by
  decide

theorem later_wake (w : Watcher) (t : Nat) : Later w (w.wake serving enabled t).1 := by
  unfold wake
  split
  · split
    · exact (later_tick rfl).trans (later_halt _)
    · exact later_halt w
  · exact later_halt w

/-- After a stop with the handle kept, the task wakes to a raised signal and keeps it raised. -/
theorem wake_stop_stopped {w : Watcher} (hd : w.channel.handleDropped = false) (t : Nat) :
    (w.stop.1.wake serving enabled t).1.channel.stopped = true := by
  rw [(later_wake _ t).channel]
  exact stop_raises hd

/-- A woken task has ended. -/
theorem wake_phase (w : Watcher) (t : Nat) :
    ∃ o, (w.wake serving enabled t).1.phase = .done o := by
  unfold wake
  split
  · split
    · exact ⟨_, halt_phase _⟩
    · exact ⟨_, halt_phase w⟩
  · exact ⟨_, halt_phase w⟩

theorem wake_of_done {w : Watcher} {o : WatchOutcome} (h : w.phase = .done o) (t : Nat) :
    w.wake serving enabled t = (w, none) := by
  simp [wake, h, halt_of_done h]

end Sidecar.Readiness.Watcher
