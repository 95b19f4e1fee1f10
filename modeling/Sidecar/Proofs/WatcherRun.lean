import Sidecar.Proofs.Watcher
import Sidecar.Readiness.Script
/-! # A readiness watcher among its surroundings

A watcher is spawned with any settings, any timeout and poll interval included. Around it, time
passes, the listener stops or resumes serving, the application enables readiness, and someone
may stop the watcher, in any order (`WatchEvent`).

Proved here (`watch_rules`):

* the ticks come one period apart, the poll interval clamped into `[1 ms, 24 h]`;
* a stretch of ticks ends the watcher at its first tick with a verdict, which reads in this
  order whether the listener serves, whether the gate is enabled and whether the tick is
  strictly past a representable deadline (`ticks_of_verdict`, `ticks_of_no_verdict`);
* over every interleaving the readiness timeout is escalated once if the watcher ends
  escalated, and never otherwise; never when the deadline is not representable; and never
  after a stop, which ends a watcher that has not ended;
* `escalations_after_raise`: nor after a stop that returns while the task is inside a tick,
  whose later checks read the raised signal. -/

namespace Sidecar.Readiness

namespace Watcher

variable {serving enabled : Bool} {w : Watcher} {t : Nat} {o : WatchOutcome}

/-- A tick changes only the phase, so it decides as its watcher did. -/
@[simp] theorem verdict_phase (w : Watcher) (p : WatchPhase) :
    ({ w with phase := p } : Watcher).verdict = w.verdict := rfl

theorem tick_of_verdict_none (h : w.verdict serving enabled t = none) :
    w.tick serving enabled t = ({ w with phase := .polling (t + w.period) }, none) := by
  simp [tick, h]

theorem tick_of_verdict_some (h : w.verdict serving enabled t = some o) :
    w.tick serving enabled t =
      ({ w with phase := .done o },
        if o = .escalated then some (.readinessTimeout w.timeout) else none) := by
  cases o <;> simp [tick, h]

/-- The `j`-th tick after the one at `t + p` is the `j + 1`-th after `t`. -/
theorem shift_tick (t p j : Nat) : t + p + j * p = t + (j + 1) * p := by
  rw [Nat.succ_mul]
  omega

/-- The tick loop from `t`, when its tick at `t + k * period` is the first with a verdict and
falls before `stop`: the ticks before it keep polling, and the watcher ends there. -/
theorem ticks_of_verdict {stop : Nat} :
    ∀ (k : Nat) {w : Watcher} {t : Nat}, t + k * w.period < stop →
      (∀ j < k, w.verdict serving enabled (t + j * w.period) = none) →
      w.verdict serving enabled (t + k * w.period) = some o →
      run.ticks serving enabled stop w t =
        ({ w with phase := .done o },
          if o = .escalated then some (.readinessTimeout w.timeout) else none)
  | 0, w, t, hk, _, hv => by
    simp only [Nat.zero_mul, Nat.add_zero] at hk hv
    rw [run.ticks, dif_pos hk, tick_of_verdict_some hv]
    cases o <;> rfl
  | k + 1, w, t, hk, hfirst, hv => by
    have h0 : w.verdict serving enabled t = none := by simpa using hfirst 0 (Nat.succ_pos k)
    have ht : t < stop := by
      have := Nat.le_add_right t ((k + 1) * w.period)
      omega
    rw [run.ticks, dif_pos ht, tick_of_verdict_none h0]
    exact ticks_of_verdict k (by simp only; rw [shift_tick]; exact hk)
      (fun j hj => by
        simp only [verdict_phase]
        rw [shift_tick]
        exact hfirst (j + 1) (Nat.succ_lt_succ hj))
      (by simp only [verdict_phase]; rw [shift_tick]; exact hv)

/-- The tick loop from `t`, when no tick before `stop` has a verdict and `t + k * period` is the
first instant of the sequence at `stop` or later: the watcher keeps polling, its next tick
there. -/
theorem ticks_of_no_verdict {stop : Nat} :
    ∀ (k : Nat) {w : Watcher} {t : Nat}, stop ≤ t + k * w.period →
      (∀ j < k, t + j * w.period < stop ∧ w.verdict serving enabled (t + j * w.period) = none) →
      run.ticks serving enabled stop w t =
        (if k = 0 then w else { w with phase := .polling (t + k * w.period) }, none)
  | 0, w, t, hk, _ => by
    simp only [Nat.zero_mul, Nat.add_zero] at hk
    rw [run.ticks, dif_neg (by omega)]
    rfl
  | k + 1, w, t, hk, hbefore => by
    obtain ⟨ht, h0⟩ := hbefore 0 (Nat.succ_pos k)
    simp only [Nat.zero_mul, Nat.add_zero] at ht h0
    rw [run.ticks, dif_pos ht, tick_of_verdict_none h0]
    simp only
    rw [ticks_of_no_verdict k (by simp only; rw [shift_tick]; exact hk)
      (fun j hj => by
        simp only [verdict_phase]
        rw [shift_tick]
        exact hbefore (j + 1) (Nat.succ_lt_succ hj))]
    split
    · next hk0 =>
      subst hk0
      simp
    · simp [shift_tick]

theorem outcome?_of_phase (h : w.phase = .done o) : w.outcome? = some o := by
  simp [outcome?, h]

/-- A tick that escalates nothing does not end the watcher escalated. -/
theorem tick_phase_of_none {w' : Watcher} (h : w.tick serving enabled t = (w', none)) :
    w'.phase ≠ .done .escalated := by
  cases hv : w.verdict serving enabled t with
  | none =>
    rw [tick_of_verdict_none hv] at h
    cases h
    simp
  | some o =>
    rw [tick_of_verdict_some hv] at h
    cases o with
    | escalated => simp at h
    | satisfied | stopped =>
      cases h
      simp

/-- A stretch of ticks ends the watcher escalated only by a tick that escalates. -/
theorem ticks_escalated {stop : Nat} (w : Watcher) (t : Nat)
    (h : (run.ticks serving enabled stop w t).1.phase = .done .escalated) :
    w.phase = .done .escalated ∨ (run.ticks serving enabled stop w t).2.isSome := by
  fun_induction run.ticks serving enabled stop w t with
  | case1 w t _ w' f htick => exact .inr rfl
  | case2 w t _ w' htick n hphase _ ih =>
    rcases ih h with hp | hs
    · rw [hphase] at hp
      cases hp
    · exact .inr hs
  | case3 w t _ w' htick _ => exact absurd h (tick_phase_of_none htick)
  | case4 w t _ => exact .inl h

/-- Only the phase of a watcher moves in its life, so it decides as it did. -/
theorem verdict_of_later {w' : Watcher} (hl : Later w w') : w'.verdict = w.verdict := by
  funext serving enabled t
  unfold verdict overdue
  rw [hl.channel, hl.deadline]

/-- A stretch of ticks ends a watcher only at a tick in it whose verdict is the outcome. -/
theorem ticks_ends {stop : Nat} (w : Watcher) (t : Nat)
    (h : (run.ticks serving enabled stop w t).1.phase = .done o) :
    w.phase = .done o ∨ ∃ t', t ≤ t' ∧ t' < stop ∧ w.verdict serving enabled t' = some o := by
  fun_induction run.ticks serving enabled stop w t with
  | case1 w t ht w' f htick =>
    obtain ⟨-, hphase, hv⟩ := tick_escalates htick
    rw [hphase] at h
    cases h
    exact .inr ⟨t, Nat.le_refl t, ht, hv⟩
  | case2 w t _ w' htick n hphase _ ih =>
    rcases ih h with hp | ⟨t', ht', hlt, hv⟩
    · rw [hphase] at hp
      cases hp
    · rw [verdict_of_later (later_tick htick)] at hv
      exact .inr ⟨t', by omega, hlt, hv⟩
  | case3 w t ht w' htick hphase =>
    cases hv : w.verdict serving enabled t with
    | none =>
      rw [tick_of_verdict_none hv] at htick
      cases htick
      exact absurd rfl (hphase _)
    | some o' =>
      rw [tick_of_verdict_some hv] at htick
      have hw' : w' = { w with phase := .done o' } := (Prod.mk.inj htick).1.symm
      rw [hw'] at h
      cases h
      exact .inr ⟨t, Nat.le_refl t, ht, hv⟩
  | case4 w t _ => exact .inl h

/-- Running a watcher that has not ended ends it only at a tick in `[start, stop)` whose verdict
is the outcome. -/
theorem run_ends {start stop : Nat} (hw : w.outcome? = none)
    (h : (w.run serving enabled start stop).1.phase = .done o) :
    ∃ t', start ≤ t' ∧ t' < stop ∧ w.verdict serving enabled t' = some o := by
  unfold run at h
  split at h
  · next o' hp => simp [outcome?, hp] at hw
  · rcases ticks_ends _ _ h with hp | ⟨t', ht', hlt, hv⟩
    · simp at hp
    · exact ⟨t', by omega, hlt, hv⟩
  · rcases ticks_ends _ _ h with hp | ⟨t', ht', hlt, hv⟩
    · next n hp' => simp [hp'] at hp
    · exact ⟨t', by omega, hlt, hv⟩

/-- Running a watcher ends it escalated only by escalating. -/
theorem run_escalated {start stop : Nat}
    (h : (w.run serving enabled start stop).1.phase = .done .escalated) :
    w.phase = .done .escalated ∨ (w.run serving enabled start stop).2.isSome := by
  unfold run at h ⊢
  split at h
  · exact .inl h
  · next hidle =>
    rcases ticks_escalated _ _ h with hp | hs
    · simp at hp
    · exact .inr hs
  · exact ticks_escalated _ _ h

end Watcher

/-- What happens around a watcher. -/
inductive WatchEvent where
  /-- Time passes until instant `t`, while the watcher ticks. -/
  | advance (t : Nat)
  /-- The listener's serving flag turns to `b`. -/
  | serve (b : Bool)
  /-- The application enables readiness. -/
  | enable
  /-- Someone stops the watcher, and its task takes the stop branch. -/
  | stop
  /-- Someone stops the watcher while its task is inside a tick: the stop returns, and the task
  reads the raised signal at its later checks until its select takes the stop branch. -/
  | raise

def WatchAction.event : WatchAction → WatchEvent
  | .enable => .enable
  | .stop => .stop
  | .stopServing => .serve false

namespace ScriptState

/-- A run around a watcher spawned with settings `s` at instant `r`, before anything happens. -/
def start (s : WatchSettings) (r : Nat) (serving enabled : Bool) : ScriptState :=
  ⟨Watcher.spawn s r, r, serving, enabled, [], []⟩

def happen (st : ScriptState) : WatchEvent → ScriptState
  | .advance t => st.advance t
  | .serve b => { st with serving := b }
  | .enable => { st with enabled := true }
  | .stop => { st.raise with watcher := st.raise.watcher.halt }
  | .raise => st.raise

def happenAll (st : ScriptState) (evs : List WatchEvent) : ScriptState := evs.foldl happen st

@[simp] theorem happenAll_nil (st : ScriptState) : st.happenAll [] = st := rfl

@[simp] theorem happenAll_cons (st : ScriptState) (e : WatchEvent) (evs : List WatchEvent) :
    st.happenAll (e :: evs) = (st.happen e).happenAll evs := rfl

theorem happenAll_append (st : ScriptState) (evs evs' : List WatchEvent) :
    st.happenAll (evs ++ evs') = (st.happenAll evs).happenAll evs' := List.foldl_append

/-- What holds at the start and is kept by every event holds after any sequence of events. -/
theorem happenAll_induction (P : ScriptState → Prop) (step : ∀ st e, P st → P (st.happen e)) :
    ∀ (evs : List WatchEvent) {st : ScriptState}, P st → P (st.happenAll evs)
  | [], _, h => h
  | e :: evs, st, h => happenAll_induction P step evs (step st e h)

/-- A scripted action is time passing until its instant, then its event. -/
theorem perform_eq (st : ScriptState) (a : TimedAction) :
    st.perform a = (st.happen (.advance a.instant)).happen a.action.event := by
  obtain ⟨i, act⟩ := a
  cases act <;> rfl

theorem advance_eq (st : ScriptState) (t : Nat) :
    st.advance t =
      { st with watcher := (st.watcher.run st.serving st.enabled st.now t).1,
                now := max st.now t,
                escalations :=
                  st.escalations ++ (st.watcher.run st.serving st.enabled st.now t).2.toList } :=
  rfl

@[simp] theorem happen_advance (st : ScriptState) (t : Nat) :
    st.happen (.advance t) = st.advance t := rfl

variable {s : WatchSettings} {r : Nat} {st : ScriptState} {o : WatchOutcome}

/-- What a run around a watcher spawned with settings `s` at instant `r` keeps: the watcher's
timeout and deadline, and its record: nothing escalated and the watcher not ended escalated, or
the readiness timeout escalated once, with the watcher ended escalated and its deadline
representable. -/
structure Kept (s : WatchSettings) (r : Nat) (st : ScriptState) : Prop where
  timeout : st.watcher.timeout = s.timeout
  deadline : st.watcher.deadline = deadlineFrom r s.timeout
  record : (st.escalations = [] ∧ st.watcher.phase ≠ .done .escalated) ∨
    (st.escalations = [.readinessTimeout s.timeout] ∧ st.watcher.phase = .done .escalated ∧
      (deadlineFrom r s.timeout).isSome)

theorem kept_start (s : WatchSettings) (r : Nat) (serving enabled : Bool) :
    Kept s r (start s r serving enabled) :=
  ⟨rfl, rfl, .inl ⟨rfl, by simp [start, Watcher.spawn]⟩⟩

theorem kept_advance (h : Kept s r st) (t : Nat) : Kept s r (st.advance t) := by
  rw [advance_eq]
  have hl := @Watcher.later_run st.serving st.enabled st.watcher st.now t
  refine ⟨hl.timeout.trans h.timeout, hl.deadline.trans h.deadline, ?_⟩
  cases hf : (st.watcher.run st.serving st.enabled st.now t).2 with
  | none =>
    simp only [Option.toList, List.append_nil]
    rcases h.record with ⟨he, hp⟩ | ⟨he, hp, hd⟩
    · refine .inl ⟨he, fun hesc => ?_⟩
      rcases Watcher.run_escalated hesc with hp' | hs
      · exact hp hp'
      · rw [hf] at hs
        cases hs
    · rw [Watcher.run_of_done hp]
      exact .inr ⟨he, hp, hd⟩
  | some f =>
    obtain ⟨hft, -, -, -, hnone, hdone, t', -, -, ho⟩ := Watcher.run_escalates hf
    have he : st.escalations = [] := by
      rcases h.record with ⟨he, -⟩ | ⟨-, hp, -⟩
      · exact he
      · exact absurd hp (Watcher.outcome?_eq_none.1 hnone _)
    obtain ⟨d, hd, -⟩ := Watcher.overdue_iff.1 ho
    refine .inr ⟨?_, hdone, ?_⟩
    · simp [he, hft, h.timeout]
    · rw [← h.deadline, hd]
      rfl

/-- A stop ends a watcher that has not ended, stopped, and keeps the outcome of one that has. -/
theorem stop_phase (st : ScriptState) :
    (st.happen .stop).watcher.phase = .done (st.watcher.outcome?.getD .stopped) :=
  Watcher.halt_phase _

theorem kept_happen (h : Kept s r st) (e : WatchEvent) : Kept s r (st.happen e) := by
  cases e with
  | advance t => rw [happen_advance]; exact kept_advance h t
  | serve b => exact ⟨h.timeout, h.deadline, h.record⟩
  | enable => exact ⟨h.timeout, h.deadline, h.record⟩
  | raise => exact ⟨h.timeout, h.deadline, h.record⟩
  | stop =>
    have hl := Watcher.later_halt st.raise.watcher
    refine ⟨hl.timeout.trans h.timeout, hl.deadline.trans h.deadline, ?_⟩
    show (st.escalations = [] ∧ (st.happen .stop).watcher.phase ≠ .done .escalated) ∨
      (st.escalations = [.readinessTimeout s.timeout] ∧
        (st.happen .stop).watcher.phase = .done .escalated ∧ (deadlineFrom r s.timeout).isSome)
    rw [stop_phase]
    rcases h.record with ⟨he, hp⟩ | ⟨he, hp, hd⟩
    · refine .inl ⟨he, fun hesc => hp ?_⟩
      unfold Watcher.outcome? at hesc
      split at hesc
      · next o' hp' =>
        simp only [WatchPhase.done.injEq, Option.getD_some] at hesc
        rw [hp', hesc]
      · simp at hesc
    · refine .inr ⟨he, ?_, hd⟩
      simp [Watcher.outcome?, hp]

theorem kept_happenAll (h : Kept s r st) (evs : List WatchEvent) :
    Kept s r (st.happenAll evs) :=
  happenAll_induction (Kept s r) (fun _ e h => kept_happen h e) evs h

/-- Each scripted action is time passing and then an event, so it keeps the record. -/
theorem kept_perform (h : Kept s r st) (actions : List TimedAction) :
    Kept s r (actions.foldl ScriptState.perform st) := by
  induction actions generalizing st with
  | nil => exact h
  | cons a as ih =>
    rw [List.foldl_cons, perform_eq]
    exact ih (kept_happen (kept_happen h _) _)

/-- An ended watcher stays ended as it was, and nothing more is escalated. -/
theorem happen_of_done (h : st.watcher.phase = .done o) (e : WatchEvent) :
    (st.happen e).watcher.phase = .done o ∧ (st.happen e).escalations = st.escalations := by
  cases e with
  | advance t =>
    rw [happen_advance, advance_eq, Watcher.run_of_done h]
    exact ⟨h, List.append_nil _⟩
  | serve b => exact ⟨h, rfl⟩
  | enable => exact ⟨h, rfl⟩
  | stop =>
    rw [stop_phase, Watcher.outcome?_of_phase h]
    exact ⟨rfl, rfl⟩
  | raise => exact ⟨h, rfl⟩

theorem happenAll_of_done (h : st.watcher.phase = .done o) (evs : List WatchEvent) :
    (st.happenAll evs).watcher.phase = .done o ∧ (st.happenAll evs).escalations = st.escalations := by
  induction evs generalizing st with
  | nil => exact ⟨h, rfl⟩
  | cons e evs ih =>
    obtain ⟨hp, he⟩ := happen_of_done h e
    obtain ⟨hp', he'⟩ := ih hp
    exact ⟨hp', he'.trans he⟩

theorem handle_happen (st : ScriptState) (e : WatchEvent) :
    (st.happen e).watcher.channel.handleDropped = st.watcher.channel.handleDropped := by
  cases e with
  | advance t => exact congrArg StopChannel.handleDropped (Watcher.later_run _ _ _).channel
  | serve b => rfl
  | enable => rfl
  | stop =>
    exact (congrArg StopChannel.handleDropped (Watcher.later_halt _).channel).trans
      (Watcher.stop_handle _)
  | raise => exact Watcher.stop_handle _

/-- Once the stop signal is raised it stays raised, and no event escalates: every later tick
reads the signal. -/
theorem happen_of_stopped (h : st.watcher.channel.stopped = true) (e : WatchEvent) :
    (st.happen e).watcher.channel.stopped = true ∧ (st.happen e).escalations = st.escalations := by
  cases e with
  | advance t =>
    rw [happen_advance, advance_eq]
    refine ⟨?_, ?_⟩
    · rw [(@Watcher.later_run st.serving st.enabled st.watcher st.now t).channel]
      exact h
    cases hf : (st.watcher.run st.serving st.enabled st.now t).2 with
    | none => exact List.append_nil _
    | some f =>
      have hc := (Watcher.run_escalates hf).2.2.2.1
      rw [h] at hc
      cases hc
  | serve b => exact ⟨h, rfl⟩
  | enable => exact ⟨h, rfl⟩
  | stop =>
    refine ⟨?_, rfl⟩
    show st.raise.watcher.halt.channel.stopped = true
    rw [(Watcher.later_halt _).channel]
    exact Watcher.stop_keeps_stopped h
  | raise => exact ⟨Watcher.stop_keeps_stopped h, rfl⟩

theorem happenAll_of_stopped (h : st.watcher.channel.stopped = true) (evs : List WatchEvent) :
    (st.happenAll evs).escalations = st.escalations :=
  (happenAll_induction (fun st' => st'.watcher.channel.stopped = true ∧
      st'.escalations = st.escalations)
    (fun _ e h' => ⟨(happen_of_stopped h'.1 e).1, (happen_of_stopped h'.1 e).2.trans h'.2⟩)
    evs ⟨h, rfl⟩).2

/-- The outcome a run's record is about: escalated exactly when the timeout was escalated. -/
theorem escalations_of_kept (h : Kept s r st) :
    st.escalations =
      if st.watcher.outcome? = some .escalated then [.readinessTimeout s.timeout] else [] := by
  rcases h.record with ⟨he, hp⟩ | ⟨he, hp, -⟩
  · have hne : st.watcher.outcome? ≠ some .escalated := by
      unfold Watcher.outcome?
      split
      · next o' hp' =>
        intro heq
        cases heq
        exact hp hp'
      · simp
    rw [if_neg hne, he]
  · rw [if_pos (by simp [Watcher.outcome?, hp]), he]

end ScriptState

open ScriptState

/-- The clamped period lies in `[1 ms, 24 h]`. -/
theorem period_mem (s : WatchSettings) :
    minPollInterval.toNanos ≤ s.period ∧ s.period ≤ maxPollInterval.toNanos := by
  have hlo : minPollInterval.toNanos = 1000000 := rfl
  have hhi : maxPollInterval.toNanos = 86400000000000 := rfl
  unfold WatchSettings.period Duration.clamp
  split
  · rw [hlo, hhi]
    omega
  · rename_i hnlt
    split
    · rw [hlo, hhi]
      omega
    · rename_i hngt
      have h1 : ¬ s.pollInterval.toNanos < minPollInterval.toNanos := hnlt
      have h2 : ¬ maxPollInterval.toNanos < s.pollInterval.toNanos := hngt
      omega

/-- The rules a readiness watcher spawned with settings `s` at instant `r` follows, over every
interleaving of ticks with enabling, changes of the serving flag and stops. -/
structure WatchRules (s : WatchSettings) (r : Nat) : Prop where
  /-- The ticks come one period apart: the poll interval clamped into `[1 ms, 24 h]`, so never
  zero. -/
  period : (Watcher.spawn s r).period =
      (s.pollInterval.clamp minPollInterval maxPollInterval).toNanos ∧
    minPollInterval.toNanos ≤ (Watcher.spawn s r).period ∧
    (Watcher.spawn s r).period ≤ maxPollInterval.toNanos
  /-- A tick is overdue when it is strictly after `r + timeout` and that instant is
  representable. -/
  overdue : ∀ w, (Watcher.spawn s r).Later w → ∀ t,
    w.overdue t = true ↔ ∃ d, deadlineFrom r s.timeout = some d ∧ d < t
  /-- A tick reads, in this order, whether the listener serves, whether the gate is enabled and
  whether it is overdue; an overdue tick escalates unless the stop signal is raised. So it stops
  the watcher when the listener has stopped serving or when it is overdue with the signal raised,
  is satisfied when the gate is enabled on a serving listener, escalates when it is overdue
  without the signal, and otherwise keeps polling. -/
  verdict : ∀ (w : Watcher) serving enabled t,
    (w.verdict serving enabled t = some .stopped ↔
      serving = false ∨ enabled = false ∧ w.overdue t = true ∧ w.channel.stopped = true) ∧
    (w.verdict serving enabled t = some .satisfied ↔ serving = true ∧ enabled = true) ∧
    (w.verdict serving enabled t = some .escalated ↔
      serving = true ∧ enabled = false ∧ w.overdue t = true ∧ w.channel.stopped = false) ∧
    (w.verdict serving enabled t = none ↔
      serving = true ∧ enabled = false ∧ w.overdue t = false)
  /-- The ticks from `t` fall at `t + j * period`. The watcher ends at the first of them before
  `stop` with a verdict, and escalates its readiness timeout when that verdict is `escalated`. -/
  ticksEnd : ∀ (w : Watcher), (Watcher.spawn s r).Later w → ∀ serving enabled stop t k o,
    t + k * w.period < stop → (∀ j < k, w.verdict serving enabled (t + j * w.period) = none) →
    w.verdict serving enabled (t + k * w.period) = some o →
    Watcher.run.ticks serving enabled stop w t =
      ({ w with phase := .done o },
        if o = .escalated then some (.readinessTimeout s.timeout) else none)
  /-- With no verdict among the ticks before `stop`, the watcher polls on, its next tick the
  first of them at `stop` or later. -/
  ticksPoll : ∀ (w : Watcher) serving enabled stop t k, stop ≤ t + k * w.period →
    (∀ j < k, t + j * w.period < stop ∧ w.verdict serving enabled (t + j * w.period) = none) →
    Watcher.run.ticks serving enabled stop w t =
      (if k = 0 then w else { w with phase := .polling (t + k * w.period) }, none)
  /-- An event ends a watcher that has not ended only as a stop, which ends it stopped, or as
  time passing, at a tick in that time whose verdict is the outcome. -/
  endsBy : ∀ (st : ScriptState) e o, st.watcher.outcome? = none →
    (st.happen e).watcher.outcome? = some o →
      (e = .stop ∧ o = .stopped) ∨
      ∃ t t', e = .advance t ∧ st.now ≤ t' ∧ t' < t ∧
        st.watcher.verdict st.serving st.enabled t' = some o
  /-- Over any events, the readiness timeout is escalated once if the watcher ended escalated,
  and never otherwise. -/
  escalatesOnce : ∀ serving enabled evs,
    ((start s r serving enabled).happenAll evs).escalations =
      if ((start s r serving enabled).happenAll evs).watcher.outcome? = some .escalated then
        [.readinessTimeout s.timeout]
      else []
  /-- Without a representable deadline nothing is escalated. -/
  noDeadline : deadlineFrom r s.timeout = none → ∀ serving enabled evs,
    ((start s r serving enabled).happenAll evs).escalations = []
  /-- A stop ends a watcher that has not ended, stopped, and keeps the outcome of one that has;
  afterwards the outcome stays and nothing more is escalated. -/
  stopEnds : ∀ serving enabled pre post,
    ((start s r serving enabled).happenAll (pre ++ [.stop])).watcher.outcome? =
        some ((((start s r serving enabled).happenAll pre).watcher.outcome?).getD .stopped) ∧
      ((start s r serving enabled).happenAll (pre ++ .stop :: post)).watcher.outcome? =
        ((start s r serving enabled).happenAll (pre ++ [.stop])).watcher.outcome? ∧
      ((start s r serving enabled).happenAll (pre ++ .stop :: post)).escalations =
        ((start s r serving enabled).happenAll (pre ++ [.stop])).escalations

theorem watch_rules (s : WatchSettings) (r : Nat) : WatchRules s r where
  period := ⟨rfl, period_mem s⟩
  overdue w hl t := by
    rw [Watcher.overdue_iff, hl.deadline]
    rfl
  verdict w serving enabled t := by
    unfold Watcher.verdict StopChannel.unlessStopped
    cases serving <;> cases enabled <;> cases w.overdue t <;> cases w.channel.stopped <;> simp
  ticksEnd w hl serving enabled stop t k o hk hfirst hv := by
    rw [Watcher.ticks_of_verdict k hk hfirst hv, hl.timeout]
    rfl
  ticksPoll w serving enabled stop t k hk hbefore := Watcher.ticks_of_no_verdict k hk hbefore
  endsBy st e o hnone hend := by
    cases e with
    | advance t =>
      rw [happen_advance, advance_eq] at hend
      have hp : (st.watcher.run st.serving st.enabled st.now t).1.phase = .done o := by
        simp only [Watcher.outcome?] at hend
        split at hend
        · next o' hp => cases hend; exact hp
        · cases hend
      obtain ⟨t', ht', hlt, hv⟩ := Watcher.run_ends hnone hp
      exact .inr ⟨t, t', rfl, ht', hlt, hv⟩
    | serve b => simp [happen, hnone] at hend
    | enable => simp [happen, hnone] at hend
    | raise =>
      have hend' : st.watcher.outcome? = some o := hend
      rw [hnone] at hend'
      cases hend'
    | stop =>
      have hp := stop_phase st
      rw [hnone] at hp
      have ho : (st.happen .stop).watcher.outcome? = some .stopped :=
        Watcher.outcome?_of_phase hp
      rw [ho] at hend
      cases hend
      exact .inl ⟨rfl, rfl⟩
  escalatesOnce serving enabled evs :=
    escalations_of_kept (kept_happenAll (kept_start s r serving enabled) evs)
  noDeadline hd serving enabled evs := by
    rcases (kept_happenAll (kept_start s r serving enabled) evs).record with ⟨he, -⟩ | ⟨-, -, hs⟩
    · exact he
    · rw [hd] at hs
      cases hs
  stopEnds serving enabled pre post := by
    have hstop : ((start s r serving enabled).happenAll (pre ++ [.stop])).watcher.phase =
        .done ((((start s r serving enabled).happenAll pre).watcher.outcome?).getD .stopped) := by
      rw [happenAll_append, happenAll_cons, happenAll_nil]
      exact stop_phase _
    -- from the stop on the watcher has ended, so the rest of the run changes nothing
    obtain ⟨hp, he⟩ := happenAll_of_done hstop post
    have hsplit : (start s r serving enabled).happenAll (pre ++ .stop :: post) =
        ((start s r serving enabled).happenAll (pre ++ [.stop])).happenAll post := by
      rw [← happenAll_append, List.append_assoc, List.singleton_append]
    rw [hsplit, Watcher.outcome?_of_phase hp, Watcher.outcome?_of_phase hstop]
    exact ⟨rfl, rfl, he⟩

/-- A stop that returns while the watcher's task is inside a tick ends the escalations as surely
as one whose stop branch wins: the raise and every later event escalate nothing, since the
handle is never dropped and every later check reads the raised signal. -/
theorem escalations_after_raise (s : WatchSettings) (r : Nat) (serving enabled : Bool)
    (pre post : List WatchEvent) :
    ((start s r serving enabled).happenAll (pre ++ .raise :: post)).escalations =
      ((start s r serving enabled).happenAll pre).escalations := by
  have hd : ((start s r serving enabled).happenAll pre).watcher.channel.handleDropped = false :=
    happenAll_induction (fun st => st.watcher.channel.handleDropped = false)
      (fun st e h => (handle_happen st e).trans h) pre rfl
  rw [happenAll_append, happenAll_cons]
  exact happenAll_of_stopped (Watcher.stop_raises hd) post

/-- A scripted run reports the readiness timeout escalated once when its outcome is
`escalated`, and nothing otherwise. -/
theorem runScript_escalations (s : WatchSettings) (serving enabled : Bool)
    (actions : List TimedAction) (limit : Nat) :
    ((runScript s serving enabled actions limit).outcome = .escalated →
      (runScript s serving enabled actions limit).escalations = [.readinessTimeout s.timeout]) ∧
    ((runScript s serving enabled actions limit).outcome ≠ .escalated →
      (runScript s serving enabled actions limit).escalations = []) := by
  have he := escalations_of_kept
    (kept_advance (kept_perform (kept_start s 0 serving enabled) actions) limit)
  unfold runScript
  simp only [start] at he ⊢
  split
  · next o ho =>
    simp only [ho] at he
    cases o <;> simp [he]
  · next ho =>
    simp only [ho] at he
    simp [he]

end Sidecar.Readiness
