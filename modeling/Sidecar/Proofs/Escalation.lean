import Mathlib.Data.List.Induction
import Sidecar.Proofs.ServerRun

/-!
# When a server escalates the readiness timeout

The watcher is the only part of a server that escalates, and a server has at most one watcher:
the one its first successful start spawns. Proved here, for every run of a fresh server:

* `escalations_call`: only time passing on a running server can escalate, and it adds what the
  watcher's run escalates;
* `escalating_call`: such a call reads a serving listener and a disabled gate, and one of its
  ticks is strictly past the watcher's deadline;
* `escalationRecord_runCalls`: a server has escalated nothing, or once the readiness timeout of
  its configuration (`EscalationRecord`);
* `readiness_escalation`: `EscalationDiscipline`, the whole rule: at most once, only with the
  configured timeout, only at a tick past a representable deadline counted from the instant of
  the start that spawned the watcher, only before readiness was enabled, only while the listener
  serves, and never after a stop that found the server running.
-/

namespace Sidecar.Server

open Readiness

variable {s : Server} {w : Watcher}

/-! ## What one call escalates -/

theorem escalations_startAt (s : Server) (a : String) :
    (s.startAt a).1.escalations = s.escalations := by
  unfold startAt
  split
  · rfl
  · rfl
  · split <;> rfl

/-- A stop escalates nothing: the watcher's task wakes to the raised signal, so a tick it
takes then does not escalate. -/
theorem escalations_stop (h : Coherent s.phase s.listener) : s.stop.1.escalations = s.escalations := by
  match hp : s.phase with
  | .running w =>
    rw [hp] at h
    obtain ⟨-, -, -, -, hd⟩ := h
    rw [stop_of_running hp]
    exact escalations_stopWatcher hd
  | .notStarted | .stopped _ => rw [stop_of_not_running (by simp [hp])]

/-- A call leaves the escalations as they are, or is time passing on a running server whose
watcher escalates `f` meanwhile; `f` is then added. -/
theorem escalations_call (hc : Coherent s.phase s.listener) (c : Call) :
    (s.call c).escalations = s.escalations ∨
      ∃ d w f, c = .wait d ∧ s.phase = .running w ∧
        (w.run s.listener.running s.gate.enabled s.clock (s.clock + d)).2 = some f ∧
        (s.call c).escalations = s.escalations ++ [f] ∧
        (s.call c).phase =
          .running (w.run s.listener.running s.gate.enabled s.clock (s.clock + d)).1 := by
  cases c with
  | startAt a => exact .inl (escalations_startAt s a)
  | stop => exact .inl (escalations_stop hc)
  | wait d =>
    match hp : s.phase with
    | .running w =>
      rcases hf : (w.run s.listener.running s.gate.enabled s.clock (s.clock + d)).2 with _ | f
      · left
        simp [call, wait_of_running hp, hf]
      · exact .inr ⟨d, w, f, rfl, rfl, hf, by simp [call, wait_of_running hp, hf],
          by simp only [call, wait_of_running hp]⟩
    | .notStarted | .stopped _ =>
      have hn : ∀ w, s.phase ≠ .running w := by simp [hp]
      left
      simp only [call, wait_of_not_running hn]
  | enableReadiness | registerCheck | evaluate => exact .inl rfl

/-- A call escalates only when it is time passing on a running server whose listener serves and
whose gate is disabled, and one of its ticks, in `[clock, clock + d)`, is past the deadline. -/
theorem escalating_call (hc : Coherent s.phase s.listener) {c : Call}
    (h : (s.call c).escalations ≠ s.escalations) :
    ∃ d w t, c = .wait d ∧ s.phase = .running w ∧ s.listener.running = true ∧
      s.gate.enabled = false ∧ s.clock ≤ t ∧ t < s.clock + d ∧ w.overdue t = true := by
  rcases escalations_call hc c with heq | ⟨d, w, f, rfl, hp, hf, -, -⟩
  · exact absurd heq h
  · obtain ⟨-, hs, he, -, -, -, t, ht, hlt, ho⟩ := Watcher.run_escalates hf
    exact ⟨d, w, t, rfl, hp, hs, he, ht, hlt, ho⟩

/-! ## At most once, and only the readiness timeout -/

/-- What a server has escalated: nothing before it started; afterwards nothing, or the
readiness timeout of its one watcher, which has then ended escalated. That watcher carries the
configured timeout. -/
def EscalationRecord (s : Server) : Prop :=
  match s.phase with
  | .notStarted => s.escalations = []
  | .running w | .stopped w =>
    w.timeout = s.config.readinessTimeout ∧
      (s.escalations = [] ∨
        s.escalations = [.readinessTimeout w.timeout] ∧ w.phase = .done .escalated)

/-- A running watcher that moves on only in its phase, and not at all once it has ended
escalated, keeps the record of what its server escalated. -/
theorem record_of_later {w' : Watcher} {timeout : Duration} {es : List FatalError}
    (hl : w.Later w') (hdone : w.phase = .done .escalated → w' = w)
    (h : w.timeout = timeout ∧
      (es = [] ∨ es = [.readinessTimeout w.timeout] ∧ w.phase = .done .escalated)) :
    w'.timeout = timeout ∧
      (es = [] ∨ es = [.readinessTimeout w'.timeout] ∧ w'.phase = .done .escalated) := by
  obtain ⟨ht, hrec⟩ := h
  rcases hrec with hnil | ⟨hone, hd⟩
  · exact ⟨hl.timeout.trans ht, .inl hnil⟩
  · rw [hdone hd]
    exact ⟨ht, .inr ⟨hone, hd⟩⟩

theorem escalationRecord_call (h : EscalationRecord s) (hc : Coherent s.phase s.listener)
    (c : Call) : EscalationRecord (s.call c) := by
  rcases escalations_call hc c with heq | ⟨d, w, f, rfl, hp, hf, hesc, hphase⟩
  · match hp : s.phase with
    | .notStarted =>
      have he : s.escalations = [] := by simpa [EscalationRecord, hp] using h
      rcases phase_call_of_notStarted hp c with hp' | ⟨a, l, addr, rfl, hl, hp'⟩
      · simp [EscalationRecord, hp', heq, he]
      · simp [EscalationRecord, hp', heq, he, Watcher.spawn, watchSettings]
    | .running w =>
      have hw : EscalationRecord s := h
      simp only [EscalationRecord, hp] at hw
      rcases phase_call_of_running hp c with hp' | ⟨d, rfl, hp'⟩ | ⟨rfl, hp'⟩
      · simp only [EscalationRecord, hp', heq, config_call]
        exact hw
      · simp only [EscalationRecord, hp', heq, config_call]
        exact record_of_later (Watcher.later_run w _ _)
          (fun hd => congrArg Prod.fst (Watcher.run_of_done hd _ _)) hw
      · simp only [EscalationRecord, hp', heq, config_call]
        exact record_of_later (Watcher.later_wake w.stop.1 _)
          (fun hd => congrArg Prod.fst (Watcher.wake_of_done (w := w.stop.1) hd _)) hw
    | .stopped w =>
      have hw : EscalationRecord s := h
      simp only [EscalationRecord, hp] at hw
      simp only [EscalationRecord, phase_call_of_stopped hp c, heq, config_call]
      exact hw
  · obtain ⟨hft, -, -, -, hnone, hdone, -⟩ := Watcher.run_escalates hf
    have hw : EscalationRecord s := h
    simp only [EscalationRecord, hp] at hw
    obtain ⟨ht, hrec⟩ := hw
    have hnil : s.escalations = [] := by
      rcases hrec with hnil | ⟨-, hd⟩
      · exact hnil
      · exact absurd hd (Watcher.outcome?_eq_none.1 hnone _)
    have hl := @Watcher.later_run s.listener.running s.gate.enabled w s.clock (s.clock + d)
    simp only [EscalationRecord, hphase, hesc, hnil, config_call, List.nil_append, hft]
    exact ⟨hl.timeout.trans ht, .inr ⟨by rw [hl.timeout], hdone⟩⟩

theorem Fresh.escalationRecord (h : s.Fresh) : EscalationRecord s := by
  simp [EscalationRecord, h.notStarted, h.noEscalation]

theorem escalationRecord_runCalls (h : s.Fresh) (cs : List Call) :
    EscalationRecord (s.runCalls cs) :=
  (runCalls_induction (fun s => Coherent s.phase s.listener ∧ EscalationRecord s)
    (fun _ c h => ⟨coherent_call h.1 c, escalationRecord_call h.2 h.1 c⟩) cs
    ⟨h.coherent, h.escalationRecord⟩).2

/-- A fresh server escalates, over any run, nothing or once its configured readiness timeout. -/
theorem escalations_runCalls (h : s.Fresh) (cs : List Call) :
    (s.runCalls cs).escalations = [] ∨
      (s.runCalls cs).escalations = [.readinessTimeout s.config.readinessTimeout] := by
  have hr := escalationRecord_runCalls h cs
  unfold EscalationRecord at hr
  split at hr
  · exact .inl hr
  · next w _ =>
    rcases hr with ⟨ht, hnil | ⟨hone, -⟩⟩
    · exact .inl hnil
    · rw [hone, ht, config_runCalls]
      exact .inr rfl
  · next w _ =>
    rcases hr with ⟨ht, hnil | ⟨hone, -⟩⟩
    · exact .inl hnil
    · rw [hone, ht, config_runCalls]
      exact .inr rfl

/-! ## The history behind an escalation -/

/-- Some call of `pre` started the server at instant `spawn`: a start made while the server was
not started, after which it ran. -/
def StartedAt (s0 : Server) (pre : List Call) (spawn : Nat) : Prop :=
  ∃ pre₁ a mid, pre = pre₁ ++ .startAt a :: mid ∧ (s0.runCalls pre₁).lifecycle = .notStarted ∧
    (s0.runCalls (pre₁ ++ [.startAt a])).lifecycle = .running ∧ (s0.runCalls pre₁).clock = spawn

/-- Some call of `pre` is a stop made while the server ran. -/
def StoppedWhileRunning (s0 : Server) (pre : List Call) : Prop :=
  ∃ pre₁ mid, pre = pre₁ ++ .stop :: mid ∧ (s0.runCalls pre₁).lifecycle = .running

/-- The watcher of a running server is the one a start of the run spawned, made while the
server was not started, at the instant of that start. -/
theorem startedAt_of_running {s0 : Server} (h0 : s0.phase = .notStarted) {pre : List Call} :
    ∀ {w : Watcher}, (s0.runCalls pre).phase = .running w →
      StartedAt s0 pre w.spawnedAt ∧
        (Watcher.spawn (watchSettings s0.config) w.spawnedAt).Later w := by
  induction pre using List.reverseRecOn with
  | nil =>
    intro w h
    rw [runCalls_nil, h0] at h
    cases h
  | append_singleton pre c ih =>
    intro w h
    rw [runCalls_concat] at h
    match hp : (s0.runCalls pre).phase with
    | .notStarted =>
      rcases phase_call_of_notStarted hp c with hp' | ⟨a, l, addr, rfl, -, hp'⟩
      · rw [hp'] at h
        cases h
      · rw [hp'] at h
        cases h
        refine ⟨⟨pre, a, [], rfl, lifecycle_eq_notStarted.2 hp, ?_, rfl⟩, ?_⟩
        · rw [runCalls_concat, lifecycle_eq_running]
          exact ⟨_, hp'⟩
        · rw [config_runCalls]
          exact Watcher.Later.refl _
    | .running w' =>
      obtain ⟨⟨pre₁, a, mid, hpre, h1, h2, h3⟩, hl⟩ := ih hp
      have hw : w'.Later w := by
        rcases phase_call_of_running hp c with hp' | ⟨d, -, hp'⟩ | ⟨-, hp'⟩
        · rw [hp'] at h
          cases h
          exact Watcher.Later.refl _
        · rw [hp'] at h
          cases h
          exact Watcher.later_run _ _ _
        · rw [hp'] at h
          cases h
      refine ⟨⟨pre₁, a, mid ++ [c], by simp [hpre], h1, h2, h3.trans hw.spawnedAt.symm⟩, ?_⟩
      rw [hw.spawnedAt]
      exact hl.trans hw
    | .stopped w' =>
      rw [phase_call_of_stopped hp c] at h
      cases h

/-- After a stop that found the server running, the server is stopped for good. -/
theorem stopped_of_stoppedWhileRunning {s0 : Server} {pre : List Call}
    (h : StoppedWhileRunning s0 pre) : ∃ w, (s0.runCalls pre).phase = .stopped w := by
  obtain ⟨pre₁, mid, rfl, hrun⟩ := h
  obtain ⟨w, hw⟩ := lifecycle_eq_running.1 hrun
  rw [runCalls_append, runCalls_cons]
  exact ⟨_, phase_runCalls_of_stopped (phase_stop_of_running hw) mid⟩

/-! ## The rule -/

/-- The rule a server's readiness escalations follow over every run from `s0`. -/
structure EscalationDiscipline (s0 : Server) : Prop where
  /-- A run escalates at most once, and only the configured readiness timeout. -/
  atMostOnce : ∀ cs, (s0.runCalls cs).escalations = [] ∨
    (s0.runCalls cs).escalations = [.readinessTimeout s0.config.readinessTimeout]
  /-- A call that escalates is time passing on a running server. Its watcher was spawned by a
  start of the run, at instant `w.spawnedAt`; one of its ticks `t` is strictly past the deadline
  counted from that instant, which is representable; the listener still serves; readiness was
  never enabled before; and no earlier stop found the server running. -/
  whenEscalating : ∀ pre c,
    (s0.runCalls (pre ++ [c])).escalations ≠ (s0.runCalls pre).escalations →
      ∃ d w t, c = .wait d ∧ (s0.runCalls pre).phase = .running w ∧
        StartedAt s0 pre w.spawnedAt ∧
        (s0.runCalls pre).clock ≤ t ∧ t < (s0.runCalls pre).clock + d ∧
        w.spawnedAt + s0.config.readinessTimeout.toNanos < instantLimit ∧
        w.spawnedAt + s0.config.readinessTimeout.toNanos < t ∧
        (s0.runCalls pre).listener.running = true ∧
        .enableReadiness ∉ pre ∧ ¬ StoppedWhileRunning s0 pre

theorem readiness_escalation {s0 : Server} (h0 : s0.Fresh) : EscalationDiscipline s0 where
  atMostOnce := escalations_runCalls h0
  whenEscalating pre c h := by
    rw [runCalls_concat] at h
    obtain ⟨d, w, t, rfl, hp, hs, he, ht, hlt, ho⟩ := escalating_call (coherent_runCalls h0 pre) h
    obtain ⟨hstart, hl⟩ := startedAt_of_running h0.notStarted hp
    -- the deadline is the one the start computed from its own instant
    obtain ⟨dl, hdl, hdt⟩ := Watcher.overdue_iff.1 ho
    rw [hl.deadline] at hdl
    obtain ⟨hrep, rfl⟩ := Watcher.deadlineFrom_eq_some.1 hdl
    refine ⟨d, w, t, rfl, hp, hstart, ht, hlt, hrep, hdt, hs, fun hmem => ?_, fun hstop => ?_⟩
    · rw [enabled_runCalls_of_mem hmem] at he
      cases he
    · obtain ⟨w', hw'⟩ := stopped_of_stoppedWhileRunning hstop
      rw [hw'] at hp
      cases hp

theorem readiness_escalation_checkout :
    let s0 : Server :=
      { config := .default, service := ⟨"checkout", "1.2.3"⟩,
        metrics := { service := ⟨"checkout", "1.2.3"⟩, config := .standard }, listener := {} }
    s0.Fresh ∧ EscalationDiscipline s0 :=
  have h0 : Fresh _ := ⟨rfl, rfl, rfl, rfl, rfl, rfl⟩
  ⟨h0, readiness_escalation h0⟩

/-- The rule is not empty: a server started at instant zero and never enabled escalates at its
first tick past one minute, `1 ns + 4 × 15 s`. -/
example :
    (({ config := .default, service := ⟨"checkout", "1.2.3"⟩,
        metrics := { service := ⟨"checkout", "1.2.3"⟩, config := .standard },
        listener := {} } : Server).runCalls
      [.startAt "127.0.0.1:0", .wait 60000000002]).escalations =
      [.readinessTimeout (Duration.ofSecs 60)] := by
  decide +kernel

end Sidecar.Server
