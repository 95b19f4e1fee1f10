import Mathlib.Data.List.Induction
import Mathlib.Data.String.Basic
import Sidecar.Http.Router
import Sidecar.Proofs.ServerRun
import Sidecar.Proofs.TextOrder
/-! # The readiness gate over a run

A gate starts with no checks and disabled. Over any run of a server, whose calls may register
checks, enable readiness and evaluate in any order, its table is what the registrations leave:
the names ever registered, each once and in increasing byte order, each with the probe
registered under it last; it is enabled once some call enabled it, and evaluations change
nothing. An evaluation runs nothing before the gate is enabled; afterwards it runs the checks in
table order up to the first that does not pass (`FirstFailure`), and `/_hc` answers from its
result alone.

Main statement: `readiness_gate_rules`. -/

namespace Sidecar.Readiness

/-! ## The sorted check table -/

namespace CheckTable

variable {n m : String} {p q : Probe} {t : CheckTable}

theorem mem_names_insert : m ∈ (insert n p t).map (·.1) ↔ m = n ∨ m ∈ t.map (·.1) := by
  fun_induction insert n p t with
  | case1 => simp
  | case2 k q rest => simp
  | case3 => simp
  | case4 k q rest _ _ ih =>
    simp only [List.map_cons, List.mem_cons] at ih ⊢
    rw [ih]
    tauto

/-- Inserting into a table sorted by name keeps it sorted. -/
theorem sorted_insert (h : (t.map (·.1)).Pairwise (· < ·)) :
    ((insert n p t).map (·.1)).Pairwise (· < ·) := by
  fun_induction insert n p t with
  | case1 => simp
  | case2 k q rest hlt =>
    have hk := List.pairwise_cons.1 h
    refine List.pairwise_cons.2 ⟨?_, h⟩
    intro x hx
    rcases List.mem_cons.1 hx with rfl | hx
    · exact hlt
    · exact lt_trans hlt (hk.1 x hx)
  | case3 => exact h
  | case4 k q rest hnlt hne ih =>
    have hk := List.pairwise_cons.1 h
    have hkn : k < n := lt_of_le_of_ne (not_lt.1 hnlt) (Ne.symm hne)
    refine List.pairwise_cons.2 ⟨fun x hx => ?_, ih hk.2⟩
    rcases mem_names_insert.1 hx with rfl | hx
    · exact hkn
    · exact hk.1 x hx

/-- In a table sorted by name, the first name is the least. -/
theorem le_of_mem_cons {k : String} {r : Probe} {rest : CheckTable}
    (h : (((k, r) :: rest).map (·.1)).Pairwise (· < ·)) (hm : (m, q) ∈ (k, r) :: rest) : k ≤ m := by
  rcases List.mem_cons.1 hm with hm | hm
  · cases hm
    exact le_rfl
  · exact le_of_lt ((List.pairwise_cons.1 h).1 m (List.mem_map.2 ⟨(m, q), hm, rfl⟩))

/-- In a table sorted by name, inserting a check replaces the entry of its name and keeps every
other entry. -/
theorem mem_insert (h : (t.map (·.1)).Pairwise (· < ·)) :
    (m, q) ∈ insert n p t ↔ (m = n ∧ q = p) ∨ ((m, q) ∈ t ∧ m ≠ n) := by
  fun_induction insert n p t with
  | case1 => simp
  | case2 k r rest hlt =>
    have hne : (m, q) ∈ (k, r) :: rest → m ≠ n := fun hm =>
      ne_of_gt (lt_of_lt_of_le hlt (le_of_mem_cons h hm))
    rw [List.mem_cons, Prod.mk.injEq]
    tauto
  | case3 r rest =>
    have hne : (m, q) ∈ rest → m ≠ n := fun hm =>
      ne_of_gt ((List.pairwise_cons.1 h).1 m (List.mem_map.2 ⟨(m, q), hm, rfl⟩))
    rw [List.mem_cons, List.mem_cons, Prod.mk.injEq, Prod.mk.injEq]
    tauto
  | case4 k r rest _ hkn ih =>
    rw [List.mem_cons, ih (List.pairwise_cons.1 h).2, List.mem_cons, Prod.mk.injEq]
    have hk : m = k → m ≠ n := fun hm => hm ▸ Ne.symm hkn
    tauto

end CheckTable

/-! ## Evaluating the checks -/

/-- An evaluation of the checks `t`: either every check passes, all of them run in table order
and the answer is ready; or the checks before the first one that does not pass run and pass,
that one runs last, and its error or panic is the answer. -/
def FirstFailure (t : CheckTable) (e : Evaluation) : Prop :=
  ((∀ x ∈ t, x.2.verdict = .pass) ∧ e.result = .ready ∧ e.ran = t.map (·.1)) ∨
    ∃ pre n p post, t = pre ++ (n, p) :: post ∧ (∀ x ∈ pre, x.2.verdict = .pass) ∧
      e.ran = pre.map (·.1) ++ [n] ∧
      ((∃ err, p.verdict = .fail err ∧ e.result = .unhealthy n err) ∨
        (∃ m, p.verdict = .panic m ∧ e.result = .panicked m))

theorem runChecks_firstFailure (t : CheckTable) : FirstFailure t (runChecks t) := by
  induction t with
  | nil => exact .inl ⟨by simp, rfl, rfl⟩
  | cons x rest ih =>
    obtain ⟨n, p⟩ := x
    cases hv : p.verdict with
    | pass =>
      simp only [runChecks, hv]
      rcases ih with ⟨hall, hres, hran⟩ | ⟨pre, k, q, post, rfl, hpre, hran, hres⟩
      · refine .inl ⟨?_, hres, by simp [hran]⟩
        intro y hy
        rcases List.mem_cons.1 hy with rfl | hy
        · exact hv
        · exact hall y hy
      · refine .inr ⟨(n, p) :: pre, k, q, post, rfl, ?_, by simp [hran], hres⟩
        intro y hy
        rcases List.mem_cons.1 hy with rfl | hy
        · exact hv
        · exact hpre y hy
    | fail err =>
      simp only [runChecks, hv]
      exact .inr ⟨[], n, p, rest, rfl, by simp, rfl, .inl ⟨err, hv, rfl⟩⟩
    | panic msg =>
      simp only [runChecks, hv]
      exact .inr ⟨[], n, p, rest, rfl, by simp, rfl, .inr ⟨msg, hv, rfl⟩⟩

theorem ran_isPrefix_names (t : CheckTable) : (runChecks t).ran <+: t.map (·.1) := by
  induction t with
  | nil => exact List.prefix_refl _
  | cons x rest ih =>
    obtain ⟨n, p⟩ := x
    simp only [runChecks, List.map_cons]
    cases p.verdict with
    | pass => exact List.cons_prefix_cons.2 ⟨rfl, ih⟩
    | fail err => exact List.cons_prefix_cons.2 ⟨rfl, List.nil_prefix⟩
    | panic msg => exact List.cons_prefix_cons.2 ⟨rfl, List.nil_prefix⟩

namespace Gate

theorem evaluate_of_disabled {g : Gate} (h : g.enabled = false) :
    g.evaluate = ⟨.notEnabled, [], 0⟩ := by
  simp [evaluate, h]

theorem evaluate_of_enabled {g : Gate} (h : g.enabled = true) : g.evaluate = runChecks g.checks := by
  simp [evaluate, h]

/-- A gate whose names are sorted runs its checks in strictly increasing order of names, so
each at most once. -/
theorem ran_sorted {g : Gate} (h : g.names.Pairwise (· < ·)) : g.evaluate.ran.Pairwise (· < ·) := by
  cases hen : g.enabled
  · simp [evaluate_of_disabled hen]
  · rw [evaluate_of_enabled hen]
    exact h.sublist (ran_isPrefix_names g.checks).sublist

end Gate

end Sidecar.Readiness

namespace Sidecar.Http

open Readiness

theorem handle_health (e : Endpoints) :
    e.handle .get "/_hc" = ⟨healthResponse e.gate.evaluate.result, e.gate.evaluate.ran⟩ := rfl

theorem healthResponse_eq_ok (r : Health) : healthResponse r = .text 200 "ok" ↔ r = .ready := by
  cases r <;> simp [healthResponse, Response.text]

theorem healthResponse_eq_notEnabled (r : Health) :
    healthResponse r = .text 503 "not enabled" ↔ r = .notEnabled := by
  cases r <;> simp [healthResponse, Response.text]

/-- A failing or panicking check answers `unhealthy`, whatever its name and error. -/
theorem healthResponse_eq_unhealthy (r : Health) :
    healthResponse r = .text 503 "unhealthy" ↔ r ≠ .ready ∧ r ≠ .notEnabled := by
  cases r <;> simp [healthResponse, Response.text]

end Sidecar.Http

namespace Sidecar.Server

open Readiness

/-! ## The gate over a run -/

/-- `p` is the probe registered under `n` last among the calls `cs`. -/
def LastRegistered (cs : List Call) (n : String) (p : Probe) : Prop :=
  ∃ pre post, cs = pre ++ .registerCheck n p :: post ∧ ∀ q, .registerCheck n q ∉ post

theorem not_lastRegistered_nil {n : String} {p : Probe} : ¬LastRegistered [] n p := by
  rintro ⟨pre, post, h, -⟩
  simp at h

/-- One more call either is the last registration of `n`, or leaves the last one as it was
when it registers another name or nothing. -/
theorem lastRegistered_concat {cs : List Call} {c : Call} {n : String} {p : Probe} :
    LastRegistered (cs ++ [c]) n p ↔
      c = .registerCheck n p ∨ (LastRegistered cs n p ∧ ∀ q, c ≠ .registerCheck n q) := by
  constructor
  · rintro ⟨pre, post, h, hpost⟩
    rcases List.eq_nil_or_concat post with rfl | ⟨post, b, rfl⟩
    · obtain ⟨-, hc⟩ := List.append_inj' h rfl
      exact .inl (List.singleton_inj.1 hc)
    · have h' : cs ++ [c] = (pre ++ .registerCheck n p :: post) ++ [b] := by
        rw [h]
        simp
      obtain ⟨hcs, hc⟩ := List.append_inj' h' rfl
      obtain rfl := List.singleton_inj.1 hc
      refine .inr ⟨⟨pre, post, hcs, fun q hq => hpost q (by simp [hq])⟩, fun q hq => ?_⟩
      exact hpost q (by simp [hq])
  · rintro (rfl | ⟨⟨pre, post, rfl, hpost⟩, hc⟩)
    · exact ⟨cs, [], rfl, by simp⟩
    · refine ⟨pre, post ++ [c], by simp, fun q hq => ?_⟩
      rcases List.mem_append.1 hq with hq | hq
      · exact hpost q hq
      · exact hc q (List.mem_singleton.1 hq).symm

theorem gate_runCalls_concat (s : Server) (cs : List Call) (c : Call) :
    (s.runCalls (cs ++ [c])).gate = c.onGate (s.runCalls cs).gate := by
  rw [runCalls_concat, gate_call]

variable {s : Server}

/-- A run enables readiness exactly when one of its calls does: nothing disables it. -/
theorem enabled_runCalls_iff (h0 : s.gate.enabled = false) (cs : List Call) :
    (s.runCalls cs).gate.enabled = true ↔ .enableReadiness ∈ cs := by
  induction cs using List.reverseRecOn with
  | nil => simp [h0]
  | append_singleton cs c ih =>
    rw [gate_runCalls_concat, List.mem_append, ← ih, List.mem_singleton]
    cases c <;> simp [Call.onGate, Gate.enable, Gate.register]

theorem sorted_runCalls (h0 : (s.gate.checks.map (·.1)).Pairwise (· < ·)) (cs : List Call) :
    ((s.runCalls cs).gate.checks.map (·.1)).Pairwise (· < ·) := by
  refine runCalls_induction (fun s => (s.gate.checks.map (·.1)).Pairwise (· < ·))
    (fun s c hs => ?_) cs h0
  rw [gate_call]
  cases c with
  | registerCheck n p => exact CheckTable.sorted_insert hs
  | startAt | stop | enableReadiness | evaluate | wait => exact hs

/-- The names in the table of a run are those its calls registered. -/
theorem mem_names_runCalls (h0 : s.gate.checks = []) (cs : List Call) (n : String) :
    n ∈ (s.runCalls cs).gate.names ↔ ∃ p, .registerCheck n p ∈ cs := by
  induction cs using List.reverseRecOn with
  | nil => simp [Gate.names, h0]
  | append_singleton cs c ih =>
    rw [gate_runCalls_concat]
    cases c with
    | registerCheck m q =>
      simp only [Call.onGate, Gate.register, Gate.names] at ih ⊢
      rw [CheckTable.mem_names_insert, ih]
      simp only [List.mem_append, List.mem_singleton, Call.registerCheck.injEq]
      constructor
      · rintro (rfl | ⟨p, hp⟩)
        · exact ⟨q, .inr ⟨rfl, rfl⟩⟩
        · exact ⟨p, .inl hp⟩
      · rintro ⟨p, hp | ⟨rfl, -⟩⟩
        · exact .inr ⟨p, hp⟩
        · exact .inl rfl
    | startAt | stop | evaluate | wait => simpa [Call.onGate] using ih
    | enableReadiness => simpa [Call.onGate, Gate.enable, Gate.names] using ih

/-- The table of a run holds, for each name, the probe registered under it last. -/
theorem mem_checks_runCalls (h0 : s.gate.checks = []) (cs : List Call) (n : String) (p : Probe) :
    (n, p) ∈ (s.runCalls cs).gate.checks ↔ LastRegistered cs n p := by
  induction cs using List.reverseRecOn with
  | nil => simp [h0, not_lastRegistered_nil]
  | append_singleton cs c ih =>
    rw [gate_runCalls_concat, lastRegistered_concat, ← ih]
    cases c with
    | registerCheck m q =>
      have hsorted := @sorted_runCalls s (by simp [h0]) cs
      simp only [Call.onGate, Gate.register]
      rw [CheckTable.mem_insert hsorted]
      simp only [Call.registerCheck.injEq, ne_eq]
      constructor
      · rintro (⟨rfl, rfl⟩ | ⟨hm, hne⟩)
        · exact .inl ⟨rfl, rfl⟩
        · exact .inr ⟨hm, fun _ h => hne h.1.symm⟩
      · rintro (⟨rfl, rfl⟩ | ⟨hm, hne⟩)
        · exact .inl ⟨rfl, rfl⟩
        · exact .inr ⟨hm, fun h => hne q ⟨h.symm, rfl⟩⟩
    | startAt | stop | evaluate | wait => simp [Call.onGate]
    | enableReadiness => simp [Call.onGate, Gate.enable]

/-- What the readiness gate is after the calls `cs` from an empty gate, and what evaluating it
and asking `/_hc` answer. -/
structure GateRules (cs : List Call) (g : Gate) : Prop where
  /-- The gate is enabled exactly when some call enabled it. -/
  enabled : g.enabled = true ↔ .enableReadiness ∈ cs
  /-- The names are in strictly increasing byte order. -/
  sorted : g.names.Pairwise fun a b => Text.utf8Bytes a < Text.utf8Bytes b
  /-- The names are those ever registered. -/
  names : ∀ n, n ∈ g.names ↔ ∃ p, .registerCheck n p ∈ cs
  /-- Each name holds the probe registered under it last. -/
  latest : ∀ n p, (n, p) ∈ g.checks ↔ LastRegistered cs n p
  /-- Before readiness is enabled, an evaluation runs nothing and answers `notEnabled`. -/
  disabled : .enableReadiness ∉ cs → g.evaluate.result = .notEnabled ∧ g.evaluate.ran = []
  /-- Afterwards it runs the checks in table order up to the first that does not pass. -/
  firstFailure : .enableReadiness ∈ cs → FirstFailure g.checks g.evaluate
  /-- Checks run in strictly increasing byte order of their names, so none runs twice. -/
  ranSorted : g.evaluate.ran.Pairwise fun a b => Text.utf8Bytes a < Text.utf8Bytes b
  /-- `/_hc` runs the same checks and answers 200 `ok` exactly when ready, 503 `not enabled`
  exactly before enabling, and 503 `unhealthy` otherwise. -/
  health : ∀ e : Http.Endpoints, e.gate = g →
    (e.handle .get "/_hc").ran = g.evaluate.ran ∧
      ((e.handle .get "/_hc").response = .text 200 "ok" ↔ g.evaluate.result = .ready) ∧
      ((e.handle .get "/_hc").response = .text 503 "not enabled" ↔
        g.evaluate.result = .notEnabled) ∧
      ((e.handle .get "/_hc").response = .text 503 "unhealthy" ↔
        g.evaluate.result ≠ .ready ∧ g.evaluate.result ≠ .notEnabled)

/-- Over every run from an empty gate, the gate, its evaluation and `/_hc` follow `GateRules`. -/
theorem readiness_gate_rules {s0 : Server} (h0 : s0.gate = {}) (cs : List Call) :
    GateRules cs (s0.runCalls cs).gate := by
  have hen := @enabled_runCalls_iff s0 (by simp [h0]) cs
  have hsorted := @sorted_runCalls s0 (by simp [h0]) cs
  refine ⟨hen, hsorted.imp (Text.lt_iff_utf8Bytes_lt _ _).1, mem_names_runCalls (by simp [h0]) cs,
    mem_checks_runCalls (by simp [h0]) cs, fun hne => ?_, fun hmem => ?_,
    (Gate.ran_sorted hsorted).imp (Text.lt_iff_utf8Bytes_lt _ _).1, fun e he => ?_⟩
  · have hoff : (s0.runCalls cs).gate.enabled = false := by
      simpa [← hen] using hne
    simp [Gate.evaluate_of_disabled hoff]
  · rw [Gate.evaluate_of_enabled (hen.2 hmem)]
    exact runChecks_firstFailure _
  · rw [Http.handle_health, he]
    exact ⟨rfl, Http.healthResponse_eq_ok _, Http.healthResponse_eq_notEnabled _,
      Http.healthResponse_eq_unhealthy _⟩

/-- The rules over a run that registers a failing check, evaluates, replaces the check by a
passing one, enables readiness, registers a second check and evaluates again. -/
theorem readiness_gate_rules_checkout :
    let s0 : Server :=
      { config := .default, service := ⟨"checkout", "1.2.3"⟩,
        metrics := { service := ⟨"checkout", "1.2.3"⟩, config := .standard }, listener := {} }
    let cs : List Call :=
      [.registerCheck "db" ⟨.fail "down", 0⟩, .evaluate, .registerCheck "db" Probe.passing,
        .enableReadiness, .registerCheck "cache" Probe.passing, .evaluate]
    s0.gate = {} ∧ GateRules cs (s0.runCalls cs).gate :=
  ⟨rfl, readiness_gate_rules rfl _⟩

end Sidecar.Server
