import Sidecar.Readiness.StopChannel
/-! # A stop channel shared by threads

The channel's flag sits behind a reader-writer lock. A section run unless stopped reads the flag
under the shared guard and keeps the guard while it runs; a stop raises the flag under the
exclusive guard, so it waits until no section runs; `is_stopped` reads the flag under the
shared guard; a wait returns once it reads the flag raised, and once the handle is gone nothing
can raise it. Each thread makes one call at a time, and every signal end reads the same flag,
clones made after a stop included. A run is any sequence of the threads' atomic actions that
the lock allows (`Threads.step`).

Proved here, for every run from a fresh channel (`stop_channel_rules`):

* the flag is raised exactly when some stop has returned (`stopped_reach`);
* a stop reports delivery exactly when no stop returned before it, so exactly the first does;
* `is_stopped`, on the handle or on any signal end, answers whether some stop has returned;
* a section runs exactly when no stop has returned before it takes the guard;
* a stop that returns after an instant at which a section was running returns after that
  section has ended (`leave_mem_of_stop`);
* a wait can return exactly when some stop has returned, and never once the handle was dropped
  before any stop. -/

namespace Sidecar.Readiness

/-- The threads sharing one stop channel: the channel, and which threads are inside which call. -/
structure Threads where
  channel : StopChannel := {}
  /-- Threads running a section, each holding the shared guard. -/
  inSection : List Nat := []
  /-- Threads inside a stop, waiting for the exclusive guard. -/
  stopping : List Nat := []
  /-- Threads inside a wait. -/
  waiting : List Nat := []

/-- One atomic action of one thread. -/
inductive Action where
  /-- Thread `t` runs a section unless stopped, on signal end `i`: it takes the shared guard and
  reads the flag; only when the flag is down does the section start, holding the guard. -/
  | enter (t i : Nat)
  /-- The section of thread `t` returns, releasing its guard. -/
  | leave (t : Nat)
  | callStop (t : Nat)
  /-- The stop of thread `t` takes the exclusive guard, raises the flag and returns. -/
  | returnStop (t : Nat)
  /-- `is_stopped` on signal end `i`. -/
  | askSignal (i : Nat)
  /-- `is_stopped` on the handle. -/
  | askHandle
  | cloneSignal
  /-- Thread `t` starts waiting on signal end `i`. -/
  | callWait (t i : Nat)
  | returnWait (t : Nat)
  | dropHandle
deriving DecidableEq

inductive Answer where
  | done
  /-- Whether the section starts. -/
  | runs (b : Bool)
  /-- Whether this stop delivered the signal. -/
  | delivered (b : Bool)
  /-- Whether the flag is raised. -/
  | stopped (b : Bool)
  /-- The number of a new signal end. -/
  | signal (i : Nat)
deriving DecidableEq

namespace Threads

def idle (s : Threads) (t : Nat) : Prop := t ∉ s.inSection ∧ t ∉ s.stopping ∧ t ∉ s.waiting

instance (s : Threads) (t : Nat) : Decidable (s.idle t) := inferInstanceAs (Decidable (_ ∧ _))

/-- One action, when the lock and the threads' calls allow it. -/
def step (s : Threads) : Action → Option (Threads × Answer)
  | .enter t i =>
    if s.idle t ∧ s.channel.hasSignal i then
      match s.channel.unlessStopped (fun _ => ()) with
      | some () => some ({ s with inSection := t :: s.inSection }, .runs true)
      | none => some (s, .runs false)
    else none
  | .leave t =>
    if t ∈ s.inSection then some ({ s with inSection := s.inSection.erase t }, .done) else none
  | .callStop t =>
    if s.idle t ∧ s.channel.handleDropped = false then
      some ({ s with stopping := t :: s.stopping }, .done)
    else none
  | .returnStop t =>
    if t ∈ s.stopping ∧ s.inSection = [] then
      s.channel.stop?.map fun (c, d) =>
        ({ s with channel := c, stopping := s.stopping.erase t }, .delivered d)
    else none
  | .askSignal i => if s.channel.hasSignal i then some (s, .stopped s.channel.isStopped) else none
  | .askHandle => s.channel.handleIsStopped?.map fun b => (s, .stopped b)
  | .cloneSignal => some ({ s with channel := s.channel.cloneSignal.1 }, .signal s.channel.cloneSignal.2)
  | .callWait t i =>
    if s.idle t ∧ s.channel.hasSignal i then some ({ s with waiting := t :: s.waiting }, .done)
    else none
  | .returnWait t =>
    if t ∈ s.waiting ∧ s.channel.waitCompletes = true then
      some ({ s with waiting := s.waiting.erase t }, .done)
    else none
  | .dropHandle =>
    -- the handle cannot go while a stop is using it
    if s.stopping = [] then s.channel.dropHandle?.map fun c => ({ s with channel := c }, .done)
    else none

/-- The state a run of actions reaches, if every action is allowed in turn. -/
def reach (s : Threads) : List Action → Option Threads
  | [] => some s
  | a :: as =>
    match s.step a with
    | some (s', _) => s'.reach as
    | none => none

variable {s s' s'' : Threads} {a : Action} {r : Answer} {t : Nat}

/-! ## Runs -/

@[simp] theorem reach_nil (s : Threads) : s.reach [] = some s := rfl

theorem reach_cons_of_step (h : s.step a = some (s', r)) (as : List Action) :
    s.reach (a :: as) = s'.reach as := by
  simp [reach, h]

theorem reach_cons_eq_some {as : List Action} (h : s.reach (a :: as) = some s'') :
    ∃ s' r, s.step a = some (s', r) ∧ s'.reach as = some s'' := by
  unfold reach at h
  split at h
  · next s' r hs => exact ⟨s', r, hs, h⟩
  · cases h

theorem reach_append {as bs : List Action} (h : s.reach as = some s') :
    s.reach (as ++ bs) = s'.reach bs := by
  induction as generalizing s with
  | nil => cases h; rfl
  | cons a as ih =>
    obtain ⟨s₁, r, hs, hr⟩ := reach_cons_eq_some h
    rw [List.cons_append, reach_cons_of_step hs]
    exact ih hr

theorem reach_append_eq_some {as bs : List Action} (h : s.reach (as ++ bs) = some s'') :
    ∃ s', s.reach as = some s' ∧ s'.reach bs = some s'' := by
  induction as generalizing s with
  | nil => exact ⟨s, rfl, h⟩
  | cons a as ih =>
    obtain ⟨s₁, r, hs, hr⟩ := reach_cons_eq_some h
    obtain ⟨s₂, h₂, h₃⟩ := ih hr
    exact ⟨s₂, by rw [reach_cons_of_step hs]; exact h₂, h₃⟩

/-- What holds at the start and is kept by every allowed action holds at every state a run
reaches. -/
theorem reach_induction (P : Threads → Prop)
    (hstep : ∀ s a s' r, P s → s.step a = some (s', r) → P s') :
    ∀ (as : List Action) {s s'' : Threads}, P s → s.reach as = some s'' → P s''
  | [], _, _, h, hr => by cases hr; exact h
  | a :: as, _, _, h, hr => by
    obtain ⟨s', r, hs, hr'⟩ := reach_cons_eq_some hr
    exact reach_induction P hstep as (hstep _ _ _ _ h hs) hr'

/-! ## One action -/

/-- Everything one action can do. -/
theorem step_cases (h : s.step a = some (s', r)) :
    (∃ t i, a = .enter t i ∧ s.idle t ∧
      ((s.channel.stopped = false ∧ s' = { s with inSection := t :: s.inSection } ∧
          r = .runs true) ∨
        (s.channel.stopped = true ∧ s' = s ∧ r = .runs false))) ∨
    (∃ t, a = .leave t ∧ t ∈ s.inSection ∧ s' = { s with inSection := s.inSection.erase t }) ∨
    (∃ t, a = .callStop t ∧ s.idle t ∧ s.channel.handleDropped = false ∧
      s' = { s with stopping := t :: s.stopping }) ∨
    (∃ t, a = .returnStop t ∧ t ∈ s.stopping ∧ s.inSection = [] ∧
      s.channel.handleDropped = false ∧
      s' = { s with channel := { s.channel with stopped := true },
                    stopping := s.stopping.erase t } ∧
      r = .delivered (!s.channel.stopped)) ∨
    ((a = .askHandle ∨ ∃ i, a = .askSignal i) ∧ s' = s ∧ r = .stopped s.channel.stopped) ∨
    (a = .cloneSignal ∧ s' = { s with channel := s.channel.cloneSignal.1 }) ∨
    (∃ t i, a = .callWait t i ∧ s.idle t ∧ s' = { s with waiting := t :: s.waiting }) ∨
    (∃ t, a = .returnWait t ∧ t ∈ s.waiting ∧ s.channel.stopped = true ∧
      s' = { s with waiting := s.waiting.erase t }) ∨
    (a = .dropHandle ∧ s.stopping = [] ∧ s.channel.handleDropped = false ∧
      s' = { s with channel := { s.channel with handleDropped := true } }) := by
  cases a with
  | enter t i =>
    simp only [step, StopChannel.unlessStopped] at h
    split at h
    · next hc =>
      refine .inl ⟨t, i, rfl, hc.1, ?_⟩
      cases hst : s.channel.stopped
      · simp only [hst] at h
        cases h
        exact .inl ⟨rfl, rfl, rfl⟩
      · simp only [hst] at h
        cases h
        exact .inr ⟨rfl, rfl, rfl⟩
    · cases h
  | leave t =>
    simp only [step] at h
    split at h
    · next hm =>
      cases h
      exact .inr (.inl ⟨t, rfl, hm, rfl⟩)
    · cases h
  | callStop t =>
    simp only [step] at h
    split at h
    · next hc =>
      cases h
      exact .inr (.inr (.inl ⟨t, rfl, hc.1, hc.2, rfl⟩))
    · cases h
  | returnStop t =>
    simp only [step] at h
    split at h
    · next hc =>
      unfold StopChannel.stop? at h
      split at h
      · cases h
      · next hd =>
        cases h
        exact .inr (.inr (.inr (.inl ⟨t, rfl, hc.1, hc.2, by simpa using hd, rfl, rfl⟩)))
    · cases h
  | askSignal i =>
    simp only [step] at h
    split at h
    · cases h
      exact .inr (.inr (.inr (.inr (.inl ⟨.inr ⟨i, rfl⟩, rfl, rfl⟩))))
    · cases h
  | askHandle =>
    simp only [step, StopChannel.handleIsStopped?] at h
    cases hd : s.channel.handleDropped
    · simp only [hd] at h
      cases h
      exact .inr (.inr (.inr (.inr (.inl ⟨.inl rfl, rfl, rfl⟩))))
    · simp [hd] at h
  | cloneSignal =>
    simp only [step] at h
    cases h
    exact .inr (.inr (.inr (.inr (.inr (.inl ⟨rfl, rfl⟩)))))
  | callWait t i =>
    simp only [step] at h
    split at h
    · next hc =>
      cases h
      exact .inr (.inr (.inr (.inr (.inr (.inr (.inl ⟨t, i, rfl, hc.1, rfl⟩))))))
    · cases h
  | returnWait t =>
    simp only [step] at h
    split at h
    · next hc =>
      cases h
      exact .inr (.inr (.inr (.inr (.inr (.inr (.inr (.inl ⟨t, rfl, hc.1, hc.2, rfl⟩)))))))
    · cases h
  | dropHandle =>
    simp only [step] at h
    split at h
    · next hs =>
      unfold StopChannel.dropHandle? at h
      split at h
      · cases h
      · next hd =>
        cases h
        exact .inr (.inr (.inr (.inr (.inr (.inr (.inr (.inr
          ⟨rfl, hs, by simpa using hd, rfl⟩)))))))
    · cases h

/-- The flag goes up only by a stop returning, and never comes down. -/
theorem stopped_step (h : s.step a = some (s', r)) :
    s'.channel.stopped = true ↔ s.channel.stopped = true ∨ ∃ t, a = .returnStop t := by
  rcases step_cases h with ⟨t, i, rfl, -, ⟨-, rfl, -⟩ | ⟨-, rfl, -⟩⟩ | ⟨t, rfl, -, rfl⟩ |
    ⟨t, rfl, -, -, rfl⟩ | ⟨t, rfl, -, -, -, rfl, -⟩ | ⟨rfl | ⟨i, rfl⟩, rfl, -⟩ | ⟨rfl, rfl⟩ |
    ⟨t, i, rfl, -, rfl⟩ | ⟨t, rfl, -, -, rfl⟩ | ⟨rfl, -, -, rfl⟩ <;>
  simp [StopChannel.cloneSignal]

/-- A returning stop finds no section running, and reports delivery exactly when the flag was
down. -/
theorem returnStop_step (h : s.step (.returnStop t) = some (s', r)) :
    s.inSection = [] ∧ r = .delivered (!s.channel.stopped) := by
  rcases step_cases h with ⟨_, _, ha, -⟩ | ⟨_, ha, -⟩ | ⟨_, ha, -⟩ | ⟨u, ha, -, hs, -, -, hr⟩ |
    ⟨ha | ⟨_, ha⟩, -⟩ | ⟨ha, -⟩ | ⟨_, _, ha, -⟩ | ⟨_, ha, -⟩ | ⟨ha, -⟩ <;> cases ha
  exact ⟨hs, hr⟩

/-- `is_stopped` answers the flag. -/
theorem ask_step (ha : a = .askHandle ∨ ∃ i, a = .askSignal i) (h : s.step a = some (s', r)) :
    r = .stopped s.channel.stopped := by
  rcases ha with rfl | ⟨i, rfl⟩ <;>
  rcases step_cases h with ⟨_, _, ha, -⟩ | ⟨_, ha, -⟩ | ⟨_, ha, -⟩ | ⟨_, ha, -⟩ |
    ⟨-, -, hr⟩ | ⟨ha, -⟩ | ⟨_, _, ha, -⟩ | ⟨_, ha, -⟩ | ⟨ha, -⟩ <;>
  first | cases ha | exact hr

/-- A section starts exactly when the flag is down. -/
theorem enter_step {i : Nat} (h : s.step (.enter t i) = some (s', r)) :
    r = .runs (!s.channel.stopped) := by
  rcases step_cases h with ⟨_, _, -, -, ⟨hf, -, rfl⟩ | ⟨ht, -, rfl⟩⟩ | ⟨_, ha, -⟩ | ⟨_, ha, -⟩ |
    ⟨_, ha, -⟩ | ⟨ha | ⟨_, ha⟩, -⟩ | ⟨ha, -⟩ | ⟨_, _, ha, -⟩ | ⟨_, ha, -⟩ | ⟨ha, -⟩
  · rw [hf]; rfl
  · rw [ht]; rfl
  all_goals cases ha

/-- A running section keeps running until its own thread leaves it. -/
theorem mem_inSection_step (h : s.step a = some (s', r)) (hm : t ∈ s.inSection)
    (ha : a ≠ .leave t) : t ∈ s'.inSection := by
  rcases step_cases h with ⟨u, i, rfl, -, ⟨-, rfl, -⟩ | ⟨-, rfl, -⟩⟩ | ⟨u, rfl, -, rfl⟩ |
    ⟨u, rfl, -, -, rfl⟩ | ⟨u, rfl, -, -, -, rfl, -⟩ | ⟨-, rfl, -⟩ | ⟨rfl, rfl⟩ |
    ⟨u, i, rfl, -, rfl⟩ | ⟨u, rfl, -, -, rfl⟩ | ⟨rfl, -, -, rfl⟩
  case inr.inl =>
    have hne : t ≠ u := fun heq => ha (heq ▸ rfl)
    exact (List.mem_erase_of_ne hne).2 hm
  all_goals simp [hm]

/-- A wait can return exactly when its thread waits and the flag is raised. -/
theorem returnWait_isSome : (s.step (.returnWait t)).isSome ↔
    t ∈ s.waiting ∧ s.channel.stopped = true := by
  by_cases hc : t ∈ s.waiting ∧ s.channel.waitCompletes = true
  · simp only [step, if_pos hc, Option.isSome_some, true_iff]
    exact hc
  · simp only [step, if_neg hc, Option.isSome_none, Bool.false_eq_true, false_iff]
    exact hc

/-- The handle is gone, so no stop is inside a call and none can begin. -/
def Dropped (s : Threads) : Prop := s.channel.handleDropped = true ∧ s.stopping = []

/-- The flag is down and nothing can raise it any more. -/
def StuckDown (s : Threads) : Prop := s.Dropped ∧ s.channel.stopped = false

theorem stuckDown_step (hd : s.StuckDown) (h : s.step a = some (s', r)) : s'.StuckDown := by
  obtain ⟨⟨hh, hs⟩, hf⟩ := hd
  rcases step_cases h with ⟨u, i, rfl, -, ⟨-, rfl, -⟩ | ⟨-, rfl, -⟩⟩ | ⟨u, rfl, -, rfl⟩ |
    ⟨u, rfl, -, hd, rfl⟩ | ⟨u, rfl, hu, -⟩ | ⟨-, rfl, -⟩ | ⟨rfl, rfl⟩ |
    ⟨u, i, rfl, -, rfl⟩ | ⟨u, rfl, -, -, rfl⟩ | ⟨rfl, -, hd, rfl⟩
  case inr.inr.inl =>
    rw [hh] at hd
    cases hd
  case inr.inr.inr.inl =>
    rw [hs] at hu
    cases hu
  case inr.inr.inr.inr.inr.inr.inr.inr =>
    rw [hh] at hd
    cases hd
  all_goals exact ⟨⟨hh, hs⟩, hf⟩

/-! ## Runs from a fresh channel -/

/-- Along a run, the flag is raised exactly when some stop has returned. -/
theorem stopped_reach {as : List Action} (h : s.reach as = some s'') :
    s''.channel.stopped = true ↔ s.channel.stopped = true ∨ ∃ t, .returnStop t ∈ as := by
  induction as generalizing s with
  | nil =>
    cases h
    simp
  | cons a as ih =>
    obtain ⟨s₁, r, hs, hr⟩ := reach_cons_eq_some h
    rw [ih hr, stopped_step hs]
    simp only [List.mem_cons]
    constructor
    · rintro ((h₀ | ⟨t, rfl⟩) | ⟨t, ht⟩)
      · exact .inl h₀
      · exact .inr ⟨t, .inl rfl⟩
      · exact .inr ⟨t, .inr ht⟩
    · rintro (h₀ | ⟨t, rfl | ht⟩)
      · exact .inl (.inl h₀)
      · exact .inl (.inr ⟨t, rfl⟩)
      · exact .inr ⟨t, ht⟩

theorem stopped_reach_fresh {as : List Action} (h : ({} : Threads).reach as = some s) :
    s.channel.stopped = true ↔ ∃ t, .returnStop t ∈ as := by
  rw [stopped_reach h]
  simp

/-- A section running at some instant is still running after any stretch of the run in which
its thread does not leave it. -/
theorem mem_inSection_reach {as : List Action} (h : s.reach as = some s'')
    (hm : t ∈ s.inSection) (hl : .leave t ∉ as) : t ∈ s''.inSection := by
  induction as generalizing s with
  | nil =>
    cases h
    exact hm
  | cons a as ih =>
    obtain ⟨s₁, r, hs, hr⟩ := reach_cons_eq_some h
    have ha : a ≠ .leave t := fun heq => hl (heq ▸ List.mem_cons_self)
    exact ih hr (mem_inSection_step hs hm ha) (fun hmem => hl (List.mem_cons_of_mem a hmem))

/-- A stop returning after an instant at which a section was running returns after that
section's thread has left it. -/
theorem leave_mem_of_stop {pre mid : List Action} {s₀ : Threads} {u : Nat}
    (h₀ : s.reach pre = some s₀) (h : s.reach (pre ++ mid) = some s'')
    (hstop : (s''.step (.returnStop u)).isSome) (hm : t ∈ s₀.inSection) : .leave t ∈ mid := by
  obtain ⟨⟨s₁, r⟩, hs⟩ := Option.isSome_iff_exists.1 hstop
  have hempty := (returnStop_step hs).1
  rw [reach_append h₀] at h
  refine Classical.byContradiction fun hl => ?_
  have hmem := mem_inSection_reach h hm hl
  rw [hempty] at hmem
  cases hmem

/-- The rules a stop channel follows over every run of its threads from a fresh channel. Each
rule speaks of an action taken at the state `s` that the run `pre` reaches. -/
structure StopChannelRules : Prop where
  /-- A stop reports delivery exactly when no stop returned before it: the first one does and
  every later one does not. -/
  firstStopDelivers : ∀ pre s t s' r, ({} : Threads).reach pre = some s →
    s.step (.returnStop t) = some (s', r) →
      ∃ b, r = .delivered b ∧ (b = true ↔ ∀ u, .returnStop u ∉ pre)
  /-- `is_stopped`, on the handle or on any signal end, answers whether a stop has returned. -/
  askAnswers : ∀ pre s a s' r, ({} : Threads).reach pre = some s →
    (a = .askHandle ∨ ∃ i, a = .askSignal i) → s.step a = some (s', r) →
      ∃ b, r = .stopped b ∧ (b = true ↔ ∃ u, .returnStop u ∈ pre)
  /-- A section starts exactly when no stop has returned before it takes the guard. -/
  sectionRuns : ∀ pre s t i s' r, ({} : Threads).reach pre = some s →
    s.step (.enter t i) = some (s', r) →
      ∃ b, r = .runs b ∧ (b = true ↔ ∀ u, .returnStop u ∉ pre)
  /-- A section that starts gives its value, and one that does not gives none. -/
  sectionValue : ∀ pre s {α : Type} (f : Unit → α), ({} : Threads).reach pre = some s →
    (s.channel.unlessStopped f = none ↔ ∃ u, .returnStop u ∈ pre) ∧
      ((∀ u, .returnStop u ∉ pre) → s.channel.unlessStopped f = some (f ()))
  /-- A stop that returns after an instant at which a section was running returns after the
  section has ended. -/
  stopAfterSections : ∀ pre mid s₀ s t u, ({} : Threads).reach pre = some s₀ →
    ({} : Threads).reach (pre ++ mid) = some s → t ∈ s₀.inSection →
      (s.step (.returnStop u)).isSome → .leave t ∈ mid
  /-- A stop inside its call can return once no section runs. -/
  stopCanReturn : ∀ pre s t, ({} : Threads).reach pre = some s → t ∈ s.stopping →
    s.inSection = [] → (s.step (.returnStop t)).isSome
  /-- A wait can return exactly when a stop has returned. -/
  waitReturns : ∀ pre s t, ({} : Threads).reach pre = some s →
    ((s.step (.returnWait t)).isSome ↔ t ∈ s.waiting ∧ ∃ u, .returnStop u ∈ pre)
  /-- A wait never returns once the handle was dropped before any stop returned. -/
  droppedNeverStops : ∀ pre post s t, ({} : Threads).reach (pre ++ .dropHandle :: post) = some s →
    (∀ u, .returnStop u ∉ pre) → s.step (.returnWait t) = none

/-- No stop is inside a call, or the handle is still in place. -/
def HandleHeld (s : Threads) : Prop := s.stopping = [] ∨ s.channel.handleDropped = false

theorem handleHeld_step (hh : s.HandleHeld) (h : s.step a = some (s', r)) : s'.HandleHeld := by
  rcases step_cases h with ⟨u, i, rfl, -, ⟨-, rfl, -⟩ | ⟨-, rfl, -⟩⟩ | ⟨u, rfl, -, rfl⟩ |
    ⟨u, rfl, -, hd, rfl⟩ | ⟨u, rfl, -, -, hd, rfl, -⟩ | ⟨-, rfl, -⟩ | ⟨rfl, rfl⟩ |
    ⟨u, i, rfl, -, rfl⟩ | ⟨u, rfl, -, -, rfl⟩ | ⟨rfl, hs, -, rfl⟩
  case inr.inr.inl => exact .inr hd
  case inr.inr.inr.inl => exact .inr hd
  case inr.inr.inr.inr.inr.inr.inr.inr => exact .inl hs
  all_goals exact hh

/-- Dropping the handle before any stop returned leaves the flag down for good. -/
theorem stuckDown_dropHandle (h : s.step .dropHandle = some (s', r))
    (hf : s.channel.stopped = false) : s'.StuckDown := by
  rcases step_cases h with ⟨_, _, ha, -⟩ | ⟨_, ha, -⟩ | ⟨_, ha, -⟩ | ⟨_, ha, -⟩ |
    ⟨ha | ⟨_, ha⟩, -⟩ | ⟨ha, -⟩ | ⟨_, _, ha, -⟩ | ⟨_, ha, -⟩ | ⟨-, hs, -, rfl⟩
  all_goals first | cases ha | exact ⟨⟨rfl, hs⟩, hf⟩

theorem stop_channel_rules : StopChannelRules where
  firstStopDelivers pre s t s' r h hs := by
    refine ⟨_, (returnStop_step hs).2, ?_⟩
    rw [Bool.not_eq_true', Bool.eq_false_iff, ne_eq, stopped_reach_fresh h]
    simp
  askAnswers pre s a s' r h ha hs := ⟨_, ask_step ha hs, stopped_reach_fresh h⟩
  sectionRuns pre s t i s' r h hs := by
    refine ⟨_, enter_step hs, ?_⟩
    rw [Bool.not_eq_true', Bool.eq_false_iff, ne_eq, stopped_reach_fresh h]
    simp
  sectionValue pre s α f h := by
    unfold StopChannel.unlessStopped
    -- the flag the section reads is raised exactly when some stop has returned
    have hflag := stopped_reach_fresh h
    by_cases hst : s.channel.stopped = true
    · simp only [if_pos hst, true_iff]
      exact ⟨hflag.1 hst, fun hno => absurd (hflag.1 hst) (fun ⟨u, hu⟩ => hno u hu)⟩
    · simp only [if_neg hst, reduceCtorEq, false_iff]
      exact ⟨fun hu => hst (hflag.2 hu), fun _ => trivial⟩
  stopAfterSections pre mid s₀ s t u h₀ h hm hstop := leave_mem_of_stop h₀ h hstop hm
  stopCanReturn pre s t h ht hempty := by
    have hh : s.HandleHeld :=
      reach_induction HandleHeld (fun _ _ _ _ hs hstep => handleHeld_step hs hstep) pre
        (.inl rfl) h
    have hd : s.channel.handleDropped = false := hh.resolve_left (List.ne_nil_of_mem ht)
    simp [step, ht, hempty, StopChannel.stop?, hd]
  waitReturns pre s t h := by
    rw [returnWait_isSome, stopped_reach_fresh h]
  droppedNeverStops pre post s t h hpre := by
    obtain ⟨s₁, h₁, h₂⟩ := reach_append_eq_some h
    obtain ⟨s₂, r, hd, h₃⟩ := reach_cons_eq_some h₂
    have hf : s₁.channel.stopped = false := by
      rw [Bool.eq_false_iff, ne_eq, stopped_reach_fresh h₁]
      simpa using hpre
    have hstuck : s.StuckDown :=
      reach_induction StuckDown (fun _ _ _ _ hs hstep => stuckDown_step hs hstep) post
        (stuckDown_dropHandle hd hf) h₃
    cases hw : s.step (.returnWait t) with
    | none => rfl
    | some p =>
      have hup := (returnWait_isSome.1 (by rw [hw]; rfl)).2
      rw [hstuck.2] at hup
      cases hup

/-- A section running when a stop is called holds the stop back until it leaves; the stop then
delivers the signal. -/
example :
    ((({} : Threads).reach [.enter 1 0, .callStop 2]).bind (·.step (.returnStop 2))).isNone ∧
      ((({} : Threads).reach [.enter 1 0, .callStop 2, .leave 1]).bind
        (·.step (.returnStop 2))).map (·.2) = some (.delivered true) := by
  decide

end Threads

end Sidecar.Readiness
