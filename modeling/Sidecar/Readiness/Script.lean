import Sidecar.Readiness.Watcher
/-! A watcher run against a script: timed changes to its surroundings, then a wait for its end.

The watcher is spawned at instant `0` and its task runs right after. The script's actions come
in list order, each at its instant or at once when that instant has passed. After the last
action the run waits until `limit`; a watcher still polling then is stopped, and the run says
so. -/
namespace Sidecar.Readiness

inductive WatchAction where
  /-- The application enables readiness. -/
  | enable
  /-- The watcher is asked to stop, and its task takes the stop branch. -/
  | stop
  /-- The listener stops serving. -/
  | stopServing
deriving DecidableEq

/-- An action at an instant, in nanoseconds after the spawn. -/
structure TimedAction where
  instant : Nat
  action : WatchAction

/-- How a scripted run ended: the outcome, whether the run had to stop the watcher at the limit,
what each scripted stop reported, and the escalated failures. -/
structure WatchReport where
  outcome : WatchOutcome
  forcedStop : Bool
  stopResults : List Bool
  escalations : List FatalError

structure ScriptState where
  watcher : Watcher
  now : Nat
  serving : Bool
  enabled : Bool
  stopResults : List Bool := []
  escalations : List FatalError := []

namespace ScriptState

/-- Lets the watcher run until `t`, keeping what it escalates. -/
def advance (st : ScriptState) (t : Nat) : ScriptState :=
  let (w, f) := st.watcher.run st.serving st.enabled st.now t
  { st with watcher := w, now := max st.now t, escalations := st.escalations ++ f.toList }

/-- Stops the watcher and keeps what the stop reported; the task has not reacted yet. -/
def raise (st : ScriptState) : ScriptState :=
  let r := st.watcher.stop
  { st with watcher := r.1, stopResults := st.stopResults ++ [r.2] }

def perform (st : ScriptState) (a : TimedAction) : ScriptState :=
  let st := st.advance a.instant
  match a.action with
  | .enable => { st with enabled := true }
  | .stopServing => { st with serving := false }
  | .stop => { st.raise with watcher := st.raise.watcher.halt }

end ScriptState

/-- Runs a watcher with the given settings and starting flags through a script, waiting until
`limit` nanoseconds after the spawn. -/
def runScript (s : WatchSettings) (serving enabled : Bool) (actions : List TimedAction)
    (limit : Nat) : WatchReport :=
  let st0 : ScriptState := ⟨Watcher.spawn s 0, 0, serving, enabled, [], []⟩
  let st := (actions.foldl ScriptState.perform st0).advance limit
  match st.watcher.outcome? with
  | some o => ⟨o, false, st.stopResults, st.escalations⟩
  | none => ⟨.stopped, true, st.stopResults, st.escalations⟩

end Sidecar.Readiness
