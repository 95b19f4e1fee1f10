import Sidecar.Text.Quoted
/-! The readiness gate: named checks and an enabled flag.

Registering a check under a name replaces the check of that name. Until the gate is enabled an
evaluation runs nothing and answers `notEnabled`; afterwards it runs the checks in byte order
of their names and stops at the first that fails or panics. The table is kept sorted by name
with each name once, so the order of evaluation is the order of the table. -/
namespace Sidecar.Readiness

/-- What a check does when it runs. -/
inductive Verdict where
  | pass
  | fail (error : String)
  | panic (message : String)
deriving DecidableEq

/-- A readiness check: what it answers and how long it runs, in nanoseconds. -/
structure Probe where
  verdict : Verdict
  cost : Nat := 0
deriving DecidableEq

def Probe.passing : Probe := ⟨.pass, 0⟩

/-- Checks by name, sorted by name, each name once. -/
abbrev CheckTable := List (String × Probe)

/-- Puts a check into a sorted table, replacing a check of the same name. -/
def CheckTable.insert (name : String) (p : Probe) : CheckTable → CheckTable
  | [] => [(name, p)]
  | (n, q) :: rest =>
    if name < n then (name, p) :: (n, q) :: rest
    else if name = n then (name, p) :: rest
    else (n, q) :: CheckTable.insert name p rest

inductive Health where
  | ready
  | notEnabled
  | unhealthy (check error : String)
  | panicked (message : String)
deriving DecidableEq

/-- The outcome of an evaluation, the names of the checks it ran in order, and the time they
took in nanoseconds. -/
structure Evaluation where
  result : Health
  ran : List String
  elapsed : Nat

/-- Runs checks in table order up to the first failure. -/
def runChecks : CheckTable → Evaluation
  | [] => ⟨.ready, [], 0⟩
  | (n, p) :: rest =>
    match p.verdict with
    | .pass =>
      let e := runChecks rest
      ⟨e.result, n :: e.ran, p.cost + e.elapsed⟩
    | .fail err => ⟨.unhealthy n err, [n], p.cost⟩
    | .panic m => ⟨.panicked m, [n], p.cost⟩

structure Gate where
  checks : CheckTable := []
  enabled : Bool := false

namespace Gate

def register (g : Gate) (name : String) (p : Probe) : Gate :=
  { g with checks := CheckTable.insert name p g.checks }

def enable (g : Gate) : Gate := { g with enabled := true }

def names (g : Gate) : List String := g.checks.map (·.1)

def evaluate (g : Gate) : Evaluation :=
  if g.enabled then runChecks g.checks else ⟨.notEnabled, [], 0⟩

/-- The debugging text of a gate: its flag and its check names. -/
def debugText (g : Gate) : String :=
  "ReadinessGate \x7b enabled: " ++ (if g.enabled then "true" else "false") ++ ", checks: [" ++
    ", ".intercalate (g.names.map Text.quote) ++ "] \x7d"

end Gate

end Sidecar.Readiness
