import Sidecar.Decimal.Positional
/-! Kinds of instruments, and why a metrics operation fails.

A `Fault` is refused by the exposition library itself: a malformed description, a descriptor
that clashes with one the registry already holds, a label set of the wrong size, or a histogram child that cannot be
made. A `MetricsError` is what the metrics backend reports: such a fault, a name already
bound to another kind, or a backend that has been shut down. -/
namespace Sidecar.Metrics

inductive InstrumentKind where
  | counter
  | gauge
  | histogram
deriving DecidableEq, Repr

/-- The lowercase name of a kind, as in the `# TYPE` line. -/
def InstrumentKind.name : InstrumentKind → String
  | .counter => "counter"
  | .gauge => "gauge"
  | .histogram => "histogram"

/-- What the exposition library refuses. -/
inductive Fault where
  | emptyHelp
  | invalidMetricName (name : String)
  | invalidLabelName (name : String)
  | duplicateLabel (name : String)
  | alreadyRegistered
  /-- A descriptor whose name was seen with other label names or help text, in debugging form. -/
  | inconsistentDimensions (desc : String)
  /-- A descriptor whose id repeats within its collector, in debugging form. -/
  | duplicateDescriptor (desc : String)
  | cardinality (expected given : Nat)
  | bucketLabel
  | bucketOrder (lower upper : Float)

def Fault.message : Fault → String
  | .emptyHelp => "Error: empty help string"
  | .invalidMetricName n => "Error: \x27" ++ n ++ "\x27 is not a valid metric name"
  | .invalidLabelName n => "Error: \x27" ++ n ++ "\x27 is not a valid label name"
  | .duplicateLabel n => "Error: duplicate variable label name " ++ n
  | .alreadyRegistered => "Duplicate metrics collector registration attempted"
  | .inconsistentDimensions d =>
    "Error: a previously registered descriptor with the same fully-qualified name as " ++ d ++
      " has different label names or a different help string"
  | .duplicateDescriptor d =>
    "Error: descriptor " ++ d ++
      " already exists with the same fully-qualified name and const label values"
  | .cardinality e g =>
    "Inconsistent label cardinality, expect " ++ toString e ++ " label values, but got " ++
      toString g
  | .bucketLabel => "Error: `le` is not allowed as label name in histograms"
  | .bucketOrder a b =>
    "Error: histogram buckets must be in increasing order: " ++ Decimal.plainText a ++ " >= " ++
      Decimal.plainText b

inductive MetricsError where
  | rejected (fault : Fault)
  | kindMismatch (name : String) (existing : InstrumentKind)
  | shutDown

def MetricsError.message : MetricsError → String
  | .rejected f => "Prometheus error: " ++ f.message
  | .kindMismatch n k => "Metric " ++ n ++ " is already registered as a " ++ k.name
  | .shutDown => "Metrics backend has been shut down"

end Sidecar.Metrics
