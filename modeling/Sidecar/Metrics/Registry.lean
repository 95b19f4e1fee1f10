import Sidecar.Config
import Sidecar.Metrics.Buckets
import Sidecar.Metrics.Error
import Sidecar.Decimal.Rounding
import Sidecar.Metrics.Fingerprint
/-! The metrics registry: instruments by name, each with its label sets.

The first successful registration of a name fixes its kind, help text, label names and, for a
histogram, its buckets; a later registration of the same kind gets that instrument back, one of
another kind is refused with the first kind, and neither changes anything.

Underneath, the exposition registry holds collectors, each with its descriptors, and tells them
apart by fingerprint only (see `Ledger`). It starts with the target metadata gauge, whose constant
labels name the service, and the process collector's seven families. A new instrument is refused
when its descriptor's id is taken, even by a descriptor of another name whose id happens to be
the same.

Each label set of an instrument is created when first used: counters start at zero and wrap at
`2^64`, gauges hold the last value set, histograms count observations per bucket. Label sets are
told apart by `labelSetKey`: values that join to the same text reach the label set made first,
which keeps the values it was made with. A histogram label set cannot be created when `le` is a
label name or its buckets do not increase. -/
namespace Sidecar.Metrics

/-- What a metric is called and described by: its variable label names, and its constant
labels in the order of their names. -/
structure Descriptor where
  name : String
  help : String
  labels : List String
  constLabels : List (String × String) := []

/-- Letters of a metric name: ASCII letters, digits, `_` and `:`; not a digit first. -/
def isMetricNameChar (first : Bool) (c : Char) : Bool :=
  ('a' ≤ c && c ≤ 'z') || ('A' ≤ c && c ≤ 'Z') || c == '_' || c == ':' ||
    (!first && '0' ≤ c && c ≤ '9')

/-- Letters of a label name: ASCII letters, digits and `_`; not a digit first. -/
def isLabelNameChar (first : Bool) (c : Char) : Bool :=
  ('a' ≤ c && c ≤ 'z') || ('A' ≤ c && c ≤ 'Z') || c == '_' || (!first && '0' ≤ c && c ≤ '9')

def validName (ok : Bool → Char → Bool) (s : String) : Bool :=
  match s.toList with
  | [] => false
  | c :: cs => ok true c && cs.all (ok false)

/-- Checks a description: help text, metric name, then each label name in turn. -/
def Descriptor.check (d : Descriptor) : Except Fault Unit := do
  if d.help.isEmpty then throw .emptyHelp
  if !validName isMetricNameChar d.name then throw (.invalidMetricName d.name)
  let rec labelsOk (seen : List String) : List String → Except Fault Unit
    | [] => pure ()
    | l :: ls =>
      if !validName isLabelNameChar l then throw (.invalidLabelName l)
      else if l ∈ seen then throw (.duplicateLabel l)
      else labelsOk (l :: seen) ls
  labelsOk [] d.labels

namespace Descriptor

/-- The fingerprint that identifies a descriptor among those of a registry. -/
def id (d : Descriptor) : UInt64 := descriptorId d.name (d.constLabels.map (·.2))

/-- The fingerprint of the help text and label names, which every descriptor of one name shares. -/
def dimensions (d : Descriptor) : UInt64 :=
  dimensionHash d.help (d.constLabels.map (·.1)) d.labels

/-- The debugging form of a descriptor, as error messages show it. -/
def debugText (d : Descriptor) : String :=
  let pair (p : String × String) := "name: " ++ Text.quote p.1 ++ " value: " ++ Text.quote p.2
  "Desc \x7b fq_name: " ++ Text.quote d.name ++ ", help: " ++ Text.quote d.help ++
    ", const_label_pairs: [" ++ ", ".intercalate (d.constLabels.map pair) ++
    "], variable_labels: [" ++ ", ".intercalate (d.labels.map Text.quote) ++ "], id: " ++
    toString d.id.toNat ++ ", dim_hash: " ++ toString d.dimensions.toNat ++ " \x7d"

end Descriptor

/-- What the exposition registry keeps to refuse clashing collectors: the ids of the descriptors
it holds, the ids of its collectors (the wrapping sum of their descriptors' ids), and the
dimensions first seen for each name. -/
structure Ledger where
  descriptorIds : List UInt64 := []
  collectorIds : List UInt64 := []
  dimensions : List (String × UInt64) := []

namespace Ledger

def dimensionsOf (l : Ledger) (name : String) : Option UInt64 :=
  (l.dimensions.find? (·.1 == name)).map (·.2)

def noteDimensions (l : Ledger) (name : String) (h : UInt64) : Ledger :=
  { l with dimensions := (name, h) :: l.dimensions.filter (·.1 != name) }

/-- Admits a collector with its descriptors, looked at in order. Each descriptor's id must be
new to the registry, its dimensions must be those seen before for its name, and its id must not
repeat within the collector; then the collector's id must be new. The dimensions of the
descriptors looked at stay recorded even when the collector is refused. -/
def enroll (l : Ledger) (ds : List Descriptor) : Ledger × Except Fault Unit :=
  go l ds [] 0
where
  /-- Looks at the remaining descriptors, with the ids and their sum so far. -/
  go (l : Ledger) : List Descriptor → List UInt64 → UInt64 → Ledger × Except Fault Unit
    | [], ids, sum =>
      if sum ∈ l.collectorIds then (l, .error .alreadyRegistered)
      else
        ({ l with descriptorIds := ids ++ l.descriptorIds, collectorIds := sum :: l.collectorIds },
          .ok ())
    | d :: ds, ids, sum =>
      if d.id ∈ l.descriptorIds then (l, .error .alreadyRegistered)
      else if (l.dimensionsOf d.name).any (· != d.dimensions) then
        (l, .error (.inconsistentDimensions d.debugText))
      else
        let l := l.noteDimensions d.name d.dimensions
        if d.id ∈ ids then (l, .error (.duplicateDescriptor d.debugText))
        else go l ds (d.id :: ids) (sum + d.id)

end Ledger

/-- The gauge that carries the service's identity in its constant labels. -/
def targetInfo (service : ServiceInfo) : Descriptor :=
  { name := "target_info", help := "Target metadata", labels := [],
    constLabels := [("service_name", service.name), ("service_version", service.version)] }

/-- The descriptors of the process collector, in the order it gives them. -/
def processDescriptors : List Descriptor :=
  [⟨"process_cpu_seconds_total", "Total user and system CPU time spent in seconds.", [], []⟩,
   ⟨"process_open_fds", "Number of open file descriptors.", [], []⟩,
   ⟨"process_max_fds", "Maximum number of open file descriptors.", [], []⟩,
   ⟨"process_virtual_memory_bytes", "Virtual memory size in bytes.", [], []⟩,
   ⟨"process_resident_memory_bytes", "Resident memory size in bytes.", [], []⟩,
   ⟨"process_start_time_seconds", "Start time of the process since unix epoch in seconds.", [],
     []⟩,
   ⟨"process_threads", "Number of OS threads in the process.", [], []⟩]

inductive Series where
  /-- A counter value below `2^64`. -/
  | counter (value : Nat)
  | gauge (value : Float)
  /-- Observations per bucket (not cumulative), their number and their sum. -/
  | histogram (counts : List Nat) (count : Nat) (sum : Float)

/-- The buckets a histogram label set is made with: the library's defaults for an empty list,
and without a last bucket at positive infinity. -/
def libraryDefaultBuckets : List Float := [0.005, 0.01, 0.025, 0.05, 0.1, 0.25, 0.5, 1, 2.5, 5, 10]

/-- The first two neighbouring bounds that do not increase. -/
def firstDescent : List Float → Option (Float × Float)
  | a :: b :: rest => if a ≥ b then some (a, b) else firstDescent (b :: rest)
  | _ => none

def infinity : Float := 1 / 0

/-- Checks and completes the buckets of a histogram label set. -/
def adjustBuckets (bs : List Float) : Except Fault (List Float) :=
  let bs := if bs.isEmpty then libraryDefaultBuckets else bs
  match firstDescent bs with
  | some (a, b) => .error (.bucketOrder a b)
  | none =>
    match bs.getLast? with
    | some l => if l == infinity then .ok bs.dropLast else .ok bs
    | none => .ok bs

/-- An instrument: its kind, description, configured buckets and label sets in creation order. -/
structure Instrument where
  kind : InstrumentKind
  desc : Descriptor
  buckets : List Float
  series : List (List String × Series)

structure Registry where
  service : ServiceInfo
  config : BucketConfig
  ledger : Ledger := {}
  instruments : List Instrument := []
  closed : Bool := false

namespace Registry

/-- A registry for a service holding the target metadata gauge and the process collector; it
fails when the service's identity makes the gauge's fingerprint clash with the collector's. -/
def create (service : ServiceInfo) (config : BucketConfig) : Except MetricsError Registry :=
  match ({} : Ledger).enroll [targetInfo service] with
  | (_, .error f) => .error (.rejected f)
  | (l, .ok ()) =>
    match l.enroll processDescriptors with
    | (_, .error f) => .error (.rejected f)
    | (l, .ok ()) => .ok { service, config, ledger := l }

def find? (r : Registry) (name : String) : Option Instrument :=
  r.instruments.find? (·.desc.name == name)

/-- The instrument of a name if it has the given kind: the handle a caller holds. -/
def handle? (r : Registry) (name : String) (kind : InstrumentKind) : Option Instrument :=
  (r.find? name).filter (·.kind == kind)

/-- Gets or creates an instrument; on success the registry holds an instrument of this name and
kind. A refused registration changes nothing but the dimensions the ledger has seen. -/
def register (r : Registry) (kind : InstrumentKind) (name help : String) (labels : List String) :
    Registry × Except MetricsError Unit :=
  match r.find? name with
  | some i => if i.kind == kind then (r, .ok ()) else (r, .error (.kindMismatch name i.kind))
  | none =>
    let d : Descriptor := ⟨name, help, labels, []⟩
    match d.check with
    | .error f => (r, .error (.rejected f))
    | .ok () =>
      match r.ledger.enroll [d] with
      | (l, .error f) => ({ r with ledger := l }, .error (.rejected f))
      | (l, .ok ()) =>
        let buckets := if kind == .histogram then r.config.bucketsFor name else []
        ({ r with ledger := l, instruments := r.instruments ++ [⟨kind, d, buckets, []⟩] }, .ok ())

def update (r : Registry) (i : Instrument) : Registry :=
  { r with instruments := r.instruments.map fun j => if j.desc.name == i.desc.name then i else j }

/-- Declares the backend shut down; rendering fails from then on. -/
def shutdown (r : Registry) : Registry := { r with closed := true }

end Registry

namespace Instrument

/-- Whether a label set made with values `made` is the one that values `values` reach. -/
def reaches (values made : List String) : Bool := labelSetKey made == labelSetKey values

def series? (i : Instrument) (values : List String) : Option Series :=
  (i.series.find? (reaches values ·.1)).map (·.2)

/-- Sets the label set that given values reach, keeping its values and the creation order. -/
def setSeries (i : Instrument) (values : List String) (s : Series) : Instrument :=
  if (i.series.find? (reaches values ·.1)).isSome then
    { i with series := i.series.map fun e => if reaches values e.1 then (e.1, s) else e }
  else { i with series := i.series ++ [(values, s)] }

def checkCardinality (i : Instrument) (values : List String) : Except Fault Unit :=
  if values.length = i.desc.labels.length then .ok ()
  else .error (.cardinality i.desc.labels.length values.length)

def seriesOrNew (i : Instrument) (values : List String) : Except Fault Series := do
  i.checkCardinality values
  match i.series? values with
  | some s => pure s
  | none =>
    match i.kind with
    | .counter => pure (.counter 0)
    | .gauge => pure (.gauge 0)
    | .histogram =>
      if "le" ∈ i.desc.labels then throw .bucketLabel
      let bs ← adjustBuckets i.buckets
      pure (.histogram (bs.map fun _ => 0) 0 0)

def bounds (i : Instrument) : List Float :=
  match adjustBuckets i.buckets with
  | .ok bs => bs
  | .error _ => []

/-- Adds to a counter, wrapping at `2^64`; gives the new value. -/
def inc (i : Instrument) (values : List String) (amount : Nat) :
    Except Fault (Instrument × Nat) := do
  match ← i.seriesOrNew values with
  | .counter v =>
    let v' := (v + amount) % Nat.pow 2 64
    pure (i.setSeries values (.counter v'), v')
  | _ => pure (i, 0)

def set (i : Instrument) (values : List String) (x : Float) : Except Fault Instrument := do
  match ← i.seriesOrNew values with
  | .gauge _ => pure (i.setSeries values (.gauge x))
  | _ => pure i

/-- Counts an observation in the first bucket whose bound is at least the value. -/
def countIn (x : Float) : List Float → List Nat → List Nat
  | b :: bs, c :: cs => if x ≤ b then (c + 1) :: cs else c :: countIn x bs cs
  | _, cs => cs

/-- Records an observation in a histogram; gives the number of observations. -/
def observe (i : Instrument) (values : List String) (x : Float) :
    Except Fault (Instrument × Nat) := do
  match ← i.seriesOrNew values with
  | .histogram counts count sum =>
    let s := Series.histogram (countIn x i.bounds counts) (count + 1) (sum + x)
    pure (i.setSeries values s, count + 1)
  | _ => pure (i, 0)

end Instrument

namespace Registry

/-- Adds to the counter of a name; none when the name holds no counter. -/
def inc? (r : Registry) (name : String) (values : List String) (amount : Nat) :
    Option (Except Fault (Registry × Nat)) :=
  (r.handle? name .counter).map fun i =>
    (i.inc values amount).map fun (i', v) => (r.update i', v)

def set? (r : Registry) (name : String) (values : List String) (x : Float) :
    Option (Except Fault Registry) :=
  (r.handle? name .gauge).map fun i => (i.set values x).map r.update

def record? (r : Registry) (name : String) (values : List String) (x : Float) :
    Option (Except Fault (Registry × Nat)) :=
  (r.handle? name .histogram).map fun i =>
    (i.observe values x).map fun (i', n) => (r.update i', n)

end Registry

end Sidecar.Metrics
