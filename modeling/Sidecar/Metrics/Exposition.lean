import Sidecar.Metrics.Registry
import Sidecar.Decimal.Positional
/-! The text exposition format, version 0.0.4.

Families come in byte order of their names, each with a `# HELP` line (backslashes and line
breaks escaped) and a `# TYPE` line; an instrument without label sets writes nothing. Within a
family the label pairs of a sample are sorted by label name and the samples by their label
values in that order. Label values escape backslash, double quote and line break. A histogram
writes one cumulative `_bucket` sample per bound, one for `+Inf`, then `_sum` and `_count`.
Numbers are written in plain positional form. -/
namespace Sidecar.Metrics

def contentType : String := "text/plain; version=0.0.4"

/-- Escapes backslashes and line breaks, and double quotes too when asked. -/
def escapeText (quotes : Bool) (s : String) : String :=
  String.ofList (s.toList.flatMap fun c =>
    if c = '\\' then ['\\', '\\']
    else if c = '\n' then ['\\', 'n']
    else if quotes ∧ c = '"' then ['\\', '"']
    else [c])

def countValue (n : Nat) : Float := Decimal.toFloat ⟨false, n, 0⟩

/-- A sample line: name, labels (with an extra pair at the end if given) and value. -/
def sampleLine (name : String) (pairs : List (String × String)) (extra : Option (String × String))
    (value : Float) : String :=
  let texts := pairs.map (fun (k, v) => k ++ "=\"" ++ escapeText true v ++ "\"") ++
    (extra.map (fun (k, v) => k ++ "=\"" ++ v ++ "\"")).toList
  let labels := if texts.isEmpty then "" else "\x7b" ++ ",".intercalate texts ++ "\x7d"
  name ++ labels ++ " " ++ Decimal.plainText value ++ "\n"

def seriesLines (name : String) (bounds : List Float) (pairs : List (String × String)) :
    Series → String
  | .counter v => sampleLine name pairs none (countValue v)
  | .gauge x => sampleLine name pairs none x
  | .histogram counts count sum =>
    let cumulative := (counts.foldl (fun (acc : List Nat × Nat) c =>
      (acc.1 ++ [acc.2 + c], acc.2 + c)) ([], 0)).1
    String.join ((bounds.zip cumulative).map fun (b, c) =>
        sampleLine (name ++ "_bucket") pairs (some ("le", Decimal.plainText b)) (countValue c)) ++
      sampleLine (name ++ "_bucket") pairs (some ("le", "+Inf")) (countValue count) ++
      sampleLine (name ++ "_sum") pairs none sum ++
      sampleLine (name ++ "_count") pairs none (countValue count)

def sortedPairs (labels values : List String) : List (String × String) :=
  (labels.zip values).mergeSort (fun a b => decide (a.1 ≤ b.1))

def valuesLE : List String → List String → Bool
  | [], _ => true
  | _ :: _, [] => false
  | a :: as, b :: bs => if a = b then valuesLE as bs else decide (a < b)

/-- A family: its header lines and its samples, or nothing without label sets. -/
def Instrument.family (i : Instrument) : String :=
  if i.series.isEmpty then ""
  else
    let rows := i.series.map fun (values, s) => (sortedPairs i.desc.labels values, s)
    let rows := rows.mergeSort fun a b => valuesLE (a.1.map (·.2)) (b.1.map (·.2))
    "# HELP " ++ i.desc.name ++ " " ++ escapeText false i.desc.help ++ "\n" ++
      "# TYPE " ++ i.desc.name ++ " " ++ i.kind.name ++ "\n" ++
      String.join (rows.map fun (pairs, s) => seriesLines i.desc.name i.bounds pairs s)

/-- The target metadata family: a gauge of one labelled with the service identity. -/
def targetInfoFamily (service : ServiceInfo) : String :=
  "# HELP target_info Target metadata\n# TYPE target_info gauge\n" ++
    sampleLine "target_info" [("service_name", service.name), ("service_version", service.version)]
      none 1

/-- The exposition of a registry, or `shutDown` after shutdown. -/
def Registry.exposition (r : Registry) : Except MetricsError String :=
  if r.closed then .error .shutDown
  else
    let families := ("target_info", targetInfoFamily r.service) ::
      r.instruments.map (fun i => (i.desc.name, i.family))
    let families := families.mergeSort (fun a b => decide (a.1 ≤ b.1))
    .ok (String.join (families.map (·.2)))

end Sidecar.Metrics
