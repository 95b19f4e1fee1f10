/-! Histogram buckets chosen by metric name.

A pattern is a text in which `*` stands for any run of characters, possibly empty, and every
other character for itself. A histogram takes the buckets of the least pattern in byte order
that its name matches, and the default buckets when none does. Matching takes the part before
the first `*` as a prefix, finds each middle part at its leftmost place in what remains, and
takes the part after the last `*` as a suffix of the rest. -/
namespace Sidecar.Metrics

/-- Millisecond buckets from 1 to 10000, for histograms without a matching pattern. -/
def defaultBuckets : List Float :=
  [1, 5, 30, 50, 100, 200, 300, 500, 700, 1000, 1500, 2000, 2500, 3000, 5000, 7000, 9000, 10000]

/-- Nanosecond buckets from 1ns to 10s, for histograms named `*_ns`. -/
def nanosecondBuckets : List Float :=
  [1, 10, 100, 1000, 10000, 100000, 1000000, 5000000, 30000000, 50000000, 100000000, 200000000,
   300000000, 500000000, 700000000, 1000000000, 1500000000, 2000000000, 2500000000, 3000000000,
   5000000000, 7000000000, 9000000000, 10000000000]

namespace Glob

def dropPrefix? : List Char → List Char → Option (List Char)
  | [], rest => some rest
  | _ :: _, [] => none
  | p :: ps, c :: cs => if p = c then dropPrefix? ps cs else none

/-- What remains of a text after the leftmost occurrence of a part. -/
def afterFirst? (part : List Char) : List Char → Option (List Char)
  | [] => dropPrefix? part []
  | c :: cs =>
    match dropPrefix? part (c :: cs) with
    | some rest => some rest
    | none => afterFirst? part cs

def endsWith (rest part : List Char) : Bool :=
  (dropPrefix? part.reverse rest.reverse).isSome

/-- Matches the middle parts, each at its leftmost place, and then the last part as a suffix. -/
def matchRest : List (List Char) → List Char → Bool
  | [], rest => rest.isEmpty
  | [last], rest => endsWith rest last
  | part :: parts, rest =>
    match afterFirst? part rest with
    | some rest' => matchRest parts rest'
    | none => false

/-- Whether a name matches a pattern in which `*` stands for any text. -/
def accepts (pattern name : String) : Bool :=
  match pattern.toList.splitOn '*' with
  | [] => name.isEmpty
  | first :: parts =>
    match dropPrefix? first name.toList with
    | some rest => matchRest parts rest
    | none => false

end Glob

structure BucketConfig where
  defaultBuckets : List Float
  byPattern : List (String × List Float)

namespace BucketConfig

/-- Default buckets, and nanosecond buckets for names ending in `_ns`. -/
def standard : BucketConfig :=
  ⟨Metrics.defaultBuckets, [("*_ns", nanosecondBuckets)]⟩

/-- Sets the buckets of a pattern, replacing earlier buckets of the same pattern. -/
def withPattern (c : BucketConfig) (pattern : String) (buckets : List Float) : BucketConfig :=
  { c with byPattern := (c.byPattern.filter (·.1 != pattern)) ++ [(pattern, buckets)] }

/-- The patterns with their buckets in byte order of the patterns. -/
def ordered (c : BucketConfig) : List (String × List Float) :=
  c.byPattern.mergeSort (fun a b => decide (a.1 ≤ b.1))

def bucketsFor (c : BucketConfig) (name : String) : List Float :=
  match c.ordered.find? (fun e => Glob.accepts e.1 name) with
  | some e => e.2
  | none => c.defaultBuckets

end BucketConfig

end Sidecar.Metrics
