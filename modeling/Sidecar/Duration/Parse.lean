import Sidecar.Duration.Basic
import Sidecar.Text.Blank
/-! Reading a duration text. After blanks are trimmed and one leading `+` is dropped, the text
is a bare `0` or a nonempty run of segments `digits[.digits]unit`, where the whole and the
fraction are not both empty and the unit is one of `ns`, `us`, `µs`, `μs`, `ms`, `s`, `m`,
`h`. A segment is worth its whole part times the unit plus the floor of its fraction times the
unit, where only the first twenty fraction digits count. The text is accepted when the sum of
its segments is at most `signedMax`.

Main statement: `Segment.split?` always consumes input, so reading is a total function
(`split?_rest_lt`). -/
namespace Sidecar.Duration

/-- Length of a unit in nanoseconds; `µs` is written with U+00B5 or U+03BC. -/
def unitNanos? : List Char → Option Nat
  | ['n', 's'] => some 1
  | ['u', 's'] => some 1000
  | ['µ', 's'] => some 1000
  | ['μ', 's'] => some 1000
  | ['m', 's'] => some 1000000
  | ['s'] => some 1000000000
  | ['m'] => some 60000000000
  | ['h'] => some 3600000000000
  | _ => none

def digitsValue (ds : List Char) : Nat :=
  ds.foldl (fun acc c => 10 * acc + (c.toNat - '0'.toNat)) 0

/-- Fraction digits beyond this many are ignored. -/
def fractionPlaces : Nat := 20

/-- One segment of a duration text: whole digits, fraction digits and the unit. -/
structure Segment where
  whole : List Char
  fraction : List Char
  unit : List Char

/-- A unit runs up to the next digit or point. -/
def isUnitChar (c : Char) : Bool := !(c.isDigit || c == '.')

namespace Segment

/-- Nanoseconds of a segment, if its unit is known. -/
def nanos? (s : Segment) : Option Nat :=
  (unitNanos? s.unit).map fun u =>
    let f := s.fraction.take fractionPlaces
    digitsValue s.whole * u + digitsValue f * u / Nat.pow 10 f.length

/-- Fraction digits after a point, and what follows them. -/
def splitFraction : List Char → List Char × List Char
  | '.' :: r => (r.takeWhile Char.isDigit, r.dropWhile Char.isDigit)
  | r => ([], r)

/-- Splits the first segment off a text; none when it has neither whole nor fraction digits. -/
def split? (cs : List Char) : Option (Segment × List Char) :=
  let whole := cs.takeWhile Char.isDigit
  let (fraction, r) := splitFraction (cs.dropWhile Char.isDigit)
  if whole.isEmpty && fraction.isEmpty then none
  else some (⟨whole, fraction, r.takeWhile isUnitChar⟩, r.dropWhile isUnitChar)

theorem length_dropWhile_le {α : Type} (p : α → Bool) (l : List α) :
    (l.dropWhile p).length ≤ l.length := by
  induction l with
  | nil => simp
  | cons a t ih =>
    simp only [List.dropWhile]
    split
    · simp only [List.length_cons]; omega
    · simp

theorem length_dropWhile_lt {α : Type} (p : α → Bool) (l : List α) (h : l.takeWhile p ≠ []) :
    (l.dropWhile p).length < l.length := by
  cases l with
  | nil => simp at h
  | cons a t =>
    simp only [List.takeWhile] at h
    simp only [List.dropWhile]
    split at h
    · next hp =>
      have := length_dropWhile_le p t
      simp
      omega
    · simp at h

theorem splitFraction_length (cs : List Char) :
    (splitFraction cs).2.length ≤ cs.length ∧
      ((splitFraction cs).1 ≠ [] → (splitFraction cs).2.length < cs.length) := by
  unfold splitFraction
  split
  · next r =>
    have := length_dropWhile_le Char.isDigit r
    constructor
    · simp; omega
    · intro _; simp; omega
  · exact ⟨Nat.le_refl _, fun h => absurd rfl h⟩

/-- Splitting a segment off always consumes part of the text. -/
theorem split?_rest_lt {cs : List Char} {s : Segment} {rest : List Char}
    (h : split? cs = some (s, rest)) : rest.length < cs.length := by
  unfold split? at h
  have hr := splitFraction_length (cs.dropWhile Char.isDigit)
  generalize hf : splitFraction (cs.dropWhile Char.isDigit) = f at h hr
  obtain ⟨fraction, r⟩ := f
  simp only at h hr
  split at h
  · simp at h
  · next hne =>
    simp only [Option.some.injEq, Prod.mk.injEq] at h
    obtain ⟨-, rfl⟩ := h
    have h1 := length_dropWhile_le isUnitChar r
    have h2 := length_dropWhile_le Char.isDigit cs
    simp only [Bool.and_eq_true, List.isEmpty_iff, not_and] at hne
    by_cases hw : cs.takeWhile Char.isDigit = []
    · have := hr.2 (hne hw)
      omega
    · have := length_dropWhile_lt Char.isDigit cs hw
      omega

end Segment

/-- The nanoseconds of a run of segments; none when a segment is malformed or has an unknown
unit. -/
def segmentsNanos? (cs : List Char) : Option Nat :=
  if cs.isEmpty then some 0
  else
    match hs : Segment.split? cs with
    | none => none
    | some (s, rest) =>
      have : rest.length < cs.length := Segment.split?_rest_lt hs
      do
        let a ← s.nanos?
        let b ← segmentsNanos? rest
        pure (a + b)
termination_by cs.length

/-- The text once blanks are trimmed and one leading `+` is dropped. -/
def body (s : String) : List Char :=
  match Text.trimChars s.toList with
  | '+' :: r => r
  | r => r

def parse? (s : String) : Option Duration :=
  let r := body s
  if r = ['0'] then some zero
  else if r = [] then none
  else
    match segmentsNanos? r with
    | some n =>
      if h : n ≤ signedMax.toNanos then
        some ⟨n, Nat.lt_of_le_of_lt h (by decide)⟩
      else none
    | none => none

end Sidecar.Duration
