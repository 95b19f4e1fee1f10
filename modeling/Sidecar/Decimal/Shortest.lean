import Sidecar.Decimal.Basic
/-! The shortest decimal that reads back as a given float.

A positive finite float `m · 2^e` stands for every real that rounds to it: the interval
between the midpoints to its two neighbours, ends included when `m` is even. For one digit,
then two, and so on, the two decimals of that many significant digits around the value are
tested against the interval in exact arithmetic. The first number of digits with a hit wins;
of two hits the nearer one is taken, and an exact tie goes to the larger. -/
namespace Sidecar.Decimal

/-- The power of ten of the leading digit of `num / den > 0`. -/
def leadingPower (num den : Nat) : Int :=
  if den ≤ num then (decimalLength (num / den) : Int) - 1
  else
    let gap := decimalLength den - decimalLength num
    if den ≤ num * Nat.pow 10 gap then -(gap : Int) else -((gap : Int) + 1)

/-- Strips trailing zero digits, raising the exponent to match. -/
def normalize (digits : Nat) (exponent : Int) (fuel : Nat := 400) : Nat × Int :=
  match fuel with
  | 0 => (digits, exponent)
  | fuel + 1 =>
    if digits ≠ 0 ∧ digits % 10 = 0 then normalize (digits / 10) (exponent + 1) fuel
    else (digits, exponent)

/-- The rounding interval of a positive float `m · 2^e`, as numerators over `2^(e-2)`: the low
end, the value and the high end, and whether the ends belong to it. -/
structure Interval where
  low : Nat
  value : Nat
  high : Nat
  closed : Bool
  scale : Int

/-- The interval of reals that read back as `m · 2^e`; the gap below is half as wide when `m`
is the least normal mantissa above the smallest exponent. -/
def Interval.ofFloat (m : Nat) (e : Int) : Interval :=
  let narrowBelow := m = Nat.pow 2 fractionBits ∧ leastExponent < e
  { low := 4 * m - (if narrowBelow then 1 else 2)
    value := 4 * m
    high := 4 * m + 2
    closed := m % 2 == 0
    scale := e - 2 }

def Interval.contains (iv : Interval) (c : Nat) (p : Int) : Bool :=
  let (n10, d10) := powFraction 10 p
  let (n2, d2) := powFraction 2 iv.scale
  let x := c * n10 * d2
  let lo := iv.low * n2 * d10
  let hi := iv.high * n2 * d10
  if iv.closed then lo ≤ x && x ≤ hi else lo < x && x < hi

/-- The nearest decimal of `k` significant digits inside the interval, if any. -/
def Interval.candidate? (iv : Interval) (lead : Int) (k : Nat) : Option (Nat × Int) :=
  let p := lead - k + 1
  let (n10, d10) := powFraction 10 p
  let (n2, d2) := powFraction 2 iv.scale
  -- the value over `10^p` is `a / b`
  let a := iv.value * n2 * d10
  let b := d2 * n10
  let c := a / b
  if a % b = 0 then some (c, p)
  else
    match iv.contains c p, iv.contains (c + 1) p with
    | true, true => if 2 * a < (2 * c + 1) * b then some (c, p) else some (c + 1, p)
    | true, false => some (c, p)
    | false, true => some (c + 1, p)
    | false, false => none

/-- The first number of digits, from `k` up to seventeen, with a decimal in the interval. -/
def Interval.search (iv : Interval) (lead : Int) : Nat → Nat → Nat × Int
  | k, 0 => ((iv.candidate? lead k).getD (0, 0))
  | k, fuel + 1 =>
    match iv.candidate? lead k with
    | some r => r
    | none => iv.search lead (k + 1) fuel

/-- The shortest decimal digits and exponent of a positive float `m · 2^e`. -/
def shortestDigits (m : Nat) (e : Int) : Nat × Int :=
  let iv := Interval.ofFloat m e
  let (n2, d2) := powFraction 2 iv.scale
  let lead := leadingPower (iv.value * n2) d2
  let (c, p) := iv.search lead 1 16
  normalize c p

/-- The shortest decimal of a finite float; none for a NaN or an infinity. -/
def ofFloat? (x : Float) : Option Decimal :=
  match FloatValue.ofFloat x with
  | .finite negative 0 _ => some ⟨negative, 0, 0⟩
  | .finite negative m e =>
    let (c, p) := shortestDigits m e
    some ⟨negative, c, p⟩
  | _ => none

end Sidecar.Decimal
