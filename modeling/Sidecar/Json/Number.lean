import Sidecar.Decimal.Rounding
/-! Numbers of a request as its reader gives them.

An integer is kept exactly while it fits: below `2^64` when positive, down to `-2^63` when
negative. Every other number is a float, made the fast way rather than the exact way: the
significand is kept to the digits that fit in 64 bits, converted to the nearest float, and then
multiplied or divided by one correctly rounded power of ten, each step rounding again. So
`924.5281977799295` reads as `924.5281977799297`, while any number of at most 15 significant
digits and a small exponent reads exactly. A product beyond the largest float is refused; a
quotient too small for the floats is zero. -/
namespace Sidecar.Json

/-- A number: an unsigned integer below `2^64`, a negative integer from `-2^63`, or a float. -/
inductive Number where
  | unsigned (n : Nat)
  | negative (n : Int)
  | float (x : Float)
deriving Inhabited

def wordMax : Nat := Nat.pow 2 64 - 1

/-- The largest exponent the reader counts to. -/
def exponentMax : Int := Int.pow 2 31 - 1

def exponentMin : Int := -Int.pow 2 31

/-- `10^i` as the nearest float. -/
def powerOfTen (i : Nat) : Float := Decimal.toFloat ⟨false, 1, i⟩

/-- Scales a float by `10^e`, one table step of at most `10^308` at a time; none when the
product is beyond the floats. A quotient step of `10^-308` is repeated while `e` is out of the
table's reach and the value is not yet zero. -/
def scaleByPowerOfTen (fuel : Nat) (f : Float) (e : Int) : Option Float :=
  if e.natAbs ≤ 308 then
    if 0 ≤ e then
      let g := f * powerOfTen e.natAbs
      if g.isInf then none else some g
    else some (f / powerOfTen e.natAbs)
  else if f == 0 then some f
  else if 0 ≤ e then none
  else
    match fuel with
    | 0 => some f
    | fuel + 1 => scaleByPowerOfTen fuel (f / powerOfTen 308) (e + 308)

/-- The float of a significand below `2^64` and a decimal exponent, with its sign; none when it
is beyond the floats. Such a significand is below `10^20`, so three steps of `10^-308` bring it
to zero and the fuel of four steps never runs out. -/
def Number.ofParts (positive : Bool) (significand : Nat) (exponent : Int) : Option Float :=
  (scaleByPowerOfTen 4 (Decimal.toFloat ⟨false, significand, 0⟩) exponent).map fun f =>
    if positive then f else -f

/-- An integer of a sign and magnitude that fits in 64 bits: unsigned when positive; a negative
zero, or a magnitude beyond `2^63`, is a float. -/
def Number.ofInteger (positive : Bool) (n : Nat) : Number :=
  if positive then .unsigned n
  else if n = 0 ∨ Nat.pow 2 63 < n then .float (-(Decimal.toFloat ⟨false, n, 0⟩))
  else .negative (-(n : Int))

def Number.toFloat : Number → Float
  | .unsigned n => Decimal.toFloat ⟨false, n, 0⟩
  | .negative n => Decimal.toFloat ⟨true, n.natAbs, 0⟩
  | .float x => x

end Sidecar.Json
