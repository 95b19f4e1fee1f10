import Sidecar.Decimal.Basic
/-! Reading a decimal into a binary64 float: the nearest float, a tie going to the even
mantissa, with subnormals below `2^-1022` and an infinity once the value rounds past the largest
finite float. -/
namespace Sidecar.Decimal

/-- Rounds `num / den` to the nearest natural, a tie going to the even one. -/
def roundHalfEven (num den : Nat) : Nat :=
  let q := num / den
  let r := num % den
  if 2 * r < den then q
  else if den < 2 * r then q + 1
  else if q % 2 = 0 then q else q + 1

/-- The power of two of the leading bit of `num / den > 0`. -/
def leadingBit (num den : Nat) : Int :=
  let guess : Int := (Nat.log2 num : Int) - Nat.log2 den
  let (n, d) := powFraction 2 guess
  -- `2^guess` over-estimates the value by less than a factor of two
  if num * d < n * den then guess - 1 else guess

/-- The bits of the float nearest to `num / den > 0`, without the sign. -/
def magnitudeBits (num den : Nat) : Nat :=
  let e := max (leadingBit num den - fractionBits) leastExponent
  let (n, d) := powFraction 2 e
  let m := roundHalfEven (num * d) (den * n)
  let (m, e) := if m = Nat.pow 2 (fractionBits + 1) then (m / 2, e + 1) else (m, e)
  if 971 < e then 2047 * Nat.pow 2 fractionBits
  else if m < Nat.pow 2 fractionBits then m
  else (e + 1075).toNat * Nat.pow 2 fractionBits + (m - Nat.pow 2 fractionBits)

def toFloat (d : Decimal) : Float :=
  let sign := if d.negative then Nat.pow 2 63 else 0
  let magnitude :=
    if d.digits = 0 then 0
    else
      let (n, den) := powFraction 10 d.exponent
      magnitudeBits (d.digits * n) den
  Float.ofBits (sign + magnitude).toUInt64

end Sidecar.Decimal
