/-! Decimal numbers and the decoded value of a binary64 float.

A `Decimal` is `± digits · 10^exponent`. A `FloatValue` is what the 64 bits of a float
stand for: not a number, an infinity, or `± mantissa · 2^exponent` (zero included, with its
sign). -/
namespace Sidecar

/-- A decimal number `± digits · 10^exponent`. -/
structure Decimal where
  negative : Bool
  digits : Nat
  exponent : Int
deriving DecidableEq, Repr

/-- The value that the bits of a binary64 float stand for. -/
inductive FloatValue where
  | nan
  | infinity (negative : Bool)
  /-- `± mantissa · 2^exponent`; a zero mantissa is a signed zero. -/
  | finite (negative : Bool) (mantissa : Nat) (exponent : Int)
deriving DecidableEq, Repr

def fractionBits : Nat := 52

/-- The exponent of the last bit of a subnormal float. -/
def leastExponent : Int := -1074

/-- Decodes sign, exponent field and fraction field of a float. -/
def FloatValue.ofBits (b : Nat) : FloatValue :=
  let negative := b / Nat.pow 2 63 % 2 == 1
  let field := b / Nat.pow 2 fractionBits % 2048
  let fraction := b % Nat.pow 2 fractionBits
  if field = 2047 then
    if fraction = 0 then .infinity negative else .nan
  else if field = 0 then .finite negative fraction leastExponent
  else .finite negative (fraction + Nat.pow 2 fractionBits) ((field : Int) - 1075)

def FloatValue.ofFloat (x : Float) : FloatValue :=
  FloatValue.ofBits x.toBits.toNat

/-- A fraction `num / den` as a pair of naturals, for `2^e` or `10^e` with an integer `e`. -/
def powFraction (base : Nat) (e : Int) : Nat × Nat :=
  if 0 ≤ e then (Nat.pow base e.toNat, 1) else (1, Nat.pow base e.natAbs)

/-- Number of decimal digits of a positive number. -/
def decimalLength (n : Nat) : Nat := (Nat.toDigits 10 n).length

end Sidecar
