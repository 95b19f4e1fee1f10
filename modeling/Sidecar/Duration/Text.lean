import Sidecar.Duration.Basic
/-! The debugging text of a duration: a number in the largest of `s`, `ms`, `µs` and `ns` that
keeps the whole part nonzero, with the exact fraction and no trailing zeros, as in `1.5s`,
`999.999999ms`, `1µs` (with the micro sign U+00B5) and `0ns`. -/
namespace Sidecar.Duration

/-- Decimal digits of a number below `10^width`, padded with leading zeros to `width`. -/
def paddedDigits (n width : Nat) : List Char :=
  let ds := Nat.toDigits 10 n
  List.replicate (width - ds.length) '0' ++ ds

/-- A whole part and a fraction of `width` decimal places, the fraction without trailing zeros
and left out when it is zero, followed by the unit. -/
def decimalText (whole frac width : Nat) (unit : String) : String :=
  let fracText :=
    if frac = 0 then []
    else '.' :: ((paddedDigits frac width).reverse.dropWhile (· = '0')).reverse
  String.ofList (Nat.toDigits 10 whole ++ fracText) ++ unit

def text (d : Duration) : String :=
  let n := d.toNanos
  if nanosPerSec ≤ n then decimalText d.secs d.subsecNanos 9 "s"
  else if 1000000 ≤ n then decimalText (n / 1000000) (n % 1000000) 6 "ms"
  else if 1000 ≤ n then decimalText (n / 1000) (n % 1000) 3 "µs"
  else decimalText n 0 0 "ns"

end Sidecar.Duration
