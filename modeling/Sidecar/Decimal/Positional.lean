import Sidecar.Decimal.Shortest
/-! Plain positional text of a float, as sample values of the metrics exposition are written:
the shortest digits that read back, never an exponent, a point only before a nonzero fraction,
`-0` for negative zero, and `NaN`, `inf`, `-inf` for the values that are not finite.
For instance `0.1`, `100`, `1000000000000000000000`, `0.0000001`, `-0.000025`. -/
namespace Sidecar.Decimal

/-- The digits of a decimal written out with the point placed by the exponent. -/
def positionalDigits (digits : Nat) (exponent : Int) : String :=
  let ds := Nat.toDigits 10 digits
  if 0 ≤ exponent then String.ofList (ds ++ List.replicate exponent.toNat '0')
  else
    let places := exponent.natAbs
    if places < ds.length then
      String.ofList (ds.take (ds.length - places) ++ '.' :: ds.drop (ds.length - places))
    else String.ofList ('0' :: '.' :: List.replicate (places - ds.length) '0' ++ ds)

def positional (d : Decimal) : String :=
  (if d.negative then "-" else "") ++ positionalDigits d.digits d.exponent

def plainText (x : Float) : String :=
  match FloatValue.ofFloat x with
  | .nan => "NaN"
  | .infinity negative => if negative then "-inf" else "inf"
  | .finite negative _ _ =>
    match ofFloat? x with
    | some d => d.positional
    | none => if negative then "-0" else "0"

end Sidecar.Decimal
