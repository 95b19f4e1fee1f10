import Sidecar.Text.Blank
import Sidecar.Server.Error
/-! Listen addresses.

An address is `host:port`, split at its last colon after trimming. The port is read as an
unsigned 16-bit number: an optional `+`, one or more ASCII digits, at most 65535. An empty host
means every interface, `0.0.0.0`; a host with a colon must be bracketed, since a bare IPv6 host
is ambiguous. Anything else is refused with the trimmed text. -/
namespace Sidecar.Server

/-- The text before and after the last colon, when there is one. -/
def splitLastColon (cs : List Char) : Option (List Char × List Char) :=
  let port := (cs.reverse.takeWhile (· ≠ ':')).reverse
  if port.length < cs.length then some (cs.take (cs.length - port.length - 1), port) else none

def decimalValue (cs : List Char) : Nat :=
  cs.foldl (fun n c => 10 * n + (c.toNat - '0'.toNat)) 0

/-- Reads a port: an optional `+`, then one or more ASCII digits, with a value below `2^16`. -/
def portValue? (cs : List Char) : Option Nat :=
  let digits := match cs with
    | '+' :: rest => rest
    | _ => cs
  if digits.isEmpty || !digits.all Char.isDigit then none
  else
    let v := decimalValue digits
    if v < Nat.pow 2 16 then some v else none

/-- The address to bind for a listen address. -/
def normalizeAddress (address : String) : Except ServerError String :=
  let t := Text.trim address
  let invalid := ServerError.invalidAddress t
  match splitLastColon t.toList with
  | none => .error invalid
  | some (host, port) =>
    match portValue? port with
    | none => .error invalid
    | some _ =>
      if host.isEmpty then .ok ("0.0.0.0:" ++ String.ofList port)
      else if host.contains ':' && host.head? != some '[' then .error invalid
      else .ok t

end Sidecar.Server
