/-! IP addresses and socket addresses in their strict text form.

The strict grammar is the one a socket address is first tried with before any name lookup:

* an IPv4 address is four decimal parts of one to three digits, each at most 255 and without a
  leading zero;
* an IPv6 address is up to eight groups of one to four hexadecimal digits separated by colons,
  where one `::` stands for a run of zero groups and the last two groups may be written as an
  IPv4 address;
* a socket address is `ipv4:port` or `[ipv6]:port`, the IPv6 form with an optional numeric
  `%scope`, and a port of decimal digits below `2^16`, leading zeros allowed.

An address is written back in its canonical form: IPv4 in dotted decimal, IPv6 in lowercase
hexadecimal with the first longest run of two or more zero groups shortened to `::`, and an
IPv4-mapped IPv6 address as `::ffff:` followed by the IPv4 address. -/
namespace Sidecar.Net

/-- An IP address: an IPv4 address as a number below `2^32`, or an IPv6 address as its eight
16-bit groups. -/
inductive IpAddress where
  | v4 (value : Nat)
  | v6 (groups : List Nat)
deriving DecidableEq

def octets (value : Nat) : List Nat :=
  [value / Nat.pow 2 24 % 256, value / Nat.pow 2 16 % 256, value / Nat.pow 2 8 % 256, value % 256]

def dottedText (value : Nat) : String :=
  ".".intercalate ((octets value).map toString)

def groupText (g : Nat) : String := String.ofList (Nat.toDigits 16 g)

/-- The start and length of the first longest run of zero groups, found from position `i` on,
given the run in progress and the longest so far. -/
def longestZeroRun : List Nat → Nat → Nat × Nat → Nat × Nat → Nat × Nat
  | [], _, _, best => best
  | g :: gs, i, (start, len), best =>
    if g = 0 then
      let cur := if len = 0 then (i, 1) else (start, len + 1)
      longestZeroRun gs (i + 1) cur (if best.2 < cur.2 then cur else best)
    else longestZeroRun gs (i + 1) (0, 0) best

def groupsText (gs : List Nat) : String :=
  match gs with
  | [0, 0, 0, 0, 0, 0xffff, hi, lo] => "::ffff:" ++ dottedText (hi * Nat.pow 2 16 + lo)
  | _ =>
    let (start, len) := longestZeroRun gs 0 (0, 0) (0, 0)
    let joined (xs : List Nat) := ":".intercalate (xs.map groupText)
    if 1 < len then joined (gs.take start) ++ "::" ++ joined (gs.drop (start + len))
    else joined gs

def IpAddress.text : IpAddress → String
  | .v4 value => dottedText value
  | .v6 groups => groupsText groups

def digitIn (radix : Nat) (c : Char) : Option Nat :=
  let v :=
    if '0' ≤ c ∧ c ≤ '9' then some (c.toNat - '0'.toNat)
    else if 'a' ≤ c ∧ c ≤ 'f' then some (c.toNat - 'a'.toNat + 10)
    else if 'A' ≤ c ∧ c ≤ 'F' then some (c.toNat - 'A'.toNat + 10)
    else none
  v.filter (· < radix)

def digitsValue (radix : Nat) (cs : List Char) : Nat :=
  cs.foldl (fun n c => radix * n + (digitIn radix c).getD 0) 0

/-- Reads the whole run of digits at the front of a text as one number, with the rest. It is
refused when there is no digit, when there are more than `maxDigits`, when the value reaches
`bound`, or when it has two or more digits, starts with zero and `zeroPrefix` is off. -/
def readNumber (radix : Nat) (maxDigits : Option Nat) (zeroPrefix : Bool) (bound : Nat)
    (cs : List Char) : Option (Nat × List Char) :=
  let ds := cs.takeWhile fun c => (digitIn radix c).isSome
  let v := digitsValue radix ds
  if ds.isEmpty then none
  else if maxDigits.any (· < ds.length) then none
  else if bound ≤ v then none
  else if !zeroPrefix && ds.head? = some '0' && 1 < ds.length then none
  else some (v, cs.drop ds.length)

/-- Reads a strict IPv4 address at the front of a text. -/
def readIpv4? (cs : List Char) : Option (Nat × List Char) := do
  let part := readNumber 10 (some 3) false 256
  let (a, r) ← part cs
  let (b, r) ← match r with
    | '.' :: r => part r
    | _ => none
  let (c, r) ← match r with
    | '.' :: r => part r
    | _ => none
  let (d, r) ← match r with
    | '.' :: r => part r
    | _ => none
  pure (((a * 256 + b) * 256 + c) * 256 + d, r)

/-- Reads the groups of one side of an IPv6 address, at most `limit - i` more of them: each
after a colon except the first, and where two or more groups may still follow, an IPv4 address
standing for the last two. Gives the groups, whether an IPv4 address ended them, and the rest. -/
def readGroups (limit i : Nat) (cs : List Char) : List Nat × Bool × List Char :=
  if i < limit then
    let afterColon : Option (List Char) :=
      if i = 0 then some cs
      else match cs with
        | ':' :: r => some r
        | _ => none
    let embedded := if i + 1 < limit then afterColon.bind readIpv4? else none
    match embedded with
    | some (a, r) => ([a / Nat.pow 2 16, a % Nat.pow 2 16], true, r)
    | none =>
      match afterColon.bind (readNumber 16 (some 4) true (Nat.pow 2 16)) with
      | some (g, r) =>
        let (gs, v4, r1) := readGroups limit (i + 1) r
        (g :: gs, v4, r1)
      | none => ([], false, cs)
  else ([], false, cs)
termination_by limit - i

def readIpv6? (cs : List Char) : Option (List Nat × List Char) :=
  let (front, v4, r) := readGroups 8 0 cs
  if front.length = 8 then some (front, r)
  else if v4 then none
  else
    match r with
    | ':' :: ':' :: r =>
      let (back, _, r) := readGroups (8 - (front.length + 1)) 0 r
      some (front ++ List.replicate (8 - front.length - back.length) 0 ++ back, r)
    | _ => none

/-- An address and port that a socket is bound to, with the interface number an IPv6 address
is scoped to, zero for none. -/
structure SocketAddress where
  ip : IpAddress
  port : Nat
  scope : Nat := 0
deriving DecidableEq

def readPort? : List Char → Option Nat
  | ':' :: r =>
    match readNumber 10 none true (Nat.pow 2 16) r with
    | some (p, []) => some p
    | _ => none
  | _ => none

/-- Reads a socket address in the strict grammar; the whole text must be used. -/
def SocketAddress.parse? (s : String) : Option SocketAddress :=
  let cs := s.toList
  match readIpv4? cs with
  | some (a, r) => (readPort? r).map fun p => { ip := .v4 a, port := p }
  | none =>
    match cs with
    | '[' :: r => do
      let (gs, r) ← readIpv6? r
      let (scope, r) := match r with
        | '%' :: r1 =>
          match readNumber 10 none true (Nat.pow 2 32) r1 with
          | some (n, r2) => (n, r2)
          | none => (0, r)
        | _ => (0, r)
      match r with
      | ']' :: r => (readPort? r).map fun p => { ip := .v6 gs, port := p, scope }
      | _ => none
    | _ => none

/-- The text of a socket address: the IPv6 form in brackets, without its scope. -/
def SocketAddress.text (a : SocketAddress) : String :=
  match a.ip with
  | .v4 _ => a.ip.text ++ ":" ++ toString a.port
  | .v6 _ => "[" ++ a.ip.text ++ "]:" ++ toString a.port

end Sidecar.Net
