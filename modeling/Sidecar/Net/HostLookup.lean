import Sidecar.Net.IpAddress
/-! Looking up the address of a host.

A host that is not a strict socket address is looked up by the system resolver, in this order:

1. a host holding a NUL character cannot be passed to the resolver at all;
2. a numbers-and-dots address is read in its classic notation (`numbersAndDots?`): one to
   four parts, each decimal, octal after a `0` or hexadecimal after `0x`, the last part filling
   the bytes left, so that `127.1` is `127.0.0.1`;
3. the host table is searched, ignoring ASCII case;
4. a text that is not a well-formed host name (`isHostName`) is not found;
5. any other name is sent to the name servers, which cannot be reached here, so the lookup
   fails for the time being.

A host with a colon reaches the resolver only in brackets, which no numeric IPv6 form allows,
so numeric IPv6 hosts play no part. -/
namespace Sidecar.Net

/-- Reads an unsigned number at the front of a text, its radix told by its prefix: `0x` before
a hexadecimal digit, `0` for octal, decimal otherwise; the text must start with a digit. Values
of `2^32` and more are refused. -/
def readPart (cs : List Char) : Option (Nat × List Char) :=
  let run (radix : Nat) (ds : List Char) : Nat × List Char :=
    let digits := ds.takeWhile fun c => (digitIn radix c).isSome
    (digitsValue radix digits, ds.drop digits.length)
  let (v, rest) := match cs with
    | '0' :: x :: h :: r =>
      if (x = 'x' ∨ x = 'X') ∧ (digitIn 16 h).isSome then run 16 (h :: r) else run 8 cs
    | '0' :: _ => run 8 cs
    | _ => run 10 cs
  match cs.head? with
  | some c => if c.isDigit ∧ v < Nat.pow 2 32 then some (v, rest) else none
  | none => none

/-- Reads the parts of a numbers-and-dots address after the `stored` leading bytes; the whole
text must be used. -/
def numbersAndDotsFrom (stored : List Nat) (cs : List Char) : Option Nat :=
  match readPart cs with
  | none => none
  | some (v, '.' :: rest) =>
    if _h : stored.length < 3 ∧ v ≤ 255 then numbersAndDotsFrom (stored ++ [v]) rest else none
  | some (v, []) =>
    let room := Nat.pow 2 (8 * (4 - stored.length))
    if room ≤ v then none
    else some (stored.foldl (fun acc b => acc * 256 + b) 0 * room + v)
  | some (_, _ :: _) => none
termination_by 4 - stored.length
decreasing_by simp only [List.length_append, List.length_singleton]; omega

def numbersAndDots? (host : String) : Option Nat :=
  numbersAndDotsFrom [] host.toList

/-- Splits a host name into labels: dots separate them, a backslash takes the next character as
it is or, before three decimal digits, the byte they give. None when a label is empty (a single
trailing dot apart) or longer than 63 bytes, an escape is cut short or above 255, or the name
would take more than 255 bytes on the wire. -/
def nameLabels? (cs : List Char) : Option (List (List Nat)) :=
  let rec go (done : List (List Nat)) (cur : List Nat) : List Char → Option (List (List Nat))
    | [] => if 64 ≤ cur.length then none else some (done ++ [cur.reverse])
    | '\\' :: d :: rest =>
      if d.isDigit then
        match rest with
        | e :: f :: more =>
          if e.isDigit ∧ f.isDigit then
            let n := digitsValue 10 [d, e, f]
            if 255 < n then none else go done (n :: cur) more
          else none
        | _ => none
      else go done (d.toNat :: cur) rest
    | ['\\'] => go done cur []
    | '.' :: rest =>
      if 64 ≤ cur.length then none
      else if rest.isEmpty then some (done ++ [cur.reverse])
      else if cur.isEmpty ∨ rest.head? = some '.' then none
      else go (done ++ [cur.reverse]) [] rest
    | c :: rest => go done (c.toNat :: cur) rest
  match go [] [] cs with
  | none => none
  | some labels =>
    let labels := labels.filter (!·.isEmpty)
    if 255 < labels.foldr (fun l n => l.length + 1 + n) 0 + 1 then none else some labels

def isLabelByte (b : Nat) : Bool :=
  (48 ≤ b && b ≤ 57) || (65 ≤ b && b ≤ 90) || (97 ≤ b && b ≤ 122) || b == 45 || b == 95

/-- Whether a text is a well-formed host name: printable ASCII without blanks, well-formed
labels of letters, digits, `-` and `_`, and no `-` first. -/
def isHostName (host : String) : Bool :=
  let cs := host.toList
  cs.all (fun c => '!' ≤ c ∧ c ≤ '~') &&
    match nameLabels? cs with
    | none => false
    | some labels =>
      labels.all (·.all isLabelByte) &&
        match labels with
        | (45 :: _) :: _ => false
        | _ => true

inductive LookupError where
  /-- The host holds a NUL character. -/
  | nulCharacter
  /-- The name is not known. -/
  | noName
  /-- The name servers could not answer. -/
  | tryAgain
deriving DecidableEq

def LookupError.message : LookupError → String
  | .nulCharacter => "file name contained an unexpected NUL byte"
  | .noName => "failed to lookup address information: Name or service not known"
  | .tryAgain => "failed to lookup address information: Temporary failure in name resolution"

def loopback : IpAddress := .v4 0x7f000001

def asciiLower (s : String) : String := String.ofList (s.toList.map Char.toLower)

structure Resolver where
  hosts : List (String × IpAddress) := [("localhost", loopback)]

def Resolver.lookup (r : Resolver) (host : String) : Except LookupError IpAddress :=
  if host.toList.contains '\x00' then .error .nulCharacter
  else
    match numbersAndDots? host with
    | some v => .ok (.v4 v)
    | none =>
      match r.hosts.find? (asciiLower ·.1 == asciiLower host) with
      | some (_, a) => .ok a
      | none => if isHostName host then .error .tryAgain else .error .noName

end Sidecar.Net
