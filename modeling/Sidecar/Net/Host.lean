import Sidecar.Net.HostLookup
/-! What the host lets a listening socket bind.

The host binds any IPv4 address, whether or not one of its interfaces holds it. IPv6 is switched
off: it holds no IPv6 address, not even the loopback `::1`, and its only interface is the
loopback, numbered 1. So an IPv6 socket address binds only when it is

* the unspecified address `::`, or
* an IPv4-mapped address `::ffff:a.b.c.d`, which binds as its IPv4 address.

A multicast address (`ff00::/8`) is refused as an invalid argument for a stream socket. A
link-local address (`fe80::/10`) needs an interface: without a scope it is an invalid argument,
with the number of no interface there is no such device, and otherwise, like every other IPv6
address, it cannot be assigned. -/
namespace Sidecar.Net

inductive BindError where
  /-- The host could not be looked up. -/
  | lookup (e : LookupError)
  /-- The text has no colon before a port. -/
  | invalidSocketAddress
  /-- The text after the last colon is not a port. -/
  | invalidPortValue
  | invalidArgument
  | noSuchDevice
  | addressNotAvailable
deriving DecidableEq

def BindError.message : BindError → String
  | .lookup e => e.message
  | .invalidSocketAddress => "invalid socket address"
  | .invalidPortValue => "invalid port value"
  | .invalidArgument => "Invalid argument (os error 22)"
  | .noSuchDevice => "No such device (os error 19)"
  | .addressNotAvailable => "Cannot assign requested address (os error 99)"

/-- The classes of IPv6 addresses that binding tells apart. -/
inductive Ipv6Kind where
  | unspecified
  /-- An IPv4-mapped address, with its IPv4 address. -/
  | mapped (v4 : Nat)
  | multicast
  | linkLocal
  | other
deriving DecidableEq

def Ipv6Kind.of (groups : List Nat) : Ipv6Kind :=
  match groups with
  | [0, 0, 0, 0, 0, 0, 0, 0] => .unspecified
  | [0, 0, 0, 0, 0, 0xffff, hi, lo] => .mapped (hi * Nat.pow 2 16 + lo)
  | g :: _ =>
    if g / 256 = 0xff then .multicast
    else if g / 64 = 0xfe80 / 64 then .linkLocal
    else .other
  | [] => .other

/-- The host's network interfaces and the IPv6 addresses they hold. -/
structure Host where
  /-- The interface numbers. -/
  interfaces : List Nat := [1]
  /-- The IPv6 addresses held, as groups. -/
  ipv6Addresses : List (List Nat) := []

/-- Whether the host lets a socket bind an address with a scope. -/
def Host.admits (h : Host) (ip : IpAddress) (scope : Nat) : Except BindError Unit :=
  match ip with
  | .v4 _ => .ok ()
  | .v6 groups =>
    let held : Except BindError Unit :=
      if groups ∈ h.ipv6Addresses then .ok () else .error .addressNotAvailable
    match Ipv6Kind.of groups with
    | .unspecified => .ok ()
    | .mapped _ => .ok ()
    | .multicast => .error .invalidArgument
    | .linkLocal =>
      if scope = 0 then .error .invalidArgument
      else if scope ∉ h.interfaces then .error .noSuchDevice
      else held
    | .other => held

end Sidecar.Net
