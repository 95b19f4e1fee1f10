/-! Durations. A duration is a count of nanoseconds below `2^64` seconds, the range of a span
of a monotonic clock; its whole seconds and the nanoseconds beyond them are views of that
count. Two bounds matter elsewhere: `Duration.longest` is the largest duration, and
`Duration.signedMax` (`2^63 - 1` nanoseconds) is the largest one a configuration accepts. -/
namespace Sidecar

def nanosPerSec : Nat := 1000000000

/-- One more than the largest number of nanoseconds in a duration: `2^64` seconds. -/
def Duration.span : Nat := Nat.pow 2 64 * nanosPerSec

/-- A span of time, counted in nanoseconds. -/
structure Duration where
  /-- The length in nanoseconds. -/
  toNanos : Nat
  toNanos_lt : toNanos < Duration.span := by decide
deriving DecidableEq

namespace Duration

instance : LE Duration := ⟨fun a b => a.toNanos ≤ b.toNanos⟩
instance : LT Duration := ⟨fun a b => a.toNanos < b.toNanos⟩
instance (a b : Duration) : Decidable (a ≤ b) := inferInstanceAs (Decidable (a.toNanos ≤ b.toNanos))
instance (a b : Duration) : Decidable (a < b) := inferInstanceAs (Decidable (a.toNanos < b.toNanos))

def secs (d : Duration) : Nat := d.toNanos / nanosPerSec

/-- Nanoseconds beyond the whole seconds, below `10^9`. -/
def subsecNanos (d : Duration) : Nat := d.toNanos % nanosPerSec

def zero : Duration := ⟨0, by decide⟩

/-- The longest duration: `2^64 - 1` seconds and `999999999` nanoseconds. -/
def longest : Duration := ⟨Duration.span - 1, by decide⟩

/-- The longest duration a configuration accepts: `2^63 - 1` nanoseconds. -/
def signedMax : Duration := ⟨Nat.pow 2 63 - 1, by decide⟩

def ofNanos? (n : Nat) : Option Duration :=
  if h : n < Duration.span then some ⟨n, h⟩ else none

def ofParts? (secs nanos : Nat) : Option Duration :=
  if secs < Nat.pow 2 64 ∧ nanos < nanosPerSec then ofNanos? (secs * nanosPerSec + nanos) else none

/-- A duration from milliseconds below `2^64`. -/
def ofMillis? (ms : Nat) : Option Duration :=
  if ms < Nat.pow 2 64 then ofNanos? (ms * 1000000) else none

/-- A duration from a nanosecond count, saturating at the longest duration. -/
def ofNanosSat (n : Nat) : Duration :=
  if h : n < Duration.span then ⟨n, h⟩ else longest

/-- A duration of whole seconds, saturating at the longest duration. -/
def ofSecs (s : Nat) : Duration := ofNanosSat (s * nanosPerSec)

def ofMillis (ms : Nat) : Duration := ofNanosSat (ms * 1000000)

def clamp (d lo hi : Duration) : Duration :=
  if d < lo then lo else if hi < d then hi else d

theorem secs_lt (d : Duration) : d.secs < Nat.pow 2 64 := by
  have := d.toNanos_lt
  simp only [secs, Duration.span, nanosPerSec] at *
  omega

theorem subsecNanos_lt (d : Duration) : d.subsecNanos < nanosPerSec :=
  Nat.mod_lt _ (by decide)

theorem secs_mul_add (d : Duration) : d.secs * nanosPerSec + d.subsecNanos = d.toNanos := by
  simp only [secs, subsecNanos]
  exact Nat.div_add_mod' d.toNanos nanosPerSec

end Duration

end Sidecar
