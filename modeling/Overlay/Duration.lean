/-!
# Durations

A duration is a number of nanoseconds whose whole seconds fit into sixty-four bits. Sums that leave
this range have no value; products stop at the greatest duration.
-/

namespace Overlay

/-- A length of time. -/
structure Duration where
  /-- The length in nanoseconds. -/
  nanos : Nat
  /-- The whole seconds fit into sixty-four bits. -/
  nanos_lt : nanos < 0x10000000000000000 * 1000000000
deriving DecidableEq

namespace Duration

/-- The nanoseconds of a second. -/
def nanosPerSecond : Nat := 1000000000

/-- The nanoseconds of a millisecond. -/
def nanosPerMilli : Nat := 1000000

/-- One more than the greatest number of nanoseconds. -/
def limit : Nat := 0x10000000000000000 * nanosPerSecond

/-- No time. -/
def zero : Duration := ⟨0, by decide⟩

/-- The greatest duration. -/
def greatest : Duration := ⟨limit - 1, by decide⟩

/-- The duration with the given number of nanoseconds, if there is one. -/
def ofNanos? (n : Nat) : Option Duration := if h : n < limit then some ⟨n, h⟩ else none

/-- The duration with the given number of nanoseconds, or the greatest one. -/
def ofNanosSat (n : Nat) : Duration := (ofNanos? n).getD greatest

/-- So many seconds. -/
def ofSeconds (n : UInt64) : Duration where
  nanos := n.toNat * nanosPerSecond
  nanos_lt := by
    have h := n.toNat_lt
    unfold nanosPerSecond
    omega

/-- So many milliseconds. -/
def ofMillis (n : UInt64) : Duration where
  nanos := n.toNat * nanosPerMilli
  nanos_lt := by
    have h := n.toNat_lt
    unfold nanosPerMilli
    omega

/-- The sum, when it is a duration. -/
def add? (a b : Duration) : Option Duration := ofNanos? (a.nanos + b.nanos)

/-- The product with a number, or the greatest duration when it is too long. -/
def scale (a : Duration) (k : Nat) : Duration := ofNanosSat (a.nanos * k)

/-- The shorter of two durations. -/
def min (a b : Duration) : Duration := if a.nanos ≤ b.nanos then a else b

/-- The longer of two durations. -/
def max (a b : Duration) : Duration := if a.nanos ≤ b.nanos then b else a

/-- The whole milliseconds. -/
def millis (a : Duration) : Nat := a.nanos / nanosPerMilli

end Duration

end Overlay
