import Overlay.Duration

/-!
# Exponential backoff

The delay before an attempt doubles from `base` until it reaches `max`. On top of it comes a random
part of up to a quarter of its whole milliseconds. The attempts are counted in thirty-two bits and
the count stops at the greatest number; the factor is a power of two while that fits into thirty-two
bits, and the greatest number from then on.
-/

namespace Overlay

/-- Delays that double from attempt to attempt. -/
structure Backoff where
  /-- The first delay. -/
  base : Duration
  /-- The longest delay. -/
  max : Duration
  /-- The number of delays taken since the start. -/
  attempt : UInt32 := 0

namespace Backoff

/-- What the base is multiplied by after so many attempts. -/
def factor (attempt : UInt32) : Nat :=
  if attempt.toNat < 32 then Nat.pow 2 attempt.toNat else 0xFFFFFFFF

/-- The delay that is due, without its random part. -/
def delay (b : Backoff) : Duration := (b.base.scale (factor b.attempt)).min b.max

/-- The greatest random part of a delay, in milliseconds: a quarter of the delay, whose milliseconds
are taken modulo 2⁶⁴. -/
def spread (delay : Duration) : Nat := delay.millis % 0x10000000000000000 / 4

/-- The delay with a random part of so many milliseconds. It is absent when it is no duration. -/
def jittered? (delay : Duration) (draw : Nat) : Option Duration :=
  Duration.ofNanos? (delay.nanos + draw * Duration.nanosPerMilli)

/-- One more attempt, up to the greatest number. -/
def bump (attempt : UInt32) : UInt32 :=
  if attempt.toNat < 0xFFFFFFFF then attempt + 1 else attempt

/-- The state after a delay has been taken. -/
def advance (b : Backoff) : Backoff := { b with attempt := bump b.attempt }

/-- Takes the next delay, given how many milliseconds of its spread were drawn. -/
def next (b : Backoff) (draw : Nat) : Option Duration × Backoff :=
  (jittered? b.delay (draw % (spread b.delay + 1)), b.advance)

/-- The next delay alone, or the greatest duration when it is none. -/
def take (b : Backoff) (draw : Nat) : Duration := (b.next draw).1.getD .greatest

/-- Starts again. -/
def reset (b : Backoff) : Backoff := { b with attempt := 0 }

/-- The state after `n` delays have been taken. -/
def advanceBy (b : Backoff) (n : Nat) : Backoff :=
  { b with attempt := UInt32.ofNat (Nat.min (b.attempt.toNat + n) 0xFFFFFFFF) }

end Backoff

end Overlay
