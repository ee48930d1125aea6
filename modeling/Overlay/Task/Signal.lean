/-!
# A signal that tasks listen to

A signal is a truth value that its sender may change. Each listener knows whether a value was sent that
it has not noticed. To look is to notice the value that was sent last, once; when there is none, a
listener still finds out that the sender has gone away, and takes that for the value true. To read the
value without noticing it is possible at any time.
-/

namespace Overlay

/-- A signal as one of its listeners sees it. -/
structure Signal where
  /-- The value that was sent last. -/
  value : Bool := false
  /-- Was a value sent that the listener has not noticed? -/
  unseen : Bool := false
  /-- Has the sender gone away? -/
  dropped : Bool := false
deriving DecidableEq

namespace Signal

/-- The signal after a value has been sent. -/
def send (value : Bool) (s : Signal) : Signal :=
  if s.dropped then s else { s with value, unseen := true }

/-- The signal once its sender has gone away. -/
def drop (s : Signal) : Signal := { s with dropped := true }

/-- Looks for a change: the value it says, and the signal once that is noticed. -/
def look (s : Signal) : Option (Bool × Signal) :=
  if s.unseen then some (s.value, { s with unseen := false })
  else if s.dropped then some (true, s)
  else none

end Signal

end Overlay
