import Overlay.IoError
import Overlay.Packet

/-!
# A device in memory

A device has two sides. The tunnel reads from it what the local network sends and writes to it what
is meant for the local network. Here the local network is a handle in the same process. Each
direction is a queue that holds at most 1024 packets; whoever would put one more into it has to wait.

The handle can close its direction, and either side can go away. What was accepted before is still
read. After that the tunnel reads packets of length zero, and the handle learns that nothing more
will come.
-/

namespace Overlay

/-- A device in memory. -/
structure Channel where
  /-- What the handle has sent and the tunnel has not read, the oldest first. -/
  outgoing : List Packet := []
  /-- What the tunnel has written and the handle has not taken, the oldest first. -/
  incoming : List Packet := []
  /-- Has the handle closed its direction? -/
  closed : Bool := false
  /-- Has the handle gone away? -/
  handleGone : Bool := false
  /-- Has the tunnel's side gone away? -/
  tunnelGone : Bool := false

namespace Channel

/-- The number of packets that each direction holds. -/
def capacity : Nat := 1024

/-- The error of a closed device. -/
def closedError : IoError := .custom .notConnected "interface closed"

/-- The error when the tunnel's side has gone away. -/
def tunnelGoneError : IoError := .custom .brokenPipe "interface dropped"

/-- The error when the handle has gone away. -/
def handleGoneError : IoError := .custom .brokenPipe "interface handle dropped"

/-- The handle sends a packet. There is no outcome yet while the queue is full. -/
def transmit (c : Channel) (p : Packet) : Option (Except IoError Unit × Channel) :=
  if c.closed then some (.error closedError, c)
  else if c.tunnelGone then some (.error tunnelGoneError, c)
  else if c.outgoing.length < capacity then
    some (.ok (), { c with outgoing := c.outgoing ++ [p] })
  else none

/-- The tunnel reads a packet into a buffer of the given size, which cuts off what does not fit. A
packet of length zero is the end; there is no outcome yet while something may still come. -/
def read (c : Channel) (size : Nat) : Option (Packet × Channel) :=
  match c.outgoing with
  | p :: rest => some (p.take size, { c with outgoing := rest })
  | [] => if c.closed || c.handleGone then some ([], c) else none

/-- The tunnel writes a packet. There is no outcome yet while the queue is full. -/
def write (c : Channel) (p : Packet) : Option (Except IoError Unit × Channel) :=
  if c.handleGone then some (.error handleGoneError, c)
  else if c.incoming.length < capacity then
    some (.ok (), { c with incoming := c.incoming ++ [p] })
  else none

/-- The handle takes a packet, or learns that none will come. There is no outcome yet while one may
still come. -/
def take (c : Channel) : Option (Option Packet × Channel) :=
  match c.incoming with
  | p :: rest => some (some p, { c with incoming := rest })
  | [] => if c.tunnelGone then some (none, c) else none

/-- The handle closes its direction. -/
def close (c : Channel) : Channel := { c with closed := true }

/-- The handle goes away, and what it has not taken with it. -/
def dropHandle (c : Channel) : Channel := { c with handleGone := true, incoming := [] }

/-- The tunnel's side goes away, and what it has not read with it. -/
def dropTunnel (c : Channel) : Channel := { c with tunnelGone := true, outgoing := [] }

end Channel

end Overlay
