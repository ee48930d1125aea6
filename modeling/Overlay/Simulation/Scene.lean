import Overlay.Device.Channel
import Overlay.Net.Reach
import Overlay.Route.Kernel
import Overlay.Tunnel.Server

/-!
# Simulated surroundings

A scene is what a tunnel server finds around it when nothing outside the process is touched: the
routes of a kernel, a network that reaches everything or nothing, and a device. The device is either
a channel or follows a script, which says what its reads give and how many of its writes fail. The
scene takes note of the reported sources and of the datagrams that were sent.
-/

namespace Overlay

/-- A device that follows a script. -/
structure ScriptedDevice where
  /-- What the next reads give. -/
  reads : List (Except IoError Packet) := []
  /-- Do reads find the device closed once the script is over? -/
  closed : Bool := false
  /-- How many writes are going to fail. -/
  failingWrites : Nat := 0
  /-- The packets that were written, the oldest first. -/
  written : List Packet := []

namespace ScriptedDevice

/-- Reads what the script says. -/
def read (d : ScriptedDevice) (size : Nat) : Option (Except IoError Packet × ScriptedDevice) :=
  match d.reads with
  | r :: rest => some (r.map (·.take size), { d with reads := rest })
  | [] => if d.closed then some (.ok [], d) else none

/-- Writes a packet, or fails as the script says. -/
def write (d : ScriptedDevice) (p : Packet) : Except IoError Unit × ScriptedDevice :=
  if 0 < d.failingWrites then
    (.error (.ofKind (.other "other error")), { d with failingWrites := d.failingWrites - 1 })
  else (.ok (), { d with written := d.written ++ [p] })

end ScriptedDevice

/-- A device without hardware. -/
inductive SceneDevice where
  /-- A device in memory. -/
  | channel (c : Channel)
  /-- A device that follows a script. -/
  | scripted (d : ScriptedDevice)

namespace SceneDevice

/-- Reads a packet of at most the given size. -/
def read (size : Nat) : SceneDevice → Option (Except IoError Packet × SceneDevice)
  | channel c => (c.read size).map fun (p, c) => (.ok p, channel c)
  | scripted d => (d.read size).map fun (r, d) => (r, scripted d)

/-- Writes a packet. -/
def write (p : Packet) : SceneDevice → Option (Except IoError Unit × SceneDevice)
  | channel c => (c.write p).map fun (r, c) => (r, channel c)
  | scripted d =>
    let (r, d) := d.write p
    some (r, scripted d)

/-- The next read gives a packet. -/
def feed (p : Packet) : SceneDevice → SceneDevice
  | channel c => match c.transmit p with
    | some (_, c) => channel c
    | none => channel c
  | scripted d => scripted { d with reads := d.reads ++ [.ok p] }

/-- The next read of a scripted device fails. -/
def fail (kind : IoKind) : SceneDevice → SceneDevice
  | channel c => channel c
  | scripted d => scripted { d with reads := d.reads ++ [.error (.ofKind kind)] }

/-- The next writes of a scripted device fail. -/
def failWrites (n : Nat) : SceneDevice → SceneDevice
  | channel c => channel c
  | scripted d => scripted { d with failingWrites := n }

/-- Closes the device. -/
def close : SceneDevice → SceneDevice
  | channel c => channel c.close
  | scripted d => scripted { d with closed := true }

/-- Takes all that was written. -/
def takeWritten : SceneDevice → List Packet × SceneDevice
  | channel c => (c.incoming, channel { c with incoming := [] })
  | scripted d => (d.written, scripted { d with written := [] })

/-- The number of reads that are due. -/
def pending : SceneDevice → Nat
  | channel c => c.outgoing.length
  | scripted d => d.reads.length

end SceneDevice

/-- What a server finds around it. -/
structure Scene where
  /-- What the network reaches. -/
  reach : Reach
  /-- The device. -/
  device : SceneDevice
  /-- Does anybody want to know the sources? -/
  reporting : Bool := true
  /-- The routes of the host. -/
  kernel : KernelRoutes := {}
  /-- The datagrams that wait at the listen socket, the oldest first. -/
  datagrams : List Packet := []
  /-- The sources that were reported, the latest first. -/
  reports : List Ipv4 := []
  /-- The datagrams that were sent, the latest first. -/
  sent : List (SocketAddress × Packet) := []

namespace Scene

/-- Takes note of a source. -/
def report (a : Ipv4) (s : Scene) : Scene :=
  if s.reporting then { s with reports := a :: s.reports } else s

/-- Sends a datagram, unless it is too long. -/
def send (p : Peer) (packet : Packet) (s : Scene) : Except IoError Unit × Scene :=
  if Reach.maxPayload < packet.length then (.error .messageTooLong, s)
  else (.ok (), { s with sent := (p.remote, packet) :: s.sent })

/-- Takes the next datagram. -/
def receive (size : Nat) (s : Scene) : Option (Except IoError Packet × Scene) :=
  match s.datagrams with
  | p :: rest => some (.ok (p.take size), { s with datagrams := rest })
  | [] => none

/-- The surroundings that a scene makes. -/
def around : Surroundings Scene where
  connect address s := (s.reach.connect address, s)
  issue action n _ s := { s with kernel := s.kernel.issue action n }
  outcome action n device s :=
    (s.kernel.outcome action n device).map fun (r, k) => (r, { s with kernel := k })
  report := report
  send := send
  read size s := (s.device.read size).map fun (r, d) => (r, { s with device := d })
  write p s := (s.device.write p).map fun (r, d) => (r, { s with device := d })
  receive := receive

/-- The commands given since the log was last cleared, the oldest first. -/
def commands (s : Scene) : List (RouteAction × Subnet) := s.kernel.log.reverse

/-- The scene with nothing noted. -/
def forget (s : Scene) : Scene :=
  { s with kernel := { s.kernel with log := [] }, reports := [], sent := [] }

end Scene

end Overlay
