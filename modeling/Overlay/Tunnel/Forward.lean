import Overlay.Tunnel.Request

/-!
# Forwarding packets

A server runs two loops. The outbound loop reads packets from the device and sends each of them to the
peer that owns its destination. The inbound loop reads datagrams from the listen socket and writes
them to the device. Both check every packet first, and every packet moves exactly one counter.

A loop ends when the server is shut down. The outbound loop also ends when the device is closed, and
the inbound loop when the socket fails. Either end shuts the server down, which is over when the other
loop has ended too.
-/

namespace Overlay.Tunnel

/-- The size of the buffers that packets are read into. -/
def maxDatagram : Nat := 65536

/-- Writes a datagram from a peer to the device. -/
def forwardInbound (p : Packet) : Work Unit :=
  match p.validate with
  | .error _ => ask (.count .invalid)
  | .ok _ => do
    match ← ask (.write p) with
    | .ok _ => ask (.count .forwardedRemote)
    | .error _ => ask (.count .sendErrors)

/-- Sends a packet to the peer that owns the given destination. -/
def sendTo (destination : Ipv4) (p : Packet) : Work Unit := do
  match ← ask (.lookup destination) with
  | none => ask (.count .noRoute)
  | some peer =>
    match ← ask (.send peer p) with
    | .ok _ => ask (.count .forwardedLocal)
    | .error _ => ask (.count .sendErrors)

/-- Reports the source of a packet from the device and sends it to the peer that owns its
destination. -/
def forwardOutbound (p : Packet) : Work Unit :=
  match p.validate, p.source?, p.destination? with
  | .ok _, some source, some destination => do
    ask (.report source)
    sendTo destination p
  | _, _, _ => ask (.count .invalid)

/-- Ends a loop. -/
def finish (d : Direction) (e : Ending) : Work (Option Ending) := do
  ask (.finish d e)
  return some e

/-- One run of the inbound loop: its ending, unless it goes on. -/
def inboundRun : Work (Option Ending) := do
  match ← ask (.arrival .inbound) with
  | .stop => finish .inbound (.ok ())
  | .read (.error e) => finish .inbound (.error (.io e))
  | .read (.ok p) =>
    forwardInbound p
    return none

/-- One run of the outbound loop: its ending, unless it goes on. A packet of length zero says that
the device is closed. Errors that do not say so are passed over. -/
def outboundRun : Work (Option Ending) := do
  match ← ask (.arrival .outbound) with
  | .stop => finish .outbound (.ok ())
  | .read (.error e) =>
    if e.closesDevice then finish .outbound (.error (.io e)) else return none
  | .read (.ok []) => finish .outbound (.error .deviceClosed)
  | .read (.ok p) =>
    forwardOutbound p
    return none

/-- Waits for both loops. The loop that ends first gives the result and shuts the other one down. -/
def serve : Work Ending := do
  let (first, ending) ← ask .firstEnded
  ask .stop
  discard (ask (.join first.other))
  return ending

end Overlay.Tunnel
