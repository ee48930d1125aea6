import Overlay.Tunnel.Forward
import Overlay.Tunnel.Peers

/-!
# The tunnel server

The state of a server is its table of peers, the line of the tasks that wait for the lock, its
counters, and how far its shutdown has come. Everything else is in its surroundings: the network, the
route commands, the device and whoever is told the sources of packets. `Server.machine` answers the
requests of a server's tasks in given surroundings.

The first task in the line holds the lock. Tasks get it in the order in which they lined up.
-/

namespace Overlay

/-- How often each counter was moved, modulo 2⁶⁴. -/
structure Stats where
  /-- Packets that were sent to a peer. -/
  forwardedLocal : UInt64 := 0
  /-- Packets that were written to the device. -/
  forwardedRemote : UInt64 := 0
  /-- Packets that were not valid. -/
  invalid : UInt64 := 0
  /-- Packets to an address that no peer owns. -/
  noRoute : UInt64 := 0
  /-- Packets that could not be sent or written. -/
  sendErrors : UInt64 := 0
deriving DecidableEq

namespace Stats

/-- Moves a counter. -/
def bump (s : Stats) : Tunnel.Counter → Stats
  | .forwardedLocal => { s with forwardedLocal := s.forwardedLocal + 1 }
  | .forwardedRemote => { s with forwardedRemote := s.forwardedRemote + 1 }
  | .invalid => { s with invalid := s.invalid + 1 }
  | .noRoute => { s with noRoute := s.noRoute + 1 }
  | .sendErrors => { s with sendErrors := s.sendErrors + 1 }

/-- The value of a counter. -/
def get (s : Stats) : Tunnel.Counter → UInt64
  | .forwardedLocal => s.forwardedLocal
  | .forwardedRemote => s.forwardedRemote
  | .invalid => s.invalid
  | .noRoute => s.noRoute
  | .sendErrors => s.sendErrors

end Stats

/-- What a server finds around it. Where the outcome is optional, it may not be known yet. -/
structure Surroundings (σ : Type) where
  /-- Connects to an address. -/
  connect : String → σ → Except IoError SocketAddress × σ
  /-- Gives a route command for a network and a device. -/
  issue : RouteAction → Subnet → String → σ → σ
  /-- The outcome of a route command. -/
  outcome : RouteAction → Subnet → String → σ → Option (Except RouteError String × σ)
  /-- Tells the source of a packet. -/
  report : Ipv4 → σ → σ
  /-- Sends a packet to a peer. -/
  send : Peer → Packet → σ → Except IoError Unit × σ
  /-- Reads a packet of at most the given size from the device. -/
  read : Nat → σ → Option (Except IoError Packet × σ)
  /-- Writes a packet to the device. -/
  write : Packet → σ → Option (Except IoError Unit × σ)
  /-- Reads a datagram of at most the given size from the listen socket. -/
  receive : Nat → σ → Option (Except IoError Packet × σ)

/-- The state of a server in surroundings of state `σ`. -/
structure Server (σ : Type) where
  /-- The name of the device. -/
  device : String
  /-- The peers. -/
  table : RouteTable := .empty
  /-- The number of the next connection. -/
  nextId : Nat := 0
  /-- The tasks that hold the lock or wait for it. -/
  line : List TaskId := []
  /-- The counters. -/
  stats : Stats := {}
  /-- Is the server being shut down? -/
  stopping : Bool := false
  /-- The loops that have ended and how they ended, the latest first. -/
  ended : List (Tunnel.Direction × Tunnel.Ending) := []
  /-- The surroundings. -/
  outside : σ

namespace Server

open Tunnel

variable {σ : Type}

/-- How a loop has ended. -/
def ending? (s : Server σ) (d : Direction) : Option Ending :=
  (s.ended.find? (fun e => e.1 = d)).map (·.2)

/-- The next read of a loop. -/
def nextRead (around : Surroundings σ) (s : Server σ) :
    Direction → Option (Except IoError Packet × σ)
  | .inbound => around.receive maxDatagram s.outside
  | .outbound => around.read maxDatagram s.outside

/-- The answer to a request of a task. -/
def answer (around : Surroundings σ) (id : TaskId) :
    (r : Request) → Server σ → Option (r.Answer × Server σ)
  | .queue, s => some ((), { s with line := s.line ++ [id] })
  | .lock, s => if s.line.head? = some id then some ((), s) else none
  | .unlock, s => some ((), { s with line := s.line.tail })
  | .remove n, s => some ((s.table.remove n).1, { s with table := (s.table.remove n).2 })
  | .insert p, s => some ((s.table.insert p).1, { s with table := (s.table.insert p).2 })
  | .removeSame n p, s =>
    some ((s.table.removeSame n p).1, { s with table := (s.table.removeSame n p).2 })
  | .networks, s => some (s.table.networks, s)
  | .lookup a, s => some (s.table.lookup a, s)
  | .connect n h, s =>
    match around.connect h.address s.outside with
    | (.ok a, w) => some (.ok ⟨s.nextId, n, h, a⟩, { s with nextId := s.nextId + 1, outside := w })
    | (.error e, w) => some (.error e, { s with outside := w })
  | .issue action n, s =>
    some ((), { s with outside := around.issue action n s.device s.outside })
  | .outcome action n, s =>
    (around.outcome action n s.device s.outside).map fun (r, w) => (r, { s with outside := w })
  | .report a, s => some ((), { s with outside := around.report a s.outside })
  | .send p packet, s =>
    let (r, w) := around.send p packet s.outside
    some (r, { s with outside := w })
  | .write packet, s =>
    (around.write packet s.outside).map fun (r, w) => (r, { s with outside := w })
  | .count c, s => some ((), { s with stats := s.stats.bump c })
  | .arrival d, s =>
    if s.stopping then some (.stop, s)
    else (s.nextRead around d).map fun (r, w) => (.read r, { s with outside := w })
  | .finish d e, s => some ((), { s with ended := (d, e) :: s.ended })
  | .firstEnded, s => s.ended.getLast?.map fun e => (e, s)
  | .stop, s => some ((), { s with stopping := true })
  | .join d, s => (s.ending? d).map fun e => (e, s)

/-- The machine of a server. -/
def machine (around : Surroundings σ) : Machine interface (Server σ) := ⟨answer around⟩

/-- Runs a program of a single task as far as it goes. -/
def run {α : Type} (around : Surroundings σ) (p : Work α) (s : Server σ) : Work α × Server σ :=
  p.advance (machine around) 0 s

end Server

end Overlay
