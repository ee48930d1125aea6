import Overlay.Packet
import Overlay.Route.Command
import Overlay.Route.Table
import Overlay.Task.Program

/-!
# What the tasks of a tunnel ask for

The tasks of a tunnel server share a table of peers. Tasks that change it hold a lock from their first
change to their last, so that the table and the routes of the host change together; tasks that only
look something up do not. Between two requests of one task the others may go on. A route command is
two requests: it is given, and later its outcome is known.

The two forwarding loops ask for what comes next to each of them, which is a packet or the end.
-/

namespace Overlay

/-- Why an operation of the tunnel failed. -/
inductive TunnelError where
  /-- A socket or a device failed. -/
  | io (reason : IoError)
  /-- The host names no network. -/
  | host (reason : CidrError)
  /-- There is no connection to the host. -/
  | connect (address : String) (reason : IoError)
  /-- A route command failed. -/
  | route (reason : RouteError)
  /-- The device is closed. -/
  | deviceClosed
deriving DecidableEq

/-- The text of the error. -/
def TunnelError.message : TunnelError → String
  | io reason => "IO error: " ++ reason.message
  | host reason => "invalid host: " ++ reason.message
  | connect address reason => "failed to connect to peer " ++ address ++ ": " ++ reason.message
  | route reason => "route command error: " ++ reason.message
  | deviceClosed => "virtual interface closed"

namespace Tunnel

/-- The two forwarding loops. -/
inductive Direction where
  /-- From the listen socket to the device. -/
  | inbound
  /-- From the device to the peers. -/
  | outbound
deriving DecidableEq

/-- The other loop. -/
def Direction.other : Direction → Direction
  | inbound => outbound
  | outbound => inbound

/-- How a loop or a server ended. -/
abbrev Ending := Except TunnelError Unit

/-- The counters of a server. -/
inductive Counter where
  /-- Packets that were sent to a peer. -/
  | forwardedLocal
  /-- Packets that were written to the device. -/
  | forwardedRemote
  /-- Packets that were not valid. -/
  | invalid
  /-- Packets to an address that no peer owns. -/
  | noRoute
  /-- Packets that could not be sent or written. -/
  | sendErrors
deriving DecidableEq

/-- What a loop finds when it looks for a packet. -/
inductive Arrival where
  /-- The server is being shut down. -/
  | stop
  /-- The outcome of a read. -/
  | read (r : Except IoError Packet)

/-- What a task of a tunnel may ask for. -/
inductive Request where
  /-- A place in the line for the lock. -/
  | queue
  /-- The lock. -/
  | lock
  /-- The end of the lock. -/
  | unlock
  /-- The removal of a network's peer. -/
  | remove (n : Subnet)
  /-- The insertion of a peer. -/
  | insert (p : Peer)
  /-- The removal of a network's peer if it is the given connection. -/
  | removeSame (n : Subnet) (p : Peer)
  /-- The networks of the peers. -/
  | networks
  /-- The peer that owns an address. -/
  | lookup (a : Ipv4)
  /-- A connection to a host. -/
  | connect (n : Subnet) (h : Host)
  /-- A route command. -/
  | issue (action : RouteAction) (n : Subnet)
  /-- The outcome of a route command. -/
  | outcome (action : RouteAction) (n : Subnet)
  /-- The report of a source. -/
  | report (a : Ipv4)
  /-- The sending of a packet to a peer. -/
  | send (p : Peer) (packet : Packet)
  /-- The writing of a packet to the device. -/
  | write (packet : Packet)
  /-- One more for a counter. -/
  | count (c : Counter)
  /-- What comes next to a loop. -/
  | arrival (d : Direction)
  /-- The end of a loop. -/
  | finish (d : Direction) (e : Ending)
  /-- The loop that has ended first. -/
  | firstEnded
  /-- The shutdown of the server. -/
  | stop
  /-- The ending of a loop. -/
  | join (d : Direction)

/-- The type of the answer to a request. -/
@[reducible] def Request.Answer : Request → Type
  | queue => Unit
  | lock => Unit
  | unlock => Unit
  | remove _ => Option Peer
  | insert _ => Option Peer
  | removeSame _ _ => Option Peer
  | networks => List Subnet
  | lookup _ => Option Peer
  | connect _ _ => Except IoError Peer
  | issue _ _ => Unit
  | outcome _ _ => Except RouteError String
  | report _ => Unit
  | send _ _ => Except IoError Unit
  | write _ => Except IoError Unit
  | count _ => Unit
  | arrival _ => Arrival
  | finish _ _ => Unit
  | firstEnded => Direction × Ending
  | stop => Unit
  | join _ => Ending

/-- The requests of a tunnel. -/
@[reducible] def interface : Interface := ⟨Request, Request.Answer⟩

/-- A program of a tunnel. -/
abbrev Work (α : Type) := Program interface α

/-- Asks once. -/
def ask (r : Request) : Work r.Answer := .ask r .done

end Tunnel

end Overlay
