import Overlay.IoError
import Overlay.Net.SocketAddress

/-!
# What a network reaches

A host may be connected to a network or to none. Without a network sockets can be made but no
datagram goes anywhere. A socket may not listen on one of the first 1023 ports, and an IPv6 address
can be listened on only when it is unspecified. Names are looked up nowhere.
-/

namespace Overlay

/-- What the network of a host reaches. -/
inductive Reach where
  /-- No address. -/
  | nothing
  /-- Every IPv4 address. -/
  | everything
deriving DecidableEq

namespace Reach

/-- The error about a text that names no destination. -/
def destinationError (e : DestinationError) : IoError :=
  .custom (.other "invalid input parameter") e.message

/-- The error about a name that nobody knows. -/
def unknownName : IoError :=
  .custom (.other "other error")
    "failed to lookup address information: Temporary failure in name resolution"

/-- Connects an IPv4 socket to an address given as text. -/
def connect (r : Reach) (address : String) : Except IoError SocketAddress :=
  match Destination.ofText address.toList with
  | .error e => .error (destinationError e)
  | .ok (.name _ _) => .error unknownName
  | .ok (.address (.v6 _ _ _)) => .error .familyNotSupported
  | .ok (.address a) => if r = nothing then .error .networkUnreachable else .ok a

/-- Does the port need a permission? -/
def isReserved (port : UInt16) : Bool := 0 < port && port < 1024

/-- Binds a socket to an address. -/
def bind : SocketAddress → Except IoError Unit
  | .v4 _ port => if isReserved port then .error .permissionDenied else .ok ()
  | .v6 a port _ =>
    if isReserved port then .error .permissionDenied
    else if a.groups.all (· = 0) then .ok ()
    else .error .addressNotAvailable

/-- The greatest number of bytes in a datagram. -/
def maxPayload : Nat := 65507

end Reach

end Overlay
