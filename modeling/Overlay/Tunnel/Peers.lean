import Overlay.Tunnel.Request

/-!
# Changing the peers of a tunnel

To add a host is to connect to it, to put the connection into the table and to route its network to
the device. Either all of it succeeds or nothing of it is left; a peer that the network had before is
removed first and in any case. To delete a host is to remove the peer of its network. Route commands
that remove a route are given even when the table has no peer for the network, and their outcome is
not looked at.

Each change holds the lock from the first request to the last. Several hosts are added one after the
other, and other tasks may come in between.
-/

namespace Overlay.Tunnel

/-- Waits for the lock and holds it. -/
def acquire : Work Unit := do
  ask .queue
  ask .lock

/-- Gives a route command and waits for its outcome. -/
def command (action : RouteAction) (n : Subnet) : Work (Except RouteError String) := do
  ask (.issue action n)
  ask (.outcome action n)

/-- Removes the peer of a network and its route: was there a peer? -/
def removeNetwork (n : Subnet) : Work Bool := do
  let old ← ask (.remove n)
  discard (command .del n)
  return old.isSome

/-- Adds the host behind a network, while the lock is held. -/
def connectNetwork (n : Subnet) (h : Host) : Work (Except TunnelError Unit) := do
  discard (removeNetwork n)
  match ← ask (.connect n h) with
  | .error e => return .error (.connect h.address e)
  | .ok p =>
    discard (ask (.insert p))
    match ← command .add n with
    | .ok _ => return .ok ()
    | .error e =>
      discard (ask (.removeSame n p))
      return .error (.route e)

/-- Adds a host. -/
def addPeer (h : Host) : Work (Except TunnelError Unit) :=
  match h.network with
  | .error e => return .error (.host e)
  | .ok n => do
    acquire
    let r ← connectNetwork n h
    ask .unlock
    return r

/-- Adds hosts one after the other and lists those that failed, with their errors. -/
def addPeers : List Host → Work (List (Host × TunnelError))
  | [] => return []
  | h :: hs => do
    let r ← addPeer h
    let failures ← addPeers hs
    match r with
    | .ok _ => return failures
    | .error e => return (h, e) :: failures

/-- Deletes a host: was there a peer for its network? A host without a network has none. -/
def delPeer (h : Host) : Work Bool :=
  match h.network with
  | .error _ => return false
  | .ok n => do
    acquire
    let found ← removeNetwork n
    ask .unlock
    return found

/-- Removes the peers of networks. -/
def removeAll : List Subnet → Work Unit
  | [] => return ()
  | n :: ns => do
    discard (removeNetwork n)
    removeAll ns

/-- Removes all peers. -/
def clearPeers : Work Unit := do
  acquire
  removeAll (← ask .networks)
  ask .unlock

end Overlay.Tunnel
