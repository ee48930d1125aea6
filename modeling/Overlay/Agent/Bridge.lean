import Overlay.Agent.Request
import Overlay.Tunnel.Peers

/-!
# Applying changes of the membership

The bridge applies the changes of the membership to the tunnel server, one at a time. A change of the
edge itself is passed over: the edge is known by its name, by its address and by its network. An edge
that was deleted is deleted from the peers. An edge that was put is added to them, and when this fails
it is tried again after a delay, up to a number of attempts; a host that names no network is not tried
again.

The bridge ends when it is told to stop or when nothing will change any more. While it waits between
two attempts it can be told to stop as well, and then there is no further attempt.
-/

namespace Overlay.Agent

/-- How often an edge is tried. -/
structure RetryPolicy where
  /-- The number of attempts. -/
  attempts : Nat := 3
  /-- The delay after the first attempt. -/
  base : Duration := .ofMillis 200

namespace RetryPolicy

/-- The longest delay between two attempts. -/
def longest : Duration := .ofSeconds 10

/-- The delays between the attempts. -/
def delays (r : RetryPolicy) : Backoff := { base := r.base, max := longest }

end RetryPolicy

/-- Is another attempt of use after the error? -/
def isRetried : TunnelError → Bool
  | .host _ => false
  | _ => true

/-- Adds a host with at most the given number of attempts. -/
def addWithin : Nat → Backoff → Host → Work Unit
  | 0, _, _ => return ()
  | left + 1, delays, h => do
    match ← tunnel (Tunnel.addPeer h) with
    | .ok _ => return ()
    | .error e =>
      if isRetried e && left ≠ 0 then
        let drawn ← ask .draw
        if ← ask (.pause .bridge (delays.take drawn)) then return ()
        else addWithin left delays.advance h
      else return ()

/-- Adds a host as a policy says. -/
def addWithRetry (policy : RetryPolicy) (h : Host) : Work Unit :=
  addWithin policy.attempts policy.delays h

/-- Is the change one of the edge itself? -/
def isOwn (self : Edge) (e : EdgeEvent) : Bool :=
  e.edge.name = self.name || self.isSelf e.edge.host

/-- Applies a change. -/
def apply (self : Edge) (policy : RetryPolicy) (e : EdgeEvent) : Work Unit :=
  if isOwn self e then return ()
  else
    match e with
    | .put edge => addWithRetry policy edge.host
    | .delete edge => discard (tunnel (Tunnel.delPeer edge.host))

/-- One run of the bridge. -/
def bridgeRun (self : Edge) (policy : RetryPolicy) : Work (Option Unit) := do
  if ← ask (.stopping .bridge) then leave .bridge
  else
    match ← ask .change with
    | .signal true => leave .bridge
    | .signal false => return none
    | .closed => leave .bridge
    | .event e =>
      apply self policy e
      return none

end Overlay.Agent
