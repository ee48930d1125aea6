import Overlay.Agent.Bridge
import Overlay.Agent.Report
import Overlay.Agent.Watch
import Overlay.Config.Basic
import Overlay.Tunnel.Forward

/-!
# The life of an agent

An agent can be run once. It registers its edge, adds the hosts of the overlay that it is told and
launches the tunnel server and its three parts. When it is told to stop, or when the tunnel server ends
by itself, everything is stopped; once all of it has ended, the peers are removed, the edge is
unregistered, and the ending of the tunnel server is the result of the run.

Before the edge is registered a run can fail without having done anything to the routes of the host.
-/

namespace Overlay.Agent

/-- The hosts without the edge itself. -/
def others (self : Edge) (hosts : List Host) : List Host := hosts.filter fun h => !self.isSelf h

/-- Runs what has been launched to its end. -/
def attend (self : Edge) : Work Tunnel.Ending := do
  ask .launch
  let first ← ask .awaitEnd
  ask .signal
  ask (.tunnel .stop)
  let ending ← match first with
    | some ending => pure ending
    | none => ask .joinServer
  ask (.join .report)
  ask (.join .watch)
  ask (.join .bridge)
  tunnel Tunnel.clearPeers
  discard (ask (.unregister self.name))
  return ending

/-- Registers the edge and runs the agent. -/
def enroll (self : Edge) : Work (Except AgentError Unit) := do
  match ← ask (.register self) with
  | .error e => return .error (.registry e)
  | .ok hosts =>
    discard (tunnel (Tunnel.addPeers (others self hosts)))
    match ← attend self with
    | .ok _ => return .ok ()
    | .error e => return .error (.engine e)

/-- One run of an agent. -/
def run (c : Config) : Work (Except AgentError Unit) := do
  if ← ask .claim then
    match Controller.watchUrl c.registry.url with
    | .error e => return .error (.watch e)
    | .ok _ =>
      match ← ask (.bind c.tunnel.listen) with
      | .error e => return .error (.engine (.io e))
      | .ok _ => enroll c.localEdge
  else return .error .alreadyRunning

/-- Waits for both forwarding loops and makes the ending of the tunnel server known. -/
def serve : Work Unit := do
  let ending ← tunnel Tunnel.serve
  ask (.served ending)

/-- How a configuration has edges retried. -/
def retryPolicy (c : Config) : RetryPolicy := ⟨c.bridge.attempts.toNat, c.retryBase⟩

end Overlay.Agent
