import Overlay.Agent.Request

/-!
# Watching the membership

The watcher opens a stream of events at the controller and hands every change of the membership that
is published there to the bridge. Events that publish no change are passed over. When the stream ends
and when it cannot be opened, the watcher waits and tries again; the delay grows from one failure to
the next, and a stream that was opened brings it back to its beginning.

The watcher ends when it is told to stop or when the bridge has gone away. While it waits for the bridge
to make room for a change it takes no notice of the signal.
-/

namespace Overlay.Agent

/-- The shortest delay before the next attempt to connect. -/
def shortestReconnect : Duration := .ofMillis 500

/-- The longest delay before the next attempt to connect. -/
def longestReconnect : Duration := .ofSeconds 30

/-- The delays between the attempts to connect. -/
def reconnectDelays : Backoff := { base := shortestReconnect, max := longestReconnect }

/-- Waits before the next attempt to connect. -/
def reconnect : Work (Option Unit) := do
  let delay ← ask .nextDelay
  if ← ask (.pause .watch delay) then leave .watch else return none

/-- Hands the change that an event publishes to the bridge. -/
def forward (e : StreamEvent) : Work (Option Unit) :=
  match e.change? with
  | none => return none
  | some change => do
    if ← ask (.publish change) then return none else leave .watch

/-- Follows the open stream. -/
def follow : Work (Option Unit) := do
  match ← ask .arrival with
  | .signal true => leave .watch
  | .signal false => return none
  | .event e => forward e
  | .ended => reconnect

/-- Opens a stream. -/
def openStream (url : Url) : Work (Option Unit) := do
  if ← ask (.stopping .watch) then leave .watch
  else
    match ← ask (.connect url) with
    | .signal true => leave .watch
    | .signal false => return none
    | .failed => reconnect
    | .opened =>
      ask .resetDelay
      return none

/-- One run of the watcher. -/
def watchRun (url : Url) : Work (Option Unit) := do
  if ← ask .isOpen then follow else openStream url

end Overlay.Agent
