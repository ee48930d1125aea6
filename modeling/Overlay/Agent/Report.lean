import Overlay.Agent.Request

/-!
# Reporting sources

The report part takes the sources that the tunnel server has seen, one at a time, and reports each of
them that is due. A source whose report fails does not count as reported, so that it is due when it is
seen again. The part ends when it is told to stop and when there is nobody left to see a source.
-/

namespace Overlay.Agent

/-- Reports a source if it is due. -/
def reportSource (edge : String) (a : Ipv4) : Work Unit := do
  if ← ask (.due a) then
    match ← ask (.report edge a) with
    | .ok _ => return ()
    | .error _ => ask (.forget a)
  else return ()

/-- One run of the report part of the named edge. -/
def reportRun (edge : String) : Work (Option Unit) := do
  match ← ask .sighting with
  | .signal true => leave .report
  | .signal false => return none
  | .closed => leave .report
  | .timer =>
    ask .prune
    return none
  | .source a =>
    reportSource edge a
    return none

end Overlay.Agent
