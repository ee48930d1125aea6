import Overlay.Agent.State
import Overlay.Simulation.Scene

/-!
# Parts of an agent in a scene

Here the parts of an agent run one at a time, in the scene of a tunnel server and beside a registry that
takes note of its calls. The clock moves only when a part waits, and chance always draws zero. The
registry publishes no changes; the changes for the bridge and the sources for the report part are put
into their queues by hand.
-/

namespace Overlay

/-- What the registry has been told, and the time. -/
structure RegistryScene where
  /-- The time. -/
  clock : Moment := 0
  /-- Which of the next reports fail. -/
  failing : List Bool := []
  /-- The reports with their edges and whether they failed, the latest first. -/
  reports : List (String × Ipv4 × Bool) := []

namespace RegistryScene

/-- Takes note of a report. -/
def report (edge : String) (a : Ipv4) (s : RegistryScene) :
    Except RegistryError Unit × RegistryScene :=
  let failed := s.failing.headD false
  (if failed then .error (.status 503 "unavailable") else .ok (),
    { s with failing := s.failing.tail, reports := (edge, a, failed) :: s.reports })

/-- Lets time pass. -/
def pass (d : Duration) (s : RegistryScene) : RegistryScene := { s with clock := s.clock + d.nanos }

end RegistryScene

namespace Agent

/-- What a part of an agent finds around it in a scene. -/
abbrev AgentScene := RegistryScene × Scene

/-- The surroundings that such a scene makes. -/
def sceneAround : Around AgentScene where
  tunnel := Scene.around.beside
  bind a w := (Reach.bind a, w)
  register _ w := some (.ok [], w)
  report edge a := fun (r, w) =>
    let (result, r) := r.report edge a
    some (result, (r, w))
  unregister _ w := some (.ok (), w)
  connect _ _ := none
  event _ := none
  timer _ := none
  pause d := fun (r, w) => some (r.pass d, w)
  now w := w.1.clock
  draw w := (0, w)

/-- The machine of such a scene. -/
def sceneMachine : Machine interface (State AgentScene) := State.machine sceneAround

/-- An agent in a scene whose parts have been launched. -/
structure Rehearsal where
  /-- The name of the device. -/
  device : String
  /-- How many changes may wait for the bridge. -/
  changeRoom : Nat := State.changeRoom
  /-- The queue of sources. -/
  sources : ReportQueue := { capacity := State.sourceRoom }
  /-- How long the same source is not reported again. -/
  interval : Duration := .zero
  /-- The registry. -/
  registry : RegistryScene := {}
  /-- The scene of the tunnel server. -/
  scene : Scene

/-- The state of the agent. -/
def Rehearsal.state (r : Rehearsal) : State AgentScene where
  server := { device := r.device, outside := (r.sources, (r.registry, r.scene)) }
  launched := true
  filter := { interval := r.interval }
  changes := { capacity := r.changeRoom }

namespace State

/-- The scene of the tunnel server. -/
def scene (s : State AgentScene) : Scene := s.outside.2

/-- Changes the scene of the tunnel server. -/
def mapScene (f : Scene → Scene) (s : State AgentScene) : State AgentScene :=
  s.setOutside (s.outside.1, f s.outside.2)

/-- The time. -/
def clock (s : State AgentScene) : Moment := s.outside.1.clock

/-- The reports, the oldest first. -/
def reports (s : State AgentScene) : List (String × Ipv4 × Bool) := s.outside.1.reports.reverse

/-- Applies one change. -/
def handle (self : Edge) (policy : RetryPolicy) (e : EdgeEvent) (s : State AgentScene) :
    State AgentScene :=
  ((apply self policy e).advance sceneMachine 0 s).2

/-- Puts a change into the queue of the bridge. -/
def offer (e : EdgeEvent) (s : State AgentScene) : State AgentScene :=
  { s with changes := s.changes.push e }

/-- Says that there will be no more changes. -/
def endChanges (s : State AgentScene) : State AgentScene :=
  { s with changes := s.changes.dropSender }

/-- How often a part may run: once for each value that waits for it, once for the signal, and once to
find that there is nothing left. -/
def runs (s : State AgentScene) : Nat := s.changes.waiting.length + s.sources.waiting.length + 2

/-- Runs a part as far as it goes: has it ended? -/
def runPart (body : Work (Option Unit)) (s : State AgentScene) : Bool × State AgentScene :=
  let (t, s) := (background body).advance sceneMachine 0 s.runs s
  (t.result?.isSome, s)

end State

end Agent

end Overlay
