import Overlay.Agent.Lifecycle
import Overlay.Report.Filter
import Overlay.Task.Queue
import Overlay.Task.Signal
import Overlay.Tunnel.Reporting

/-!
# The state of an agent

The tasks of an agent share the state of its tunnel server, the queue of sources, the queue of changes,
the signal as each part sees it, and what the parts remember. Everything else is in the surroundings:
the controller, the clock, chance, and what the tunnel server finds around it. `State.machine` answers
the requests of the tasks in given surroundings.

A part does nothing before it has been launched. When a part ends, the queue that it reads has lost its
receiver and the queue that it writes one of its senders.
-/

namespace Overlay.Agent

/-- What an agent finds around it. Where the outcome is optional, it may not be known yet. -/
structure Around (σ : Type) where
  /-- What its tunnel server finds. -/
  tunnel : Surroundings σ
  /-- Binds the listen socket to an address. -/
  bind : SocketAddress → σ → Except IoError Unit × σ
  /-- Registers an edge. -/
  register : Edge → σ → Option (Except RegistryError (List Host) × σ)
  /-- Reports a source of the named edge. -/
  report : String → Ipv4 → σ → Option (Except RegistryError Unit × σ)
  /-- Unregisters the named edge. -/
  unregister : String → σ → Option (Except RegistryError Unit × σ)
  /-- Opens a stream of events: has it been opened? -/
  connect : Url → σ → Option (Bool × σ)
  /-- The next event of the stream, or nothing when it has ended. -/
  event : σ → Option (Option StreamEvent × σ)
  /-- Is it time for the report part to tidy up? -/
  timer : σ → Option σ
  /-- Waits. -/
  pause : Duration → σ → Option σ
  /-- The time. -/
  now : σ → Moment
  /-- A random number. -/
  draw : σ → Nat × σ

/-- The state that the tasks of an agent share, in surroundings of state `σ`. -/
structure State (σ : Type) where
  /-- The tunnel server, the queue of sources and the surroundings. -/
  server : Server (ReportQueue × σ)
  /-- The signal as each part sees it. -/
  signals : Part → Signal := fun _ => {}
  /-- Has the agent been run? -/
  claimed : Bool := false
  /-- Have the tunnel server and the parts been launched? -/
  launched : Bool := false
  /-- The sources that were reported. -/
  filter : ReportFilter
  /-- Is a stream of events open? -/
  isOpen : Bool := false
  /-- The delays between the attempts to connect. -/
  delays : Backoff := reconnectDelays
  /-- The changes for the bridge. -/
  changes : Queue EdgeEvent
  /-- The ending of the tunnel server. -/
  served : Option Tunnel.Ending := none
  /-- The parts that have ended. -/
  left : List Part := []

namespace State

variable {σ : Type}

/-- The number of changes that may wait for the bridge. -/
def changeRoom : Nat := 256

/-- The number of sources that may wait for the report part. -/
def sourceRoom : Nat := 1024

/-- The state of an agent that has done nothing yet. -/
def start (c : Config) (outside : σ) : State σ where
  server := { device := c.tunnel.device, outside := ({ capacity := sourceRoom }, outside) }
  filter := { interval := c.reportInterval }
  changes := { capacity := changeRoom }

/-- The queue of sources. -/
def sources (s : State σ) : ReportQueue := s.server.outside.1

/-- The surroundings. -/
def outside (s : State σ) : σ := s.server.outside.2

/-- Changes the queue of sources. -/
def mapSources (f : ReportQueue → ReportQueue) (s : State σ) : State σ :=
  { s with server := { s.server with outside := (f s.server.outside.1, s.server.outside.2) } }

/-- Puts the surroundings into another state. -/
def setOutside (w : σ) (s : State σ) : State σ :=
  { s with server := { s.server with outside := (s.server.outside.1, w) } }

/-- Changes the signal as one part sees it. -/
def setSignal (p : Part) (g : Signal) (s : State σ) : State σ :=
  { s with signals := fun q => if q = p then g else s.signals q }

/-- Changes the signal. -/
def mapSignals (f : Signal → Signal) (s : State σ) : State σ :=
  { s with signals := fun p => f (s.signals p) }

/-- Tells all parts to stop. -/
def signal (s : State σ) : State σ := s.mapSignals (.send true)

/-- Looks whether the signal has changed: the value that a part sees. -/
def look (p : Part) (s : State σ) : Option (Bool × State σ) :=
  (s.signals p).look.map fun (stop, g) => (stop, s.setSignal p g)

/-- A change of the signal, or else what `other` gives. -/
def lookOr {α : Type} (p : Part) (changed : Bool → α) (other : State σ → Option (α × State σ))
    (s : State σ) : Option (α × State σ) :=
  match s.look p with
  | some (stop, s) => some (changed stop, s)
  | none => other s

/-- The end of a part. -/
def leave (p : Part) (s : State σ) : State σ :=
  match p with
  | .report => ({ s with left := .report :: s.left }).mapSources .dropReceiver
  | .watch => { s with left := .watch :: s.left, isOpen := false, changes := s.changes.dropSender }
  | .bridge => { s with left := .bridge :: s.left, changes := s.changes.dropReceiver }

/-- The next source, or a time to tidy up. -/
def nextSighting (around : Around σ) (s : State σ) : Option (Sighting × State σ) :=
  match s.sources.pop with
  | (.item a, q) => some (.source a, s.mapSources fun _ => q)
  | (.closed, _) => some (.closed, s)
  | (.empty, _) => (around.timer s.outside).map fun w => (.timer, s.setOutside w)

/-- The next change. -/
def nextChange (s : State σ) : Option (Change × State σ) :=
  match s.changes.pop with
  | (.item e, q) => some (.event e, { s with changes := q })
  | (.closed, _) => some (.closed, s)
  | (.empty, _) => none

/-- The next event of the stream. -/
def nextArrival (around : Around σ) (s : State σ) : Option (Arrival × State σ) :=
  (around.event s.outside).map fun (e, w) =>
    match e with
    | some e => (.event e, s.setOutside w)
    | none => (.ended, { s.setOutside w with isOpen := false })

/-- The outcome of an attempt to connect. -/
def connected (around : Around σ) (url : Url) (s : State σ) : Option (Connecting × State σ) :=
  (around.connect url s.outside).map fun (opened, w) =>
    (if opened then .opened else .failed, { s.setOutside w with isOpen := opened })

/-- May a task of the tunnel server get an answer? The forwarding loops have to be launched. -/
def serves (s : State σ) : Tunnel.Request → Bool
  | .arrival _ => s.launched
  | _ => true

/-- Gives way to a request that only a part makes which has been launched. -/
def whenLaunched {α : Type} (s : State σ) (r : Option α) : Option α :=
  if s.launched then r else none

/-- The answer to a request of a task. -/
def answer (around : Around σ) (task : TaskId) :
    (r : Request) → State σ → Option (r.Answer × State σ)
  | .tunnel r, s =>
    if s.serves r then
      (s.server.answer around.tunnel.queueing task r).map fun (x, server) => (x, { s with server })
    else none
  | .stopping p, s => s.whenLaunched (some ((s.signals p).value, s))
  | .pause p d, s =>
    s.lookOr p id fun s => (around.pause d s.outside).map fun w => (false, s.setOutside w)
  | .leave p, s => some ((), s.leave p)
  | .draw, s =>
    let (n, w) := around.draw s.outside
    some (n, s.setOutside w)
  | .sighting, s => s.whenLaunched (s.lookOr .report .signal (nextSighting around))
  | .due a, s =>
    let (due, filter) := s.filter.see a (around.now s.outside)
    some (due, { s with filter })
  | .forget a, s => some ((), { s with filter := s.filter.forget a })
  | .prune, s => some ((), { s with filter := s.filter.prune (around.now s.outside) })
  | .report edge a, s =>
    (around.report edge a s.outside).map fun (r, w) => (r, s.setOutside w)
  | .isOpen, s => s.whenLaunched (some (s.isOpen, s))
  | .connect url, s => s.lookOr .watch .signal (connected around url)
  | .arrival, s => s.lookOr .watch .signal (nextArrival around)
  | .publish e, s =>
    (s.changes.offer? e).map fun (taken, changes) => (taken, { s with changes })
  | .nextDelay, s =>
    let (n, w) := around.draw s.outside
    some (s.delays.take n, { s.setOutside w with delays := s.delays.advance })
  | .resetDelay, s => some ((), { s with delays := s.delays.reset })
  | .change, s => s.lookOr .bridge .signal nextChange
  | .claim, s => some (!s.claimed, { s with claimed := true })
  | .bind a, s =>
    let (r, w) := around.bind a s.outside
    some (r, s.setOutside w)
  | .register e, s => (around.register e s.outside).map fun (r, w) => (r, s.setOutside w)
  | .launch, s => some ((), { s with launched := true })
  | .signal, s => some ((), s.signal)
  | .awaitEnd, s =>
    if (s.signals .bridge).value then some (none, s) else s.served.map fun e => (some e, s)
  | .served e, s => some ((), { s with served := some e })
  | .joinServer, s => s.served.map fun e => (e, s)
  | .join p, s => if s.left.contains p then some ((), s) else none
  | .unregister edge, s =>
    (around.unregister edge s.outside).map fun (r, w) => (r, s.setOutside w)

/-- The machine of an agent. -/
def machine (around : Around σ) : Machine interface (State σ) := ⟨answer around⟩

end State

/-! ## The tasks -/

/-- The result of a task of an agent. -/
inductive Result where
  /-- A run of the agent has ended. -/
  | ran (r : Except AgentError Unit)
  /-- Another task has ended. -/
  | over
deriving Inhabited

/-- A task that ends without a result of its own. -/
def background (body : Work (Option Unit)) : Task interface Result :=
  .loop (Option.map (fun _ => Result.over) <$> body)

/-- A forwarding loop. -/
def forwarding (body : Tunnel.Work (Option Tunnel.Ending)) : Task interface Result :=
  background (Option.map (fun _ => ()) <$> tunnel body)

/-- The tasks that are there from the beginning and wait to be launched. -/
def launchable (c : Config) : List (Task interface Result) :=
  let self := c.localEdge
  [forwarding Tunnel.inboundRun, forwarding Tunnel.outboundRun,
    .once ((fun _ => Result.over) <$> serve),
    background (reportRun self.name), background (bridgeRun self (retryPolicy c))] ++
    match Controller.watchUrl c.registry.url with
    | .ok url => [background (watchRun url)]
    | .error _ => []

/-- A run of an agent as a task. -/
def running (c : Config) : Task interface Result := .once (Result.ran <$> run c)

/-- An agent that has not been run. -/
def system {σ : Type} (c : Config) (outside : σ) : System interface (State σ) Result where
  state := State.start c outside
  tasks := launchable c

end Overlay.Agent
