import Overlay.Simulation.Scene

/-!
# A tunnel server in a scene

A simulation is a server with its tasks in a scene. Operations are run as far as they go; an operation
can also be started as a task of its own, so that it waits while another one holds the lock. The
forwarding loops run when the server is told to serve, on both directions or on one of them.
-/

namespace Overlay

open Tunnel

/-- The result of a task. -/
inductive TaskResult where
  /-- A host was to be added. -/
  | added (r : Except TunnelError Unit)
  /-- Hosts were to be added: those that failed. -/
  | failures (hosts : List (Host × TunnelError))
  /-- A host was to be deleted: was there a peer? -/
  | deleted (found : Bool)
  /-- All peers were removed. -/
  | cleared
  /-- A loop or the server ended. -/
  | ended (e : Ending)

/-- How a server is told to serve. -/
inductive ServeMode where
  /-- Both directions, on a socket that was bound before. -/
  | bound
  /-- Both directions, on a socket that the server binds itself. -/
  | binding
  /-- Only from the socket to the device. -/
  | inbound
  /-- Only from the device to the peers. -/
  | outbound
deriving DecidableEq

/-- A serving server: whose end is awaited, and whether the address of its socket is known. -/
structure Serving where
  /-- The task that gives the result, or the reason why there is none. -/
  task : Except IoError TaskId
  /-- Is the address of the socket known? -/
  known : Bool

/-- A server with its tasks in a scene. -/
structure Simulation where
  /-- The server and its tasks. -/
  system : System Tunnel.interface (Server Scene) TaskResult
  /-- The address that the server is to listen on. -/
  listen : SocketAddress
  /-- The tasks that were started and not joined, the oldest first. -/
  started : List TaskId := []
  /-- What was told to serve last and has not been joined. -/
  serving : Option Serving := none

namespace Simulation

/-- The state of the server. -/
def server (s : Simulation) : Server Scene := s.system.state

/-- The scene. -/
def scene (s : Simulation) : Scene := s.server.outside

/-- Changes the state of the server. -/
def mapServer (f : Server Scene → Server Scene) (s : Simulation) : Simulation :=
  { s with system := { s.system with state := f s.system.state } }

/-- Changes the scene. -/
def mapScene (f : Scene → Scene) (s : Simulation) : Simulation :=
  s.mapServer fun t => { t with outside := f t.outside }

/-- A server that has done nothing yet. -/
def start (device : String) (listen : SocketAddress) (scene : Scene) : Simulation where
  system := ⟨{ device, outside := scene }, []⟩
  listen := listen

/-- The machine of the server. -/
def machine : Machine Tunnel.interface (Server Scene) := Server.machine Scene.around

/-- How often a loop may run: once for every packet, and once more to find that there is none. -/
def runs (s : Simulation) : Nat := s.scene.device.pending + s.scene.datagrams.length + 2

/-- Lets everything run until it waits. A task that ends may let every other task go on. -/
def settle (s : Simulation) : Simulation :=
  { s with system := s.system.settle machine s.runs (s.system.tasks.length + 2) }

/-- The result of a task. -/
def result? (s : Simulation) (id : TaskId) : Option TaskResult :=
  s.system.tasks[id]?.bind Task.result?

/-- Begins a task: its number, and the simulation with it. -/
def spawn (t : Task Tunnel.interface TaskResult) (s : Simulation) : TaskId × Simulation :=
  (s.system.tasks.length, { s with system := s.system.spawn t })

/-- Runs an operation until it waits. There is no result when it is not over. -/
def perform (p : Work TaskResult) (s : Simulation) : Option TaskResult × Simulation :=
  let (id, s) := s.spawn (.once p)
  let s := s.settle
  (s.result? id, s)

/-- Starts an operation as a task. -/
def begin (p : Work TaskResult) (s : Simulation) : Simulation :=
  let (id, s) := s.spawn (.once p)
  settle { s with started := s.started ++ [id] }

/-- Lets one route that waits be added: which of the started tasks are over? -/
def release (s : Simulation) : List Bool × Simulation :=
  let s := (s.mapScene fun w => { w with kernel := w.kernel.release }).settle
  (s.started.map fun id => (s.result? id).isSome, s)

/-- The results of the started tasks that are over. -/
def join (s : Simulation) : List TaskResult × Simulation :=
  (s.started.filterMap s.result?, { s with started := [] })

/-- Adds a host. -/
def addPeer (h : Host) : Work TaskResult := .added <$> Tunnel.addPeer h

/-- Adds hosts. -/
def addPeers (hs : List Host) : Work TaskResult := .failures <$> Tunnel.addPeers hs

/-- Deletes a host. -/
def delPeer (h : Host) : Work TaskResult := .deleted <$> Tunnel.delPeer h

/-- Removes all peers. -/
def clearPeers : Work TaskResult := (fun _ => .cleared) <$> Tunnel.clearPeers

/-- A forwarding loop as a task. -/
def loop (d : Direction) : Task Tunnel.interface TaskResult :=
  match d with
  | .inbound => .loop (Option.map TaskResult.ended <$> inboundRun)
  | .outbound => .loop (Option.map TaskResult.ended <$> outboundRun)

/-- Is something being served? -/
def isServing (s : Simulation) : Bool :=
  match s.serving with
  | some ⟨.ok id, _⟩ => (s.result? id).isNone
  | _ => false

/-- Runs both loops and the task that waits for them. -/
def serveBoth (known : Bool) (s : Simulation) : Simulation :=
  let (_, s) := s.spawn (loop .inbound)
  let (_, s) := s.spawn (loop .outbound)
  let (id, s) := s.spawn (.once (.ended <$> serve))
  settle { s with serving := some ⟨.ok id, known⟩ }

/-- Runs one loop. -/
def serveOne (d : Direction) (s : Simulation) : Simulation :=
  let (id, s) := s.spawn (loop d)
  settle { s with serving := some ⟨.ok id, d = .inbound⟩ }

/-- Tells the server to serve. It fails when the socket is to be there before and cannot be bound. -/
def serve (mode : ServeMode) (s : Simulation) : Except IoError Simulation :=
  let s := s.mapServer fun t => { t with ended := [] }
  match mode, Reach.bind s.listen with
  | .outbound, _ => .ok (s.serveOne .outbound)
  | .binding, .error e => .ok { s with serving := some ⟨.error e, false⟩ }
  | .binding, .ok _ => .ok (s.serveBoth false)
  | _, .error e => .error e
  | .bound, .ok _ => .ok (s.serveBoth true)
  | .inbound, .ok _ => .ok (s.serveOne .inbound)

/-- What has become of the serving. -/
inductive Joined where
  /-- Nothing was told to serve. -/
  | nothing
  /-- It is going on. -/
  | running
  /-- It has ended. -/
  | ended (e : Ending)

/-- Takes the ending of what was told to serve. -/
def joinServe (s : Simulation) : Joined × Simulation :=
  match s.serving with
  | none => (.nothing, s)
  | some ⟨.error e, _⟩ => (.ended (.error (.io e)), { s with serving := none })
  | some ⟨.ok id, _⟩ =>
    match s.result? id with
    | some (.ended e) => (.ended e, { s with serving := none })
    | _ => (.running, s)

/-- Shuts the server down. -/
def shutdown (s : Simulation) : Simulation :=
  (s.mapServer fun t => { t with stopping := true }).settle

/-- The counters that differ. -/
def moved (before after : Stats) : List Counter :=
  [.forwardedLocal, .forwardedRemote, .invalid, .noRoute, .sendErrors].filter fun c =>
    before.get c ≠ after.get c

/-- The peer that owns an address. -/
def route (a : Ipv4) (s : Simulation) : Option Peer := s.server.table.lookup a

/-- What a packet from the device has brought about. -/
structure Outcome where
  /-- The counters that it moved. -/
  moved : List Counter
  /-- The sources that it reported. -/
  reports : List Ipv4
  /-- The datagrams that it sent. -/
  sent : List (SocketAddress × Packet)

/-- Lets the device give a packet. -/
def feed (p : Packet) (s : Simulation) : Outcome × Simulation :=
  let before := s.server.stats
  let s := (s.mapScene fun w =>
    { w with device := w.device.feed p, reports := [], sent := [] }).settle
  (⟨moved before s.server.stats, s.scene.reports.reverse, s.scene.sent.reverse⟩, s)

/-- Sends a datagram to the listen socket: the counters that it moved, and what was written to the
device. Without a network nothing can be sent. -/
def arrive (p : Packet) (s : Simulation) : Option ((List Counter × List Packet) × Simulation) :=
  if s.scene.reach = .nothing then none
  else
    let before := s.server.stats
    let s := (s.mapScene fun w => { w with datagrams := w.datagrams ++ [p] }).settle
    let (written, device) := s.scene.device.takeWritten
    some ((moved before s.server.stats, written), s.mapScene fun w => { w with device })

/-- Lets a read of the device fail. -/
def failRead (kind : IoKind) (s : Simulation) : Simulation :=
  (s.mapScene fun w => { w with device := w.device.fail kind }).settle

/-- Closes the device. -/
def close (s : Simulation) : Simulation :=
  (s.mapScene fun w => { w with device := w.device.close }).settle

end Simulation

end Overlay
