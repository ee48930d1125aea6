import Overlay.Backoff
import Overlay.Controller.EventStream
import Overlay.Controller.Registry
import Overlay.Tunnel.Request

/-!
# What the tasks of an agent ask for

An agent keeps one edge in the overlay. Besides its tunnel server it has three parts: one reports the
sources that the edge has seen, one watches the membership that the controller publishes, and one
applies the changes to the tunnel server. Each part runs as a task of its own and listens to a signal
that tells it to stop. Yet another task starts the agent, waits for its end and cleans up.

These tasks ask for everything that a tunnel may ask for and for what is listed here. Where a part
waits for several things at once, a change of the signal comes before anything else.
-/

namespace Overlay

/-- Why an agent failed. -/
inductive AgentError where
  /-- The tunnel server failed. -/
  | engine (reason : TunnelError)
  /-- The edge could not be registered. -/
  | registry (reason : RegistryError)
  /-- There is no address to watch the membership at. -/
  | watch (reason : UrlError)
  /-- The agent has been run before. -/
  | alreadyRunning

/-- The text of the error. -/
def AgentError.message : AgentError → String
  | engine reason => "engine error: " ++ reason.message
  | registry reason => "registry error: " ++ reason.message
  | watch reason => "edge watch error: " ++ Controller.urlMessage reason
  | alreadyRunning => "daemon already running"

namespace Agent

/-- The parts that run beside the tunnel server. -/
inductive Part where
  /-- Reports the sources. -/
  | report
  /-- Watches the membership. -/
  | watch
  /-- Applies the changes of the membership. -/
  | bridge
deriving DecidableEq

/-- What the report part finds. -/
inductive Sighting where
  /-- The signal has changed to the given value. -/
  | signal (stop : Bool)
  /-- A source was seen. -/
  | source (a : Ipv4)
  /-- No source will be seen any more. -/
  | closed
  /-- It is time to tidy up. -/
  | timer

/-- What the bridge finds. -/
inductive Change where
  /-- The signal has changed to the given value. -/
  | signal (stop : Bool)
  /-- The membership has changed. -/
  | event (e : EdgeEvent)
  /-- Nothing will change any more. -/
  | closed

/-- What becomes of an attempt to connect to the controller. -/
inductive Connecting where
  /-- The signal has changed to the given value before. -/
  | signal (stop : Bool)
  /-- A stream of events was opened. -/
  | opened
  /-- There is no stream. -/
  | failed

/-- What the watcher finds on an open stream. -/
inductive Arrival where
  /-- The signal has changed to the given value. -/
  | signal (stop : Bool)
  /-- An event was published. -/
  | event (e : StreamEvent)
  /-- The stream has ended or failed. -/
  | ended

/-- What a task of an agent may ask for. -/
inductive Request where
  /-- Something that a tunnel asks for. -/
  | tunnel (r : Tunnel.Request)
  /-- The value of the signal, without taking notice of a change. -/
  | stopping (p : Part)
  /-- A wait that a change of the signal ends early: must the part stop? -/
  | pause (p : Part) (d : Duration)
  /-- The end of a part. -/
  | leave (p : Part)
  /-- A random number. -/
  | draw
  /-- What comes next to the report part. -/
  | sighting
  /-- Is the source due? If so, it counts as reported from now on. -/
  | due (a : Ipv4)
  /-- The source does not count as reported. -/
  | forget (a : Ipv4)
  /-- The sources whose interval has passed are forgotten. -/
  | prune
  /-- A report to the controller. -/
  | report (edge : String) (a : Ipv4)
  /-- Is a stream of events open? -/
  | isOpen
  /-- A connection to the controller. -/
  | connect (url : Url)
  /-- What comes next on the stream. -/
  | arrival
  /-- A change for the bridge: is the bridge there? -/
  | publish (e : EdgeEvent)
  /-- The delay before the next attempt to connect. -/
  | nextDelay
  /-- The delays start again. -/
  | resetDelay
  /-- What comes next to the bridge. -/
  | change
  /-- The right to run the agent: is it still to be had? -/
  | claim
  /-- The listen socket. -/
  | bind (a : SocketAddress)
  /-- The registration of the edge. -/
  | register (e : Edge)
  /-- The start of the tunnel server and of all parts. -/
  | launch
  /-- The value true for the signal. -/
  | signal
  /-- The signal to stop, which gives nothing, or the end of the tunnel server. -/
  | awaitEnd
  /-- The end of the tunnel server is known. -/
  | served (e : Tunnel.Ending)
  /-- The ending of the tunnel server. -/
  | joinServer
  /-- The end of a part, once it has come. -/
  | join (p : Part)
  /-- The removal of the edge from the registry. -/
  | unregister (edge : String)

/-- The type of the answer to a request. -/
@[reducible] def Request.Answer : Request → Type
  | tunnel r => r.Answer
  | stopping _ => Bool
  | pause _ _ => Bool
  | leave _ => Unit
  | draw => Nat
  | sighting => Sighting
  | due _ => Bool
  | forget _ => Unit
  | prune => Unit
  | report _ _ => Except RegistryError Unit
  | isOpen => Bool
  | connect _ => Connecting
  | arrival => Arrival
  | publish _ => Bool
  | nextDelay => Duration
  | resetDelay => Unit
  | change => Change
  | claim => Bool
  | bind _ => Except IoError Unit
  | register _ => Except RegistryError (List Host)
  | launch => Unit
  | signal => Unit
  | awaitEnd => Option Tunnel.Ending
  | served _ => Unit
  | joinServer => Tunnel.Ending
  | join _ => Unit
  | unregister _ => Except RegistryError Unit

/-- The requests of an agent. -/
@[reducible] def interface : Interface := ⟨Request, Request.Answer⟩

/-- A program of an agent. -/
abbrev Work (α : Type) := Program interface α

/-- Asks once. -/
def ask (r : Request) : Work r.Answer := .ask r .done

/-- A program of the tunnel server. -/
def tunnel {α : Type} (p : Tunnel.Work α) : Work α := p.lift Request.tunnel fun _ x => x

/-- Ends a part. -/
def leave (p : Part) : Work (Option Unit) := do
  ask (.leave p)
  return some ()

end Agent

end Overlay
