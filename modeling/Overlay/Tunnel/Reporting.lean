import Overlay.Task.Queue
import Overlay.Tunnel.Server

/-!
# Where the sources go

A server tells its surroundings the source of every valid packet from the device. The surroundings
may pay no attention to it, or put it into a queue. To put it there takes no time: a source that finds
the queue full, or nobody left to read it, is dropped.
-/

namespace Overlay

/-- A queue of sources. -/
abbrev ReportQueue := Queue Ipv4

namespace Surroundings

variable {σ τ : Type}

/-- The same surroundings with something beside them that they do not touch. -/
def beside (around : Surroundings σ) : Surroundings (τ × σ) where
  connect address := fun (q, w) =>
    let (r, w) := around.connect address w
    (r, (q, w))
  issue action n device := fun (q, w) => (q, around.issue action n device w)
  outcome action n device := fun (q, w) =>
    (around.outcome action n device w).map fun (r, w) => (r, (q, w))
  report a := fun (q, w) => (q, around.report a w)
  send p packet := fun (q, w) =>
    let (r, w) := around.send p packet w
    (r, (q, w))
  read size := fun (q, w) => (around.read size w).map fun (r, w) => (r, (q, w))
  write packet := fun (q, w) => (around.write packet w).map fun (r, w) => (r, (q, w))
  receive size := fun (q, w) => (around.receive size w).map fun (r, w) => (r, (q, w))

/-- The same surroundings, where nobody wants to know the sources. -/
def silent (around : Surroundings σ) : Surroundings σ := { around with report := fun _ w => w }

/-- The same surroundings, where the sources are put into a queue. -/
def queueing (around : Surroundings σ) : Surroundings (ReportQueue × σ) :=
  { around.beside with report := fun a (q, w) => (q.push a, w) }

end Surroundings

end Overlay
