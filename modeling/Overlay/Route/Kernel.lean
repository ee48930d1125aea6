import Overlay.Route.Command

/-!
# Routes of a kernel

The routes of a host as far as this program changes them: a network has a route to the device or it
has none. An addition of a route that is there fails, and so does the removal of one that is not.
Besides, a number of additions and removals can be made to fail, and additions can be held back until
they are released one at a time.
-/

namespace Overlay

/-- The routes of a host. -/
structure KernelRoutes where
  /-- The networks that have a route. -/
  installed : List Subnet := []
  /-- How many additions are going to fail. -/
  failingAdds : Nat := 0
  /-- How many removals are going to fail. -/
  failingDels : Nat := 0
  /-- Do additions wait? -/
  holding : Bool := false
  /-- The number of additions that wait. -/
  waiting : Nat := 0
  /-- The commands that were given, the latest first. -/
  log : List (RouteAction × Subnet) := []

namespace KernelRoutes

/-- A command that did not succeed. -/
def failure (action : RouteAction) (n : Subnet) (device output : String) : RouteError :=
  .failed (RouteCommand.line (.ofStyle .netTools) (RouteStyle.netTools.arguments action n device))
    (ExitStatus.code 7).text output

/-- Takes note of a command. -/
def issue (k : KernelRoutes) (action : RouteAction) (n : Subnet) : KernelRoutes :=
  { k with
    log := (action, n) :: k.log
    waiting := if action = .add ∧ k.holding then k.waiting + 1 else k.waiting }

/-- Adds a route. -/
def add (k : KernelRoutes) (n : Subnet) (device : String) :
    Except RouteError String × KernelRoutes :=
  if 0 < k.failingAdds then
    (.error (failure .add n device "SIOCADDRT: Network is unreachable"),
      { k with failingAdds := k.failingAdds - 1 })
  else if k.installed.contains n then
    (.error (failure .add n device "SIOCADDRT: File exists"), k)
  else (.ok "", { k with installed := n :: k.installed })

/-- Takes a route away. -/
def del (k : KernelRoutes) (n : Subnet) (device : String) :
    Except RouteError String × KernelRoutes :=
  if 0 < k.failingDels then
    (.error (failure .del n device "SIOCDELRT: Operation not permitted"),
      { k with failingDels := k.failingDels - 1 })
  else if k.installed.contains n then
    (.ok "", { k with installed := k.installed.filter (· ≠ n) })
  else (.error (failure .del n device "SIOCDELRT: No such process"), k)

/-- What becomes of a command that was given, unless it waits. -/
def outcome (k : KernelRoutes) (action : RouteAction) (n : Subnet) (device : String) :
    Option (Except RouteError String × KernelRoutes) :=
  match action with
  | .add => if 0 < k.waiting then none else some (k.add n device)
  | .del => some (k.del n device)

/-- Lets one addition go on. -/
def release (k : KernelRoutes) : KernelRoutes := { k with waiting := k.waiting - 1 }

end KernelRoutes

end Overlay
