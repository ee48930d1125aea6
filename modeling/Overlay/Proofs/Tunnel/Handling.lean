import Overlay.Proofs.Tunnel.Attending

/-!
# How the loops handle a packet

Between two packets a loop looks for the next one; with a packet in hand it asks for one
thing after the other until it has moved a counter.  Here this is a protocol, `handling`,
whose phases say which packet a loop has in hand and how far it is with it.  What a packet
comes to is decided by the packet and by the answers, and by nothing else.

* `Forwarding` is what happens to a server that serves in any surroundings, while operations
  on its peers begin at any time.
* `runOf_keeps`, `serve_handles` and `Operation.handles`: the loops keep the protocol, and the
  other tasks leave alone what is the loops' business.
-/

namespace Overlay.Tunnel

variable {σ : Type}

/-! ## The system -/

/-- A server that begins to serve: the two loops, and the task that waits for them. -/
def launch (device : String) (w : σ) : System interface (Server σ) TaskResult :=
  ⟨{ device, outside := w },
    [Simulation.loop .inbound, Simulation.loop .outbound, .once (.ended <$> serve)]⟩

/-- What happens beside the tasks. -/
inductive Meanwhile : Server σ → Server σ → Prop where
  /-- The surroundings go on. -/
  | drift (s : Server σ) (w : σ) : Meanwhile s { s with outside := w }
  /-- The server is told to shut down. -/
  | shutdown (s : Server σ) : Meanwhile s { s with stopping := true }

/-- What happens to a server that forwards packets while its peers are changed. -/
def Forwarding (around : Surroundings σ) (device : String) (w : σ) :
    List (Exchange interface) → System interface (Server σ) TaskResult → Prop :=
  System.Runs (Server.machine around) Operation Meanwhile (launch device w)

/-! ## The protocol -/

/-- The counter for the outcome of a write. -/
def writtenCounter : Except IoError Unit → Counter
  | .ok _ => .forwardedRemote
  | .error _ => .sendErrors

/-- How far the inbound loop has come. -/
inductive Inbound where
  /-- It looks for the next datagram. -/
  | idle
  /-- It writes the datagram to the device. -/
  | writing (p : Packet)
  /-- It is done with a datagram, except for the counter. -/
  | counting (c : Counter)
  /-- It is about to end. -/
  | leaving (e : Ending)
  /-- It has ended. -/
  | ended (e : Ending)

/-- How far the outbound loop has come. -/
inductive Outbound where
  /-- It looks for the next packet. -/
  | idle
  /-- It reports the source of the packet, whose destination is given, too. -/
  | reporting (a d : Ipv4) (p : Packet)
  /-- It looks for the peer that owns the destination. -/
  | seeking (d : Ipv4) (p : Packet)
  /-- It sends the packet to the peer. -/
  | sending (q : Peer) (p : Packet)
  /-- It is done with a packet, except for the counter. -/
  | counting (c : Counter)
  /-- It is about to end. -/
  | leaving (e : Ending)
  /-- It has ended. -/
  | ended (e : Ending)

/-- The phase with a datagram in hand. -/
def Inbound.take (p : Packet) : Inbound :=
  match p.validate with
  | .error _ => counting .invalid
  | .ok _ => writing p

/-- The phase after the inbound loop has looked for a datagram. -/
def Inbound.arrive : Arrival → Inbound
  | .stop => leaving (.ok ())
  | .read (.error e) => leaving (.error (.io e))
  | .read (.ok p) => take p

/-- The phase with a packet in hand. -/
def Outbound.take (p : Packet) : Outbound :=
  match p.validate, p.source?, p.destination? with
  | .ok _, some a, some d => reporting a d p
  | _, _, _ => counting .invalid

/-- The source of a valid packet is reported. -/
theorem Outbound.take_valid {p : Packet} {a d : Ipv4} (hvalid : p.validate = .ok ())
    (ha : p.source? = some a) (hd : p.destination? = some d) : take p = reporting a d p := by
  rw [take, hvalid, ha, hd]

/-- A packet that is not valid is only counted. -/
theorem Outbound.take_invalid {p : Packet} (h : p.validate ≠ .ok ()) :
    take p = counting .invalid := by
  unfold take
  split
  · rename_i hvalid _ _
    exact absurd hvalid h
  · rfl

/-- The phase after the outbound loop has looked for a packet. -/
def Outbound.arrive : Arrival → Outbound
  | .stop => leaving (.ok ())
  | .read (.error e) => if e.closesDevice then leaving (.error (.io e)) else idle
  | .read (.ok []) => leaving (.error .deviceClosed)
  | .read (.ok (b :: bytes)) => take (b :: bytes)

/-- The phase after the outbound loop has looked for the peer of a packet. -/
def Outbound.found (p : Packet) : Option Peer → Outbound
  | none => counting .noRoute
  | some q => sending q p

/-- The steps of the inbound loop. -/
inductive Inbound.Step : Inbound → (r : Request) → r.Answer → Inbound → Prop where
  | arrive {x : Arrival} : Step idle (.arrival .inbound) x (arrive x)
  | write {p : Packet} {x : Except IoError Unit} :
      Step (writing p) (.write p) x (counting (writtenCounter x))
  | count {c : Counter} {x : Unit} : Step (counting c) (.count c) x idle
  | finish {e : Ending} {x : Unit} : Step (leaving e) (.finish .inbound e) x (ended e)

/-- The steps of the outbound loop. -/
inductive Outbound.Step : Outbound → (r : Request) → r.Answer → Outbound → Prop where
  | arrive {x : Arrival} : Step idle (.arrival .outbound) x (arrive x)
  | report {a d : Ipv4} {p : Packet} {x : Unit} : Step (reporting a d p) (.report a) x (seeking d p)
  | seek {d : Ipv4} {p : Packet} {x : Option Peer} : Step (seeking d p) (.lookup d) x (found p x)
  | send {q : Peer} {p : Packet} {x : Except IoError Unit} :
      Step (sending q p) (.send q p) x (counting (sentCounter x))
  | count {c : Counter} {x : Unit} : Step (counting c) (.count c) x idle
  | finish {e : Ending} {x : Unit} : Step (leaving e) (.finish .outbound e) x (ended e)

/-- The requests of the loops alone. -/
def Request.OfLoop : Request → Prop
  | arrival _ => True
  | report _ => True
  | send _ _ => True
  | write _ => True
  | count _ => True
  | finish _ _ => True
  | _ => False

/-- How far a task has come. -/
inductive Job where
  /-- It is the inbound loop. -/
  | inbound (q : Inbound)
  /-- It is the outbound loop. -/
  | outbound (q : Outbound)
  /-- It is no loop. -/
  | other

/-- The steps of the tasks. -/
inductive Job.Step : Job → (r : Request) → r.Answer → Job → Prop where
  | inbound {q q' : Inbound} {r : Request} {x : r.Answer} :
      q.Step r x q' → Step (inbound q) r x (inbound q')
  | outbound {q q' : Outbound} {r : Request} {x : r.Answer} :
      q.Step r x q' → Step (outbound q) r x (outbound q')
  | other {r : Request} {x : r.Answer} : ¬ r.OfLoop → Step other r x other

/-- The protocol of the loops and of all other tasks. -/
def handling : Protocol interface where
  Phase := Job
  Possible := Plausible
  Step := Job.Step

/-- The results that tasks end with. -/
def Job.EndsWith : Job → TaskResult → Prop
  | .inbound (.ended e), x => x = .ended e
  | .outbound (.ended e), x => x = .ended e
  | .other, _ => True
  | _, _ => False

/-! ## The tasks keep it -/

section Programs

variable {α : Type}

/-- A request of the inbound loop. -/
theorem inbound_keeps {Ends : Job → α → Prop} {q : Inbound} {r : Request}
    {next : r.Answer → Work α}
    (h : ∀ x, ∃ q', q.Step r x q' ∧ (next x).Keeps handling Ends (Job.inbound q')) :
    (Program.ask r next).Keeps handling Ends (Job.inbound q) := by
  intro x _
  obtain ⟨q', hstep, hnext⟩ := h x
  exact ⟨.inbound q', .inbound hstep, hnext⟩

/-- A request of the outbound loop. -/
theorem outbound_keeps {Ends : Job → α → Prop} {q : Outbound} {r : Request}
    {next : r.Answer → Work α}
    (h : ∀ x, ∃ q', q.Step r x q' ∧ (next x).Keeps handling Ends (Job.outbound q')) :
    (Program.ask r next).Keeps handling Ends (Job.outbound q) := by
  intro x _
  obtain ⟨q', hstep, hnext⟩ := h x
  exact ⟨.outbound q', .outbound hstep, hnext⟩

theorem forwardInbound_keeps {Ends : Job → Unit → Prop} {p : Packet}
    (hends : Ends (.inbound .idle) ()) :
    (forwardInbound p).Keeps handling Ends (Job.inbound (.take p)) := by
  unfold forwardInbound Inbound.take
  cases p.validate with
  | error e => exact inbound_keeps fun _ => ⟨.idle, .count, hends⟩
  | ok _ =>
      refine inbound_keeps fun x => ⟨.counting (writtenCounter x), .write, ?_⟩
      cases x with
      | ok _ => exact inbound_keeps fun _ => ⟨.idle, .count, hends⟩
      | error e => exact inbound_keeps fun _ => ⟨.idle, .count, hends⟩

theorem sendTo_keeps {Ends : Job → Unit → Prop} {d : Ipv4} {p : Packet}
    (hends : Ends (.outbound .idle) ()) :
    (sendTo d p).Keeps handling Ends (Job.outbound (.seeking d p)) := by
  refine outbound_keeps fun found => ⟨.found p found, .seek, ?_⟩
  cases found with
  | none => exact outbound_keeps fun _ => ⟨.idle, .count, hends⟩
  | some q =>
      refine outbound_keeps fun x => ⟨.counting (sentCounter x), .send, ?_⟩
      cases x with
      | ok _ => exact outbound_keeps fun _ => ⟨.idle, .count, hends⟩
      | error e => exact outbound_keeps fun _ => ⟨.idle, .count, hends⟩

theorem forwardOutbound_keeps {Ends : Job → Unit → Prop} {p : Packet}
    (hends : Ends (.outbound .idle) ()) :
    (forwardOutbound p).Keeps handling Ends (Job.outbound (.take p)) := by
  cases hvalid : p.validate with
  | error e =>
      rw [forwardOutbound, hvalid, Outbound.take_invalid (by simp [hvalid])]
      exact outbound_keeps fun _ => ⟨.idle, .count, hends⟩
  | ok _ =>
      obtain ⟨a, d, ha, hd⟩ := exists_addresses hvalid
      rw [forwardOutbound, hvalid, ha, hd, Outbound.take_valid hvalid ha hd]
      exact outbound_keeps fun _ => ⟨.seeking d p, .report, sendTo_keeps hends⟩

theorem inboundRun_keeps :
    (Option.map TaskResult.ended <$> inboundRun).Keeps handling
      (Task.RunEnds (· = Job.inbound .idle) Job.EndsWith) (Job.inbound .idle) := by
  refine Program.Keeps.map (inbound_keeps fun x => ⟨.arrive x, .arrive, ?_⟩)
  match x with
  | .stop => exact inbound_keeps fun _ => ⟨.ended (.ok ()), .finish, rfl⟩
  | .read (.error e) => exact inbound_keeps fun _ => ⟨.ended (.error (.io e)), .finish, rfl⟩
  | .read (.ok p) =>
      exact Program.Keeps.bind (f := fun _ => .done none) (forwardInbound_keeps rfl)

theorem outboundRun_keeps :
    (Option.map TaskResult.ended <$> outboundRun).Keeps handling
      (Task.RunEnds (· = Job.outbound .idle) Job.EndsWith) (Job.outbound .idle) := by
  refine Program.Keeps.map (outbound_keeps fun x => ⟨.arrive x, .arrive, ?_⟩)
  match x with
  | .stop => exact outbound_keeps fun _ => ⟨.ended (.ok ()), .finish, rfl⟩
  | .read (.error e) =>
      show (if e.closesDevice then finish .outbound (.error (.io e)) else .done none).Keeps
        handling _ (Job.outbound (if e.closesDevice then .leaving (.error (.io e)) else .idle))
      split
      · exact outbound_keeps fun _ => ⟨.ended (.error (.io e)), .finish, rfl⟩
      · exact rfl
  | .read (.ok []) => exact outbound_keeps fun _ => ⟨.ended (.error .deviceClosed), .finish, rfl⟩
  | .read (.ok (b :: bytes)) =>
      exact Program.Keeps.bind (f := fun _ => .done none) (forwardOutbound_keeps rfl)

/-- The job that a loop begins with. -/
def Job.begin : Direction → Job
  | .inbound => .inbound .idle
  | .outbound => .outbound .idle

/-- The program of a loop. -/
def runOf : Direction → Work (Option TaskResult)
  | .inbound => Option.map TaskResult.ended <$> inboundRun
  | .outbound => Option.map TaskResult.ended <$> outboundRun

theorem runOf_keeps (d : Direction) :
    (runOf d).Keeps handling (Task.RunEnds (· = Job.begin d) Job.EndsWith) (Job.begin d) := by
  cases d with
  | inbound => exact inboundRun_keeps
  | outbound => exact outboundRun_keeps

theorem loop_eq (d : Direction) : Simulation.loop d = .loop (runOf d) := by
  cases d <;> rfl

theorem loop_handles (d : Direction) :
    (Simulation.loop d).Keeps handling Job.EndsWith (Job.begin d) := by
  rw [loop_eq]
  exact Task.keeps_loop (· = Job.begin d) (fun _ hq => hq ▸ runOf_keeps d) rfl

theorem serve_handles :
    (Task.once (TaskResult.ended <$> serve)).Keeps handling Job.EndsWith Job.other := by
  intro _ _
  refine ⟨.other, .other id, ?_⟩
  intro _ _
  refine ⟨.other, .other id, ?_⟩
  intro _ _
  exact ⟨.other, .other id, trivial⟩

/-- Operations on the peers leave what is the loops' alone. -/
theorem Operation.handles {a : Task interface TaskResult} (h : Operation a) :
    a.Keeps handling Job.EndsWith Job.other := by
  have hother : ∀ {p : Work TaskResult},
      p.Keeps (changing fun _ => False) (fun q _ => q = Phase.outside) Phase.outside →
        p.Keeps handling Job.EndsWith Job.other := by
    intro p hp
    refine Program.Keeps.coarsen (P := changing fun _ => False) (Q := handling)
      (fun _ => Job.other) (fun _ _ hx => hx) ?_ (fun _ _ _ => trivial) hp
    intro q r x q' hstep
    refine Job.Step.other ?_
    cases hstep with
    | aside hfree => exact hfree.elim
    | _ => exact id
  cases h with
  | addPeer host => exact hother (Program.Keeps.map (addPeer_keeps fun _ => rfl))
  | addPeers hosts => exact hother (Program.Keeps.map (addPeers_keeps fun _ => rfl))
  | delPeer host => exact hother (Program.Keeps.map (delPeer_keeps fun _ => rfl))
  | clearPeers => exact hother (Program.Keeps.map (clearPeers_keeps fun _ => rfl))

end Programs

end Overlay.Tunnel
