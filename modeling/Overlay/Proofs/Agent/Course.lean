import Overlay.Proofs.Agent.Answer

/-!
# The course of an agent

Here is what each task of an agent may ask for and when.  The tasks that wait to be launched
are helpers: the two forwarding loops, the task that waits for their end, and the three
parts.  None of them does anything before it has asked for something that is only answered
once it was launched, and each ends with a request of its own.  The runs of the agent are
the other tasks.  The first one to claim the agent goes from leg to leg, and all others are
rejected.

Where a task changes the peers, its stage says how far it is with the lock, so that the
discipline of the lock is a part of this protocol.
-/

namespace Overlay.Agent.Lifecycle

/-- How far a helper has come. -/
inductive Helper where
  /-- A forwarding loop, and whether it has been launched. -/
  | loop (d : Tunnel.Direction) (awake : Bool)
  /-- The tunnel server waits for the end of a loop. -/
  | serving
  /-- The loop has ended first, as given. -/
  | ending (d : Tunnel.Direction) (e : Tunnel.Ending)
  /-- Both loops have ended; the ending of the server is given. -/
  | ended (e : Tunnel.Ending)
  /-- A part, whether it has been launched, and how far it is with the lock. -/
  | part (p : Part) (awake : Bool) (q : Tunnel.Phase)
  /-- The helper has ended. -/
  | finished

/-- How far a run of the agent has come. -/
inductive Leg where
  /-- It has done nothing. -/
  | fresh
  /-- The agent was run before. -/
  | rejected
  /-- It has claimed the agent. -/
  | claimed
  /-- It has the listen socket. -/
  | bound
  /-- It has failed before the edge was registered. -/
  | failed (e : AgentError)
  /-- The edge is registered, and the first hosts are added. -/
  | adding (q : Tunnel.Phase)
  /-- Everything is launched. -/
  | waiting
  /-- It was told to stop. -/
  | stopping
  /-- The tunnel server has ended, and these parts are still awaited. -/
  | joining (e : Tunnel.Ending) (ps : List Part)
  /-- The peers are removed; those of the networks are left once they are known. -/
  | clearing (e : Tunnel.Ending) (rest : Option (List Subnet)) (q : Tunnel.Phase)
  /-- All peers are removed. -/
  | cleared (e : Tunnel.Ending)
  /-- The edge is unregistered. -/
  | gone (e : Tunnel.Ending)

/-- The requests of a forwarding loop between two packets. -/
def ForwardsWith : Tunnel.Request → Prop
  | .lookup _ => True
  | .report _ => True
  | .send _ _ => True
  | .write _ => True
  | .count _ => True
  | _ => False

/-- The requests of the parts that are neither about the peers nor about their own end. -/
def WorksWith : Request → Prop
  | .stopping _ => True
  | .pause _ _ => True
  | .draw => True
  | .due _ => True
  | .forget _ => True
  | .prune => True
  | .report _ _ => True
  | .connect _ => True
  | .arrival => True
  | .publish _ => True
  | .nextDelay => True
  | .resetDelay => True
  | .change => True
  | _ => False

/-- A step of the discipline of the lock with nothing beside it. -/
abbrev Locks := Tunnel.Change fun _ => False

/-- The steps of the helpers. -/
inductive Helper.Step : Helper → (r : Request) → r.Answer → Helper → Prop where
  | arrive {d : Tunnel.Direction} {awake : Bool} {x : Tunnel.Arrival} :
      Step (loop d awake) (.tunnel (.arrival d)) x (loop d true)
  | forward {d : Tunnel.Direction} {r : Tunnel.Request} {x : r.Answer} : ForwardsWith r →
      Step (loop d true) (.tunnel r) x (loop d true)
  | finish {d : Tunnel.Direction} {e : Tunnel.Ending} {x : Unit} :
      Step (loop d true) (.tunnel (.finish d e)) x finished
  | firstEnded {d : Tunnel.Direction} {e : Tunnel.Ending} :
      Step serving (.tunnel .firstEnded) (d, e) (ending d e)
  | stop {d : Tunnel.Direction} {e : Tunnel.Ending} {x : Unit} :
      Step (ending d e) (.tunnel .stop) x (ending d e)
  | join {d : Tunnel.Direction} {e x : Tunnel.Ending} :
      Step (ending d e) (.tunnel (.join d.other)) x (ended e)
  | served {e : Tunnel.Ending} {x : Unit} : Step (ended e) (.served e) x finished
  | sight {awake : Bool} {x : Sighting} :
      Step (part .report awake .outside) .sighting x (part .report true .outside)
  | check {awake x : Bool} : Step (part .watch awake .outside) .isOpen x (part .watch true .outside)
  | look {awake x : Bool} :
      Step (part .bridge awake .outside) (.stopping .bridge) x (part .bridge true .outside)
  | work {p : Part} {q : Tunnel.Phase} {r : Request} {x : r.Answer} : WorksWith r →
      Step (part p true q) r x (part p true q)
  | change {q q' : Tunnel.Phase} {r : Tunnel.Request} {x : r.Answer} : Locks q r x q' →
      Step (part .bridge true q) (.tunnel r) x (part .bridge true q')
  | leave {p : Part} {x : Unit} : Step (part p true .outside) (.leave p) x finished

/-- The leg after the claim: without an address to watch there is nothing to be done. -/
def Leg.ofUrl (c : Config) : Leg :=
  match Controller.watchUrl c.registry.url with
  | .ok _ => claimed
  | .error e => failed (.watch e)

theorem Leg.ofUrl_ok {c : Config} {url : Url}
    (h : Controller.watchUrl c.registry.url = .ok url) : ofUrl c = claimed := by
  rw [ofUrl, h]

theorem Leg.ofUrl_error {c : Config} {e : UrlError}
    (h : Controller.watchUrl c.registry.url = .error e) : ofUrl c = failed (.watch e) := by
  rw [ofUrl, h]

/-- Either there is an address to watch, or the run has failed. -/
theorem Leg.ofUrl_cases (c : Config) : ofUrl c = claimed ∨ ∃ e, ofUrl c = failed (.watch e) := by
  cases h : Controller.watchUrl c.registry.url with
  | ok url => exact Or.inl (ofUrl_ok h)
  | error e => exact Or.inr ⟨e, ofUrl_error h⟩

/-- All parts, in the order in which their ends are awaited. -/
def parts : List Part := [.report, .watch, .bridge]

/-- The steps of a run of the agent. -/
inductive Leg.Step (c : Config) : Leg → (r : Request) → r.Answer → Leg → Prop where
  | claim : Step c fresh .claim true (ofUrl c)
  | reject : Step c fresh .claim false rejected
  | bind {x : Unit} : Step c claimed (.bind c.tunnel.listen) (.ok x) bound
  | bindError {e : IoError} :
      Step c claimed (.bind c.tunnel.listen) (.error e) (failed (.engine (.io e)))
  | register {hosts : List Host} :
      Step c bound (.register c.localEdge) (.ok hosts) (adding .outside)
  | registerError {e : RegistryError} :
      Step c bound (.register c.localEdge) (.error e) (failed (.registry e))
  | add {q q' : Tunnel.Phase} {r : Tunnel.Request} {x : r.Answer} : Locks q r x q' →
      Step c (adding q) (.tunnel r) x (adding q')
  | launch {x : Unit} : Step c (adding .outside) .launch x waiting
  | told : Step c waiting .awaitEnd none stopping
  | ended {e : Tunnel.Ending} : Step c waiting .awaitEnd (some e) (joining e parts)
  | tell {x : Unit} : Step c stopping .signal x stopping
  | stop {x : Unit} : Step c stopping (.tunnel .stop) x stopping
  | tellEnded {e : Tunnel.Ending} {ps : List Part} {x : Unit} :
      Step c (joining e ps) .signal x (joining e ps)
  | stopEnded {e : Tunnel.Ending} {ps : List Part} {x : Unit} :
      Step c (joining e ps) (.tunnel .stop) x (joining e ps)
  | joinServer {e : Tunnel.Ending} : Step c stopping .joinServer e (joining e parts)
  | join {e : Tunnel.Ending} {p : Part} {ps : List Part} {x : Unit} :
      Step c (joining e (p :: ps)) (.join p) x (joining e ps)
  | queue {e : Tunnel.Ending} {x : Unit} :
      Step c (joining e []) (.tunnel .queue) x (clearing e none .waiting)
  | lock {e : Tunnel.Ending} {x : Unit} :
      Step c (clearing e none .waiting) (.tunnel .lock) x (clearing e none (.holding none))
  | networks {e : Tunnel.Ending} {ns : List Subnet} :
      Step c (clearing e none (.holding none)) (.tunnel .networks) ns
        (clearing e (some ns) (.holding none))
  | remove {e : Tunnel.Ending} {n : Subnet} {ns : List Subnet} {g : Option Subnet}
      {x : Option Peer} :
      Step c (clearing e (some (n :: ns)) (.holding g)) (.tunnel (.remove n)) x
        (clearing e (some ns) (.removing n))
  | issue {e : Tunnel.Ending} {n : Subnet} {ns : List Subnet} {x : Unit} :
      Step c (clearing e (some ns) (.removing n)) (.tunnel (.issue .del n)) x
        (clearing e (some ns) (.removed n))
  | outcome {e : Tunnel.Ending} {n : Subnet} {ns : List Subnet} {x : Except RouteError String} :
      Step c (clearing e (some ns) (.removed n)) (.tunnel (.outcome .del n)) x
        (clearing e (some ns) (.holding (some n)))
  | unlock {e : Tunnel.Ending} {g : Option Subnet} {x : Unit} :
      Step c (clearing e (some []) (.holding g)) (.tunnel .unlock) x (cleared e)
  | unregister {e : Tunnel.Ending} {x : Except RegistryError Unit} :
      Step c (cleared e) (.unregister c.localEdge.name) x (gone e)

/-- How far a task of an agent has come. -/
inductive Stage where
  /-- A helper. -/
  | aside (b : Helper)
  /-- A run of the agent. -/
  | run (l : Leg)

/-- The steps of the tasks of an agent. -/
inductive Course (c : Config) : Stage → (r : Request) → r.Answer → Stage → Prop where
  | aside {b b' : Helper} {r : Request} {x : r.Answer} :
      b.Step r x b' → Course c (.aside b) r x (.aside b')
  | run {l l' : Leg} {r : Request} {x : r.Answer} :
      l.Step c r x l' → Course c (.run l) r x (.run l')

/-- The protocol of the tasks of an agent. -/
def living (c : Config) : Protocol interface where
  Phase := Stage
  Possible := Plausible
  Step := Course c

/-- What a run returns when the tunnel server has ended. -/
def verdict : Tunnel.Ending → Except AgentError Unit
  | .ok _ => .ok ()
  | .error e => .error (.engine e)

/-- The results that tasks end with, by their stages. -/
def Ends : Stage → Result → Prop
  | .aside .finished, .over => True
  | .run .rejected, .ran r => r = .error .alreadyRunning
  | .run (.failed e), .ran r => r = .error e
  | .run (.gone e), .ran r => r = verdict e
  | _, _ => False

/-! ## The helpers keep it -/

section Programs

variable {c : Config} {α : Type}

/-- A request of a helper. -/
theorem aside_keeps {Ends : Stage → α → Prop} {b : Helper} {r : Request}
    {next : r.Answer → Work α}
    (h : ∀ x, ∃ b', b.Step r x b' ∧ (next x).Keeps (living c) Ends (Stage.aside b')) :
    (Program.ask r next).Keeps (living c) Ends (Stage.aside b) := by
  intro x _
  obtain ⟨b', hstep, hnext⟩ := h x
  exact ⟨.aside b', .aside hstep, hnext⟩

/-- A request that does not matter, of a helper that was launched. -/
theorem forward_keeps {Ends : Stage → α → Prop} {d : Tunnel.Direction} {r : Tunnel.Request}
    {next : r.Answer → Work α} (hr : ForwardsWith r)
    (h : ∀ x, (next x).Keeps (living c) Ends (Stage.aside (.loop d true))) :
    (Program.ask (Request.tunnel r) next).Keeps (living c) Ends (Stage.aside (.loop d true)) :=
  aside_keeps fun x => ⟨_, .forward hr, h x⟩

theorem work_keeps {Ends : Stage → α → Prop} {p : Part} {q : Tunnel.Phase} {r : Request}
    {next : r.Answer → Work α} (hr : WorksWith r)
    (h : ∀ x, (next x).Keeps (living c) Ends (Stage.aside (.part p true q))) :
    (Program.ask r next).Keeps (living c) Ends (Stage.aside (.part p true q)) :=
  aside_keeps fun x => ⟨_, .work hr, h x⟩

/-- The end of a part that was launched. -/
theorem leave_keeps {Ends : Stage → Option Unit → Prop} {p : Part}
    (h : Ends (.aside .finished) (some ())) :
    (leave p).Keeps (living c) Ends (Stage.aside (.part p true .outside)) :=
  aside_keeps fun _ => ⟨.finished, .leave, h⟩

theorem forwardInbound_keeps {Ends : Stage → Unit → Prop} {d : Tunnel.Direction} {p : Packet}
    (h : Ends (.aside (.loop d true)) ()) :
    (tunnel (Tunnel.forwardInbound p)).Keeps (living c) Ends (Stage.aside (.loop d true)) := by
  unfold Tunnel.forwardInbound
  cases p.validate with
  | error e => exact forward_keeps (r := .count .invalid) trivial fun _ => h
  | ok _ =>
      refine forward_keeps (r := .write p) trivial fun x => ?_
      cases x with
      | ok _ => exact forward_keeps (r := .count .forwardedRemote) trivial fun _ => h
      | error e => exact forward_keeps (r := .count .sendErrors) trivial fun _ => h

theorem forwardOutbound_keeps {Ends : Stage → Unit → Prop} {d : Tunnel.Direction} {p : Packet}
    (h : Ends (.aside (.loop d true)) ()) :
    (tunnel (Tunnel.forwardOutbound p)).Keeps (living c) Ends (Stage.aside (.loop d true)) := by
  unfold Tunnel.forwardOutbound
  split
  · rename_i source destination _ _ _
    refine forward_keeps (r := .report source) trivial fun _ => ?_
    refine forward_keeps (r := .lookup destination) trivial fun x => ?_
    cases x with
    | none => exact forward_keeps (r := .count .noRoute) trivial fun _ => h
    | some peer =>
        refine forward_keeps (r := .send peer p) trivial fun y => ?_
        cases y with
        | ok _ => exact forward_keeps (r := .count .forwardedLocal) trivial fun _ => h
        | error e => exact forward_keeps (r := .count .sendErrors) trivial fun _ => h
  · exact forward_keeps (r := .count .invalid) trivial fun _ => h

/-- The end of a forwarding loop. -/
theorem finish_keeps {Ends : Stage → Option Tunnel.Ending → Prop} {d : Tunnel.Direction}
    {e : Tunnel.Ending} (h : Ends (.aside .finished) (some e)) :
    (tunnel (Tunnel.finish d e)).Keeps (living c) Ends (Stage.aside (.loop d true)) :=
  aside_keeps fun _ => ⟨.finished, .finish, h⟩

/-- A forwarding loop keeps the protocol when a run of it does. -/
theorem forwarding_keeps {d : Tunnel.Direction} {body : Tunnel.Work (Option Tunnel.Ending)}
    (h : ∀ {Ends : Stage → Option Tunnel.Ending → Prop} {awake : Bool},
      (∀ e, Ends (.aside .finished) (some e)) → Ends (.aside (.loop d true)) none →
      (tunnel body).Keeps (living c) Ends (Stage.aside (.loop d awake))) :
    (forwarding body).Keeps (living c) Ends (Stage.aside (.loop d false)) := by
  refine Task.keeps_loop (fun q => ∃ awake, q = Stage.aside (.loop d awake)) ?_ ⟨false, rfl⟩
  rintro _ ⟨awake, rfl⟩
  exact Program.Keeps.map (Program.Keeps.map (h (fun _ => trivial) ⟨true, rfl⟩))

theorem inbound_keeps :
    (forwarding Tunnel.inboundRun).Keeps (living c) Ends (Stage.aside (.loop .inbound false)) := by
  refine forwarding_keeps fun hover hgoes => ?_
  refine aside_keeps fun x => ⟨.loop .inbound true, .arrive, ?_⟩
  match x with
  | .stop => exact finish_keeps (hover _)
  | .read (.error e) => exact finish_keeps (hover _)
  | .read (.ok p) =>
      show (tunnel (Tunnel.forwardInbound p >>= fun _ => pure none)).Keeps (living c) _
        (Stage.aside (.loop .inbound true))
      exact keeps_tunnel_bind (forwardInbound_keeps hgoes)

theorem outbound_keeps :
    (forwarding Tunnel.outboundRun).Keeps (living c) Ends
      (Stage.aside (.loop .outbound false)) := by
  refine forwarding_keeps fun hover hgoes => ?_
  refine aside_keeps fun x => ⟨.loop .outbound true, .arrive, ?_⟩
  match x with
  | .stop => exact finish_keeps (hover _)
  | .read (.error e) =>
      show (tunnel (if e.closesDevice then Tunnel.finish .outbound (.error (.io e))
        else pure none)).Keeps (living c) _ (Stage.aside (.loop .outbound true))
      split
      · exact finish_keeps (hover _)
      · exact hgoes
  | .read (.ok []) => exact finish_keeps (hover _)
  | .read (.ok (b :: p)) =>
      show (tunnel (Tunnel.forwardOutbound (b :: p) >>= fun _ => pure none)).Keeps (living c) _
        (Stage.aside (.loop .outbound true))
      exact keeps_tunnel_bind (forwardOutbound_keeps hgoes)

theorem serve_keeps :
    (Task.once ((fun _ => Result.over) <$> serve)).Keeps (living c) Ends
      (Stage.aside .serving) := by
  refine Program.Keeps.map (aside_keeps fun x => ⟨.ending x.1 x.2, .firstEnded, ?_⟩)
  refine aside_keeps fun _ => ⟨.ending x.1 x.2, .stop, ?_⟩
  refine aside_keeps fun _ => ⟨.ended x.2, .join, ?_⟩
  exact aside_keeps fun _ => ⟨.finished, .served, trivial⟩

theorem reportRun_keeps {edge : String} :
    (background (reportRun edge)).Keeps (living c) Ends
      (Stage.aside (.part .report false .outside)) := by
  refine Task.keeps_loop (fun q => ∃ awake, q = Stage.aside (.part .report awake .outside)) ?_
    ⟨false, rfl⟩
  rintro _ ⟨awake, rfl⟩
  refine Program.Keeps.map (aside_keeps fun x => ⟨.part .report true .outside, .sight, ?_⟩)
  match x with
  | .signal true => exact leave_keeps trivial
  | .signal false => exact ⟨true, rfl⟩
  | .closed => exact leave_keeps trivial
  | .timer => exact work_keeps (r := .prune) trivial fun _ => ⟨true, rfl⟩
  | .source a =>
      refine work_keeps (r := .due a) trivial fun due => ?_
      cases due with
      | false => exact ⟨true, rfl⟩
      | true =>
          refine work_keeps (r := .report edge a) trivial fun y => ?_
          cases y with
          | ok _ => exact ⟨true, rfl⟩
          | error e => exact work_keeps (r := .forget a) trivial fun _ => ⟨true, rfl⟩

/-- To wait before the next attempt to connect. -/
theorem reconnect_keeps {Ends : Stage → Option Unit → Prop}
    (hover : Ends (.aside .finished) (some ()))
    (hgoes : Ends (.aside (.part .watch true .outside)) none) :
    reconnect.Keeps (living c) Ends (Stage.aside (.part .watch true .outside)) := by
  refine work_keeps (r := .nextDelay) trivial fun delay => ?_
  refine work_keeps (r := .pause .watch delay) trivial fun stop => ?_
  cases stop with
  | true => exact leave_keeps hover
  | false => exact hgoes

/-- To follow an open stream. -/
theorem follow_keeps {Ends : Stage → Option Unit → Prop} (hover : Ends (.aside .finished) (some ()))
    (hgoes : Ends (.aside (.part .watch true .outside)) none) :
    follow.Keeps (living c) Ends (Stage.aside (.part .watch true .outside)) := by
  refine work_keeps (r := .arrival) trivial fun x => ?_
  match x with
  | .signal true => exact leave_keeps hover
  | .signal false => exact hgoes
  | .ended => exact reconnect_keeps hover hgoes
  | .event e =>
      show (forward e).Keeps (living c) Ends (Stage.aside (.part .watch true .outside))
      unfold forward
      cases e.change? with
      | none => exact hgoes
      | some change =>
          refine work_keeps (r := .publish change) trivial fun there => ?_
          cases there with
          | true => exact hgoes
          | false => exact leave_keeps hover

/-- To open a stream. -/
theorem openStream_keeps {Ends : Stage → Option Unit → Prop} {url : Url}
    (hover : Ends (.aside .finished) (some ()))
    (hgoes : Ends (.aside (.part .watch true .outside)) none) :
    (openStream url).Keeps (living c) Ends (Stage.aside (.part .watch true .outside)) := by
  refine work_keeps (r := .stopping .watch) trivial fun stop => ?_
  cases stop with
  | true => exact leave_keeps hover
  | false =>
      refine work_keeps (r := .connect url) trivial fun x => ?_
      match x with
      | .signal true => exact leave_keeps hover
      | .signal false => exact hgoes
      | .failed => exact reconnect_keeps hover hgoes
      | .opened => exact work_keeps (r := .resetDelay) trivial fun _ => hgoes

theorem watchRun_keeps {url : Url} :
    (background (watchRun url)).Keeps (living c) Ends
      (Stage.aside (.part .watch false .outside)) := by
  refine Task.keeps_loop (fun q => ∃ awake, q = Stage.aside (.part .watch awake .outside)) ?_
    ⟨false, rfl⟩
  rintro _ ⟨awake, rfl⟩
  refine Program.Keeps.map (aside_keeps fun x => ⟨.part .watch true .outside, .check, ?_⟩)
  cases x with
  | true => exact follow_keeps trivial ⟨true, rfl⟩
  | false => exact openStream_keeps trivial ⟨true, rfl⟩

/-- What changes the peers keeps the discipline of the lock within the bridge. -/
theorem tunnel_keeps_bridge {Ends : Stage → α → Prop} {p : Tunnel.Work α}
    (h : p.Keeps (Tunnel.changing fun _ => False)
      (fun q a => q = Tunnel.Phase.outside ∧ Ends (.aside (.part .bridge true .outside)) a)
      Tunnel.Phase.outside) :
    (tunnel p).Keeps (living c) Ends (Stage.aside (.part .bridge true .outside)) := by
  refine Program.Keeps.lift (P := Tunnel.changing fun _ => False) (Q := living c)
    (fun q => Stage.aside (.part .bridge true q)) ?_ ?_ ?_ h
  · exact fun _ _ hx => hx
  · exact fun hstep => .aside (.change hstep)
  · rintro _ a ⟨rfl, ha⟩
    exact ha

/-- To add a host, once or again. -/
theorem addWithin_keeps {Ends : Stage → Unit → Prop} {n : Nat} {delays : Backoff} {h : Host}
    (hends : Ends (.aside (.part .bridge true .outside)) ()) :
    (addWithin n delays h).Keeps (living c) Ends
      (Stage.aside (.part .bridge true .outside)) := by
  induction n generalizing delays with
  | zero => exact hends
  | succ n ih =>
      refine Program.Keeps.bind (tunnel_keeps_bridge (Tunnel.addPeer_keeps fun r => ⟨rfl, ?_⟩))
      cases r with
      | ok _ => exact hends
      | error e =>
          show (if isRetried e && n ≠ 0 then _ else _ : Work Unit).Keeps (living c) Ends
            (Stage.aside (.part .bridge true .outside))
          -- another attempt is made after a delay, unless it is of no use or the bridge must stop
          split
          · refine work_keeps (r := .draw) trivial fun drawn => ?_
            refine work_keeps (r := .pause .bridge (delays.take drawn)) trivial fun stop => ?_
            cases stop with
            | true => exact hends
            | false => exact ih
          · exact hends

/-- To apply a change of the membership. -/
theorem apply_keeps {Ends : Stage → Unit → Prop} {me : Edge} {policy : RetryPolicy}
    {e : EdgeEvent} (hends : Ends (.aside (.part .bridge true .outside)) ()) :
    (apply me policy e).Keeps (living c) Ends (Stage.aside (.part .bridge true .outside)) := by
  unfold apply
  split
  · exact hends
  · cases e with
    | put edge => exact addWithin_keeps hends
    | delete edge =>
        exact Program.Keeps.map
          (tunnel_keeps_bridge (Tunnel.delPeer_keeps fun _ => ⟨rfl, hends⟩))

theorem bridgeRun_keeps {me : Edge} {policy : RetryPolicy} :
    (background (bridgeRun me policy)).Keeps (living c) Ends
      (Stage.aside (.part .bridge false .outside)) := by
  refine Task.keeps_loop (fun q => ∃ awake, q = Stage.aside (.part .bridge awake .outside)) ?_
    ⟨false, rfl⟩
  rintro _ ⟨awake, rfl⟩
  refine Program.Keeps.map (aside_keeps fun x => ⟨.part .bridge true .outside, .look, ?_⟩)
  cases x with
  | true => exact leave_keeps trivial
  | false =>
      refine work_keeps (r := .change) trivial fun y => ?_
      match y with
      | .signal true => exact leave_keeps trivial
      | .signal false => exact ⟨true, rfl⟩
      | .closed => exact leave_keeps trivial
      | .event e =>
          show (apply me policy e >>= fun _ => pure none).Keeps (living c) _
            (Stage.aside (.part .bridge true .outside))
          refine Program.Keeps.bind (apply_keeps ?_)
          exact ⟨true, rfl⟩

/-! ## The runs keep it -/

/-- A request of a run. -/
theorem run_keeps {Ends : Stage → α → Prop} {l : Leg} {r : Request} {next : r.Answer → Work α}
    (h : ∀ x, ∃ l', l.Step c r x l' ∧ (next x).Keeps (living c) Ends (Stage.run l')) :
    (Program.ask r next).Keeps (living c) Ends (Stage.run l) := by
  intro x _
  obtain ⟨l', hstep, hnext⟩ := h x
  exact ⟨.run l', .run hstep, hnext⟩

/-- The removal of the peers that are left, network by network. -/
theorem removeAll_keeps {Ends : Stage → Unit → Prop} {e : Tunnel.Ending} {ns : List Subnet}
    {g : Option Subnet} (h : ∀ g, Ends (.run (.clearing e (some []) (.holding g))) ()) :
    (tunnel (Tunnel.removeAll ns)).Keeps (living c) Ends
      (Stage.run (.clearing e (some ns) (.holding g))) := by
  induction ns generalizing g with
  | nil => exact h g
  | cons n ns ih =>
      refine run_keeps fun _ => ⟨.clearing e (some ns) (.removing n), .remove, ?_⟩
      refine run_keeps fun _ => ⟨.clearing e (some ns) (.removed n), .issue, ?_⟩
      exact run_keeps fun _ => ⟨.clearing e (some ns) (.holding (some n)), .outcome, ih⟩

theorem clearPeers_keeps {Ends : Stage → Unit → Prop} {e : Tunnel.Ending}
    (h : Ends (.run (.cleared e)) ()) :
    (tunnel Tunnel.clearPeers).Keeps (living c) Ends (Stage.run (.joining e [])) := by
  refine run_keeps fun _ => ⟨.clearing e none .waiting, .queue, ?_⟩
  refine run_keeps fun _ => ⟨.clearing e none (.holding none), .lock, ?_⟩
  refine run_keeps fun ns => ⟨.clearing e (some ns) (.holding none), .networks, ?_⟩
  show (tunnel (Tunnel.removeAll ns >>= fun _ => Tunnel.ask .unlock)).Keeps (living c) Ends
    (Stage.run (.clearing e (some ns) (.holding none)))
  refine keeps_tunnel_bind (removeAll_keeps fun g => ?_)
  exact run_keeps fun _ => ⟨.cleared e, .unlock, h⟩

/-- What follows once the ending of the tunnel server is known. -/
theorem joining_keeps {Ends : Stage → Tunnel.Ending → Prop} {e : Tunnel.Ending}
    (h : Ends (.run (.gone e)) e) :
    (do
      ask (.join .report)
      ask (.join .watch)
      ask (.join .bridge)
      tunnel Tunnel.clearPeers
      discard (ask (.unregister c.localEdge.name))
      return e : Work Tunnel.Ending).Keeps (living c) Ends (Stage.run (.joining e parts)) := by
  refine run_keeps fun _ => ⟨.joining e [.watch, .bridge], .join, ?_⟩
  refine run_keeps fun _ => ⟨.joining e [.bridge], .join, ?_⟩
  refine run_keeps fun _ => ⟨.joining e [], .join, ?_⟩
  show (tunnel Tunnel.clearPeers >>= fun _ =>
    discard (ask (.unregister c.localEdge.name)) >>= fun _ => pure e).Keeps (living c) Ends
      (Stage.run (.joining e []))
  refine Program.Keeps.bind (clearPeers_keeps ?_)
  exact run_keeps fun _ => ⟨.gone e, .unregister, h⟩

/-- What is launched is run to its end, whether the agent is told to stop or the tunnel
    server ends by itself. -/
theorem attend_keeps {Ends : Stage → Tunnel.Ending → Prop} (h : ∀ e, Ends (.run (.gone e)) e) :
    (attend c.localEdge).Keeps (living c) Ends (Stage.run (.adding .outside)) := by
  refine run_keeps fun _ => ⟨.waiting, .launch, ?_⟩
  refine run_keeps fun first => ?_
  -- told to stop, the run has to wait for the ending of the server; otherwise it knows it
  cases first with
  | none =>
      refine ⟨.stopping, .told, ?_⟩
      refine run_keeps fun _ => ⟨.stopping, .tell, ?_⟩
      refine run_keeps fun _ => ⟨.stopping, .stop, ?_⟩
      exact run_keeps fun e => ⟨.joining e parts, .joinServer, joining_keeps (h e)⟩
  | some e =>
      refine ⟨.joining e parts, .ended, ?_⟩
      refine run_keeps fun _ => ⟨.joining e parts, .tellEnded, ?_⟩
      exact run_keeps fun _ => ⟨.joining e parts, .stopEnded, joining_keeps (h e)⟩

/-- What a run does once the listen socket is bound. -/
theorem enroll_keeps {Ends : Stage → Except AgentError Unit → Prop}
    (hfailed : ∀ e, Ends (.run (.failed e)) (.error e))
    (hgone : ∀ e, Ends (.run (.gone e)) (verdict e)) :
    (enroll c.localEdge).Keeps (living c) Ends (Stage.run .bound) := by
  refine run_keeps fun x => ?_
  cases x with
  | error e => exact ⟨.failed (.registry e), .registerError, hfailed _⟩
  | ok hosts =>
      refine ⟨.adding .outside, .register, ?_⟩
      have hpeers : (Tunnel.addPeers (others c.localEdge hosts)).Keeps
          (Tunnel.changing fun _ => False) (fun q _ => q = Tunnel.Phase.outside)
          Tunnel.Phase.outside := Tunnel.addPeers_keeps fun _ => rfl
      have hadd : (tunnel (Tunnel.addPeers (others c.localEdge hosts))).Keeps (living c)
          (fun q _ => q = Stage.run (.adding .outside)) (Stage.run (.adding .outside)) := by
        refine Program.Keeps.lift (P := Tunnel.changing fun _ => False) (Q := living c)
          (fun q => Stage.run (.adding q)) ?_ ?_ ?_ hpeers
        · exact fun _ _ hx => hx
        · exact fun hstep => .run (.add hstep)
        · exact fun _ _ hq => congrArg (fun q => Stage.run (.adding q)) hq
      show (discard (tunnel (Tunnel.addPeers (others c.localEdge hosts))) >>= fun _ =>
        attend c.localEdge >>= fun x => match x with
          | .ok _ => return .ok ()
          | .error e => return .error (.engine e)).Keeps (living c) Ends
        (Stage.run (.adding .outside))
      refine Program.Keeps.bind (Program.Keeps.map (Program.Keeps.mono ?_ hadd))
      rintro _ _ rfl
      refine Program.Keeps.bind (attend_keeps fun e => ?_)
      cases e with
      | ok _ => exact hgone (.ok _)
      | error e => exact hgone (.error e)

/-- **A run of an agent keeps the protocol.** -/
theorem running_keeps : (running c).Keeps (living c) Ends (Stage.run .fresh) := by
  refine Program.Keeps.map (run_keeps fun x => ?_)
  cases x with
  | false => exact ⟨.rejected, .reject, rfl⟩
  | true =>
      refine ⟨.ofUrl c, .claim, ?_⟩
      cases hurl : Controller.watchUrl c.registry.url with
      | error e =>
          rw [Leg.ofUrl_error hurl]
          exact rfl
      | ok url =>
          rw [Leg.ofUrl_ok hurl]
          refine run_keeps fun y => ?_
          cases y with
          | error e => exact ⟨.failed (.engine (.io e)), .bindError, rfl⟩
          | ok _ => exact ⟨.bound, .bind, enroll_keeps (fun _ => rfl) fun _ => rfl⟩

/-! ## Who is who -/

/-- The stages of the tasks that wait to be launched. -/
def launchStages (c : Config) : List Stage :=
  [.aside (.loop .inbound false), .aside (.loop .outbound false), .aside .serving,
    .aside (.part .report false .outside), .aside (.part .bridge false .outside)] ++
    match Controller.watchUrl c.registry.url with
    | .ok _ => [.aside (.part .watch false .outside)]
    | .error _ => []

/-- The stage that a task begins in: after the helpers come runs of the agent. -/
def begins (c : Config) (i : TaskId) : Stage := (launchStages c)[i]?.getD (.run .fresh)

/-- In the beginning every helper waits to be launched. -/
theorem system_keeps {σ : Type} {w : σ} :
    (system c w).Keeps (living c) Ends (Stage.run .fresh) (begins c) := by
  refine System.Keeps.of_forall₂ (P := living c) ?_
  show List.Forall₂ _ (launchable c) (launchStages c)
  unfold launchable launchStages
  refine List.rel_append (.cons inbound_keeps (.cons outbound_keeps (.cons serve_keeps
    (.cons reportRun_keeps (.cons bridgeRun_keeps .nil))))) ?_
  cases Controller.watchUrl c.registry.url with
  | error e => exact .nil
  | ok url => exact .cons watchRun_keeps .nil

end Programs

end Overlay.Agent.Lifecycle
