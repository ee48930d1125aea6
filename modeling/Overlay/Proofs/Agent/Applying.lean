import Overlay.Proofs.Agent.Answer

/-!
# How the bridge applies a change

The bridge hears of one change at a time and applies it before it looks for the next one.
For a change of a network it first owes the removal of the peer; once this peer is gone it
may insert another one, and a peer that it has inserted stays or goes with the outcome of
the route command.  Here this is a protocol, `bridging`, together with the task that hands
the changes to the bridge.
-/

namespace Overlay.Agent

/-! ## The protocol -/

/-- How far the bridge and whoever hands it the changes have come. -/
inductive Stage where
  /-- The bridge has applied all that it has heard. -/
  | idle
  /-- The bridge has heard a change of the network. -/
  | owed (e : EdgeEvent) (n : Subnet)
  /-- The bridge has removed the peer of the network. -/
  | gone (e : EdgeEvent) (n : Subnet)
  /-- The bridge has inserted a peer and does not know yet whether its route was added. -/
  | trying (e : EdgeEvent) (p : Peer)
  /-- Nothing will change any more. -/
  | finished
  /-- The bridge was told to stop. -/
  | stopped
  /-- These changes are still to be handed to the bridge. -/
  | feeding (left : List EdgeEvent)
  /-- There is nothing to do. -/
  | fed

/-- In these stages the bridge may look for the next change. -/
def Stage.Ready : Stage → Prop
  | idle => True
  | gone _ _ => True
  | _ => False

/-- The stages of the bridge, as long as it is not told to stop. -/
def Stage.OfBridge : Stage → Prop
  | stopped => False
  | feeding _ => False
  | fed => False
  | _ => True

/-- The stages of whoever hands the changes over. -/
def Stage.OfFeeder : Stage → Prop
  | feeding _ => True
  | fed => True
  | _ => False

/-- The stage after a change was heard. -/
def Stage.ofEvent (self : Edge) (e : EdgeEvent) : Stage :=
  if isOwn self e then idle
  else
    match e.edge.host.network with
    | .ok n => owed e n
    | .error _ => idle

/-- A change that was heard leaves the bridge at work. -/
theorem Stage.ofEvent_ofBridge (self : Edge) (e : EdgeEvent) :
    (Stage.ofEvent self e).OfBridge ∧ Stage.ofEvent self e ≠ .finished := by
  rw [ofEvent]
  split
  · exact ⟨trivial, fun heq => nomatch heq⟩
  · split
    · exact ⟨trivial, fun heq => nomatch heq⟩
    · exact ⟨trivial, fun heq => nomatch heq⟩

/-- The requests of the bridge that change neither the peers nor what it has heard. -/
def Request.Inert : Request → Prop
  | .tunnel .queue => True
  | .tunnel .lock => True
  | .tunnel .unlock => True
  | .tunnel (.connect _ _) => True
  | .tunnel (.issue _ _) => True
  | .tunnel (.outcome .del _) => True
  | .draw => True
  | .pause _ _ => True
  | _ => False

/-- The steps of the bridge and of whoever hands it the changes. -/
inductive Course (self : Edge) : Stage → (r : Request) → r.Answer → Stage → Prop where
  | inert {q : Stage} {r : Request} {x : r.Answer} : r.Inert → Course self q r x q
  | go {q : Stage} : q.Ready → Course self q (.stopping .bridge) false q
  | stop {q : Stage} : q.Ready → Course self q (.stopping .bridge) true .stopped
  | told {q : Stage} : q.Ready → Course self q .change (.signal true) .stopped
  | calm {q : Stage} : q.Ready → Course self q .change (.signal false) q
  | hear {q : Stage} {e : EdgeEvent} :
      q.Ready → Course self q .change (.event e) (Stage.ofEvent self e)
  | closed {q : Stage} : q.Ready → Course self q .change .closed .finished
  | leave {x : Unit} : Course self .finished (.leave .bridge) x .finished
  | halt {x : Unit} : Course self .stopped (.leave .bridge) x .stopped
  | remove {e : EdgeEvent} {n : Subnet} {x : Option Peer} :
      Course self (.owed e n) (.tunnel (.remove n)) x (.gone e n)
  | removeAgain {e : EdgeEvent} {n : Subnet} {x : Option Peer} :
      Course self (.gone e n) (.tunnel (.remove n)) x (.gone e n)
  | insert {edge : Edge} {p : Peer} {x : Option Peer} : p.host = edge.host →
      Course self (.gone (.put edge) p.network) (.tunnel (.insert p)) x (.trying (.put edge) p)
  | added {e : EdgeEvent} {p : Peer} {output : String} :
      Course self (.trying e p) (.tunnel (.outcome .add p.network)) (.ok output) .idle
  | refused {e : EdgeEvent} {p : Peer} {error : RouteError} :
      Course self (.trying e p) (.tunnel (.outcome .add p.network)) (.error error) (.trying e p)
  | removeSame {e : EdgeEvent} {p : Peer} {x : Option Peer} :
      Course self (.trying e p) (.tunnel (.removeSame p.network p)) x (.gone e p.network)
  | feed {e : EdgeEvent} {left : List EdgeEvent} {x : Bool} :
      Course self (.feeding (e :: left)) (.publish e) x (.feeding left)
  | drop {x : Unit} : Course self (.feeding []) (.leave .watch) x .fed

/-- The protocol of the bridge and of whoever hands it the changes. -/
def bridging (self : Edge) : Protocol interface where
  Phase := Stage
  Possible := Plausible
  Step := Course self

/-- Hands changes to the bridge, and then says that there will be no more. -/
def feed : List EdgeEvent → Work Unit
  | [] => ask (.leave .watch)
  | e :: es => do
    discard (ask (.publish e))
    feed es

/-! ## The programs keep it -/

section Programs

variable {self : Edge} {α : Type}

/-- A request that is inert may be made at any time. -/
theorem inert_keeps {Ends : Stage → α → Prop} {r : Request} (hr : r.Inert) {q : Stage}
    {next : r.Answer → Work α} (h : ∀ x, (next x).Keeps (bridging self) Ends q) :
    (Program.ask r next).Keeps (bridging self) Ends q := fun x _ => ⟨q, .inert hr, h x⟩

/-- The removal of a network, from the stage in which it is owed and after it was made before. -/
theorem removeNetwork_keeps {Ends : Stage → Bool → Prop} {e : EdgeEvent} {n : Subnet} {q : Stage}
    (hq : q = .owed e n ∨ q = .gone e n) (hends : ∀ b, Ends (.gone e n) b) :
    (tunnel (Tunnel.removeNetwork n)).Keeps (bridging self) Ends q := by
  intro old _
  refine ⟨.gone e n, ?_, ?_⟩
  · rcases hq with rfl | rfl
    · exact .remove
    · exact .removeAgain
  · refine inert_keeps (r := .tunnel (.issue .del n)) trivial fun _ => ?_
    refine inert_keeps (r := .tunnel (.outcome .del n)) trivial fun _ => ?_
    exact hends old.isSome

/-- An attempt to add an edge either succeeds or leaves no peer. -/
theorem connectNetwork_keeps {Ends : Stage → Except TunnelError Unit → Prop} {edge : Edge}
    {n : Subnet} {q : Stage} (hq : q = .owed (.put edge) n ∨ q = .gone (.put edge) n)
    (hok : Ends .idle (.ok ())) (herror : ∀ e, Ends (.gone (.put edge) n) (.error e)) :
    (tunnel (Tunnel.connectNetwork n edge.host)).Keeps (bridging self) Ends q := by
  refine keeps_tunnel_bind (keeps_tunnel_bind (removeNetwork_keeps hq fun _ => ?_))
  intro connected hconnected
  refine ⟨.gone (.put edge) n, .inert trivial, ?_⟩
  cases connected with
  | error e => exact herror _
  | ok p =>
      obtain ⟨rfl, hhost⟩ : p.network = n ∧ p.host = edge.host := hconnected
      intro _ _
      refine ⟨.trying (.put edge) p, .insert hhost, ?_⟩
      refine inert_keeps (r := .tunnel (.issue .add p.network)) trivial fun _ => ?_
      intro outcome _
      cases outcome with
      | ok output => exact ⟨.idle, .added, hok⟩
      | error e =>
          refine ⟨.trying (.put edge) p, .refused, ?_⟩
          intro _ _
          exact ⟨.gone (.put edge) p.network, .removeSame, herror _⟩

/-- A change under the lock: the lock itself does not matter to the bridge. -/
theorem locked_keeps {Ends : Stage → α → Prop} {body : Tunnel.Work α} {q : Stage}
    (hbody : (tunnel body).Keeps (bridging self) Ends q) :
    (tunnel (Tunnel.acquire >>= fun _ => body >>= fun a =>
      Tunnel.ask .unlock >>= fun _ => pure a)).Keeps (bridging self) Ends q := by
  refine inert_keeps (r := .tunnel .queue) trivial fun _ => ?_
  refine inert_keeps (r := .tunnel .lock) trivial fun _ => ?_
  show (tunnel (body >>= fun a => Tunnel.ask .unlock >>= fun _ => pure a)).Keeps (bridging self)
    Ends q
  refine keeps_tunnel_bind (hbody.mono fun ph a ha => ?_)
  exact inert_keeps (r := .tunnel .unlock) trivial fun _ => ha

/-- Attempts to add an edge with a network end with the edge added, or without a peer. -/
theorem addWithin_keeps {Ends : Stage → Unit → Prop} {edge : Edge} {n : Subnet} {q : Stage}
    {left : Nat} {delays : Backoff} (hn : edge.host.network = .ok n)
    (hq : (q = .owed (.put edge) n ∧ 0 < left) ∨ q = .gone (.put edge) n)
    (hends : ∀ q, q.Ready → Ends q ()) :
    (addWithin left delays edge.host).Keeps (bridging self) Ends q := by
  induction left generalizing q delays with
  | zero =>
      rcases hq with ⟨-, hlt⟩ | rfl
      · exact absurd hlt (Nat.lt_irrefl 0)
      · exact hends _ trivial
  | succ left ih =>
      refine Program.Keeps.bind ?_
      unfold Tunnel.addPeer
      simp only [hn]
      refine locked_keeps (connectNetwork_keeps (hq.imp_left And.left) ?_ fun e => ?_)
      · exact hends _ trivial
      · show Program.Keeps (bridging self) Ends
          (if (isRetried e && left ≠ 0) = true then _ else _) (Stage.gone (.put edge) n)
        split
        · refine inert_keeps (r := .draw) trivial fun drawn => ?_
          refine inert_keeps (r := .pause .bridge (delays.take drawn)) trivial fun stop => ?_
          cases stop with
          | true => exact hends _ trivial
          | false => exact ih (Or.inr rfl)
        · exact hends _ trivial

/-- The stages in which a task may end. -/
def Stage.Ended : Stage → Prop
  | finished => True
  | stopped => True
  | fed => True
  | _ => False

/-- A change is applied completely, whatever becomes of the attempts. -/
theorem apply_keeps {Ends : Stage → Unit → Prop} {policy : RetryPolicy} {e : EdgeEvent}
    (hattempts : 0 < policy.attempts) (hends : ∀ q, q.Ready → Ends q ()) :
    (apply self policy e).Keeps (bridging self) Ends (Stage.ofEvent self e) := by
  unfold apply Stage.ofEvent
  by_cases hown : isOwn self e = true
  · rw [if_pos hown, if_pos hown]
    exact hends _ trivial
  · rw [if_neg hown, if_neg hown]
    cases e with
    | put edge =>
        show (addWithin policy.attempts policy.delays edge.host).Keeps (bridging self) Ends
          (match edge.host.network with
          | .ok n => Stage.owed (.put edge) n
          | .error _ => .idle)
        cases hn : edge.host.network with
        | ok n => exact addWithin_keeps hn (Or.inl ⟨rfl, hattempts⟩) hends
        | error err =>
            -- the first attempt finds that the host names no network, and no other one follows
            obtain ⟨left, hleft⟩ := Nat.exists_eq_add_of_lt hattempts
            rw [hleft, Nat.zero_add]
            simp only [addWithin, Tunnel.addPeer, hn]
            exact hends _ trivial
    | delete edge =>
        show (discard (tunnel (Tunnel.delPeer edge.host))).Keeps (bridging self) Ends
          (match edge.host.network with
          | .ok n => Stage.owed (.delete edge) n
          | .error _ => .idle)
        unfold Tunnel.delPeer
        cases hn : edge.host.network with
        | ok n =>
            refine Program.Keeps.map (locked_keeps (removeNetwork_keeps (Or.inl rfl) fun _ => ?_))
            exact hends _ trivial
        | error err => exact hends _ trivial

/-- The bridge keeps its protocol. -/
theorem bridge_keeps {policy : RetryPolicy} (hattempts : 0 < policy.attempts) :
    (background (bridgeRun self policy)).Keeps (bridging self) (fun q _ => q.Ended)
      Stage.idle := by
  refine Task.keeps_loop Stage.Ready (fun q hq => Program.Keeps.map ?_) trivial
  intro stop _
  cases stop with
  | true => exact ⟨.stopped, .stop hq, fun _ _ => ⟨.stopped, .halt, trivial⟩⟩
  | false =>
      refine ⟨q, .go hq, ?_⟩
      intro change _
      cases change with
      | signal stop =>
          cases stop with
          | true => exact ⟨.stopped, .told hq, fun _ _ => ⟨.stopped, .halt, trivial⟩⟩
          | false => exact ⟨q, .calm hq, hq⟩
      | closed => exact ⟨.finished, .closed hq, fun _ _ => ⟨.finished, .leave, trivial⟩⟩
      | event e =>
          refine ⟨Stage.ofEvent self e, .hear hq, ?_⟩
          show (apply self policy e >>= fun _ => pure none).Keeps (bridging self) _
            (Stage.ofEvent self e)
          exact Program.Keeps.bind (apply_keeps hattempts fun q hq => hq)

/-- Whoever hands the changes over keeps the protocol. -/
theorem feed_keeps {events : List EdgeEvent} :
    (Task.once ((fun _ => Result.over) <$> feed events)).Keeps (bridging self) (fun q _ => q.Ended)
      (Stage.feeding events) := by
  refine Program.Keeps.map ?_
  induction events with
  | nil => exact fun _ _ => ⟨.fed, .drop, trivial⟩
  | cons e events ih => exact fun _ _ => ⟨.feeding events, .feed, ih⟩

end Programs

end Overlay.Agent
