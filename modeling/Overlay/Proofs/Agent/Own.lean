import Overlay.Proofs.Agent.Teardown
import Overlay.Proofs.Net.Cidr

/-!
# An agent leaves its own edge alone

The controller lists the edge of an agent among the others, under whatever spelling of its
network, and it publishes what becomes of it.  An agent that followed would route its own
network into the tunnel.  It does not: the text that it names its network with reads as this
network, so that every spelling of it is recognized (`isSelf_localEdge`), and whoever adds or
deletes peers passes over the edge itself.

`Lived.spares_itself` says so of every state and of every route command.
-/

namespace Overlay.Agent

/-! ## The edge itself -/

/-- The network of the edge: what it is configured with, without host bits. -/
def home (c : Config) : Subnet := c.tunnel.address.network

/-- **The edge knows itself** by its address, and by its network in every spelling. -/
theorem isSelf_localEdge {c : Config} {h : Host} :
    c.localEdge.isSelf h = true ↔
      h.address = c.registry.advertised ∨ h.network = .ok (home c) := by
  have hcidr : Cidr.read c.localEdge.cidr = .ok (home c) := by
    have hread := Cidr.read_toString c.tunnel.address.network
    rwa [Subnet.network_network] at hread
  rw [Edge.isSelf, Bool.or_eq_true, decide_eq_true_eq, hcidr]
  refine or_congr Iff.rfl ?_
  cases h.network with
  | error e => exact iff_of_false (fun heq => nomatch heq) fun heq => nomatch heq
  | ok n => simp

/-- Another host than the edge itself. -/
def Foreign (c : Config) (h : Host) : Prop :=
  h.address ≠ c.registry.advertised ∧ h.network ≠ .ok (home c)

theorem foreign_of_not_isSelf {c : Config} {h : Host} (hself : ¬ c.localEdge.isSelf h = true) :
    Foreign c h := by
  rw [isSelf_localEdge, not_or] at hself
  exact hself

/-! ## The protocol -/

/-- The network that a request changes something for. -/
def Request.network? : Request → Option Subnet
  | .tunnel (.remove n) => some n
  | .tunnel (.insert p) => some p.network
  | .tunnel (.removeSame n _) => some n
  | .tunnel (.connect n _) => some n
  | .tunnel (.issue _ n) => some n
  | .tunnel (.outcome _ n) => some n
  | _ => none

/-- The address of the host that a request adds. -/
def Request.address? : Request → Option String
  | .tunnel (.insert p) => some p.host.address
  | .tunnel (.connect _ h) => some h.address
  | _ => none

/-- The requests that have nothing to do with a network. -/
def Request.Calm (r : Request) : Prop :=
  r ≠ .tunnel .networks ∧ r.network? = none ∧ r.address? = none

/-- Does a task know for which networks there are peers? -/
inductive Stance where
  /-- It does not, and may act for any network but the edge's own. -/
  | free
  /-- It does, and acts for these. -/
  | clearing (ns : List Subnet)

/-- The networks that the task may act for. -/
def Stance.Allows (c : Config) : Stance → Subnet → Prop
  | free, n => n ≠ home c
  | clearing ns, n => n ∈ ns

/-- The steps of tasks that spare the edge itself. -/
inductive Sparing (c : Config) : Stance → (r : Request) → r.Answer → Stance → Prop where
  | act {q : Stance} {r : Request} {x : r.Answer} : r ≠ .tunnel .networks →
      (∀ n ∈ r.network?, q.Allows c n) → (∀ a ∈ r.address?, a ≠ c.registry.advertised) →
        Sparing c q r x q
  | networks {ns : List Subnet} : Sparing c .free (.tunnel .networks) ns (.clearing ns)
  | unlock {q : Stance} {x : Unit} : Sparing c q (.tunnel .unlock) x .free

/-- The protocol of tasks that spare the edge itself. -/
def sparing (c : Config) : Protocol interface where
  Phase := Stance
  Possible := Plausible
  Step := Sparing c

theorem Sparing.calm {c : Config} {q : Stance} {r : Request} {x : r.Answer} (h : r.Calm) :
    Sparing c q r x q := by
  obtain ⟨hr, hn, ha⟩ := h
  refine .act hr ?_ ?_
  · rw [hn]
    exact fun n hn => nomatch hn
  · rw [ha]
    exact fun a ha => nomatch ha

/-! ## The tasks keep it -/

section Programs

variable {c : Config} {α : Type} {q : Stance} {n : Subnet} {h : Host}

/-- A request that has nothing to do with a network. -/
theorem calm_spares {Ends : Stance → α → Prop} {r : Request} {next : r.Answer → Work α}
    (hr : r.Calm) (hnext : ∀ x, (next x).Keeps (sparing c) Ends q) :
    (Program.ask r next).Keeps (sparing c) Ends q :=
  fun x _ => ⟨q, .calm hr, hnext x⟩

/-- A request for a network that the task may act for. -/
theorem act_spares {Ends : Stance → α → Prop} {r : Request} {next : r.Answer → Work α}
    (hr : r.network? = some n) (hn : q.Allows c n)
    (ha : ∀ a ∈ r.address?, a ≠ c.registry.advertised)
    (hnext : ∀ x, Plausible r x → (next x).Keeps (sparing c) Ends q) :
    (Program.ask r next).Keeps (sparing c) Ends q := by
  intro x hx
  refine ⟨q, .act ?_ ?_ ha, hnext x hx⟩
  · rintro rfl
    exact nomatch hr
  · rw [hr]
    rintro _ ⟨⟩
    exact hn

theorem removeNetwork_spares {Ends : Stance → Bool → Prop} (hn : q.Allows c n)
    (hends : ∀ b, Ends q b) : (tunnel (Tunnel.removeNetwork n)).Keeps (sparing c) Ends q := by
  refine act_spares (r := .tunnel (.remove n)) rfl hn (fun a ha => nomatch ha) fun old _ => ?_
  refine act_spares (r := .tunnel (.issue .del n)) rfl hn (fun a ha => nomatch ha) fun _ _ => ?_
  refine act_spares (r := .tunnel (.outcome .del n)) rfl hn (fun a ha => nomatch ha) fun _ _ => ?_
  exact hends old.isSome

theorem connectNetwork_spares {Ends : Stance → Except TunnelError Unit → Prop}
    (hn : n ≠ home c) (ha : h.address ≠ c.registry.advertised) (hends : ∀ r, Ends .free r) :
    (tunnel (Tunnel.connectNetwork n h)).Keeps (sparing c) Ends Stance.free := by
  refine keeps_tunnel_bind (keeps_tunnel_bind (removeNetwork_spares hn fun _ => ?_))
  refine act_spares (r := .tunnel (.connect n h)) rfl hn ?_ fun connected hconnected => ?_
  · rintro _ ⟨⟩
    exact ha
  · cases connected with
    | error e => exact hends _
    | ok p =>
        -- the peer is the one of the host, for the network
        obtain ⟨rfl, rfl⟩ : p.network = n ∧ p.host = h := hconnected
        refine act_spares (r := .tunnel (.insert p)) rfl hn ?_ fun _ _ => ?_
        · rintro _ ⟨⟩
          exact ha
        · refine act_spares (r := .tunnel (.issue .add p.network)) rfl hn
            (fun a ha => nomatch ha) fun _ _ => ?_
          refine act_spares (r := .tunnel (.outcome .add p.network)) rfl hn
            (fun a ha => nomatch ha) fun outcome _ => ?_
          cases outcome with
          | ok output => exact hends _
          | error e =>
              exact act_spares (r := .tunnel (.removeSame p.network p)) rfl hn
                (fun a ha => nomatch ha) fun _ _ => hends _

/-- What is done between taking the lock and giving it back. -/
theorem locked_spares {Ends : Stance → α → Prop} {body : Tunnel.Work α}
    (hbody : (tunnel body).Keeps (sparing c) (fun _ a => Ends .free a) Stance.free) :
    (tunnel (Tunnel.acquire >>= fun _ => body >>= fun a =>
      Tunnel.ask .unlock >>= fun _ => pure a)).Keeps (sparing c) Ends Stance.free := by
  refine calm_spares (r := .tunnel .queue) ⟨nofun, rfl, rfl⟩ fun _ => ?_
  refine calm_spares (r := .tunnel .lock) ⟨nofun, rfl, rfl⟩ fun _ => ?_
  show (tunnel (body >>= fun a => Tunnel.ask .unlock >>= fun _ => pure a)).Keeps (sparing c) Ends
    Stance.free
  refine keeps_tunnel_bind (hbody.mono fun _ _ hends => ?_)
  exact fun _ _ => ⟨.free, .unlock, hends⟩

/-- A host that is not the edge itself is added. -/
theorem addPeer_spares {Ends : Stance → Except TunnelError Unit → Prop} (hh : Foreign c h)
    (hends : ∀ r, Ends .free r) :
    (tunnel (Tunnel.addPeer h)).Keeps (sparing c) Ends Stance.free := by
  unfold Tunnel.addPeer
  cases hn : h.network with
  | error e => exact hends _
  | ok n =>
      have hforeign : n ≠ home c := by
        rintro rfl
        exact hh.2 hn
      exact locked_spares (connectNetwork_spares hforeign hh.1 hends)

theorem addPeers_spares {Ends : Stance → List (Host × TunnelError) → Prop} {hs : List Host}
    (hhs : ∀ h ∈ hs, Foreign c h) (hends : ∀ r, Ends .free r) :
    (tunnel (Tunnel.addPeers hs)).Keeps (sparing c) Ends Stance.free := by
  induction hs generalizing Ends with
  | nil => exact hends []
  | cons h hs ih =>
      refine keeps_tunnel_bind (addPeer_spares (hhs h List.mem_cons_self) fun r => ?_)
      refine keeps_tunnel_bind (ih (fun h' hh' => hhs h' (List.mem_cons_of_mem h hh')) fun fs => ?_)
      cases r with
      | ok _ => exact hends _
      | error e => exact hends _

theorem delPeer_spares {Ends : Stance → Bool → Prop} (hh : Foreign c h)
    (hends : ∀ b, Ends .free b) :
    (tunnel (Tunnel.delPeer h)).Keeps (sparing c) Ends Stance.free := by
  unfold Tunnel.delPeer
  cases hn : h.network with
  | error e => exact hends _
  | ok n =>
      have hforeign : n ≠ home c := by
        rintro rfl
        exact hh.2 hn
      exact locked_spares (removeNetwork_spares hforeign hends)

/-- All peers are removed: these are the networks that there are peers for. -/
theorem clearPeers_spares {Ends : Stance → Unit → Prop} (hends : Ends .free ()) :
    (tunnel Tunnel.clearPeers).Keeps (sparing c) Ends Stance.free := by
  refine calm_spares (r := .tunnel .queue) ⟨nofun, rfl, rfl⟩ fun _ => ?_
  refine calm_spares (r := .tunnel .lock) ⟨nofun, rfl, rfl⟩ fun _ => ?_
  intro ns _
  refine ⟨.clearing ns, .networks, ?_⟩
  have hall : ∀ {ms : List Subnet}, (∀ n ∈ ms, n ∈ ns) →
      (tunnel (Tunnel.removeAll ms)).Keeps (sparing c) (fun _ _ => Ends .free ())
        (Stance.clearing ns) := by
    intro ms hms
    induction ms with
    | nil => exact hends
    | cons n ms ih =>
        have hn : n ∈ ns := hms n List.mem_cons_self
        refine keeps_tunnel_bind (keeps_tunnel_bind (removeNetwork_spares hn fun _ => ?_))
        exact ih fun m hm => hms m (List.mem_cons_of_mem n hm)
  show (tunnel (Tunnel.removeAll ns >>= fun _ => Tunnel.ask .unlock)).Keeps (sparing c) Ends
    (Stance.clearing ns)
  refine keeps_tunnel_bind ((hall fun n hn => hn).mono fun _ _ hends => ?_)
  exact fun _ _ => ⟨.free, .unlock, hends⟩

/-- The bridge adds no edge that is its own. -/
theorem addWithin_spares {Ends : Stance → Unit → Prop} {left : Nat} {delays : Backoff}
    (hh : Foreign c h) (hends : Ends .free ()) :
    (addWithin left delays h).Keeps (sparing c) Ends Stance.free := by
  induction left generalizing delays with
  | zero => exact hends
  | succ left ih =>
      refine Program.Keeps.bind (addPeer_spares hh fun r => ?_)
      cases r with
      | ok _ => exact hends
      | error e =>
          show Program.Keeps (sparing c) Ends
            (if (isRetried e && left ≠ 0) = true then _ else _) Stance.free
          split
          · refine calm_spares (r := .draw) ⟨nofun, rfl, rfl⟩ fun drawn => ?_
            refine calm_spares (r := .pause .bridge (delays.take drawn)) ⟨nofun, rfl, rfl⟩
              fun stop => ?_
            cases stop with
            | true => exact hends
            | false => exact ih
          · exact hends

theorem apply_spares {Ends : Stance → Unit → Prop} {policy : RetryPolicy} {e : EdgeEvent}
    (hends : Ends .free ()) :
    (apply c.localEdge policy e).Keeps (sparing c) Ends Stance.free := by
  unfold apply
  split
  · exact hends
  · rename_i hown
    rw [isOwn, Bool.or_eq_true, not_or] at hown
    have hforeign : Foreign c e.edge.host := foreign_of_not_isSelf hown.2
    cases e with
    | put edge => exact addWithin_spares hforeign hends
    | delete edge => exact Program.Keeps.map (delPeer_spares hforeign fun _ => hends)

theorem bridge_spares {policy : RetryPolicy} :
    (background (bridgeRun c.localEdge policy)).Keeps (sparing c) (fun _ _ => True)
      Stance.free := by
  refine Task.keeps_loop (fun q => q = Stance.free) (fun q hq => ?_) rfl
  subst hq
  refine Program.Keeps.map (calm_spares (r := .stopping .bridge) ⟨nofun, rfl, rfl⟩ fun x => ?_)
  cases x with
  | true => exact calm_spares (r := .leave .bridge) ⟨nofun, rfl, rfl⟩ fun _ => trivial
  | false =>
      refine calm_spares (r := .change) ⟨nofun, rfl, rfl⟩ fun y => ?_
      match y with
      | .signal true => exact calm_spares (r := .leave .bridge) ⟨nofun, rfl, rfl⟩ fun _ => trivial
      | .signal false => exact rfl
      | .closed => exact calm_spares (r := .leave .bridge) ⟨nofun, rfl, rfl⟩ fun _ => trivial
      | .event e =>
          show (apply c.localEdge policy e >>= fun _ => pure none).Keeps (sparing c) _ Stance.free
          exact Program.Keeps.bind (apply_spares rfl)

/-! ## The helpers keep it -/

/-- The helpers that have nothing to do with the peers: all but the bridge. -/
def Lifecycle.Helper.Plain : Lifecycle.Helper → Prop
  | .part .bridge _ _ => False
  | _ => True

/-- Such a helper asks for nothing that has to do with a network. -/
theorem Lifecycle.Helper.Step.calm {b b' : Lifecycle.Helper} {r : Request} {x : r.Answer}
    (hstep : b.Step r x b') (hb : b.Plain) : b'.Plain ∧ r.Calm := by
  cases hstep with
  | arrive | finish | firstEnded | stop | join | served | sight | check =>
      exact ⟨trivial, nofun, rfl, rfl⟩
  | look | change => exact hb.elim
  | leave => exact ⟨trivial, nofun, rfl, rfl⟩
  | @forward d r x hr =>
      refine ⟨trivial, ?_⟩
      cases r with
      | lookup | report | send | write | count => exact ⟨nofun, rfl, rfl⟩
      | _ => exact hr.elim
  | @work p q r x hr =>
      refine ⟨hb, ?_⟩
      cases r with
      | stopping | pause | draw | due | forget | prune | report | connect | arrival | publish
      | nextDelay | resetDelay | change => exact ⟨nofun, rfl, rfl⟩
      | _ => exact hr.elim

theorem helper_spares {a : Task interface Result} {b : Lifecycle.Helper}
    (h : a.Keeps (Lifecycle.living c) Lifecycle.Ends (Lifecycle.Stage.aside b)) (hb : b.Plain) :
    a.Keeps (sparing c) (fun _ _ => True) Stance.free := by
  refine Task.Keeps.within (P := Lifecycle.living c) (Q := sparing c)
    (fun q => ∃ b, q = .aside b ∧ b.Plain) (fun _ => Stance.free) (fun _ _ hx => hx) ?_
    (fun _ _ _ _ => trivial) ⟨b, rfl, hb⟩ h
  rintro _ r x _ ⟨b, rfl, hb⟩ hstep
  cases hstep with
  | aside hstep =>
      obtain ⟨hb', hcalm⟩ := hstep.calm hb
      exact ⟨⟨_, rfl, hb'⟩, .calm hcalm⟩

/-! ## The runs keep it -/

theorem attend_spares {Ends : Stance → Tunnel.Ending → Prop} (hends : ∀ e, Ends .free e) :
    (attend c.localEdge).Keeps (sparing c) Ends Stance.free := by
  have hjoining : ∀ e, (do
      ask (.join .report)
      ask (.join .watch)
      ask (.join .bridge)
      tunnel Tunnel.clearPeers
      discard (ask (.unregister c.localEdge.name))
      return e : Work Tunnel.Ending).Keeps (sparing c) Ends Stance.free := by
    intro e
    refine calm_spares (r := .join .report) ⟨nofun, rfl, rfl⟩ fun _ => ?_
    refine calm_spares (r := .join .watch) ⟨nofun, rfl, rfl⟩ fun _ => ?_
    refine calm_spares (r := .join .bridge) ⟨nofun, rfl, rfl⟩ fun _ => ?_
    show (tunnel Tunnel.clearPeers >>= fun _ =>
      discard (ask (.unregister c.localEdge.name)) >>= fun _ => pure e).Keeps (sparing c) Ends
        Stance.free
    refine Program.Keeps.bind (clearPeers_spares ?_)
    exact calm_spares (r := .unregister c.localEdge.name) ⟨nofun, rfl, rfl⟩ fun _ => hends e
  refine calm_spares (r := .launch) ⟨nofun, rfl, rfl⟩ fun _ => ?_
  refine calm_spares (r := .awaitEnd) ⟨nofun, rfl, rfl⟩ fun first => ?_
  refine calm_spares (r := .signal) ⟨nofun, rfl, rfl⟩ fun _ => ?_
  refine calm_spares (r := .tunnel .stop) ⟨nofun, rfl, rfl⟩ fun _ => ?_
  cases first with
  | none => exact calm_spares (r := .joinServer) ⟨nofun, rfl, rfl⟩ hjoining
  | some e => exact hjoining e

/-- The edge itself is not among the hosts that a run adds. -/
theorem foreign_of_mem_others {hosts : List Host} (hh : h ∈ others c.localEdge hosts) :
    Foreign c h := by
  refine foreign_of_not_isSelf ?_
  have hself := (List.mem_filter.mp hh).2
  simpa using hself

theorem enroll_spares {Ends : Stance → Except AgentError Unit → Prop}
    (hends : ∀ r, Ends .free r) :
    (enroll c.localEdge).Keeps (sparing c) Ends Stance.free := by
  refine calm_spares (r := .register c.localEdge) ⟨nofun, rfl, rfl⟩ fun registered => ?_
  cases registered with
  | error e => exact hends _
  | ok hosts =>
      show (discard (tunnel (Tunnel.addPeers (others c.localEdge hosts))) >>= _).Keeps (sparing c)
        Ends Stance.free
      refine Program.Keeps.bind (Program.Keeps.map
        (addPeers_spares (fun h hh => foreign_of_mem_others hh) fun _ => ?_))
      refine Program.Keeps.bind (attend_spares fun e => ?_)
      cases e with
      | ok _ => exact hends _
      | error e => exact hends _

theorem running_spares : (running c).Keeps (sparing c) (fun _ _ => True) Stance.free := by
  refine Program.Keeps.map (calm_spares (r := .claim) ⟨nofun, rfl, rfl⟩ fun claimed => ?_)
  cases claimed with
  | false => exact trivial
  | true =>
      cases hurl : Controller.watchUrl c.registry.url with
      | error e => exact trivial
      | ok url =>
          refine calm_spares (r := .bind c.tunnel.listen) ⟨nofun, rfl, rfl⟩ fun bound => ?_
          cases bound with
          | error e => exact trivial
          | ok _ => exact enroll_spares fun _ => trivial

/-- All tasks that wait to be launched spare the edge itself. -/
theorem launchable_spares {a : Task interface Result} (ha : a ∈ launchable c) :
    a.Keeps (sparing c) (fun _ _ => True) Stance.free := by
  unfold launchable at ha
  rcases List.mem_append.mp ha with ha | ha
  · simp only [List.mem_cons, List.not_mem_nil, or_false] at ha
    rcases ha with rfl | rfl | rfl | rfl | rfl
    · exact helper_spares Lifecycle.inbound_keeps trivial
    · exact helper_spares Lifecycle.outbound_keeps trivial
    · exact helper_spares Lifecycle.serve_keeps trivial
    · exact helper_spares Lifecycle.reportRun_keeps trivial
    · exact bridge_spares
  · split at ha
    · rw [List.mem_singleton] at ha
      subst ha
      exact helper_spares Lifecycle.watchRun_keeps trivial
    · exact absurd ha List.not_mem_nil

theorem system_spares {σ : Type} {w : σ} :
    (system c w).Keeps (sparing c) (fun _ _ => True) Stance.free fun _ => Stance.free where
  task := fun ha => launchable_spares (List.mem_of_getElem? ha)
  rest := fun _ => rfl

end Programs

/-! ## What every state keeps -/

section Invariant

variable {σ : Type} {c : Config} {around : Around σ} {w : σ} {tr : List (Exchange interface)}
  {u u' : State σ} {ph : TaskId → Stance} {id : TaskId} {r : Request} {x : r.Answer} {q : Stance}

/-- A connection to another edge. -/
def Away (c : Config) (p : Peer) : Prop :=
  p.network ≠ home c ∧ p.host.address ≠ c.registry.advertised

/-- No peer is the edge itself, no request was made for its network, and no task is about to
    make one. -/
structure Spared (c : Config) (tr : List (Exchange interface)) (u : State σ)
    (ph : TaskId → Stance) : Prop where
  table : ∀ p ∈ u.server.table.peers, Away c p
  asked : ∀ e ∈ tr, ∀ n ∈ e.request.network?, n ≠ home c
  known : ∀ {i : TaskId} {ns : List Subnet}, ph i = .clearing ns → home c ∉ ns

/-- A removal adds no peer. -/
theorem mem_of_mem_removeSame {t : RouteTable} {n : Subnet} {p p' : Peer}
    (h : p' ∈ (t.removeSame n p).2.peers) : p' ∈ t.peers := by
  unfold RouteTable.removeSame at h
  split at h
  · split at h
    · exact (List.mem_filter.mp h).1
    · exact h
  · exact h

/-- A request that adds no peer for the edge itself leaves none. -/
theorem away_of_tableAfter {t : RouteTable} (ht : ∀ p ∈ t.peers, Away c p)
    (hn : ∀ n ∈ r.network?, n ≠ home c) (ha : ∀ a ∈ r.address?, a ≠ c.registry.advertised) :
    ∀ p ∈ (r.tableAfter t).peers, Away c p := by
  intro p hp
  cases r with
  | tunnel r =>
      cases r with
      | remove n => exact ht p (List.mem_filter.mp hp).1
      | removeSame n p' => exact ht p (mem_of_mem_removeSame hp)
      | insert p' =>
          rcases List.mem_cons.mp hp with rfl | hp
          · exact ⟨hn _ rfl, ha _ rfl⟩
          · exact ht p (List.mem_filter.mp hp).1
      | _ => exact ht p hp
  | _ => exact ht p hp

/-- A request that is allowed is made for another network. -/
theorem Spared.ne_home (h : Spared c tr u ph) {n : Subnet} (hn : (ph id).Allows c n) :
    n ≠ home c := by
  cases hq : ph id with
  | free =>
      rw [hq] at hn
      exact hn
  | clearing ns =>
      rw [hq] at hn
      rintro rfl
      exact h.known hq hn

/-- Every exchange keeps it. -/
theorem Spared.step (h : Spared c tr u ph) (hstep : Sparing c (ph id) r x q)
    (hx : u.answer around id r = some (x, u')) :
    Spared c (tr ++ [⟨id, r, x⟩]) u' (Function.update ph id q) := by
  have htable := table_of_answer hx
  have hknown : (∀ ns, q = .clearing ns → home c ∉ ns) →
      ∀ {i : TaskId} {ns : List Subnet}, Function.update ph id q i = .clearing ns →
        home c ∉ ns := by
    intro hq i ns hi
    by_cases hid : i = id
    · rw [hid, Function.update_self] at hi
      exact hq ns hi
    · rw [Function.update_of_ne hid] at hi
      exact h.known hi
  generalize hid : ph id = q₀ at hstep
  cases hstep with
  | act hr hn ha =>
      have hn' : ∀ n ∈ r.network?, n ≠ home c := fun n hmem => h.ne_home (hid ▸ hn n hmem)
      refine ⟨?_, ?_, ?_⟩
      · rw [htable]
        exact away_of_tableAfter h.table hn' ha
      · exact System.forall_mem_concat h.asked hn'
      · exact hknown fun ns hq => h.known (hid.trans hq)
  | @networks ns =>
      -- there is no peer for the edge's own network, so this is none of them
      have hns : ns = u.server.table.networks := shows_of_answer hx
      refine ⟨?_, System.forall_mem_concat h.asked (fun _ hn => nomatch hn), hknown ?_⟩
      · rw [htable]
        exact h.table
      · rintro _ ⟨⟩ hmem
        rw [hns] at hmem
        obtain ⟨p, hp, hhome⟩ := List.mem_map.mp hmem
        exact (h.table p hp).1 hhome
  | unlock =>
      refine ⟨?_, System.forall_mem_concat h.asked (fun _ hn => nomatch hn), hknown ?_⟩
      · rw [htable]
        exact h.table
      · exact fun ns hq => nomatch hq

variable {s : System interface (State σ) Result}

/-- **An agent leaves its own edge alone.**  Whatever hosts the registration returns, whichever
    changes of the membership are published, and whatever fails and is tried again, at any time
    of any number of runs: no peer has the network of the edge, none is a connection to its
    address, and no route command was given for its network. -/
theorem Lifecycle.Lived.spares_itself (h : Lifecycle.Lived c around w tr s) :
    (∀ p ∈ s.state.server.table.peers,
      p.network ≠ home c ∧ p.host.address ≠ c.registry.advertised) ∧
    ∀ e ∈ tr, ∀ action n,
      e.request = .tunnel (.issue action n) ∨ e.request = .tunnel (.outcome action n) →
        n ≠ home c := by
  have hspared : ∃ ph, Spared c tr s.state ph ∧
      s.Keeps (sparing c) (fun _ _ => True) Stance.free ph := by
    refine System.Runs.keeps (P := sparing c) (Spared c) (fun hx => plausible_of_answer hx)
      system_spares ?_ (fun _ hinv hstep hx => hinv.step hstep hx) ?_ ?_ h
    · refine ⟨fun p hp => absurd hp List.not_mem_nil, fun e he => absurd he List.not_mem_nil, ?_⟩
      exact fun hq => nomatch hq
    · rintro _ rfl
      exact running_spares
    · rintro tr u _ ph hinv (⟨v, rfl⟩ | rfl)
      · exact ⟨hinv.table, hinv.asked, hinv.known⟩
      · exact ⟨hinv.table, hinv.asked, hinv.known⟩
  obtain ⟨ph, hinv, -⟩ := hspared
  refine ⟨hinv.table, fun e he action n hn => hinv.asked e he n ?_⟩
  rcases hn with hn | hn
  · rw [hn]
    rfl
  · rw [hn]
    rfl

end Invariant

/-- The edge itself, as a controller may list it: behind another address, and with its network
    spelled in another way. -/
def listedSelf : Host := ⟨"203.0.113.9:7000", " 010.0.0.077/24 "⟩

/-- The surroundings of a scene whose controller lists the edge itself before another host. -/
def selfListingAround : Around AgentScene :=
  { sceneAround with
    register := fun _ w => some (.ok [listedSelf, ⟨"192.0.2.1:7000", "10.1.0.0/16"⟩], w) }

/-- Does a registration return the host? -/
def lists (h : Host) : Exchange interface → Bool
  | ⟨_, .register _, .ok hosts⟩ => h ∈ hosts
  | _ => false

/-- The controller lists the edge itself and one other host: there is a peer for the other one
    alone. -/
theorem Lifecycle.spares_itself_when_listed :
    ∃ (c : Config) (w : AgentScene) (tr : _) (s : _),
      Lifecycle.Lived c selfListingAround w tr s ∧ listedSelf.network = .ok (home c) ∧
        (∃ e ∈ tr, lists listedSelf e) ∧ s.state.server.table.networks.length = 1 ∧
        home c ∉ s.state.server.table.networks := by
  let c : Config :=
    { tunnel := ⟨.v4 (.ofOctets 0 0 0 0) 7000, "loom0", ⟨.ofOctets 10 0 0 1, 24, by decide⟩, 1400⟩
      registry := ⟨⟨"http".toList, some { host := .name "registry".toList }, .segments [[]],
        none, none⟩, "edge-a", "198.51.100.1:7000"⟩
      routes := .iproute2
      bridge := ⟨3, 200, 60⟩
      log := ⟨"info", false⟩ }
  let w : AgentScene := ({}, { reach := .everything, device := .scripted {} })
  let start : System interface (State AgentScene) Result :=
    ⟨(system c w).state, (system c w).tasks ++ [running c]⟩
  -- the run, through the registration and the addition of what it returned
  have hfinds : (start.play (State.machine selfListingAround) (List.replicate 14 6)).any (fun p =>
      p.1.any (lists listedSelf) &&
        decide (p.2.state.server.table.networks.length = 1)) = true := by
    decide +kernel
  obtain ⟨⟨tr, s⟩, hplay, hfacts⟩ := (Option.any_eq_true _ _).mp hfinds
  rw [Bool.and_eq_true] at hfacts
  have hmade : Lifecycle.Lived c selfListingAround w [] start := .spawn .refl rfl
  have hrun : Lifecycle.Lived c selfListingAround w tr s := hmade.play hplay
  refine ⟨c, w, tr, s, hrun, by decide +kernel, List.any_eq_true.mp hfacts.1,
    of_decide_eq_true hfacts.2, fun hhome => ?_⟩
  obtain ⟨p, hp, hnetwork⟩ := List.mem_map.mp hhome
  exact (Lifecycle.Lived.spares_itself hrun).1 p hp |>.1 hnetwork

end Overlay.Agent
