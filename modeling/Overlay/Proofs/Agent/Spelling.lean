import Overlay.Proofs.Agent.Answer
import Overlay.Proofs.Net.Cidr
import Overlay.Proofs.Net.Subnet
import Overlay.Proofs.Tunnel.Spelling
import Overlay.Simulation.Agent

/-!
# The spelling of a network does not matter

What an agent does to its peers it does on behalf of calls and of changes of the membership
(`Act`).  All of these name networks by texts.  `spelling_does_not_matter` puts two lists of
acts side by side that differ in these texts alone: in whatever order the acts take their steps,
the same commands are given, the tables have the same networks with the same connections, and
the acts come to results of the same kind.

It also says that a table has one entry for each network: the network that the host of the entry
names, without host bits.
-/

namespace Overlay

/-- The edges differ at most in how they spell their network. -/
structure Edge.Same (e e' : Edge) : Prop where
  name : e.name = e'.name
  host : e.host.Same e'.host

theorem Edge.Same.refl (e : Edge) : e.Same e := ⟨rfl, .refl e.host⟩

/-- The changes differ at most in how the edge spells its network. -/
inductive EdgeEvent.Same : EdgeEvent → EdgeEvent → Prop where
  | put {e e' : Edge} : e.Same e' → Same (.put e) (.put e')
  | delete {e e' : Edge} : e.Same e' → Same (.delete e) (.delete e')

theorem EdgeEvent.Same.edge {e e' : EdgeEvent} (h : e.Same e') : e.edge.Same e'.edge := by
  cases h with
  | put h | delete h => exact h

/-- An edge knows itself in every spelling. -/
theorem Edge.Same.isSelf_eq {e e' : Edge} {h h' : Host} (he : e.Same e') (hh : h.Same h') :
    e.isSelf h = e'.isSelf h' := by
  have haddress : e.address = e'.address := he.host.address
  have hread : Cidr.read e.cidr = e.host.network := rfl
  have hread' : Cidr.read e'.cidr = e'.host.network := rfl
  rw [isSelf, isSelf, hread, hread', haddress, hh.address]
  congr 1
  rcases hh.cases with ⟨n, hn, hn'⟩ | ⟨x, x', hn, hn'⟩
  · rcases he.host.cases with ⟨m, hm, hm'⟩ | ⟨y, y', hm, hm'⟩
    · rw [hn, hn', hm, hm']
    · rw [hn, hn', hm, hm']
  · rw [hn, hn']

namespace Agent

variable {σ α : Type} {around : Around σ} {self self' : Edge} {policy : RetryPolicy}
  {h h' : Host} {e e' : EdgeEvent} {s s' : State σ}

/-! ## What the acts ask for -/

/-- The requests differ at most in how hosts spell their networks. -/
inductive Request.Alike : Likeness interface where
  | tunnel {r r' : Tunnel.Request} {A : r.Answer → r'.Answer → Prop} :
      Tunnel.Request.Alike r r' A → Alike (.tunnel r) (.tunnel r') A
  | draw : Alike .draw .draw Eq
  | pause (p : Part) (d : Duration) : Alike (.pause p d) (.pause p d) Eq

/-- The agents differ at most in how the hosts of their peers spell their networks. -/
def State.Same (s s' : State σ) : Prop := ∃ server, s.server.Same server ∧ s' = { s with server }

theorem State.Same.outside_eq (hs : s.Same s') : s.outside = s'.outside := by
  obtain ⟨_, ⟨table, -, rfl⟩, rfl⟩ := hs
  rfl

theorem State.Same.signals_eq (hs : s.Same s') : s.signals = s'.signals := by
  obtain ⟨server, -, rfl⟩ := hs
  rfl

theorem State.Same.setOutside (hs : s.Same s') (w : σ) :
    (s.setOutside w).Same (s'.setOutside w) := by
  obtain ⟨_, ⟨table, htable, rfl⟩, rfl⟩ := hs
  exact ⟨_, ⟨table, htable, rfl⟩, rfl⟩

theorem State.Same.setSignal (hs : s.Same s') (p : Part) (g : Signal) :
    (s.setSignal p g).Same (s'.setSignal p g) := by
  obtain ⟨server, hserver, rfl⟩ := hs
  exact ⟨server, hserver, rfl⟩

/-- What the acts ask for is always served. -/
theorem serves_of_alike {r r' : Tunnel.Request} {A : r.Answer → r'.Answer → Prop}
    (hr : Tunnel.Request.Alike r r' A) (s s' : State σ) :
    s.serves r = true ∧ s'.serves r' = true := by
  cases hr with
  | plain hplain => cases hplain with
    | _ => exact ⟨rfl, rfl⟩
  | _ => exact ⟨rfl, rfl⟩

/-- **An agent answers alike**, whatever the spelling. -/
theorem machine_respects : (State.machine around).Respects Request.Alike State.Same := by
  intro id r r' A s s' hr hs
  cases hr with
  | @tunnel r r' A hr =>
      obtain ⟨hserves, hserves'⟩ := serves_of_alike hr s s'
      obtain ⟨server, hserver, rfl⟩ := hs
      simp only [State.machine, State.answer, if_pos hserves, if_pos hserves']
      refine optionRel_map (Tunnel.answer_alike hr hserver) ?_
      rintro ⟨x, u⟩ ⟨x', u'⟩ ⟨hx, hu⟩
      exact ⟨hx, u', hu, rfl⟩
  | draw =>
      refine .some ⟨?_, ?_⟩
      · show (around.draw s.outside).1 = (around.draw s'.outside).1
        rw [hs.outside_eq]
      · show (s.setOutside (around.draw s.outside).2).Same
          (s'.setOutside (around.draw s'.outside).2)
        rw [hs.outside_eq]
        exact hs.setOutside _
  | pause p d =>
      simp only [State.machine, State.answer, State.lookOr, State.look, hs.signals_eq]
      cases (s'.signals p).look with
      | some found => exact .some ⟨rfl, hs.setSignal p found.2⟩
      | none =>
          rw [hs.outside_eq]
          cases around.pause d s'.outside with
          | some w => exact .some ⟨rfl, hs.setOutside w⟩
          | none => exact .none

theorem tunnel_alike {E : α → α → Prop} {p p' : Tunnel.Work α}
    (hp : p.Alike Tunnel.Request.Alike E p') :
    (tunnel p).Alike Request.Alike E (tunnel p') :=
  hp.lift fun hr => .tunnel hr

/-- Whether another attempt is of use does not depend on spelling. -/
theorem isRetried_eq {e e' : TunnelError} (he : Tunnel.SameKind e e') :
    isRetried e = isRetried e' := by
  cases he with
  | refl | host => rfl

theorem addWithin_alike {left : Nat} {delays : Backoff} (hh : h.Same h') :
    (addWithin left delays h).Alike Request.Alike Eq (addWithin left delays h') := by
  induction left generalizing delays with
  | zero => exact .done rfl
  | succ left ih =>
      refine (tunnel_alike (Tunnel.addPeer_alike hh)).bind fun r r' hr => ?_
      cases hr with
      | ok => exact .done rfl
      | @error e e' he =>
          show Program.Alike Request.Alike Eq (if (isRetried e && left ≠ 0) = true then _ else _)
            (if (isRetried e' && left ≠ 0) = true then _ else _)
          rw [isRetried_eq he]
          split
          · refine .ask .draw fun drawn drawn' hdrawn => ?_
            subst hdrawn
            refine .ask (.pause .bridge (delays.take drawn)) fun stop stop' hstop => ?_
            subst hstop
            cases stop with
            | true => exact .done rfl
            | false => exact ih
          · exact .done rfl

/-- An edge is the agent's own in every spelling. -/
theorem isOwn_eq (hself : self.Same self') (he : e.Same e') : isOwn self e = isOwn self' e' := by
  rw [isOwn, isOwn, hself.name, he.edge.name, hself.isSelf_eq he.edge.host]

/-- **A change of the membership is applied alike**, whatever the spelling. -/
theorem apply_alike (hself : self.Same self') (he : e.Same e') :
    (apply self policy e).Alike Request.Alike Eq (apply self' policy e') := by
  unfold apply
  rw [isOwn_eq hself he]
  split
  · exact .done rfl
  · cases he with
    | put he => exact addWithin_alike he.host
    | delete he => exact (tunnel_alike (Tunnel.delPeer_alike he.host)).map fun _ _ _ => rfl

/-! ## Acts -/

/-- What changes the peers of an agent: a call, or a change of the membership. -/
inductive Act where
  /-- A call. -/
  | call (c : Tunnel.Call)
  /-- A change of the membership. -/
  | event (e : EdgeEvent)

/-- What an act comes to. -/
inductive Outcome where
  /-- A call has returned. -/
  | replied (r : Tunnel.Reply)
  /-- A change of the membership was passed over, or applied. -/
  | heard (ignored : Bool)

namespace Act

/-- The program of an act. -/
def program (self : Edge) (policy : RetryPolicy) : Act → Work Outcome
  | call c => .replied <$> tunnel c.program
  | event e => (fun _ => .heard (isOwn self e)) <$> apply self policy e

/-- The acts differ at most in how hosts spell their networks. -/
inductive Same : Act → Act → Prop where
  | call {c c' : Tunnel.Call} : c.Same c' → Same (.call c) (.call c')
  | event {e e' : EdgeEvent} : e.Same e' → Same (.event e) (.event e')

end Act

/-- The outcomes are of the same kind, up to how hosts spell their networks. -/
inductive Outcome.Same : Outcome → Outcome → Prop where
  | replied {r r' : Tunnel.Reply} : r.Same r' → Same (.replied r) (.replied r')
  | heard (ignored : Bool) : Same (.heard ignored) (.heard ignored)

theorem Act.alike {a a' : Act} (hself : self.Same self') (ha : a.Same a') :
    (a.program self policy).Alike Request.Alike Outcome.Same (a'.program self' policy) := by
  cases ha with
  | call hc => exact (tunnel_alike (Tunnel.Call.alike hc)).map fun _ _ hr => .replied hr
  | event he =>
      refine (apply_alike hself he).map fun _ _ _ => ?_
      rw [isOwn_eq hself he]
      exact .heard _

/-- An act as a task. -/
def Act.task (self : Edge) (policy : RetryPolicy) (a : Act) : Task interface Outcome :=
  .once (a.program self policy)

/-- The acts as the tasks of an agent. -/
def acting (self : Edge) (policy : RetryPolicy) (acts : List Act) (s : State σ) :
    System interface (State σ) Outcome :=
  ⟨s, acts.map (Act.task self policy)⟩

/-! ## Runs in two spellings -/

/-- The command that is given in an exchange. -/
def command? (x : Exchange interface) : Option (RouteAction × Subnet) :=
  match x.request with
  | .tunnel (.issue action n) => some (action, n)
  | _ => none

/-- The commands that were given, the oldest first. -/
def commands (tr : List (Exchange interface)) : List (RouteAction × Subnet) :=
  tr.filterMap command?

/-- Like exchanges give the same command, or none. -/
theorem command?_alike {x x' : Exchange interface} (h : Exchange.Alike Request.Alike x x') :
    Option.Rel Eq (command? x) (command? x') := by
  obtain ⟨i, r, y⟩ := x
  obtain ⟨i', r', y'⟩ := x'
  obtain ⟨-, A, hr, -⟩ := h
  change Request.Alike r r' A at hr
  unfold command?
  cases hr with
  | tunnel hr =>
      cases hr with
      | plain hplain =>
          cases hplain with
          | issue => exact .some rfl
          | _ => exact .none
      | _ => exact .none
  | draw | pause => exact .none

theorem commands_eq {tr tr' : List (Exchange interface)}
    (htr : List.Forall₂ (Exchange.Alike Request.Alike) tr tr') : commands tr = commands tr' := by
  have hcommand :
      Relator.LiftFun (Exchange.Alike Request.Alike) (Option.Rel Eq) command? command? :=
    fun _ _ hx => command?_alike hx
  have hcommands : List.Forall₂ Eq (commands tr) (commands tr') := List.rel_filterMap hcommand htr
  rwa [List.forall₂_eq_eq_eq] at hcommands

/-- The networks of a table and the connections behind them: their numbers, the addresses that
    they were made to, and the addresses that datagrams go to. -/
def targets (t : RouteTable) : List (Subnet × Nat × String × SocketAddress) :=
  t.peers.map fun p => (p.network, p.id, p.host.address, p.remote)

theorem targets_eq {t t' : RouteTable} (ht : t.Same t') : targets t = targets t' :=
  ht.map_eq fun p p' hp => by rw [hp.network, hp.id, hp.host.address, hp.remote]

/-- Two runs have given the same commands and have come to tables with the same networks and
    connections, and their acts to outcomes of the same kind, or to none yet. -/
structure SameRun (y y' : List (Exchange interface) × System interface (State σ) Outcome) :
    Prop where
  commands : commands y.1 = commands y'.1
  targets : targets y.2.state.server.table = targets y'.2.state.server.table
  outcomes : List.Forall₂ (Option.Rel Outcome.Same) (y.2.tasks.map Task.result?)
    (y'.2.tasks.map Task.result?)

theorem State.Same.refl (s : State σ) : s.Same s :=
  ⟨s.server, ⟨s.server.table, List.forall₂_same.mpr fun p _ => .refl p, rfl⟩, rfl⟩

theorem Act.Same.refl (a : Act) : a.Same a := by
  cases a with
  | call c => exact .call (.refl c)
  | event e =>
      cases e with
      | put edge => exact .event (.put (.refl edge))
      | delete edge => exact .event (.delete (.refl edge))

/-- Acts that differ in spelling run alike. -/
theorem sameRun_of_same {acts acts' : List Act} (hself : self.Same self')
    (hacts : List.Forall₂ Act.Same acts acts') (hs : s.Same s') (ids : List TaskId) :
    Option.Rel SameRun ((acting self policy acts s).play (State.machine around) ids)
      ((acting self' policy acts' s').play (State.machine around) ids) := by
  have halike : (acting self policy acts s).Alike Request.Alike State.Same Outcome.Same
      (acting self' policy acts' s') :=
    ⟨hs, List.rel_map (fun _ _ ha => .once (Act.alike hself ha)) hacts⟩
  have hrespects : (State.machine around).Respects Request.Alike State.Same := machine_respects
  have hplayed := System.play_alike hrespects halike ids
  generalize (acting self policy acts s).play (State.machine around) ids = y,
    (acting self' policy acts' s').play (State.machine around) ids = y' at hplayed ⊢
  cases hplayed with
  | none => exact .none
  | some hy =>
      obtain ⟨htr, hstate, htasks⟩ := hy
      obtain ⟨_, ⟨table, htable, rfl⟩, hstate⟩ := hstate
      refine .some ⟨commands_eq htr, ?_, List.rel_map (fun _ _ ha => ha.result?) htasks⟩
      rw [hstate]
      exact targets_eq htable

/-! ## One entry for each network -/

/-- The states that an agent without peers comes to: acts begin at any time and take their steps
    in any order, and what else happens leaves the peers alone, up to their order. -/
def Comes (around : Around σ) (t : System interface (State σ) Outcome) : Prop :=
  ∃ s : State σ, s.server.table = .empty ∧
    System.Reaches (State.machine around) (fun a => ∃ self policy act, a = Act.task self policy act)
      (fun u v => v.server.table.peers.Perm u.server.table.peers) ⟨s, []⟩ t

theorem possible_of_answer {id : TaskId} {r : Request} {x : r.Answer}
    (hx : s.answer around id r = some (x, s')) : Request.Alike.asking.Possible r x :=
  Machine.Respects.possible machine_respects (State.Same.refl s) hx

/-- What an act asks for keeps the peers canonical. -/
theorem canonical_of_answer {id : TaskId} {r : Request} {x : r.Answer}
    (hr : ∃ r' A, Request.Alike r r' A) (hx : s.answer around id r = some (x, s'))
    (hs : s.server.table.Canonical) : s'.server.table.Canonical := by
  obtain ⟨r', A, hr⟩ := hr
  rw [table_of_answer hx]
  cases hr with
  | tunnel hr => exact Tunnel.canonical_tableAfter hr hs
  | draw | pause => exact hs

/-- An act asks for nothing else. -/
theorem act_keeps {act : Act} :
    (act.task self policy).Keeps Request.Alike.asking (fun _ _ => True) () :=
  (Act.alike (.refl self) (.refl act)).keeps

/-- **Every table is canonical.** -/
theorem Comes.canonical {t : System interface (State σ) Outcome} (h : Comes around t) :
    t.state.server.table.Canonical := by
  obtain ⟨s, hs, hreaches⟩ := h
  obtain ⟨tr, hruns⟩ := hreaches.runs
  have hstart : (⟨s, []⟩ : System interface (State σ) Outcome).Keeps Request.Alike.asking
      (fun _ _ => True) () fun _ => () := by
    refine ⟨?_, fun _ => rfl⟩
    intro _ _ ha
    exact nomatch ha
  have hinit : s.server.table.Canonical := by
    rw [hs]
    exact RouteTable.canonical_empty
  obtain ⟨-, hcanonical, -⟩ := System.Runs.keeps (fun _ u _ => u.server.table.Canonical)
    possible_of_answer hstart hinit (fun _ hu hstep hx => canonical_of_answer hstep hx hu)
    (fun ⟨_, _, _, ha⟩ => ha ▸ act_keeps) (fun hu huv => hu.of_perm huv) hruns
  exact hcanonical

/-- What acts come to, an agent without peers comes to. -/
theorem comes_of_play {acts : List Act} {ids : List TaskId}
    {y : List (Exchange interface) × System interface (State σ) Outcome}
    (hs : s.server.table = .empty)
    (hplay : (acting self policy acts s).play (State.machine around) ids = some y) :
    Comes around y.2 := by
  refine ⟨s, hs, System.Runs.reaches (System.Runs.play (System.Runs.spawnAll .refl ?_) hplay)⟩
  intro a ha
  obtain ⟨act, -, rfl⟩ := List.mem_map.mp ha
  exact ⟨self, policy, act, rfl⟩

/-- **The spelling of a network does not matter.**  Two lists of acts that differ in how networks
    are spelled, the agent's own included, run alike in every order of their steps: after each
    step the same commands have been given, the tables have the same networks with the same
    connections, and the results are of the same kind.  And whatever an agent has done, a peer
    stands in its table under the network that its own host names, which has no host bits; two
    peers never have the same addresses. -/
theorem spelling_does_not_matter (around : Around σ) (self : Edge) (policy : RetryPolicy)
    (acts : List Act) (s : State σ) :
    (∀ self' acts' s', self.Same self' → List.Forall₂ Act.Same acts acts' → s.Same s' →
      ∀ ids, Option.Rel SameRun ((acting self policy acts s).play (State.machine around) ids)
        ((acting self' policy acts' s').play (State.machine around) ids)) ∧
    ∀ t, Comes around t →
      (∀ n p, t.state.server.table.get? n = some p →
        n.network = n ∧ p.network = n ∧ p.host.network = .ok n) ∧
      ∀ p ∈ t.state.server.table.peers, ∀ q ∈ t.state.server.table.peers,
        (∀ a, p.network.Covers a ↔ q.network.Covers a) → p = q := by
  refine ⟨fun self' acts' s' hself hacts hs => sameRun_of_same hself hacts hs, fun t ht => ?_⟩
  have hcanonical := ht.canonical
  refine ⟨?_, ?_⟩
  · intro n p hp
    obtain ⟨hmem, rfl⟩ := RouteTable.get?_eq_some_iff.mp hp
    have hnetwork := hcanonical p hmem
    exact ⟨Host.network_network hnetwork, rfl, hnetwork⟩
  · intro p hp q hq hcovers
    have heq : p.network = q.network :=
      Subnet.eq_of_covers_iff (Host.network_network (hcanonical p hp))
        (Host.network_network (hcanonical q hq)) hcovers
    exact List.inj_on_of_nodup_map t.state.server.table.nodup hp hq heq

/-- A host is added, its network moves to another edge, and a change that names the agent's own
    network is passed over.  The same acts in other spellings run alike, and leave one peer for
    the network. -/
theorem spelling_does_not_matter_for_aliases :
    ∃ (self self' : Edge) (acts acts' : List Act) (s : State AgentScene) (ids : List TaskId)
      (y y' : List (Exchange interface) × System interface (State AgentScene) Outcome) (n : Subnet)
      (p : Peer),
      self.cidr ≠ self'.cidr ∧ List.Forall₂ Act.Same acts acts' ∧ acts.length = 3 ∧
      (acting self {} acts s).play (State.machine sceneAround) ids = some y ∧
      (acting self' {} acts' s).play (State.machine sceneAround) ids = some y' ∧ SameRun y y' ∧
      commands y.1 = [(.del, n), (.add, n), (.del, n), (.add, n)] ∧ Comes sceneAround y'.2 ∧
      y'.2.state.server.table.get? n = some p ∧ p.host = ⟨"192.0.2.3:7000", "010.1.0.0/16"⟩ ∧
      n.network = n ∧ p.network = n ∧ p.host.network = .ok n := by
  let n : Subnet := ⟨.ofOctets 10 1 0 0, 16, by decide⟩
  let own : Subnet := ⟨.ofOctets 10 9 0 0, 16, by decide⟩
  let edge (name cidr : String) : Edge := ⟨name, "192.0.2.3:7000", cidr⟩
  let me (cidr : String) : Edge := ⟨"edge-a", "192.0.2.1:7000", cidr⟩
  let acts (first second third : String) : List Act :=
    [.call (.add ⟨"192.0.2.2:7000", first⟩), .event (.put (edge "edge-b" second)),
      .event (.put (edge "edge-c" third))]
  let ours := acts "10.1.0.0/16" "10.1.2.3/16" "10.9.8.8/16"
  let others := acts " 10.1.7.9/16" "010.1.0.0/16" "10.9.0.0/16 "
  let s : State AgentScene := Rehearsal.state
    { device := "loom0", scene := { reach := .everything, device := .channel {} } }
  let ids : List TaskId := List.replicate 10 0 ++ List.replicate 10 1
  -- what the texts name
  have hreads : ["10.1.0.0/16", " 10.1.7.9/16", "10.1.2.3/16", "010.1.0.0/16"].map
        (fun cidr => Cidr.read? cidr.toList) = List.replicate 4 (some n) ∧
      ["10.9.0.0/16", "10.9.0.1/16", "10.9.8.8/16", "10.9.0.0/16 "].map
        (fun cidr => Cidr.read? cidr.toList) = List.replicate 4 (some own) := by
    decide +kernel
  simp only [List.map_cons, List.map_nil, List.replicate_succ, List.replicate_zero, List.cons.injEq,
    and_true] at hreads
  obtain ⟨⟨h₁, h₁', h₂, h₂'⟩, hme, hme', h₃, h₃'⟩ := hreads
  have hsame : ∀ {address cidr cidr' : String} {m : Subnet}, Cidr.read? cidr.toList = some m →
      Cidr.read? cidr'.toList = some m → Host.Same ⟨address, cidr⟩ ⟨address, cidr'⟩ :=
    fun hcidr hcidr' =>
      Host.same_of_network rfl (Cidr.read_of_read? hcidr) (Cidr.read_of_read? hcidr')
  have hself : (me "10.9.0.0/16").Same (me "10.9.0.1/16") := ⟨rfl, hsame hme hme'⟩
  have hacts : List.Forall₂ Act.Same ours others :=
    .cons (.call (.add (hsame h₁ h₁'))) (.cons (.event (.put ⟨rfl, hsame h₂ h₂'⟩))
      (.cons (.event (.put ⟨rfl, hsame h₃ h₃'⟩)) .nil))
  -- one of the runs
  have hfinds : ((acting (me "10.9.0.1/16") {} others s).play (State.machine sceneAround) ids).any
      (fun (tr, t) => decide (commands tr = [(.del, n), (.add, n), (.del, n), (.add, n)] ∧
        (t.state.server.table.get? n).map Peer.host = some (edge "edge-b" "010.1.0.0/16").host)) =
          true := by
    decide +kernel
  obtain ⟨y', hplay', hfacts⟩ := (Option.any_eq_true _ _).mp hfinds
  obtain ⟨hcommands, hhost⟩ := of_decide_eq_true hfacts
  obtain ⟨p, hp, hhost⟩ := Option.map_eq_some_iff.mp hhost
  obtain ⟨halike, hentries⟩ := spelling_does_not_matter sceneAround (me "10.9.0.0/16") {} ours s
  have hruns := halike (me "10.9.0.1/16") others s hself hacts (.refl s) ids
  rw [hplay'] at hruns
  -- the other one goes just as far
  obtain ⟨y, hplay, hrun⟩ := exists_of_optionRel_some hruns
  have hcomes : Comes sceneAround y'.2 := comes_of_play rfl hplay'
  exact ⟨_, _, ours, others, s, ids, y, y', n, p, by decide, hacts, rfl, hplay, hplay', hrun,
    hrun.commands.trans hcommands, hcomes, hp, hhost, (hentries y'.2 hcomes).1 n p hp⟩

end Agent

end Overlay
