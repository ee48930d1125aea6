import Overlay.Proofs.Net.Subnet
import Overlay.Proofs.Tunnel.Outbound
import Overlay.Simulation.Scene

/-!
# Exact forwarding

A `Session` is what happens to a server one thing after the other: calls that change its
peers, and packets that the outbound loop reads from the device.  The table of the server
has a peer for a network exactly as the latest addition that succeeded for the network left
it (`Latest`), whatever else was added, refused or deleted since.

`Session.exact_forwarding` says what is sent in a session and what becomes of the next
packet.  Packets go to peers whose network has the destination, each at most once and in the
order in which they were read.  The next packet goes to the one network that has its
destination; it goes nowhere when there is none, or when it is not valid.
-/

namespace Overlay.Tunnel

variable {σ : Type} {around : Surroundings σ} {device : String} {w : σ} {id : TaskId}
  {s s' : Server σ} {tr : List (Exchange interface)}

/-! ## Sessions -/

/-- What has happened to a server without peers, one thing at a time. -/
inductive Session (around : Surroundings σ) (device : String) (w : σ) :
    List (Exchange interface) → Server σ → Prop where
  /-- Nothing. -/
  | start : Session around device w [] { device, outside := w }
  /-- A call was made and has returned. -/
  | call {c : Call} {reply : Reply} {id : TaskId} {tr tr' : List (Exchange interface)}
      {s s' : Server σ} :
      Session around device w tr s → Performs around Drifts id c.program s tr' reply s' →
        Session around device w (tr ++ tr') s'
  /-- The outbound loop has read a packet and dealt with it. -/
  | packet {p : Packet} {r : Option Ending} {id : TaskId} {tr tr' : List (Exchange interface)}
      {s s' : Server σ} :
      Session around device w tr s → p ≠ [] →
        Performs around Drifts id outboundRun s
          (⟨id, .arrival .outbound, .read (.ok p)⟩ :: tr') r s' →
        Session around device w (tr ++ ⟨id, .arrival .outbound, .read (.ok p)⟩ :: tr') s'

/-! ## The latest addition -/

/-- The connection was made by the latest addition that succeeded for the network. -/
structure Latest (around : Surroundings σ) (tr : List (Exchange interface)) (n : Subnet)
    (p : Peer) : Prop where
  network : p.network = n
  addition : ∃ (id : TaskId) (before during after : List (Exchange interface)) (u v : Server σ),
    tr = before ++ during ++ after ∧ p.host.network = .ok n ∧
      Performs around Drifts id (addPeer p.host) u during (.ok ()) v ∧
      ⟨id, .connect n p.host, .ok p⟩ ∈ during ∧ n ∉ additions after

/-- It stays the latest one until another one succeeds. -/
theorem Latest.append {n : Subnet} {p : Peer} (h : Latest around tr n p)
    {tr' : List (Exchange interface)} (hn : n ∉ additions tr') :
    Latest around (tr ++ tr') n p := by
  obtain ⟨id, before, during, after, u, v, rfl, hhost, hperforms, hconnect, hafter⟩ := h.addition
  refine ⟨h.network, id, before, during, after ++ tr', u, v, ?_, hhost, hperforms, hconnect, ?_⟩
  · rw [List.append_assoc]
  · rw [additions_append, List.mem_append]
    exact not_or.mpr ⟨hafter, hn⟩

/-- The table has the connections of the latest additions. -/
def Tracks (around : Surroundings σ) (tr : List (Exchange interface)) (t : RouteTable) : Prop :=
  ∀ n p, t.get? n = some p → Latest around tr n p

/-- A connection adds at most the route of its own network. -/
theorem Connects.additions_eq {n : Subnet} {h : Host} {t t' : RouteTable}
    {r : Except TunnelError Unit} (hc : Connects id n h t tr r t') :
    additions tr = [] ∨ additions tr = [n] := by
  cases hc with
  | failed | refused => exact Or.inl rfl
  | routed => exact Or.inr rfl

/-- Peers that nobody has changed are still those of the latest additions. -/
theorem Tracks.keep {t t' : RouteTable} (h : Tracks around tr t) {tr' : List (Exchange interface)}
    (hadditions : additions tr' = []) (hkept : ∀ n p, t'.get? n = some p → t.get? n = some p) :
    Tracks around (tr ++ tr') t' := by
  intro n p hp
  refine (h n p (hkept n p hp)).append ?_
  rw [hadditions]
  exact List.not_mem_nil

theorem Tracks.addPeer (h : Tracks around tr s.table) {host : Host}
    {tr' : List (Exchange interface)} {r : Except TunnelError Unit}
    (hp : Performs around Drifts id (addPeer host) s tr' r s') :
    Tracks around (tr ++ tr') s'.table := by
  rcases hp.addPeer_inv keepsTable_drifts with
    ⟨e, hn, rfl, rfl, rfl⟩ | ⟨n, y, connecting, hn, rfl, hc⟩
  · rw [List.append_nil]
    exact h
  · intro m p hm
    by_cases hne : m = n
    · subst hne
      have hnone : (s.table.erase m).get? m = none := by
        rw [RouteTable.get?_erase, if_pos rfl]
      rcases hc.get?_eq hnone with ⟨rfl, q, hq, hnetwork, rfl, hconnect⟩ | ⟨-, hgone⟩
      · obtain rfl : q = p := Option.some.inj (hq.symm.trans hm)
        refine ⟨hnetwork, id, tr, _, [], s, s', (List.append_nil _).symm, hn, hp, ?_,
          List.not_mem_nil⟩
        exact mem_locked (List.mem_append_right _ hconnect)
      · exact nomatch hgone.symm.trans hm
    · rw [hc.get?_of_ne hne, RouteTable.get?_erase, if_neg hne] at hm
      refine (h m p hm).append ?_
      have hadditions : additions (locked id (removal id n (s.table.get? n) y ++ connecting)) =
          additions connecting := additions_locked id _
      rw [hadditions]
      rcases hc.additions_eq with hnone | hone
      · rw [hnone]
        exact List.not_mem_nil
      · rw [hone, List.mem_singleton]
        exact hne

theorem Tracks.addPeers (h : Tracks around tr s.table) {hosts : List Host}
    {tr' : List (Exchange interface)} {failed : List (Host × TunnelError)}
    (hp : Performs around Drifts id (addPeers hosts) s tr' failed s') :
    Tracks around (tr ++ tr') s'.table := by
  obtain ⟨adds, -, -, hadds⟩ := hp.addPeers_inv
  clear hp
  induction hadds generalizing tr with
  | nil =>
      rw [List.append_nil]
      exact h
  | cons hfirst _ ih =>
      rw [← List.append_assoc]
      exact ih (h.addPeer hfirst)

/-- Every call leaves the connections of the latest additions. -/
theorem Tracks.call (h : Tracks around tr s.table) {c : Call} {reply : Reply}
    {tr' : List (Exchange interface)}
    (hp : Performs around Drifts id c.program s tr' reply s') :
    Tracks around (tr ++ tr') s'.table := by
  cases c with
  | add host =>
      obtain ⟨_, hp, -⟩ := hp.map_inv
      exact h.addPeer hp
  | addAll hosts =>
      obtain ⟨_, hp, -⟩ := hp.map_inv
      exact h.addPeers hp
  | del host =>
      obtain ⟨_, hp, -⟩ := hp.map_inv
      rcases hp.delPeer_inv keepsTable_drifts with ⟨e, -, -, rfl, rfl⟩ | ⟨n, y, -, -, rfl, ht⟩
      · rw [List.append_nil]
        exact h
      · refine h.keep ?_ ?_
        · exact additions_locked id _
        · intro m p hm
          rw [ht, RouteTable.get?_erase] at hm
          by_cases hne : m = n
          · rw [if_pos hne] at hm
            exact nomatch hm
          · rw [if_neg hne] at hm
            exact hm
  | clear =>
      obtain ⟨_, hp, -⟩ := hp.map_inv
      obtain ⟨hadditions, hnone⟩ := hp.clearPeers_inv keepsTable_drifts
      refine h.keep hadditions ?_
      intro m p hm
      exact nomatch (hnone m).symm.trans hm
  | route a =>
      obtain ⟨_, hp, -⟩ := hp.map_inv
      obtain ⟨u, _, hu, rfl, hlast⟩ := hp.lookup_inv
      obtain ⟨rfl, -, rfl⟩ := Performs.done_inv hlast
      refine h.keep rfl ?_
      intro m p hm
      rwa [hu.table_eq] at hm

/-! ## What a session has sent -/

/-- Calls read no packets and send none. -/
theorem Call.no_packets {c : Call} {reply : Reply}
    (hp : Performs around Drifts id c.program s tr reply s') :
    sends tr = [] ∧ arrivals tr = [] := by
  have hkeeps : c.task.Keeps (changing fun r => ∃ a, r = .lookup a)
      (fun q _ => q = Phase.outside) Phase.outside := Call.keeps (Or.inr fun a => ⟨a, rfl⟩)
  have hsteps := hp.steps (fun _ _ h => h) hkeeps
  refine ⟨List.filterMap_eq_nil_iff.mpr ?_, List.filterMap_eq_nil_iff.mpr ?_⟩
  · rintro ⟨i, r, x⟩ he
    obtain ⟨q, q', hstep⟩ := hsteps _ he
    cases r with
    | send =>
        cases hstep with
        | aside hfree => exact nomatch hfree
    | _ => rfl
  · rintro ⟨i, r, x⟩ he
    obtain ⟨q, q', hstep⟩ := hsteps _ he
    cases r with
    | arrival =>
        cases hstep with
        | aside hfree => exact nomatch hfree
    | _ => rfl

/-- A packet is sent at most once, and then to the peer that the table has for its
    destination. -/
theorem Forwards.sends_eq {t : RouteTable} {p : Packet} {c : Counter}
    (h : Forwards id t p tr c) :
    sends tr = [] ∨ ∃ q d, sends tr = [(q, p)] ∧ p.validate = .ok () ∧
      p.destination? = some d ∧ t.lookup d = some q := by
  cases h with
  | invalid | noRoute => exact Or.inl rfl
  | sent x hvalid hsource hd hq => exact Or.inr ⟨_, _, rfl, hvalid, hd, hq⟩

theorem Forwards.additions_eq {t : RouteTable} {p : Packet} {c : Counter}
    (h : Forwards id t p tr c) : additions tr = [] := by
  cases h with
  | invalid | noRoute | sent => rfl

theorem Forwards.arrivals_eq {t : RouteTable} {p : Packet} {c : Counter}
    (h : Forwards id t p tr c) : arrivals tr = [] := by
  cases h with
  | invalid | noRoute | sent => rfl

/-- What holds in every session: the table has the connections of the latest additions, what
    was sent is valid and was sent where it belongs, and nothing was sent that had not been
    read before. -/
structure Sound (around : Surroundings σ) (tr : List (Exchange interface)) (s : Server σ) :
    Prop where
  tracks : Tracks around tr s.table
  right : ∀ q p, (q, p) ∈ sends tr →
    p.validate = .ok () ∧ ∃ d, p.destination? = some d ∧ q.network.Covers d
  order : ((sends tr).map Prod.snd).Sublist (arrivals tr)

theorem Sound.start : Sound around [] ({ device, outside := w } : Server σ) where
  tracks := fun _ _ h => nomatch h
  right := fun _ _ h => nomatch h
  order := List.Sublist.refl []

theorem Sound.call (h : Sound around tr s) {c : Call} {reply : Reply}
    {tr' : List (Exchange interface)} (hp : Performs around Drifts id c.program s tr' reply s') :
    Sound around (tr ++ tr') s' := by
  obtain ⟨hsends, harrivals⟩ := Call.no_packets hp
  refine ⟨h.tracks.call hp, ?_, ?_⟩
  · rw [sends_append, hsends, List.append_nil]
    exact h.right
  · rw [sends_append, arrivals_append, hsends, harrivals, List.append_nil, List.append_nil]
    exact h.order

theorem Sound.packet (h : Sound around tr s) {p : Packet} (hp : p ≠ []) {r : Option Ending}
    {tr' : List (Exchange interface)}
    (hrun : Performs around Drifts id outboundRun s
      (⟨id, .arrival .outbound, .read (.ok p)⟩ :: tr') r s') :
    Sound around (tr ++ ⟨id, .arrival .outbound, .read (.ok p)⟩ :: tr') s' := by
  obtain ⟨-, c, hforwards, hdrifts⟩ := hrun.outboundRun_inv hp
  have harrivals : arrivals (⟨id, .arrival .outbound, .read (.ok p)⟩ :: tr') = [p] := by
    show p :: arrivals tr' = [p]
    rw [hforwards.arrivals_eq]
  have hsends : sends (⟨id, .arrival .outbound, .read (.ok p)⟩ :: tr') = sends tr' := rfl
  refine ⟨?_, ?_, ?_⟩
  · refine h.tracks.keep hforwards.additions_eq ?_
    intro m q hm
    rwa [hdrifts.table_eq] at hm
  · intro q p' hmem
    rw [sends_append, hsends, List.mem_append] at hmem
    rcases hmem with hmem | hmem
    · exact h.right q p' hmem
    · rcases hforwards.sends_eq with hnone | ⟨q', d, hone, hvalid, hd, hlookup⟩
      · rw [hnone] at hmem
        exact absurd hmem List.not_mem_nil
      · rw [hone, List.mem_singleton] at hmem
        cases hmem
        obtain ⟨-, howns⟩ := RouteTable.get?_of_lookup hlookup
        exact ⟨hvalid, d, hd, Subnet.owns_iff_covers.mp howns⟩
  · rw [sends_append, arrivals_append, hsends, harrivals, List.map_append]
    refine h.order.append ?_
    rcases hforwards.sends_eq with hnone | ⟨q', d, hone, -⟩
    · rw [hnone]
      exact List.nil_sublist [p]
    · rw [hone]
      exact List.Sublist.refl [p]

theorem Session.sound (h : Session around device w tr s) : Sound around tr s := by
  induction h with
  | start => exact Sound.start
  | call _ hp ih => exact ih.call hp
  | packet _ hp hrun ih => exact ih.packet hp hrun

/-! ## The next packet -/

/-- What the next packet comes to: what is asked for after it has been read, and the server
    afterwards. -/
structure Dealt (around : Surroundings σ) (tr : List (Exchange interface)) (s : Server σ)
    (id : TaskId) (p : Packet) (tr' : List (Exchange interface)) (s' : Server σ) : Prop where
  table : s'.table = s.table
  invalid : p.validate ≠ .ok () →
    reports tr' = [] ∧ sends tr' = [] ∧ s'.stats = s.stats.bump .invalid
  valid : p.validate = .ok () → ∃ d, p.destination? = some d ∧
    ((∀ n ∈ s.table.networks, ¬n.Covers d) →
      sends tr' = [] ∧ s'.stats = s.stats.bump .noRoute) ∧
    ∀ n ∈ s.table.networks, n.Covers d → (∀ m ∈ s.table.networks, m.Covers d → m = n) →
      ∃ q x, s.table.get? n = some q ∧ Latest around tr n q ∧ sends tr' = [(q, p)] ∧
        ⟨id, .send q p, x⟩ ∈ tr' ∧ s'.stats = s.stats.bump (sentCounter x)

/-- A peer that is found for an address is that of a network in the table which has it. -/
theorem covers_of_lookup {t : RouteTable} {d : Ipv4} {q : Peer} (hq : t.lookup d = some q) :
    q.network ∈ t.networks ∧ q.network.Covers d := by
  obtain ⟨hget, howns⟩ := RouteTable.get?_of_lookup hq
  refine ⟨?_, Subnet.owns_iff_covers.mp howns⟩
  rw [RouteTable.mem_networks_iff, hget]
  exact Option.some_ne_none q

theorem Forwards.dealt {p : Packet} {c : Counter} {tr' : List (Exchange interface)}
    (h : Forwards id s.table p tr' c) (htracks : Tracks around tr s.table)
    (htable : s'.table = s.table) (hstats : s'.stats = s.stats.bump c) :
    Dealt around tr s id p tr' s' := by
  cases h with
  | invalid hinvalid =>
      exact ⟨htable, fun _ => ⟨rfl, rfl, hstats⟩, fun hvalid => absurd hvalid hinvalid⟩
  | @noRoute a d hvalid _ hd hnone =>
      refine ⟨htable, fun hinvalid => absurd hvalid hinvalid, fun _ => ⟨d, hd, ?_, ?_⟩⟩
      · exact fun _ => ⟨rfl, hstats⟩
      · intro n hn hcovers _
        exact absurd (Subnet.owns_iff_covers.mpr hcovers)
          (RouteTable.lookup_eq_none_iff.mp hnone n hn)
  | @sent a d q x hvalid _ hd hq =>
      obtain ⟨hmem, hcovers⟩ := covers_of_lookup hq
      refine ⟨htable, fun hinvalid => absurd hvalid hinvalid, fun _ => ⟨d, hd, ?_, ?_⟩⟩
      · intro hnone
        exact absurd hcovers (hnone _ hmem)
      · intro n _ _ honly
        obtain rfl : q.network = n := honly _ hmem hcovers
        have hget : s.table.get? q.network = some q := (RouteTable.get?_of_lookup hq).1
        exact ⟨q, x, hget, htracks _ q hget, rfl, List.mem_of_getElem? (i := 2) rfl, hstats⟩

/-- **Packets are forwarded exactly.**  What a session has handed to the sockets of peers is
    what it has read, to each peer in the order in which it was read, and every packet of it
    is valid and has a destination in the network of the peer.  The next packet is dealt with
    to the end: one that is not valid is counted and neither reported nor sent, one whose
    destination is in no network is counted and not sent, and one whose destination is in one
    network only is sent once, to the host of the latest addition that succeeded for it. -/
theorem Session.exact_forwarding (h : Session around device w tr s) :
    (∀ q p, (q, p) ∈ sends tr → p ∈ arrivals tr ∧ p.validate = .ok () ∧
      ∃ d, p.destination? = some d ∧ q.network.Covers d) ∧
    (∀ q, (sentTo q tr).Sublist (arrivals tr)) ∧
    ∀ id p, p ≠ [] →
      (∀ t u, Drifts s t → t.answer around id (.arrival .outbound) = some (.read (.ok p), u) →
        ∃ tr' s', Performs around Drifts id outboundRun s
          (⟨id, .arrival .outbound, .read (.ok p)⟩ :: tr') none s') ∧
      ∀ tr' r s', Performs around Drifts id outboundRun s
          (⟨id, .arrival .outbound, .read (.ok p)⟩ :: tr') r s' →
        r = none ∧ Dealt around tr s id p tr' s' := by
  have hsound := h.sound
  refine ⟨?_, ?_, ?_⟩
  · intro q p hmem
    have hread : p ∈ arrivals tr :=
      hsound.order.subset (List.mem_map.mpr ⟨(q, p), hmem, rfl⟩)
    exact ⟨hread, hsound.right q p hmem⟩
  · intro q
    exact (List.filter_sublist.map Prod.snd).trans hsound.order
  · intro id p hp
    refine ⟨fun t u ht hx => exists_outboundRun hp ht hx, ?_⟩
    intro tr' r s' hrun
    obtain ⟨hgoes, c, hforwards, v, hv⟩ := hrun.outboundRun_inv hp
    refine ⟨hgoes, hforwards.dealt hsound.tracks ?_ ?_⟩
    · rw [hv]
    · rw [hv]

/-- A host is added, and the device has a packet for an address behind it: the packet is sent
    to the host. -/
theorem Session.exact_forwarding_one :
    ∃ (w : Scene) (tr tr' : List (Exchange interface)) (s s' : Server Scene) (q : Peer)
      (p : Packet),
      Session Scene.around "loom0" w tr s ∧
      Performs Scene.around Drifts 1 outboundRun s
        (⟨1, .arrival .outbound, .read (.ok p)⟩ :: tr') none s' ∧
      sends tr' = [(q, p)] ∧ q.host = ⟨"192.0.2.1:7000", "10.1.0.0/16"⟩ := by
  let host : Host := ⟨"192.0.2.1:7000", "10.1.0.0/16"⟩
  let n : Subnet := ⟨.ofOctets 10 1 0 0, 16, by decide⟩
  let p : Packet :=
    [0x45, 0, 0, 20, 0, 0, 0, 0, 64, 17, 0, 0, 10, 0, 0, 2, 10, 1, 0, 5]
  let w : Scene := { reach := .everything, device := .channel { outgoing := [p] } }
  let added := (Call.add host).program.advance (Server.machine Scene.around) 0
    { device := "loom0", outside := w }
  obtain ⟨hdone, hpeers, hread⟩ : added.1.result?.isSome = true ∧
      added.2.table.peers.map (fun q => (q.network, q.host)) = [(n, host)] ∧
      (added.2.answer Scene.around 1 (.arrival .outbound)).any
        (fun y => arrivals [⟨1, .arrival .outbound, y.1⟩] = [p]) = true := by
    decide +kernel
  obtain ⟨reply, hreply⟩ := Option.isSome_iff_exists.mp hdone
  obtain ⟨tr, hperforms⟩ := Performs.of_result? Drifts.refl hreply
  have hsession : Session Scene.around "loom0" w ([] ++ tr) added.2 := .call .start hperforms
  obtain ⟨⟨y, u⟩, hy, hyp⟩ := (Option.any_eq_true _ _).mp hread
  have hnetworks : added.2.table.networks = [n] := by
    have hfirst := congrArg (List.map Prod.fst) hpeers
    rw [List.map_map] at hfirst
    exact hfirst
  obtain ⟨-, -, hnext⟩ := hsession.exact_forwarding
  obtain ⟨hends, hdealt⟩ := hnext 1 p (by decide)
  obtain rfl : y = .read (.ok p) := eq_read_of_arrivals (of_decide_eq_true hyp)
  obtain ⟨tr', s', hrun⟩ := hends _ u (Drifts.refl _) hy
  obtain ⟨-, hdealt⟩ := hdealt tr' none s' hrun
  obtain ⟨d, hd, -, howned⟩ := hdealt.valid (by decide)
  obtain rfl : d = .ofOctets 10 1 0 5 := Option.some.inj (hd.symm.trans (by decide))
  have honly : ∀ m ∈ added.2.table.networks, m.Covers (.ofOctets 10 1 0 5) → m = n := by
    intro m hm _
    rw [hnetworks] at hm
    exact List.mem_singleton.mp hm
  have hn : n ∈ added.2.table.networks := by
    rw [hnetworks]
    exact List.mem_cons_self
  obtain ⟨q, x, hget, -, hsends, -⟩ := howned n hn (by unfold Subnet.Covers; decide) honly
  have hpeer : (q.network, q.host) ∈ added.2.table.peers.map fun q => (q.network, q.host) :=
    List.mem_map.mpr ⟨q, List.mem_of_find?_eq_some hget, rfl⟩
  rw [hpeers, List.mem_singleton] at hpeer
  exact ⟨w, _, tr', added.2, s', q, p, hsession, hrun, hsends, (Prod.mk.inj hpeer).2⟩

end Overlay.Tunnel
