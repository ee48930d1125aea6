import Overlay.Proofs.Route.Table
import Overlay.Proofs.Task.Likeness
import Overlay.Proofs.Tunnel.Call

/-!
# The spelling of a network

A host names its network by a text, and many texts name the same network.  Here two runs of a
server go on side by side whose hosts differ in these texts alone: `Request.Alike` says what
the one asks for beside the other.  Nothing that the server does depends on a text
(`answer_alike`), and the operations on the peers ask for the same things up to the texts
(`Call.alike`).

What is inserted into a table is canonical: a peer stands under the network that its own host
names, and so without host bits.
-/

namespace Overlay

/-- The hosts differ at most in how they spell their network. -/
structure Host.Same (h h' : Host) : Prop where
  address : h.address = h'.address
  network : ∀ n, h.network = .ok n ↔ h'.network = .ok n

/-- The same connection, to hosts that differ at most in how they spell their network. -/
structure Peer.Same (p p' : Peer) : Prop where
  id : p.id = p'.id
  network : p.network = p'.network
  host : p.host.Same p'.host
  remote : p.remote = p'.remote

/-- The peer has the network that its host names. -/
def Peer.Canonical (p : Peer) : Prop := p.host.network = .ok p.network

theorem Host.Same.refl (h : Host) : h.Same h := ⟨rfl, fun _ => Iff.rfl⟩

theorem Peer.Same.refl (p : Peer) : p.Same p := ⟨rfl, rfl, .refl p.host, rfl⟩

theorem Host.same_of_network {h h' : Host} {n : Subnet} (haddress : h.address = h'.address)
    (hn : h.network = .ok n) (hn' : h'.network = .ok n) : h.Same h' := by
  refine ⟨haddress, fun m => ?_⟩
  rw [hn, hn']

/-- The network that a host names has no host bits. -/
theorem Host.network_network {h : Host} {n : Subnet} (hn : h.network = .ok n) : n.network = n := by
  unfold Host.network Cidr.read at hn
  split at hn
  · rename_i m hm
    obtain ⟨k, -, rfl⟩ := Option.map_eq_some_iff.mp hm
    cases hn
    exact k.network_network
  · exact nomatch hn

/-- Hosts that spell the same network name the same one, or both none. -/
theorem Host.Same.cases {h h' : Host} (hsame : h.Same h') :
    (∃ n, h.network = .ok n ∧ h'.network = .ok n) ∨
      ∃ e e', h.network = .error e ∧ h'.network = .error e' := by
  cases hn : h.network with
  | ok n => exact Or.inl ⟨n, rfl, (hsame.network n).mp hn⟩
  | error e =>
      cases hn' : h'.network with
      | ok n => exact nomatch hn.symm.trans ((hsame.network n).mpr hn')
      | error e' => exact Or.inr ⟨e, e', rfl, rfl⟩

namespace RouteTable

/-- The same peers in the same order, up to how their hosts spell their networks. -/
def Same (t t' : RouteTable) : Prop := List.Forall₂ Peer.Same t.peers t'.peers

/-- All peers are canonical. -/
def Canonical (t : RouteTable) : Prop := ∀ p ∈ t.peers, p.Canonical

variable {t t' : RouteTable} {p p' : Peer}

/-- What does not depend on spelling is the same for the peers of both tables. -/
theorem Same.map_eq {β : Type} (h : t.Same t') {f : Peer → β}
    (hf : ∀ p p', p.Same p' → f p = f p') : t.peers.map f = t'.peers.map f := by
  have hmap : List.Forall₂ Eq (t.peers.map f) (t'.peers.map f) := List.rel_map hf h
  rwa [List.forall₂_eq_eq_eq] at hmap

theorem Same.networks (h : t.Same t') : t.networks = t'.networks :=
  h.map_eq fun _ _ hp => hp.network

/-- The first peer with a property that does not depend on spelling. -/
theorem find?_same {l l' : List Peer} {f : Peer → Bool} (h : List.Forall₂ Peer.Same l l')
    (hf : ∀ p p', p.Same p' → f p = f p') : Option.Rel Peer.Same (l.find? f) (l'.find? f) := by
  induction h with
  | nil => exact .none
  | @cons p p' _ _ hp _ ih =>
      rw [List.find?_cons, List.find?_cons, ← hf p p' hp]
      cases f p with
      | true => exact .some hp
      | false => exact ih

theorem Same.get? (h : t.Same t') (n : Subnet) :
    Option.Rel Peer.Same (t.get? n) (t'.get? n) :=
  find?_same h fun p p' hp => by rw [hp.network]

theorem Same.lookup (h : t.Same t') (a : Ipv4) :
    Option.Rel Peer.Same (t.lookup a) (t'.lookup a) :=
  find?_same h fun p p' hp => by rw [Peer.owns, Peer.owns, hp.network]

theorem Same.erase (h : t.Same t') (n : Subnet) : (t.erase n).Same (t'.erase n) := by
  refine List.rel_filter (R := Peer.Same) ?_ h
  intro p p' hp
  show decide (p.network ≠ n) = true ↔ decide (p'.network ≠ n) = true
  rw [hp.network]

theorem Same.insert (h : t.Same t') (hp : p.Same p') : (t.insert p).2.Same (t'.insert p').2 := by
  refine List.Forall₂.cons hp ?_
  rw [hp.network]
  exact h.erase p'.network

theorem Same.removeSame (h : t.Same t') (n : Subnet) (hp : p.Same p') :
    Option.Rel Peer.Same (t.removeSame n p).1 (t'.removeSame n p').1 ∧
      (t.removeSame n p).2.Same (t'.removeSame n p').2 := by
  have hget := h.get? n
  unfold RouteTable.removeSame RouteTable.remove
  generalize t.get? n = q, t'.get? n = q' at hget ⊢
  cases hget with
  | none => exact ⟨.none, h⟩
  | @some q q' hq =>
      simp only [hp.id, hq.id]
      by_cases hid : q'.id = p'.id
      · rw [if_pos hid, if_pos hid]
        exact ⟨.some hq, h.erase n⟩
      · rw [if_neg hid, if_neg hid]
        exact ⟨.none, h⟩

theorem canonical_empty : empty.Canonical := fun _ hp => absurd hp List.not_mem_nil

theorem Canonical.of_perm (h : t.Canonical) (hperm : t'.peers.Perm t.peers) : t'.Canonical :=
  fun p hp => h p (hperm.mem_iff.mp hp)

theorem Canonical.erase (h : t.Canonical) (n : Subnet) : (t.erase n).Canonical :=
  fun p hp => h p (List.mem_of_mem_filter hp)

theorem Canonical.insert (h : t.Canonical) (hp : p.Canonical) : (t.insert p).2.Canonical := by
  intro q hq
  rcases List.mem_cons.mp hq with rfl | hq
  · exact hp
  · exact h.erase p.network q hq

theorem Canonical.removeSame (h : t.Canonical) (n : Subnet) (p : Peer) :
    (t.removeSame n p).2.Canonical := by
  unfold RouteTable.removeSame
  split
  · split
    · exact h.erase n
    · exact h
  · exact h

end RouteTable

namespace Tunnel

/-! ## What a server is asked for -/

/-- The outcomes of an operation: both are a success, or both are a failure. -/
inductive SameOutcome {ε α β : Type} (E : ε → ε → Prop) (R : α → β → Prop) :
    Except ε α → Except ε β → Prop where
  | ok {a : α} {b : β} : R a b → SameOutcome E R (.ok a) (.ok b)
  | error {e e' : ε} : E e e' → SameOutcome E R (.error e) (.error e')

/-- The requests that have to do with no host. -/
inductive Request.Plain : Request → Prop where
  | queue : Plain .queue
  | lock : Plain .lock
  | unlock : Plain .unlock
  | networks : Plain .networks
  | issue (action : RouteAction) (n : Subnet) : Plain (.issue action n)
  | outcome (action : RouteAction) (n : Subnet) : Plain (.outcome action n)

/-- The requests and the answers differ at most in how hosts spell their networks, and what is
    inserted is canonical. -/
inductive Request.Alike : Likeness interface where
  | plain {r : Request} : r.Plain → Alike r r Eq
  | remove (n : Subnet) : Alike (.remove n) (.remove n) (Option.Rel Peer.Same)
  | insert {p p' : Peer} : p.Same p' → p.Canonical →
      Alike (.insert p) (.insert p') (Option.Rel Peer.Same)
  | removeSame (n : Subnet) {p p' : Peer} : p.Same p' →
      Alike (.removeSame n p) (.removeSame n p') (Option.Rel Peer.Same)
  | lookup (a : Ipv4) : Alike (.lookup a) (.lookup a) (Option.Rel Peer.Same)
  | connect (n : Subnet) {h h' : Host} : h.Same h' →
      Alike (.connect n h) (.connect n h')
        (SameOutcome Eq fun p p' => p.Same p' ∧ p.network = n ∧ p.host = h)

end Tunnel

/-- The servers differ at most in how the hosts of their peers spell their networks. -/
def Server.Same {σ : Type} (s s' : Server σ) : Prop :=
  ∃ table, s.table.Same table ∧ s' = { s with table }

namespace Tunnel

variable {σ α : Type} {around : Surroundings σ} {id : TaskId} {s s' : Server σ} {n : Subnet}
  {h h' : Host}

/-- **A server answers alike**, whatever the spelling. -/
theorem answer_alike {r r' : Request} {A : r.Answer → r'.Answer → Prop} (hr : r.Alike r' A)
    (hs : s.Same s') :
    Option.Rel (fun y y' => A y.1 y'.1 ∧ y.2.Same y'.2) (s.answer around id r)
      (s'.answer around id r') := by
  obtain ⟨table, htable, rfl⟩ := hs
  cases hr with
  | plain hplain =>
      cases hplain with
      | lock =>
          simp only [Server.answer]
          split
          · exact .some ⟨trivial, table, htable, rfl⟩
          · exact .none
      | networks => exact .some ⟨htable.networks, table, htable, rfl⟩
      | outcome action n =>
          simp only [Server.answer]
          cases around.outcome action n s.device s.outside with
          | none => exact .none
          | some y => exact .some ⟨rfl, table, htable, rfl⟩
      | queue | unlock | issue => exact .some ⟨rfl, table, htable, rfl⟩
  | remove n => exact .some ⟨htable.get? n, _, htable.erase n, rfl⟩
  | @insert p p' hp =>
      refine .some ⟨?_, _, htable.insert hp, rfl⟩
      show Option.Rel Peer.Same (s.table.get? p.network) (table.get? p'.network)
      rw [← hp.network]
      exact htable.get? p.network
  | removeSame n hp =>
      obtain ⟨hremoved, hleft⟩ := htable.removeSame n hp
      exact .some ⟨hremoved, _, hleft, rfl⟩
  | lookup a => exact .some ⟨htable.lookup a, table, htable, rfl⟩
  | @connect n h h' hh =>
      simp only [Server.answer, hh.address]
      rcases around.connect h'.address s.outside with ⟨a | e, w⟩
      · exact .some ⟨.error rfl, table, htable, rfl⟩
      · exact .some ⟨.ok ⟨⟨rfl, rfl, hh, rfl⟩, rfl, rfl⟩, table, htable, rfl⟩

/-- What is asked for keeps the peers canonical. -/
theorem canonical_tableAfter {r r' : Request} {A : r.Answer → r'.Answer → Prop} {t : RouteTable}
    (hr : r.Alike r' A) (ht : t.Canonical) : (r.tableAfter t).Canonical := by
  cases hr with
  | plain hplain =>
      cases hplain with
      | _ => exact ht
  | remove n => exact ht.erase n
  | insert hp hcanonical => exact ht.insert hcanonical
  | removeSame n => exact ht.removeSame n _
  | lookup | connect => exact ht

/-! ## The operations -/

/-- The errors are of the same kind.  Only the error about a host that names no network says how
    it spells it. -/
inductive SameKind : TunnelError → TunnelError → Prop where
  | refl (e : TunnelError) : SameKind e e
  | host (e e' : CidrError) : SameKind (.host e) (.host e')

/-- The results of an operation are the same, up to the error about a host without a network. -/
abbrev SameResult : Except TunnelError Unit → Except TunnelError Unit → Prop :=
  SameOutcome SameKind Eq

theorem removeNetwork_alike : (removeNetwork n).Alike Request.Alike Eq (removeNetwork n) := by
  refine .ask (.remove n) fun old old' hold => ?_
  refine .ask (.plain (.issue .del n)) fun _ _ _ => ?_
  refine .ask (.plain (.outcome .del n)) fun _ _ _ => .done ?_
  cases hold with
  | some => rfl
  | none => rfl

theorem connectNetwork_alike (hh : h.Same h') (hn : h.network = .ok n) :
    (connectNetwork n h).Alike Request.Alike SameResult (connectNetwork n h') := by
  refine (removeNetwork_alike.map fun _ _ _ => rfl).bind (E := Eq) fun _ _ _ => ?_
  refine .ask (.connect n hh) fun connected connected' hconnected => ?_
  cases hconnected with
  | @error e e' he =>
      subst he
      rw [hh.address]
      exact .done (.error (.refl _))
  | @ok p p' hp =>
      obtain ⟨hsame, rfl, rfl⟩ := hp
      refine .ask (.insert hsame hn) fun _ _ _ => ?_
      refine .ask (.plain (.issue .add p.network)) fun _ _ _ => ?_
      refine .ask (.plain (.outcome .add p.network)) fun added added' hadded => ?_
      subst hadded
      cases added with
      | ok _ => exact .done (.ok rfl)
      | error e => exact .ask (.removeSame p.network hsame) fun _ _ _ => .done (.error (.refl _))

theorem locked_alike {E : α → α → Prop} {body body' : Work α}
    (hbody : body.Alike Request.Alike E body') :
    (acquire >>= fun _ => body >>= fun a => ask .unlock >>= fun _ => pure a).Alike Request.Alike E
      (acquire >>= fun _ => body' >>= fun a => ask .unlock >>= fun _ => pure a) := by
  refine .ask (.plain .queue) fun _ _ _ => ?_
  refine .ask (.plain .lock) fun _ _ _ => ?_
  exact hbody.bind fun _ _ ha => .ask (.plain .unlock) fun _ _ _ => .done ha

theorem addPeer_alike (hh : h.Same h') :
    (addPeer h).Alike Request.Alike SameResult (addPeer h') := by
  unfold addPeer
  rcases hh.cases with ⟨n, hn, hn'⟩ | ⟨e, e', he, he'⟩
  · rw [hn, hn']
    exact locked_alike (connectNetwork_alike hh hn)
  · rw [he, he']
    exact .done (.error (.host e e'))

/-- The hosts that were not added are the same ones, for the same reasons. -/
abbrev SameFailures : List (Host × TunnelError) → List (Host × TunnelError) → Prop :=
  List.Forall₂ fun f f' => f.1.Same f'.1 ∧ SameKind f.2 f'.2

theorem addPeers_alike {hosts hosts' : List Host} (hhosts : List.Forall₂ Host.Same hosts hosts') :
    (addPeers hosts).Alike Request.Alike SameFailures (addPeers hosts') := by
  induction hhosts with
  | nil => exact .done .nil
  | cons hh _ ih =>
      refine (addPeer_alike hh).bind fun r r' hr => ih.bind fun failures failures' hfailures => ?_
      cases hr with
      | ok => exact .done hfailures
      | error he => exact .done (.cons ⟨hh, he⟩ hfailures)

theorem delPeer_alike (hh : h.Same h') :
    (delPeer h).Alike Request.Alike Eq (delPeer h') := by
  unfold delPeer
  rcases hh.cases with ⟨n, hn, hn'⟩ | ⟨e, e', he, he'⟩
  · rw [hn, hn']
    exact locked_alike removeNetwork_alike
  · rw [he, he']
    exact .done rfl

theorem removeAll_alike {ns : List Subnet} :
    (removeAll ns).Alike Request.Alike Eq (removeAll ns) := by
  induction ns with
  | nil => exact .done rfl
  | cons n ns ih => exact (removeNetwork_alike.map fun _ _ _ => rfl).bind (E := Eq) fun _ _ _ => ih

theorem clearPeers_alike : clearPeers.Alike Request.Alike Eq clearPeers := by
  refine .ask (.plain .queue) fun _ _ _ => ?_
  refine .ask (.plain .lock) fun _ _ _ => ?_
  refine .ask (.plain .networks) fun ns ns' hns => ?_
  subst hns
  exact removeAll_alike.bind fun _ _ _ => .ask (.plain .unlock) fun _ _ _ => .done rfl

/-! ## The calls -/

/-- The calls differ at most in how their hosts spell their networks. -/
inductive Call.Same : Call → Call → Prop where
  | add {h h' : Host} : h.Same h' → Same (.add h) (.add h')
  | addAll {hosts hosts' : List Host} : List.Forall₂ Host.Same hosts hosts' →
      Same (.addAll hosts) (.addAll hosts')
  | del {h h' : Host} : h.Same h' → Same (.del h) (.del h')
  | clear : Same .clear .clear
  | route (a : Ipv4) : Same (.route a) (.route a)

/-- The replies differ at most in how hosts spell their networks. -/
inductive Reply.Same : Reply → Reply → Prop where
  | added {r r' : Except TunnelError Unit} : SameResult r r' → Same (.added r) (.added r')
  | failed {hosts hosts' : List (Host × TunnelError)} : SameFailures hosts hosts' →
      Same (.failed hosts) (.failed hosts')
  | deleted (found : Bool) : Same (.deleted found) (.deleted found)
  | cleared : Same .cleared .cleared
  | routed {p p' : Option Peer} : Option.Rel Peer.Same p p' → Same (.routed p) (.routed p')

theorem Call.Same.refl (c : Call) : c.Same c := by
  cases c with
  | add h => exact .add (.refl h)
  | addAll hosts => exact .addAll (List.forall₂_same.mpr fun h _ => .refl h)
  | del h => exact .del (.refl h)
  | clear => exact .clear
  | route a => exact .route a

/-- **Calls that differ in spelling are alike.** -/
theorem Call.alike {c c' : Call} (hc : c.Same c') :
    c.program.Alike Request.Alike Reply.Same c'.program := by
  cases hc with
  | add hh => exact (addPeer_alike hh).map fun _ _ hr => .added hr
  | addAll hhosts => exact (addPeers_alike hhosts).map fun _ _ hr => .failed hr
  | del hh =>
      refine (delPeer_alike hh).map fun found _ hfound => ?_
      subst hfound
      exact .deleted found
  | clear => exact clearPeers_alike.map fun _ _ _ => .cleared
  | route a => exact .ask (.lookup a) fun _ _ hp => .done (.routed hp)

end Tunnel

end Overlay
