import Mathlib.Data.List.Induction
import Mathlib.Logic.Function.Basic
import Overlay.Proofs.Net.Subnet
import Overlay.Proofs.Route.Table

/-!
# Looking an address up

A table is looked through in an order that nobody chose, and with two networks that share an
address the order decides.  What does not depend on it is said here against the history of
the table (`stored`): which connection was last put under which network, and not taken away
since.  A look-up finds one of the stored connections whose network has the address, and
finds none only if there is none.

If no two networks of the table overlap, then at most one connection has the address, and
every order finds the same.
-/

namespace Overlay.RouteTable

/-! ## Histories -/

/-- What may be done to a table. -/
inductive Operation where
  /-- A connection is put under its network. -/
  | insert (p : Peer)
  /-- The connection of a network is taken away. -/
  | remove (n : Subnet)
  /-- The connection of a network is taken away if it is the given one. -/
  | removeSame (n : Subnet) (p : Peer)

namespace Operation

/-- Does it to a table. -/
def apply : Operation → RouteTable → Option Peer × RouteTable
  | insert p, t => t.insert p
  | remove n, t => t.remove n
  | removeSame n p, t => t.removeSame n p

/-- What it does to connections that are kept under keys. -/
def store : Operation → (Subnet → Option Peer) → Subnet → Option Peer
  | insert p, f => Function.update f p.network (some p)
  | remove n, f => Function.update f n none
  | removeSame n p, f =>
    if (f n).any fun q => q.id = p.id then Function.update f n none else f

/-- A table gives after the operation what the keys say. -/
theorem get?_apply (o : Operation) (t : RouteTable) : (o.apply t).2.get? = o.store t.get? := by
  funext m
  cases o with
  | insert p =>
      show (t.insert p).2.get? m = Function.update t.get? p.network (some p) m
      rw [get?_insert, Function.update_apply]
  | remove n =>
      show (t.erase n).get? m = Function.update t.get? n none m
      rw [get?_erase, Function.update_apply]
  | removeSame n p =>
      show (t.removeSame n p).2.get? m =
        (if (t.get? n).any (fun q => q.id = p.id) then Function.update t.get? n none
          else t.get?) m
      rw [get?_removeSame]
      by_cases hthere : (t.get? n).any (fun q => q.id = p.id) = true
      · rw [if_pos hthere, Function.update_apply]
        exact if_congr (and_iff_left hthere) rfl rfl
      · rw [if_neg hthere, if_neg fun h => hthere h.2]

/-- What is kept under a key has that network, if it was so before. -/
theorem network_of_store {o : Operation} {f : Subnet → Option Peer}
    (hf : ∀ n p, f n = some p → p.network = n) {n : Subnet} {p : Peer} (h : o.store f n = some p) :
    p.network = n := by
  have hremoved : ∀ m, Function.update f m none n = some p → p.network = n := by
    intro m hm
    rw [Function.update_apply] at hm
    split at hm
    · exact nomatch hm
    · exact hf n p hm
  cases o with
  | insert q =>
      have h : Function.update f q.network (some q) n = some p := h
      rw [Function.update_apply] at h
      split at h
      · cases h
        exact Eq.symm ‹_›
      · exact hf n p h
  | remove m => exact hremoved m h
  | removeSame m q =>
      have h : (if (f m).any fun q' => q'.id = q.id then Function.update f m none else f) n =
          some p := h
      rw [ite_apply] at h
      split at h
      · exact hremoved m h
      · exact hf n p h

end Operation

/-- The connections that a history leaves, under their keys. -/
def stored (history : List Operation) : Subnet → Option Peer :=
  history.foldl (fun f o => o.store f) fun _ => none

theorem stored_append (history : List Operation) (o : Operation) :
    stored (history ++ [o]) = o.store (stored history) := by
  rw [stored, List.foldl_append]
  rfl

/-- The tables that a history leads to, in every order that they may be looked through. -/
inductive Reached : List Operation → RouteTable → Prop where
  /-- The table without peers. -/
  | new : Reached [] empty
  /-- One more operation. -/
  | step {history : List Operation} {t : RouteTable} (o : Operation) :
      Reached history t → Reached (history ++ [o]) (o.apply t).2
  /-- Another order. -/
  | reorder {history : List Operation} {t u : RouteTable} :
      Reached history t → u.peers.Perm t.peers → Reached history u

variable {history : List Operation} {t u : RouteTable} {a : Ipv4} {n : Subnet} {p q : Peer}

/-- **A table has what its history has left.** -/
theorem Reached.get?_eq (h : Reached history t) : t.get? = stored history := by
  induction h with
  | new => rfl
  | step o _ ih => rw [Operation.get?_apply, ih, stored_append]
  | reorder _ hperm ih => rw [← ih, funext (get?_of_perm hperm)]

/-- Every connection is kept under its own network. -/
theorem network_of_stored (h : stored history n = some p) : p.network = n := by
  induction history using List.reverseRecOn generalizing n p with
  | nil => exact nomatch h
  | append_singleton history o ih =>
      rw [stored_append] at h
      exact Operation.network_of_store (fun _ _ => ih) h

theorem Reached.mem_peers_iff (h : Reached history t) :
    p ∈ t.peers ↔ stored history p.network = some p := by
  rw [← h.get?_eq, get?_eq_some_iff]
  exact (and_iff_left rfl).symm

/-! ## Overlaps -/

/-- **The networks that are found to overlap a subnet are the others that have an address in
    common with it.** -/
theorem mem_overlapping_iff {m : Subnet} :
    m ∈ t.overlapping n ↔ m ∈ t.networks ∧ m ≠ n ∧ ∃ a, m.Covers a ∧ n.Covers a := by
  rw [overlapping, List.mem_filter, Bool.and_eq_true, decide_eq_true_eq, Bool.or_eq_true,
    Subnet.contains_or_contains_iff]

theorem nodup_overlapping : (t.overlapping n).Nodup := t.nodup.filter _

/-! ## Without overlaps -/

/-- No two networks of the table have an address in common, as far as the table can tell. -/
def Apart (t : RouteTable) : Prop := ∀ n ∈ t.networks, t.overlapping n = []

/-- Then no address has two peers. -/
theorem Apart.unique (h : t.Apart) (hp : p ∈ t.peers) (hq : q ∈ t.peers)
    (hpa : p.network.Covers a) (hqa : q.network.Covers a) : p = q := by
  have hsame : q.network = p.network := by
    by_contra hne
    have hoverlaps : q.network ∈ t.overlapping p.network :=
      mem_overlapping_iff.mpr ⟨List.mem_map.mpr ⟨q, hq, rfl⟩, hne, a, hqa, hpa⟩
    rw [h _ (List.mem_map.mpr ⟨p, hp, rfl⟩)] at hoverlaps
    exact absurd hoverlaps List.not_mem_nil
  exact List.inj_on_of_nodup_map t.nodup hp hq hsame.symm

/-- A table with the same peers in another order finds the same. -/
theorem Apart.lookup_of_perm (h : t.Apart) (hperm : u.peers.Perm t.peers) (a : Ipv4) :
    u.lookup a = t.lookup a := by
  have hmem : ∀ {v : RouteTable} {q : Peer}, v.lookup a = some q →
      q ∈ v.peers ∧ q.network.Covers a := by
    intro v q hq
    obtain ⟨hget, howns⟩ := get?_of_lookup hq
    exact ⟨(get?_eq_some_iff.mp hget).1, Subnet.owns_iff_covers.mp howns⟩
  cases hu : u.lookup a with
  | none =>
      refine (lookup_eq_none_iff.mpr fun n hn => ?_).symm
      exact lookup_eq_none_iff.mp hu n ((hperm.map Peer.network).mem_iff.mpr hn)
  | some p =>
      obtain ⟨hp, hpa⟩ := hmem hu
      cases ht : t.lookup a with
      | none =>
          have hn : p.network ∈ t.networks :=
            List.mem_map.mpr ⟨p, hperm.mem_iff.mp hp, rfl⟩
          exact absurd (Subnet.owns_iff_covers.mpr hpa) (lookup_eq_none_iff.mp ht _ hn)
      | some q =>
          obtain ⟨hq, hqa⟩ := hmem ht
          rw [h.unique (hperm.mem_iff.mp hp) hq hpa hqa]

/-! ## Every order -/

/-- **A look-up is sound and complete in every order, and without overlaps the same in all.**
    Whatever was done to a table, a look-up gives one of the connections that are stored under
    their networks, and the address lies between the network address and the broadcast address
    of its network; it gives nothing exactly when there is no such connection.  If no stored
    network overlaps another one, there is at most one. -/
theorem Reached.lookup_in_every_order (h : Reached history t) :
    (∀ n, t.get? n = stored history n) ∧
    (∀ n p, stored history n = some p → p.network = n) ∧
    ∀ a,
      (∀ p, t.lookup a = some p → stored history p.network = some p ∧ p.network.Spans a) ∧
      (t.lookup a = none ↔ ∀ n p, stored history n = some p → ¬n.Spans a) ∧
      ((∀ n p, stored history n = some p → t.overlapping n = []) →
        (∀ n p m q, stored history n = some p → stored history m = some q → n.Spans a →
          m.Spans a → p = q) ∧
        ∀ u, Reached history u → u.lookup a = t.lookup a) := by
  have hget := h.get?_eq
  refine ⟨congrFun hget, fun n p => network_of_stored, fun a => ⟨fun p hp => ?_, ?_, ?_⟩⟩
  · obtain ⟨hstored, howns⟩ := get?_of_lookup hp
    rw [hget] at hstored
    exact ⟨hstored, Subnet.owns_iff_spans.mp howns⟩
  · rw [lookup_eq_none_iff]
    constructor
    · intro hnone n p hp hspans
      have hn : n ∈ t.networks := by
        rw [mem_networks_iff, hget, hp]
        exact Option.some_ne_none p
      exact hnone n hn (Subnet.owns_iff_spans.mpr hspans)
    · intro hnone n hn howns
      rw [mem_networks_iff, hget] at hn
      obtain ⟨p, hp⟩ := Option.ne_none_iff_exists'.mp hn
      exact hnone n p hp (Subnet.owns_iff_spans.mp howns)
  · intro hoverlapping
    have hapart : t.Apart := by
      intro n hn
      rw [mem_networks_iff, hget] at hn
      obtain ⟨p, hp⟩ := Option.ne_none_iff_exists'.mp hn
      exact hoverlapping n p hp
    refine ⟨?_, ?_⟩
    · intro n p m q hp hq hpa hqa
      obtain rfl := network_of_stored hp
      obtain rfl := network_of_stored hq
      rw [← Subnet.owns_iff_spans, Subnet.owns_iff_covers] at hpa hqa
      exact hapart.unique (h.mem_peers_iff.mpr hp) (h.mem_peers_iff.mpr hq) hpa hqa
    · intro u hu
      refine hapart.lookup_of_perm ?_ a
      refine (List.perm_ext_iff_of_nodup (List.Nodup.of_map _ u.nodup)
        (List.Nodup.of_map _ t.nodup)).mpr fun p => ?_
      rw [hu.mem_peers_iff, h.mem_peers_iff]

/-- Two networks that do not overlap, one of them stored with host bits; a third one that held
    every address is gone again.  Every order finds the connection of the first network for an
    address of it. -/
theorem lookup_among_disjoint :
    ∃ (history : List Operation) (t : RouteTable) (a : Ipv4) (p : Peer),
      Reached history t ∧ t.networks.length = 2 ∧
      (∀ n p, stored history n = some p → t.overlapping n = []) ∧
      p.network.network ≠ p.network ∧ stored history p.network = some p ∧ p.network.Spans a ∧
      ∀ u, Reached history u → u.lookup a = some p := by
  let peer (id : Nat) (address : Ipv4) (length : Fin 33) : Peer :=
    ⟨id, ⟨address, length, Nat.le_of_lt_succ length.isLt⟩, ⟨"192.0.2.1:7000", ""⟩,
      .v4 (.ofOctets 192 0 2 1) 7000⟩
  let first := peer 0 (.ofOctets 10 0 1 7) 24
  let second := peer 1 (.ofOctets 10 0 2 0) 24
  let every := peer 2 (.ofOctets 0 0 0 0) 0
  let history : List Operation :=
    [.insert first, .insert every, .insert second, .removeSame second.network first,
      .remove every.network]
  let t : RouteTable := history.foldl (fun t o => (o.apply t).2) .empty
  have hreached : Reached history t :=
    .step (.remove every.network) (.step (.removeSame second.network first)
      (.step (.insert second) (.step (.insert every) (.step (.insert first) .new))))
  have hnetworks : t.networks = [second.network, first.network] := by decide
  have hfound : t.lookup (.ofOctets 10 0 1 200) = some first := by decide
  obtain ⟨hget, -, hlookup⟩ := hreached.lookup_in_every_order
  obtain ⟨hsound, -, hunique⟩ := hlookup (.ofOctets 10 0 1 200)
  have hapart : ∀ n p, stored history n = some p → t.overlapping n = [] := by
    intro n p hp
    have hn : n ∈ t.networks := by
      rw [mem_networks_iff, hget, hp]
      exact Option.some_ne_none p
    have hall : ∀ n ∈ t.networks, t.overlapping n = [] := by decide
    exact hall n hn
  obtain ⟨hstored, hspans⟩ := hsound first hfound
  refine ⟨history, t, .ofOctets 10 0 1 200, first, hreached, by rw [hnetworks]; rfl, hapart,
    by decide, hstored, hspans, fun u hu => ?_⟩
  rw [(hunique hapart).2 u hu, hfound]

end Overlay.RouteTable
