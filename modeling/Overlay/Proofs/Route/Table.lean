import Mathlib.Data.List.Nodup
import Overlay.Route.Table

/-!
# The table of peers as a map from networks

Everything that later proofs need of a table is said through `RouteTable.get?`: what each
operation does to it, and that the networks of the table are those that it knows.
-/

namespace Overlay.RouteTable

/-- The peer of a network has that network. -/
theorem network_of_get? {t : RouteTable} {n : Subnet} {p : Peer} (h : t.get? n = some p) :
    p.network = n := by
  have hp := List.find?_some h
  exact of_decide_eq_true hp

/-- A network is in the table when the table has a peer for it. -/
theorem mem_networks_iff {t : RouteTable} {n : Subnet} : n ∈ t.networks ↔ t.get? n ≠ none := by
  constructor
  · intro h hnone
    obtain ⟨p, hp, rfl⟩ := List.mem_map.mp h
    have hne := List.find?_eq_none.mp hnone p hp
    exact hne (decide_eq_true rfl)
  · intro h
    obtain ⟨p, hp⟩ := Option.ne_none_iff_exists'.mp h
    rw [← network_of_get? hp]
    exact List.mem_map.mpr ⟨p, List.mem_of_find?_eq_some hp, rfl⟩

theorem not_mem_networks_iff {t : RouteTable} {n : Subnet} : n ∉ t.networks ↔ t.get? n = none := by
  rw [mem_networks_iff, Classical.not_not]

/-- An erasure takes the peer of its network away and leaves all others. -/
@[simp] theorem get?_erase (t : RouteTable) (n m : Subnet) :
    (t.erase n).get? m = if m = n then none else t.get? m := by
  show (t.peers.filter (fun p => p.network ≠ n)).find? (fun p => p.network = m) = _
  rw [List.find?_filter]
  by_cases hm : m = n
  · rw [if_pos hm, List.find?_eq_none]
    intro p _
    simp [hm]
  · rw [if_neg hm]
    refine congrArg (fun f => t.peers.find? f) (funext fun p => ?_)
    by_cases hp : p.network = m
    · simp [hp, hm]
    · simp [hp]

/-- An insertion gives its network to the new peer and leaves all others. -/
@[simp] theorem get?_insert (t : RouteTable) (p : Peer) (m : Subnet) :
    (t.insert p).2.get? m = if m = p.network then some p else t.get? m := by
  show (p :: (t.erase p.network).peers).find? (fun q => q.network = m) = _
  rw [List.find?_cons]
  by_cases hm : m = p.network
  · rw [if_pos hm, hm, decide_eq_true rfl]
  · rw [if_neg hm, decide_eq_false fun h => hm h.symm]
    have herase := get?_erase t p.network m
    rw [if_neg hm] at herase
    exact herase

/-- The removal of a connection that the table has for the network takes it away. -/
theorem removeSame_eq {t : RouteTable} {n : Subnet} {p : Peer} (h : t.get? n = some p) :
    t.removeSame n p = (some p, t.erase n) := by
  unfold removeSame
  rw [h]
  simp only [if_true, remove, h]

/-- The peers of a table are what it gives for their networks. -/
theorem get?_of_mem {t : RouteTable} {p : Peer} (h : p ∈ t.peers) : t.get? p.network = some p := by
  obtain ⟨q, hq⟩ := Option.ne_none_iff_exists'.mp
    (mem_networks_iff.mp (List.mem_map.mpr ⟨p, h, rfl⟩))
  -- both peers have the network, and no network comes twice
  have hsame := List.inj_on_of_nodup_map t.nodup (List.mem_of_find?_eq_some hq) h
    (network_of_get? hq)
  rw [hq, hsame]

/-- A table gives for a network the one peer of it. -/
theorem get?_eq_some_iff {t : RouteTable} {n : Subnet} {p : Peer} :
    t.get? n = some p ↔ p ∈ t.peers ∧ p.network = n := by
  constructor
  · intro h
    exact ⟨List.mem_of_find?_eq_some h, network_of_get? h⟩
  · rintro ⟨hp, rfl⟩
    exact get?_of_mem hp

/-- The order of a table does not matter to what it gives for a network. -/
theorem get?_of_perm {t u : RouteTable} (h : u.peers.Perm t.peers) (n : Subnet) :
    u.get? n = t.get? n :=
  Option.ext fun p => by
    rw [get?_eq_some_iff, get?_eq_some_iff, h.mem_iff]

/-- The removal of a connection takes it away when it is there, and changes nothing else. -/
theorem get?_removeSame (t : RouteTable) (n : Subnet) (p : Peer) (m : Subnet) :
    (t.removeSame n p).2.get? m =
      if m = n ∧ (t.get? n).any (fun q => q.id = p.id) = true then none else t.get? m := by
  unfold removeSame
  cases hq : t.get? n with
  | none => simp
  | some q =>
      by_cases hid : q.id = p.id
      · simp [hid, remove]
      · simp [hid]

/-- A peer that is found for an address is in the table, and its network owns the address. -/
theorem get?_of_lookup {t : RouteTable} {a : Ipv4} {p : Peer} (h : t.lookup a = some p) :
    t.get? p.network = some p ∧ p.network.owns a = true := by
  have howns : p.owns a = true := List.find?_some (p := fun q : Peer => q.owns a) h
  exact ⟨get?_of_mem (List.mem_of_find?_eq_some h), howns⟩

/-- No peer is found for an address exactly when no network of the table owns it. -/
theorem lookup_eq_none_iff {t : RouteTable} {a : Ipv4} :
    t.lookup a = none ↔ ∀ n ∈ t.networks, ¬n.owns a = true := by
  rw [lookup, List.find?_eq_none, networks, List.forall_mem_map]
  rfl

end Overlay.RouteTable
