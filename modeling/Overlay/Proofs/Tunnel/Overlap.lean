import Overlay.Proofs.Route.Lookup
import Overlay.Proofs.Tunnel.Agreement

/-!
# Peers that get in each other's way

A destination that two peers own is sent to whichever the table is asked for first.  Whoever
adds a peer therefore looks for the networks of the table that overlap the new one, and warns
of them.  `RouteTable.overlapping` only finds networks that contain the new one or lie inside
it, and this is enough: subnets that share an address lie one inside the other.

The look is taken in the moment of the insertion.  By then the network's own peer has been
removed, whatever the other tasks do (`Called.get?_of_inserting`), so that every peer that
shares a destination with the new one is found.
-/

namespace Overlay

/-! ## Shared destinations -/

namespace RouteTable

variable {t : RouteTable} {p : Peer}

/-- A network that has no peer overlaps one of the table exactly when a peer there owns an
    address of it. -/
theorem overlapping_ne_nil_iff (h : t.get? p.network = none) :
    t.overlapping p.network ≠ [] ↔ ∃ q ∈ t.peers, ∃ a, p.owns a = true ∧ q.owns a = true := by
  constructor
  · intro hne
    obtain ⟨m, hm⟩ := List.exists_mem_of_ne_nil _ hne
    obtain ⟨hmem, -, a, hma, hpa⟩ := mem_overlapping_iff.mp hm
    obtain ⟨q, hq, rfl⟩ := List.mem_map.mp hmem
    exact ⟨q, hq, a, Subnet.owns_iff_covers.mpr hpa, Subnet.owns_iff_covers.mpr hma⟩
  · rintro ⟨q, hq, a, hpa, hqa⟩
    have hmem : q.network ∈ t.networks := List.mem_map.mpr ⟨q, hq, rfl⟩
    have hne : q.network ≠ p.network := by
      intro heq
      exact mem_networks_iff.mp hmem (heq ▸ h)
    exact List.ne_nil_of_mem (mem_overlapping_iff.mpr
      ⟨hmem, hne, a, Subnet.owns_iff_covers.mp hqa, Subnet.owns_iff_covers.mp hpa⟩)

end RouteTable

namespace Tunnel

variable {σ : Type} {around : Surroundings σ} {device : String} {w : σ}
  {tr : List (Exchange interface)} {s : System interface (Server σ) Reply} {id : TaskId}
  {a : Task interface Reply} {p : Peer}

/-- When a task is about to insert a peer, the table has none for the network. -/
theorem Called.get?_of_inserting (h : Called around device w tr s) (ha : s.tasks[id]? = some a)
    (hrequest : a.request? = some (.insert p)) : s.state.table.get? p.network = none := by
  obtain ⟨ph, hagrees, hk⟩ := h.agrees_keeps
  obtain ⟨resume, hasks⟩ := Task.asks_of_request? hrequest
  obtain ⟨ph', hstep, -⟩ := (hk.task ha).asks hasks (x := none) trivial
  generalize hp : ph id = phase at hstep
  cases hstep with
  | insert =>
      have hfits := hagrees.fits.inside (i := id) (hp ▸ trivial)
      rw [hp] at hfits
      exact hfits.known
  | aside hr => exact hr.elim

/-- **Exactly the ambiguous subnets are found to overlap.**  The networks that are found for a
    subnet are, each once, the other networks of the table that have an address in common with
    it, from network address to broadcast address.  So whenever a peer is about to be inserted,
    in whichever order the calls take their steps, an overlap is found exactly when some
    destination belongs both to the new peer and to one that is there. -/
theorem overlapping_exactly :
    (∀ (t : RouteTable) (n : Subnet), (t.overlapping n).Nodup ∧
      ∀ m, m ∈ t.overlapping n ↔ m ∈ t.networks ∧ m ≠ n ∧ ∃ a, m.Spans a ∧ n.Spans a) ∧
    ∀ (σ : Type) (around : Surroundings σ) (device : String) (w : σ)
      (tr : List (Exchange interface)) (s : System interface (Server σ) Reply),
      Called around device w tr s →
      ∀ (id : TaskId) (a : Task interface Reply) (p : Peer),
        s.tasks[id]? = some a → a.request? = some (.insert p) →
        (s.state.table.overlapping p.network ≠ [] ↔
          ∃ q ∈ s.state.table.peers, ∃ a, p.owns a = true ∧ q.owns a = true) := by
  refine ⟨fun t n => ⟨RouteTable.nodup_overlapping, fun m => ?_⟩, ?_⟩
  · simp only [RouteTable.mem_overlapping_iff, ← Subnet.owns_iff_covers, Subnet.owns_iff_spans]
  · intro σ around device w tr s hcalled id a p ha hrequest
    exact RouteTable.overlapping_ne_nil_iff (hcalled.get?_of_inserting ha hrequest)

/-- The peer that is about to be inserted. -/
def Request.inserted? : Request → Option Peer
  | .insert p => some p
  | _ => none

theorem Request.eq_of_inserted? {r : Request} {p : Peer} (h : r.inserted? = some p) :
    r = .insert p := by
  cases r with
  | insert q => exact congrArg Request.insert (Option.some.inj h)
  | _ => exact absurd h (Option.some_ne_none p).symm

/-- Three hosts are added; the network of the last one lies inside that of the first one.  When
    its peer is about to be inserted, the first network is found, and a destination in both. -/
theorem overlapping_of_nested :
    ∃ tr s a p, Called Scene.around "loom0" { reach := .everything, device := .channel {} } tr s ∧
      s.tasks[2]? = some a ∧ a.request? = some (.insert p) ∧ s.state.table.networks.length = 2 ∧
      s.state.table.overlapping p.network = [⟨.ofOctets 10 1 0 0, 16, by decide⟩] ∧
      ∃ q ∈ s.state.table.peers, ∃ a, p.owns a = true ∧ q.owns a = true := by
  let wide : Subnet := ⟨.ofOctets 10 1 0 0, 16, by decide⟩
  let start : System interface (Server Scene) Reply :=
    ⟨{ device := "loom0", outside := { reach := .everything, device := .channel {} } },
      [Call.add ⟨"192.0.2.1:7000", "10.1.0.0/16"⟩, .add ⟨"192.0.2.2:7000", "10.2.0.0/16"⟩,
        .add ⟨"192.0.2.3:7000", "10.1.7.0/24"⟩].map Call.task⟩
  let inserted (s : System interface (Server Scene) Reply) : Option Peer :=
    (s.tasks[2]?.bind Task.request?).bind Request.inserted?
  have hfinds : (start.play (Server.machine Scene.around)
      (List.replicate 10 0 ++ List.replicate 10 1 ++ List.replicate 6 2)).any (fun r =>
        (inserted r.2).any fun p => decide (r.2.state.table.networks.length = 2 ∧
          r.2.state.table.overlapping p.network = [wide])) = true := by
    decide +kernel
  obtain ⟨⟨tr, s⟩, hplay, hfacts⟩ := (Option.any_eq_true _ _).mp hfinds
  obtain ⟨p, hp, hfacts⟩ := (Option.any_eq_true _ _).mp hfacts
  obtain ⟨hlength, hwide⟩ := of_decide_eq_true hfacts
  obtain ⟨r, hr, hinserted⟩ := Option.bind_eq_some_iff.mp hp
  obtain ⟨a, ha, hrequest⟩ := Option.bind_eq_some_iff.mp hr
  rw [Request.eq_of_inserted? hinserted] at hrequest
  have hrun := Called.of_play hplay
  have hne : s.state.table.overlapping p.network ≠ [] := by
    rw [hwide]
    exact List.cons_ne_nil _ _
  have hshared := (overlapping_exactly.2 _ _ _ _ tr s hrun 2 a p ha hrequest).mp hne
  exact ⟨tr, s, a, p, hrun, ha, hrequest, hlength, hwide, hshared⟩

end Tunnel

end Overlay
