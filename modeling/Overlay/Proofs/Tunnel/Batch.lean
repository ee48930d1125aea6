import Overlay.Proofs.Net.Cidr
import Overlay.Proofs.Tunnel.Adding

/-!
# Adding hosts one after the other

Hosts are added in the order of a list, whatever becomes of the ones before, and the hosts
that failed come back with their errors.  The list may name a network more than once, in any
spelling.  Then only the last host that names it counts: an addition that fails takes the
peer of its network away, also one that an earlier host of the same list has got
(`addPeers_last_counts`).
-/

namespace Overlay.Tunnel

variable {σ : Type} {around : Surroundings σ} {others : Server σ → Server σ → Prop}
  {id : TaskId} {s s' : Server σ} {tr : List (Exchange interface)}
  {adds : List (Host × Except TunnelError Unit)} {n : Subnet}

/-- A network that no host of the list names keeps its peer. -/
theorem AddsEach.get?_of_unnamed (hothers : KeepsTable others)
    (h : AddsEach around others id adds s tr s') (hn : ∀ e ∈ adds, e.1.network ≠ .ok n) :
    s'.table.get? n = s.table.get? n := by
  induction h with
  | nil => rfl
  | @cons host r _ _ _ _ _ _ hfirst _ ih =>
      rw [ih fun e he => hn e (List.mem_cons_of_mem _ he)]
      have hhost : host.network ≠ .ok n := hn (host, r) List.mem_cons_self
      exact (hfirst.addPeer_leaves hothers).1 n hhost

/-- A network has the peer that the last host of the list naming it has got, if any. -/
theorem AddsEach.get?_of_last (hothers : KeepsTable others) {host : Host}
    {r : Except TunnelError Unit} {before after : List (Host × Except TunnelError Unit)}
    (h : AddsEach around others id (before ++ (host, r) :: after) s tr s')
    (hhost : host.network = .ok n) (hn : ∀ e ∈ after, e.1.network ≠ .ok n) :
    (r = .ok () ∧ ∃ p, s'.table.get? n = some p ∧ p.network = n ∧ p.host = host) ∨
      (∃ e, r = .error e) ∧ s'.table.get? n = none := by
  induction before generalizing s tr with
  | nil =>
      cases h with
      | cons hfirst hrest =>
          rw [hrest.get?_of_unnamed hothers hn]
          exact (hfirst.addPeer_leaves hothers).2 n hhost
  | cons _ _ ih =>
      cases h with
      | cons _ hrest => exact ih hrest

/-- The hosts in the list of failures are those whose addition has failed. -/
theorem mem_failures_iff {h : Host} {e : TunnelError} :
    (h, e) ∈ failures adds ↔ (h, .error e) ∈ adds := by
  rw [failures, List.mem_filterMap]
  constructor
  · rintro ⟨⟨h', r⟩, hmem, hr⟩
    cases r with
    | ok _ => exact nomatch hr
    | error _ =>
        cases hr
        exact hmem
  · exact fun hmem => ⟨_, hmem, rfl⟩

/-- **The last host that names a network counts.**  The hosts whose own addition has failed are
    returned in the order of the list, each with its error.  A network that the list does not
    name keeps its peer; any other one has a peer exactly if the last host that names it was
    added, and then it is that host.  All of this comes to its end when the lock is free and
    the route commands return. -/
theorem addPeers_last_counts (hidle : ∀ s, others s s) (hothers : KeepsTable others)
    (hosts : List Host) (s : Server σ) :
    (∀ tr failed s', Performs around others id (addPeers hosts) s tr failed s' →
      ∃ adds, AddsEach around others id adds s tr s' ∧ adds.map Prod.fst = hosts ∧
        failed = failures adds ∧
        ∀ n,
          ((∀ h ∈ hosts, h.network ≠ .ok n) → s'.table.get? n = s.table.get? n) ∧
          ∀ before h r after, adds = before ++ (h, r) :: after → h.network = .ok n →
            (∀ e ∈ after, e.1.network ≠ .ok n) →
              ((s'.table.get? n).isSome ↔ r = .ok ()) ∧
              ∀ p, s'.table.get? n = some p → p.network = n ∧ p.host = h) ∧
    (s.line = [] → Returns around →
      ∃ tr failed s', (addPeers hosts).advance (Server.machine around) id s = (.done failed, s') ∧
        Performs around others id (addPeers hosts) s tr failed s') := by
  refine ⟨fun tr failed s' h => ?_, fun hline hreturns => ?_⟩
  · obtain ⟨adds, hhosts, hfailed, hadds⟩ := h.addPeers_inv
    refine ⟨adds, hadds, hhosts, hfailed, fun n => ⟨fun hn => ?_, ?_⟩⟩
    · refine hadds.get?_of_unnamed hothers fun e he => hn e.1 ?_
      rw [← hhosts]
      exact List.mem_map.mpr ⟨e, he, rfl⟩
    · rintro before host r after rfl hhost hafter
      rcases hadds.get?_of_last hothers hhost hafter with
        ⟨rfl, p, hp, hnetwork, hpeer⟩ | ⟨⟨e, rfl⟩, hnone⟩
      · rw [hp]
        refine ⟨iff_of_true rfl rfl, ?_⟩
        rintro _ ⟨⟩
        exact ⟨hnetwork, hpeer⟩
      · rw [hnone]
        exact ⟨iff_of_false nofun nofun, nofun⟩
  · have hk : (addPeers hosts).Keeps (changing fun _ => False) (fun q _ => q = Phase.outside)
        Phase.outside := addPeers_keeps fun _ => rfl
    obtain ⟨failed, s', hadvance, -⟩ := exists_advance hreturns hk hline
    obtain ⟨tr, hperforms⟩ := Performs.of_advance hidle hadvance
    exact ⟨tr, failed, s', hadvance, hperforms⟩

/-- Surroundings in which one address is out of reach and every route command succeeds. -/
def reachingAllBut (address : String) : Surroundings Unit :=
  { refusing with
    connect := fun a w =>
      (if a = address then .error .networkUnreachable
        else .ok (.v4 (.ofOctets 192 0 2 1) 7000), w)
    outcome := fun _ _ _ w => some (.ok "", w) }

/-- Four hosts: the last one names the network of the first in another spelling and is out of
    reach, so that the network has no peer in the end.  The second one names no network, and the
    third is a host of its own. -/
theorem addPeers_last_counts_of_alias :
    ∃ (first invalid other last : Host) (n m : Subnet) (failed : List (Host × TunnelError))
      (s' : Server Unit),
      first.network = .ok n ∧ last.network = .ok n ∧ other.network = .ok m ∧ m ≠ n ∧
      (addPeers [first, invalid, other, last]).advance
        (Server.machine (reachingAllBut "192.0.2.9:7000")) 3 { device := "loom0", outside := () } =
          (.done failed, s') ∧
      failed.map Prod.fst = [invalid, last] ∧ s'.table.get? n = none ∧
      ∃ p, s'.table.get? m = some p ∧ p.host = other := by
  let first : Host := ⟨"192.0.2.1:7000", "10.1.0.0/16"⟩
  let invalid : Host := ⟨"192.0.2.1:7000", "10.1.0.0/33"⟩
  let other : Host := ⟨"192.0.2.1:7000", "10.2.0.0/16"⟩
  let last : Host := ⟨"192.0.2.9:7000", " 10.1.2.3/16 "⟩
  let n : Subnet := ⟨.ofOctets 10 1 0 0, 16, by decide⟩
  let m : Subnet := ⟨.ofOctets 10 2 0 0, 16, by decide⟩
  let s : Server Unit := { device := "loom0", outside := () }
  let around := reachingAllBut "192.0.2.9:7000"
  have hnetworks : [first, invalid, other, last].map (fun h => Cidr.read? h.cidr.toList) =
      [some n, none, some m, some n] := by
    decide +kernel
  have hread : ∀ (h : Host) (k : Subnet), Cidr.read? h.cidr.toList = some k → h.network = .ok k :=
    fun _ _ => Cidr.read_of_read?
  obtain ⟨hfirst, -, hother, hlast⟩ :
      Cidr.read? first.cidr.toList = some n ∧ Cidr.read? invalid.cidr.toList = none ∧
        Cidr.read? other.cidr.toList = some m ∧ Cidr.read? last.cidr.toList = some n := by
    simpa using hnetworks
  have hfirst : first.network = .ok n := hread first n hfirst
  have hother : other.network = .ok m := hread other m hother
  have hlast : last.network = .ok n := hread last n hlast
  obtain ⟨hperformed, hends⟩ := @addPeers_last_counts Unit around (fun s t => t = s) 3
    (fun _ => rfl) (fun _ _ h => h ▸ rfl) [first, invalid, other, last] s
  obtain ⟨tr, failed, s', hadvance, hperforms⟩ := hends rfl fun _ _ _ _ => ⟨_, rfl⟩
  have hfailed : failed.map Prod.fst = [invalid, last] := by
    have hcomputed : ((addPeers [first, invalid, other, last]).advance (Server.machine around) 3
        s).1.result?.map (List.map Prod.fst) = some [invalid, last] := by
      decide +kernel
    rw [hadvance] at hcomputed
    exact Option.some.inj hcomputed
  obtain ⟨adds, -, hhosts, rfl, hcounts⟩ := hperformed tr failed s' hperforms
  have hdistinct : [first, invalid, other, last].Nodup := by decide
  have hapart : m ≠ n := by decide
  refine ⟨first, invalid, other, last, n, m, failures adds, s', hfirst, hlast,
    hother, hapart, hadvance, hfailed, ?_⟩
  have hfails : ∀ h, h ∈ [invalid, last] ↔ ∃ e, (h, .error e) ∈ adds := by
    intro h
    rw [← hfailed, List.mem_map]
    constructor
    · rintro ⟨⟨_, e⟩, hmem, rfl⟩
      exact ⟨e, mem_failures_iff.mp hmem⟩
    · exact fun ⟨e, hmem⟩ => ⟨(h, e), mem_failures_iff.mpr hmem, rfl⟩
  clear_value first invalid other last
  obtain ⟨r₁, r₂, r₃, r₄, rfl⟩ : ∃ r₁ r₂ r₃ r₄,
      adds = [(first, r₁), (invalid, r₂), (other, r₃), (last, r₄)] := by
    clear hfails hcounts hperforms hfailed hadvance hends hnetworks
    match adds, hhosts with
    | [(_, r₁), (_, r₂), (_, r₃), (_, r₄)], rfl => exact ⟨r₁, r₂, r₃, r₄, rfl⟩
  have hlost : ∃ e, r₄ = .error e := by
    have hlisted := (hfails last).mp (List.mem_of_getElem? (i := 1) rfl)
    grind
  have hadded : r₃ = .ok () := by
    cases r₃ with
    | ok _ => rfl
    | error e =>
        have hlisted := (hfails other).mpr ⟨e, List.mem_of_getElem? (i := 2) rfl⟩
        grind
  obtain ⟨e, rfl⟩ := hlost
  obtain ⟨hpresent, -⟩ :=
    (hcounts n).2 [(first, r₁), (invalid, r₂), (other, r₃)] last _ [] rfl hlast
    fun _ h => absurd h List.not_mem_nil
  have hafter : ∀ h ∈ [(last, Except.error (α := Unit) e)], h.1.network ≠ .ok m := by
    intro h hmem
    obtain rfl := List.mem_singleton.mp hmem
    rw [hlast]
    exact fun heq => hapart (Except.ok.inj heq).symm
  obtain ⟨hkept, hhost⟩ := (hcounts m).2 [(first, r₁), (invalid, r₂)] other _ _ rfl hother hafter
  obtain ⟨p, hp⟩ := Option.isSome_iff_exists.mp (hkept.mpr hadded)
  have hgone : s'.table.get? n = none := by
    refine Option.not_isSome_iff_eq_none.mp fun h => ?_
    cases hpresent.mp h
  exact ⟨hgone, p, hp, (hhost p hp).2⟩

end Overlay.Tunnel
