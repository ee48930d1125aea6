import Mathlib.Data.Finset.Basic
import Overlay.Proofs.Tunnel.Call
import Overlay.Simulation.Scene

/-!
# The table and the routes of the host

The peers of a server and the routes of the host are kept in two places and changed one
after the other, and each change of a route may fail.  Whatever fails and however the
calls are interleaved, a peer in the table has its route once nobody holds the lock.
When removals fail only for routes that are not there, the two are the same, and while
somebody holds the lock they differ at most in the network that this task works on.

The routes are read off the trace: a command that succeeds puts its network into the set
or takes it out, and nothing else does.
-/

namespace Overlay.Tunnel

/-- The exchange tells that the route command for the network succeeded. -/
def Succeeds (action : RouteAction) (n : Subnet) : Exchange interface → Prop
  | ⟨_, .outcome a m, .ok _⟩ => a = action ∧ m = n
  | _ => False

/-- The networks with a route after the exchange. -/
def routesAfter (routes : Finset Subnet) : Exchange interface → Finset Subnet
  | ⟨_, .outcome .add n, .ok _⟩ => insert n routes
  | ⟨_, .outcome .del n, .ok _⟩ => routes.erase n
  | _ => routes

/-- The networks with a route, when there were none in the beginning. -/
def installed (tr : List (Exchange interface)) : Finset Subnet := tr.foldl routesAfter ∅

theorem mem_routesAfter {routes : Finset Subnet} {e : Exchange interface} {n : Subnet} :
    n ∈ routesAfter routes e ↔ Succeeds .add n e ∨ (n ∈ routes ∧ ¬ Succeeds .del n e) := by
  obtain ⟨i, r, x⟩ := e
  cases r with
  | outcome action m =>
      cases x with
      | error e => simp [routesAfter, Succeeds]
      | ok output =>
          cases action with
          | add => simp [routesAfter, Succeeds, eq_comm]
          | del => simp [routesAfter, Succeeds, and_comm, eq_comm]
  | _ => simp [routesAfter, Succeeds]

theorem mem_installed_append {tr : List (Exchange interface)} {e : Exchange interface}
    {n : Subnet} :
    n ∈ installed (tr ++ [e]) ↔ Succeeds .add n e ∨ (n ∈ installed tr ∧ ¬ Succeeds .del n e) := by
  rw [installed, List.foldl_append]
  exact mem_routesAfter

/-- The network whose route could not be removed. -/
def failedRemoval? : Exchange interface → Option Subnet
  | ⟨_, .outcome .del n, .error _⟩ => some n
  | _ => none

/-- Removals fail only for networks that have no route. -/
def Obliging (tr : List (Exchange interface)) : Prop :=
  ∀ (k : Nat) (hk : k < tr.length), ∀ n ∈ failedRemoval? tr[k], n ∉ installed (tr.take k)

instance (tr : List (Exchange interface)) : Decidable (Obliging tr) :=
  inferInstanceAs (Decidable (∀ (k : Nat) (hk : k < tr.length), ∀ n ∈ failedRemoval? tr[k],
    n ∉ installed (tr.take k)))

theorem Obliging.of_append {tr : List (Exchange interface)} {e : Exchange interface}
    (h : Obliging (tr ++ [e])) : Obliging tr := by
  intro k hk n hn
  have hlast := h k (by rw [List.length_append]; omega) n
  rw [List.getElem_append_left hk, List.take_append_of_le_length (Nat.le_of_lt hk)] at hlast
  exact hlast hn

theorem Obliging.last {tr : List (Exchange interface)} {e : Exchange interface}
    (h : Obliging (tr ++ [e])) {n : Subnet} (hn : n ∈ failedRemoval? e) : n ∉ installed tr := by
  have hlast := h tr.length (by rw [List.length_append]; exact Nat.lt_add_one _) n
  rw [List.getElem_concat_length rfl, List.take_left' rfl] at hlast
  exact hlast hn

/-- The network that the holder of the lock works on: the last one whose peer it has
    removed. -/
def working (tr : List (Exchange interface)) : Option Subnet :=
  tr.foldl (fun w e =>
    match e.request with
    | .lock => none
    | .remove n => some n
    | _ => w) none

theorem working_append (tr : List (Exchange interface)) (e : Exchange interface) :
    working (tr ++ [e]) =
      match e.request with
      | .lock => none
      | .remove n => some n
      | _ => working tr := by
  simp only [working, List.foldl_append, List.foldl_cons, List.foldl_nil]

/-! ## Every route has its peer -/

/-- The network that may count although it has no peer.  A removal counts `early` when it
    does so as soon as the command is given. -/
def Phase.unsettled (early : Bool) : Phase → Option Subnet
  | removing n => some n
  | removed n => if early then none else some n
  | _ => none

/-- The networks of the set have peers, up to the one that is being removed; the network of
    a peer that has just been inserted is not in the set yet. -/
structure Covered (early : Bool) (K : Set Subnet) (t : RouteTable) (q : Phase) : Prop where
  mem : ∀ {n : Subnet}, n ∈ K → q.unsettled early ≠ some n → t.get? n ≠ none
  fresh : ∀ {p : Peer}, q = .inserted p → p.network ∉ K

variable {Free : Request → Prop} {id : TaskId} {r : Request} {x : r.Answer} {p p' : Phase}
  {t : RouteTable} {K K' : Set Subnet}

/-- Only a removal can take the peer of a network away. -/
theorem get?_tableAfter {n : Subnet} (hr : r ≠ .remove n) (hs : ∀ q, r ≠ .removeSame n q)
    (h : t.get? n ≠ none) : (r.tableAfter t).get? n ≠ none := by
  cases r with
  | remove m =>
      show (t.erase m).get? n ≠ none
      rw [RouteTable.get?_erase, if_neg fun heq : n = m => hr (heq ▸ rfl)]
      exact h
  | insert q =>
      show (t.insert q).2.get? n ≠ none
      rw [RouteTable.get?_insert]
      split
      · exact Option.some_ne_none q
      · exact h
  | removeSame m q =>
      show (t.removeSame m q).2.get? n ≠ none
      have hne : n ≠ m := fun heq => hs q (heq ▸ rfl)
      unfold RouteTable.removeSame
      split
      · split
        · show (t.erase m).get? n ≠ none
          rw [RouteTable.get?_erase, if_neg hne]
          exact h
        · exact h
      · exact h
  | _ => exact h

/-- Inside, only the task that has inserted a peer can route a network. -/
theorem Succeeds.eq_inserted {n : Subnet} (h : Succeeds .add n ⟨id, r, x⟩)
    (hstep : Change Free p r x p') (hin : p'.Inside) :
    ∃ q : Peer, q.network = n ∧ p = .inserted q ∧ p' = .holding none := by
  cases hstep with
  | @added q output =>
      obtain ⟨-, rfl⟩ := h
      exact ⟨q, rfl, rfl, rfl⟩
  | @deleted m y =>
      cases y with
      | ok output => exact nomatch h.1
      | error e => exact h.elim
  | aside => exact hin.elim
  | _ => exact h.elim

/-- A step inside keeps the set covered when networks come into it only by a command that
    succeeds, and a network that was removed has left it. -/
theorem Covered.step {early : Bool} (h : Covered early K t p) (hknown : Known t p)
    (hstep : Change Free p r x p') (hin : p'.Inside)
    (hgrow : ∀ {n}, n ∈ K' → n ∈ K ∨ Succeeds .add n ⟨id, r, x⟩)
    (hdrop : ∀ {n}, p.unsettled early = some n → p'.unsettled early ≠ some n → n ∉ K') :
    Covered early K' (r.tableAfter t) p' where
  mem := by
    intro n hn hset
    rcases hgrow hn with hK | hadd
    · have hpeer : t.get? n ≠ none := h.mem hK fun heq => hdrop heq hset hn
      refine get?_tableAfter ?_ ?_ hpeer
      · rintro rfl
        cases hstep with
        | aside => exact hin
        | remove => exact hset rfl
      · rintro q rfl
        cases hstep with
        | aside => exact hin
        | removeSame => exact h.fresh rfl hK
    · obtain ⟨q, rfl, rfl, rfl⟩ := hadd.eq_inserted hstep hin
      cases hstep with
      | added =>
          show t.get? q.network ≠ none
          rw [show t.get? q.network = some q from hknown]
          exact Option.some_ne_none q
  fresh := by
    intro q hq hn
    rcases hgrow hn with hK | hadd
    · cases hstep with
      | insert =>
          cases hq
          exact h.mem hK (fun heq => nomatch heq) hknown
      | issueAdd | refused =>
          cases hq
          exact h.fresh rfl hK
      | aside => exact hin
      | _ => exact nomatch hq
    · obtain ⟨-, -, -, hp'⟩ := hadd.eq_inserted hstep hin
      exact nomatch hq.symm.trans hp'

/-! ## Every peer has its route -/

/-- The networks with peers are in the set, up to that of a peer which has just been
    inserted. -/
structure Backed (K : Set Subnet) (t : RouteTable) (q : Phase) : Prop where
  mem : ∀ {n : Subnet} {p : Peer}, t.get? n = some p → q ≠ .inserted p → n ∈ K

/-- A step inside keeps the peers backed when networks go out of the set only by a command
    that succeeds, and the network of a peer that stays has come into it. -/
theorem Backed.step (h : Backed K t p) (hknown : Known t p) (hstep : Change Free p r x p')
    (hin : p'.Inside) (hkeep : ∀ {n}, n ∈ K → Succeeds .del n ⟨id, r, x⟩ ∨ n ∈ K')
    (hadd : ∀ {n}, Succeeds .add n ⟨id, r, x⟩ → n ∈ K') : Backed K' (r.tableAfter t) p' := by
  refine ⟨?_⟩
  intro n q hq hne
  cases hstep with
  | aside => exact hin.elim
  | queue => exact hin.elim
  | unlock => exact hin.elim
  | lock | networks | issueDel | connect =>
      exact (hkeep (h.mem hq fun heq => nomatch heq)).resolve_left False.elim
  | @remove g m =>
      have hq' : (t.erase m).get? n = some q := hq
      rw [RouteTable.get?_erase] at hq'
      by_cases hn : n = m
      · rw [if_pos hn] at hq'
        exact nomatch hq'
      · rw [if_neg hn] at hq'
        exact (hkeep (h.mem hq' fun heq => nomatch heq)).resolve_left False.elim
  | @deleted m y =>
      rcases hkeep (h.mem hq fun heq => nomatch heq) with hdel | hK'
      · -- the network of the command has no peer, so that it is another one
        cases y with
        | ok output =>
            obtain ⟨-, rfl⟩ := hdel
            exact absurd (show t.get? m = none from hknown)
              (ne_of_eq_of_ne hq (Option.some_ne_none q))
        | error e => exact hdel.elim
      · exact hK'
  | @insert u =>
      have hq' : (t.insert u).2.get? n = some q := hq
      rw [RouteTable.get?_insert] at hq'
      by_cases hn : n = u.network
      · rw [if_pos hn] at hq'
        cases hq'
        exact absurd rfl hne
      · rw [if_neg hn] at hq'
        exact (hkeep (h.mem hq' fun heq => nomatch heq)).resolve_left False.elim
  | issueAdd => exact (hkeep (h.mem hq hne)).resolve_left False.elim
  | refused => exact (hkeep (h.mem hq hne)).resolve_left False.elim
  | @added u output =>
      by_cases hu : Phase.inserted u = .inserted q
      · cases hu
        have hn : n = q.network := (RouteTable.network_of_get? hq).symm
        exact hadd ⟨rfl, hn.symm⟩
      · rcases hkeep (h.mem hq hu) with hdel | hK'
        · exact nomatch hdel.1
        · exact hK'
  | @removeSame u =>
      have hq' : (t.removeSame u.network u).2.get? n = some q := hq
      rw [RouteTable.removeSame_eq hknown, RouteTable.get?_erase] at hq'
      by_cases hn : n = u.network
      · rw [if_pos hn] at hq'
        exact nomatch hq'
      · rw [if_neg hn] at hq'
        refine (hkeep (h.mem hq' fun heq => hn ?_)).resolve_left False.elim
        cases heq
        exact (RouteTable.network_of_get? hq').symm

/-! ## Both together -/

/-- The network that the task inside has to do with. -/
def Phase.subject : Phase → Option Subnet
  | holding g => g
  | removing n => some n
  | removed n => some n
  | inserted p => some p.network
  | _ => none

/-- How the table and the routes fit while the task inside is in the phase. -/
structure Fits (tr : List (Exchange interface)) (t : RouteTable) (q : Phase) : Prop where
  known : Known t q
  backed : Backed (↑(installed tr)) t q
  covered : Obliging tr → Covered false (↑(installed tr)) t q
  subject : ∀ {n : Subnet}, q.subject = some n → working tr = some n

namespace Fits

variable {tr : List (Exchange interface)}

theorem start : Fits [] .empty .outside where
  known := trivial
  backed := ⟨fun h _ => nomatch h⟩
  covered := fun _ => ⟨fun h _ => absurd h (Finset.notMem_empty _), fun h => nomatch h⟩
  subject := fun h => nomatch h

/-- An exchange that is not about a peer or a route leaves the agreement alone. -/
theorem aside (h : Fits tr t p) (hr : r.Passive ∨ r = .queue) :
    Fits (tr ++ [⟨id, r, x⟩]) (r.tableAfter t) p := by
  have hroutes : installed (tr ++ [⟨id, r, x⟩]) = installed tr := by
    ext n
    rw [mem_installed_append]
    rcases hr with hr | rfl
    · cases r with
      | outcome => exact hr.elim
      | _ => simp [Succeeds]
    · simp [Succeeds]
  have hworking : working (tr ++ [⟨id, r, x⟩]) = working tr := by
    rw [working_append]
    rcases hr with hr | rfl
    · cases r with
      | lock | remove => exact hr.elim
      | _ => rfl
    · rfl
  rw [Request.tableAfter_eq hr]
  refine ⟨h.known, ?_, fun hobl => ?_, fun hn => ?_⟩
  · rw [hroutes]
    exact h.backed
  · rw [hroutes]
    exact h.covered hobl.of_append
  · rw [hworking]
    exact h.subject hn

theorem lock (h : Fits tr t .outside) {y : Unit} :
    Fits (tr ++ [⟨id, .lock, y⟩]) t (.holding none) := by
  refine ⟨trivial, ⟨?_⟩, fun hobl => ⟨?_, fun hq => nomatch hq⟩, fun hn => nomatch hn⟩
  · intro n q hq _
    exact mem_installed_append.mpr (Or.inr ⟨h.backed.mem hq (fun heq => nomatch heq), False.elim⟩)
  · intro n hn _
    have hn' := (mem_installed_append.mp hn).resolve_left False.elim
    exact (h.covered hobl.of_append).mem hn'.1 fun heq => nomatch heq

theorem unlock {g : Option Subnet} (h : Fits tr t (.holding g)) {y : Unit} :
    Fits (tr ++ [⟨id, .unlock, y⟩]) t .outside := by
  refine ⟨trivial, ⟨?_⟩, fun hobl => ⟨?_, fun hq => nomatch hq⟩, fun hn => nomatch hn⟩
  · intro n q hq _
    exact mem_installed_append.mpr (Or.inr ⟨h.backed.mem hq (fun heq => nomatch heq), False.elim⟩)
  · intro n hn _
    have hn' := (mem_installed_append.mp hn).resolve_left False.elim
    exact (h.covered hobl.of_append).mem hn'.1 fun heq => nomatch heq

/-- The network of the phase is the one that the trace names. -/
theorem working_of_step (h : Fits tr t p) (hstep : Change Free p r x p') (hin : p'.Inside)
    {n : Subnet} (hn : p'.subject = some n) : working (tr ++ [⟨id, r, x⟩]) = some n := by
  rw [working_append]
  cases hstep with
  | aside | queue | unlock => exact hin.elim
  | lock | added => exact nomatch hn
  | remove => exact hn
  | _ => exact h.subject hn

/-- The step of a task inside. -/
theorem inside (h : Fits tr t p) (hstep : Change Free p r x p') (hin : p'.Inside) :
    Fits (tr ++ [⟨id, r, x⟩]) (r.tableAfter t) p' := by
  refine ⟨h.known.step hstep hin, ?_, fun hobl => ?_, fun hn => h.working_of_step hstep hin hn⟩
  · have hkeep : ∀ {n : Subnet}, n ∈ installed tr →
        Succeeds .del n ⟨id, r, x⟩ ∨ n ∈ installed (tr ++ [⟨id, r, x⟩]) := by
      intro n hn
      by_cases hdel : Succeeds .del n ⟨id, r, x⟩
      · exact Or.inl hdel
      · exact Or.inr (mem_installed_append.mpr (Or.inr ⟨hn, hdel⟩))
    exact h.backed.step h.known hstep hin hkeep
      fun hadd => mem_installed_append.mpr (Or.inl hadd)
  · have hgrow : ∀ {n : Subnet}, n ∈ installed (tr ++ [⟨id, r, x⟩]) →
        n ∈ installed tr ∨ Succeeds .add n ⟨id, r, x⟩ := by
      intro n hn
      rcases mem_installed_append.mp hn with hadd | hold
      · exact Or.inr hadd
      · exact Or.inl hold.1
    refine (h.covered hobl.of_append).step h.known hstep hin hgrow ?_
    · -- only the end of a removal settles a network, and it is gone then whatever the outcome
      intro n hset hset' hn
      cases hstep with
      | aside => exact hin
      | issueDel => exact hset' hset
      | @deleted m y =>
          cases hset
          cases y with
          | ok output =>
              rcases mem_installed_append.mp hn with hadd | hold
              · exact nomatch hadd.1
              · exact hold.2 ⟨rfl, rfl⟩
          | error e =>
              rcases mem_installed_append.mp hn with hadd | hold
              · exact hadd
              · exact hobl.last rfl hold.1
      | _ => exact nomatch hset

end Fits

variable {σ : Type} {around : Surroundings σ} {device : String} {w : σ}
  {tr : List (Exchange interface)} {s : System interface (Server σ) Reply}

/-- The tasks stand in line, and the table and the routes fit. -/
structure Agrees (tr : List (Exchange interface)) (u : Server σ) (ph : TaskId → Phase) :
    Prop where
  line : Line tr u.line ph
  fits : Guards (Fits tr u.table) ph

/-- Every exchange keeps the agreement. -/
theorem Agrees.step {u u' : Server σ} {ph : TaskId → Phase} (h : Agrees tr u ph)
    (hstep : Change Request.Passive (ph id) r x p') (hx : u.answer around id r = some (x, u')) :
    Agrees (tr ++ [⟨id, r, x⟩]) u' (Function.update ph id p') := by
  have ha := answers_of_answer hx
  refine ⟨?_, ?_⟩
  · rw [ha.line]
    exact h.line.step (fun _ hr => hr) hstep ha.shows
  · rw [ha.table]
    refine h.fits.step h.line hstep ha.shows (fun hr _ hq => hq.aside hr) ?_ ?_ ?_
    · rintro rfl hq
      exact hq.lock
    · rintro rfl hq
      generalize ph id = p at hstep hq
      cases hstep with
      | unlock => exact hq.unlock
      | aside hr => exact hr.elim
    · intro _ hin hq
      exact hq.inside hstep hin

/-- The agreement holds in every run, while the tasks keep the discipline of the lock. -/
theorem Called.agrees_keeps (h : Called around device w tr s) :
    ∃ ph, Agrees tr s.state ph ∧
      s.Keeps (changing Request.Passive) (fun q _ => q = Phase.outside) Phase.outside ph := by
  have hcall : ∀ {c : Call}, c.task.Keeps (changing Request.Passive)
      (fun q _ => q = Phase.outside) Phase.outside := Call.keeps (Or.inr fun _ => trivial)
  have hstart : System.Keeps (changing Request.Passive) (fun q (_ : Reply) => q = Phase.outside)
      Phase.outside (⟨{ device, outside := w }, []⟩ : System interface (Server σ) Reply)
      (fun _ => Phase.outside) := ⟨fun ha => (nomatch ha), fun _ => rfl⟩
  have hinit : Agrees [] ({ device, outside := w } : Server σ) fun _ => Phase.outside :=
    ⟨Line.nil, Guards.of_outside Fits.start⟩
  exact System.Runs.keeps Agrees (fun hx => (answers_of_answer hx).possible) hstart hinit
    (fun _ hinv hstep hx => hinv.step hstep hx)
    (fun ⟨c, hc⟩ => hc ▸ hcall) (fun hinv ⟨v, hv⟩ => hv ▸ ⟨hinv.line, hinv.fits⟩) h

/-- What fits while the task inside is in the phase is equal up to one network. -/
theorem Fits.mem_networks_iff {t : RouteTable} {q : Phase} (h : Fits tr t q) (hobl : Obliging tr)
    {n : Subnet} (hn : working tr ≠ some n) : n ∈ t.networks ↔ n ∈ installed tr := by
  have hsubject : q.subject ≠ some n := fun heq => hn (h.subject heq)
  rw [RouteTable.mem_networks_iff]
  constructor
  · intro hne
    obtain ⟨p, hp⟩ := Option.ne_none_iff_exists'.mp hne
    refine h.backed.mem hp fun heq => hsubject ?_
    rw [heq, ← RouteTable.network_of_get? hp]
    rfl
  · intro hmem
    refine (h.covered hobl).mem hmem fun heq => hsubject ?_
    cases q with
    | removing m => exact heq
    | removed m => exact heq
    | _ => exact nomatch heq

/-- **The table and the routes stay in step.**  While nobody holds the lock, a network in the
    table has its route.  If removals fail only for networks without a route, the table and the
    routes are then the same, and while somebody holds the lock they differ at most in the
    network that this task works on. -/
theorem Called.table_routes (h : Called around device w tr s) :
    (holder tr = none → ∀ n ∈ s.state.table.networks, n ∈ installed tr) ∧
      (Obliging tr →
        (holder tr = none → ∀ n, n ∈ s.state.table.networks ↔ n ∈ installed tr) ∧
          ∀ i, holder tr = some i → ∀ n, working tr ≠ some n →
            (n ∈ s.state.table.networks ↔ n ∈ installed tr)) := by
  obtain ⟨ph, hagrees, -⟩ := h.agrees_keeps
  have hfree : holder tr = none → Fits tr s.state.table .outside := by
    intro hnone
    refine hagrees.fits.outside fun i hi => ?_
    have hi' := hagrees.line.inside_iff.mp hi
    exact nomatch hnone.symm.trans hi'
  have hpeers : holder tr = none → ∀ n ∈ s.state.table.networks, n ∈ installed tr := by
    intro hnone n hn
    obtain ⟨p, hp⟩ := Option.ne_none_iff_exists'.mp (RouteTable.mem_networks_iff.mp hn)
    exact (hfree hnone).backed.mem hp fun heq => nomatch heq
  refine ⟨hpeers, fun hobl => ⟨fun hnone n => ⟨hpeers hnone n, fun hn => ?_⟩, ?_⟩⟩
  · exact RouteTable.mem_networks_iff.mpr
      (((hfree hnone).covered hobl).mem hn fun heq => nomatch heq)
  · intro i hi n hn
    exact (hagrees.fits.inside (hagrees.line.inside_iff.mpr hi)).mem_networks_iff hobl hn

/-- A host is added and then deleted; here the table has lost the peer already, while the route
    is still there. -/
theorem Called.table_routes_during_removal :
    ∃ tr s n, Called Scene.around "loom0" { reach := .everything, device := .channel {} } tr s ∧
      Obliging tr ∧ holder tr = some 1 ∧ working tr = some n ∧ n ∈ installed tr ∧
      n ∉ s.state.table.networks ∧
      ∀ m, working tr ≠ some m → (m ∈ s.state.table.networks ↔ m ∈ installed tr) := by
  let host : Host := ⟨"192.0.2.1:7000", "10.1.0.0/16"⟩
  let n : Subnet := ⟨.ofOctets 10 1 0 0, 16, by decide⟩
  let start : System interface (Server Scene) Reply :=
    ⟨{ device := "loom0", outside := { reach := .everything, device := .channel {} } },
      [Call.add host, Call.del host].map Call.task⟩
  have hfinds : (start.play (Server.machine Scene.around)
      (List.replicate 10 0 ++ List.replicate 3 1)).any (fun (tr, s) =>
        decide (Obliging tr ∧ holder tr = some 1 ∧ working tr = some n ∧ n ∈ installed tr ∧
          n ∉ s.state.table.networks)) = true := by
    decide +kernel
  obtain ⟨⟨tr, s⟩, hplay, hfacts⟩ := (Option.any_eq_true _ _).mp hfinds
  have hrun := Called.of_play hplay
  obtain ⟨hobl, hholder, hworking, hroute, hpeer⟩ := of_decide_eq_true hfacts
  exact ⟨tr, s, n, hrun, hobl, hholder, hworking, hroute, hpeer,
    (hrun.table_routes.2 hobl).2 1 hholder⟩

end Overlay.Tunnel
