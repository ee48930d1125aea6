import Overlay.Proofs.Tunnel.Performing

/-!
# Adding a host is all or nothing

A host is added after the peer that its network had before is gone, and three things can
still fail: the connection, the command for the route, and before all that the name of the
network.  `addPeer_all_or_nothing` says what is left in each case.  The network of the host
has the new connection or no peer at all; no other network is touched.

A change of the peers waits for nothing but the lock and the route commands
(`exists_advance`).  So it comes to its end when the lock is free and the commands return.
-/

namespace Overlay.Tunnel

variable {σ α : Type} {around : Surroundings σ} {others : Server σ → Server σ → Prop}
  {id : TaskId} {s : Server σ}

/-! ## Changes come to their end -/

/-- The line when only one task has to do with the lock and is in the phase. -/
def Phase.lineOf (id : TaskId) : Phase → List TaskId
  | outside => []
  | _ => [id]

/-- A task that nobody competes with is answered whatever it asks for in a change. -/
theorem exists_answer (hreturns : Returns around) {ph ph' : Phase} {r : Request} {y : r.Answer}
    (hstep : Change (fun _ => False) ph r y ph') (hline : s.line = ph.lineOf id) :
    ∃ x u, s.answer around id r = some (x, u) := by
  cases hstep with
  | aside hr => exact hr.elim
  | lock =>
      have hhead : s.line.head? = some id := by
        rw [hline]
        rfl
      exact ⟨(), s, if_pos hhead⟩
  | @deleted n =>
      obtain ⟨⟨x, w⟩, hx⟩ := hreturns .del n s.device s.outside
      exact ⟨x, { s with outside := w }, by simp only [Server.answer, hx, Option.map_some]⟩
  | @added p | @refused p =>
      obtain ⟨⟨x, w⟩, hx⟩ := hreturns .add p.network s.device s.outside
      exact ⟨x, { s with outside := w }, by simp only [Server.answer, hx, Option.map_some]⟩
  | @connect n host =>
      simp only [Server.answer]
      split
      · exact ⟨_, _, rfl⟩
      · exact ⟨_, _, rfl⟩
  | queue | unlock | networks | remove | issueDel | insert | issueAdd | removeSame =>
      exact ⟨_, _, rfl⟩

/-- A change goes from line to line as it goes from phase to phase. -/
theorem Change.lineAfter {ph ph' : Phase} {r : Request} {x : r.Answer}
    (hstep : Change (fun _ => False) ph r x ph') :
    r.lineAfter id (ph.lineOf id) = ph'.lineOf id := by
  cases hstep with
  | aside hr => exact hr.elim
  | _ => rfl

/-- **A change of the peers comes to its end** when no other task has to do with the lock, and
    the lock is free then. -/
theorem exists_advance (hreturns : Returns around) {p : Work α} {ph : Phase}
    (hk : p.Keeps (changing fun _ => False) (fun q _ => q = Phase.outside) ph)
    (hline : s.line = ph.lineOf id) :
    ∃ a s', p.advance (Server.machine around) id s = (.done a, s') ∧ s'.line = [] := by
  induction p generalizing s ph with
  | done a =>
      obtain rfl : ph = .outside := hk
      exact ⟨a, s, rfl, hline⟩
  | ask r next ih =>
      obtain ⟨y, hy⟩ := exists_plausible r
      obtain ⟨_, hstep, -⟩ := hk y hy
      obtain ⟨x, u, hx⟩ := exists_answer hreturns hstep hline
      have ha := answers_of_answer hx
      obtain ⟨ph', hstep', hnext⟩ := hk x ha.possible
      have hline' : u.line = ph'.lineOf id := by
        rw [ha.line, hline]
        exact hstep'.lineAfter
      obtain ⟨a, s', hrest, hfree⟩ := ih x hnext hline'
      refine ⟨a, s', ?_, hfree⟩
      simp only [Program.advance, Server.machine, hx]
      exact hrest

/-! ## What is left of an addition -/

/-- What an addition comes to, by the outcome of the connection: the commands that were given,
    the result, and the peer that the network has afterwards. -/
def Comes (id : TaskId) (n : Subnet) (host : Host) (tr : List (Exchange interface))
    (r : Except TunnelError Unit) (peer : Option Peer) : Except IoError Peer → Prop
  | .error e =>
    commands tr = [(.del, n)] ∧ r = .error (.connect host.address e) ∧ peer = none
  | .ok p =>
    commands tr = [(.del, n), (.add, n)] ∧ p.network = n ∧ p.host = host ∧
      ∃ y, ⟨id, .outcome .add n, y⟩ ∈ tr ∧
        match y with
        | .ok _ => r = .ok () ∧ peer = some p
        | .error e => r = .error (.route e) ∧ peer = none

/-- The ways to connect a host are those in which an addition comes out, once the network has
    no peer. -/
theorem Connects.comes {n : Subnet} {host : Host} {t t' : RouteTable}
    {tr : List (Exchange interface)} {r : Except TunnelError Unit} {old : Option Peer}
    {y : Except RouteError String} (hc : Connects id n host t tr r t') (hnone : t.get? n = none) :
    ∃ x, ⟨id, .connect n host, x⟩ ∈ locked id (removal id n old y ++ tr) ∧
      Comes id n host (locked id (removal id n old y ++ tr)) r (t'.get? n) x := by
  have hcommands : commands (locked id (removal id n old y ++ tr)) = (.del, n) :: commands tr :=
    commands_locked id _
  have hmem {e : Exchange interface} (he : e ∈ tr) : e ∈ locked id (removal id n old y ++ tr) :=
    mem_locked (List.mem_append_right _ he)
  cases hc with
  | failed e => exact ⟨.error e, hmem List.mem_cons_self, hcommands, rfl, hnone⟩
  | @refused p q e hn hhost =>
      refine ⟨.ok p, hmem List.mem_cons_self, hcommands, hn, hhost, .error e, hmem ?_, rfl, ?_⟩
      · exact List.mem_of_getElem? (i := 3) rfl
      · rw [RouteTable.get?_erase, if_pos rfl]
  | @routed p q output hn hhost =>
      refine ⟨.ok p, hmem List.mem_cons_self, hcommands, hn, hhost, .ok output, hmem ?_, rfl, ?_⟩
      · exact List.mem_of_getElem? (i := 3) rfl
      · rw [RouteTable.get?_insert, if_pos hn.symm]

/-- Nothing that can go wrong with a connection is about the name of the network. -/
theorem Connects.ne_host {n : Subnet} {host : Host} {t t' : RouteTable}
    {tr : List (Exchange interface)} {r : Except TunnelError Unit}
    (hc : Connects id n host t tr r t') (e : CidrError) : r ≠ .error (.host e) := by
  cases hc with
  | failed | refused | routed => exact fun heq => nomatch heq

/-- **Adding a host is all or nothing for its own network, and nothing for any other.** -/
theorem addPeer_all_or_nothing (hidle : ∀ s, others s s) (hothers : KeepsTable others)
    (host : Host) (s : Server σ) :
    (∀ tr r s', Performs around others id (addPeer host) s tr r s' →
      ((∃ e, r = .error (.host e)) ↔ ∃ e, host.network = .error e) ∧
      ((∃ e, host.network = .error e) → s'.table = s.table ∧ commands tr = []) ∧
      ∀ n, host.network = .ok n →
        (∀ m, m ≠ n → s'.table.get? m = s.table.get? m) ∧
        ∃ x, ⟨id, .connect n host, x⟩ ∈ tr ∧ Comes id n host tr r (s'.table.get? n) x) ∧
    (s.line = [] → Returns around →
      ∃ tr r s', (addPeer host).advance (Server.machine around) id s = (.done r, s') ∧
        Performs around others id (addPeer host) s tr r s') := by
  refine ⟨fun tr r s' h => ?_, fun hline hreturns => ?_⟩
  · rcases Performs.addPeer_inv hothers h with ⟨e, hn, rfl, rfl, rfl⟩ | ⟨n, y, tr', hn, rfl, hc⟩
    · refine ⟨⟨fun _ => ⟨e, hn⟩, fun _ => ⟨e, rfl⟩⟩, fun _ => ⟨rfl, rfl⟩, fun n hn' => ?_⟩
      exact nomatch hn.symm.trans hn'
    · have hnot : ¬∃ e, host.network = .error e := fun ⟨e, he⟩ => nomatch hn.symm.trans he
      refine ⟨iff_of_false (fun ⟨e, he⟩ => hc.ne_host e he) hnot, fun he => absurd he hnot, ?_⟩
      intro m hm
      obtain rfl : n = m := Except.ok.inj (hn.symm.trans hm)
      refine ⟨fun m hm => ?_, hc.comes ?_⟩
      · rw [hc.get?_of_ne hm, RouteTable.get?_erase, if_neg hm]
      · rw [RouteTable.get?_erase, if_pos rfl]
  · have hk : (addPeer host).Keeps (changing fun _ => False) (fun q _ => q = Phase.outside)
        Phase.outside := addPeer_keeps fun _ => rfl
    obtain ⟨r, s', hadvance, -⟩ := exists_advance hreturns hk hline
    obtain ⟨tr, hperforms⟩ := Performs.of_advance hidle hadvance
    exact ⟨tr, r, s', hadvance, hperforms⟩

/-- Surroundings in which every connection is made and every route command is refused. -/
def refusing : Surroundings Unit where
  connect _ w := (.ok (.v4 (.ofOctets 192 0 2 2) 7000), w)
  issue _ _ _ w := w
  outcome _ _ _ w := some (.error (.failed "route" "exit status: 7" ""), w)
  report _ w := w
  send _ _ w := (.ok (), w)
  read _ _ := none
  write _ w := some (.ok (), w)
  receive _ _ := none

/-- A network has a peer.  Another host is added for it, under one of its addresses, and the
    route is refused: the network has no peer any more. -/
theorem addPeer_of_refused_route :
    ∃ (n : Subnet) (old : Peer) (s s' : Server Unit) (tr : List (Exchange interface))
      (e : RouteError),
      s.table.get? n = some old ∧ old.network = n ∧ s.line = [] ∧
      (addPeer ⟨"192.0.2.2:7000", " 10.1.2.3/16 "⟩).advance (Server.machine refusing) 3 s =
        (.done (.error (.route e)), s') ∧
      commands tr = [(.del, n), (.add, n)] ∧ s'.table.get? n = none := by
  let n : Subnet := ⟨.ofOctets 10 1 0 0, 16, by decide⟩
  let host : Host := ⟨"192.0.2.2:7000", " 10.1.2.3/16 "⟩
  let old : Peer := ⟨0, n, ⟨"192.0.2.1:7000", "10.1.0.0/16"⟩, .v4 (.ofOctets 192 0 2 1) 7000⟩
  let s : Server Unit :=
    { device := "loom0", table := (RouteTable.empty.insert old).2, nextId := 1, outside := () }
  have hn : host.network = .ok n := by
    have hread : Cidr.read? host.cidr.toList = some n := by decide +kernel
    rw [Host.network, Cidr.read, hread]
  obtain ⟨hperformed, hends⟩ := @addPeer_all_or_nothing Unit refusing (fun s t => t = s) 3
    (fun _ => rfl) (fun _ _ h => h ▸ rfl) host s
  obtain ⟨tr, r, s', hadvance, hperforms⟩ := hends rfl fun _ _ _ _ => ⟨_, rfl⟩
  have hrefused : ∃ e u, (addPeer host).advance (Server.machine refusing) 3 s =
      (.done (.error (.route e)), u) := by
    unfold addPeer
    rw [hn]
    exact ⟨_, _, rfl⟩
  obtain ⟨e, u, hu⟩ := hrefused
  obtain ⟨rfl, rfl⟩ : r = .error (.route e) ∧ s' = u := by
    have heq := hadvance.symm.trans hu
    exact ⟨Program.done.inj (Prod.mk.inj heq).1, (Prod.mk.inj heq).2⟩
  obtain ⟨-, -, hcomes⟩ := hperformed tr _ s' hperforms
  obtain ⟨-, x, -, hx⟩ := hcomes n hn
  refine ⟨n, old, s, s', tr, e, by decide, rfl, rfl, hadvance, ?_⟩
  cases x with
  | error _ => exact nomatch hx.2.1
  | ok p =>
      obtain ⟨hcommands, -, -, y, -, hy⟩ := hx
      cases y with
      | ok _ => exact nomatch hy.1
      | error _ => exact ⟨hcommands, hy.2⟩

end Overlay.Tunnel
