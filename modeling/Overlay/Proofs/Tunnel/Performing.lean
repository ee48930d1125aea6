import Overlay.Proofs.Task.Performing
import Overlay.Proofs.Tunnel.Serial

/-!
# One operation from beginning to end

`Performs` follows the program of one task from its first request to its result: what it has
asked for and been answered, and the server before and after.  Between its requests others
go on; what they may do to the server is a parameter.  The operations on the peers hold the
lock while they change the table, so that nobody else does.  All other things may change at
any time, the surroundings in particular, and every answer of theirs is possible.

For each operation one lemma says all of this: its exchanges one by one, its result and the
table after it.
-/

namespace Overlay.Tunnel

variable {σ α β : Type}

/-! ## Following a program -/

/-- The task performs the program: its exchanges in order, its result and the server after it. -/
inductive Performs (around : Surroundings σ) (others : Server σ → Server σ → Prop) (id : TaskId) :
    Work α → Server σ → List (Exchange interface) → α → Server σ → Prop where
  /-- The result is there. -/
  | done (a : α) (s : Server σ) : Performs around others id (.done a) s [] a s
  /-- Others go on, then the next request is answered. -/
  | ask {r : Request} {next : r.Answer → Work α} {s t u s' : Server σ} {x : r.Answer}
      {tr : List (Exchange interface)} {a : α} :
      others s t → t.answer around id r = some (x, u) →
        Performs around others id (next x) u tr a s' →
        Performs around others id (.ask r next) s (⟨id, r, x⟩ :: tr) a s'

/-- Others leave the table alone. -/
def KeepsTable (others : Server σ → Server σ → Prop) : Prop :=
  ∀ s t, others s t → t.table = s.table

/-- Route commands return. -/
def Returns (around : Surroundings σ) : Prop :=
  ∀ action n device w, ∃ x, around.outcome action n device w = some x

variable {around : Surroundings σ} {others : Server σ → Server σ → Prop} {id : TaskId}
  {s s' : Server σ} {tr : List (Exchange interface)}

/-- The task performs the program on the machine of the server. -/
theorem performs_iff {p : Work α} {a : α} :
    Performs around others id p s tr a s' ↔
      Program.Performs (Server.machine around) others id p s tr a s' := by
  constructor
  · intro h
    induction h with
    | done a s => exact .done a s
    | ask ht hx _ ih => exact .ask ht hx ih
  · intro h
    induction h with
    | done a s => exact .done a s
    | ask ht hx _ ih => exact .ask ht hx ih

namespace Performs

/-- A program that is done asks for nothing. -/
theorem done_inv {a b : α} (h : Performs around others id (.done a) s tr b s') :
    tr = [] ∧ b = a ∧ s' = s :=
  (performs_iff.mp h).done_inv

/-- The first request is answered as the table says, and changes the table as it says. -/
theorem ask_inv {r : Request} {next : r.Answer → Work α} {a : α} (hothers : KeepsTable others)
    (h : Performs around others id (.ask r next) s tr a s') :
    ∃ x tr' u line, tr = ⟨id, r, x⟩ :: tr' ∧ Plausible r x ∧ Shows id line s.table r x ∧
      u.table = r.tableAfter s.table ∧ Performs around others id (next x) u tr' a s' := by
  cases h with
  | @ask _ _ _ t u _ x tr' _ ht hx hnext =>
      have ha := answers_of_answer hx
      rw [← hothers _ _ ht]
      exact ⟨x, tr', u, t.line, rfl, ha.possible, ha.shows, ha.table, hnext⟩

/-- A program after another one. -/
theorem bind_inv {p : Work α} {f : α → Work β} {b : β}
    (h : Performs around others id (p >>= f) s tr b s') :
    ∃ a u tr₁ tr₂, Performs around others id p s tr₁ a u ∧
      Performs around others id (f a) u tr₂ b s' ∧ tr = tr₁ ++ tr₂ := by
  obtain ⟨a, u, tr₁, tr₂, hp, hf, rfl⟩ := (performs_iff.mp h).bind_inv
  exact ⟨a, u, tr₁, tr₂, performs_iff.mpr hp, performs_iff.mpr hf, rfl⟩

theorem bind {p : Work α} {f : α → Work β} {a : α} {b : β} {u : Server σ}
    {tr' : List (Exchange interface)} (h : Performs around others id p s tr a u)
    (h' : Performs around others id (f a) u tr' b s') :
    Performs around others id (p >>= f) s (tr ++ tr') b s' := by
  induction h with
  | done => exact h'
  | ask ht hx _ ih => exact .ask ht hx (ih h')

theorem map_inv {p : Work α} {f : α → β} {b : β}
    (h : Performs around others id (f <$> p) s tr b s') :
    ∃ a, Performs around others id p s tr a s' ∧ b = f a := by
  obtain ⟨a, u, tr₁, tr₂, hp, hf, rfl⟩ := bind_inv (f := fun a => .done (f a)) h
  obtain ⟨rfl, rfl, rfl⟩ := done_inv hf
  rw [List.append_nil]
  exact ⟨a, hp, rfl⟩

/-- What is asked for in a program that keeps a protocol is a step of it. -/
theorem steps {P : Protocol interface} {Ends : P.Phase → α → Prop} {p : Work α} {ph : P.Phase}
    {a : α} (hpossible : ∀ r x, Plausible r x → P.Possible r x)
    (h : Performs around others id p s tr a s') (hk : p.Keeps P Ends ph) :
    ∀ e ∈ tr, ∃ q q', P.Step q e.request e.answer q' := by
  induction h generalizing ph with
  | done => exact fun e he => absurd he List.not_mem_nil
  | @ask r next _ _ _ _ x _ _ _ hx _ ih =>
      obtain ⟨q, hstep, hnext⟩ := hk x (hpossible r x (answers_of_answer hx).possible)
      intro e he
      rcases List.mem_cons.mp he with rfl | he
      · exact ⟨ph, q, hstep⟩
      · exact ih hnext e he

/-- A program that goes on to its end when nothing else happens is performed. -/
theorem of_advance {p : Work α} {a : α} (hothers : ∀ s, others s s)
    (h : p.advance (Server.machine around) id s = (.done a, s')) :
    ∃ tr, Performs around others id p s tr a s' :=
  ⟨_, performs_iff.mpr (.of_advance hothers h)⟩

/-- It is performed if it has a result then. -/
theorem of_result? {p : Work α} {a : α} (hothers : ∀ s, others s s)
    (h : (p.advance (Server.machine around) id s).1.result? = some a) :
    ∃ tr, Performs around others id p s tr a (p.advance (Server.machine around) id s).2 := by
  refine of_advance hothers (Prod.ext ?_ rfl)
  cases hprogram : (p.advance (Server.machine around) id s).1 with
  | done b =>
      rw [hprogram] at h
      exact congrArg Program.done (Option.some.inj h)
  | ask r next =>
      rw [hprogram] at h
      cases h

end Performs

/-! ## The exchanges of the operations -/

/-- The exchanges of a change that is made under the lock. -/
def locked (id : TaskId) (tr : List (Exchange interface)) : List (Exchange interface) :=
  ⟨id, .queue, ()⟩ :: ⟨id, .lock, ()⟩ :: (tr ++ [⟨id, .unlock, ()⟩])

theorem commands_locked (id : TaskId) (tr : List (Exchange interface)) :
    commands (locked id tr) = commands tr := by
  show commands (tr ++ [⟨id, .unlock, ()⟩]) = commands tr
  rw [commands_append]
  exact List.append_nil _

theorem mem_locked {tr : List (Exchange interface)} {e : Exchange interface} (h : e ∈ tr) :
    e ∈ locked id tr :=
  List.mem_cons_of_mem _ (List.mem_cons_of_mem _ (List.mem_append_left _ h))

/-- The networks whose routes were added, the oldest first. -/
def additions (tr : List (Exchange interface)) : List Subnet :=
  tr.filterMap fun e =>
    match e with
    | ⟨_, .outcome .add n, .ok _⟩ => some n
    | _ => none

theorem additions_append (tr tr' : List (Exchange interface)) :
    additions (tr ++ tr') = additions tr ++ additions tr' := List.filterMap_append

theorem additions_locked (id : TaskId) (tr : List (Exchange interface)) :
    additions (locked id tr) = additions tr := by
  show additions (tr ++ [⟨id, .unlock, ()⟩]) = additions tr
  rw [additions_append]
  exact List.append_nil _

/-- The exchanges of the removal of a network: the peer that it had, and the outcome of the
    command. -/
def removal (id : TaskId) (n : Subnet) (old : Option Peer) (y : Except RouteError String) :
    List (Exchange interface) :=
  [⟨id, .remove n, old⟩, ⟨id, .issue .del n, ()⟩, ⟨id, .outcome .del n, y⟩]

/-- How a host behind a network is connected, once the network has no peer in the table: the
    exchanges, the result and the table after it. -/
inductive Connects (id : TaskId) (n : Subnet) (h : Host) (t : RouteTable) :
    List (Exchange interface) → Except TunnelError Unit → RouteTable → Prop where
  /-- There is no connection. -/
  | failed (e : IoError) :
      Connects id n h t [⟨id, .connect n h, .error e⟩] (.error (.connect h.address e)) t
  /-- The route is refused, and the connection is taken back. -/
  | refused {p : Peer} (q : Option Peer) (e : RouteError) :
      p.network = n → p.host = h →
      Connects id n h t
        [⟨id, .connect n h, .ok p⟩, ⟨id, .insert p, q⟩, ⟨id, .issue .add n, ()⟩,
          ⟨id, .outcome .add n, .error e⟩, ⟨id, .removeSame n p, some p⟩]
        (.error (.route e)) ((t.insert p).2.erase n)
  /-- The route is there. -/
  | routed {p : Peer} (q : Option Peer) (output : String) :
      p.network = n → p.host = h →
      Connects id n h t
        [⟨id, .connect n h, .ok p⟩, ⟨id, .insert p, q⟩, ⟨id, .issue .add n, ()⟩,
          ⟨id, .outcome .add n, .ok output⟩]
        (.ok ()) (t.insert p).2

/-- Whatever comes of it, the other networks keep their peers. -/
theorem Connects.get?_of_ne {n m : Subnet} {h : Host} {t t' : RouteTable}
    {r : Except TunnelError Unit} (hc : Connects id n h t tr r t') (hm : m ≠ n) :
    t'.get? m = t.get? m := by
  cases hc with
  | failed => rfl
  | refused q e hn =>
      rw [RouteTable.get?_erase, if_neg hm, RouteTable.get?_insert, hn, if_neg hm]
  | routed q output hn => rw [RouteTable.get?_insert, hn, if_neg hm]

/-- The network has the new connection afterwards, or no peer at all. -/
theorem Connects.get?_eq {n : Subnet} {h : Host} {t t' : RouteTable} {r : Except TunnelError Unit}
    (hc : Connects id n h t tr r t') (hnone : t.get? n = none) :
    (r = .ok () ∧ ∃ p, t'.get? n = some p ∧ p.network = n ∧ p.host = h ∧
      ⟨id, .connect n h, .ok p⟩ ∈ tr) ∨ (∃ e, r = .error e) ∧ t'.get? n = none := by
  cases hc with
  | failed e => exact Or.inr ⟨⟨_, rfl⟩, hnone⟩
  | refused q e hn =>
      refine Or.inr ⟨⟨_, rfl⟩, ?_⟩
      rw [RouteTable.get?_erase, if_pos rfl]
  | @routed p q output hn hhost =>
      refine Or.inl ⟨rfl, p, ?_, hn, hhost, List.mem_cons_self⟩
      rw [RouteTable.get?_insert, if_pos hn.symm]

/-- Hosts are added one after the other, each with the result of its own addition: the
    exchanges of all of them. -/
inductive AddsEach (around : Surroundings σ) (others : Server σ → Server σ → Prop) (id : TaskId) :
    List (Host × Except TunnelError Unit) → Server σ → List (Exchange interface) → Server σ →
      Prop where
  /-- There is no host. -/
  | nil (s : Server σ) : AddsEach around others id [] s [] s
  /-- A host is added, and then the others. -/
  | cons {h : Host} {r : Except TunnelError Unit} {adds : List (Host × Except TunnelError Unit)}
      {s u s' : Server σ} {tr tr' : List (Exchange interface)} :
      Performs around others id (addPeer h) s tr r u → AddsEach around others id adds u tr' s' →
        AddsEach around others id ((h, r) :: adds) s (tr ++ tr') s'

/-- The hosts whose addition has failed, with their errors. -/
def failures (adds : List (Host × Except TunnelError Unit)) : List (Host × TunnelError) :=
  adds.filterMap fun (h, r) =>
    match r with
    | .ok _ => none
    | .error e => some (h, e)

/-- To add hosts is to add each of them and to list those that have failed. -/
theorem Performs.addPeers_inv {hosts : List Host} {failed : List (Host × TunnelError)}
    (h : Performs around others id (addPeers hosts) s tr failed s') :
    ∃ adds, adds.map Prod.fst = hosts ∧ failed = failures adds ∧
      AddsEach around others id adds s tr s' := by
  induction hosts generalizing s s' tr failed with
  | nil =>
      obtain ⟨rfl, rfl, rfl⟩ := done_inv h
      exact ⟨[], rfl, rfl, .nil s'⟩
  | cons host hosts ih =>
      obtain ⟨r, u, tr₁, tr₂, hfirst, hnext, rfl⟩ := bind_inv h
      obtain ⟨rest, v, tr₃, tr₄, hrest, hlast, rfl⟩ := bind_inv hnext
      obtain ⟨adds, rfl, rfl, hadds⟩ := ih hrest
      refine ⟨(host, r) :: adds, rfl, ?_⟩
      cases r with
      | ok _ =>
          obtain ⟨rfl, rfl, rfl⟩ := done_inv hlast
          rw [List.append_nil]
          exact ⟨rfl, .cons hfirst hadds⟩
      | error e =>
          obtain ⟨rfl, rfl, rfl⟩ := done_inv hlast
          rw [List.append_nil]
          exact ⟨rfl, .cons hfirst hadds⟩

namespace Performs

variable (hothers : KeepsTable others)
include hothers

theorem removeNetwork_inv {n : Subnet} {b : Bool}
    (h : Performs around others id (removeNetwork n) s tr b s') :
    (∃ y, tr = removal id n (s.table.get? n) y) ∧ b = (s.table.get? n).isSome ∧
      s'.table = s.table.erase n := by
  obtain ⟨old, _, s₁, _, rfl, -, hold, ht₁, h⟩ := ask_inv hothers h
  obtain ⟨_, _, s₂, _, rfl, -, -, ht₂, h⟩ := ask_inv hothers h
  obtain ⟨y, _, s₃, _, rfl, -, -, ht₃, h⟩ := ask_inv hothers h
  obtain ⟨rfl, rfl, rfl⟩ := done_inv h
  obtain rfl : old = s.table.get? n := hold
  refine ⟨⟨y, rfl⟩, rfl, ?_⟩
  rw [ht₃, ht₂, ht₁]
  rfl

theorem connectNetwork_inv {n : Subnet} {host : Host} {r : Except TunnelError Unit}
    (h : Performs around others id (connectNetwork n host) s tr r s') :
    ∃ y tr', tr = removal id n (s.table.get? n) y ++ tr' ∧
      Connects id n host (s.table.erase n) tr' r s'.table := by
  obtain ⟨_, s₀, tr₀, tr', hfirst, hnext, rfl⟩ := bind_inv h
  obtain ⟨found, hremove, -⟩ := map_inv hfirst
  obtain ⟨⟨y, rfl⟩, -, ht₀⟩ := removeNetwork_inv hothers hremove
  refine ⟨y, tr', rfl, ?_⟩
  rw [← ht₀]
  obtain ⟨connected, _, s₁, _, rfl, hconnected, -, ht₁, hnext⟩ := ask_inv hothers hnext
  have ht₁ : s₁.table = s₀.table := ht₁
  cases connected with
  | error e =>
      obtain ⟨rfl, rfl, rfl⟩ := done_inv hnext
      rw [ht₁]
      exact .failed e
  | ok p =>
      obtain ⟨hn, hhost⟩ : p.network = n ∧ p.host = host := hconnected
      obtain ⟨q, _, s₂, _, rfl, -, -, ht₂, hnext⟩ := ask_inv hothers hnext
      obtain ⟨_, _, s₃, _, rfl, -, -, ht₃, hnext⟩ := ask_inv hothers hnext
      obtain ⟨added, _, s₄, _, rfl, -, -, ht₄, hnext⟩ := ask_inv hothers hnext
      have ht₄ : s₄.table = (s₀.table.insert p).2 := by
        rw [ht₄, ← ht₁]
        exact ht₃.trans ht₂
      cases added with
      | ok output =>
          obtain ⟨rfl, rfl, rfl⟩ := done_inv hnext
          rw [ht₄]
          exact .routed q output hn hhost
      | error e =>
          obtain ⟨same, _, s₅, line, rfl, -, hsame, ht₅, hnext⟩ := ask_inv hothers hnext
          obtain ⟨rfl, rfl, rfl⟩ := done_inv hnext
          -- nobody has changed the table, so that the connection is still there
          have hthere : s₄.table.get? n = some p := by
            rw [ht₄, RouteTable.get?_insert, if_pos hn.symm]
          have hsame : same = (s₄.table.removeSame n p).1 := hsame
          have ht₅ : s'.table = (s₄.table.removeSame n p).2 := ht₅
          rw [RouteTable.removeSame_eq hthere] at hsame ht₅
          rw [hsame, ht₅, ht₄]
          exact .refused q e hn hhost

theorem locked_inv {body : Work α} {a : α}
    (h : Performs around others id
      (acquire >>= fun _ => body >>= fun a => Tunnel.ask .unlock >>= fun _ => pure a) s tr a s') :
    ∃ u tr' v, u.table = s.table ∧ Performs around others id body u tr' a v ∧
      s'.table = v.table ∧ tr = locked id tr' := by
  obtain ⟨_, _, s₁, _, rfl, -, -, ht₁, h⟩ := ask_inv hothers h
  obtain ⟨_, _, s₂, _, rfl, -, -, ht₂, h⟩ := ask_inv hothers h
  have hinside : Performs around others id
      (body >>= fun a => Tunnel.ask .unlock >>= fun _ => pure a) s₂ _ a s' := h
  obtain ⟨_, s₃, tr₁, _, hbody, hnext, rfl⟩ := bind_inv hinside
  obtain ⟨_, _, s₄, _, rfl, -, -, ht₄, hlast⟩ := ask_inv hothers hnext
  obtain ⟨rfl, rfl, rfl⟩ := done_inv hlast
  exact ⟨s₂, tr₁, s₃, ht₂.trans ht₁, hbody, ht₄, rfl⟩

/-- A host without a network is refused at once; any other one is connected after the peer
    of its network has been removed. -/
theorem addPeer_inv {host : Host} {r : Except TunnelError Unit}
    (h : Performs around others id (addPeer host) s tr r s') :
    (∃ e, host.network = .error e ∧ r = .error (.host e) ∧ tr = [] ∧ s' = s) ∨
      ∃ n y tr', host.network = .ok n ∧
        tr = locked id (removal id n (s.table.get? n) y ++ tr') ∧
        Connects id n host (s.table.erase n) tr' r s'.table := by
  unfold addPeer at h
  cases hn : host.network with
  | error e =>
      rw [hn] at h
      obtain ⟨rfl, rfl, rfl⟩ := done_inv h
      exact Or.inl ⟨e, rfl, rfl, rfl, rfl⟩
  | ok n =>
      rw [hn] at h
      obtain ⟨u, tr₁, v, htu, hbody, htv, rfl⟩ := locked_inv hothers h
      obtain ⟨y, tr', rfl, hc⟩ := connectNetwork_inv hothers hbody
      rw [htu, ← htv] at hc
      rw [htu]
      exact Or.inr ⟨n, y, tr', rfl, rfl, hc⟩

/-- The network of the host has the new connection afterwards, if the addition has succeeded,
    and otherwise no peer.  All other networks keep their peers. -/
theorem addPeer_leaves {host : Host} {r : Except TunnelError Unit}
    (h : Performs around others id (addPeer host) s tr r s') :
    (∀ n, host.network ≠ .ok n → s'.table.get? n = s.table.get? n) ∧
      ∀ n, host.network = .ok n →
        (r = .ok () ∧ ∃ p, s'.table.get? n = some p ∧ p.network = n ∧ p.host = host) ∨
          (∃ e, r = .error e) ∧ s'.table.get? n = none := by
  rcases addPeer_inv hothers h with ⟨e, hn, -, -, rfl⟩ | ⟨n, y, tr', hn, -, hc⟩
  · exact ⟨fun _ _ => rfl, fun m hm => nomatch hn.symm.trans hm⟩
  · refine ⟨fun m hm => ?_, fun m hm => ?_⟩
    · have hne : m ≠ n := by
        rintro rfl
        exact hm hn
      rw [hc.get?_of_ne hne, RouteTable.get?_erase, if_neg hne]
    · obtain rfl : n = m := Except.ok.inj (hn.symm.trans hm)
      have hnone : (s.table.erase n).get? n = none := by
        rw [RouteTable.get?_erase, if_pos rfl]
      refine (hc.get?_eq hnone).imp_left ?_
      rintro ⟨hr, p, hp, hnetwork, hhost, -⟩
      exact ⟨hr, p, hp, hnetwork, hhost⟩

theorem delPeer_inv {host : Host} {b : Bool}
    (h : Performs around others id (delPeer host) s tr b s') :
    (∃ e, host.network = .error e ∧ b = false ∧ tr = [] ∧ s' = s) ∨
      ∃ n y, host.network = .ok n ∧ b = (s.table.get? n).isSome ∧
        tr = locked id (removal id n (s.table.get? n) y) ∧ s'.table = s.table.erase n := by
  unfold delPeer at h
  cases hn : host.network with
  | error e =>
      rw [hn] at h
      obtain ⟨rfl, rfl, rfl⟩ := done_inv h
      exact Or.inl ⟨e, rfl, rfl, rfl, rfl⟩
  | ok n =>
      rw [hn] at h
      obtain ⟨u, tr₁, v, htu, hbody, htv, rfl⟩ := locked_inv hothers h
      obtain ⟨⟨y, rfl⟩, rfl, ht⟩ := removeNetwork_inv hothers hbody
      rw [htu, ← htv] at ht
      rw [htu]
      exact Or.inr ⟨n, y, rfl, rfl, rfl, ht⟩

theorem removeAll_inv {ns : List Subnet} {a : Unit}
    (h : Performs around others id (removeAll ns) s tr a s') :
    additions tr = [] ∧ ∀ m, s'.table.get? m = if m ∈ ns then none else s.table.get? m := by
  induction ns generalizing s tr with
  | nil =>
      obtain ⟨rfl, -, rfl⟩ := done_inv h
      exact ⟨rfl, fun m => (if_neg List.not_mem_nil).symm⟩
  | cons n ns ih =>
      obtain ⟨_, s₁, tr₁, tr₂, hfirst, hrest, rfl⟩ := bind_inv h
      obtain ⟨_, hremove, -⟩ := map_inv hfirst
      obtain ⟨⟨y, rfl⟩, -, ht₁⟩ := removeNetwork_inv hothers hremove
      obtain ⟨hadditions, hleft⟩ := ih hrest
      refine ⟨?_, ?_⟩
      · rw [additions_append, hadditions]
        rfl
      · intro m
        rw [hleft, ht₁, RouteTable.get?_erase]
        by_cases hm : m = n
        · rw [if_pos hm, ite_self, if_pos (List.mem_cons.mpr (Or.inl hm))]
        · rw [if_neg hm]
          exact if_congr (by rw [List.mem_cons, or_iff_right hm]) rfl rfl

/-- To remove all peers is to leave none. -/
theorem clearPeers_inv {a : Unit} (h : Performs around others id clearPeers s tr a s') :
    additions tr = [] ∧ ∀ m, s'.table.get? m = none := by
  obtain ⟨_, _, s₁, _, rfl, -, -, ht₁, h⟩ := ask_inv hothers h
  obtain ⟨_, _, s₂, _, rfl, -, -, ht₂, h⟩ := ask_inv hothers h
  obtain ⟨ns, _, s₃, _, rfl, -, hns, ht₃, h⟩ := ask_inv hothers h
  have hinside : Performs around others id
      (removeAll ns >>= fun _ => Tunnel.ask .unlock) s₃ _ a s' := h
  obtain ⟨_, s₄, tr₄, _, hremove, hnext, rfl⟩ := bind_inv hinside
  obtain ⟨_, _, s₅, _, rfl, -, -, ht₅, hlast⟩ := ask_inv hothers hnext
  obtain ⟨rfl, -, rfl⟩ := done_inv hlast
  obtain ⟨hadditions, hleft⟩ := removeAll_inv hothers hremove
  have hsame : s₃.table = s₂.table := ht₃
  have hns : ns = s₃.table.networks := by
    rw [hsame]
    exact hns
  refine ⟨?_, ?_⟩
  · show additions (tr₄ ++ _) = []
    rw [additions_append, hadditions]
    rfl
  · intro m
    have hkept : s'.table = s₄.table := ht₅
    rw [hkept, hleft, hns]
    split
    · rfl
    · exact RouteTable.not_mem_networks_iff.mp ‹_›

end Performs

end Overlay.Tunnel
