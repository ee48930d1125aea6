import Overlay.Proofs.Agent.Applying
import Overlay.Proofs.Agent.Parts
import Overlay.Simulation.Agent

/-!
# The last change of a network wins

The bridge applies one change after the other, and whether an edge that was put has a peer
in the end depends on the outcomes of several connections and commands.  Only the last
change of a network matters to it: after a deletion it has no peer, and after an edge was
put it has a peer exactly when one of the attempts to add that edge succeeded, and then
the peer is that edge.  Changes of the edge itself, changes that name no network and
changes of other networks leave its peer alone.

The changes and whether they succeeded are read off the trace (`heard`), the latest first.
-/

namespace Overlay.Agent

/-! ## What the table should be -/

/-- The change is about the network, and not one of the edge itself. -/
def relevant (self : Edge) (n : Subnet) (e : EdgeEvent) : Bool :=
  !isOwn self e &&
    match e.edge.host.network with
    | .ok m => m = n
    | .error _ => false

/-- Takes note that the latest change has succeeded. -/
def markFirst : List (EdgeEvent × Bool) → List (EdgeEvent × Bool)
  | (e, _) :: rest => (e, true) :: rest
  | [] => []

@[simp] theorem markFirst_map (h : List (EdgeEvent × Bool)) :
    (markFirst h).map Prod.fst = h.map Prod.fst := by
  cases h <;> rfl

/-- The changes that were heard after the exchange, each with whether an attempt to add its
    peer has succeeded. -/
def heardAfter (h : List (EdgeEvent × Bool)) : Exchange interface → List (EdgeEvent × Bool)
  | ⟨_, .change, .event e⟩ => (e, false) :: h
  | ⟨_, .tunnel (.outcome .add _), .ok _⟩ => markFirst h
  | _ => h

/-- The changes that were heard, the latest first. -/
def heard (tr : List (Exchange interface)) : List (EdgeEvent × Bool) := tr.foldl heardAfter []

theorem heard_append (tr : List (Exchange interface)) (e : Exchange interface) :
    heard (tr ++ [e]) = heardAfter (heard tr) e := by
  simp only [heard, List.foldl_append, List.foldl_cons, List.foldl_nil]

/-- The last change of a network that was heard. -/
def lastOf (self : Edge) (n : Subnet) (h : List (EdgeEvent × Bool)) : Option (EdgeEvent × Bool) :=
  h.find? fun e => relevant self n e.1

/-- What the last change of a network says of its peer, given the peer before all changes. -/
def Settles (before now : Option Peer) : Option (EdgeEvent × Bool) → Prop
  | none => now = before
  | some (.delete _, _) => now = none
  | some (.put edge, added) => (now.isSome ↔ added) ∧ ∀ p, now = some p → p.host = edge.host

/-! ## What the bridge has applied -/

/-- A change is about one network. -/
theorem relevant_unique {self : Edge} {n m : Subnet} {e : EdgeEvent}
    (hn : relevant self n e = true) (hm : relevant self m e = true) : n = m := by
  unfold relevant at hn hm
  cases hnet : e.edge.host.network with
  | ok k =>
      simp only [hnet, Bool.and_eq_true, decide_eq_true_eq] at hn hm
      exact hn.2.symm.trans hm.2
  | error err => simp [hnet] at hn

theorem lastOf_cons {self : Edge} {n : Subnet} {e : EdgeEvent} {b : Bool}
    (h : List (EdgeEvent × Bool)) :
    lastOf self n ((e, b) :: h) = if relevant self n e then some (e, b) else lastOf self n h := by
  unfold lastOf
  rw [List.find?_cons]
  cases relevant self n e <;> rfl

/-- The network that is not settled. -/
def Stage.unsettled : Stage → Option Subnet
  | owed _ n => some n
  | trying _ p => some p.network
  | _ => none

/-- What the bridge knows of what it has heard and of the table. -/
def Stage.Known (self : Edge) (h : List (EdgeEvent × Bool)) (t : RouteTable) : Stage → Prop
  | owed e n => relevant self n e ∧ h.head? = some (e, false)
  | gone e n => relevant self n e ∧ h.head? = some (e, false) ∧ t.get? n = none
  | trying e p => relevant self p.network e ∧ h.head? = some (e, false) ∧
      t.get? p.network = some p ∧ ∃ edge, e = .put edge ∧ p.host = edge.host
  | _ => True

/-- The changes that were heard are applied to the table that there was before, up to the
    network that is not settled. -/
structure Applied (me : Edge) (t₀ : RouteTable) (h : List (EdgeEvent × Bool)) (t : RouteTable)
    (q : Stage) : Prop where
  settled : ∀ {n : Subnet}, q.unsettled ≠ some n →
    Settles (t₀.get? n) (t.get? n) (lastOf me n h)
  known : q.Known me h t

theorem Stage.Ready.unsettled {q : Stage} (h : q.Ready) : q.unsettled = none := by
  cases q with
  | idle | gone => rfl
  | _ => exact h.elim

theorem Stage.Ready.not_ofFeeder {q : Stage} (h : q.Ready) : ¬ q.OfFeeder := by
  cases q with
  | feeding | fed => exact h.elim
  | _ => exact id

section Applied

variable {self : Edge} {t₀ t : RouteTable} {h : List (EdgeEvent × Bool)} {q q' : Stage}
  {id : TaskId}
  {r : Request} {x : r.Answer}

/-- While the peer of a network is missing, only a change that has put an edge and succeeded
    would be wrong. -/
theorem settles_none {before : Option Peer} {e : EdgeEvent} :
    Settles before none (some (e, false)) := by
  cases e with
  | put edge => exact ⟨by simp, fun p hp => nomatch hp⟩
  | delete edge => rfl

/-- A change that was heard is owed, unless it concerns no network. -/
theorem Applied.hear (happ : Applied self t₀ h t q) (hq : q.Ready) (e : EdgeEvent) :
    Applied self t₀ ((e, false) :: h) t (Stage.ofEvent self e) := by
  have hold : ∀ {n : Subnet}, relevant self n e = false →
      Settles (t₀.get? n) (t.get? n) (lastOf self n ((e, false) :: h)) := by
    intro n hn
    rw [lastOf_cons, hn]
    exact happ.settled (by rw [hq.unsettled]; exact fun heq => nomatch heq)
  unfold Stage.ofEvent
  by_cases hown : isOwn self e = true
  · rw [if_pos hown]
    exact ⟨fun _ => hold (by simp [relevant, hown]), trivial⟩
  · rw [if_neg hown]
    rw [Bool.not_eq_true] at hown
    cases hnet : e.edge.host.network with
    | error err => exact ⟨fun _ => hold (by simp [relevant, hnet]), trivial⟩
    | ok n =>
        refine ⟨fun {m} hm => hold ?_, ?_, rfl⟩
        · have hne : n ≠ m := fun heq => hm (congrArg some heq)
          simp [relevant, hnet, hne]
        · simp [relevant, hown, hnet]

/-- Once the peer of the network is removed, the change is applied as far as it has succeeded. -/
theorem Applied.gone {e : EdgeEvent} {n : Subnet} (hrel : relevant self n e = true)
    (hhead : h.head? = some (e, false))
    (hothers : ∀ {m : Subnet}, m ≠ n → Settles (t₀.get? m) (t.get? m) (lastOf self m h)) :
    Applied self t₀ h (t.erase n) (.gone e n) := by
  obtain ⟨rest, rfl⟩ := List.head?_eq_some_iff.mp hhead
  refine ⟨fun {m} _ => ?_, hrel, rfl, by rw [RouteTable.get?_erase, if_pos rfl]⟩
  rw [RouteTable.get?_erase]
  by_cases hm : m = n
  · rw [if_pos hm, hm, lastOf_cons, if_pos hrel]
    exact settles_none
  · rw [if_neg hm]
    exact hothers hm

/-- A request that is inert leaves the table alone. -/
theorem Request.Inert.tableAfter_eq (hr : r.Inert) (t : RouteTable) : r.tableAfter t = t := by
  cases r with
  | tunnel r =>
      cases r with
      | remove | insert | removeSame => exact hr.elim
      | _ => rfl
  | _ => rfl

/-- A request that is inert says nothing of the changes. -/
theorem Request.Inert.heardAfter_eq (hr : r.Inert) : heardAfter h ⟨id, r, x⟩ = h := by
  cases r with
  | tunnel r =>
      cases r with
      | outcome action n =>
          cases action with
          | add => exact hr.elim
          | del => rfl
      | _ => rfl
  | change => exact hr.elim
  | _ => rfl

/-- A peer that was inserted for an edge is in the table, and everything else is as before. -/
theorem Applied.insert {edge : Edge} {p : Peer}
    (happ : Applied self t₀ h t (.gone (.put edge) p.network)) (hhost : p.host = edge.host) :
    Applied self t₀ h (t.insert p).2 (.trying (.put edge) p) := by
  obtain ⟨hrel, hhead, -⟩ := happ.known
  refine ⟨fun {m} hm => ?_, hrel, hhead, ?_, edge, rfl, hhost⟩
  · have hne : m ≠ p.network := fun heq => hm (congrArg some heq.symm)
    rw [RouteTable.get?_insert, if_neg hne]
    exact happ.settled fun heq => nomatch heq
  · rw [RouteTable.get?_insert, if_pos rfl]

/-- A peer whose route was added stays, and its change has succeeded. -/
theorem Applied.added {e : EdgeEvent} {p : Peer} (happ : Applied self t₀ h t (.trying e p)) :
    Applied self t₀ (markFirst h) t .idle := by
  obtain ⟨hrel, hhead, hpeer, edge, rfl, hhost⟩ := happ.known
  obtain ⟨rest, rfl⟩ := List.head?_eq_some_iff.mp hhead
  refine ⟨fun {m} _ => ?_, trivial⟩
  show Settles (t₀.get? m) (t.get? m) (lastOf self m ((.put edge, true) :: rest))
  rw [lastOf_cons]
  by_cases hm : p.network = m
  · subst hm
    rw [if_pos hrel, hpeer]
    exact ⟨by simp, fun q hq => Option.some.inj hq ▸ hhost⟩
  · -- for other networks the change is none of theirs, before and after
    have hold := happ.settled (n := m) fun heq => hm (Option.some.inj heq)
    have hother : ¬ relevant self m (.put edge) = true := fun hrm => hm (relevant_unique hrel hrm)
    rw [lastOf_cons, if_neg hother] at hold
    rw [if_neg hother]
    exact hold

/-- Every step of the bridge keeps the changes applied, unless it is told to stop. -/
theorem Applied.step (happ : Applied self t₀ h t q) (hstep : Course self q r x q')
    (hq' : q' ≠ .stopped) :
    Applied self t₀ (heardAfter h ⟨id, r, x⟩) (r.tableAfter t) q' := by
  cases hstep with
  | inert hr =>
      rw [hr.tableAfter_eq, hr.heardAfter_eq]
      exact happ
  | go => exact happ
  | calm => exact happ
  | stop => exact absurd rfl hq'
  | told => exact absurd rfl hq'
  | halt => exact absurd rfl hq'
  | leave => exact happ
  | hear hq => exact happ.hear hq _
  | closed hq =>
      exact ⟨fun _ => happ.settled (by rw [hq.unsettled]; exact fun heq => nomatch heq), trivial⟩
  | @remove e n =>
      obtain ⟨hrel, hhead⟩ := happ.known
      exact Applied.gone hrel hhead fun hm => happ.settled fun heq => hm (Option.some.inj heq).symm
  | @removeAgain e n =>
      obtain ⟨hrel, hhead, -⟩ := happ.known
      exact Applied.gone hrel hhead fun _ => happ.settled fun heq => nomatch heq
  | insert hhost => exact happ.insert hhost
  | added => exact happ.added
  | refused => exact happ
  | @removeSame e p =>
      obtain ⟨hrel, hhead, hpeer, -⟩ := happ.known
      show Applied self t₀ h (t.removeSame p.network p).2 (.gone e p.network)
      rw [RouteTable.removeSame_eq hpeer]
      exact Applied.gone hrel hhead fun hm => happ.settled fun heq => hm (Option.some.inj heq).symm
  | feed => exact ⟨fun _ => happ.settled (fun heq => nomatch heq), trivial⟩
  | drop => exact ⟨fun _ => happ.settled (fun heq => nomatch heq), trivial⟩

end Applied

/-! ## Handing over the changes -/

/-- The changes that are still to be handed over. -/
def Stage.left : Stage → List EdgeEvent
  | feeding left => left
  | _ => []

/-- How many senders the stage stands for. -/
def Stage.senders : Stage → Nat
  | feeding _ => 1
  | _ => 0

/-- What was heard, what waits and what is still to be handed over are together the changes. -/
structure Handed (events : List EdgeEvent) (h : List (EdgeEvent × Bool)) (c : Queue EdgeEvent)
    (q f : Stage) : Prop where
  senders : c.senders = f.senders
  order : q ≠ .finished → c.receiverGone = false ∧
    (h.map Prod.fst).reverse ++ c.waiting ++ f.left = events
  all : q = .finished → c.senders = 0 ∧ (h.map Prod.fst).reverse = events

section Steps

variable {σ : Type} {around : Around σ} {self : Edge} {events : List EdgeEvent}
  {h : List (EdgeEvent × Bool)} {q q' f f' : Stage} {id : TaskId} {r : Request} {x : r.Answer}
  {s s' : State σ}

/-- Requests that are inert tell nobody to stop and leave alone what waits. -/
theorem Request.Inert.quiet (hr : r.Inert) (hquiet : Quiet s)
    (hx : s.answer around id r = some (x, s')) : Quiet s' ∧ s'.changes = s.changes := by
  cases r with
  | tunnel r =>
      rw [(answer_tunnel hx).2]
      exact ⟨hquiet, rfl⟩
  | draw =>
      cases hx
      exact ⟨hquiet, rfl⟩
  | pause p d =>
      simp only [State.answer] at hx
      rcases hquiet.lookOr hx with ⟨-, hquiet', g, rfl⟩ | hpassed
      · exact ⟨hquiet', rfl⟩
      · obtain ⟨w, -, hw⟩ := Option.map_eq_some_iff.mp hpassed
        cases hw
        exact ⟨hquiet, rfl⟩
  | _ => exact hr.elim

/-- The step of the bridge that hears of a change, or of the end. -/
theorem Handed.change (hh : Handed events h s.changes q f) (hquiet : Quiet s) (hq : q.Ready)
    {y : Change} (hy : s.answer around id .change = some (y, s')) :
    (y = .signal false ∧ Quiet s' ∧ s'.changes = s.changes) ∨
      (∃ e, y = .event e ∧ Quiet s' ∧ ∀ q', q' ≠ .finished →
        Handed events ((e, false) :: h) s'.changes q' f) ∨
      (y = .closed ∧ s' = s ∧ Handed events h s.changes .finished f) := by
  have hready : q ≠ .finished := by
    rintro rfl
    exact hq
  obtain ⟨hthere, horder⟩ := hh.order hready
  rcases hquiet.change hy with ⟨hye, hquiet', g, rfl⟩ | ⟨e, rest, hw, hye, rfl⟩ |
    ⟨hw, hsenders, hye, rfl⟩
  · exact Or.inl ⟨hye, hquiet', rfl⟩
  · refine Or.inr (Or.inl ⟨e, hye, hquiet, fun q' hq' => ?_⟩)
    refine ⟨hh.senders, fun _ => ⟨hthere, ?_⟩, fun heq => absurd heq hq'⟩
    rw [hw] at horder
    rw [← horder]
    simp
  · refine Or.inr (Or.inr ⟨hye, rfl, hh.senders, fun hne => absurd rfl hne,
      fun _ => ⟨hsenders, ?_⟩⟩)
    -- nobody is left to send anything, so nothing is left to be sent
    have hleft : f.left = [] := by
      have hf := hh.senders.symm.trans hsenders
      cases f with
      | feeding left => exact nomatch hf
      | _ => rfl
    rw [hw, hleft, List.append_nil, List.append_nil] at horder
    exact horder

/-- A step of the bridge. -/
theorem Handed.bridge (hh : Handed events h s.changes q f) (hquiet : Quiet s) (hq : q.OfBridge)
    (hstep : Course self q r x q') (hx : s.answer around id r = some (x, s')) :
    Quiet s' ∧ q'.OfBridge ∧ Handed events (heardAfter h ⟨id, r, x⟩) s'.changes q' f := by
  have hserver : ∀ {t : Tunnel.Request} {y : t.Answer},
      s.answer around id (.tunnel t) = some (y, s') → Quiet s' ∧ s'.changes = s.changes := by
    intro t y hy
    rw [(answer_tunnel hy).2]
    exact ⟨hquiet, rfl⟩
  cases hstep with
  | inert hr =>
      obtain ⟨hquiet', hchanges⟩ := hr.quiet hquiet hx
      rw [hchanges, hr.heardAfter_eq]
      exact ⟨hquiet', hq, hh⟩
  | go =>
      rw [(stopping_eq hx).2]
      exact ⟨hquiet, hq, hh⟩
  | stop =>
      -- while all is quiet the bridge is not told to stop
      exact nomatch (stopping_eq hx).1.trans (hquiet .bridge).1
  | told hr =>
      rcases hh.change hquiet hr hx with ⟨hy, -⟩ | ⟨e, hy, -⟩ | ⟨hy, -⟩ <;> exact nomatch hy
  | calm hr =>
      rcases hh.change hquiet hr hx with ⟨-, hquiet', hchanges⟩ | ⟨e, hy, -⟩ | ⟨hy, -⟩
      · rw [hchanges]
        exact ⟨hquiet', hq, hh⟩
      · exact nomatch hy
      · exact nomatch hy
  | @hear q e hr =>
      rcases hh.change hquiet hr hx with ⟨hy, -⟩ | ⟨e', hy, hquiet', hh'⟩ | ⟨hy, -⟩
      · exact nomatch hy
      · cases hy
        obtain ⟨hbridge, hnot⟩ := Stage.ofEvent_ofBridge self e
        exact ⟨hquiet', hbridge, hh' _ hnot⟩
      · exact nomatch hy
  | closed hr =>
      rcases hh.change hquiet hr hx with ⟨hy, -⟩ | ⟨e, hy, -⟩ | ⟨-, rfl, hh'⟩
      · exact nomatch hy
      · exact nomatch hy
      · exact ⟨hquiet, trivial, hh'⟩
  | leave =>
      cases hx
      exact ⟨hquiet, trivial, hh.senders, fun hne => absurd rfl hne, hh.all⟩
  | halt => exact hq.elim
  | remove | removeAgain | insert | refused | removeSame =>
      obtain ⟨hquiet', hchanges⟩ := hserver hx
      rw [hchanges]
      exact ⟨hquiet', trivial, hh.senders, fun _ => hh.order fun heq => (nomatch heq),
        fun heq => nomatch heq⟩
  | added =>
      -- that the change has succeeded is noted, and the changes themselves stay as they are
      obtain ⟨hquiet', hchanges⟩ := hserver hx
      rw [hchanges]
      refine ⟨hquiet', trivial, hh.senders, fun _ => ?_, fun heq => nomatch heq⟩
      obtain ⟨hthere, horder⟩ := hh.order fun heq => nomatch heq
      refine ⟨hthere, ?_⟩
      show ((markFirst h).map Prod.fst).reverse ++ s.changes.waiting ++ f.left = events
      rw [markFirst_map]
      exact horder
  | feed => exact hq.elim
  | drop => exact hq.elim

/-- A step of whoever hands the changes over. -/
theorem Handed.feeder (hh : Handed events h s.changes q f) (hquiet : Quiet s) (hf : f.OfFeeder)
    (hstep : Course self f r x f') (hx : s.answer around id r = some (x, s')) :
    Quiet s' ∧ f'.OfFeeder ∧ heardAfter h ⟨id, r, x⟩ = h ∧ Handed events h s'.changes q f' := by
  cases hstep with
  | inert hr =>
      obtain ⟨hquiet', hchanges⟩ := hr.quiet hquiet hx
      rw [hchanges]
      exact ⟨hquiet', hf, hr.heardAfter_eq, hh⟩
  | @feed e left =>
      have hready : q ≠ .finished := fun heq =>
        nomatch hh.senders.symm.trans (hh.all heq).1
      obtain ⟨hthere, horder⟩ := hh.order hready
      obtain ⟨⟨taken, changes⟩, hoffer, heq⟩ := Option.map_eq_some_iff.mp hx
      cases heq
      unfold Queue.offer? at hoffer
      rw [hthere] at hoffer
      by_cases hfull : s.changes.isFull = true
      · simp [hfull] at hoffer
      · simp only [hfull, Bool.false_eq_true, if_false, Option.some.injEq, Prod.mk.injEq] at hoffer
        obtain ⟨-, rfl⟩ := hoffer
        refine ⟨hquiet, trivial, rfl, hh.senders, fun _ => ⟨rfl, ?_⟩, fun hq => absurd hq hready⟩
        rw [← horder]
        simp [Stage.left]
  | drop =>
      have hready : q ≠ .finished := fun heq =>
        nomatch hh.senders.symm.trans (hh.all heq).1
      cases hx
      refine ⟨hquiet, trivial, rfl, ?_, hh.order, fun hq => absurd hq hready⟩
      show s.changes.senders - 1 = 0
      rw [hh.senders]
      rfl
  | go hr | calm hr | hear hr | closed hr | stop hr | told hr => exact absurd hf hr.not_ofFeeder
  | _ => exact hf.elim

/-- Whoever hands the changes over leaves the table alone. -/
theorem Course.tableAfter_eq (hstep : Course self f r x f') (hf : f.OfFeeder) (t : RouteTable) :
    r.tableAfter t = t := by
  cases hstep with
  | inert hr => exact hr.tableAfter_eq t
  | remove | removeAgain | insert | removeSame => exact hf.elim
  | _ => rfl

/-- When there is nothing to do, only requests that are inert are made. -/
theorem Course.of_fed (hstep : Course self .fed r x f') : r.Inert ∧ f' = .fed := by
  cases hstep with
  | inert hr => exact ⟨hr, rfl⟩
  | go hr | calm hr | hear hr | closed hr | stop hr | told hr => exact hr.elim

/-- What holds while the bridge applies the changes. -/
structure Bridged (me : Edge) (events : List EdgeEvent) (t₀ : RouteTable)
    (tr : List (Exchange interface)) (u : State σ) (ph : TaskId → Stage) : Prop where
  quiet : Quiet u
  bridge : (ph 0).OfBridge
  feeder : (ph 1).OfFeeder
  others : ∀ i, 1 < i → ph i = .fed
  applied : Applied me t₀ (heard tr) u.server.table (ph 0)
  handed : Handed events (heard tr) u.changes (ph 0) (ph 1)

/-- Every exchange keeps the changes applied and handed over in order. -/
theorem Bridged.step {t₀ : RouteTable} {tr : List (Exchange interface)} {ph : TaskId → Stage}
    (hb : Bridged self events t₀ tr s ph) (hstep : Course self (ph id) r x q')
    (hx : s.answer around id r = some (x, s')) :
    Bridged self events t₀ (tr ++ [⟨id, r, x⟩]) s' (Function.update ph id q') := by
  have htable := table_of_answer hx
  match id with
  | 0 =>
      obtain ⟨hquiet, hbridge, hhanded⟩ := hb.handed.bridge hb.quiet hb.bridge hstep hx
      have hnot : q' ≠ .stopped := by
        rintro rfl
        exact hbridge
      refine ⟨hquiet, hbridge, hb.feeder, fun i hi => ?_, ?_, ?_⟩
      · rw [Function.update_of_ne (Nat.ne_of_gt (Nat.lt_trans Nat.zero_lt_one hi))]
        exact hb.others i hi
      · rw [heard_append, htable]
        exact hb.applied.step hstep hnot
      · rw [heard_append]
        exact hhanded
  | 1 =>
      obtain ⟨hquiet, hfeeder, hheard, hhanded⟩ := hb.handed.feeder hb.quiet hb.feeder hstep hx
      refine ⟨hquiet, hb.bridge, hfeeder, fun i hi => ?_, ?_, ?_⟩
      · rw [Function.update_of_ne (Nat.ne_of_gt hi)]
        exact hb.others i hi
      · rw [heard_append, hheard, htable, hstep.tableAfter_eq hb.feeder]
        exact hb.applied
      · rw [heard_append, hheard]
        exact hhanded
  | j + 2 =>
      have hfed : ph (j + 2) = .fed := hb.others (j + 2) (Nat.succ_lt_succ (Nat.succ_pos j))
      rw [hfed] at hstep
      obtain ⟨hr, rfl⟩ := hstep.of_fed
      obtain ⟨hquiet, hchanges⟩ := hr.quiet hb.quiet hx
      rw [show Function.update ph (j + 2) Stage.fed = ph from hfed ▸ Function.update_eq_self _ _]
      refine ⟨hquiet, hb.bridge, hb.feeder, hb.others, ?_, ?_⟩
      · rw [heard_append, hr.heardAfter_eq, htable, hr.tableAfter_eq]
        exact hb.applied
      · rw [heard_append, hr.heardAfter_eq, hchanges]
        exact hb.handed

end Steps

/-! ## The last change wins -/

variable {σ : Type} {around : Around σ} {self : Edge} {policy : RetryPolicy}
  {events : List EdgeEvent} {s : State σ} {tr : List (Exchange interface)}
  {t : System interface (State σ) Result}

/-- What happens to an agent when nothing but the bridge runs while the changes are handed to
    it; the surroundings go on as well, and the parts may be told to go on. -/
def Bridging (around : Around σ) (self : Edge) (policy : RetryPolicy) (events : List EdgeEvent)
    (s : State σ) : List (Exchange interface) → System interface (State σ) Result → Prop :=
  System.Runs (State.machine around) (fun _ => False)
    (fun u u' => (∃ w, u' = u.setOutside w) ∨ u' = u.mapSignals (.send false))
    ⟨s, [background (bridgeRun self policy), .once ((fun _ => Result.over) <$> feed events)]⟩

/-- In every run the changes are applied and handed over in order. -/
theorem Bridging.bridged (hattempts : 0 < policy.attempts) (hquiet : Quiet s) {room : Nat}
    (hchanges : s.changes = { capacity := room }) (h : Bridging around self policy events s tr t) :
    ∃ ph, Bridged self events s.server.table tr t.state ph ∧
      t.Keeps (bridging self) (fun q _ => q.Ended) Stage.fed ph := by
  let start : TaskId → Stage := fun i => [Stage.idle, .feeding events][i]?.getD .fed
  have hkeeps : System.Keeps (bridging self) (fun q _ => q.Ended) Stage.fed
      (⟨s, [background (bridgeRun self policy), .once ((fun _ => Result.over) <$> feed events)]⟩ :
        System interface (State σ) Result) start :=
    .of_forall₂ (.cons (bridge_keeps hattempts) (.cons feed_keeps .nil))
  have hinit : Bridged self events s.server.table [] s start := by
    refine ⟨hquiet, trivial, trivial, fun i hi => ?_, ⟨fun _ => rfl, trivial⟩, ?_⟩
    · match i with
      | i + 2 => rfl
    · rw [hchanges]
      exact ⟨rfl, fun _ => ⟨rfl, rfl⟩, fun heq => nomatch heq⟩
  refine System.Runs.keeps (Bridged self events s.server.table) plausible_of_answer hkeeps hinit
    (fun _ hb hstep hx => hb.step hstep hx) (fun ha => ha.elim) ?_ h
  rintro tr u _ ph hb (⟨w, rfl⟩ | rfl)
  · exact ⟨hb.quiet, hb.bridge, hb.feeder, hb.others, hb.applied, hb.handed⟩
  · exact ⟨hb.quiet.goOn, hb.bridge, hb.feeder, hb.others, hb.applied, hb.handed⟩

/-- **The last change of a network wins.**  When the bridge has ended without having been told
    to stop, it has heard all changes in order, and each network has the peer that the last
    change of it leaves. -/
theorem Bridging.last_change (hattempts : 0 < policy.attempts) (hquiet : Quiet s) {room : Nat}
    (hchanges : s.changes = { capacity := room }) (h : Bridging around self policy events s tr t)
    {a : Task interface Result} {y : Result} (ha : t.tasks[0]? = some a)
    (hended : a.result? = some y) :
    ((heard tr).map Prod.fst).reverse = events ∧
      ∀ n, Settles (s.server.table.get? n) (t.state.server.table.get? n)
        (lastOf self n (heard tr)) := by
  obtain ⟨ph, hb, hk⟩ := h.bridged hattempts hquiet hchanges
  have hfinished : ph 0 = .finished := by
    have hend : (ph 0).Ended := (hk.task ha).ends hended
    have hbridge := hb.bridge
    cases hq : ph 0 with
    | finished => rfl
    | idle | owed | gone | trying =>
        rw [hq] at hend
        exact hend.elim
    | stopped | feeding | fed =>
        rw [hq] at hbridge
        exact hbridge.elim
  refine ⟨(hb.handed.all hfinished).2, fun n => hb.applied.settled ?_⟩
  rw [hfinished]
  exact fun heq => nomatch heq

/-- Of two edges the first is put, at the second attempt, and deleted under another spelling
    of its network; the second one stays. -/
theorem Bridging.last_change_of_two :
    ∃ (me : Edge) (events : List EdgeEvent) (s : State AgentScene) (tr : _) (t : _) (n m : Subnet),
      Bridging sceneAround me {} events s tr t ∧ (heard tr).map Prod.snd = [true, false, true] ∧
      ((heard tr).map Prod.fst).reverse = events ∧
      (∀ k, Settles (s.server.table.get? k) (t.state.server.table.get? k)
        (lastOf me k (heard tr))) ∧
      t.state.server.table.get? n = none ∧ (t.state.server.table.get? m).isSome := by
  let me : Edge := ⟨"edge-a", "198.51.100.1:7000", "10.0.0.0/24"⟩
  let events : List EdgeEvent :=
    [.put ⟨"edge-b", "192.0.2.1:7000", "10.1.0.0/16"⟩,
      .delete ⟨"edge-b", "192.0.2.1:7000", "10.1.7.7/16"⟩,
      .put ⟨"edge-c", "192.0.2.2:7000", "10.2.0.0/16"⟩]
  let n : Subnet := ⟨.ofOctets 10 1 0 0, 16, by decide⟩
  let m : Subnet := ⟨.ofOctets 10 2 0 0, 16, by decide⟩
  let s : State AgentScene := Rehearsal.state
    { device := "loom0"
      scene := { reach := .everything, device := .channel {}, kernel := { failingAdds := 1 } } }
  let start : System interface (State AgentScene) Result :=
    ⟨s, [background (bridgeRun me {}), .once ((fun _ => Result.over) <$> feed events)]⟩
  have hfinds : (start.play sceneMachine (List.replicate 4 1 ++ List.replicate 51 0)).any
      (fun (tr, t) => decide ((heard tr).map Prod.snd = [true, false, true] ∧
        t.state.server.table.get? n = none ∧ (t.state.server.table.get? m).isSome ∧
        ((t.tasks[0]?.bind Task.result?).isSome))) = true := by
    decide +kernel
  obtain ⟨⟨tr, t⟩, hplay, hfacts⟩ := (Option.any_eq_true _ _).mp hfinds
  obtain ⟨hflags, hgone, hthere, hended⟩ := of_decide_eq_true hfacts
  obtain ⟨y, hy⟩ := Option.isSome_iff_exists.mp hended
  obtain ⟨a, ha, hresult⟩ := Option.bind_eq_some_iff.mp hy
  have hrun : Bridging sceneAround me {} events s tr t := System.Runs.play .refl hplay
  obtain ⟨hevents, hsettled⟩ := last_change (by decide) (fun _ => ⟨rfl, rfl⟩) rfl hrun ha hresult
  exact ⟨me, events, s, tr, t, n, m, hrun, hflags, hevents, hsettled, hgone, hthere⟩

end Overlay.Agent
