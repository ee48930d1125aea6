import Overlay.Proofs.Route.Table
import Overlay.Proofs.Task.Protocol
import Overlay.Tunnel.Server

/-!
# The lock on the peers

Whoever changes the peers of a server holds its lock.  Here is the discipline as a
protocol, `changing`: a task lines up, takes the lock, and inside removes a peer and its
route before it connects, inserts and routes another one.  All operations of
`Tunnel.Peers` keep it.

The line of the waiting tasks gives mutual exclusion (`Line`), and mutual exclusion gives
the rule for invariants that only the holder of the lock may break (`Guards.step`): what
is said of a phase is said while some task is inside in that phase, and what is said of
`outside` is said while no task is inside.
-/

namespace Overlay.Tunnel

/-! ## The protocol -/

/-- How far a task has come with a change of the peers. -/
inductive Phase where
  /-- It has nothing to do with the lock. -/
  | outside
  /-- It has lined up. -/
  | waiting
  /-- It holds the lock; it may know of a network that the table has no peer for it. -/
  | holding (gone : Option Subnet)
  /-- It has removed the peer of the network. -/
  | removing (n : Subnet)
  /-- It has also given the command that removes the route. -/
  | removed (n : Subnet)
  /-- It has inserted the peer. -/
  | inserted (p : Peer)

/-- The phases of a task that holds the lock. -/
def Phase.Inside : Phase → Prop
  | outside => False
  | waiting => False
  | holding _ => True
  | removing _ => True
  | removed _ => True
  | inserted _ => True

@[simp] theorem not_inside_outside : ¬ Phase.outside.Inside := id

@[simp] theorem not_inside_waiting : ¬ Phase.waiting.Inside := id

/-- The requests that change neither the lock nor the peers nor the routes. -/
def Request.Passive : Request → Prop
  | lookup _ => True
  | report _ => True
  | send _ _ => True
  | write _ => True
  | count _ => True
  | arrival _ => True
  | finish _ _ => True
  | firstEnded => True
  | stop => True
  | join _ => True
  | _ => False

/-- What a connection gives is a connection to the host, for the network. -/
def Plausible : (r : Request) → r.Answer → Prop
  | .connect n h, .ok p => p.network = n ∧ p.host = h
  | _, _ => True

/-- Every request can get an answer. -/
theorem exists_plausible (r : Request) : ∃ x, Plausible r x := by
  cases r with
  | connect n host => exact ⟨.error (.ofKind .brokenPipe), trivial⟩
  | outcome action n => exact ⟨.ok "", trivial⟩
  | send p packet => exact ⟨.ok (), trivial⟩
  | write packet => exact ⟨.ok (), trivial⟩
  | arrival d => exact ⟨.stop, trivial⟩
  | firstEnded => exact ⟨(.inbound, .ok ()), trivial⟩
  | join d => exact ⟨.ok (), trivial⟩
  | networks => exact ⟨[], trivial⟩
  | remove | insert | removeSame | lookup => exact ⟨none, trivial⟩
  | queue | lock | unlock | issue | report | count | finish | stop => exact ⟨(), trivial⟩

/-- The steps of a task that changes peers.  What is `Free` may be asked for at any time
    outside. -/
inductive Change (Free : Request → Prop) : Phase → (r : Request) → r.Answer → Phase → Prop where
  | aside {r : Request} {x : r.Answer} : Free r → Change Free .outside r x .outside
  | queue {x : Unit} : Change Free .outside .queue x .waiting
  | lock {x : Unit} : Change Free .waiting .lock x (.holding none)
  | unlock {g : Option Subnet} {x : Unit} : Change Free (.holding g) .unlock x .outside
  | networks {g : Option Subnet} {ns : List Subnet} :
      Change Free (.holding g) .networks ns (.holding g)
  | remove {g : Option Subnet} {n : Subnet} {q : Option Peer} :
      Change Free (.holding g) (.remove n) q (.removing n)
  | issueDel {n : Subnet} {x : Unit} : Change Free (.removing n) (.issue .del n) x (.removed n)
  | deleted {n : Subnet} {x : Except RouteError String} :
      Change Free (.removed n) (.outcome .del n) x (.holding (some n))
  | connect {n : Subnet} {h : Host} {x : Except IoError Peer} :
      Change Free (.holding (some n)) (.connect n h) x (.holding (some n))
  | insert {p : Peer} {q : Option Peer} :
      Change Free (.holding (some p.network)) (.insert p) q (.inserted p)
  | issueAdd {p : Peer} {x : Unit} :
      Change Free (.inserted p) (.issue .add p.network) x (.inserted p)
  | added {p : Peer} {output : String} :
      Change Free (.inserted p) (.outcome .add p.network) (.ok output) (.holding none)
  | refused {p : Peer} {e : RouteError} :
      Change Free (.inserted p) (.outcome .add p.network) (.error e) (.inserted p)
  | removeSame {p : Peer} {q : Option Peer} :
      Change Free (.inserted p) (.removeSame p.network p) q (.holding (some p.network))

/-- A task may do more when more is free. -/
theorem Change.mono {Free Free' : Request → Prop} (hfree : ∀ r, Free r → Free' r) {p p' : Phase}
    {r : Request} {x : r.Answer} (h : Change Free p r x p') : Change Free' p r x p' := by
  cases h with
  | aside hr => exact .aside (hfree _ hr)
  | _ => constructor

/-- The protocol of the tasks that change peers. -/
def changing (Free : Request → Prop) : Protocol interface where
  Phase := Phase
  Possible := Plausible
  Step := Change Free

/-! ## The operations keep it -/

section Operations

variable {Free : Request → Prop} {α : Type}

theorem removeNetwork_keeps {Ends : Phase → Bool → Prop} {n : Subnet} {g : Option Subnet}
    (hends : ∀ b, Ends (.holding (some n)) b) :
    (removeNetwork n).Keeps (changing Free) Ends (.holding g) := by
  intro old _
  refine ⟨.removing n, .remove, ?_⟩
  intro _ _
  refine ⟨.removed n, .issueDel, ?_⟩
  intro outcome _
  exact ⟨.holding (some n), .deleted, hends old.isSome⟩

theorem connectNetwork_keeps {Ends : Phase → Except TunnelError Unit → Prop} {n : Subnet}
    {h : Host} {g : Option Subnet} (hends : ∀ g r, Ends (.holding g) r) :
    (connectNetwork n h).Keeps (changing Free) Ends (.holding g) := by
  refine Program.Keeps.bind (Program.Keeps.map (removeNetwork_keeps fun _ => ?_))
  intro connected hconnected
  refine ⟨.holding (some n), .connect, ?_⟩
  cases connected with
  | error e => exact hends _ _
  | ok p =>
      -- the connection is one for the network, whose peer is gone by now
      obtain ⟨rfl, -⟩ : p.network = n ∧ p.host = h := hconnected
      intro _ _
      refine ⟨.inserted p, .insert, ?_⟩
      intro _ _
      refine ⟨.inserted p, .issueAdd, ?_⟩
      intro outcome _
      cases outcome with
      | ok output => exact ⟨.holding none, .added, hends _ _⟩
      | error e =>
          refine ⟨.inserted p, .refused, ?_⟩
          intro _ _
          exact ⟨.holding (some p.network), .removeSame, hends _ _⟩

/-- A change that is made between taking the lock and giving it back. -/
theorem locked_keeps {Ends : Phase → α → Prop} {body : Work α}
    (hbody : ∀ {E : Phase → α → Prop}, (∀ g a, E (.holding g) a) →
      body.Keeps (changing Free) E (.holding none))
    (hends : ∀ a, Ends .outside a) :
    (acquire >>= fun _ => body >>= fun a => ask .unlock >>= fun _ => pure a).Keeps
      (changing Free) Ends .outside := by
  intro _ _
  refine ⟨.waiting, .queue, ?_⟩
  intro _ _
  refine ⟨.holding none, .lock, ?_⟩
  show (body >>= fun a => ask .unlock >>= fun _ => pure a).Keeps (changing Free) Ends
    (Phase.holding none)
  refine Program.Keeps.bind (hbody fun g a => ?_)
  intro _ _
  exact ⟨.outside, .unlock, hends a⟩

theorem addPeer_keeps {Ends : Phase → Except TunnelError Unit → Prop} {h : Host}
    (hends : ∀ r, Ends .outside r) : (addPeer h).Keeps (changing Free) Ends .outside := by
  unfold addPeer
  cases h.network with
  | error e => exact hends _
  | ok n => exact locked_keeps (fun hE => connectNetwork_keeps hE) hends

theorem addPeers_keeps {Ends : Phase → List (Host × TunnelError) → Prop} {hs : List Host}
    (hends : ∀ r, Ends .outside r) : (addPeers hs).Keeps (changing Free) Ends .outside := by
  induction hs generalizing Ends with
  | nil => exact hends []
  | cons h hs ih =>
      refine Program.Keeps.bind (addPeer_keeps fun r => ?_)
      refine Program.Keeps.bind (ih fun failures => ?_)
      cases r with
      | ok _ => exact hends _
      | error e => exact hends _

theorem delPeer_keeps {Ends : Phase → Bool → Prop} {h : Host} (hends : ∀ b, Ends .outside b) :
    (delPeer h).Keeps (changing Free) Ends .outside := by
  unfold delPeer
  cases h.network with
  | error e => exact hends _
  | ok n => exact locked_keeps (fun hE => removeNetwork_keeps fun b => hE _ b) hends

theorem removeAll_keeps {Ends : Phase → Unit → Prop} {ns : List Subnet} {g : Option Subnet}
    (hends : ∀ g a, Ends (.holding g) a) :
    (removeAll ns).Keeps (changing Free) Ends (.holding g) := by
  induction ns generalizing g with
  | nil => exact hends g ()
  | cons n ns ih =>
      refine Program.Keeps.bind (Program.Keeps.map (removeNetwork_keeps fun _ => ?_))
      exact ih

theorem clearPeers_keeps {Ends : Phase → Unit → Prop} (hends : ∀ a, Ends .outside a) :
    clearPeers.Keeps (changing Free) Ends .outside := by
  intro _ _
  refine ⟨.waiting, .queue, ?_⟩
  intro _ _
  refine ⟨.holding none, .lock, ?_⟩
  intro ns _
  refine ⟨.holding none, .networks, ?_⟩
  show (removeAll ns >>= fun _ => ask .unlock).Keeps (changing Free) Ends (Phase.holding none)
  refine Program.Keeps.bind (removeAll_keeps fun g a => ?_)
  intro _ _
  exact ⟨.outside, .unlock, hends _⟩

/-- A program that only asks for what is free stays outside. -/
theorem ask_keeps {Ends : Phase → α → Prop} {r : Request} {f : r.Answer → α} (hr : Free r)
    (hends : ∀ a, Ends .outside a) :
    (f <$> ask r).Keeps (changing Free) Ends .outside :=
  fun x _ => ⟨.outside, .aside hr, hends (f x)⟩

end Operations

/-! ## What an answer of a server says and changes -/

/-- The line after a request of the task. -/
def Request.lineAfter (id : TaskId) : Request → List TaskId → List TaskId
  | queue, line => line ++ [id]
  | unlock, line => line.tail
  | _, line => line

/-- The table after a request. -/
def Request.tableAfter : Request → RouteTable → RouteTable
  | remove n, t => t.erase n
  | insert p, t => (t.insert p).2
  | removeSame n p, t => (t.removeSame n p).2
  | _, t => t

/-- The loops that have ended, after a request. -/
def Request.endedAfter : Request → List (Direction × Ending) → List (Direction × Ending)
  | finish d e, ended => (d, e) :: ended
  | _, ended => ended

/-- What the answer to a request says about the line and the table. -/
def Shows (id : TaskId) (line : List TaskId) (t : RouteTable) : (r : Request) → r.Answer → Prop
  | .lock, _ => line.head? = some id
  | .remove n, x => x = t.get? n
  | .insert p, x => x = t.get? p.network
  | .removeSame n p, x => x = (t.removeSame n p).1
  | .networks, x => x = t.networks
  | .lookup a, x => x = t.lookup a
  | _, _ => True

/-- What an answer of a server says and changes. -/
structure Answers {σ : Type} (id : TaskId) (r : Request) (x : r.Answer) (s s' : Server σ) :
    Prop where
  possible : Plausible r x
  shows : Shows id s.line s.table r x
  line : s'.line = r.lineAfter id s.line
  table : s'.table = r.tableAfter s.table
  device : s'.device = s.device
  ended : s'.ended = r.endedAfter s.ended

/-- What a server answers is an answer in this sense. -/
theorem answers_of_answer {σ : Type} {around : Surroundings σ} {id : TaskId} {r : Request}
    {x : r.Answer} {s s' : Server σ} (h : s.answer around id r = some (x, s')) :
    Answers id r x s s' := by
  cases r with
  | lock =>
      simp only [Server.answer] at h
      split at h
      · rename_i hhead
        cases h
        exact ⟨trivial, hhead, rfl, rfl, rfl, rfl⟩
      · exact nomatch h
  | connect n host =>
      simp only [Server.answer] at h
      split at h
      · cases h
        exact ⟨⟨rfl, rfl⟩, trivial, rfl, rfl, rfl, rfl⟩
      · cases h
        exact ⟨trivial, trivial, rfl, rfl, rfl, rfl⟩
  | arrival d =>
      simp only [Server.answer] at h
      split at h
      · cases h
        exact ⟨trivial, trivial, rfl, rfl, rfl, rfl⟩
      · obtain ⟨⟨y, w⟩, -, heq⟩ := Option.map_eq_some_iff.mp h
        cases heq
        exact ⟨trivial, trivial, rfl, rfl, rfl, rfl⟩
  | outcome action n =>
      obtain ⟨⟨y, w⟩, -, heq⟩ := Option.map_eq_some_iff.mp h
      cases heq
      cases action <;> exact ⟨trivial, trivial, rfl, rfl, rfl, rfl⟩
  | write packet =>
      obtain ⟨⟨y, w⟩, -, heq⟩ := Option.map_eq_some_iff.mp h
      cases heq
      exact ⟨trivial, trivial, rfl, rfl, rfl, rfl⟩
  | firstEnded =>
      obtain ⟨e, -, heq⟩ := Option.map_eq_some_iff.mp h
      cases heq
      exact ⟨trivial, trivial, rfl, rfl, rfl, rfl⟩
  | join d =>
      obtain ⟨e, -, heq⟩ := Option.map_eq_some_iff.mp h
      cases heq
      exact ⟨trivial, trivial, rfl, rfl, rfl, rfl⟩
  | queue | unlock | networks | lookup | issue | report | count | finish | stop | send | remove
  | insert | removeSame =>
      cases h
      exact ⟨trivial, by trivial, rfl, rfl, rfl, rfl⟩

/-! ## One task at a time -/

/-- The task that took the lock and has not given it back. -/
def holder (tr : List (Exchange interface)) : Option TaskId :=
  tr.foldl (fun h e =>
    match e.request with
    | .lock => some e.task
    | .unlock => none
    | _ => h) none

/-- The line as the phases of the tasks tell it. -/
structure Line (tr : List (Exchange interface)) (line : List TaskId) (ph : TaskId → Phase) :
    Prop where
  /-- No task is in the line twice. -/
  nodup : line.Nodup
  /-- The tasks in the line are those that have to do with the lock. -/
  mem_iff : ∀ {i : TaskId}, i ∈ line ↔ ph i ≠ .outside
  /-- A task that is inside is the first in the line. -/
  head : ∀ {i : TaskId}, (ph i).Inside → line.head? = some i
  /-- A task is inside when it holds the lock. -/
  inside_iff : ∀ {i : TaskId}, (ph i).Inside ↔ holder tr = some i

/-- The five kinds of steps. -/
theorem Change.kind {Free : Request → Prop} {p p' : Phase} {r : Request} {x : r.Answer}
    (h : Change Free p r x p') :
    (Free r ∧ p = .outside ∧ p' = .outside) ∨ (r = .queue ∧ p = .outside ∧ p' = .waiting) ∨
      (r = .lock ∧ p = .waiting ∧ p' = .holding none) ∨
      (r = .unlock ∧ p.Inside ∧ p' = .outside) ∨
      (¬ r.Passive ∧ r ≠ .queue ∧ r ≠ .lock ∧ r ≠ .unlock ∧ p.Inside ∧ p'.Inside) := by
  cases h with
  | aside hr => exact Or.inl ⟨hr, rfl, rfl⟩
  | queue => exact Or.inr (Or.inl ⟨rfl, rfl, rfl⟩)
  | lock => exact Or.inr (Or.inr (Or.inl ⟨rfl, rfl, rfl⟩))
  | unlock => exact Or.inr (Or.inr (Or.inr (Or.inl ⟨rfl, trivial, rfl⟩)))
  | networks | remove | issueDel | deleted | connect | insert | issueAdd | added | refused
  | removeSame =>
      refine Or.inr (Or.inr (Or.inr (Or.inr ⟨id, ?_, ?_, ?_, trivial, trivial⟩))) <;>
        exact fun h => nomatch h

theorem Request.lineAfter_eq {id : TaskId} {r : Request} (hq : r ≠ .queue) (hu : r ≠ .unlock)
    (line : List TaskId) : r.lineAfter id line = line := by
  cases r with
  | queue => exact absurd rfl hq
  | unlock => exact absurd rfl hu
  | _ => rfl

theorem Request.Passive.ne {r : Request} (h : r.Passive) :
    r ≠ .queue ∧ r ≠ .lock ∧ r ≠ .unlock := by
  refine ⟨?_, ?_, ?_⟩ <;>
    · intro hr
      rw [hr] at h
      exact h

theorem holder_append (tr : List (Exchange interface)) (e : Exchange interface) :
    holder (tr ++ [e]) =
      match e.request with
      | .lock => some e.task
      | .unlock => none
      | _ => holder tr := by
  simp only [holder, List.foldl_append, List.foldl_cons, List.foldl_nil]

theorem holder_append_eq {tr : List (Exchange interface)} {id : TaskId} {r : Request}
    {x : r.Answer} (hl : r ≠ .lock) (hu : r ≠ .unlock) :
    holder (tr ++ [⟨id, r, x⟩]) = holder tr := by
  rw [holder_append]
  cases r with
  | lock => exact absurd rfl hl
  | unlock => exact absurd rfl hu
  | _ => rfl

namespace Line

variable {Free : Request → Prop} {tr : List (Exchange interface)} {line : List TaskId}
  {ph : TaskId → Phase} {id : TaskId} {r : Request} {x : r.Answer} {ph' : Phase}

/-- In the beginning nobody has to do with the lock. -/
theorem nil : Line [] [] fun _ => .outside where
  nodup := List.nodup_nil
  mem_iff := by
    intro i
    exact iff_of_false (List.not_mem_nil) fun hne => hne rfl
  head := fun hi => hi.elim
  inside_iff := by
    intro i
    exact iff_of_false not_inside_outside fun heq => nomatch heq

/-- **Mutual exclusion.** -/
theorem unique (h : Line tr line ph) {i j : TaskId} (hi : (ph i).Inside) (hj : (ph j).Inside) :
    i = j :=
  Option.some.inj ((h.head hi).symm.trans (h.head hj))

/-- While the first in the line still waits, no task is inside. -/
theorem not_inside (h : Line tr line ph) (hhead : line.head? = some id)
    (hid : ¬ (ph id).Inside) (i : TaskId) : ¬ (ph i).Inside := by
  intro hi
  have hij : i = id := Option.some.inj ((h.head hi).symm.trans hhead)
  exact hid (hij ▸ hi)

theorem holder_eq_none (h : Line tr line ph) (hnone : ∀ i, ¬ (ph i).Inside) :
    holder tr = none := by
  cases hi : holder tr with
  | none => rfl
  | some i => exact absurd (h.inside_iff.mpr hi) (hnone i)

/-- A task that goes from one phase inside to another, or stays outside, leaves the line
    as it is. -/
private theorem keep (h : Line tr line ph) (hout : ph id = .outside ↔ ph' = .outside)
    (hin : (ph id).Inside ↔ ph'.Inside) (hl : r ≠ .lock) (hu : r ≠ .unlock) :
    Line (tr ++ [⟨id, r, x⟩]) line (Function.update ph id ph') where
  nodup := h.nodup
  mem_iff := by
    intro i
    rw [h.mem_iff, Function.update_apply]
    by_cases hi : i = id
    · rw [if_pos hi, hi, Ne, hout]
    · rw [if_neg hi]
  head := by
    intro i hi
    rw [Function.update_apply] at hi
    refine h.head ?_
    by_cases hi' : i = id
    · rw [if_pos hi'] at hi
      rw [hi']
      exact hin.mpr hi
    · rw [if_neg hi'] at hi
      exact hi
  inside_iff := by
    intro i
    rw [holder_append_eq hl hu, ← h.inside_iff, Function.update_apply]
    by_cases hi : i = id
    · rw [if_pos hi, hi, hin]
    · rw [if_neg hi]

private theorem queued (h : Line tr line ph) (hid : ph id = .outside) {x : Unit} :
    Line (tr ++ [⟨id, .queue, x⟩]) (line ++ [id]) (Function.update ph id .waiting) where
  nodup := by
    -- a task that is outside is not in the line yet
    have hnot : id ∉ line := fun hmem => h.mem_iff.mp hmem hid
    refine List.nodup_append.mpr ⟨h.nodup, List.pairwise_singleton _ id, ?_⟩
    intro a ha b hb hab
    rw [List.mem_singleton.mp hb] at hab
    exact hnot (hab ▸ ha)
  mem_iff := by
    intro i
    rw [List.mem_append, List.mem_singleton, h.mem_iff, Function.update_apply]
    by_cases hi : i = id
    · rw [if_pos hi]
      simp [hi]
    · rw [if_neg hi]
      simp [hi]
  head := by
    intro i hi
    rw [Function.update_apply] at hi
    by_cases hi' : i = id
    · rw [if_pos hi'] at hi
      exact hi.elim
    · rw [if_neg hi'] at hi
      rw [List.head?_append, h.head hi]
      rfl
  inside_iff := by
    intro i
    have hkeep : holder (tr ++ [⟨id, .queue, x⟩]) = holder tr :=
      holder_append_eq (fun h => nomatch h) fun h => nomatch h
    rw [hkeep, ← h.inside_iff, Function.update_apply]
    by_cases hi : i = id
    · rw [if_pos hi, hi, hid]
      simp
    · rw [if_neg hi]

private theorem locked (h : Line tr line ph) (hid : ph id = .waiting)
    (hhead : line.head? = some id) {g : Option Subnet} {x : Unit} :
    Line (tr ++ [⟨id, .lock, x⟩]) line (Function.update ph id (.holding g)) where
  nodup := h.nodup
  mem_iff := by
    intro i
    rw [h.mem_iff, Function.update_apply]
    by_cases hi : i = id
    · rw [if_pos hi, hi, hid]
      simp
    · rw [if_neg hi]
  head := by
    intro i hi
    rw [Function.update_apply] at hi
    by_cases hi' : i = id
    · rw [hi', hhead]
    · rw [if_neg hi'] at hi
      exact h.head hi
  inside_iff := by
    intro i
    rw [holder_append, Function.update_apply]
    by_cases hi : i = id
    · rw [if_pos hi, hi]
      exact iff_of_true trivial rfl
    · rw [if_neg hi]
      have hwait : ¬ (ph id).Inside := by
        rw [hid]
        exact not_inside_waiting
      exact iff_of_false (h.not_inside hhead hwait i) fun heq => hi (Option.some.inj heq).symm

private theorem unlocked (h : Line tr line ph) (hid : (ph id).Inside) {x : Unit} :
    Line (tr ++ [⟨id, .unlock, x⟩]) line.tail (Function.update ph id .outside) := by
  have hothers : ∀ i, ¬ (Function.update ph id .outside i).Inside := by
    intro i hi
    rw [Function.update_apply] at hi
    by_cases hi' : i = id
    · rw [if_pos hi'] at hi
      exact hi
    · rw [if_neg hi'] at hi
      exact hi' (h.unique hi hid)
  -- the task that gives the lock back is the first in the line
  obtain ⟨rest, hrest⟩ : ∃ rest, line = id :: rest := List.head?_eq_some_iff.mp (h.head hid)
  have hnodup := h.nodup
  rw [hrest, List.nodup_cons] at hnodup
  refine ⟨?_, ?_, fun hi => absurd hi (hothers _), ?_⟩
  · rw [hrest]
    exact hnodup.2
  · intro i
    have hmem := h.mem_iff (i := i)
    rw [hrest, List.mem_cons] at hmem
    rw [hrest, List.tail_cons, Function.update_apply]
    by_cases hi : i = id
    · rw [if_pos hi, hi]
      exact iff_of_false hnodup.1 fun hne => hne rfl
    · rw [if_neg hi, ← hmem]
      exact ⟨Or.inr, fun hor => hor.resolve_left hi⟩
  · intro i
    rw [holder_append]
    exact iff_of_false (hothers i) fun heq => nomatch heq

/-- Every step of the protocol keeps the line in order. -/
theorem step (h : Line tr line ph) (hfree : ∀ r, Free r → r.Passive)
    (hstep : Change Free (ph id) r x ph') {t : RouteTable} (hshows : Shows id line t r x) :
    Line (tr ++ [⟨id, r, x⟩]) (r.lineAfter id line) (Function.update ph id ph') := by
  rcases hstep.kind with ⟨hr, hp, hp'⟩ | ⟨rfl, hp, hp'⟩ | ⟨rfl, hp, hp'⟩ | ⟨rfl, hp, hp'⟩ |
    ⟨-, hq, hl, hu, hp, hp'⟩
  · obtain ⟨hq, hl, hu⟩ := (hfree r hr).ne
    rw [Request.lineAfter_eq hq hu]
    refine h.keep ?_ ?_ hl hu
    · rw [hp, hp']
    · rw [hp, hp']
  · rw [hp']
    exact h.queued hp
  · rw [hp']
    exact h.locked hp hshows
  · rw [hp']
    exact h.unlocked hp
  · rw [Request.lineAfter_eq hq hu]
    refine h.keep ?_ (iff_of_true hp hp') hl hu
    refine iff_of_false (fun heq => ?_) fun heq => ?_
    · rw [heq] at hp
      exact hp
    · rw [heq] at hp'
      exact hp'

end Line

/-! ## What only the holder of the lock may break -/

/-- A statement about the phase of whoever is inside holds; the one about `outside` holds
    while nobody is. -/
structure Guards (F : Phase → Prop) (ph : TaskId → Phase) : Prop where
  inside : ∀ {i : TaskId}, (ph i).Inside → F (ph i)
  outside : (∀ i, ¬ (ph i).Inside) → F .outside

/-- While nobody has to do with the lock, the statement about `outside` is all there is. -/
theorem Guards.of_outside {F : Phase → Prop} (h : F .outside) : Guards F fun _ => .outside :=
  ⟨fun hi => hi.elim, fun _ => h⟩

/-- When no other task is inside, only the phase of the one that took the step counts. -/
private theorem Guards.alone {F : Phase → Prop} {ph : TaskId → Phase} {id : TaskId}
    {ph' : Phase} (hothers : ∀ i, i ≠ id → ¬ (ph i).Inside) (hin : ph'.Inside → F ph')
    (hout : ¬ ph'.Inside → F .outside) : Guards F (Function.update ph id ph') where
  inside := by
    intro i hi
    by_cases heq : i = id
    · rw [heq, Function.update_self] at hi ⊢
      exact hin hi
    · rw [Function.update_of_ne heq] at hi
      exact absurd hi (hothers i heq)
  outside := by
    intro hnone
    have hid := hnone id
    rw [Function.update_self] at hid
    exact hout hid

/-- **The rule for what the lock guards.**  Steps outside of the lock leave the statement
    alone, and steps inside carry it from phase to phase. -/
theorem Guards.step {F F' : Phase → Prop} {Free : Request → Prop}
    {tr : List (Exchange interface)} {line : List TaskId} {ph : TaskId → Phase} {id : TaskId}
    {r : Request} {x : r.Answer} {ph' : Phase} {t : RouteTable}
    (h : Guards F ph) (hline : Line tr line ph) (hstep : Change Free (ph id) r x ph')
    (hshows : Shows id line t r x) (haside : Free r ∨ r = .queue → ∀ q, F q → F' q)
    (hlock : r = .lock → F .outside → F' (.holding none))
    (hunlock : r = .unlock → F (ph id) → F' .outside)
    (hinside : (ph id).Inside → ph'.Inside → F (ph id) → F' ph') :
    Guards F' (Function.update ph id ph') := by
  have hstays : Free r ∨ r = .queue → ¬ (ph id).Inside → ¬ ph'.Inside →
      Guards F' (Function.update ph id ph') := by
    intro hr hp hp'
    refine ⟨?_, fun hnone => haside hr _ (h.outside fun i hi => ?_)⟩
    · intro i hi
      have hne : i ≠ id := by
        intro heq
        rw [heq, Function.update_self] at hi
        exact hp' hi
      rw [Function.update_of_ne hne] at hi ⊢
      exact haside hr _ (h.inside hi)
    · have hne : i ≠ id := fun heq => hp (heq ▸ hi)
      have hi' := hnone i
      rw [Function.update_of_ne hne] at hi'
      exact hi' hi
  rcases hstep.kind with ⟨hr, hp, hp'⟩ | ⟨hr, hp, hp'⟩ | ⟨rfl, hp, hp'⟩ | ⟨hr, hp, hp'⟩ |
    ⟨-, -, -, -, hp, hp'⟩
  · exact hstays (Or.inl hr) (by simp [hp]) (by simp [hp'])
  · exact hstays (Or.inr hr) (by simp [hp]) (by simp [hp'])
  · have hnone := hline.not_inside hshows (by simp [hp])
    rw [hp']
    exact Guards.alone (fun i _ => hnone i) (fun _ => hlock rfl (h.outside hnone))
      fun hn => absurd trivial hn
  · rw [hp']
    exact Guards.alone (fun i hne hi => hne (hline.unique hi hp)) (fun hin => hin.elim)
      fun _ => hunlock hr (h.inside hp)
  · exact Guards.alone (fun i hne hi => hne (hline.unique hi hp))
      (fun _ => hinside hp hp' (h.inside hp)) fun hn => absurd hp' hn

/-! ## What a task knows of the table -/

/-- What the phase of the task inside says of the table. -/
def Known (t : RouteTable) : Phase → Prop
  | .holding (some n) => t.get? n = none
  | .removing n => t.get? n = none
  | .removed n => t.get? n = none
  | .inserted p => t.get? p.network = some p
  | _ => True

/-- What is known of the table stays true from step to step inside. -/
theorem Known.step {t : RouteTable} {Free : Request → Prop} {p p' : Phase} {r : Request}
    {x : r.Answer} (h : Known t p) (hstep : Change Free p r x p') (hin : p'.Inside) :
    Known (r.tableAfter t) p' := by
  cases hstep with
  | aside => exact hin.elim
  | queue => exact hin.elim
  | unlock => exact hin.elim
  | lock => trivial
  | networks => exact h
  | @remove g n =>
      show (t.erase n).get? n = none
      rw [RouteTable.get?_erase, if_pos rfl]
  | issueDel => exact h
  | deleted => exact h
  | connect => exact h
  | @insert p =>
      show (t.insert p).2.get? p.network = some p
      rw [RouteTable.get?_insert, if_pos rfl]
  | issueAdd => exact h
  | added => trivial
  | refused => exact h
  | @removeSame p =>
      show (t.removeSame p.network p).2.get? p.network = none
      rw [RouteTable.removeSame_eq h, RouteTable.get?_erase, if_pos rfl]

theorem Request.tableAfter_eq {r : Request} (h : r.Passive ∨ r = .queue) (t : RouteTable) :
    r.tableAfter t = t := by
  rcases h with h | rfl
  · cases r with
    | remove | insert | removeSame => exact h.elim
    | _ => rfl
  · rfl

end Overlay.Tunnel
