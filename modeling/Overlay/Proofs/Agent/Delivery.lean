import Overlay.Proofs.Agent.Feed
import Overlay.Proofs.Agent.Watching
import Overlay.Proofs.Controller.Address
import Overlay.Proofs.Tunnel.Adding

/-!
# The watcher hands over what the controller publishes

As long as the watcher is not told to stop and somebody is there to receive, it hands over the
changes that the controller publishes, each of them once and in order, across any number of
connections.  What it has handed over, what it has in hand and what is to come are together all
changes of the feed (`Exact`); nothing is asked of the surroundings for that.

`Delivering.forwards` says this of every run, together with what the watcher may wait for: a
connection, the end of a delay, or room for a change.  It does not run in circles: each request is
paid for by the feed or by a signal that told it to go on.
-/

namespace Overlay.Agent.Watching

open EventStream (Item)

/-! ## The watcher and a receiver -/

/-- The number of the watcher. -/
def watchTask : TaskId := 0

/-- The number of the receiver. -/
def receiveTask : TaskId := 1

/-- Receives one change. -/
def receive : Work (Option Unit) := do
  discard (ask .change)
  return none

/-- The protocol of a receiver, which never ends. -/
def receiving : Protocol interface where
  Phase := Unit
  Possible := Plausible
  Step := fun _ r _ _ => r = .change

/-- A receiver keeps the protocol. -/
theorem receive_keeps : (background receive).Keeps receiving (fun _ _ => False) () := by
  refine Task.keeps_loop (fun _ => True) (fun _ _ => ?_) trivial
  exact fun _ _ => ⟨(), rfl, trivial⟩

variable {σ : Type}

/-- The queue, the stream and what is to come are as they were. -/
structure Untouched (s s' : State (Feed × σ)) : Prop where
  launched : s'.launched = s.launched
  changes : s'.changes = s.changes
  isOpen : s'.isOpen = s.isOpen
  feed : s'.feed = s.feed

/-- What happens beside the two tasks. -/
inductive Beside : State (Feed × σ) → State (Feed × σ) → Prop where
  /-- They are told to go on. -/
  | calm (s : State (Feed × σ)) : Beside s (s.mapSignals (.send false))
  /-- Something that has to do neither with the signal nor with the queue nor with the feed. -/
  | elsewhere {s s' : State (Feed × σ)} : s'.signals = s.signals → Untouched s s' → Beside s s'

/-- How many requests the watcher makes at most, unless it is told to go on in between. -/
def allowance (connections : List Connection) : Nat := 2 + (connections.map Connection.cost).sum

/-- The watcher and a receiver have been run beside a feed. -/
def Delivering (around : Around σ) (url : Url) (s : State (Feed × σ))
    (tr : List (Exchange interface)) (t : System interface (State (Feed × σ)) Result) : Prop :=
  System.Runs (State.machine (fed around)) (fun _ => False) Beside
    ⟨s, [background (watchRun url), background receive]⟩ tr t

/-- The agent has been launched and nobody told to stop; these connections are to come, and the
    queue has room and its receiver and is empty. -/
structure Poised (connections : List Connection) (s : State (Feed × σ)) : Prop where
  launched : s.launched = true
  quiet : Quiet s
  closed : s.isOpen = false
  feed : s.feed = ⟨connections, []⟩
  empty : s.changes.waiting = []
  present : s.changes.receiverGone = false
  room : 0 < s.changes.capacity

/-! ## What the trace tells -/

/-- The changes that were handed over. -/
def sent (tr : List (Exchange interface)) : List EdgeEvent :=
  tr.filterMap fun e =>
    match e with
    | ⟨_, .publish e, true⟩ => some e
    | _ => none

/-- The changes that were received. -/
def received (tr : List (Exchange interface)) : List EdgeEvent :=
  tr.filterMap fun e =>
    match e with
    | ⟨_, .change, .event e⟩ => some e
    | _ => none

/-- The number of requests of the watcher. -/
def requests (tr : List (Exchange interface)) : Nat := tr.countP fun e => e.task = watchTask

/-- The watcher was told to go on, and has to begin again. -/
def disturbs : Exchange interface → Bool
  | ⟨_, .connect _, .signal _⟩ => true
  | ⟨_, .arrival, .signal _⟩ => true
  | _ => false

/-- How often the watcher was told to go on. -/
def disturbances (tr : List (Exchange interface)) : Nat := tr.countP disturbs

section Traces

variable {tr : List (Exchange interface)} {e : Exchange interface}

theorem sent_concat : sent (tr ++ [e]) = sent tr ++ sent [e] := List.filterMap_append

theorem received_concat : received (tr ++ [e]) = received tr ++ received [e] :=
  List.filterMap_append

theorem requests_concat : requests (tr ++ [e]) = requests tr + requests [e] := List.countP_append

theorem disturbances_concat : disturbances (tr ++ [e]) = disturbances tr + disturbances [e] :=
  List.countP_append

end Traces

/-! ## Nothing is lost -/

/-- What a stage says about the stream: is it open?  While all is quiet the watcher does not
    leave. -/
def Stage.Sees : Stage → Bool → Prop
  | following, isOpen => isOpen = true
  | opened, isOpen => isOpen = true
  | holding _, isOpen => isOpen = true
  | idle, _ => True
  | leaving, _ => False
  | left, _ => False
  | _, isOpen => isOpen = false

/-- The change in hand. -/
def Stage.hand : Stage → List EdgeEvent
  | holding e => [e]
  | _ => []

/-- How many requests are left before the next event or the next connection at most. -/
def Stage.due (isOpen : Bool) : Stage → Nat
  | idle => if isOpen then 6 else 2
  | following => 5
  | apart => 1
  | opened => 7
  | failing => 4
  | waiting => 3
  | holding _ => 7
  | _ => 0

/-- What holds in a stage while all is quiet. -/
structure Steady (s : State (Feed × σ)) (q : Stage) : Prop where
  launched : s.launched = true
  quiet : Quiet s
  present : s.changes.receiverGone = false
  room : 0 < s.changes.capacity
  sees : q.Sees s.isOpen
  closed : s.isOpen = false → s.feed.now = []

/-- An exchange loses no change and adds none, and the request is paid for. -/
structure Balanced (s : State (Feed × σ)) (q : Stage) (e : Exchange interface)
    (s' : State (Feed × σ)) (q' : Stage) : Prop where
  order : sent [e] ++ q'.hand ++ s'.feed.changes = q.hand ++ s.feed.changes
  handed : received [e] ++ s'.changes.waiting = s.changes.waiting ++ sent [e]
  paid : requests [e] + q'.due s'.isOpen + s'.feed.cost ≤
    q.due s.isOpen + s.feed.cost + 3 * disturbances [e]

variable {around : Around σ} {url : Url} {s s' : State (Feed × σ)} {q q' : Stage}

/-- An exchange that touches nothing. -/
theorem Steady.silent {e : Exchange interface} (h : Steady s q) (hun : Untouched s s')
    (hquiet : Quiet s') (hsees : q'.Sees s.isOpen) (hhand : q'.hand = q.hand)
    (hsent : sent [e] = []) (hreceived : received [e] = [])
    (hpaid : requests [e] + q'.due s.isOpen ≤ q.due s.isOpen + 3 * disturbances [e]) :
    Steady s' q' ∧ Balanced s q e s' q' := by
  refine ⟨⟨hun.launched.trans h.launched, hquiet, ?_, ?_, ?_, ?_⟩, ⟨?_, ?_, ?_⟩⟩
  · rw [hun.changes]
    exact h.present
  · rw [hun.changes]
    exact h.room
  · rw [hun.isOpen]
    exact hsees
  · rw [hun.isOpen, hun.feed]
    exact h.closed
  · rw [hsent, hhand, hun.feed]
    rfl
  · rw [hsent, hreceived, hun.changes, List.append_nil, List.nil_append]
  · rw [hun.isOpen, hun.feed]
    omega

/-- A signal that tells to go on touches nothing else. -/
theorem Untouched.setSignal (p : Part) (g : Signal) : Untouched s (s.setSignal p g) :=
  ⟨rfl, rfl, rfl, rfl⟩

theorem Untouched.refl (s : State (Feed × σ)) : Untouched s s := ⟨rfl, rfl, rfl, rfl⟩

namespace Stage

variable (e : StreamEvent)

theorem hand_ofEvent : (ofEvent e).hand = e.change?.toList := by
  unfold ofEvent
  cases e.change? with
  | none | some => rfl

theorem sees_ofEvent : (ofEvent e).Sees true := by
  unfold ofEvent
  cases e.change? with
  | none => trivial
  | some => rfl

theorem due_ofEvent : (ofEvent e).due true ≤ 7 := by
  unfold ofEvent
  cases e.change? with
  | none =>
      show 6 ≤ 7
      decide
  | some => exact Nat.le_refl 7

end Stage

namespace Steady

/-- The watcher connects: the next connection has been made. -/
theorem connect_step {x : Connecting} (h : Steady s .checked)
    (hstep : Stage.Step .checked (.connect url) x q')
    (hx : s.answer (fed around) watchTask (.connect url) = some (x, s')) :
    Steady s' q' ∧ Balanced s .checked ⟨watchTask, .connect url, x⟩ s' q' := by
  have hshut : s.isOpen = false := h.sees
  rcases h.quiet.lookOr hx with ⟨rfl, hquiet, g, rfl⟩ | hother
  · cases hstep
    refine h.silent (.setSignal _ g) hquiet trivial rfl rfl rfl ?_
    rw [hshut]
    exact Nat.le_refl (1 + 2)
  · obtain ⟨c, coming, hcoming, rfl, rfl⟩ := connected_fed hother
    have hfeed : s.feed = ⟨c :: coming, []⟩ := by rw [← hcoming, ← h.closed hshut]
    have horder : (⟨coming, c.events⟩ : Feed).changes = s.feed.changes := by
      rw [hfeed, Feed.changes_connection]
    have hcost : 8 + (⟨coming, c.events⟩ : Feed).cost = s.feed.cost := by
      rw [hfeed, Feed.cost_connection]
    cases hopened : c.body?.isSome with
    | true =>
        rw [hopened, if_pos rfl] at hstep
        cases hstep
        refine ⟨⟨h.launched, h.quiet, h.present, h.room, rfl, fun hs => nomatch hs⟩, horder,
          (List.append_nil _).symm, ?_⟩
        show 1 + 7 + (⟨coming, c.events⟩ : Feed).cost ≤ 0 + s.feed.cost + 0
        omega
    | false =>
        rw [hopened, if_neg Bool.false_ne_true] at hstep
        cases hstep
        have hnone : c.events = [] := Connection.events_eq_nil hopened
        refine ⟨⟨h.launched, h.quiet, h.present, h.room, rfl, fun _ => hnone⟩, horder,
          (List.append_nil _).symm, ?_⟩
        show 1 + 4 + (⟨coming, c.events⟩ : Feed).cost ≤ 0 + s.feed.cost + 0
        omega

/-- The watcher follows the stream: the next event has been taken off it, or it has ended. -/
theorem arrival_step {x : Arrival} (h : Steady s .following)
    (hstep : Stage.Step .following .arrival x q')
    (hx : s.answer (fed around) watchTask .arrival = some (x, s')) :
    Steady s' q' ∧ Balanced s .following ⟨watchTask, .arrival, x⟩ s' q' := by
  have hopen : s.isOpen = true := h.sees
  rcases h.quiet.lookOr hx with ⟨rfl, hquiet, g, rfl⟩ | hother
  · cases hstep
    refine h.silent (.setSignal _ g) hquiet trivial rfl rfl rfl ?_
    rw [hopen]
    show 1 + 6 ≤ 5 + 3 * 1
    decide
  · rcases nextArrival_fed hother with ⟨e, now, hnow, rfl, rfl⟩ | ⟨hnow, rfl, rfl⟩
    · cases hstep
      have hfeed : s.feed = ⟨s.feed.coming, e :: now⟩ := by rw [← hnow]
      have hchanges : s.feed.changes =
          e.change?.toList ++ (⟨s.feed.coming, now⟩ : Feed).changes := by
        rw [hfeed, Feed.changes_event]
      have hcost : s.feed.cost = 3 + (⟨s.feed.coming, now⟩ : Feed).cost := by
        rw [hfeed, Feed.cost_event]
      refine ⟨⟨h.launched, h.quiet, h.present, h.room, ?_, fun hs => nomatch hopen.symm.trans hs⟩,
        ?_, (List.append_nil _).symm, ?_⟩
      · show (Stage.ofEvent e).Sees s.isOpen
        rw [hopen]
        exact Stage.sees_ofEvent e
      · show (Stage.ofEvent e).hand ++ (⟨s.feed.coming, now⟩ : Feed).changes = s.feed.changes
        rw [hchanges, Stage.hand_ofEvent]
      · have hdue : (Stage.ofEvent e).due s.isOpen ≤ 7 := hopen.symm ▸ Stage.due_ofEvent e
        show 1 + (Stage.ofEvent e).due s.isOpen + (⟨s.feed.coming, now⟩ : Feed).cost ≤
          5 + s.feed.cost + 0
        omega
    · cases hstep
      refine ⟨⟨h.launched, h.quiet, h.present, h.room, rfl, fun _ => hnow⟩, rfl,
        (List.append_nil _).symm, ?_⟩
      exact Nat.le_refl (1 + 4 + s.feed.cost)

/-- The watcher hands a change over: it stands behind those that wait. -/
theorem publish_step {e : EdgeEvent} {there : Bool} (h : Steady s (.holding e))
    (hstep : Stage.Step (.holding e) (.publish e) there q')
    (hx : s.answer (fed around) watchTask (.publish e) = some (there, s')) :
    Steady s' q' ∧ Balanced s (.holding e) ⟨watchTask, .publish e, there⟩ s' q' := by
  have hopen : s.isOpen = true := h.sees
  obtain ⟨⟨taken, queue⟩, hoffer, heq⟩ := Option.map_eq_some_iff.mp hx
  cases heq
  unfold Queue.offer? at hoffer
  rw [h.present, if_neg Bool.false_ne_true] at hoffer
  split at hoffer
  · exact nomatch hoffer
  · cases hoffer
    cases hstep
    refine ⟨⟨h.launched, h.quiet, rfl, h.room, trivial, h.closed⟩, rfl, rfl, ?_⟩
    have hdue : Stage.due s.isOpen .idle = 6 := by
      rw [hopen]
      rfl
    show 1 + Stage.due s.isOpen .idle + s.feed.cost ≤ 7 + s.feed.cost + 0
    omega

/-- The watcher waits: the delay has passed, or it was told to go on. -/
theorem pause_step {d : Duration} {stop : Bool} (h : Steady s .waiting)
    (hstep : Stage.Step .waiting (.pause .watch d) stop q')
    (hx : s.answer (fed around) watchTask (.pause .watch d) = some (stop, s')) :
    Steady s' q' ∧ Balanced s .waiting ⟨watchTask, .pause .watch d, stop⟩ s' q' := by
  have hshut : s.isOpen = false := h.sees
  have hun : stop = false ∧ Untouched s s' ∧ Quiet s' := by
    simp only [State.answer] at hx
    rcases h.quiet.lookOr hx with ⟨rfl, hquiet, g, rfl⟩ | hother
    · exact ⟨rfl, .setSignal _ g, hquiet⟩
    · obtain ⟨rfl, w, rfl⟩ := waited_fed hother
      exact ⟨rfl, ⟨rfl, rfl, rfl, rfl⟩, h.quiet⟩
  obtain ⟨rfl, hun, hquiet⟩ := hun
  cases hstep
  refine h.silent hun hquiet trivial rfl rfl rfl ?_
  rw [hshut]
  exact Nat.le_refl (1 + 2)

/-- **A step of the watcher** loses no change. -/
theorem watcher_step {r : Request} {x : r.Answer} (h : Steady s q) (hstep : q.Step r x q')
    (hx : s.answer (fed around) watchTask r = some (x, s')) :
    Steady s' q' ∧ Balanced s q ⟨watchTask, r, x⟩ s' q' := by
  cases hstep with
  | found =>
      obtain ⟨hopen, rfl⟩ := isOpen_eq hx
      refine h.silent (.refl _) h.quiet hopen.symm rfl rfl rfl ?_
      rw [← hopen]
      exact Nat.le_refl (1 + 5)
  | missed =>
      obtain ⟨hopen, rfl⟩ := isOpen_eq hx
      refine h.silent (.refl _) h.quiet hopen.symm rfl rfl rfl ?_
      rw [← hopen]
      exact Nat.le_refl (1 + 1)
  | goOn =>
      obtain ⟨-, rfl⟩ := stopping_eq hx
      exact h.silent (.refl _) h.quiet h.sees rfl rfl rfl (Nat.le_refl 1)
  | stop => exact nomatch (stopping_eq hx).1.trans (h.quiet .watch).1
  | hurried => exact h.connect_step .hurried hx
  | disturbed => exact h.connect_step .disturbed hx
  | fail => exact h.connect_step .fail hx
  | opens => exact h.connect_step .opens hx
  | told => exact h.arrival_step .told hx
  | calm => exact h.arrival_step .calm hx
  | hear => exact h.arrival_step .hear hx
  | lose => exact h.arrival_step .lose hx
  | publish => exact h.publish_step .publish hx
  | abandon => exact h.publish_step .abandon hx
  | wait => exact h.pause_step .wait hx
  | giveUp => exact h.pause_step .giveUp hx
  | reset =>
      cases hx
      have hopen : s.isOpen = true := h.sees
      refine h.silent ⟨rfl, rfl, rfl, rfl⟩ h.quiet trivial rfl rfl rfl ?_
      rw [hopen]
      exact Nat.le_refl (1 + 6)
  | delay =>
      cases hx
      exact h.silent ⟨rfl, rfl, rfl, rfl⟩ h.quiet h.sees rfl rfl rfl (Nat.le_refl (1 + 3))
  | leave => exact h.sees.elim

/-- **A step of the receiver** takes the oldest change. -/
theorem receiver_step {r : Request} {x : r.Answer} (h : Steady s q) (hr : r = .change)
    (hx : s.answer (fed around) receiveTask r = some (x, s')) :
    Steady s' q ∧ Balanced s q ⟨receiveTask, r, x⟩ s' q := by
  subst hr
  have hfree : ∀ x : Change, requests [⟨receiveTask, .change, x⟩] + q.due s.isOpen ≤
      q.due s.isOpen + 3 * disturbances [⟨receiveTask, .change, x⟩] := fun x =>
    Nat.le_of_eq (Nat.zero_add _)
  rcases h.quiet.change hx with ⟨rfl, hquiet, g, rfl⟩ | ⟨e, rest, hwaiting, rfl, rfl⟩ |
    ⟨-, -, rfl, rfl⟩
  · exact h.silent (.setSignal _ g) hquiet h.sees rfl rfl rfl (hfree _)
  · refine ⟨⟨h.launched, h.quiet, h.present, h.room, h.sees, h.closed⟩, rfl, ?_, ?_⟩
    · show e :: rest = s.changes.waiting ++ []
      rw [hwaiting, List.append_nil]
    · exact Nat.le_of_eq (congrArg (· + s.feed.cost) (Nat.zero_add _))
  · exact h.silent (.refl _) h.quiet h.sees rfl rfl rfl (hfree _)

theorem beside (h : Steady s q) (hs : Beside s s') : Untouched s s' ∧ Steady s' q := by
  cases hs with
  | calm =>
      exact ⟨⟨rfl, rfl, rfl, rfl⟩, h.launched, h.quiet.goOn, h.present, h.room, h.sees, h.closed⟩
  | elsewhere hsignals hun =>
      have hquiet : Quiet s' := fun p => hsignals ▸ h.quiet p
      exact ⟨hun, hun.launched.trans h.launched, hquiet, hun.changes ▸ h.present,
        hun.changes ▸ h.room, hun.isOpen ▸ h.sees, hun.isOpen ▸ hun.feed ▸ h.closed⟩

end Steady

/-- What was handed over, what is in hand and what is to come are all changes; what was received
    and what waits are those that were handed over; and every request is paid for. -/
structure Exact (all : List EdgeEvent) (budget : Nat) (tr : List (Exchange interface))
    (s : State (Feed × σ)) (q : Stage) : Prop where
  steady : Steady s q
  order : sent tr ++ q.hand ++ s.feed.changes = all
  handed : received tr ++ s.changes.waiting = sent tr
  paid : requests tr + q.due s.isOpen + s.feed.cost ≤ budget + 3 * disturbances tr

namespace Exact

variable {all : List EdgeEvent} {budget : Nat} {tr : List (Exchange interface)}

theorem concat {e : Exchange interface} (h : Exact all budget tr s q)
    (hnext : Steady s' q' ∧ Balanced s q e s' q') : Exact all budget (tr ++ [e]) s' q' where
  steady := hnext.1
  order := by
    rw [sent_concat, List.append_assoc, List.append_assoc, ← List.append_assoc (sent [e]),
      hnext.2.order, ← List.append_assoc, h.order]
  handed := by
    rw [received_concat, sent_concat, List.append_assoc, hnext.2.handed, ← List.append_assoc,
      h.handed]
  paid := by
    have hbefore := h.paid
    have hpaid := hnext.2.paid
    rw [requests_concat, disturbances_concat]
    omega

theorem watcher_step {r : Request} {x : r.Answer} (h : Exact all budget tr s q)
    (hstep : q.Step r x q') (hx : s.answer (fed around) watchTask r = some (x, s')) :
    Exact all budget (tr ++ [⟨watchTask, r, x⟩]) s' q' :=
  h.concat (h.steady.watcher_step hstep hx)

theorem receiver_step {r : Request} {x : r.Answer} (h : Exact all budget tr s q)
    (hr : r = .change) (hx : s.answer (fed around) receiveTask r = some (x, s')) :
    Exact all budget (tr ++ [⟨receiveTask, r, x⟩]) s' q :=
  h.concat (h.steady.receiver_step hr hx)

theorem beside (h : Exact all budget tr s q) (hs : Beside s s') : Exact all budget tr s' q := by
  obtain ⟨hun, hsteady⟩ := h.steady.beside hs
  refine ⟨hsteady, ?_, ?_, ?_⟩
  · rw [hun.feed]
    exact h.order
  · rw [hun.changes]
    exact h.handed
  · rw [hun.isOpen, hun.feed]
    exact h.paid

end Exact

variable {connections : List Connection} {tr : List (Exchange interface)}
  {t : System interface (State (Feed × σ)) Result}

theorem Poised.exact_at_start (hs : Poised connections s) :
    Exact (Connection.published connections) (allowance connections) [] s .idle where
  steady := ⟨hs.launched, hs.quiet, hs.present, hs.room, trivial, fun _ => by rw [hs.feed]⟩
  order := by
    rw [hs.feed]
    rfl
  handed := hs.empty
  paid := by
    rw [hs.feed, hs.closed]
    show 0 + 2 + (3 * 0 + (connections.map Connection.cost).sum) ≤ allowance connections + 3 * 0
    unfold allowance
    omega

/-- The watcher and the receiver keep their protocols. -/
def Keeping (t : System interface (State (Feed × σ)) Result) (q : Stage) : Prop :=
  t.KeepsTwo watching receiving (fun q _ => q = .left) (fun _ _ => False) q ()

/-- **No change is lost** in any run. -/
theorem Delivering.exact_in_run (hs : Poised connections s) (h : Delivering around url s tr t) :
    ∃ q, Exact (Connection.published connections) (allowance connections) tr t.state q ∧
      Keeping t q := by
  obtain ⟨q, _, hexact, hk⟩ := System.Runs.keeps_two
    (fun tr u q _ => Exact (Connection.published connections) (allowance connections) tr u q)
    (fun hx => ⟨plausible_of_answer hx, plausible_of_answer hx⟩)
    ⟨_, _, rfl, watcher_keeps url, receive_keeps⟩ hs.exact_at_start
    Exact.watcher_step Exact.receiver_step Exact.beside h
  exact ⟨q, hexact, hk⟩

/-! ## Somebody goes on -/

/-- What the watcher may wait for. -/
inductive Waits (around : Around σ) (s : State (Feed × σ)) : Request → Prop where
  /-- No connection is to come any more. -/
  | connection {url : Url} : s.feed.coming = [] → Waits around s (.connect url)
  /-- The delay has not passed. -/
  | clock {d : Duration} : around.pause d s.outside.2 = none → Waits around s (.pause .watch d)
  /-- There is no room. -/
  | room {e : EdgeEvent} : s.changes.isFull = true → Waits around s (.publish e)

/-- The watcher is answered, or there is something that it waits for. -/
theorem watcher_answered {r : Request} (hlaunched : s.launched = true) (hr : OfWatcher r) :
    (∃ y u, s.answer (fed around) watchTask r = some (y, u)) ∨ Waits around s r := by
  cases hr with
  | isOpen | stopping => exact Or.inl ⟨_, _, if_pos hlaunched⟩
  | resetDelay | nextDelay | leave => exact Or.inl ⟨_, _, rfl⟩
  | connect =>
      by_cases hcoming : s.feed.coming = []
      · exact Or.inr (.connection hcoming)
      · exact Or.inl (exists_lookOr (exists_connected_fed hcoming))
  | arrival => exact Or.inl (exists_lookOr ⟨_, _, rfl⟩)
  | publish e =>
      cases hoffer : s.changes.offer? e with
      | none =>
          refine Or.inr (.room ?_)
          unfold Queue.offer? at hoffer
          split at hoffer
          · exact nomatch hoffer
          · split at hoffer
            · assumption
            · exact nomatch hoffer
      | some taken => exact Or.inl ⟨_, _, congrArg (Option.map _) hoffer⟩
  | pause d =>
      cases hpause : around.pause d s.outside.2 with
      | none => exact Or.inr (.clock hpause)
      | some w =>
          have hfed : (fed around).pause d s.outside = some (s.feed, w) :=
            congrArg (Option.map fun w => (s.feed, w)) hpause
          refine Or.inl ?_
          simp only [State.answer]
          exact exists_lookOr ⟨_, _, congrArg (Option.map _) hfed⟩

section Progress

variable {a : Task interface Result}

/-- While a change waits the receiver goes on. -/
theorem receiver_goes_on (hk : a.Keeps receiving (fun _ _ => False) ())
    (ha : t.tasks[receiveTask]? = some a) (hwaiting : t.state.changes.waiting ≠ []) :
    ∃ u, t.step (State.machine (fed around)) receiveTask = some u := by
  rcases System.ended_or_steps_or_waits exists_plausible ha hk with
    ⟨_, _, hends⟩ | hsteps | ⟨r, resume, _, _, _, hr, hnone⟩
  · exact hends.elim
  · exact hsteps
  · have hr : r = .change := hr
    subst hr
    obtain ⟨e, rest, hrest⟩ := List.exists_cons_of_ne_nil hwaiting
    have hnext : t.state.nextChange =
        some (.event e, { t.state with changes := { t.state.changes with waiting := rest } }) := by
      unfold State.nextChange Queue.pop
      rw [hrest]
    obtain ⟨y, u, hy⟩ :
        ∃ y u, t.state.lookOr .bridge Change.signal State.nextChange = some (y, u) :=
      exists_lookOr ⟨_, _, hnext⟩
    exact nomatch hnone.symm.trans hy

variable (h : Steady t.state q) (hk : a.Keeps watching (fun q _ => q = .left) q)
include h hk

/-- While all is quiet the watcher does not end. -/
theorem watcher_unfinished : a.result? = none := by
  cases hy : a.result? with
  | none => rfl
  | some y =>
      obtain rfl : q = .left := hk.ends hy
      exact h.sees.elim

/-- The watcher goes on, or there is something that it waits for. -/
theorem watcher_goes_on (ha : t.tasks[watchTask]? = some a) :
    (∃ u, t.step (State.machine (fed around)) watchTask = some u) ∨
      ∃ r y q' resume, a.Asks r resume ∧ q.Step r y q' ∧ Waits around t.state r := by
  rcases System.ended_or_steps_or_waits exists_plausible ha hk with
    ⟨y, hy, -⟩ | hsteps | ⟨r, resume, x, q', hasks, hstep, hnone⟩
  · exact nomatch (watcher_unfinished h hk).symm.trans hy
  · exact Or.inl hsteps
  · rcases watcher_answered h.launched hstep.ofWatcher with ⟨y, u, hy⟩ | hwaits
    · exact nomatch hnone.symm.trans hy
    · exact Or.inr ⟨r, x, q', resume, hasks, hstep, hwaits⟩

end Progress

/-- A watcher that waits for a connection that does not come has handed over everything. -/
theorem Exact.sent_eq {all : List EdgeEvent} {budget : Nat} {y : Connecting}
    (h : Exact all budget tr s q) (hstep : q.Step (.connect url) y q')
    (hcoming : s.feed.coming = []) : sent tr = all := by
  have hshut : q.hand = [] ∧ s.isOpen = false := by
    cases hstep with
    | hurried | disturbed | fail | opens => exact ⟨rfl, h.steady.sees⟩
  have hfeed : s.feed = ⟨[], []⟩ := by rw [← hcoming, ← h.steady.closed hshut.2]
  have horder := h.order
  rw [hshut.1, hfeed] at horder
  simpa [Feed.changes, Connection.published] using horder

/-- Nobody can go on. -/
def Resting (around : Around σ) (t : System interface (State (Feed × σ)) Result) : Prop :=
  ∀ id, t.step (State.machine (fed around)) id = none

/-- The watcher waits for the end of a delay. -/
def Delayed (around : Around σ) (t : System interface (State (Feed × σ)) Result) : Prop :=
  ∃ a d resume, t.tasks[watchTask]? = some a ∧ a.Asks (.pause .watch d) resume ∧
    around.pause d t.state.outside.2 = none

/-- When nobody can go on, everything was received, or the watcher waits for the clock. -/
theorem received_of_resting {all : List EdgeEvent} {budget : Nat}
    (h : Exact all budget tr t.state q) (hk : Keeping t q) (hrests : Resting around t) :
    received tr = all ∨ Delayed around t := by
  obtain ⟨a, b, htasks, ha, hb⟩ := hk
  have hwatch : t.tasks[watchTask]? = some a := congrArg (·[watchTask]?) htasks
  have hreceive : t.tasks[receiveTask]? = some b := congrArg (·[receiveTask]?) htasks
  have hempty : t.state.changes.waiting = [] := by
    by_contra hwaiting
    obtain ⟨u, hu⟩ : ∃ u, t.step (State.machine (fed around)) receiveTask = some u :=
      receiver_goes_on hb hreceive hwaiting
    exact nomatch (hrests receiveTask).symm.trans hu
  rcases watcher_goes_on h.steady ha hwatch with ⟨u, hu⟩ | ⟨r, y, q', resume, hasks, hstep, hwaits⟩
  · exact nomatch (hrests watchTask).symm.trans hu
  · cases hwaits with
    | connection hcoming =>
        have hhanded := h.handed
        rw [hempty, List.append_nil] at hhanded
        exact Or.inl (hhanded.trans (h.sent_eq hstep hcoming))
    | clock hpause => exact Or.inr ⟨a, _, resume, hwatch, hasks, hpause⟩
    | room hfull =>
        -- a full queue that is empty has no room at all
        have hle : t.state.changes.capacity ≤ t.state.changes.waiting.length :=
          of_decide_eq_true hfull
        rw [hempty] at hle
        exact absurd h.steady.room (Nat.not_lt.mpr hle)

/-- The watcher asks for something in each of its runs, and so it takes few steps beside its
    requests. -/
theorem Delivering.watcher_steps_le (h : Delivering around url s tr t) {order : List TaskId}
    {tr' : List (Exchange interface)} {u : System interface (State (Feed × σ)) Result}
    (hplay : t.play (State.machine (fed around)) order = some (tr', u)) :
    order.count watchTask ≤ 2 * requests tr' + 1 := by
  obtain ⟨now, hnow⟩ : ∃ now, t.tasks[watchTask]? = some (.forever _ now) :=
    System.Runs.forever_at h rfl
  have hcount := System.play_count_le rfl hnow hplay
  exact hcount.trans (Nat.add_le_add_left (System.leftover_le_one now) _)

/-- **The watcher hands over what the controller publishes.**  In every run of the watcher and a
    receiver in which nobody is told to stop, whatever the connections to come are:

    * the changes that were handed over are the first of those that the connections publish, and
      those that were received are the first of these, so that none is lost, repeated or out of
      order;
    * the watcher does not end, and it makes only so many requests, unless it is told to go on; it
      takes at most two steps for each of them, and one more;
    * when neither can go on, all changes were received, or the watcher waits for a delay to pass;
    * what the connections publish are the changes of the events that their bodies were written as,
      which are the changes that were written between other things. -/
theorem Delivering.forwards (hs : Poised connections s) (h : Delivering around url s tr t) :
    (sent tr <+: Connection.published connections ∧
      received tr ++ t.state.changes.waiting = sent tr) ∧
    ((∃ a, t.tasks[watchTask]? = some a ∧ a.result? = none) ∧
      requests tr ≤ allowance connections + 3 * disturbances tr ∧
      ∀ order tr' u, t.play (State.machine (fed around)) order = some (tr', u) →
        order.count watchTask ≤ 2 * requests tr' + 1) ∧
    (Resting around t → received tr = Connection.published connections ∨ Delayed around t) ∧
    (∀ blocks, (∀ ls ∈ blocks.flatten, EventStream.Block ls) →
      List.Forall₂ Connection.Brings connections blocks →
      Connection.published connections = blocks.flatten.filterMap EventStream.changeOf?) ∧
    (∀ items : List (List Item), (∀ i ∈ items.flatten, i.Fits) →
      List.Forall₂ Connection.Brings connections (items.map (List.map Item.block)) →
      Connection.published connections = items.flatten.filterMap Item.change?) := by
  obtain ⟨q, hexact, hk⟩ := h.exact_in_run hs
  refine ⟨⟨?_, hexact.handed⟩, ⟨?_, ?_, fun _ _ _ => h.watcher_steps_le⟩,
    received_of_resting hexact hk, fun _ => Connection.published_of_brings,
    fun _ => Connection.published_of_items⟩
  · refine ⟨q.hand ++ t.state.feed.changes, ?_⟩
    rw [← List.append_assoc]
    exact hexact.order
  · obtain ⟨a, b, htasks, ha, -⟩ := hk
    exact ⟨a, congrArg (·[watchTask]?) htasks, watcher_unfinished hexact.steady ha⟩
  · have hpaid := hexact.paid
    omega

/-! ## Two changes in two of four connections -/

/-- An edge. -/
def member : Edge := ⟨"edge-b", "192.0.2.1:7000", "10.1.0.0/16"⟩

/-- What the connections bring: nothing, nothing, a change among other things, another one. -/
def bulletins : List (List Item) :=
  [[], [],
    [.other [": welcome".toList], .change true (.put member),
      .other ["event: ping".toList, "data: now".toList]],
    [.change false (.delete member), .other ["data: nonsense".toList]]]

/-- The lines of the first stream. -/
def firstLines : List (List Char × EventStream.LineEnd) :=
  [(": welcome".toList, .lf), ([], .lf), (Item.dataLine true (.put member), .crlf), ([], .crlf),
    ("event: ping".toList, .lf), ("data: now".toList, .lf), ([], .lf)]

/-- The lines of the second stream. -/
def secondLines : List (List Char × EventStream.LineEnd) :=
  [(Item.dataLine false (.delete member), .cr), ([], .cr), ("data: nonsense".toList, .lf),
    ([], .lf)]

/-- There is no answer, then one that is no success, then two streams; the second one ends with an
    error. -/
def attempts : List Connection :=
  [.failed, .answered ⟨503, []⟩,
    .answered ⟨200, Utf8.encode (EventStream.written firstLines)⟩,
    .answered ⟨200, Utf8.encode (EventStream.written secondLines) ++ [0xFF]⟩]

/-- Surroundings in which no delay takes any time. -/
def hasty : Around Unit where
  tunnel := Tunnel.refusing
  bind _ w := (.ok (), w)
  register _ w := some (.ok [], w)
  report _ _ w := some (.ok (), w)
  unregister _ w := some (.ok (), w)
  connect _ w := some (false, w)
  event w := some (none, w)
  timer _ := none
  pause _ w := some w
  now _ := 0
  draw w := (0, w)

/-- An agent that has been launched before its first attempt. -/
def eager : State (Feed × Unit) where
  server := { device := "loom0", outside := ({ capacity := 1 }, ⟨attempts, []⟩, ()) }
  launched := true
  filter := { interval := .ofSeconds 60 }
  changes := { capacity := 2 }

theorem bulletins_fit : ∀ i ∈ bulletins.flatten, i.Fits := by
  decide +kernel

theorem brings_bulletins :
    List.Forall₂ Connection.Brings attempts (bulletins.map (List.map Item.block)) := by
  have hfirst : EventStream.Apart firstLines := trivial
  have hsecond : EventStream.Apart secondLines :=
    ⟨⟨_, _, rfl, by decide⟩, ⟨_, _, rfl, by decide⟩, trivial⟩
  have hnothing : Utf8.decodeUntilBad [] = [] := by decide +kernel
  have hbad : Utf8.decodeUntilBad [0xFF] = [] := by decide +kernel
  refine .cons .failed (.cons (.refused rfl) (.cons (.stream rfl ?_) (.cons (.stream rfl ?_) .nil)))
  · exact ⟨_, [], firstLines, (List.append_nil _).symm, hnothing, rfl, hfirst, rfl⟩
  · exact ⟨_, [0xFF], secondLines, rfl, hbad, rfl, hsecond, rfl⟩

/-- There is no answer, there is one that is no success, and two streams bring a change each among
    other things: the two changes are received. -/
theorem Delivering.forwards_from_two_streams :
    ∃ tr t, Poised attempts eager ∧ Delivering hasty Controller.controller eager tr t ∧
      Resting hasty t ∧ received tr = [.put member, .delete member] := by
  let start : System interface (State (Feed × Unit)) Result :=
    ⟨eager, [background (watchRun Controller.controller), background receive]⟩
  have hfinds : (start.play (State.machine (fed hasty))
      (List.replicate 48 watchTask ++ List.replicate 4 receiveTask)).any
      (fun (_, t) => decide (t.tasks.length = 2 ∧
        ∀ id ∈ [watchTask, receiveTask], (t.step (State.machine (fed hasty)) id).isNone = true)) =
      true := by
    decide +kernel
  obtain ⟨⟨tr, t⟩, hplay, hfacts⟩ := (Option.any_eq_true _ _).mp hfinds
  obtain ⟨hlength, hnone⟩ := of_decide_eq_true hfacts
  have hpoised : Poised attempts eager := ⟨rfl, fun _ => ⟨rfl, rfl⟩, rfl, rfl, rfl, rfl, by decide⟩
  have hrun : Delivering hasty Controller.controller eager tr t := System.Runs.play .refl hplay
  have hrests : Resting hasty t := by
    intro id
    match id with
    | 0 => exact Option.isNone_iff_eq_none.mp (hnone 0 (by decide))
    | 1 => exact Option.isNone_iff_eq_none.mp (hnone 1 (by decide))
    | id + 2 =>
        unfold System.step
        rw [List.getElem?_eq_none (by omega)]
  obtain ⟨-, -, hreceived, -, hitems⟩ := Delivering.forwards hpoised hrun
  refine ⟨tr, t, hpoised, hrun, hrests, ?_⟩
  rcases hreceived hrests with hall | ⟨_, _, _, -, -, hpause⟩
  · rw [hall, hitems bulletins bulletins_fit brings_bulletins]
    rfl
  · cases hpause

end Overlay.Agent.Watching
