import Overlay.Proofs.Agent.Halting
import Overlay.Proofs.Agent.Watching
import Overlay.Proofs.Controller.Address
import Overlay.Proofs.Tunnel.Shutdown

/-!
# The watcher and the bridge do not block each other

While the queue of changes is full the watcher waits for the bridge to make room, and takes no
notice of the signal.  The bridge never waits for the watcher once it was told to stop: it
looks at the signal wherever it would wait for something that is not its own, and when it
leaves, the queue loses its receiver, which lets the watcher go on.

`Paired.goes_on` says this of every state that the two come to after the signal, with the
controller and the clock silent from then on.  It also says what the bridge does not do any
more: it takes no change from the queue and does not wait for another attempt, and of the
attempts only one that it was about to make is still made.
-/

namespace Overlay.Agent.Halting

open Watching (watching watcher_keeps)

/-! ## The two tasks beside each other -/

/-- The number of the watcher. -/
def watchTask : TaskId := 0

/-- The number of the bridge. -/
def bridgeTask : TaskId := 1

variable {σ : Type}

/-- The watcher and the bridge at their beginning. -/
def pair (url : Url) (self : Edge) (policy : RetryPolicy) (s : State σ) :
    System interface (State σ) Result :=
  ⟨s, [background (watchRun url), background (bridgeRun self policy)]⟩

/-- What happens beside the two tasks. -/
inductive Beside : State σ → State σ → Prop where
  /-- They are told to stop. -/
  | signal (s : State σ) : Beside s s.signal
  /-- They are told that they need not stop, and nobody has told them to. -/
  | calm (s : State σ) : (∀ p, (s.signals p).value = false) → Beside s (s.mapSignals (.send false))
  /-- The sender of the signal goes away. -/
  | drop (s : State σ) : Beside s (s.mapSignals .drop)
  /-- Something that has to do neither with the signal nor with the queue nor with the lock. -/
  | elsewhere {s s' : State σ} : s'.signals = s.signals → s'.changes = s.changes →
      s'.isOpen = s.isOpen → s'.launched = s.launched → s'.server.line = s.server.line →
      Beside s s'

/-- The two tasks have gone on, with these exchanges. -/
def Continues (around : Around σ) (t : System interface (State σ) Result)
    (tr : List (Exchange interface)) (u : System interface (State σ) Result) : Prop :=
  System.Runs (State.machine around) (fun _ => False) Beside t tr u

/-- The two tasks have been run. -/
def Paired (around : Around σ) (url : Url) (self : Edge) (policy : RetryPolicy) (s : State σ)
    (tr : List (Exchange interface)) (t : System interface (State σ) Result) : Prop :=
  Continues around (pair url self policy s) tr t

/-- The agent has been launched, nobody has missed the signal, and the lock is free. -/
structure Launched (s : State σ) : Prop where
  launched : s.launched = true
  alert : ∀ p, Alert (s.signals p)
  unlocked : s.server.line = []

/-- All parts have been told to stop. -/
def Signalled (s : State σ) : Prop := ∀ p, (s.signals p).value = true

/-! ## Neither misses the signal -/

/-- The line for the lock in a phase of the bridge. -/
def Bridge.line : Bridge → List TaskId
  | waiting => [bridgeTask]
  | holding => [bridgeTask]
  | _ => []

/-- Neither task has missed the signal, nobody but the bridge is in the line for the lock, and
    once the bridge has left, the queue has no receiver. -/
structure Attentive (s : State σ) (q : Watching.Stage) (b : Bridge) : Prop where
  launched : s.launched = true
  watcher : q.Listens → Alert (s.signals .watch)
  bridge : b.Listens → Alert (s.signals .bridge)
  gone : b = .left → s.changes.receiverGone = true
  line : s.server.line = b.line

variable {around : Around σ} {url : Url} {self : Edge} {policy : RetryPolicy} {s s' : State σ}
  {q q' : Watching.Stage} {b b' : Bridge} {id : TaskId} {r : Request} {x : r.Answer}

/-- The line for the lock follows the phase of the bridge. -/
theorem Bridge.Step.lineAfter (h : b.Step self policy r x b') :
    r.lineAfter bridgeTask b.line = b'.line := by
  cases h with
  | go hb | stop hb =>
      cases b with
      | idle | tried | told => rfl
      | checked | starting | waiting | holding | leaving | left => exact hb.elim
  | @hear e => rcases ofEvent_cases self policy e with he | he <;> rw [he] <;> rfl
  | @work q _ hq =>
      cases q with
      | queue | unlock => exact hq.elim
      | _ => rfl
  | _ => rfl

namespace Attentive

/-- How a part stays alert: what it hears tells it to stop, or has nothing to be missed. -/
theorem alert_of_answer {p : Part} {Listening : Prop} (hr : r ≠ .signal)
    (hlistener : ∀ p', r.listener? = some p' → p' = p → Heard true r x → ¬ Listening)
    (hbefore : Listening → Alert (s.signals p)) (h : s.answer around id r = some (x, s'))
    (hlistening : Listening) : Alert (s'.signals p) := by
  rcases answer_cases hr h with ⟨p', stop, g, hp', hheard, hlook, rfl⟩ | hun
  · show Alert (if p = p' then g else s.signals p)
    by_cases hp : p = p'
    · rw [if_pos hp]
      cases stop with
      | true => exact absurd hlistening (hlistener p' hp' hp.symm hheard)
      | false => exact .of_value ((value_of_look hlook).2 rfl)
    · rw [if_neg hp]
      exact hbefore hlistening
  · rw [hun.signals]
    exact hbefore hlistening

theorem gone_of_answer (hr : r ≠ .signal) (h : s.answer around id r = some (x, s'))
    (hgone : s.changes.receiverGone = true) : s'.changes.receiverGone = true := by
  rcases answer_cases hr h with ⟨_, _, _, _, _, _, rfl⟩ | hun
  · exact hgone
  · exact gone_of_passes hun.changes hgone

theorem watcher_step (h : Attentive s q b) (hstep : q.Step r x q')
    (hx : s.answer around id r = some (x, s')) : Attentive s' q' b where
  launched := launched_of_answer hx h.launched
  watcher hq :=
    alert_of_answer hstep.ne_signal (fun _ _ _ hheard => hstep.heard hheard)
      (fun hq => h.watcher (hstep.listens hq)) hx hq
  bridge := by
    refine alert_of_answer hstep.ne_signal (fun p hp heq _ => ?_) h.bridge hx
    exact nomatch (hstep.listener hp).symm.trans heq
  gone := fun hb => gone_of_answer hstep.ne_signal hx (h.gone hb)
  line := by rw [line_of_answer hx, hstep.lineAfter, h.line]

theorem bridge_step (h : Attentive s q b) (hstep : b.Step self policy r x b')
    (hx : s.answer around bridgeTask r = some (x, s')) : Attentive s' q b' where
  launched := launched_of_answer hx h.launched
  watcher := by
    refine alert_of_answer hstep.ne_signal (fun p hp heq _ => ?_) h.watcher hx
    exact nomatch (hstep.listener hp).symm.trans heq
  bridge := by
    refine alert_of_answer hstep.ne_signal (fun _ _ _ hheard => hstep.heard hheard) ?_ hx
    intro hlistens
    cases hstep with
    | go => exact .of_value ((stopping_eq hx).1.symm)
    | stop | told | giveUp | leave => exact hlistens.elim
    | _ => exact h.bridge trivial
  gone := by
    intro hleft
    cases hstep with
    | leave =>
        cases hx
        rfl
    | @hear e =>
        rcases Bridge.ofEvent_cases self policy e with he | he <;>
          exact nomatch he.symm.trans hleft
    | _ => exact nomatch hleft
  line := by rw [line_of_answer hx, h.line, hstep.lineAfter]

theorem beside (h : Attentive s q b) (hs : Beside s s') : Attentive s' q b := by
  have hall : ∀ {f : Signal → Signal}, (∀ g, Alert g → Alert (f g)) →
      Attentive (s.mapSignals f) q b := fun hf =>
    ⟨h.launched, fun hw => hf _ (h.watcher hw), fun hb => hf _ (h.bridge hb), h.gone, h.line⟩
  cases hs with
  | signal =>
      refine hall fun g _ _ => ?_
      unfold Signal.send
      by_cases hdropped : g.dropped = true
      · rw [if_pos hdropped]
        exact Or.inr hdropped
      · rw [if_neg hdropped]
        exact Or.inl rfl
  | calm =>
      refine hall fun g hg => ?_
      unfold Signal.send
      split
      · exact hg
      · exact .of_value rfl
  | drop => exact hall fun g _ _ => Or.inr rfl
  | elsewhere hsignals hchanges _ hlaunched hline =>
      refine ⟨hlaunched.trans h.launched, fun hw => ?_, fun hb => ?_, fun hb => ?_,
        hline.trans h.line⟩
      · rw [hsignals]
        exact h.watcher hw
      · rw [hsignals]
        exact h.bridge hb
      · rw [hchanges]
        exact h.gone hb

end Attentive

/-- The watcher and the bridge keep their protocols, and each has left when it ends. -/
def Keeping (self : Edge) (policy : RetryPolicy) (t : System interface (State σ) Result)
    (q : Watching.Stage) (b : Bridge) : Prop :=
  t.KeepsTwo watching (halting self policy) (fun q _ => q = .left) (fun b _ => b = .left) q b

/-- The two tasks keep their protocols, and neither misses the signal. -/
theorem Paired.attentive (hs : Launched s) {tr : List (Exchange interface)}
    {t : System interface (State σ) Result} (h : Paired around url self policy s tr t) :
    ∃ q b, Attentive t.state q b ∧ Keeping self policy t q b :=
  System.Runs.keeps_two (fun _ u q b => Attentive u q b)
    (fun hx => ⟨plausible_of_answer hx, plausible_of_answer hx⟩)
    ⟨_, _, rfl, watcher_keeps url, bridge_keeps⟩
    ⟨hs.launched, fun _ => hs.alert .watch, fun _ => hs.alert .bridge, (fun hb => nomatch hb),
      hs.unlocked⟩
    Attentive.watcher_step Attentive.bridge_step Attentive.beside h

/-! ## Somebody can go on -/

/-- The same surroundings with the controller and the clock silent. -/
def muted (around : Around σ) : Around σ :=
  { around with
    register := fun _ _ => none
    report := fun _ _ _ => none
    unregister := fun _ _ => none
    connect := fun _ _ => none
    event := fun _ => none
    timer := fun _ => none
    pause := fun _ _ => none }

/-- One of the two tasks has not ended. -/
def Unfinished (t : System interface (State σ) Result) : Prop :=
  ∃ id a, (id = watchTask ∨ id = bridgeTask) ∧ t.tasks[id]? = some a ∧ a.result? = none

/-- One of the two tasks can take a step, even if the controller and the clock are silent. -/
def Enabled (around : Around σ) (t : System interface (State σ) Result) : Prop :=
  ∃ id u, (id = watchTask ∨ id = bridgeTask) ∧
    t.step (State.machine (muted around)) id = some u ∧ t.step (State.machine around) id = some u

theorem lookOr_mono {α : Type} {p : Part} {changed : Bool → α}
    {other other' : State σ → Option (α × State σ)} {y : α}
    (hother : ∀ u, other s = some (y, u) → other' s = some (y, u))
    (h : s.lookOr p changed other = some (y, s')) : s.lookOr p changed other' = some (y, s') := by
  unfold State.lookOr at h ⊢
  cases hlook : s.look p with
  | none =>
      rw [hlook] at h
      exact hother s' h
  | some found =>
      rw [hlook] at h
      exact h

/-- What is answered while the controller and the clock are silent is answered anyway. -/
theorem answer_of_muted (h : s.answer (muted around) id r = some (x, s')) :
    s.answer around id r = some (x, s') := by
  cases r with
  | pause p d =>
      simp only [State.answer] at h ⊢
      exact lookOr_mono (fun _ ho => by cases ho) h
  | connect | arrival => exact lookOr_mono (fun _ ho => by cases ho) h
  | sighting =>
      simp only [State.answer, State.whenLaunched] at h ⊢
      split
      · rename_i hlaunched
        rw [if_pos hlaunched] at h
        refine lookOr_mono (fun u ho => ?_) h
        unfold State.nextSighting at ho ⊢
        split at ho
        · exact ho
        · exact ho
        · cases ho
      · rename_i hlaunched
        rw [if_neg hlaunched] at h
        cases h
  | report | register | unregister => cases h
  | _ => exact h

theorem Enabled.of_step {t u : System interface (State σ) Result}
    (hid : id = watchTask ∨ id = bridgeTask)
    (h : t.step (State.machine (muted around)) id = some u) : Enabled around t :=
  ⟨id, u, hid, h, System.step_of_machine answer_of_muted h⟩

/-- Whoever listens and is alert is answered once it was told to stop. -/
theorem exists_answer_of_listener {p : Part} (hp : r.listener? = some p) (hs : s.launched = true)
    (halert : Alert (s.signals p)) (hvalue : (s.signals p).value = true) :
    ∃ x u, s.answer around id r = some (x, u) := by
  obtain ⟨g, hlook⟩ := halert.look hvalue
  have hor : ∀ {α : Type} (changed : Bool → α) (other : State σ → Option (α × State σ)),
      ∃ x u, s.lookOr p changed other = some (x, u) := fun changed other => by
    unfold State.lookOr State.look
    rw [hlook]
    exact ⟨_, _, rfl⟩
  cases r with
  | pause q d =>
      cases hp
      simp only [State.answer]
      exact hor _ _
  | connect | arrival | change =>
      cases hp
      exact hor _ _
  | sighting =>
      cases hp
      simp only [State.answer, State.whenLaunched, if_pos hs]
      exact hor _ _
  | _ => cases hp

/-- What the bridge asks for under the lock is answered when route commands return. -/
theorem exists_answer_of_works {q : Tunnel.Request} (hq : Works q)
    (hreturns : Tunnel.Returns around.tunnel) :
    ∃ x u, s.answer around id (.tunnel q) = some (x, u) := by
  have hserver : ∃ x server, s.server.answer around.tunnel.queueing id q = some (x, server) := by
    cases q with
    | remove | insert | removeSame | issue => exact ⟨_, _, rfl⟩
    | connect n host =>
        simp only [Server.answer]
        split <;> exact ⟨_, _, rfl⟩
    | outcome action n =>
        obtain ⟨⟨y, v⟩, hy⟩ := hreturns action n s.server.device s.server.outside.2
        simp only [Server.answer, Surroundings.queueing, Surroundings.beside, hy, Option.map_some]
        exact ⟨_, _, rfl⟩
    | _ => exact hq.elim
  obtain ⟨x, server, hx⟩ := hserver
  have hserves : s.serves q = true := by
    cases q with
    | arrival d => exact hq.elim
    | _ => rfl
  refine ⟨x, { s with server }, ?_⟩
  simp only [State.answer, if_pos hserves, hx, Option.map_some]

/-- A request of the bridge is answered, once it was told to stop. -/
theorem Attentive.bridge_answered (h : Attentive s q b) (hsignalled : Signalled s)
    (hreturns : Tunnel.Returns around.tunnel) (hstep : b.Step self policy r x b') :
    ∃ x u, s.answer around bridgeTask r = some (x, u) := by
  have hlisten (hl : b.Listens) (hp : r.listener? = some .bridge) :
      ∃ x u, s.answer around bridgeTask r = some (x, u) :=
    exists_answer_of_listener hp h.launched (h.bridge hl) (hsignalled .bridge)
  cases hstep with
  | go | stop => exact ⟨_, _, if_pos h.launched⟩
  | told | calm | closed | hear | again | giveUp => exact hlisten trivial rfl
  | lock =>
      -- the bridge is the first in the line
      refine ⟨(), s, ?_⟩
      have hhead : s.server.line.head? = some bridgeTask := congrArg List.head? h.line
      simp only [State.answer, State.serves, Server.answer, if_pos hhead, Option.map_some, if_true]
  | work hq => exact exists_answer_of_works hq hreturns
  | queue | unlock | draw | leave => exact ⟨_, _, rfl⟩

/-- A request of the watcher is answered, once it was told to stop and the queue has no
    receiver. -/
theorem Attentive.watcher_answered (h : Attentive s q b) (hsignalled : Signalled s)
    (hgone : s.changes.receiverGone = true) (hstep : q.Step r x q') :
    ∃ x u, s.answer around watchTask r = some (x, u) := by
  have hlisten (hl : q.Listens) (hp : r.listener? = some .watch) :
      ∃ x u, s.answer around watchTask r = some (x, u) :=
    exists_answer_of_listener hp h.launched (h.watcher hl) (hsignalled .watch)
  cases hstep with
  | found | missed | goOn | stop => exact ⟨_, _, if_pos h.launched⟩
  | hurried | disturbed | fail | opens | told | calm | hear | lose | wait | giveUp =>
      exact hlisten trivial rfl
  | publish | abandon =>
      simp only [State.answer, Queue.offer?, if_pos hgone, Option.map_some]
      exact ⟨_, _, rfl⟩
  | reset | delay | leave => exact ⟨_, _, rfl⟩

section Enabledness

variable {t : System interface (State σ) Result} {a : Task interface Result}
  (h : Attentive t.state q b) (hsignalled : Signalled t.state)
include h hsignalled

/-- The bridge goes on until it has left and ended. -/
theorem bridge_goes_on (hk : a.Keeps (halting self policy) (fun b _ => b = .left) b)
    (hreturns : Tunnel.Returns around.tunnel) (ha : t.tasks[bridgeTask]? = some a) :
    ((∃ y, a.result? = some y) ∧ b = .left) ∨
      ∃ u, t.step (State.machine (muted around)) bridgeTask = some u := by
  rcases System.ended_or_steps_or_waits exists_plausible ha hk with
    ⟨y, hy, hleft⟩ | hsteps | ⟨r, resume, x, b', -, hstep, hnone⟩
  · exact Or.inl ⟨⟨y, hy⟩, hleft⟩
  · exact Or.inr hsteps
  · have hquiet : Tunnel.Returns (muted around).tunnel := hreturns
    obtain ⟨y, u, hy⟩ := h.bridge_answered hsignalled hquiet hstep
    exact nomatch hnone.symm.trans hy

/-- Once the bridge has left, the watcher goes on until it has ended. -/
theorem watcher_goes_on (hk : a.Keeps watching (fun q _ => q = .left) q) (hleft : b = .left)
    (ha : t.tasks[watchTask]? = some a) :
    (∃ y, a.result? = some y) ∨ ∃ u, t.step (State.machine (muted around)) watchTask = some u := by
  rcases System.ended_or_steps_or_waits exists_plausible ha hk with
    ⟨y, hy, -⟩ | hsteps | ⟨r, resume, x, q', -, hstep, hnone⟩
  · exact Or.inl ⟨y, hy⟩
  · exact Or.inr hsteps
  · obtain ⟨y, u, hy⟩ := h.watcher_answered hsignalled (h.gone hleft) hstep
    exact nomatch hnone.symm.trans hy

/-- As long as one of the two has not ended, one of them can take a step. -/
theorem enabled_of_unfinished (hk : Keeping self policy t q b)
    (hreturns : Tunnel.Returns around.tunnel) (hunfinished : Unfinished t) : Enabled around t := by
  obtain ⟨a, c, htasks, ha, hc⟩ := hk
  have hwatch : t.tasks[watchTask]? = some a := congrArg (·[watchTask]?) htasks
  have hbridge : t.tasks[bridgeTask]? = some c := congrArg (·[bridgeTask]?) htasks
  rcases bridge_goes_on h hsignalled hc hreturns hbridge with ⟨⟨y, hy⟩, hleft⟩ | ⟨u, hu⟩
  · -- the bridge has ended, so that it is the watcher that has not
    obtain ⟨id, d, rfl | rfl, hd, hopen⟩ := hunfinished
    · cases hwatch.symm.trans hd
      rcases watcher_goes_on h hsignalled ha hleft hwatch with ⟨z, hz⟩ | ⟨u, hu⟩
      · exact nomatch hopen.symm.trans hz
      · exact .of_step (Or.inl rfl) hu
    · cases hbridge.symm.trans hd
      exact nomatch hopen.symm.trans hy
  · exact .of_step (Or.inr rfl) hu

end Enabledness

/-! ## What the bridge does no more -/

/-- The bridge takes a change from the queue, or has waited for its next attempt. -/
def Resumes : Exchange interface → Prop
  | ⟨_, .change, .event _⟩ => True
  | ⟨_, .pause .bridge _, false⟩ => True
  | _ => False

/-- Is it the beginning of an attempt to change the peers? -/
def begins : Exchange interface → Bool
  | ⟨_, .tunnel .queue, _⟩ => true
  | _ => false

/-- The number of attempts to change the peers that were begun. -/
def attempts (tr : List (Exchange interface)) : Nat := tr.countP begins

/-- The number of attempts that the bridge is about to begin. -/
def Bridge.due : Bridge → Nat
  | starting => 1
  | _ => 0

theorem attempts_concat {tr : List (Exchange interface)} {e : Exchange interface} :
    attempts (tr ++ [e]) = attempts tr + if begins e then 1 else 0 := by
  rw [attempts, List.countP_append, List.countP_singleton]
  rfl

theorem Signalled.of_answer (h : Signalled s) (hr : r ≠ .signal)
    (hx : s.answer around id r = some (x, s')) : Signalled s' := by
  rcases answer_cases hr hx with ⟨p, stop, g, -, -, hlook, rfl⟩ | hun
  · intro p'
    show (if p' = p then g else s.signals p').value = true
    split
    · exact (value_of_look hlook).1.trans (h p)
    · exact h p'
  · intro p
    rw [hun.signals]
    exact h p

/-- Nobody takes the signal back. -/
theorem Signalled.beside (h : Signalled s) (hs : Beside s s') : Signalled s' := by
  intro p
  cases hs with
  | signal =>
      show ((s.signals p).send true).value = true
      unfold Signal.send
      split
      · exact h p
      · rfl
  | calm hcalm => exact nomatch (hcalm p).symm.trans (h p)
  | drop => exact h p
  | elsewhere hsignals =>
      rw [hsignals]
      exact h p

/-- Whoever is alert and was told to stop hears of it wherever it listens. -/
theorem heard_of_signalled {p : Part} (hp : r.listener? = some p) (hr : r ≠ .signal)
    (halert : Alert (s.signals p)) (hvalue : (s.signals p).value = true)
    (hx : s.answer around id r = some (x, s')) : Heard true r x := by
  obtain ⟨g, hlook⟩ := halert.look hvalue
  rcases answer_cases hr hx with ⟨p', stop, g', hp', hheard, hlook', -⟩ | hun
  · obtain rfl : p = p' := Option.some.inj (hp.symm.trans hp')
    cases hlook.symm.trans hlook'
    exact hheard
  · exact nomatch (hun.quiet p hp).symm.trans hlook

theorem Attentive.bridge_winds (h : Attentive s q b) (hsignalled : Signalled s)
    (hstep : b.Step self policy r x b') (hx : s.answer around bridgeTask r = some (x, s')) :
    ¬ Resumes ⟨bridgeTask, r, x⟩ ∧
      (if begins ⟨bridgeTask, r, x⟩ then 1 else 0) + b'.due = b.due := by
  have hheard (hl : b.Listens) (hp : r.listener? = some .bridge) : Heard true r x :=
    heard_of_signalled hp hstep.ne_signal (h.bridge hl) (hsignalled .bridge) hx
  cases hstep with
  | go => exact nomatch (hsignalled .bridge).symm.trans ((stopping_eq hx).1.symm)
  | stop hb =>
      refine ⟨id, ?_⟩
      cases b with
      | idle | tried | told => rfl
      | checked | starting | waiting | holding | leaving | left => exact hb.elim
  | calm | closed | hear | again => exact nomatch hheard trivial rfl
  | @work q _ hq =>
      refine ⟨id, ?_⟩
      cases q with
      | queue => exact hq.elim
      | _ => rfl
  | _ => exact ⟨id, rfl⟩

/-- The watcher does nothing of this. -/
theorem watcher_winds (h : q.Step r x q') :
    ¬ Resumes ⟨watchTask, r, x⟩ ∧ begins ⟨watchTask, r, x⟩ = false := by
  cases h with
  | _ => exact ⟨id, rfl⟩

/-- What holds after the signal, when the bridge was about to begin so many attempts. -/
structure Winding (due : Nat) (tr : List (Exchange interface)) (s : State σ)
    (q : Watching.Stage) (b : Bridge) : Prop where
  attentive : Attentive s q b
  signalled : Signalled s
  quiet : ∀ e ∈ tr, ¬ Resumes e
  attempts : attempts tr + b.due = due

namespace Winding

variable {due : Nat} {tr : List (Exchange interface)}

theorem watcher_step (h : Winding due tr s q b) (hstep : q.Step r x q')
    (hx : s.answer around watchTask r = some (x, s')) :
    Winding due (tr ++ [⟨watchTask, r, x⟩]) s' q' b := by
  obtain ⟨hquiet, hbegins⟩ := watcher_winds hstep
  refine ⟨h.attentive.watcher_step hstep hx, h.signalled.of_answer hstep.ne_signal hx,
    System.forall_mem_concat h.quiet hquiet, ?_⟩
  rw [attempts_concat, if_neg (Bool.eq_false_iff.mp hbegins)]
  exact h.attempts

theorem bridge_step (h : Winding due tr s q b) (hstep : b.Step self policy r x b')
    (hx : s.answer around bridgeTask r = some (x, s')) :
    Winding due (tr ++ [⟨bridgeTask, r, x⟩]) s' q b' := by
  obtain ⟨hquiet, hdue⟩ := h.attentive.bridge_winds h.signalled hstep hx
  refine ⟨h.attentive.bridge_step hstep hx, h.signalled.of_answer hstep.ne_signal hx,
    System.forall_mem_concat h.quiet hquiet, ?_⟩
  rw [attempts_concat, Nat.add_assoc, hdue]
  exact h.attempts

theorem beside (h : Winding due tr s q b) (hs : Beside s s') : Winding due tr s' q b :=
  ⟨h.attentive.beside hs, h.signalled.beside hs, h.quiet, h.attempts⟩

end Winding

/-- **After the signal** the bridge makes no other attempt than the one it was about to make. -/
theorem Continues.winds {t u : System interface (State σ) Result} {tr : List (Exchange interface)}
    (h : Attentive t.state q b) (hsignalled : Signalled t.state) (hk : Keeping self policy t q b)
    (h' : Continues around t tr u) : ∃ q' b', Winding b.due tr u.state q' b' := by
  have hinit : Winding b.due [] t.state q b :=
    ⟨h, hsignalled, (fun _ he => absurd he List.not_mem_nil), Nat.zero_add _⟩
  obtain ⟨q', b', hwinding, -⟩ := System.Runs.keeps_two (Winding b.due)
    (fun hx => ⟨plausible_of_answer hx, plausible_of_answer hx⟩) hk hinit
    Winding.watcher_step Winding.bridge_step Winding.beside h'
  exact ⟨q', b', hwinding⟩

/-- A bridge that begins an attempt asks for a place in the line next. -/
theorem asks_of_starting {now : Work (Option Result)}
    (hk : (Task.forever (Option.map (fun _ => Result.over) <$> bridgeRun self policy) now).Keeps
      (halting self policy) (fun b _ => b = .left) Bridge.starting) :
    ∃ resume, (Task.forever (Option.map (fun _ => Result.over) <$> bridgeRun self policy) now).Asks
      (.tunnel .queue) resume := by
  obtain ⟨Again, hagain, hnow⟩ := hk
  cases now with
  | ask r next =>
      obtain ⟨y, hy⟩ := exists_plausible r
      obtain ⟨b, hstep, -⟩ := hnow y hy
      cases hstep with
      | go hb => exact hb.elim
      | stop hb => exact hb.elim
      | queue => exact ⟨_, .forever _ _ next⟩
  | done y =>
      cases y with
      | some y => exact nomatch (hnow : Bridge.starting = .left)
      | none =>
          -- the next run would begin, but it begins with a look at the signal
          obtain ⟨b, hstep, -⟩ := hagain _ hnow true trivial
          cases hstep with
          | stop hb => exact hb.elim

/-- **The watcher and the bridge do not block each other.**  In every state that they come to,
    whatever the controller publishes, whatever fails and however edges are retried, once all
    parts have been told to stop:

    * as long as one of the two has not ended, one of them can take a step, even if the
      controller and the clock are silent from then on;
    * the bridge takes no change from the queue any more and does not go on to another attempt,
      and it begins none but the one that it was about to begin.

    Route commands have to return; nothing else is asked of the surroundings. -/
theorem Paired.goes_on (hreturns : Tunnel.Returns around.tunnel) (hs : Launched s)
    {tr : List (Exchange interface)} {t : System interface (State σ) Result}
    (h : Paired around url self policy s tr t) (hsignalled : Signalled t.state) :
    (Unfinished t → Enabled around t) ∧
    ∀ tr' u, Continues around t tr' u →
      (∀ e ∈ tr', ¬ Resumes e) ∧
      (attempts tr' = 0 ∨ attempts tr' = 1 ∧
        ∃ a resume, t.tasks[bridgeTask]? = some a ∧ a.Asks (.tunnel .queue) resume) := by
  obtain ⟨q, b, hattentive, hk⟩ := h.attentive hs
  obtain ⟨now, hnow⟩ : ∃ now, t.tasks[bridgeTask]? =
      some (.forever (Option.map (fun _ => Result.over) <$> bridgeRun self policy) now) :=
    System.Runs.forever_at h rfl
  refine ⟨enabled_of_unfinished hattentive hsignalled hk hreturns, fun tr' u h' => ?_⟩
  obtain ⟨q', b', hwinding⟩ := h'.winds hattentive hsignalled hk
  refine ⟨hwinding.quiet, ?_⟩
  have hle : attempts tr' ≤ b.due := hwinding.attempts ▸ Nat.le_add_right _ _
  by_cases hzero : attempts tr' = 0
  · exact Or.inl hzero
  · cases b with
    | starting =>
        have hone : attempts tr' = 1 := Nat.le_antisymm hle (Nat.pos_of_ne_zero hzero)
        obtain ⟨a, c, htasks, -, hc⟩ := hk
        have hbridge : t.tasks[bridgeTask]? = some c := congrArg (·[bridgeTask]?) htasks
        cases hbridge.symm.trans hnow
        obtain ⟨resume, hasks⟩ := asks_of_starting hc
        exact Or.inr ⟨hone, _, resume, hnow, hasks⟩
    | _ => exact absurd (Nat.le_zero.mp hle) hzero

/-! ## A watcher that waits for room -/

/-- The edge that is put again and again. -/
def newcomer : Edge := ⟨"edge-b", "192.0.2.1:7000", "10.1.0.0/16"⟩

/-- A controller that never runs out of changes. -/
def restless : Around Unit where
  tunnel := Tunnel.flooding
  bind _ w := (.ok (), w)
  register _ w := some (.ok [], w)
  report _ _ w := some (.ok (), w)
  unregister _ w := some (.ok (), w)
  connect _ w := some (true, w)
  event w := some (some ⟨"message", String.ofList (EdgeEvent.put newcomer).toJsonText⟩, w)
  timer _ := none
  pause _ _ := none
  now _ := 0
  draw w := (0, w)

/-- An agent that has been launched with room for one change. -/
def cramped : State Unit where
  server := { device := "loom0", outside := ({ capacity := 1 }, ()) }
  launched := true
  filter := { interval := .ofSeconds 60 }
  changes := { capacity := 1 }

/-- The change that a task waits to hand over. -/
def publishing? (a : Task interface Result) : Option EdgeEvent :=
  match a.request? with
  | some (.publish e) => some e
  | _ => none

theorem asks_of_publishing? {a : Task interface Result} {e : EdgeEvent}
    (h : publishing? a = some e) : ∃ resume, a.Asks (.publish e) resume := by
  unfold publishing? at h
  split at h
  · rename_i hr
    cases h
    exact Task.asks_of_request? hr
  · exact nomatch h

/-- The queue is full, the watcher waits for room in it, and the two are told to stop: the bridge
    leaves without having taken the change, and so does the watcher. -/
theorem Paired.goes_on_when_full :
    ∃ self tr t a e resume,
      Paired restless Controller.controller self {} cramped tr t ∧ Signalled t.state ∧
      t.tasks[watchTask]? = some a ∧ a.Asks (.publish e) resume ∧
      t.state.answer restless watchTask (.publish e) = none ∧ Enabled restless t ∧
      ∃ tr' u, Continues restless t tr' u ∧ u.tasks.all (·.result?.isSome) = true ∧
        ∀ e ∈ tr', ¬ Resumes e := by
  let self : Edge := ⟨"edge-a", "198.51.100.1:7000", "10.0.0.0/24"⟩
  let told (t : System interface (State Unit) Result) : System interface (State Unit) Result :=
    { t with state := t.state.signal }
  let start := pair Controller.controller self {} cramped
  have hfinds : (start.play (State.machine restless) (List.replicate 11 watchTask)).any
      (fun (_, t) => decide (t.state.changes.isFull = true ∧ t.state.changes.receiverGone = false ∧
        (∀ p ∈ [Part.report, .watch, .bridge], (t.state.signals p) = {}) ∧
        (t.tasks[watchTask]?.bind publishing?) = some (.put newcomer) ∧
        ((told t).play (State.machine restless) [bridgeTask, bridgeTask, watchTask, watchTask]).any
          (fun (_, u) => u.tasks.all (·.result?.isSome)) = true)) = true := by
    decide +kernel
  obtain ⟨⟨tr, t⟩, hplay, hfacts⟩ := (Option.any_eq_true _ _).mp hfinds
  obtain ⟨hfull, hthere, hsignals, hpublishing, hends⟩ := of_decide_eq_true hfacts
  obtain ⟨a, ha, hpublishing⟩ := Option.bind_eq_some_iff.mp hpublishing
  obtain ⟨resume, hasks⟩ := asks_of_publishing? hpublishing
  obtain ⟨⟨tr', u⟩, hplay', hended⟩ := (Option.any_eq_true _ _).mp hends
  have hrun : Paired restless Controller.controller self {} cramped tr (told t) :=
    System.Runs.move (System.Runs.play .refl hplay) (.signal _)
  have hsignalled : Signalled (told t).state := by
    intro p
    show ((t.state.signals p).send true).value = true
    rw [hsignals p (by cases p <;> decide)]
    rfl
  have hstuck : (told t).state.answer restless watchTask (.publish (.put newcomer)) = none := by
    show (t.state.changes.offer? (.put newcomer)).map _ = none
    rw [Queue.offer?, if_neg (Bool.eq_false_iff.mp hthere), if_pos hfull, Option.map_none]
  have hcontinues : Continues restless (told t) tr' u := System.Runs.play .refl hplay'
  obtain ⟨hgoes, hquiet⟩ := Paired.goes_on (fun _ _ _ _ => ⟨_, rfl⟩)
    ⟨rfl, fun _ => .of_value rfl, rfl⟩ hrun hsignalled
  exact ⟨self, tr, told t, a, .put newcomer, resume, hrun, hsignalled, ha, hasks, hstuck,
    hgoes ⟨watchTask, a, Or.inl rfl, ha, hasks.result?_eq_none⟩, tr', u, hcontinues, hended,
    (hquiet tr' u hcontinues).1⟩

end Overlay.Agent.Halting
