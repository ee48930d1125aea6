import Overlay.Proofs.Agent.Parts

/-!
# What the watcher asks for

The watcher looks whether a stream is open; if not, it connects, and otherwise it follows the stream
and hands over the changes that it hears of.  Here is all of this as a protocol, request by request,
with the stage that each answer leads to.  `watcher_keeps` says that the watcher keeps it.

Of the signal the watcher hears only for itself, and only where it waits; once it has heard that it
is to stop it leaves (`Stage.Step.heard`).
-/

namespace Overlay.Agent.Watching

/-! ## The protocol -/

/-- How far the watcher has come. -/
inductive Stage where
  /-- It begins. -/
  | idle
  /-- It follows an open stream. -/
  | following
  /-- It has found that no stream is open. -/
  | apart
  /-- It is about to connect. -/
  | checked
  /-- It has opened a stream. -/
  | opened
  /-- There is no stream, or no longer one. -/
  | failing
  /-- It is about to wait. -/
  | waiting
  /-- It has a change in hand. -/
  | holding (e : EdgeEvent)
  /-- It is to leave. -/
  | leaving
  /-- It has left. -/
  | left

/-- The stage after an event of the stream. -/
def Stage.ofEvent (e : StreamEvent) : Stage :=
  match e.change? with
  | none => idle
  | some change => holding change

/-- The steps of the watcher. -/
inductive Stage.Step : Stage → (r : Request) → r.Answer → Stage → Prop where
  | found : Step idle .isOpen true following
  | missed : Step idle .isOpen false apart
  | goOn : Step apart (.stopping .watch) false checked
  | stop : Step apart (.stopping .watch) true leaving
  | hurried {url : Url} : Step checked (.connect url) (.signal true) leaving
  | disturbed {url : Url} : Step checked (.connect url) (.signal false) idle
  | fail {url : Url} : Step checked (.connect url) .failed failing
  | opens {url : Url} : Step checked (.connect url) .opened opened
  | reset {x : Unit} : Step opened .resetDelay x idle
  | told : Step following .arrival (.signal true) leaving
  | calm : Step following .arrival (.signal false) idle
  | hear {e : StreamEvent} : Step following .arrival (.event e) (ofEvent e)
  | lose : Step following .arrival .ended failing
  | publish {e : EdgeEvent} : Step (holding e) (.publish e) true idle
  | abandon {e : EdgeEvent} : Step (holding e) (.publish e) false leaving
  | delay {d : Duration} : Step failing .nextDelay d waiting
  | wait {d : Duration} : Step waiting (.pause .watch d) false idle
  | giveUp {d : Duration} : Step waiting (.pause .watch d) true leaving
  | leave {x : Unit} : Step leaving (.leave .watch) x left

/-- What the watcher may ask for. -/
inductive OfWatcher : Request → Prop where
  | isOpen : OfWatcher .isOpen
  | stopping : OfWatcher (.stopping .watch)
  | connect (url : Url) : OfWatcher (.connect url)
  | resetDelay : OfWatcher .resetDelay
  | arrival : OfWatcher .arrival
  | publish (e : EdgeEvent) : OfWatcher (.publish e)
  | nextDelay : OfWatcher .nextDelay
  | pause (d : Duration) : OfWatcher (.pause .watch d)
  | leave : OfWatcher (.leave .watch)

theorem Stage.Step.ofWatcher {q q' : Stage} {r : Request} {x : r.Answer} (h : q.Step r x q') :
    OfWatcher r := by
  cases h with
  | found | missed => exact .isOpen
  | goOn | stop => exact .stopping
  | hurried | disturbed | fail | opens => exact .connect _
  | reset => exact .resetDelay
  | told | calm | hear | lose => exact .arrival
  | publish | abandon => exact .publish _
  | delay => exact .nextDelay
  | wait | giveUp => exact .pause _
  | leave => exact .leave

/-- The protocol of the watcher. -/
def watching : Protocol interface where
  Phase := Stage
  Possible := Plausible
  Step := Stage.Step

/-! ## The watcher keeps it -/

section Programs

variable {α : Type}

theorem step_keeps {Ends : Stage → α → Prop} {q : Stage} {r : Request} {next : r.Answer → Work α}
    (h : ∀ x, ∃ q', q.Step r x q' ∧ (next x).Keeps watching Ends q') :
    (Program.ask r next).Keeps watching Ends q :=
  fun x _ => h x

variable {Ends : Stage → Option Unit → Prop} (hleft : Ends .left (some ()))
  (hidle : Ends .idle none)
include hleft

theorem leave_keeps : (leave .watch).Keeps watching Ends Stage.leaving :=
  step_keeps fun _ => ⟨.left, .leave, hleft⟩

include hidle

theorem reconnect_keeps : reconnect.Keeps watching Ends Stage.failing := by
  refine step_keeps fun delay => ⟨.waiting, .delay, ?_⟩
  refine step_keeps (r := .pause .watch delay) fun stop => ?_
  cases stop with
  | true => exact ⟨.leaving, .giveUp, leave_keeps hleft⟩
  | false => exact ⟨.idle, .wait, hidle⟩

theorem forward_keeps (e : StreamEvent) : (forward e).Keeps watching Ends (Stage.ofEvent e) := by
  unfold forward Stage.ofEvent
  cases e.change? with
  | none => exact hidle
  | some change =>
      refine step_keeps (r := .publish change) fun there => ?_
      cases there with
      | true => exact ⟨.idle, .publish, hidle⟩
      | false => exact ⟨.leaving, .abandon, leave_keeps hleft⟩

theorem follow_keeps : follow.Keeps watching Ends Stage.following := by
  refine step_keeps (r := .arrival) fun x => ?_
  match x with
  | .signal true => exact ⟨.leaving, .told, leave_keeps hleft⟩
  | .signal false => exact ⟨.idle, .calm, hidle⟩
  | .event e => exact ⟨.ofEvent e, .hear, forward_keeps hleft hidle e⟩
  | .ended => exact ⟨.failing, .lose, reconnect_keeps hleft hidle⟩

theorem openStream_keeps (url : Url) : (openStream url).Keeps watching Ends Stage.apart := by
  refine step_keeps (r := .stopping .watch) fun stop => ?_
  cases stop with
  | true => exact ⟨.leaving, .stop, leave_keeps hleft⟩
  | false =>
      refine ⟨.checked, .goOn, step_keeps (r := .connect url) fun x => ?_⟩
      match x with
      | .signal true => exact ⟨.leaving, .hurried, leave_keeps hleft⟩
      | .signal false => exact ⟨.idle, .disturbed, hidle⟩
      | .failed => exact ⟨.failing, .fail, reconnect_keeps hleft hidle⟩
      | .opened => exact ⟨.opened, .opens, step_keeps fun _ => ⟨.idle, .reset, hidle⟩⟩

end Programs

/-- The watcher keeps the protocol, and it has left when it ends. -/
theorem watcher_keeps (url : Url) :
    (background (watchRun url)).Keeps watching (fun q _ => q = .left) Stage.idle := by
  refine Task.keeps_loop (· = Stage.idle) (fun q hq => ?_) rfl
  subst hq
  refine Program.Keeps.map (step_keeps (r := .isOpen) fun isOpen => ?_)
  cases isOpen with
  | true => exact ⟨.following, .found, follow_keeps rfl rfl⟩
  | false => exact ⟨.apart, .missed, openStream_keeps rfl rfl url⟩

/-! ## The watcher and the signal -/

/-- The stages in which the watcher has not heard that it is to stop. -/
def Stage.Listens : Stage → Prop
  | leaving => False
  | left => False
  | _ => True

namespace Stage.Step

variable {q q' : Stage} {r : Request} {x : r.Answer}

/-- The watcher tells nobody to stop. -/
theorem ne_signal (h : q.Step r x q') : r ≠ .signal := by
  rintro rfl
  cases h

/-- Who listens to the signal in a request of the watcher is the watcher. -/
theorem listener (h : q.Step r x q') {p : Part} (hp : r.listener? = some p) : p = .watch := by
  cases h with
  | hurried | disturbed | fail | opens | told | calm | hear | lose | wait | giveUp =>
      cases hp
      rfl
  | _ => exact nomatch hp

/-- A watcher that has heard that it is to stop listens no more. -/
theorem heard (h : q.Step r x q') (hx : Heard true r x) : ¬ q'.Listens := by
  cases h with
  | hurried | told | giveUp => exact id
  | disturbed | fail | opens | calm | hear | lose | wait => exact nomatch hx
  | _ => exact hx.elim

/-- The watcher listens until it hears that it is to stop. -/
theorem listens (h : q.Step r x q') (hq : q'.Listens) : q.Listens := by
  cases h with
  | leave => exact hq.elim
  | _ => trivial

/-- The watcher does not ask for the lock. -/
theorem lineAfter (h : q.Step r x q') (id : TaskId) (line : List TaskId) :
    r.lineAfter id line = line := by
  cases h with
  | _ => rfl

end Stage.Step

end Overlay.Agent.Watching
