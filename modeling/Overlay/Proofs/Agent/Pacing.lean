import Overlay.Proofs.Agent.Delivery
import Overlay.Proofs.Agent.Rounds

/-!
# How long the watcher waits between two connections

Each connection is followed by one delay, whether no stream was opened or the stream has come to
its end, and the next connection is made once this delay has passed.

The protocol here is one of its own, since the delay that is waited for is the one that was taken,
which the stages of the watcher do not tell.  What holds in each phase (`Pace.Holds`) says how many
delays count there: those since the last stream, with the delay in hand or without it.

`Reconnecting.paced` says this of every run in which nobody touches the signal, for any connections
to come and whatever the other tasks do.
-/

namespace Overlay.Agent.Pacing

open Watching (OfWatcher watchTask watcher_answered)

/-! ## The protocol -/

/-- How far the watcher has come. -/
inductive Pace where
  /-- It is about to look whether a stream is open, or has a change in hand. -/
  | ready
  /-- It has found that no stream is open. -/
  | apart
  /-- It has opened a stream. -/
  | opened
  /-- It has found that a stream is open. -/
  | following
  /-- There is no stream, or no longer one. -/
  | failing
  /-- It has taken a delay. -/
  | waiting (d : Duration)
  /-- It is to leave. -/
  | leaving
  /-- It has left. -/
  | left

/-- The steps of the watcher. -/
inductive Pace.Step : Pace → (r : Request) → r.Answer → Pace → Prop where
  | found : Step ready .isOpen true following
  | missed : Step ready .isOpen false apart
  | goOn : Step apart (.stopping .watch) false apart
  | stop : Step apart (.stopping .watch) true leaving
  | hurried {url : Url} : Step apart (.connect url) (.signal true) leaving
  | disturbed {url : Url} : Step apart (.connect url) (.signal false) ready
  | fail {url : Url} : Step apart (.connect url) .failed failing
  | opens {url : Url} : Step apart (.connect url) .opened opened
  | reset {x : Unit} : Step opened .resetDelay x ready
  | told : Step following .arrival (.signal true) leaving
  | calm : Step following .arrival (.signal false) ready
  | hear {e : StreamEvent} : Step following .arrival (.event e) ready
  | lose : Step following .arrival .ended failing
  | publish {e : EdgeEvent} : Step ready (.publish e) true ready
  | abandon {e : EdgeEvent} : Step ready (.publish e) false leaving
  | delay {d : Duration} : Step failing .nextDelay d (waiting d)
  | wait {d : Duration} : Step (waiting d) (.pause .watch d) false ready
  | giveUp {d : Duration} : Step (waiting d) (.pause .watch d) true leaving
  | leave {x : Unit} : Step leaving (.leave .watch) x left

theorem Pace.Step.ofWatcher {q q' : Pace} {r : Request} {x : r.Answer} (h : q.Step r x q') :
    OfWatcher r := by
  cases h with
  | found | missed => exact .isOpen
  | goOn | stop => exact .stopping
  | hurried | disturbed | fail | opens => exact .connect _
  | reset => exact .resetDelay
  | told | calm | hear | lose => exact .arrival
  | publish | abandon => exact .publish _
  | delay => exact .nextDelay
  | wait | giveUp => exact .pause _
  | leave => exact .leave

/-- The protocol of the watcher. -/
def pacing : Protocol interface where
  Phase := Pace
  Possible := Plausible
  Step := Pace.Step

section Programs

variable {α : Type}

theorem step_keeps {Ends : Pace → α → Prop} {q : Pace} {r : Request} {next : r.Answer → Work α}
    (h : ∀ x, ∃ q', q.Step r x q' ∧ (next x).Keeps pacing Ends q') :
    (Program.ask r next).Keeps pacing Ends q :=
  fun x _ => h x

variable {Ends : Pace → Option Unit → Prop} (hleft : Ends .left (some ()))
  (hready : Ends .ready none)
include hleft

theorem leave_keeps : (leave .watch).Keeps pacing Ends Pace.leaving :=
  step_keeps fun _ => ⟨.left, .leave, hleft⟩

include hready

/-- The delay that is waited for is the one that was taken. -/
theorem reconnect_keeps : reconnect.Keeps pacing Ends Pace.failing := by
  refine step_keeps fun delay => ⟨.waiting delay, .delay, ?_⟩
  refine step_keeps (r := .pause .watch delay) fun stop => ?_
  cases stop with
  | true => exact ⟨.leaving, .giveUp, leave_keeps hleft⟩
  | false => exact ⟨.ready, .wait, hready⟩

theorem forward_keeps (e : StreamEvent) : (forward e).Keeps pacing Ends Pace.ready := by
  unfold forward
  cases e.change? with
  | none => exact hready
  | some change =>
      refine step_keeps (r := .publish change) fun there => ?_
      cases there with
      | true => exact ⟨.ready, .publish, hready⟩
      | false => exact ⟨.leaving, .abandon, leave_keeps hleft⟩

theorem follow_keeps : follow.Keeps pacing Ends Pace.following := by
  refine step_keeps (r := .arrival) fun x => ?_
  match x with
  | .signal true => exact ⟨.leaving, .told, leave_keeps hleft⟩
  | .signal false => exact ⟨.ready, .calm, hready⟩
  | .event e => exact ⟨.ready, .hear, forward_keeps hleft hready e⟩
  | .ended => exact ⟨.failing, .lose, reconnect_keeps hleft hready⟩

theorem openStream_keeps (url : Url) : (openStream url).Keeps pacing Ends Pace.apart := by
  refine step_keeps (r := .stopping .watch) fun stop => ?_
  cases stop with
  | true => exact ⟨.leaving, .stop, leave_keeps hleft⟩
  | false =>
      refine ⟨.apart, .goOn, step_keeps (r := .connect url) fun x => ?_⟩
      match x with
      | .signal true => exact ⟨.leaving, .hurried, leave_keeps hleft⟩
      | .signal false => exact ⟨.ready, .disturbed, hready⟩
      | .failed => exact ⟨.failing, .fail, reconnect_keeps hleft hready⟩
      | .opened => exact ⟨.opened, .opens, step_keeps fun _ => ⟨.ready, .reset, hready⟩⟩

end Programs

/-- The watcher keeps the protocol, and it has left when it ends. -/
theorem watcher_keeps (url : Url) :
    (background (watchRun url)).Keeps pacing (fun q _ => q = .left) Pace.ready := by
  refine Task.keeps_loop (· = Pace.ready) (fun q hq => ?_) rfl
  subst hq
  refine Program.Keeps.map (step_keeps (r := .isOpen) fun isOpen => ?_)
  cases isOpen with
  | true => exact ⟨.following, .found, follow_keeps rfl rfl⟩
  | false => exact ⟨.apart, .missed, openStream_keeps rfl rfl url⟩

/-! ## What holds in each phase -/

variable {σ : Type}

/-- These rounds are complete, and after them this was begun and so many delays count. -/
structure Stands (connections : List Connection) (rounds : List Round) (begun : List Connection)
    (rest : List Mark) (count : Nat) (tr : List (Exchange interface)) (s : State (Feed × σ)) :
    Prop where
  timely : Timely rounds
  all : made rounds ++ begun ++ s.feed.coming = connections
  told : marks tr = course rounds ++ rest
  delays : s.delays = reconnectDelays.advanceBy count

/-- All rounds are complete. -/
def Even (connections : List Connection) (tr : List (Exchange interface))
    (s : State (Feed × σ)) : Prop :=
  ∃ rounds, Stands connections rounds [] [] (since (made rounds)) tr s

/-- The last connection has opened a stream, and the delays have not started again. -/
def Fresh (connections : List Connection) (tr : List (Exchange interface))
    (s : State (Feed × σ)) : Prop :=
  ∃ rounds c count, opens c = true ∧ Stands connections rounds [c] [.attempt (opens c)] count tr s

/-- The delay after the last connection has not been taken. -/
def Owing (connections : List Connection) (tr : List (Exchange interface))
    (s : State (Feed × σ)) : Prop :=
  ∃ rounds c,
    Stands connections rounds [c] [.attempt (opens c)] (lapse (made rounds ++ [c])) tr s

/-- The delay after the last connection has been taken. -/
def Pending (connections : List Connection) (d : Duration) (tr : List (Exchange interface))
    (s : State (Feed × σ)) : Prop :=
  ∃ rounds c, reconnectDelays.MayTake (lapse (made rounds ++ [c])) d ∧
    Stands connections rounds [c] [.attempt (opens c), .taken d]
      (lapse (made rounds ++ [c]) + 1) tr s

/-- The trace tells of the beginning of rounds with these connections. -/
def Begins (connections : List Connection) (tr : List (Exchange interface)) : Prop :=
  ∃ rounds, made rounds = connections ∧ Timely rounds ∧ marks tr <+: course rounds

/-- Nobody was there to receive a change. -/
def Abandoned (tr : List (Exchange interface)) : Prop :=
  ∃ e, (⟨watchTask, .publish e, false⟩ : Exchange interface) ∈ tr

/-- What holds in a phase. -/
def Pace.Holds (connections : List Connection) (tr : List (Exchange interface))
    (s : State (Feed × σ)) : Pace → Prop
  | ready => (s.isOpen = false ∧ Even connections tr s) ∨ (s.isOpen = true ∧ Owing connections tr s)
  | apart => s.isOpen = false ∧ Even connections tr s
  | opened => s.isOpen = true ∧ Fresh connections tr s
  | following => s.isOpen = true ∧ Owing connections tr s
  | failing => s.isOpen = false ∧ Owing connections tr s
  | waiting d => s.isOpen = false ∧ Pending connections d tr s
  | leaving | left => Abandoned tr ∧ Begins connections tr

section Phases

variable {connections : List Connection} {rounds : List Round} {c : Connection} {d : Duration}
  {begun : List Connection} {rest : List Mark} {count : Nat}
  {tr more : List (Exchange interface)} {s s' : State (Feed × σ)} {q : Pace}

/-- The stream, the connections to come and the delays are as they were. -/
structure Unmoved (s s' : State (Feed × σ)) : Prop where
  isOpen : s'.isOpen = s.isOpen
  coming : s'.feed.coming = s.feed.coming
  delays : s'.delays = s.delays

theorem Unmoved.refl (s : State (Feed × σ)) : Unmoved s s := ⟨rfl, rfl, rfl⟩

/-- Nothing is told. -/
theorem Stands.later (h : Stands connections rounds begun rest count tr s)
    (hcoming : s'.feed.coming = s.feed.coming) (hdelays : s'.delays = s.delays)
    (hmore : marks more = []) :
    Stands connections rounds begun rest count (tr ++ more) s' where
  timely := h.timely
  all := by
    rw [hcoming]
    exact h.all
  told := by rw [marks_append, hmore, List.append_nil, h.told]
  delays := hdelays.trans h.delays

theorem Even.later (h : Even connections tr s) (hun : Unmoved s s') (hmore : marks more = []) :
    Even connections (tr ++ more) s' := by
  obtain ⟨rounds, hstands⟩ := h
  exact ⟨rounds, hstands.later hun.coming hun.delays hmore⟩

theorem Owing.later (h : Owing connections tr s) (hun : Unmoved s s') (hmore : marks more = []) :
    Owing connections (tr ++ more) s' := by
  obtain ⟨rounds, c, hstands⟩ := h
  exact ⟨rounds, c, hstands.later hun.coming hun.delays hmore⟩

theorem Begins.later (h : Begins connections tr) (hmore : marks more = []) :
    Begins connections (tr ++ more) := by
  obtain ⟨rounds, hmade, htimely, hprefix⟩ := h
  refine ⟨rounds, hmade, htimely, ?_⟩
  rw [marks_append, hmore, List.append_nil]
  exact hprefix

/-- What holds in a phase does not depend on what else goes on. -/
theorem Pace.Holds.later (h : q.Holds connections tr s) (hun : Unmoved s s')
    (hmore : marks more = []) : q.Holds connections (tr ++ more) s' := by
  cases q with
  | ready =>
      exact h.imp (fun ⟨hshut, heven⟩ => ⟨hun.isOpen.trans hshut, heven.later hun hmore⟩)
        fun ⟨hopen, howing⟩ => ⟨hun.isOpen.trans hopen, howing.later hun hmore⟩
  | apart => exact ⟨hun.isOpen.trans h.1, h.2.later hun hmore⟩
  | following | failing => exact ⟨hun.isOpen.trans h.1, h.2.later hun hmore⟩
  | opened =>
      obtain ⟨hopen, rounds, c, count, hc, hstands⟩ := h
      exact ⟨hun.isOpen.trans hopen, rounds, c, count, hc,
        hstands.later hun.coming hun.delays hmore⟩
  | waiting d =>
      obtain ⟨hshut, rounds, c, hd, hstands⟩ := h
      exact ⟨hun.isOpen.trans hshut, rounds, c, hd, hstands.later hun.coming hun.delays hmore⟩
  | leaving | left =>
      obtain ⟨⟨e, he⟩, hbegins⟩ := h
      exact ⟨⟨e, List.mem_append_left _ he⟩, hbegins.later hmore⟩

theorem Even.begins (h : Even connections tr s) : Begins connections tr := by
  obtain ⟨rounds, hstands⟩ := h
  obtain ⟨more, hmore, htimely⟩ := hstands.timely.extend s.feed.coming
  refine ⟨rounds ++ more, ?_, htimely, ?_⟩
  · rw [made_append, hmore, ← hstands.all, List.append_nil]
  · rw [hstands.told, course_append, List.append_nil]
    exact List.prefix_append _ _

/-- The round that was begun can be completed with a delay that may be taken. -/
theorem Stands.begins (h : Stands connections rounds [c] rest count tr s)
    (hd : reconnectDelays.MayTake (lapse (made rounds ++ [c])) d)
    (hrest : rest <+: Round.marks ⟨c, d⟩) : Begins connections tr := by
  obtain ⟨more, hmore, htimely⟩ := (h.timely.concat hd).extend s.feed.coming
  refine ⟨rounds ++ [⟨c, d⟩] ++ more, ?_, htimely, ?_⟩
  · rw [made_append, made_append, hmore, ← h.all]
    rfl
  · have hround : course [⟨c, d⟩] = Round.marks ⟨c, d⟩ := List.flatMap_singleton _ _
    rw [h.told, course_append, course_append, hround, List.append_assoc]
    exact (List.prefix_append_right_inj _).mpr (hrest.trans (List.prefix_append _ _))

/-- **In every phase the trace tells of the beginning of rounds.** -/
theorem Pace.Holds.begins (h : q.Holds connections tr s) : Begins connections tr := by
  have howing : Owing connections tr s → Begins connections tr := by
    rintro ⟨rounds, c, hstands⟩
    exact hstands.begins ⟨0, rfl⟩ ⟨_, rfl⟩
  cases q with
  | ready => exact h.elim (fun heven => heven.2.begins) fun hopen => howing hopen.2
  | apart => exact h.2.begins
  | following | failing => exact howing h.2
  | opened =>
      obtain ⟨-, rounds, c, count, -, hstands⟩ := h
      exact hstands.begins ⟨0, rfl⟩ ⟨_, rfl⟩
  | waiting d =>
      obtain ⟨-, rounds, c, hd, hstands⟩ := h
      exact hstands.begins hd ⟨_, rfl⟩
  | leaving | left => exact h.2

/-- The next connection has been made; until the delays are started again, as many count as did
    before. -/
theorem Stands.connect {coming : List Connection} {e : Exchange interface}
    (h : Stands connections rounds [] [] count tr s) (hcoming : s.feed.coming = c :: coming)
    (hcoming' : s'.feed.coming = coming) (hdelays : s'.delays = s.delays)
    (he : mark? e = some (.attempt (opens c))) :
    Stands connections rounds [c] [.attempt (opens c)] count (tr ++ [e]) s' where
  timely := h.timely
  all := by
    have hall := h.all
    rw [hcoming, List.append_nil] at hall
    rw [hcoming', List.append_assoc]
    exact hall
  told := by
    rw [marks_append, h.told, List.append_nil, marks, List.filterMap_cons_some he]
    rfl
  delays := hdelays.trans h.delays

/-- The delay that was taken has passed: the round is complete. -/
theorem Pending.pass {e : Exchange interface} (h : Pending connections d tr s)
    (hun : Unmoved s s') (he : mark? e = some (.waited d)) :
    Even connections (tr ++ [e]) s' := by
  obtain ⟨rounds, c, hd, hstands⟩ := h
  refine ⟨rounds ++ [⟨c, d⟩], hstands.timely.concat hd, ?_, ?_, ?_⟩
  · rw [made_append, hun.coming, List.append_nil]
    exact hstands.all
  · rw [marks_append, hstands.told, course_append, List.append_nil, List.append_assoc, marks,
      List.filterMap_cons_some he]
    rfl
  · rw [hun.delays, hstands.delays, made_append]
    exact congrArg _ since_concat.symm

end Phases

/-! ## Every step keeps it -/

variable {around : Around σ} {url : Url} {connections : List Connection}
  {tr : List (Exchange interface)} {s s' : State (Feed × σ)} {q q' : Pace}

/-- The watcher has not been told anything. -/
structure Unsignalled (s : State (Feed × σ)) : Prop where
  launched : s.launched = true
  value : (s.signals .watch).value = false
  look : (s.signals .watch).look = none

/-- A watcher that has not been told anything finds what there is beside the signal. -/
theorem Unsignalled.other {α : Type} {changed : Bool → α}
    {other : State (Feed × σ) → Option (α × State (Feed × σ))} {x : α} (h : Unsignalled s)
    (hx : s.lookOr .watch changed other = some (x, s')) : other s = some (x, s') := by
  rcases lookOr_eq_some hx with ⟨stop, g, hlook, -, -⟩ | ⟨-, hother⟩
  · exact nomatch hlook.symm.trans h.look
  · exact hother

/-- The signal of the watcher is as it was. -/
theorem Unsignalled.of_eq (h : Unsignalled s) (hlaunched : s'.launched = s.launched)
    (hsignals : s'.signals .watch = s.signals .watch) : Unsignalled s' where
  launched := hlaunched.trans h.launched
  value := by
    rw [hsignals]
    exact h.value
  look := by
    rw [hsignals]
    exact h.look

/-- What holds of the watcher when it has not been told anything. -/
structure Paced (connections : List Connection) (tr : List (Exchange interface))
    (s : State (Feed × σ)) (q : Pace) : Prop where
  unsignalled : Unsignalled s
  holds : q.Holds connections tr s

namespace Paced

/-- The watcher connects: the next connection has been made. -/
theorem connect_step {x : Connecting} (h : Paced connections tr s .apart)
    (hstep : Pace.Step .apart (.connect url) x q')
    (hx : s.answer (fed around) watchTask (.connect url) = some (x, s')) :
    Paced connections (tr ++ [⟨watchTask, .connect url, x⟩]) s' q' := by
  obtain ⟨hshut, rounds, hstands⟩ := h.holds
  obtain ⟨c, coming, hcoming, rfl, rfl⟩ := connected_fed (h.unsignalled.other hx)
  refine ⟨h.unsignalled.of_eq rfl rfl, ?_⟩
  cases hopened : c.body?.isSome with
  | true =>
      have hopens : opens c = true := hopened
      rw [hopened, if_pos rfl] at hstep
      cases hstep
      -- the delays are started again with the next request only
      refine ⟨rfl, rounds, c, _, hopens, hstands.connect hcoming rfl rfl ?_⟩
      rw [hopens]
      rfl
  | false =>
      have hopens : opens c = false := hopened
      rw [hopened, if_neg Bool.false_ne_true] at hstep
      cases hstep
      -- the count stays what it was before the connection
      refine ⟨rfl, rounds, c, ?_⟩
      rw [lapse_concat_of_not_opens hopens]
      refine hstands.connect hcoming rfl rfl ?_
      rw [hopens]
      rfl

/-- The watcher follows the stream, which goes on or ends. -/
theorem arrival_step {x : Arrival} (h : Paced connections tr s .following)
    (hstep : Pace.Step .following .arrival x q')
    (hx : s.answer (fed around) watchTask .arrival = some (x, s')) :
    Paced connections (tr ++ [⟨watchTask, .arrival, x⟩]) s' q' := by
  obtain ⟨hopen, rounds, c, hstands⟩ := h.holds
  rcases nextArrival_fed (h.unsignalled.other hx) with ⟨e, now, -, rfl, rfl⟩ | ⟨-, rfl, rfl⟩
  · cases hstep
    exact ⟨h.unsignalled.of_eq rfl rfl,
      Or.inr ⟨hopen, rounds, c, hstands.later rfl rfl rfl⟩⟩
  · cases hstep
    exact ⟨h.unsignalled.of_eq rfl rfl, rfl, rounds, c, hstands.later rfl rfl rfl⟩

/-- The watcher hands a change over, or nobody is there to receive it. -/
theorem publish_step {e : EdgeEvent} {there : Bool} (h : Paced connections tr s .ready)
    (hstep : Pace.Step .ready (.publish e) there q')
    (hx : s.answer (fed around) watchTask (.publish e) = some (there, s')) :
    Paced connections (tr ++ [⟨watchTask, .publish e, there⟩]) s' q' := by
  obtain ⟨⟨taken, queue⟩, -, heq⟩ := Option.map_eq_some_iff.mp hx
  cases heq
  have hholds : Pace.ready.Holds connections (tr ++ [⟨watchTask, .publish e, there⟩])
      { s with changes := queue } := h.holds.later ⟨rfl, rfl, rfl⟩ rfl
  refine ⟨h.unsignalled.of_eq rfl rfl, ?_⟩
  cases hstep with
  | publish => exact hholds
  | abandon => exact ⟨⟨e, List.mem_append_right _ List.mem_cons_self⟩, hholds.begins⟩

/-- The watcher takes a delay: it is one that may be taken after as many as count. -/
theorem delay_step {d : Duration} (h : Paced connections tr s .failing)
    (hx : s.answer (fed around) watchTask .nextDelay = some (d, s')) :
    Paced connections (tr ++ [⟨watchTask, .nextDelay, d⟩]) s' (.waiting d) := by
  obtain ⟨hshut, rounds, c, hstands⟩ := h.holds
  cases hx
  refine ⟨h.unsignalled.of_eq rfl rfl, hshut, rounds, c, ⟨((fed around).draw s.outside).1, ?_⟩,
    hstands.timely, hstands.all, ?_, ?_⟩
  · rw [← hstands.delays]
    rfl
  · rw [marks_append, hstands.told, List.append_assoc]
    rfl
  · show s.delays.advance = _
    rw [hstands.delays, Backoff.advance_advanceBy]

/-- The delay that was taken has passed. -/
theorem pause_step {d : Duration} {stop : Bool} (h : Paced connections tr s (.waiting d))
    (hstep : Pace.Step (.waiting d) (.pause .watch d) stop q')
    (hx : s.answer (fed around) watchTask (.pause .watch d) = some (stop, s')) :
    Paced connections (tr ++ [⟨watchTask, .pause .watch d, stop⟩]) s' q' := by
  obtain ⟨hshut, hpending⟩ := h.holds
  simp only [State.answer] at hx
  obtain ⟨rfl, w, rfl⟩ := waited_fed (h.unsignalled.other hx)
  cases hstep
  exact ⟨h.unsignalled.of_eq rfl rfl, Or.inl ⟨hshut, hpending.pass ⟨rfl, rfl, rfl⟩ rfl⟩⟩

/-- **Every step of the watcher keeps what holds.** -/
theorem watcher_step {r : Request} {x : r.Answer} (h : Paced connections tr s q)
    (hstep : q.Step r x q') (hx : s.answer (fed around) watchTask r = some (x, s')) :
    Paced connections (tr ++ [⟨watchTask, r, x⟩]) s' q' := by
  cases hstep with
  | found =>
      obtain ⟨hopen, rfl⟩ := isOpen_eq hx
      have howing := h.holds.resolve_left fun hshut => nomatch hopen.trans hshut.1
      exact ⟨h.unsignalled, howing.1, howing.2.later (.refl _) rfl⟩
  | missed =>
      obtain ⟨hshut, rfl⟩ := isOpen_eq hx
      have heven := h.holds.resolve_right fun hopen => nomatch hshut.trans hopen.1
      exact ⟨h.unsignalled, heven.1, heven.2.later (.refl _) rfl⟩
  | goOn =>
      obtain ⟨-, rfl⟩ := stopping_eq hx
      exact ⟨h.unsignalled, h.holds.later (.refl _) rfl⟩
  | stop => exact nomatch (stopping_eq hx).1.trans h.unsignalled.value
  | hurried => exact h.connect_step .hurried hx
  | disturbed => exact h.connect_step .disturbed hx
  | fail => exact h.connect_step .fail hx
  | opens => exact h.connect_step .opens hx
  | reset =>
      obtain ⟨hopen, rounds, c, count, hc, hstands⟩ := h.holds
      cases hx
      refine ⟨h.unsignalled.of_eq rfl rfl,
        Or.inr ⟨hopen, rounds, c, hstands.timely, hstands.all, ?_, ?_⟩⟩
      · rw [marks_append, hstands.told]
        exact List.append_nil _
      · show s.delays.reset = _
        rw [lapse_concat_of_opens hc, hstands.delays, Backoff.reset_advanceBy]
        exact (Backoff.advanceBy_zero reconnectDelays).symm
  | told => exact h.arrival_step .told hx
  | calm => exact h.arrival_step .calm hx
  | hear => exact h.arrival_step .hear hx
  | lose => exact h.arrival_step .lose hx
  | publish => exact h.publish_step .publish hx
  | abandon => exact h.publish_step .abandon hx
  | delay => exact h.delay_step hx
  | wait => exact h.pause_step .wait hx
  | giveUp => exact h.pause_step .giveUp hx
  | leave =>
      cases hx
      obtain ⟨⟨e, he⟩, hbegins⟩ := h.holds
      exact ⟨h.unsignalled.of_eq rfl rfl, ⟨e, List.mem_append_left _ he⟩, hbegins.later rfl⟩

end Paced

/-! ## Runs -/

/-- What happens beside the watcher: all that has to do neither with its signal nor with the stream,
    the connections to come and the delays. -/
structure Aside (s s' : State (Feed × σ)) : Prop where
  launched : s'.launched = s.launched
  signal : s'.signals .watch = s.signals .watch
  unmoved : Unmoved s s'

theorem Paced.aside (h : Paced connections tr s q) (hs : Aside s s') :
    Paced connections tr s' q := by
  have hholds : q.Holds connections (tr ++ []) s' := h.holds.later hs.unmoved rfl
  rw [List.append_nil] at hholds
  exact ⟨h.unsignalled.of_eq hs.launched hs.signal, hholds⟩

/-- The watcher has been run beside a feed. -/
def Reconnecting (around : Around σ) (url : Url) (s : State (Feed × σ))
    (tr : List (Exchange interface)) (t : System interface (State (Feed × σ)) Result) : Prop :=
  System.Runs (State.machine (fed around)) (fun _ => False) Aside ⟨s, [background (watchRun url)]⟩
    tr t

/-- The agent has been launched and the watcher not been told anything; no delay has been taken, and
    these connections are to come. -/
structure Unbegun (connections : List Connection) (s : State (Feed × σ)) : Prop where
  unsignalled : Unsignalled s
  closed : s.isOpen = false
  delays : s.delays = reconnectDelays
  coming : s.feed.coming = connections

theorem Unbegun.paced_at_start (h : Unbegun connections s) : Paced connections [] s .ready where
  unsignalled := h.unsignalled
  holds := by
    refine Or.inl ⟨h.closed, [], .nil, h.coming, rfl, ?_⟩
    rw [h.delays]
    exact (Backoff.advanceBy_zero reconnectDelays).symm

variable {t : System interface (State (Feed × σ)) Result}

/-- **What holds of the watcher holds in every run.** -/
theorem Reconnecting.paced_in_run (hs : Unbegun connections s)
    (h : Reconnecting around url s tr t) :
    ∃ q, Paced connections tr t.state q ∧ t.KeepsOne pacing (fun q _ => q = .left) q :=
  System.Runs.keeps_one (P := pacing) (Paced connections) plausible_of_answer
    ⟨_, rfl, watcher_keeps url⟩ hs.paced_at_start Paced.watcher_step Paced.aside h

/-! ## How far the watcher comes -/

/-- Why the watcher does not go on before the last connection. -/
inductive Detained (around : Around σ) (tr : List (Exchange interface))
    (t : System interface (State (Feed × σ)) Result) : Prop where
  /-- It has left, since nobody was there to receive a change. -/
  | abandoned : Abandoned tr → Detained around tr t
  /-- A delay has not passed. -/
  | clock {a : Task interface Result} {d : Duration} {resume : Bool → Task interface Result} :
      t.tasks[watchTask]? = some a → a.Asks (.pause .watch d) resume →
      around.pause d t.state.outside.2 = none → Detained around tr t
  /-- There is no room for a change. -/
  | room {a : Task interface Result} {e : EdgeEvent} {resume : Bool → Task interface Result} :
      t.tasks[watchTask]? = some a → a.Asks (.publish e) resume →
      t.state.changes.isFull = true → Detained around tr t

/-- A watcher that does not go on has made all connections, or there is something that detains
    it. -/
theorem Paced.course_or_detained (h : Paced connections tr t.state q)
    (hk : t.KeepsOne pacing (fun q _ => q = .left) q)
    (hrests : t.step (State.machine (fed around)) watchTask = none) :
    (∃ rounds, made rounds = connections ∧ Timely rounds ∧ marks tr = course rounds) ∨
      Detained around tr t := by
  obtain ⟨a, htasks, ha⟩ := hk
  have hwatch : t.tasks[watchTask]? = some a := congrArg (·[watchTask]?) htasks
  rcases System.ended_or_steps_or_waits exists_plausible hwatch ha with
    ⟨y, -, rfl⟩ | ⟨u, hu⟩ | ⟨r, resume, x, q', hasks, hstep, hnone⟩
  · exact Or.inr (.abandoned h.holds.1)
  · exact nomatch hrests.symm.trans hu
  · rcases watcher_answered h.unsignalled.launched hstep.ofWatcher with ⟨y, u, hy⟩ | hwaits
    · exact nomatch hnone.symm.trans hy
    · cases hwaits with
      | connection hcoming =>
          -- where the watcher connects all rounds are complete
          obtain ⟨rounds, hstands⟩ : Even connections tr t.state := by
            cases hstep with
            | hurried | disturbed | fail | opens => exact h.holds.2
          refine Or.inl ⟨rounds, ?_, hstands.timely, ?_⟩
          · rw [← hstands.all, hcoming, List.append_nil, List.append_nil]
          · rw [hstands.told, List.append_nil]
      | clock hpause => exact Or.inr (.clock hwatch hasks hpause)
      | room hfull => exact Or.inr (.room hwatch hasks hfull)

/-- **Between two connections there is one delay, which depends on the connections made so far.**
    In every run in which the watcher is told nothing, whatever the connections to come are, each of
    them makes a round with a delay such that

    * the trace tells of the beginning of these rounds: a connection is made, one delay is taken, it
      passes, and the next connection is made;
    * when `n` connections were made since the last one that opened a stream, or since the first one
      when none did, the delay that is due is half a second doubled `n` times, or thirty seconds;
      with its random part it is at least half a second and at most thirty-seven and a half;
    * after a stream it is the shortest one;
    * a watcher that does not go on has made all connections, or waits for a delay to pass or for
      room, or has left since nobody was there to receive. -/
theorem Reconnecting.paced (hs : Unbegun connections s) (h : Reconnecting around url s tr t) :
    ∃ rounds, made rounds = connections ∧ marks tr <+: course rounds ∧
      (∀ before r after n, rounds = before ++ r :: after →
        n = lapse (made before ++ [r.connection]) →
        reconnectDelays.MayTake n r.delay ∧
        (reconnectDelays.advanceBy n).delay.nanos =
          Nat.min (500 * 2 ^ n) 30000 * Duration.nanosPerMilli ∧
        500 * Duration.nanosPerMilli ≤ r.delay.nanos ∧
        r.delay.nanos ≤ 37500 * Duration.nanosPerMilli ∧
        (opens r.connection = true →
          n = 0 ∧ (reconnectDelays.advanceBy n).delay = shortestReconnect)) ∧
      (t.step (State.machine (fed around)) watchTask = none →
        marks tr = course rounds ∨ Detained around tr t) := by
  obtain ⟨q, hpaced, hk⟩ := h.paced_in_run hs
  obtain ⟨rounds, hmade, htimely, hprefix, hrests⟩ : ∃ rounds, made rounds = connections ∧
      Timely rounds ∧ marks tr <+: course rounds ∧
      (t.step (State.machine (fed around)) watchTask = none →
        marks tr = course rounds ∨ Detained around tr t) := by
    -- the delays that were not taken are chosen here, so the rounds of a run that has come to its
    -- end are those of the trace
    obtain ⟨rounds, hmade, htimely, hprefix⟩ := hpaced.holds.begins
    by_cases hdetained : Detained around tr t
    · exact ⟨rounds, hmade, htimely, hprefix, fun _ => Or.inr hdetained⟩
    · by_cases hrests : t.step (State.machine (fed around)) watchTask = none
      · obtain ⟨rounds, hmade, htimely, hmarks⟩ :=
          (hpaced.course_or_detained hk hrests).resolve_right hdetained
        exact ⟨rounds, hmade, htimely, ⟨[], by rw [hmarks, List.append_nil]⟩,
          fun _ => Or.inl hmarks⟩
      · exact ⟨rounds, hmade, htimely, hprefix, fun hnone => absurd hnone hrests⟩
  refine ⟨rounds, hmade, hprefix, fun before r after n heq hn => ?_, hrests⟩
  have htake : reconnectDelays.MayTake n r.delay := hn ▸ htimely before r after heq
  obtain ⟨hdue, hleast, hmost⟩ := reconnect_delay htake
  refine ⟨htake, hdue, hleast, hmost, fun hopens => ?_⟩
  obtain rfl : n = 0 := hn.trans (lapse_concat_of_opens hopens)
  rw [Backoff.advanceBy_zero]
  decide

/-- There is no answer, there is one that is no success, and two streams come to their end: the
    delays are half a second, a second, and twice half a second. -/
theorem Reconnecting.paced_with_two_streams :
    ∃ tr t rounds, Unbegun Watching.attempts Watching.eager ∧
      Reconnecting Watching.hasty Controller.controller Watching.eager tr t ∧
      made rounds = Watching.attempts ∧ marks tr = course rounds ∧
      marks tr =
        [.attempt false, .taken (.ofMillis 500), .waited (.ofMillis 500),
          .attempt false, .taken (.ofMillis 1000), .waited (.ofMillis 1000),
          .attempt true, .taken (.ofMillis 500), .waited (.ofMillis 500),
          .attempt true, .taken (.ofMillis 500), .waited (.ofMillis 500)] := by
  let start : System interface (State (Feed × Unit)) Result :=
    ⟨Watching.eager, [background (watchRun Controller.controller)]⟩
  let told : List Mark :=
    [.attempt false, .taken (.ofMillis 500), .waited (.ofMillis 500),
      .attempt false, .taken (.ofMillis 1000), .waited (.ofMillis 1000),
      .attempt true, .taken (.ofMillis 500), .waited (.ofMillis 500),
      .attempt true, .taken (.ofMillis 500), .waited (.ofMillis 500)]
  have htells : (start.play (State.machine (fed Watching.hasty)) (List.replicate 48 watchTask)).any
      (fun (tr, _) => decide (marks tr = told)) = true := by
    decide +kernel
  obtain ⟨⟨tr, t⟩, hplay, hfacts⟩ := (Option.any_eq_true _ _).mp htells
  have hmarks : marks tr = told := of_decide_eq_true hfacts
  have hunbegun : Unbegun Watching.attempts Watching.eager := ⟨⟨rfl, rfl, rfl⟩, rfl, rfl, rfl⟩
  have hrun : Reconnecting Watching.hasty Controller.controller Watching.eager tr t :=
    System.Runs.play .refl hplay
  obtain ⟨rounds, hmade, hprefix, -⟩ := Reconnecting.paced hunbegun hrun
  refine ⟨tr, t, rounds, hunbegun, hrun, hmade, hprefix.eq_of_length ?_, hmarks⟩
  have hlength : (made rounds).length = 4 := congrArg List.length hmade
  rw [made, List.length_map] at hlength
  rw [hmarks, length_course, hlength]
  rfl

end Overlay.Agent.Pacing
