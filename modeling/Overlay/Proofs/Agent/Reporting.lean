import Overlay.Proofs.Agent.Answer
import Overlay.Proofs.Report.History
import Overlay.Proofs.Task.Protocol
import Overlay.Simulation.Agent

/-!
# Exactly the due sources are reported

The report part runs beside everything else, which may do what it likes: sources are put into
the queue, the signal changes, reports succeed or fail, time passes.  What the part does is
noted beside the state: the sources that it has looked at, with the readings of the clock
(`Notes`).

The filter takes a source for reported before its report has an outcome, and forgets it when
the report has failed; in between it is tidied up.  So the filter agrees with the history as it
will be if the report under way succeeds (`Reporter.assumed`), and this is what every step
preserves (`Told.step`).  `Reporting.exactly_due` draws the conclusion.
-/

namespace Overlay.Agent

open Report

variable {σ : Type} {around : Around σ} {edge : String} {interval : Duration} {id : TaskId}
  {a : Ipv4} {t : Moment} {tr tr' : List (Exchange interface)}

/-! ## What is noted of a run -/

/-- Says of the latest source what has become of it. -/
def markLast (fate : Fate) : List Sight → List Sight
  | [] => []
  | e :: l => { e with fate } :: l

/-- What is noted beside the state of an agent. -/
structure Notes where
  /-- The sources that the report part has looked at, the latest first. -/
  sights : List Sight := []
  /-- The readings of the clock, the latest first. -/
  readings : List Moment := []

/-- The notes after an exchange. -/
def Notes.after (around : Around σ) (e : Exchange interface) (s : State σ) (n : Notes) : Notes :=
  match e with
  | ⟨_, .due a, _⟩ =>
    { sights := ⟨a, around.now s.outside, .passed⟩ :: n.sights
      readings := around.now s.outside :: n.readings }
  | ⟨_, .report _ _, r⟩ => { n with sights := markLast (.ended r) n.sights }
  | ⟨_, .prune, _⟩ => { n with readings := around.now s.outside :: n.readings }
  | _ => n

/-- What happens beside the report part leaves its filter and the notes alone. -/
structure Elsewhere (x y : State σ × Notes) : Prop where
  filter : y.1.filter = x.1.filter
  notes : y.2 = x.2

/-- A run of the report part of an edge, and what it has led to. -/
def Reporting (edge : String) (around : Around σ) (interval : Duration)
    (tr : List (Exchange interface)) (s : System interface (State σ × Notes) Result) : Prop :=
  ∃ u : State σ, u.filter = { interval } ∧
    System.Runs ((State.machine around).noting (Notes.after around)) (fun _ => False) Elsewhere
      ⟨(u, {}), [background (reportRun edge)]⟩ tr s

/-- What the report part asks for now. -/
def asked (s : System interface (State σ × Notes) Result) : Option Request :=
  s.tasks[0]?.bind Task.request?

/-- The sources that the report part has looked at, the latest first, and what has become of
    them; the report of the latest one is under way when the part is asking for it. -/
def sights (s : System interface (State σ × Notes) Result) : List Sight :=
  match asked s with
  | some (.report _ _) => markLast .underway s.state.2.sights
  | _ => s.state.2.sights

/-- The sources that the report part has taken from the queue. -/
def sources (tr : List (Exchange interface)) : List Ipv4 :=
  tr.filterMap fun e =>
    match e with
    | ⟨_, .sighting, .source a⟩ => some a
    | _ => none

/-- The report that a request makes: of which edge and which source. -/
def Request.call? : Request → Option (String × Ipv4)
  | .report edge a => some (edge, a)
  | _ => none

/-- The source that a request looks at. -/
def Request.looksAt? : Request → Option Ipv4
  | .due a => some a
  | _ => none

/-- The reports that have been made. -/
def calls (tr : List (Exchange interface)) : List (String × Ipv4) :=
  tr.filterMap fun e => e.request.call?

/-- The addresses of the sources, the oldest first. -/
def looked (l : List Sight) : List Ipv4 := (l.map Sight.address).reverse

/-- The reports of an edge that were made, the oldest first. -/
def made (edge : String) (l : List Sight) : List (String × Ipv4) :=
  ((l.filter Sight.reported).map fun e => (edge, e.address)).reverse

theorem looked_cons {e : Sight} {l : List Sight} : looked (e :: l) = looked l ++ [e.address] := by
  rw [looked, List.map_cons, List.reverse_cons]
  rfl

theorem made_cons {e : Sight} {l : List Sight} :
    made edge (e :: l) = made edge l ++ if e.reported = true then [(edge, e.address)] else [] := by
  unfold made
  rw [List.filter_cons]
  by_cases he : e.reported = true
  · rw [if_pos he, if_pos he, List.map_cons, List.reverse_cons]
  · rw [if_neg he, if_neg he, List.append_nil]

theorem sources_append : sources (tr ++ tr') = sources tr ++ sources tr' :=
  List.filterMap_append

theorem calls_append : calls (tr ++ tr') = calls tr ++ calls tr' := List.filterMap_append

/-! ## What the report part does -/

/-- How far the report part has come. -/
inductive Reporter where
  /-- It is between two sources. -/
  | idle
  /-- It is about to look at a source. -/
  | looking (a : Ipv4)
  /-- It is about to report a source. -/
  | calling (a : Ipv4)
  /-- It is about to forget a source. -/
  | failed (a : Ipv4)
  /-- It is about to tidy up. -/
  | tidying
  /-- It is about to end. -/
  | leaving
  /-- It has ended. -/
  | left

namespace Reporter

/-- What the report part is about to do with what it finds. -/
def found : Sighting → Reporter
  | .signal true => leaving
  | .signal false => idle
  | .closed => leaving
  | .timer => tidying
  | .source a => looking a

/-- What it is about to do after a report. -/
def concluded (a : Ipv4) : Except RegistryError Unit → Reporter
  | .ok _ => idle
  | .error _ => failed a

/-- The steps of the report part. -/
inductive Step (edge : String) : Reporter → (r : Request) → r.Answer → Reporter → Prop where
  | sight {x : Sighting} : Step edge .idle .sighting x (found x)
  | due {a : Ipv4} : Step edge (.looking a) (.due a) true (.calling a)
  | pass {a : Ipv4} : Step edge (.looking a) (.due a) false .idle
  | report {a : Ipv4} {x : Except RegistryError Unit} :
      Step edge (.calling a) (.report edge a) x (concluded a x)
  | forget {a : Ipv4} {x : Unit} : Step edge (.failed a) (.forget a) x .idle
  | prune {x : Unit} : Step edge .tidying .prune x .idle
  | leave {x : Unit} : Step edge .leaving (.leave .report) x .left

/-- What the report part asks for in a phase. -/
def request? (edge : String) : Reporter → Option Request
  | idle => some .sighting
  | looking a => some (.due a)
  | calling a => some (.report edge a)
  | failed a => some (.forget a)
  | tidying => some .prune
  | leaving => some (.leave .report)
  | left => none

theorem Step.request?_eq {q q' : Reporter} {r : Request} {x : r.Answer}
    (h : Step edge q r x q') : q.request? edge = some r := by
  cases h <;> rfl

end Reporter

/-- The protocol of the report part. -/
def reporting (edge : String) : Protocol interface where
  Phase := Reporter
  Possible _ _ := True
  Step := Reporter.Step edge

theorem reportRun_reports :
    (background (reportRun edge)).Keeps (reporting edge) (fun q _ => q = Reporter.left)
      Reporter.idle := by
  refine Task.keeps_loop (fun q => q = Reporter.idle) (fun q hq => ?_) rfl
  subst hq
  refine Program.Keeps.map ?_
  intro x _
  refine ⟨_, .sight, ?_⟩
  match x with
  | .signal true => exact fun _ _ => ⟨_, .leave, rfl⟩
  | .signal false => exact rfl
  | .closed => exact fun _ _ => ⟨_, .leave, rfl⟩
  | .timer => exact fun _ _ => ⟨_, .prune, rfl⟩
  | .source a =>
      intro due _
      cases due with
      | false => exact ⟨_, .pass, rfl⟩
      | true =>
          refine ⟨_, .due, fun r _ => ⟨_, .report, ?_⟩⟩
          cases r with
          | ok _ => exact rfl
          | error reason => exact fun _ _ => ⟨_, .forget, rfl⟩

/-! ## What every step preserves -/

namespace Reporter

/-- The history as the phase completes it: the report of the latest source is under way. -/
def view : Reporter → List Sight → List Sight
  | calling _, l => markLast .underway l
  | _, l => l

/-- The history that the filter knows: it counts on the success of the report. -/
def assumed : Reporter → List Sight → List Sight
  | calling _, l => markLast (.ended (.ok ())) l
  | failed _, l => markLast (.ended (.ok ())) l
  | _, l => l

/-- The latest source is the one that is reported, or the one whose report has failed. -/
def Latest : Reporter → List Sight → Prop
  | calling a, l => ∃ t before, l = ⟨a, t, .passed⟩ :: before
  | failed a, l => ∃ t reason before, l = ⟨a, t, .ended (.error reason)⟩ :: before
  | _, _ => True

/-- The source that was taken and not yet looked at. -/
def pending? : Reporter → Option Ipv4
  | looking a => some a
  | _ => none

end Reporter

/-- How the phase, the filter, the notes and the trace belong together. -/
structure Told (edge : String) (interval : Duration) (q : Reporter) (tr : List (Exchange interface))
    (f : ReportFilter) (n : Notes) : Prop where
  spacing : f.interval = interval
  distinct : f.Distinct
  faithful : Faithful interval (q.view n.sights)
  settled : Settled n.sights
  agrees : Agrees f n.readings (q.assumed n.sights)
  timely : (n.sights.map Sight.time).Sublist n.readings
  latest : q.Latest n.sights
  taken : sources tr = looked n.sights ++ q.pending?.toList
  called : calls tr = made edge n.sights

section Steps

variable {q q' : Reporter} {r : Request} {x : r.Answer} {f : ReportFilter} {n : Notes}

/-- The report part finds something to do. -/
theorem Told.found {x : Sighting} (h : Told edge interval .idle tr f n) :
    Told edge interval (Reporter.found x) (tr ++ [⟨id, .sighting, x⟩]) f n := by
  obtain ⟨hspacing, hdistinct, hfaithful, hsettled, hagrees, htimely, -, htaken, hcalled⟩ := h
  have hcalled' : calls (tr ++ [⟨id, .sighting, x⟩]) = made edge n.sights := by
    rw [calls_append, hcalled]
    exact List.append_nil _
  have htaken' : sources (tr ++ [⟨id, .sighting, x⟩]) =
      looked n.sights ++ (Reporter.found x).pending?.toList := by
    rw [sources_append, htaken]
    cases x with
    | signal stop => cases stop <;> exact List.append_nil _
    | closed | timer => exact List.append_nil _
    | source a => simp [sources, Reporter.pending?, Reporter.found]
  match x with
  | .signal true | .signal false | .closed | .timer | .source _ =>
      exact ⟨hspacing, hdistinct, hfaithful, hsettled, hagrees, htimely, trivial, htaken',
        hcalled'⟩

/-- A source is looked at, and it is due. -/
theorem Told.due (h : Told edge interval (.looking a) tr f n) (ht : ∀ u ∈ n.readings, u ≤ t)
    (hdue : f.isDue a t = true) :
    Told edge interval (.calling a) (tr ++ [⟨id, .due a, true⟩]) (f.remember a t)
      ⟨⟨a, t, .passed⟩ :: n.sights, t :: n.readings⟩ where
  spacing := h.spacing
  distinct := h.distinct.remember a t
  faithful := by
    have hd := (h.agrees a t ht).mp hdue
    rw [h.spacing] at hd
    exact ⟨iff_of_true rfl hd, h.faithful⟩
  settled := List.forall_mem_cons.mpr ⟨(fun heq => nomatch heq), h.settled⟩
  agrees := h.agrees.remember ht hdue
  timely := h.timely.cons_cons t
  latest := ⟨t, n.sights, rfl⟩
  taken := by
    rw [sources_append, h.taken]
    simp [sources, Reporter.pending?, looked_cons]
  called := by
    rw [calls_append, h.called, made_cons]
    rfl

/-- A source is looked at, and it is not due. -/
theorem Told.pass (h : Told edge interval (.looking a) tr f n) (ht : ∀ u ∈ n.readings, u ≤ t)
    (hdue : ¬ f.isDue a t = true) :
    Told edge interval .idle (tr ++ [⟨id, .due a, false⟩]) f
      ⟨⟨a, t, .passed⟩ :: n.sights, t :: n.readings⟩ where
  spacing := h.spacing
  distinct := h.distinct
  faithful := by
    rw [h.agrees a t ht, h.spacing] at hdue
    exact ⟨iff_of_false Bool.false_ne_true hdue, h.faithful⟩
  settled := List.forall_mem_cons.mpr ⟨(fun heq => nomatch heq), h.settled⟩
  agrees := h.agrees.cons (e := ⟨a, t, .passed⟩) (fun heq => nomatch heq) t
  timely := h.timely.cons_cons t
  latest := trivial
  taken := by
    rw [sources_append, h.taken]
    simp [sources, Reporter.pending?, looked_cons]
  called := by
    rw [calls_append, h.called, made_cons]
    rfl

/-- A report has an outcome. -/
theorem Told.report {x : Except RegistryError Unit}
    (h : Told edge interval (.calling a) tr f n) :
    Told edge interval (.concluded a x) (tr ++ [⟨id, .report edge a, x⟩]) f
      { n with sights := markLast (.ended x) n.sights } := by
  obtain ⟨t, before, hlatest⟩ := h.latest
  obtain ⟨sights, readings⟩ := n
  subst hlatest
  have hsettled : Settled (⟨a, t, .ended x⟩ :: before) :=
    List.forall_mem_cons.mpr ⟨(fun heq => nomatch heq), h.settled.of_cons⟩
  have htaken : sources (tr ++ [⟨id, .report edge a, x⟩]) =
      looked (⟨a, t, .ended x⟩ :: before) := by
    rw [sources_append, h.taken]
    simp [sources, Reporter.pending?, looked_cons]
  have hcalled : calls (tr ++ [⟨id, .report edge a, x⟩]) =
      made edge (⟨a, t, .ended x⟩ :: before) := by
    rw [calls_append, h.called, made_cons, made_cons]
    simp [calls, Request.call?, Sight.reported]
  cases x with
  | ok _ =>
      exact ⟨h.spacing, h.distinct, h.faithful, hsettled, h.agrees, h.timely, trivial,
        htaken.trans (List.append_nil _).symm, hcalled⟩
  | error reason =>
      exact ⟨h.spacing, h.distinct, h.faithful, hsettled, h.agrees, h.timely,
        ⟨t, reason, before, rfl⟩, htaken.trans (List.append_nil _).symm, hcalled⟩

/-- A source whose report has failed is forgotten. -/
theorem Told.forget (h : Told edge interval (.failed a) tr f n) :
    Told edge interval .idle (tr ++ [⟨id, .forget a, ()⟩]) (f.forget a) n := by
  obtain ⟨t, reason, before, hlatest⟩ := h.latest
  obtain ⟨sights, readings⟩ := n
  subst hlatest
  have hdue : Due f.interval before a t := by
    rw [h.spacing]
    exact h.faithful.1.mp rfl
  have htime : t ∈ readings := h.timely.subset List.mem_cons_self
  refine ⟨h.spacing, h.distinct.forget a, h.faithful, h.settled, ?_, h.timely, trivial, ?_, ?_⟩
  · exact Agrees.forget h.agrees htime hdue
  · rw [sources_append, h.taken]
    simp [sources, Reporter.pending?]
  · rw [calls_append, h.called]
    simp [calls, Request.call?]

/-- The filter is tidied up. -/
theorem Told.prune (h : Told edge interval .tidying tr f n) (t : Moment) :
    Told edge interval .idle (tr ++ [⟨id, .prune, ()⟩]) (f.prune t)
      { n with readings := t :: n.readings } := by
  refine ⟨h.spacing, h.distinct.prune t, h.faithful, h.settled, ?_, h.timely.cons t, trivial,
    ?_, ?_⟩
  · exact h.agrees.prune h.distinct t
  · rw [sources_append, h.taken]
    simp [sources, Reporter.pending?]
  · rw [calls_append, h.called]
    simp [calls, Request.call?]

/-- The report part ends. -/
theorem Told.leave (h : Told edge interval .leaving tr f n) :
    Told edge interval .left (tr ++ [⟨id, .leave .report, ()⟩]) f n := by
  refine ⟨h.spacing, h.distinct, h.faithful, h.settled, h.agrees, h.timely, trivial, ?_, ?_⟩
  · rw [sources_append, h.taken]
    exact List.append_nil _
  · rw [calls_append, h.called]
    exact List.append_nil _

variable {s s' : State σ × Notes}

/-- What comes next to the report part has nothing to do with the filter. -/
theorem filter_of_sighting {u u' : State σ} {x : Sighting}
    (h : u.answer around id .sighting = some (x, u')) : u'.filter = u.filter := by
  simp only [State.answer, State.whenLaunched] at h
  split at h
  · refine of_lookOr (R := fun v => v.filter = u.filter) h (fun _ => rfl) fun ho => ?_
    unfold State.nextSighting at ho
    split at ho
    · cases ho
      rfl
    · cases ho
      rfl
    · exact of_map (R := fun v => v.filter = u.filter) ho fun _ => rfl
  · cases h

theorem see_of_answer {u u' : State σ} {x : Bool}
    (h : u.answer around id (.due a) = some (x, u')) :
    u.filter.see a (around.now u.outside) = (x, u'.filter) := by
  cases h
  rfl

/-- Every step of the report part preserves it, as long as the clock does not go back. -/
theorem Told.step (h : Told edge interval q tr s.1.filter s.2)
    (hclock : s'.2.readings.Pairwise (· ≥ ·)) (hstep : Reporter.Step edge q r x q')
    (hx : ((State.machine around).noting (Notes.after around)).answer id r s = some (x, s')) :
    Told edge interval q' (tr ++ [⟨id, r, x⟩]) s'.1.filter s'.2 := by
  obtain ⟨u', n'⟩ := s'
  obtain ⟨hanswer, hnotes⟩ := Machine.answer_noting hx
  replace hanswer : s.1.answer around id r = some (x, u') := hanswer
  dsimp only at hnotes hclock ⊢
  subst hnotes
  cases hstep with
  | sight =>
      rw [filter_of_sighting hanswer]
      exact h.found
  | due =>
      obtain ⟨hdue, hfilter⟩ := ReportFilter.see_eq_true (see_of_answer hanswer)
      rw [hfilter]
      exact h.due (List.pairwise_cons.mp hclock).1 hdue
  | pass =>
      obtain ⟨hdue, hfilter⟩ := ReportFilter.see_eq_false (see_of_answer hanswer)
      rw [hfilter]
      exact h.pass (List.pairwise_cons.mp hclock).1 hdue
  | report =>
      obtain ⟨⟨y, w⟩, -, heq⟩ := Option.map_eq_some_iff.mp hanswer
      cases heq
      exact h.report
  | forget =>
      cases hanswer
      exact h.forget
  | prune =>
      cases hanswer
      exact h.prune _
  | leave =>
      cases hanswer
      exact h.leave

end Steps

/-! ## The runs of the report part -/

section Runs

variable {s : System interface (State σ × Notes) Result}

/-- What holds in every run: only the report part is there, and as long as the clock does not
    go back, everything belongs together. -/
structure Kept (edge : String) (interval : Duration) (tr : List (Exchange interface))
    (x : State σ × Notes) (ph : TaskId → Reporter) : Prop where
  alone : ∀ i, i ≠ 0 → ph i = .left
  told : x.2.readings.Pairwise (· ≥ ·) → Told edge interval (ph 0) tr x.1.filter x.2

theorem Notes.readings_after {e : Exchange interface} {u : State σ} {n : Notes} :
    n.readings.Sublist (n.after around e u).readings := by
  unfold Notes.after
  split
  · exact List.sublist_cons_self _ _
  · exact List.Sublist.refl _
  · exact List.sublist_cons_self _ _
  · exact List.Sublist.refl _

theorem Kept.step {x x' : State σ × Notes} {ph : TaskId → Reporter} {r : Request} {y : r.Answer}
    {q : Reporter} (h : Kept edge interval tr x ph) (hstep : Reporter.Step edge (ph id) r y q)
    (hy : ((State.machine around).noting (Notes.after around)).answer id r x = some (y, x')) :
    Kept edge interval (tr ++ [⟨id, r, y⟩]) x' (Function.update ph id q) := by
  have hid : id = 0 := by
    by_contra hne
    rw [h.alone id hne] at hstep
    cases hstep
  subst hid
  refine ⟨?_, ?_⟩
  · intro i hi
    rw [Function.update_of_ne hi]
    exact h.alone i hi
  · intro hclock
    have hbefore : x.2.readings.Sublist x'.2.readings := by
      rw [(Machine.answer_noting hy).2]
      exact Notes.readings_after
    rw [Function.update_self]
    exact (h.told (hclock.sublist hbefore)).step hclock hstep hy

/-- The phases of the tasks at the beginning. -/
def beginning (i : TaskId) : Reporter := [Reporter.idle][i]?.getD .left

theorem told_beginning {u : State σ} (hu : u.filter = { interval }) :
    Told edge interval .idle [] u.filter {} := by
  rw [hu]
  refine ⟨rfl, List.Pairwise.nil, trivial, ?_, ?_, List.Sublist.refl _, trivial, rfl, rfl⟩
  · exact fun e he => absurd he List.not_mem_nil
  · exact fun a u _ => iff_of_true rfl fun e he => absurd he List.not_mem_nil

theorem Reporting.kept (h : Reporting edge around interval tr s) :
    ∃ ph, Kept edge interval tr s.state ph ∧
      s.Keeps (reporting edge) (fun q _ => q = Reporter.left) Reporter.left ph := by
  obtain ⟨u, hu, hrun⟩ := h
  let start : System interface (State σ × Notes) Result :=
    ⟨(u, {}), [background (reportRun edge)]⟩
  have hkeeps : start.Keeps (reporting edge) (fun q _ => q = Reporter.left) Reporter.left
      beginning :=
    System.Keeps.of_forall₂ (.cons reportRun_reports .nil)
  refine System.Runs.keeps (P := reporting edge) (Kept edge interval) (fun _ => trivial) hkeeps ?_
    (fun _ hinv hstep hx => hinv.step hstep hx) (fun hstarts => hstarts.elim) ?_ hrun
  · refine ⟨fun i hi => ?_, fun _ => told_beginning hu⟩
    cases i with
    | zero => exact absurd rfl hi
    | succ i => rfl
  · intro tr x x' ph hinv hmove
    refine ⟨hinv.alone, ?_⟩
    rw [hmove.notes, hmove.filter]
    exact hinv.told

/-- What the report part asks for says how far it has come. -/
theorem asked_eq {ph : TaskId → Reporter} (h : Reporting edge around interval tr s)
    (hk : s.Keeps (reporting edge) (fun q _ => q = Reporter.left) Reporter.left ph) :
    asked s = (ph 0).request? edge ∨ asked s = none ∧ ph 0 = .idle := by
  obtain ⟨u, -, hrun⟩ := h
  let body : Work (Option Result) := Option.map (fun _ => Result.over) <$> reportRun edge
  obtain ⟨now, hnow⟩ : ∃ now, s.tasks[0]? = some (.forever body now) := hrun.forever_at rfl
  have hasked : asked s = (Task.forever body now).request? := by
    rw [asked, hnow]
    rfl
  have htask := hk.task hnow
  rw [hasked]
  cases now with
  | ask r next =>
      obtain ⟨x, -⟩ := exists_plausible r
      obtain ⟨q, hstep, -⟩ := htask.asks (.forever body r next) (x := x) trivial
      exact Or.inl (Reporter.Step.request?_eq hstep).symm
  | done y =>
      cases y with
      | some y =>
          have hleft : ph 0 = .left := htask.ends rfl
          rw [hleft]
          exact Or.inl rfl
      | none =>
          -- the next run begins with the question for what comes next
          obtain ⟨_, -, hagain⟩ := htask.again
          obtain ⟨q, hstep, -⟩ := hagain Sighting.closed trivial
          generalize ph 0 = q₀ at hstep
          cases hstep
          exact Or.inr ⟨rfl, rfl⟩

variable {q : Reporter} {l : List Sight}

/-- What is under way in a phase is what the report part asks for. -/
theorem sights_eq (h : asked s = q.request? edge ∨ asked s = none ∧ q = .idle) :
    sights s = q.view s.state.2.sights := by
  unfold sights
  rcases h with h | ⟨h, rfl⟩
  · rw [h]
    cases q <;> rfl
  · rw [h]
    rfl

theorem asked_looksAt? (h : asked s = q.request? edge ∨ asked s = none ∧ q = .idle) :
    (asked s).bind Request.looksAt? = q.pending? := by
  rcases h with h | ⟨h, rfl⟩
  · rw [h]
    cases q <;> rfl
  · rw [h]
    rfl

theorem looked_view : looked (q.view l) = looked l := by
  cases l <;> cases q <;> rfl

theorem times_view : (q.view l).map Sight.time = l.map Sight.time := by
  cases l <;> cases q <;> rfl

theorem settled_tail_view (h : Settled l) : Settled (q.view l).tail := by
  have htail : (q.view l).tail = l.tail := by
    cases l <;> cases q <;> rfl
  rw [htail]
  exact fun e he => h e (List.mem_of_mem_tail he)

/-- The reports of the history are those that were made and the one that is under way. -/
theorem made_view (h : asked s = q.request? edge ∨ asked s = none ∧ q = .idle)
    (hlatest : q.Latest l) :
    made edge (q.view l) = made edge l ++ ((asked s).bind Request.call?).toList := by
  rcases h with h | ⟨h, rfl⟩
  · rw [h]
    cases q with
    | calling a =>
        obtain ⟨t, before, rfl⟩ := hlatest
        rw [Reporter.view, markLast, made_cons, made_cons]
        simp [Sight.reported, Reporter.request?, Request.call?]
    | _ => exact (List.append_nil _).symm
  · rw [h]
    exact (List.append_nil _).symm

/-- What a run of the report part says: which sources it has looked at, and which of them it
    has reported. -/
structure Exact (edge : String) (interval : Duration) (tr : List (Exchange interface))
    (s : System interface (State σ × Notes) Result) : Prop where
  taken : sources tr = looked (sights s) ++ ((asked s).bind Request.looksAt?).toList
  forward : ((sights s).map Sight.time).Pairwise (· ≥ ·)
  due : ∀ later e earlier, sights s = later ++ e :: earlier →
    (e.reported = true ↔ Due interval earlier e.address e.time)
  apart : ∀ later e earlier, sights s = later ++ e :: earlier → e.fate = .ended (.ok ()) →
    ∀ e' ∈ earlier, e'.address = e.address → e'.fate = .ended (.ok ()) →
      interval.nanos ≤ e.time - e'.time
  retried : ∀ later e between e' earlier reason,
    sights s = later ++ e :: (between ++ e' :: earlier) → e'.fate = .ended (.error reason) →
      e'.address = e.address → (∀ b ∈ between, b.address ≠ e.address) → e.reported = true
  called : calls tr ++ ((asked s).bind Request.call?).toList = made edge (sights s)

theorem Reporting.faithful (h : Reporting edge around interval tr s)
    (hclock : s.state.2.readings.Pairwise (· ≥ ·)) :
    Faithful interval (sights s) ∧ Settled (sights s).tail := by
  obtain ⟨ph, hkept, hk⟩ := h.kept
  have htold := hkept.told hclock
  rw [sights_eq (asked_eq h hk)]
  exact ⟨htold.faithful, settled_tail_view htold.settled⟩

/-- **Exactly the due sources are reported.**  Whatever comes out of the reports and however
    often the filter is tidied up in between, as long as the clock does not go back: the sources
    are looked at in the order in which they were put into the queue; a source is reported when
    no earlier report of its address that succeeded lies less than the interval before, and only
    then; and the reports are made in the order of the sources.  So two reports of an address
    that succeed are the interval apart, and when a report has failed, the next one is made as
    soon as the address is seen again.

    To tidy up does not matter: in two runs that look at the same sources at the same times, and
    in which the reports come out the same, the same sources are reported. -/
theorem Reporting.exactly_due (h : Reporting edge around interval tr s)
    (hclock : s.state.2.readings.Pairwise (· ≥ ·)) :
    Exact edge interval tr s ∧
      ∀ {τ : Type} {edge' : String} {around' : Around τ} {tr' : List (Exchange interface)}
        {s' : System interface (State τ × Notes) Result},
        Reporting edge' around' interval tr' s' → s'.state.2.readings.Pairwise (· ≥ ·) →
        (sights s').map Sight.seen = (sights s).map Sight.seen →
        (∃ os, outcomes (sights s') <:+ os ∧ outcomes (sights s) <:+ os) →
          (sights s').map Sight.reported = (sights s).map Sight.reported := by
  obtain ⟨hfaithful, htail⟩ := h.faithful hclock
  refine ⟨?_, ?_⟩
  · obtain ⟨ph, hkept, hk⟩ := h.kept
    have htold := hkept.told hclock
    have hasked := asked_eq h hk
    have hforward : ((sights s).map Sight.time).Pairwise (· ≥ ·) := by
      rw [sights_eq hasked, times_view]
      exact hclock.sublist htold.timely
    refine ⟨?_, hforward, ?_, ?_, ?_, ?_⟩
    · rw [htold.taken, sights_eq hasked, looked_view, asked_looksAt? hasked]
    · intro later e earlier hs
      rw [hs] at hfaithful
      exact hfaithful.reported_iff
    · intro later e earlier hs hok e' he' ha hok'
      rw [hs] at hfaithful
      exact hfaithful.apart hok he' ha hok'
    · intro later e between e' earlier reason hs hfailed ha hbetween
      have htime : e'.time ≤ e.time := by
        rw [hs] at hforward
        exact time_le_of_mem hforward (List.mem_append_right between List.mem_cons_self)
      rw [hs] at hfaithful
      exact hfaithful.retried hfailed ha hbetween htime
    · rw [htold.called, sights_eq hasked, made_view hasked htold.latest]
  · intro τ edge' around' tr' s' h' hclock' hseen ⟨os, hos', hos⟩
    obtain ⟨hfaithful', htail'⟩ := h'.faithful hclock'
    exact hfaithful'.reported_eq hfaithful htail' htail hseen hos' hos

end Runs

/-- The surroundings of a scene in which it is always time to tidy up. -/
def tidyAround : Around AgentScene := { sceneAround with timer := some }

/-- The report of a source fails and is made again, and the source is passed over after that; a
    minute later, once the filter has been tidied up, it is reported again. -/
theorem Reporting.exactly_due_for_a_minute :
    ∃ (tr : _) (s : System interface (State AgentScene × Notes) Result) (a b : Ipv4),
      Reporting "edge-1" tidyAround (.ofSeconds 60) tr s ∧
        s.state.2.readings.Pairwise (· ≥ ·) ∧
        looked (sights s) = [a, a, a, b, b, a] ∧
        (sights s).map Sight.reported = [true, false, true, false, true, true] ∧
        made "edge-1" (sights s) = calls tr ++ [("edge-1", a)] := by
  let a : Ipv4 := .ofOctets 10 20 1 7
  let b : Ipv4 := .ofOctets 10 20 1 8
  let u : State AgentScene := Rehearsal.state
    { device := "loom0"
      sources := { capacity := 16, waiting := [a, a, a, b, b] }
      interval := .ofSeconds 60
      registry := { failing := [true] }
      scene := { reach := .everything, device := .scripted {} } }
  let m := (State.machine tidyAround).noting (Notes.after tidyAround)
  let start : System interface (State AgentScene × Notes) Result :=
    ⟨(u, {}), [background (reportRun "edge-1")]⟩
  -- a minute passes, and the source is seen again
  let later (s : System interface (State AgentScene × Notes) Result) :
      System interface (State AgentScene × Notes) Result :=
    { s with state := (((s.state.1.setOutside (s.state.1.outside.1.pass (.ofSeconds 60),
      s.state.1.outside.2)).mapSources fun q => q.push a), s.state.2) }
  have hfinds : (start.play m (List.replicate 22 0)).any (fun p =>
      ((later p.2).play m [0, 0]).any fun p' => decide (p'.2.state.2.readings.Pairwise (· ≥ ·) ∧
        looked (sights p'.2) = [a, a, a, b, b, a] ∧
        (sights p'.2).map Sight.reported = [true, false, true, false, true, true] ∧
        (asked p'.2).bind Request.call? = some ("edge-1", a))) = true := by
    decide +kernel
  obtain ⟨⟨tr, s⟩, hplay, hfinds'⟩ := (Option.any_eq_true _ _).mp hfinds
  obtain ⟨⟨tr', s'⟩, hplay', hfacts⟩ := (Option.any_eq_true _ _).mp hfinds'
  obtain ⟨hclock, hlooked, hreported, hcall⟩ := of_decide_eq_true hfacts
  have hrun : Reporting "edge-1" tidyAround (.ofSeconds 60) ([] ++ tr ++ tr') s' :=
    ⟨u, rfl, ((System.Runs.refl.play hplay).move ⟨rfl, rfl⟩).play hplay'⟩
  have hexact := (Reporting.exactly_due hrun hclock).1
  refine ⟨_, s', a, b, hrun, hclock, hlooked, hreported, ?_⟩
  rw [← hexact.called, hcall]
  rfl

end Overlay.Agent
