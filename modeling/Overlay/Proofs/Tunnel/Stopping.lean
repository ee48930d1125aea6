import Overlay.Proofs.Tunnel.Ending

/-!
# How a server stops

The task that waits for the loops is told which of them has ended first, shuts the other one down
and waits for it.  When both have ended before it looks, either one may be taken for the first: a
`Choice` says which, and `Server.machine` is the machine of one choice.

`Supervised.winds_up` is what a shutdown means, at whichever moment it comes and however many
operations on the peers go on: nothing more is read, what is in hand is finished, the server
returns when both loops have ended, with the ending of the loop it was told of, and nothing
happens to packets and counters after that.  It says, too, what ends a loop, and that whatever
ends a loop ends it at once.
-/

namespace Overlay.Tunnel

variable {σ : Type}

/-! ## The system -/

/-- Which loop is taken for the one that has ended first. -/
structure Choice (σ : Type) where
  /-- The loop and how it has ended. -/
  pick : Server σ → Option (Direction × Ending)
  /-- The loop has ended. -/
  mem : ∀ {s e}, pick s = some e → e ∈ s.ended
  /-- There is one as soon as a loop has ended. -/
  exists_pick : ∀ {s}, s.ended ≠ [] → ∃ e, pick s = some e

/-- The loop that has ended first is taken for it. -/
def Choice.earliest : Choice σ where
  pick s := s.ended.getLast?
  mem := List.mem_of_getLast?
  exists_pick := fun h => ⟨_, List.getLast?_eq_some_getLast h⟩

/-- The machine of a server that takes one of the loops that have ended for the first. -/
def choosing (around : Surroundings σ) (choice : Choice σ) : Machine interface (Server σ) where
  answer
    | _, .firstEnded, s => (choice.pick s).map fun e => (e, s)
    | id, r, s => s.answer around id r

theorem choosing_earliest (around : Surroundings σ) :
    choosing around .earliest = Server.machine around := by
  refine congrArg Machine.mk (funext fun id => funext fun r => funext fun s => ?_)
  cases r <;> rfl

/-- What happens to a server that serves, with the exchanges of its tasks. -/
def Supervised (around : Surroundings σ) (choice : Choice σ) (device : String) (w : σ) :
    List (Exchange interface) → System interface (Server σ) TaskResult → Prop :=
  System.Runs (choosing around choice) Operation Meanwhile (launch device w)

/-- How it goes on from there. -/
abbrev Continues (around : Surroundings σ) (choice : Choice σ) :
    System interface (Server σ) TaskResult → List (Exchange interface) →
      System interface (Server σ) TaskResult → Prop :=
  System.Runs (choosing around choice) Operation Meanwhile

variable {around : Surroundings σ} {choice : Choice σ} {device : String} {w : σ}
  {tr tr' : List (Exchange interface)} {t u : System interface (Server σ) TaskResult}
  {s s' : Server σ} {d : Direction} {id : TaskId} {r : Request} {x : r.Answer}

theorem heeds_of_choosing (h : (choosing around choice).answer id r s = some (x, s')) :
    Heeds r x s s' := by
  cases r with
  | firstEnded =>
      obtain ⟨e, he, heq⟩ := Option.map_eq_some_iff.mp h
      cases heq
      exact ⟨trivial, choice.mem he, rfl, rfl, fun hs => hs, fun heq => nomatch heq⟩
  | _ => exact heeds_of_answer (show s.answer around id _ = _ from h)

/-! ## The task that waits -/

/-- How far the task has come that waits for the loops. -/
inductive Vigil where
  /-- It waits until one of them has ended. -/
  | awaiting
  /-- It was told which one has ended first, and how. -/
  | told (d : Direction) (e : Ending)
  /-- It has shut down the server and waits for the other one. -/
  | joining (d : Direction) (e : Ending)
  /-- The server has returned. -/
  | returned (e : Ending)
  /-- The task is another one. -/
  | apart

/-- The steps of the task. -/
inductive Vigil.Step : Vigil → (r : Request) → r.Answer → Vigil → Prop where
  | firstEnded {y : Direction × Ending} : Step awaiting .firstEnded y (told y.1 y.2)
  | stop {d : Direction} {e : Ending} {y : Unit} : Step (told d e) .stop y (joining d e)
  | join {d : Direction} {e y : Ending} : Step (joining d e) (.join d.other) y (returned e)
  | apart {r : Request} {x : r.Answer} : Step apart r x apart

/-- The protocol of the task that waits for the loops. -/
def supervising : Protocol interface where
  Phase := Vigil
  Possible := Plausible
  Step := Vigil.Step

/-- The result of the task. -/
def Vigil.EndsWith : Vigil → TaskResult → Prop
  | .returned e, y => y = .ended e
  | .apart, _ => True
  | _, _ => False

theorem serve_supervises :
    (Task.once (TaskResult.ended <$> serve)).Keeps supervising Vigil.EndsWith Vigil.awaiting := by
  intro first _
  refine ⟨.told first.1 first.2, .firstEnded, ?_⟩
  intro _ _
  refine ⟨.joining first.1 first.2, .stop, ?_⟩
  intro _ _
  exact ⟨.returned first.2, .join, rfl⟩

/-- The protocol asks nothing of other programs. -/
theorem keeps_apart {α : Type} {Ends : Vigil → α → Prop} (hends : ∀ a, Ends .apart a)
    (p : Work α) : p.Keeps supervising Ends Vigil.apart := by
  induction p with
  | done a => exact hends a
  | ask r next ih => exact fun y _ => ⟨.apart, .apart, ih y⟩

theorem task_apart (a : Task interface TaskResult) :
    a.Keeps supervising Vigil.EndsWith Vigil.apart := by
  cases a with
  | once now => exact keeps_apart (fun _ => trivial) now
  | forever body now =>
      have hruns : ∀ y, Task.RunEnds (P := supervising) (· = Vigil.apart) Vigil.EndsWith
          Vigil.apart y := by
        intro y
        cases y with
        | none => exact rfl
        | some y => exact trivial
      exact ⟨(· = Vigil.apart), fun _ hq => hq ▸ keeps_apart hruns body, keeps_apart hruns now⟩

/-- The phases that the tasks begin in. -/
def vigilant (i : TaskId) : Vigil :=
  [Vigil.apart, Vigil.apart, Vigil.awaiting][i]?.getD Vigil.apart

theorem launch_supervises :
    (launch device w).Keeps supervising Vigil.EndsWith Vigil.apart vigilant :=
  System.Keeps.of_forall₂ <|
    .cons (task_apart _) (.cons (task_apart _) (.cons serve_supervises .nil))

/-! ## What holds in every run -/

theorem Supervised.minded (h : Supervised around choice device w tr t) :
    ∃ ph, Minded tr t.state ph ∧ t.Keeps handling Job.EndsWith Job.other ph := by
  refine System.Runs.keeps (P := handling) Minded (fun hx => (heeds_of_choosing hx).possible)
    launch_keeps minded_launch (fun _ hinv hstep hx => hinv.step hstep (heeds_of_choosing hx))
    (fun ha => ha.handles) (fun hinv hmove => ?_) h
  cases hmove with
  | drift => exact hinv.move rfl fun hs => hs
  | shutdown => exact hinv.move rfl fun _ => rfl

/-- The task that waits for the loops was told of this one, after it had said how it ended. -/
structure Led (tr : List (Exchange interface)) (s : Server σ) (d : Direction) (e : Ending) :
    Prop where
  known : (d, e) ∈ s.ended
  told : ∃ before after, tr = before ++ ⟨serveTask, .firstEnded, (d, e)⟩ :: after ∧
    ⟨loopTask d, .finish d e, ()⟩ ∈ before

/-- What holds while the task that waits has come so far. -/
def Vigil.Holds (tr : List (Exchange interface)) (s : Server σ) : Vigil → Prop
  | awaiting => True
  | told d e => Led tr s d e
  | joining d e => Led tr s d e ∧ s.stopping = true
  | returned e => ∃ d, Led tr s d e ∧ s.stopping = true ∧ ∃ e', (d.other, e') ∈ s.ended
  | apart => False

theorem Led.mono {e : Ending} (h : Led tr s d e) (hended : s.ended ⊆ s'.ended)
    (after : List (Exchange interface)) : Led (tr ++ after) s' d e := by
  obtain ⟨before, rest, rfl, hfinish⟩ := h.told
  exact ⟨hended h.known, before, rest ++ after, List.append_assoc .., hfinish⟩

/-- What holds goes on to hold while no ending is forgotten and no shutdown is taken back. -/
theorem Vigil.Holds.mono {v : Vigil} (h : v.Holds tr s) (hended : s.ended ⊆ s'.ended)
    (hstop : s.stopping = true → s'.stopping = true) (after : List (Exchange interface)) :
    v.Holds (tr ++ after) s' := by
  cases v with
  | awaiting => exact trivial
  | told d e => exact Led.mono h hended after
  | joining d e => exact ⟨h.1.mono hended after, hstop h.2⟩
  | returned e =>
      obtain ⟨d, hled, hs, e', he'⟩ := h
      exact ⟨d, hled.mono hended after, hstop hs, e', hended he'⟩
  | apart => exact h

theorem Heeds.subset (h : Heeds r x s s') : s.ended ⊆ s'.ended := by
  rw [h.ended]
  cases r with
  | finish d e => exact List.subset_cons_self (d, e) s.ended
  | _ => exact fun _ he => he

/-- A step of the task that waits leads to where what it was told holds. -/
theorem Vigil.Step.holds {v v' : Vigil} {ph : TaskId → Job} (hstep : v.Step r x v')
    (h : v.Holds tr s) (hminded : Minded tr s ph) (hx : Heeds r x s s') :
    v'.Holds (tr ++ [⟨serveTask, r, x⟩]) s' := by
  cases hstep with
  | @firstEnded y =>
      exact ⟨hx.subset hx.tells, tr, [], rfl, (hminded.posted y.1 y.2 hx.tells).2⟩
  | stop => exact ⟨Led.mono h hx.subset _, hx.stop rfl⟩
  | @join d e y =>
      exact ⟨d, h.1.mono hx.subset _, hx.stopping h.2, y, hx.subset hx.tells⟩
  | apart => exact h.elim

theorem Supervised.vigil (h : Supervised around choice device w tr t) :
    ∃ ph : TaskId → Vigil, (ph serveTask).Holds tr t.state ∧
      t.Keeps supervising Vigil.EndsWith Vigil.apart ph := by
  refine System.Runs.keeps (P := supervising) (fun tr s ph => (ph serveTask).Holds tr s)
    (fun hx => (heeds_of_choosing hx).possible) launch_supervises trivial ?_
    (fun _ => task_apart _) ?_ h
  · intro tr t ph id r x state v hrun hinv hstep hx
    have hheeds := heeds_of_choosing hx
    by_cases hid : id = serveTask
    · subst hid
      obtain ⟨_, hminded, -⟩ := Supervised.minded hrun
      rw [Function.update_self]
      exact Vigil.Step.holds hstep hinv hminded hheeds
    · rw [Function.update_of_ne fun heq => hid heq.symm]
      exact Vigil.Holds.mono hinv hheeds.subset hheeds.stopping _
  · intro tr s s' ph hinv hmove
    have hkept : s.ended ⊆ s'.ended ∧ (s.stopping = true → s'.stopping = true) := by
      cases hmove with
      | drift => exact ⟨fun _ he => he, fun hs => hs⟩
      | shutdown => exact ⟨fun _ he => he, fun _ => rfl⟩
    exact List.append_nil tr ▸ Vigil.Holds.mono hinv hkept.1 hkept.2 []

/-! ## From a shutdown on -/

/-- What is left to do for loops that were in these phases when the shutdown came. -/
structure Finishing (ph₀ : TaskId → Job) (tr : List (Exchange interface)) (s : Server σ)
    (ph : TaskId → Job) : Prop where
  place : Placed ph
  stopping : s.stopping = true
  still : ∀ d, ∀ y ∈ found d tr, y = .stop
  passes : ∀ d, (passed d tr ++ (ph (loopTask d)).hand).Sublist (ph₀ (loopTask d)).hand
  counts : ∀ d, (counted (loopTask d) tr).length + (ph (loopTask d)).load =
    (ph₀ (loopTask d)).load

/-- Every exchange keeps it. -/
theorem Finishing.step {ph₀ ph : TaskId → Job} {q : Job} (h : Finishing ph₀ tr s ph)
    (hstep : Job.Step (ph id) r x q) (hx : Heeds r x s s') :
    Finishing ph₀ (tr ++ [⟨id, r, x⟩]) s' (Function.update ph id q) := by
  have hloops : ∀ d, (∀ y ∈ found d [⟨id, r, x⟩], y = .stop) ∧
      (passed d (tr ++ [⟨id, r, x⟩]) ++ (Function.update ph id q (loopTask d)).hand).Sublist
        (ph₀ (loopTask d)).hand ∧
      (counted (loopTask d) (tr ++ [⟨id, r, x⟩])).length +
        (Function.update ph id q (loopTask d)).load = (ph₀ (loopTask d)).load := by
    intro d
    rw [passed_append, counted_append, List.length_append, ← h.counts d]
    rcases h.place.step_cases hstep d with ⟨rfl, hupdate, hgoes⟩ | ⟨hid, hupdate, hfound, hpassed⟩
    · rw [hupdate, counted_self]
      cases hgoes with
      | finds y hlook hfound hfree _ hhand hload hpassed =>
          -- whoever looks for a packet finds that it is to stop
          obtain rfl : r = .arrival d := hlook
          have hy : y = x := by
            have hx' : found d [⟨loopTask d, .arrival d, x⟩] = [x] := by simp [found]
            exact List.singleton_inj.mp (hfound.symm.trans hx')
          obtain rfl : y = .stop := hy.trans (hx.tells.mpr h.stopping)
          rw [hfound, hpassed, List.append_nil, Nat.le_zero.mp hload, hfree.2.1]
          refine ⟨fun y hy => List.mem_singleton.mp hy, ?_, rfl⟩
          rw [List.eq_nil_of_sublist_nil hhand, ← hfree.1]
          exact h.passes d
      | handles hfound _ hhand hload =>
          rw [hfound, ← hload, Nat.add_assoc, List.append_assoc]
          exact ⟨fun y hy => absurd hy List.not_mem_nil, (hhand.append_left _).trans (h.passes d),
            rfl⟩
    · rw [hupdate, hfound, hpassed, counted_of_ne hid, List.append_nil]
      exact ⟨fun y hy => absurd hy List.not_mem_nil, h.passes d, rfl⟩
  refine ⟨h.place.step hstep, hx.stopping h.stopping, fun d y hy => ?_, fun d => (hloops d).2.1,
    fun d => (hloops d).2.2⟩
  rw [found_append] at hy
  exact (List.mem_append.mp hy).elim (h.still d y) ((hloops d).1 y)

theorem Continues.finishing {ph₀ : TaskId → Job} (h : Continues around choice t tr' u)
    (hplace : Placed ph₀) (hk : t.Keeps handling Job.EndsWith Job.other ph₀)
    (hstop : t.state.stopping = true) : ∃ ph, Finishing ph₀ tr' u.state ph := by
  have hinit : Finishing ph₀ [] t.state ph₀ :=
    ⟨hplace, hstop, fun _ _ hy => absurd hy List.not_mem_nil,
      fun d => by cases d <;> exact .refl _, fun d => Nat.zero_add _⟩
  obtain ⟨ph, hfinishing, -⟩ := System.Runs.keeps (P := handling) (Finishing ph₀)
    (fun hx => (heeds_of_choosing hx).possible) hk hinit
    (fun _ hinv hstep hx => hinv.step hstep (heeds_of_choosing hx)) (fun ha => ha.handles)
    (fun hinv hmove => by
      obtain ⟨hplace, hstop, hstill, hpasses, hcounts⟩ := hinv
      cases hmove with
      | drift => exact ⟨hplace, hstop, hstill, hpasses, hcounts⟩
      | shutdown => exact ⟨hplace, rfl, hstill, hpasses, hcounts⟩) h
  exact ⟨ph, hfinishing⟩

/-! ## When both loops have ended -/

/-- Nothing is left to do: both loops have ended, and no counter has moved since. -/
structure AtRest (stats : Stats) (tr : List (Exchange interface)) (s : Server σ)
    (ph : TaskId → Job) : Prop where
  place : Placed ph
  ended : ∀ d, ∃ e, ph (loopTask d) = .finished d e
  quiet : ∀ e ∈ tr, ¬ e.request.OfLoop
  stats : s.stats = stats

/-- Every exchange keeps it. -/
theorem AtRest.step {stats : Stats} {ph : TaskId → Job} {q : Job} (h : AtRest stats tr s ph)
    (hstep : Job.Step (ph id) r x q) (hx : Heeds r x s s') :
    AtRest stats (tr ++ [⟨id, r, x⟩]) s' (Function.update ph id q) := by
  have hid : ∀ d, id ≠ loopTask d := by
    rintro d rfl
    obtain ⟨e, he⟩ := h.ended d
    exact Job.not_step_finished (he ▸ hstep)
  have hr : ¬ r.OfLoop := by
    have hnone := h.place.others id hid
    generalize ph id = q₀ at hstep hnone
    cases hstep with
    | inbound | outbound => exact nomatch hnone
    | other hr => exact hr
  refine ⟨h.place.step hstep, ?_, System.forall_mem_concat h.quiet hr, ?_⟩
  · intro d
    rw [Function.update_of_ne (hid d).symm]
    exact h.ended d
  · rw [hx.stats, (Request.views_eq_nil hr id x).2.2]
    exact h.stats

theorem Continues.atRest {ph₀ : TaskId → Job} (h : Continues around choice t tr' u)
    (hplace : Placed ph₀) (hk : t.Keeps handling Job.EndsWith Job.other ph₀)
    (hended : ∀ d, ∃ e, ph₀ (loopTask d) = .finished d e) :
    ∃ ph, AtRest t.state.stats tr' u.state ph := by
  obtain ⟨ph, hrest, -⟩ := System.Runs.keeps (P := handling) (AtRest t.state.stats)
    (fun hx => (heeds_of_choosing hx).possible) hk
    ⟨hplace, hended, fun _ he => absurd he List.not_mem_nil, rfl⟩
    (fun _ hinv hstep hx => hinv.step hstep (heeds_of_choosing hx)) (fun ha => ha.handles)
    (fun hinv hmove => by
      obtain ⟨hplace, hended, hquiet, hstats⟩ := hinv
      cases hmove with
      | drift | shutdown => exact ⟨hplace, hended, hquiet, hstats⟩) h
  exact ⟨ph, hrest⟩

/-! ## Stopping -/

/-- The task has ended with the result. -/
def HasResult (id : TaskId) (y : TaskResult) (t : System interface (Server σ) TaskResult) : Prop :=
  ∃ a, t.tasks[id]? = some a ∧ a.result? = some y

/-- Why a loop has ended: because of what it found last, and when that was to stop, the server
    was being shut down. -/
structure Explained (d : Direction) (e : Ending) (tr : List (Exchange interface)) (s : Server σ) :
    Prop where
  last : (found d tr).getLast?.bind (endingOf d) = some e
  stopped : .stop ∈ found d tr → s.stopping = true

/-- The loop has ended, or its next step ends it. -/
def EndsNow (around : Surroundings σ) (choice : Choice σ) (d : Direction) (e : Ending)
    (t : System interface (Server σ) TaskResult) : Prop :=
  HasResult (loopTask d) (.ended e) t ∨
    ∃ u, t.step (choosing around choice) (loopTask d) = some u ∧
      HasResult (loopTask d) (.ended e) u

/-- What a loop does after the shutdown: it finds nothing but that it is to stop, and it passes
    on and counts at most the packet that it had taken last. -/
structure Winds (d : Direction) (tr tr' : List (Exchange interface)) : Prop where
  still : ∀ y ∈ found d tr', y = .stop
  passes : (passed d tr').Sublist (taken d tr).getLast?.toList
  counts : (counted (loopTask d) tr').length ≤ 1

/-- The server has returned: it is shut down, both loops have ended, and the ending is that of a
    loop that had said so before the server looked. -/
structure Returned (e : Ending) (tr : List (Exchange interface))
    (t : System interface (Server σ) TaskResult) : Prop where
  stopping : t.state.stopping = true
  loops : ∀ d, ∃ e', HasResult (loopTask d) (.ended e') t
  first : ∃ d before after, tr = before ++ ⟨serveTask, .firstEnded, (d, e)⟩ :: after ∧
    ⟨loopTask d, .finish d e, ()⟩ ∈ before ∧ HasResult (loopTask d) (.ended e) t

theorem Job.load_le_one (q : Job) : q.load ≤ 1 := by
  cases q with
  | inbound q => cases q <;> simp [Job.load, Inbound.load]
  | outbound q => cases q <;> simp [Job.load, Outbound.load]
  | other => exact Nat.zero_le 1

theorem Job.hand_eq_nil {q : Job} (h : q.load = 0) : q.hand = [] := by
  cases q with
  | inbound q =>
      cases q with
      | writing => exact nomatch h
      | _ => rfl
  | outbound q =>
      cases q with
      | reporting | seeking | sending => exact nomatch h
      | _ => rfl
  | other => rfl

/-- The task of a loop runs the program of the loop again and again. -/
theorem Supervised.loop_at (h : Supervised around choice device w tr t) (d : Direction) :
    ∃ now, t.tasks[loopTask d]? = some (.forever (runOf d) now) :=
  System.Runs.forever_at h ((launch_loop d).trans (congrArg some (loop_eq d)))

/-- A loop that the server knows to have ended has its result. -/
theorem Supervised.endsWith (h : Supervised around choice device w tr t) {ph : TaskId → Job}
    (hk : t.Keeps handling Job.EndsWith Job.other ph) {e : Ending}
    (hended : ph (loopTask d) = .finished d e) : HasResult (loopTask d) (.ended e) t := by
  obtain ⟨now, hnow⟩ := h.loop_at d
  exact ⟨_, hnow, result?_of_finished (hended ▸ hk.task hnow)⟩

/-- **A loop that finds what ends it** looks for nothing more, and its next step ends it. -/
theorem Supervised.ends_now (h : Supervised around choice device w tr t)
    {before after : List Arrival} {y : Arrival} {e : Ending}
    (hfound : found d tr = before ++ y :: after) (hy : endingOf d y = some e) :
    after = [] ∧ EndsNow around choice d e t := by
  obtain ⟨ph, hminded, hk⟩ := h.minded
  rcases List.eq_nil_or_concat' after with rfl | ⟨after, last, rfl⟩
  · refine ⟨rfl, ?_⟩
    have hending : (ph (loopTask d)).ending? = some e := by
      rw [hminded.ending d, hfound, List.getLast?_concat]
      exact hy
    obtain ⟨now, hnow⟩ := h.loop_at d
    rcases ends_of_ending (hk.task hnow) (hminded.place.loop d) hending with
      hresult | ⟨next, rfl, hresult⟩
    · exact Or.inl ⟨_, hnow, hresult⟩
    · -- that a loop has ended is taken note of at once
      have hstep : t.step (choosing around choice) (loopTask d) =
          some ⟨{ t.state with ended := (d, e) :: t.state.ended },
            t.tasks.set (loopTask d) (.forever (runOf d) (next ()))⟩ := by
        rw [System.step, hnow]
        rfl
      exact Or.inr ⟨_, hstep, _, List.getElem?_set_self (List.getElem?_eq_some_iff.mp hnow).1,
        hresult⟩
  · -- what was found before something else has not ended the loop
    have hmem : y ∈ (found d tr).dropLast := by
      rw [hfound, ← List.cons_append, ← List.append_assoc, List.dropLast_concat]
      exact List.mem_append_right _ List.mem_cons_self
    exact nomatch hy.symm.trans (hminded.earlier d y hmem)

/-- **A loop ends because of what it found last**, and because of nothing else. -/
theorem Supervised.explained (h : Supervised around choice device w tr t) {y : TaskResult}
    (hend : HasResult (loopTask d) y t) : ∃ e, y = .ended e ∧ Explained d e tr t.state := by
  obtain ⟨ph, hminded, hk⟩ := h.minded
  obtain ⟨a, ha, hresult⟩ := hend
  obtain ⟨e, he, rfl⟩ := ((hk.task ha).ends hresult : Job.EndsWith _ y).ending?
    (hminded.place.loop d)
  exact ⟨e, rfl, (hminded.ending d).symm.trans he, hminded.stopped d⟩

/-- **After a shutdown nothing is read**, and only what is in hand is passed on and counted. -/
theorem Supervised.winds (h : Supervised around choice device w tr t)
    (hstop : t.state.stopping = true) (h' : Continues around choice t tr' u) (d : Direction) :
    Winds d tr tr' ∧
      (Pausing d t → passed d tr' = [] ∧ counted (loopTask d) tr' = []) := by
  obtain ⟨ph, hminded, hk⟩ := h.minded
  obtain ⟨ph', hfinishing⟩ := h'.finishing hminded.place hk hstop
  have hpassed := (List.sublist_append_left _ _).trans (hfinishing.passes d)
  have hcounted : (counted (loopTask d) tr').length ≤ (ph (loopTask d)).load :=
    hfinishing.counts d ▸ Nat.le_add_right _ _
  refine ⟨⟨hfinishing.still d, hpassed.trans (hminded.hand d),
    Nat.le_trans hcounted (Job.load_le_one _)⟩, fun hp => ?_⟩
  have hload : (ph (loopTask d)).load = 0 :=
    load_eq_zero_of_pausing h (launch_loop d) hk hp
  rw [Job.hand_eq_nil hload] at hpassed
  rw [hload] at hcounted
  exact ⟨List.eq_nil_of_sublist_nil hpassed,
    List.eq_nil_of_length_eq_zero (Nat.le_zero.mp hcounted)⟩

/-- **When the server has returned** it is shut down and both loops have ended, and from then on
    there is nothing that loops do. -/
theorem Supervised.returned (h : Supervised around choice device w tr t) {y : TaskResult}
    (hend : HasResult serveTask y t) :
    ∃ e, y = .ended e ∧ Returned e tr t ∧ ∀ tr' u, Continues around choice t tr' u →
      (∀ e ∈ tr', ¬ e.request.OfLoop) ∧ u.state.stats = t.state.stats := by
  obtain ⟨ph, hminded, hk⟩ := h.minded
  obtain ⟨vigil, hholds, hkv⟩ := h.vigil
  obtain ⟨a, ha, hresult⟩ := hend
  have hends : (vigil serveTask).EndsWith y := (hkv.task ha).ends hresult
  cases hv : vigil serveTask with
  | returned e =>
      rw [hv] at hends hholds
      obtain ⟨d, hled, hstop, e', he'⟩ := hholds
      obtain ⟨before, after, htr, hfinish⟩ := hled.told
      have hended : ∀ d', ∃ e, ph (loopTask d') = .finished d' e := by
        intro d'
        by_cases hd : d' = d
        · exact hd ▸ ⟨e, (hminded.posted d e hled.known).1⟩
        · have hother : d' = d.other := by
            cases d <;> cases d' <;> first | rfl | exact absurd rfl hd
          exact hother ▸ ⟨e', (hminded.posted _ e' he').1⟩
      refine ⟨e, hends, ⟨hstop, fun d' => ?_, d, before, after, htr, hfinish,
        h.endsWith hk (hminded.posted d e hled.known).1⟩, fun tr' u h' => ?_⟩
      · obtain ⟨e, he⟩ := hended d'
        exact ⟨e, h.endsWith hk he⟩
      · obtain ⟨_, hrest⟩ := h'.atRest hminded.place hk hended
        exact ⟨hrest.quiet, hrest.stats⟩
  | awaiting | told | joining =>
      rw [hv] at hends
      exact hends.elim
  | apart =>
      rw [hv] at hholds
      exact hholds.elim

/-- **What a shutdown means.**  In every run of a server that serves, whatever its surroundings
    do, whichever operations on its peers begin, and whichever of two loops that have ended it
    takes for the first:

    * a loop ends because of what it found last and for no other reason: in order when it was
      told to stop, which happens only once the server is being shut down; because the device is
      closed when a read from it gave nothing; with the error of the read when that says that the
      device is gone, or when the listen socket failed;
    * whatever of these a loop finds, it finds nothing after it, and its next step ends it in this
      way;
    * from any moment on at which the server is being shut down, each loop finds nothing but that
      it is to stop, and passes on and counts at most the packet that it has taken last; a loop
      without a packet in hand passes on and counts none;
    * when the server has returned, it is shut down, both loops have ended, and its result is that
      of the loop that it was told of, which had ended before it was told;
    * from then on nothing is read, sent, written, reported or counted. -/
theorem Supervised.winds_up (h : Supervised around choice device w tr t) :
    (∀ d y, HasResult (loopTask d) y t → ∃ e, y = .ended e ∧ Explained d e tr t.state) ∧
    (∀ d before y after e, found d tr = before ++ y :: after → endingOf d y = some e →
      after = [] ∧ EndsNow around choice d e t) ∧
    (t.state.stopping = true → ∀ tr' u, Continues around choice t tr' u → ∀ d,
      Winds d tr tr' ∧
        (Pausing d t → passed d tr' = [] ∧ counted (loopTask d) tr' = [])) ∧
    (∀ y, HasResult serveTask y t → ∃ e, y = .ended e ∧ Returned e tr t ∧
      ∀ tr' u, Continues around choice t tr' u →
        (∀ e ∈ tr', ¬ e.request.OfLoop) ∧ u.state.stats = t.state.stats) :=
  ⟨fun _ _ hend => h.explained hend, fun _ _ _ _ _ hfound hy => h.ends_now hfound hy,
    fun hstop _ _ h' d => h.winds hstop h' d,
    fun _ hend => h.returned hend⟩

/-- The tasks take their next steps in the given order. -/
theorem Continues.of_play (order : List TaskId)
    (hplay : t.play (choosing around choice) order = some (tr', u)) :
    Continues around choice t tr' u :=
  System.Runs.play .refl hplay

/-- A device that is closed, and two datagrams that wait. -/
def closedScene : Scene :=
  { reach := .everything, device := .channel { closed := true },
    datagrams := [datagram, datagram] }

/-- A device whose first read fails for now, and whose second read says that it is gone. -/
def goneScene : Scene :=
  { reach := .everything, device := .scripted { reads := [.error .messageTooLong,
      .error (.ofKind .brokenPipe)] } }

/-- The device is closed while a datagram is in hand: it is still written, the other one is not
    read, and the server returns that the device is closed.  Where the device is gone, the loop
    passes over the first failure and not over the second, which is what the server returns. -/
theorem Supervised.winds_up_on_closed_device :
    (∃ tr t tr' u, Supervised Scene.around .earliest "loom0" closedScene tr t ∧
      t.state.stopping = true ∧ Continues Scene.around .earliest t tr' u ∧
      passed .inbound tr' = [datagram] ∧ Winds .inbound tr tr' ∧
      HasResult serveTask (.ended (.error .deviceClosed)) u ∧
      Returned (.error .deviceClosed) (tr ++ tr') u) ∧
    ∃ tr t tr' u, Supervised Scene.around .earliest "loom0" goneScene tr t ∧
      found .outbound tr = [.read (.error .messageTooLong), .read (.error (.ofKind .brokenPipe))] ∧
      EndsNow Scene.around .earliest .outbound (.error (.io (.ofKind .brokenPipe))) t ∧
      Continues Scene.around .earliest t tr' u ∧
      HasResult serveTask (.ended (.error (.io (.ofKind .brokenPipe)))) u ∧
      Returned (.error (.io (.ofKind .brokenPipe))) (tr ++ tr') u := by
  constructor
  · have hbefore : Supervised Scene.around .earliest "loom0" closedScene _ _ :=
      Continues.of_play [0, 1, 1, 2, 2] rfl
    have hafter := System.Runs.trans hbefore (Continues.of_play [0, 0, 0, 0, 0, 2] rfl)
    obtain ⟨-, -, hwinds, -⟩ := Supervised.winds_up hbefore
    obtain ⟨-, -, -, hreturned⟩ := Supervised.winds_up hafter
    obtain ⟨_, heq, hreturned, -⟩ := hreturned _ ⟨_, rfl, rfl⟩
    cases heq
    exact ⟨_, _, _, _, hbefore, rfl, Continues.of_play [0, 0, 0, 0, 0, 2] rfl, rfl,
      (hwinds rfl _ _ (Continues.of_play [0, 0, 0, 0, 0, 2] rfl) .inbound).1, ⟨_, rfl, rfl⟩,
      hreturned⟩
  · have hbefore : Supervised Scene.around .earliest "loom0" goneScene _ _ :=
      Continues.of_play [1, 1, 1] rfl
    have hafter := System.Runs.trans hbefore (Continues.of_play [1, 2, 2, 0, 0, 2] rfl)
    obtain ⟨-, hends, -⟩ := Supervised.winds_up hbefore
    obtain ⟨-, -, -, hreturned⟩ := Supervised.winds_up hafter
    obtain ⟨-, hnow⟩ := hends .outbound [.read (.error .messageTooLong)] _ []
      (.error (.io (.ofKind .brokenPipe))) rfl rfl
    obtain ⟨_, heq, hreturned, -⟩ := hreturned _ ⟨_, rfl, rfl⟩
    cases heq
    exact ⟨_, _, _, _, hbefore, rfl, hnow, Continues.of_play [1, 2, 2, 0, 0, 2] rfl,
      ⟨_, rfl, rfl⟩, hreturned⟩

end Overlay.Tunnel
