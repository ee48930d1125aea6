import Overlay.Proofs.Agent.Legs
import Overlay.Simulation.Agent

/-!
# The life of an agent

An agent can be run once.  A run that fails before the edge is registered has given no
route command, and it leaves the registry alone.  A run that has registered the edge ends
with an empty table and without a route that stands; it unregisters the edge as the last
thing that anybody does, and its result is that of the tunnel server.  All other runs are
refused.

The invariant `Living` puts together what is known of the lock, of the helpers and of the
run that leads.  It holds in every run of the system, and the result of a task says which
leg the task has come to.
-/

namespace Overlay.Agent.Lifecycle

variable {σ : Type} {c : Config} {around : Around σ} {w : σ} {tr : List (Exchange interface)}
  {u u' : State σ} {ph : TaskId → Stage} {i id : TaskId} {r : Request} {x : r.Answer}

/-! ## The invariant -/

/-- All that is known of a trace, a state, and the stages of the tasks. -/
structure Living (c : Config) (tr : List (Exchange interface)) (u : State σ)
    (ph : TaskId → Stage) : Prop where
  guarded : Guarded tr u.server.line u.server.table ph
  helpers : Helpers u.marks u.server.ended ph
  led : Led c tr u.marks u.server.table ph
  runs : ∀ {i : TaskId}, (∃ l, ph i = .run l) ↔ (launchable c).length ≤ i

/-- A run remains a run, and a helper a helper. -/
theorem Course.run_iff {q q' : Stage} (h : Course c q r x q') :
    (∃ l, q' = .run l) ↔ ∃ l, q = .run l := by
  cases h with
  | aside => exact iff_of_false (fun ⟨l, hl⟩ => nomatch hl) fun ⟨l, hl⟩ => nomatch hl
  | run => exact iff_of_true ⟨_, rfl⟩ ⟨_, rfl⟩

/-- Every exchange keeps the invariant. -/
theorem Living.step {q : Stage} (h : Living c tr u ph) (hstep : Course c (ph id) r x q)
    (hx : u.answer around id r = some (x, u')) :
    Living c (tr ++ [⟨id, r, x⟩]) u' (Function.update ph id q) := by
  have htells := tells_of_answer hx
  have hshows := shows_of_answer hx
  refine ⟨?_, ?_, ?_, fun {i} => ?_⟩
  · rw [line_of_answer hx, table_of_answer hx]
    exact h.guarded.step hstep hshows
  · rw [marks_of_answer hx, ended_of_answer hx]
    exact h.helpers.step hstep htells
  · rw [marks_of_answer hx, table_of_answer hx]
    exact h.led.step h.helpers hstep htells hshows
  · rw [← h.runs]
    by_cases hi : i = id
    · rw [hi, Function.update_self]
      exact hstep.run_iff
    · rw [Function.update_of_ne hi]

/-- What happens to an agent when it is run any number of times and at any time, its tasks
    take their steps in any order, it may be told to stop at any time, and its surroundings
    go on as well. -/
def Lived (c : Config) (around : Around σ) (w : σ) :
    List (Exchange interface) → System interface (State σ) Result → Prop :=
  System.Runs (State.machine around) (fun a => a = running c)
    (fun u u' => (∃ v, u' = u.setOutside v) ∨ u' = u.signal) (system c w)

/-- In the beginning the helpers come first, and nobody has to do with the lock. -/
theorem begins_eq (i : TaskId) :
    (∃ b, begins c i = .aside b ∧ (begins c i).lock = .outside ∧ i < (launchable c).length) ∨
      (begins c i = .run .fresh ∧ (launchable c).length ≤ i) := by
  unfold begins launchStages launchable
  cases Controller.watchUrl c.registry.url with
  | error e =>
      match i with
      | 0 | 1 | 2 | 3 | 4 => exact Or.inl ⟨_, rfl, rfl, by simp⟩
      | i + 5 => exact Or.inr ⟨rfl, Nat.le_add_left 5 i⟩
  | ok url =>
      match i with
      | 0 | 1 | 2 | 3 | 4 | 5 => exact Or.inl ⟨_, rfl, rfl, by simp⟩
      | i + 6 => exact Or.inr ⟨rfl, Nat.le_add_left 6 i⟩

/-- The invariant holds of an agent that has not been run. -/
theorem living_begin : Living c [] (State.start c w) (begins c) := by
  have hfresh : ∀ {i : TaskId} {l : Leg}, begins c i = .run l → l = .fresh := by
    intro i l hi
    rcases begins_eq (c := c) i with ⟨b, hb, -, -⟩ | ⟨hrun, -⟩
    · exact nomatch hi.symm.trans hb
    · cases hi.symm.trans hrun
      rfl
  have hlock : (fun i => (begins c i).lock) = fun _ => .outside := by
    funext i
    rcases begins_eq (c := c) i with ⟨b, -, hlock, -⟩ | ⟨hrun, -⟩
    · exact hlock
    · rw [hrun]
      rfl
  have hnone : ∀ {i : TaskId} {l : Leg}, begins c i = .run l → ¬ l.Leading := by
    intro i l hi hl
    rw [hfresh hi] at hl
    exact hl
  refine ⟨⟨?_, ?_⟩, helpers_begin, ?_, fun {i} => ?_⟩
  · rw [hlock]
    exact Tunnel.Line.nil
  · rw [hlock]
    refine Tunnel.Guards.of_outside ⟨trivial, ⟨?_, fun hq => nomatch hq⟩⟩
    rintro n ⟨before, i, output, after, htr, -⟩
    exact absurd htr.symm (by simp)
  · refine ⟨fun _ => ⟨rfl, rfl⟩, fun hi hl => absurd hl (hnone hi),
      fun hi hl => absurd hl (hnone hi), fun hi => absurd hi List.not_mem_nil, fun hi => ?_,
      fun hi hl => absurd hl (hnone hi), ?_⟩
    · rw [hfresh hi]
      exact fun e he => absurd he List.not_mem_nil
    · exact iff_of_false (fun he => nomatch he) fun ⟨k, hk⟩ => absurd hk List.not_mem_nil
  · rcases begins_eq (c := c) i with ⟨b, hb, -, hlt⟩ | ⟨hrun, hle⟩
    · exact iff_of_false (fun ⟨l, hl⟩ => nomatch hl.symm.trans hb) (Nat.not_le_of_lt hlt)
    · exact iff_of_true ⟨_, hrun⟩ hle

/-- The invariant holds in every run. -/
theorem Lived.invariant {s : System interface (State σ) Result} (h : Lived c around w tr s) :
    ∃ ph, Living c tr s.state ph ∧ s.Keeps (living c) Ends (Stage.run .fresh) ph := by
  refine System.Runs.keeps (P := living c) (Living c) (fun hx => plausible_of_answer hx)
    system_keeps living_begin (fun _ hinv hstep hx => hinv.step hstep hx) ?_ ?_ h
  · rintro _ rfl
    exact running_keeps
  · rintro tr u _ ph hinv (⟨v, rfl⟩ | rfl)
    · exact ⟨hinv.guarded, hinv.helpers, hinv.led, hinv.runs⟩
    · exact ⟨hinv.guarded, hinv.helpers, hinv.led, hinv.runs⟩

/-! ## What becomes of the runs -/

/-- Once the run that leads is gone, nobody has to do with the lock. -/
theorem Living.lock_of_gone {e : Tunnel.Ending} (h : Living c tr u ph) (hi : ph i = .run (.gone e))
    (j : TaskId) : (ph j).lock = .outside := by
  obtain ⟨-, hdone, -⟩ := h.led.fits hi
  cases hj : ph j with
  | aside b =>
      have hidle := h.helpers.idle hdone.served hdone.left j
      rw [hj] at hidle
      cases b with
      | part => exact nomatch hidle
      | _ => rfl
  | run l =>
      cases l with
      | adding | clearing =>
          -- only a run that leads is ever inside, and that is the one that is gone
          have hji := h.led.unique hi trivial hj trivial
          rw [hji, hi] at hj
          exact nomatch hj
      | _ => rfl

/-- Once the run that leads is gone, there is no peer left, and no route stands. -/
theorem Living.clean_of_gone {e : Tunnel.Ending} (h : Living c tr u ph)
    (hi : ph i = .run (.gone e)) : u.server.table.networks = [] ∧ ∀ n, ¬ Standing tr n := by
  obtain ⟨-, -, htable⟩ := h.led.fits hi
  refine ⟨List.eq_nil_iff_forall_not_mem.mpr fun n => ?_, fun n hn => ?_⟩
  · exact RouteTable.not_mem_networks_iff.mpr (htable n)
  · have hfree : Shielded tr u.server.table .outside := by
      refine h.guarded.shielded.outside fun j hj => ?_
      rw [h.lock_of_gone hi j] at hj
      exact hj
    exact hfree.covered.mem hn (fun heq => nomatch heq) (htable n)

/-- A program that may not ask for anything is done. -/
theorem ended_of_stuck {p : Work Result} {q : Stage} (h : p.Keeps (living c) Ends q)
    (hstuck : ∀ r x q', ¬ Course c q r x q') : ∃ a, p = .done a ∧ Ends q a := by
  cases p with
  | done a => exact ⟨a, rfl, h⟩
  | ask r next =>
      obtain ⟨x, hx⟩ := exists_plausible r
      obtain ⟨q', hstep, -⟩ := h x hx
      exact absurd hstep (hstuck r x q')

/-- What the run of the given number has returned. -/
def returned? (s : System interface (State σ) Result) (i : TaskId) :
    Option (Except AgentError Unit) :=
  match s.tasks[i]?.bind Task.result? with
  | some (.ran r) => some r
  | _ => none

theorem returned?_of_done {s : System interface (State σ) Result} {r : Except AgentError Unit}
    (h : s.tasks[i]? = some (.once (.done (.ran r)))) : returned? s i = some r := by
  unfold returned?
  rw [h]
  rfl

theorem exists_of_returned? {s : System interface (State σ) Result} {r : Except AgentError Unit}
    (h : returned? s i = some r) : ∃ a, s.tasks[i]? = some a ∧ a.result? = some (.ran r) := by
  unfold returned? at h
  split at h
  · rename_i r' hr'
    cases h
    exact Option.bind_eq_some_iff.mp hr'
  · exact nomatch h

namespace Lived

variable {s : System interface (State σ) Result}

/-- A run of the agent that has begun is on its leg. -/
theorem program_at (h : Lived c around w tr s)
    (hk : s.Keeps (living c) Ends (Stage.run .fresh) ph) (hi : (launchable c).length ≤ i)
    (hlt : i < s.tasks.length) :
    ∃ p, s.tasks[i]? = some (.once p) ∧ p.Keeps (living c) Ends (ph i) := by
  have ha := List.getElem?_eq_getElem hlt
  have honce : ∃ p, s.tasks[i] = .once p := by
    refine System.Runs.once_at h (fun hs => ?_) ?_ ha
    · exact absurd (System.Keeps.lt_length hs) (Nat.not_lt_of_le hi)
    · rintro _ rfl
      exact ⟨_, rfl⟩
  obtain ⟨p, hp⟩ := honce
  rw [hp] at ha
  exact ⟨p, ha, hk.task ha⟩

/-- A run that may not ask for anything has returned. -/
theorem returned_of_stuck (h : Lived c around w tr s)
    (hk : s.Keeps (living c) Ends (Stage.run .fresh) ph) (hi : (launchable c).length ≤ i)
    (hlt : i < s.tasks.length) {l : Leg} (hl : ph i = .run l)
    (hstuck : ∀ r x l', ¬ l.Step c r x l') :
    ∃ r, returned? s i = some r ∧ Ends (.run l) (.ran r) := by
  obtain ⟨p, hp, hkeeps⟩ := h.program_at hk hi hlt
  rw [hl] at hkeeps
  obtain ⟨a, rfl, ha⟩ := ended_of_stuck hkeeps fun r x q' hq => by
    cases hq with
    | run hrun => exact hstuck r x _ hrun
  cases a with
  | ran r => exact ⟨r, returned?_of_done hp, ha⟩
  | _ => cases l <;> exact ha.elim

/-- A run that has done nothing yet asks for the right to run and ends when it is refused. -/
theorem fresh_program {p : Work Result} (h : p.Keeps (living c) Ends (Stage.run .fresh)) :
    ∃ next : Bool → Work Result,
      p = .ask .claim next ∧ next false = .done (.ran (.error .alreadyRunning)) := by
  cases p with
  | done a => cases a <;> exact h.elim
  | ask r next =>
      obtain ⟨x, hx⟩ := exists_plausible r
      obtain ⟨q', hstep, -⟩ := h x hx
      cases hstep with
      | run hrun =>
          obtain rfl : r = .claim := by cases hrun <;> rfl
          obtain ⟨q, hrefused, hnext⟩ := h false trivial
          cases hrefused with
          | run hreject =>
              cases hreject
              have hstuck : ∀ r x q', ¬ Course c (.run .rejected) r x q' := by
                intro r x q' hq
                cases hq with
                | run hrun => exact nomatch hrun
              obtain ⟨a, ha, hends⟩ := ended_of_stuck hnext hstuck
              cases a with
              | ran r => exact ⟨next, rfl, hends ▸ ha⟩
              | _ => exact hends.elim

theorem answer_claim (h : u.claimed = true) : u.answer around id .claim = some (false, u) := by
  cases u
  cases h
  rfl

/-- Once the right to run is gone, a run that asks for it is refused and changes nothing. -/
theorem refusal {next : Bool → Work Result} {j : TaskId} (hclaimed : s.state.claimed = true)
    (hj : s.tasks[j]? = some (.once (.ask .claim next)))
    (hnext : next false = .done (.ran (.error .alreadyRunning))) :
    ∃ u, s.step (State.machine around) j = some u ∧ u.state = s.state ∧
      returned? u j = some (.error .alreadyRunning) := by
  have hanswer : s.state.answer around j .claim = some (false, s.state) := answer_claim hclaimed
  have hasks : (Task.once (.ask .claim next) : Task interface Result).Asks .claim
      fun x => .once (next x) := Task.Asks.once (I := interface) Request.claim next
  have hstep : (Task.once (.ask .claim next) : Task interface Result).step (State.machine around) j
      s.state = some (.once (next false), s.state) := hasks.step hanswer
  refine ⟨_, System.step_of_task hj hstep, rfl, ?_⟩
  refine returned?_of_done ?_
  rw [hnext]
  exact List.getElem?_set_self (System.Keeps.lt_length hj)

/-- All runs but the one that leads are refused, or will be as soon as they ask. -/
theorem refused (h : Lived c around w tr s) (hinv : Living c tr s.state ph)
    (hk : s.Keeps (living c) Ends (Stage.run .fresh) ph) {l : Leg} (hi : ph i = .run l)
    (hl : l.Leading) {j : TaskId} (hj : (launchable c).length ≤ j) (hlt : j < s.tasks.length)
    (hne : j ≠ i) :
    (∀ y ∈ tr, y.task = j → y = ⟨j, .claim, false⟩) ∧
      (returned? s j = some (.error .alreadyRunning) ∨
        ∃ u, s.step (State.machine around) j = some u ∧ u.state = s.state ∧
          returned? u j = some (.error .alreadyRunning)) := by
  obtain ⟨l', hl'⟩ := hinv.runs.mpr hj
  have hfits := hinv.led.fits hl'
  cases l' with
  | fresh =>
      refine ⟨fun y hy hyj => absurd hyj (hfits y hy), Or.inr ?_⟩
      obtain ⟨p, hp, hkeeps⟩ := h.program_at hk hj hlt
      rw [hl'] at hkeeps
      obtain ⟨next, rfl, hnext⟩ := fresh_program hkeeps
      exact refusal (hinv.led.claimed hi hl) hp hnext
  | rejected =>
      refine ⟨hfits, Or.inl ?_⟩
      obtain ⟨r, hr, rfl⟩ := h.returned_of_stuck hk hj hlt hl' fun r x l' hstep => nomatch hstep
      exact hr
  | _ => exact absurd (hinv.led.unique hi hl hl' trivial) hne

/-- **The life of an agent.**  Let a run have got the right to run.  If there is no address to
    watch, or the listen socket or the registration is refused, the run has returned this
    error, without a route command and without touching the registry.  If the edge was
    registered, then once the run has returned, the table is empty and no route stands; the
    edge was unregistered once, and nothing but the right to run was asked for after that;
    and the run has returned the ending of the tunnel server.  Every other run asks for the
    right to run, is refused, and changes nothing. -/
theorem lifecycle (h : Lived c around w tr s) (hi : ⟨i, .claim, true⟩ ∈ tr) :
    (∀ e, Fails c tr e →
        returned? s i = some (.error e) ∧ ∀ y ∈ tr, ¬ Commands y ∧ ¬ Unregisters y) ∧
      (∀ r, (∃ y ∈ tr, registers y) → returned? s i = some r →
        s.state.server.table.networks = [] ∧ (∀ n, ¬ Standing tr n) ∧ Parted c i tr ∧
          ∃ k e, ⟨k, .served e, ()⟩ ∈ tr ∧ (∀ k' e', ⟨k', .served e', ()⟩ ∈ tr → e' = e) ∧
            r = verdict e) ∧
      ∀ j, (launchable c).length ≤ j → j < s.tasks.length → j ≠ i →
        (∀ y ∈ tr, y.task = j → y = ⟨j, .claim, false⟩) ∧
          (returned? s j = some (.error .alreadyRunning) ∨
            ∃ u, s.step (State.machine around) j = some u ∧ u.state = s.state ∧
              returned? u j = some (.error .alreadyRunning)) := by
  obtain ⟨ph, hinv, hk⟩ := h.invariant
  obtain ⟨l, hl, hlead⟩ := hinv.led.granted hi
  have hfits := hinv.led.fits hl
  refine ⟨fun e he => ?_, fun r hregistered hr => ?_, fun j hj hlt hne => ?_⟩
  · cases hinv.led.fails hl hlead he
    refine ⟨?_, fun y hy => ⟨(hfits.none y hy).1, (hfits.none y hy).2.1⟩⟩
    -- a task that has not begun would still be fresh
    have hlt : i < s.tasks.length := by
      by_contra hge
      exact nomatch (hk.rest (Nat.le_of_not_lt hge)).symm.trans hl
    obtain ⟨r, hr, rfl⟩ := h.returned_of_stuck hk (hinv.runs.mp ⟨_, hl⟩) hlt hl
      fun r x l' hstep => nomatch hstep
    exact hr
  · obtain ⟨a, ha, hresult⟩ := exists_of_returned? hr
    have hends := (hk.task ha).ends hresult
    -- a run with a result was refused, has failed or is gone, and this one leads and is registered
    rw [hl] at hends
    cases l with
    | failed e =>
        obtain ⟨y, hy, hregisters⟩ := hregistered
        exact absurd hregisters (hfits.none y hy).2.2
    | gone e =>
        obtain ⟨hempty, hroutes⟩ := hinv.clean_of_gone hl
        obtain ⟨hparted, hdone, -⟩ := hfits
        obtain ⟨k, hk⟩ := hinv.led.told.mp hdone.served
        refine ⟨hempty, hroutes, hparted, k, e, hk, fun k' e' hk' => ?_, hends⟩
        exact Option.some.inj ((hinv.led.told.mpr ⟨k', hk'⟩).symm.trans hdone.served)
    | fresh | rejected => exact hlead.elim
    | _ => exact hends.elim
  · exact refused h hinv hk hl hlead hj hlt hne

end Lived

/-- The surroundings of a scene whose controller names one other host. -/
def oneHostAround : Around AgentScene :=
  { sceneAround with register := fun _ w => some (.ok [⟨"192.0.2.1:7000", "10.1.0.0/16"⟩], w) }

/-- Does the exchange give the task the right to run? -/
def grants (i : TaskId) : Exchange interface → Bool
  | ⟨j, .claim, true⟩ => j = i
  | _ => false

theorem eq_of_grants {i : TaskId} {e : Exchange interface} (h : grants i e = true) :
    e = ⟨i, .claim, true⟩ := by
  unfold grants at h
  split at h
  · rw [of_decide_eq_true h]
  · cases h

/-- The device is closed, so that the tunnel server ends by itself; until then a host of the
    overlay was added, and a second run was refused. -/
theorem lifecycle_of_closed_device :
    ∃ (c : Config) (w : AgentScene) (tr : _) (s : _) (i j : TaskId) (r : _),
      Lived c oneHostAround w tr s ∧ ⟨i, .claim, true⟩ ∈ tr ∧ (∃ y ∈ tr, registers y) ∧
        returned? s i = some r ∧ s.state.server.table.networks = [] ∧ (∀ n, ¬ Standing tr n) ∧
        Parted c i tr ∧ j ≠ i ∧ ∀ y ∈ tr, y.task = j → y = ⟨j, .claim, false⟩ := by
  let c : Config :=
    { tunnel := ⟨.v4 (.ofOctets 0 0 0 0) 7000, "loom0", ⟨.ofOctets 10 0 0 1, 24, by decide⟩, 1400⟩
      registry := ⟨⟨"http".toList, some { host := .name "registry".toList }, .segments [[]],
        none, none⟩, "edge-a", "198.51.100.1:7000"⟩
      routes := .iproute2
      bridge := ⟨3, 200, 60⟩
      log := ⟨"info", false⟩ }
  let w : AgentScene := ({}, { reach := .everything, device := .scripted { closed := true } })
  let start : System interface (State AgentScene) Result :=
    ⟨(system c w).state, (system c w).tasks ++ [running c, running c]⟩
  -- the first run up to the launch, the second run, the helpers to their ends, and the first
  -- run again
  let order : List TaskId := List.replicate 14 6 ++ [7, 1, 1, 2, 2, 0, 0, 2, 2, 6, 6, 6] ++
    [3, 3, 4, 4, 5, 5, 5] ++ List.replicate 11 6
  have hfinds : (start.play (State.machine oneHostAround) order).any (fun p =>
      p.1.any (grants 6) && p.1.any registers && (returned? p.2 6).isSome &&
        decide (7 < p.2.tasks.length ∧ (launchable c).length ≤ 7)) = true := by
    decide +kernel
  obtain ⟨⟨tr, s⟩, hplay, hfacts⟩ := (Option.any_eq_true _ _).mp hfinds
  simp only [Bool.and_eq_true] at hfacts
  obtain ⟨⟨⟨hgrants, hregisters⟩, hreturned⟩, hbounds⟩ := hfacts
  have hmade : Lived c oneHostAround w [] start := by
    refine System.Runs.spawnAll .refl fun a ha => ?_
    exact List.eq_of_mem_replicate (n := 2) ha
  have hrun : Lived c oneHostAround w tr s := hmade.play hplay
  have hclaim : ⟨6, .claim, true⟩ ∈ tr := by
    obtain ⟨e, he, hgrant⟩ := List.any_eq_true.mp hgrants
    exact eq_of_grants hgrant ▸ he
  have hregistered : ∃ y ∈ tr, registers y := List.any_eq_true.mp hregisters
  obtain ⟨r, hr⟩ := Option.isSome_iff_exists.mp hreturned
  obtain ⟨hlt, hle⟩ := of_decide_eq_true hbounds
  obtain ⟨-, hend, hothers⟩ := Lived.lifecycle hrun hclaim
  obtain ⟨hempty, hroutes, hparted, -⟩ := hend r hregistered hr
  exact ⟨c, w, tr, s, 6, 7, r, hrun, hclaim, hregistered, hr, hempty, hroutes, hparted, by decide,
    (hothers 7 hle hlt (by decide)).1⟩

end Overlay.Agent.Lifecycle
