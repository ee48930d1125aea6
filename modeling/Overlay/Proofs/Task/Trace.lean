import Overlay.Task.Program

/-!
# What the tasks of a system have asked

`System.Reaches` says which states a system can come to.  Statements about the order of
events need more: which task asked for what, and what it was answered.  `System.Runs` is
the same relation with that written down, as a list of exchanges, the oldest first.

* `reaches_iff_runs`: the written record forbids nothing and adds nothing.
* `Runs.split`: every exchange of a run was made in a state that the run had come to.
* `Runs.invariant` and `Runs.simulate`: what every step keeps holds in every run, and tasks run
  on one machine as on another when every answer is the same.
* `System.play` lets the tasks take their steps in a given order, which is one run of many
  (`Runs.play`).  A task that asks for something in each of its runs cannot be played for long
  without a request of it (`play_count_le`).
-/

namespace Overlay

variable {I : Interface} {σ α : Type}

/-- One request of a task and the answer that it got. -/
structure Exchange (I : Interface) where
  /-- The task that asked. -/
  task : TaskId
  /-- What it asked for. -/
  request : I.Request
  /-- What it was answered. -/
  answer : I.Answer request

/-- The task asks for `r` next; `resume` is what is left of it after the answer. -/
inductive Task.Asks : Task I α → (r : I.Request) → (I.Answer r → Task I α) → Prop where
  | once (r : I.Request) (next : I.Answer r → Program I α) :
      Asks (.once (.ask r next)) r fun x => .once (next x)
  | forever (body : Program I (Option α)) (r : I.Request)
      (next : I.Answer r → Program I (Option α)) :
      Asks (.forever body (.ask r next)) r fun x => .forever body (next x)

/-- What the task asks for next. -/
def Task.request? : Task I α → Option I.Request
  | once (.ask r _) => some r
  | forever _ (.ask r _) => some r
  | _ => none

theorem Task.asks_of_request? {a : Task I α} {r : I.Request} (h : a.request? = some r) :
    ∃ resume, a.Asks r resume := by
  match a, h with
  | .once (.ask _ next), rfl => exact ⟨_, .once r next⟩
  | .forever body (.ask _ next), rfl => exact ⟨_, .forever body r next⟩

/-- A task that has ended asks for nothing. -/
theorem Task.Asks.result?_eq_none {a : Task I α} {r : I.Request}
    {resume : I.Answer r → Task I α} (h : a.Asks r resume) : a.result? = none := by
  cases h <;> rfl

/-- A task asks for one thing at a time. -/
theorem Task.Asks.request_eq {a : Task I α} {r r' : I.Request} {resume : I.Answer r → Task I α}
    {resume' : I.Answer r' → Task I α} (h : a.Asks r resume) (h' : a.Asks r' resume') :
    r = r' := by
  cases h <;> cases h' <;> rfl

/-- A step of a task is an exchange, or the beginning of the next run of a program
    that has given no result. -/
theorem Task.step_eq_some {m : Machine I σ} {id : TaskId} {a a' : Task I α} {s s' : σ}
    (h : a.step m id s = some (a', s')) :
    (∃ r resume x, a.Asks r resume ∧ m.answer id r s = some (x, s') ∧ a' = resume x) ∨
      (∃ body, a = .forever body (.done none) ∧ a' = .loop body ∧ s' = s) := by
  cases a with
  | once now =>
      cases now with
      | done a => exact nomatch h
      | ask r next =>
          obtain ⟨⟨p, u⟩, hp, heq⟩ := Option.map_eq_some_iff.mp h
          obtain ⟨⟨x, v⟩, hx, hxp⟩ := Option.map_eq_some_iff.mp hp
          cases hxp
          cases heq
          exact Or.inl ⟨r, _, x, .once r next, hx, rfl⟩
  | forever body now =>
      cases now with
      | done a =>
          cases a with
          | none =>
              cases h
              exact Or.inr ⟨body, rfl, rfl, rfl⟩
          | some a => exact nomatch h
      | ask r next =>
          obtain ⟨⟨p, u⟩, hp, heq⟩ := Option.map_eq_some_iff.mp h
          obtain ⟨⟨x, v⟩, hx, hxp⟩ := Option.map_eq_some_iff.mp hp
          cases hxp
          cases heq
          exact Or.inl ⟨r, _, x, .forever body r next, hx, rfl⟩

/-- The converse: an exchange that a machine allows is a step. -/
theorem Task.Asks.step {m : Machine I σ} {id : TaskId} {a : Task I α} {r : I.Request}
    {resume : I.Answer r → Task I α} {x : I.Answer r} {s s' : σ}
    (h : a.Asks r resume) (hx : m.answer id r s = some (x, s')) :
    a.step m id s = some (resume x, s') := by
  cases h with
  | once r next => simp only [Task.step, Program.step, hx, Option.map_some]
  | forever body r next => simp only [Task.step, Program.step, hx, Option.map_some]

/-- A task has ended, asks for something, or begins its next run. -/
theorem Task.ended_or_goes_on (a : Task I α) :
    (∃ y, a.result? = some y) ∨ (∃ r resume, a.Asks r resume) ∨
      ∃ body, a = .forever body (.done none) := by
  match a with
  | .once (.done y) => exact Or.inl ⟨y, rfl⟩
  | .once (.ask r next) => exact Or.inr (Or.inl ⟨r, _, .once r next⟩)
  | .forever body (.done (some y)) => exact Or.inl ⟨y, rfl⟩
  | .forever body (.done none) => exact Or.inr (Or.inr ⟨body, rfl⟩)
  | .forever body (.ask r next) => exact Or.inr (Or.inl ⟨r, _, .forever body r next⟩)

/-! ## Machines that take notes -/

/-- The machine with a note beside its state, which every exchange may change. -/
def Machine.noting {γ : Type} (m : Machine I σ) (note : Exchange I → σ → γ → γ) :
    Machine I (σ × γ) where
  answer id r s := (m.answer id r s.1).map fun (x, state) => (x, state, note ⟨id, r, x⟩ s.1 s.2)

/-- What the machine answers does not depend on the note. -/
theorem Machine.answer_noting {γ : Type} {m : Machine I σ} {note : Exchange I → σ → γ → γ}
    {id : TaskId} {r : I.Request} {x : I.Answer r} {s s' : σ × γ}
    (h : (m.noting note).answer id r s = some (x, s')) :
    m.answer id r s.1 = some (x, s'.1) ∧ s'.2 = note ⟨id, r, x⟩ s.1 s.2 := by
  obtain ⟨⟨y, state⟩, hy, heq⟩ := Option.map_eq_some_iff.mp h
  cases heq
  exact ⟨hy, rfl⟩

namespace System

/-- The states that a system can come to, with the exchanges that led there: tasks take
    their steps in any order, further tasks may begin, and the state may change by itself. -/
inductive Runs (m : Machine I σ) (starts : Task I α → Prop) (moves : σ → σ → Prop)
    (s : System I σ α) : List (Exchange I) → System I σ α → Prop where
  /-- Nothing has happened. -/
  | refl : Runs m starts moves s [] s
  /-- A task has asked and been answered. -/
  | ask {tr : List (Exchange I)} {t : System I σ α} {id : TaskId} {a : Task I α}
      {r : I.Request} {resume : I.Answer r → Task I α} {x : I.Answer r} {state : σ} :
      Runs m starts moves s tr t → t.tasks[id]? = some a → a.Asks r resume →
        m.answer id r t.state = some (x, state) →
        Runs m starts moves s (tr ++ [⟨id, r, x⟩]) ⟨state, t.tasks.set id (resume x)⟩
  /-- A task that runs a program again and again has begun its next run. -/
  | again {tr : List (Exchange I)} {t : System I σ α} {id : TaskId}
      {body : Program I (Option α)} :
      Runs m starts moves s tr t → t.tasks[id]? = some (.forever body (.done none)) →
        Runs m starts moves s tr ⟨t.state, t.tasks.set id (.loop body)⟩
  /-- A task has begun. -/
  | spawn {tr : List (Exchange I)} {t : System I σ α} {a : Task I α} :
      Runs m starts moves s tr t → starts a → Runs m starts moves s tr (t.spawn a)
  /-- Something has happened outside of the tasks. -/
  | move {tr : List (Exchange I)} {t : System I σ α} {state : σ} :
      Runs m starts moves s tr t → moves t.state state →
        Runs m starts moves s tr { t with state }

variable {m : Machine I σ} {starts : Task I α → Prop} {moves : σ → σ → Prop}
  {s t : System I σ α} {tr : List (Exchange I)}

/-- A step of a system is the step of one of its tasks. -/
theorem step_eq_some {id : TaskId} {u : System I σ α} (h : t.step m id = some u) :
    ∃ a a' state, t.tasks[id]? = some a ∧ a.step m id t.state = some (a', state) ∧
      u = ⟨state, t.tasks.set id a'⟩ := by
  unfold System.step at h
  cases ha : t.tasks[id]? with
  | none => rw [ha] at h; exact nomatch h
  | some a =>
      rw [ha] at h
      obtain ⟨⟨a', state⟩, hstep, heq⟩ := Option.map_eq_some_iff.mp h
      exact ⟨a, a', state, rfl, hstep, heq.symm⟩

theorem step_of_task {id : TaskId} {a a' : Task I α} {state : σ}
    (ha : t.tasks[id]? = some a) (h : a.step m id t.state = some (a', state)) :
    t.step m id = some ⟨state, t.tasks.set id a'⟩ := by
  unfold System.step
  rw [ha]
  simp only [h, Option.map_some]

/-- A task whose request is answered can take a step. -/
theorem exists_step_of_answer {id : TaskId} {a : Task I α} {r : I.Request}
    {resume : I.Answer r → Task I α} (ha : t.tasks[id]? = some a) (hasks : a.Asks r resume)
    (hx : ∃ x state, m.answer id r t.state = some (x, state)) : ∃ u, t.step m id = some u := by
  obtain ⟨x, state, hx⟩ := hx
  exact ⟨_, step_of_task ha (hasks.step hx)⟩

/-- A task that begins its next run can take a step. -/
theorem exists_step_of_again {id : TaskId} {body : Program I (Option α)}
    (ha : t.tasks[id]? = some (.forever body (.done none))) : ∃ u, t.step m id = some u :=
  ⟨_, step_of_task ha rfl⟩

/-- A machine that answers all that another one does lets the tasks take the same steps. -/
theorem step_of_machine {n : Machine I σ} {id : TaskId} {u : System I σ α}
    (hanswer : ∀ {r x state state'}, n.answer id r state = some (x, state') →
      m.answer id r state = some (x, state'))
    (h : t.step n id = some u) : t.step m id = some u := by
  obtain ⟨a, a', state, ha, hstep, rfl⟩ := step_eq_some h
  rcases Task.step_eq_some hstep with ⟨r, resume, x, hasks, hx, rfl⟩ | ⟨body, rfl, rfl, rfl⟩
  · exact step_of_task ha (hasks.step (hanswer hx))
  · exact step_of_task ha rfl

/-- What is reached is reached through exchanges. -/
theorem Reaches.runs (h : Reaches m starts moves s t) : ∃ tr, Runs m starts moves s tr t := by
  induction h with
  | refl => exact ⟨[], .refl⟩
  | step _ hstep ih =>
      obtain ⟨tr, hrun⟩ := ih
      obtain ⟨a, a', state, ha, hastep, rfl⟩ := step_eq_some hstep
      rcases Task.step_eq_some hastep with ⟨r, resume, x, hasks, hx, rfl⟩ | ⟨body, rfl, rfl, rfl⟩
      · exact ⟨_, .ask hrun ha hasks hx⟩
      · exact ⟨tr, .again hrun ha⟩
  | spawn _ ha ih =>
      obtain ⟨tr, hrun⟩ := ih
      exact ⟨tr, .spawn hrun ha⟩
  | move _ hmove ih =>
      obtain ⟨tr, hrun⟩ := ih
      exact ⟨tr, .move hrun hmove⟩

/-- A run leads to a state that is reached. -/
theorem Runs.reaches (h : Runs m starts moves s tr t) : Reaches m starts moves s t := by
  induction h with
  | refl => exact .refl s
  | ask _ ha hasks hx ih => exact .step ih (step_of_task ha (hasks.step hx))
  | again _ ha ih => exact .step ih (step_of_task ha rfl)
  | spawn _ ha ih => exact .spawn ih ha
  | move _ hmove ih => exact .move ih hmove

/-- **Writing the exchanges down changes nothing**: a state is reached exactly when some
    list of exchanges leads to it. -/
theorem reaches_iff_runs : Reaches m starts moves s t ↔ ∃ tr, Runs m starts moves s tr t :=
  ⟨Reaches.runs, fun ⟨_, h⟩ => h.reaches⟩

/-- A run goes on from where it has come to. -/
theorem Runs.trans {tr' : List (Exchange I)} {u : System I σ α} (h : Runs m starts moves s tr t)
    (h' : Runs m starts moves t tr' u) : Runs m starts moves s (tr ++ tr') u := by
  induction h' with
  | refl =>
      rw [List.append_nil]
      exact h
  | ask _ ha hasks hx ih =>
      rw [← List.append_assoc]
      exact .ask ih ha hasks hx
  | again _ ha ih => exact .again ih ha
  | spawn _ ha ih => exact .spawn ih ha
  | move _ hmove ih => exact .move ih hmove

/-- What holds at first and is kept by every exchange and by every change from outside holds in
    every run. -/
theorem Runs.invariant (Inv : List (Exchange I) → σ → Prop) (hinit : Inv [] s.state)
    (hask : ∀ {tr u u' id r x}, Inv tr u → m.answer id r u = some (x, u') →
      Inv (tr ++ [⟨id, r, x⟩]) u')
    (hmove : ∀ {tr u u'}, Inv tr u → moves u u' → Inv tr u') (h : Runs m starts moves s tr t) :
    Inv tr t.state := by
  induction h with
  | refl => exact hinit
  | ask _ _ _ hx ih => exact hask ih hx
  | again _ _ ih => exact ih
  | spawn _ _ ih => exact ih
  | move _ hmv ih => exact hmove ih hmv

/-- **Simulation.**  When every answer of one machine is an answer of another one in related
    states, and every change from outside is one there or changes nothing, then the tasks can
    run on the other machine as they have run on the first, with the same exchanges. -/
theorem Runs.simulate {τ : Type} {n : Machine I τ} {moves' : τ → τ → Prop} (R : σ → τ → Prop)
    (hask : ∀ {u u' v id r x}, R u v → m.answer id r u = some (x, u') →
      ∃ v', n.answer id r v = some (x, v') ∧ R u' v')
    (hmove : ∀ {u u' v}, R u v → moves u u' → ∃ v', (v' = v ∨ moves' v v') ∧ R u' v')
    (h : Runs m starts moves s tr t) {v : τ} (hv : R s.state v) :
    ∃ v', R t.state v' ∧ Runs n starts moves' ⟨v, s.tasks⟩ tr ⟨v', t.tasks⟩ := by
  induction h with
  | refl => exact ⟨v, hv, .refl⟩
  | ask _ ha hasks hx ih =>
      obtain ⟨u, hu, hrun⟩ := ih
      obtain ⟨u', hx', hu'⟩ := hask hu hx
      exact ⟨u', hu', .ask hrun ha hasks hx'⟩
  | again _ ha ih =>
      obtain ⟨u, hu, hrun⟩ := ih
      exact ⟨u, hu, .again hrun ha⟩
  | spawn _ ha ih =>
      obtain ⟨u, hu, hrun⟩ := ih
      exact ⟨u, hu, .spawn hrun ha⟩
  | move _ hmv ih =>
      obtain ⟨u, hu, hrun⟩ := ih
      obtain ⟨u', hsame | hmv', hu'⟩ := hmove hu hmv
      · exact ⟨u', hu', hsame ▸ hrun⟩
      · exact ⟨u', hu', .move hrun hmv'⟩

/-- A list that ends in one more element, cut at one of its elements: it is cut at the
    last one or before it. -/
theorem append_singleton_eq_cut {β : Type} {l before after : List β} {a e : β}
    (h : l ++ [a] = before ++ e :: after) :
    (l = before ∧ a = e ∧ after = []) ∨ ∃ init, after = init ++ [a] ∧ l = before ++ e :: init := by
  rcases List.eq_nil_or_concat after with hnil | ⟨init, last, hlast⟩
  · rw [hnil] at h
    obtain ⟨hl, ha⟩ := List.append_inj' h rfl
    exact Or.inl ⟨hl, List.singleton_inj.mp ha, hnil⟩
  · rw [List.concat_eq_append] at hlast
    rw [hlast, ← List.cons_append, ← List.append_assoc] at h
    obtain ⟨hl, ha⟩ := List.append_inj' h rfl
    exact Or.inr ⟨init, by rw [hlast, List.singleton_inj.mp ha], hl⟩

/-- What is true of all elements of a list and of one more is true of all of them. -/
theorem forall_mem_concat {β : Type} {p : β → Prop} {l : List β} {a : β} (h : ∀ b ∈ l, p b)
    (ha : p a) : ∀ b ∈ l ++ [a], p b :=
  List.forall_mem_append.mpr ⟨h, List.forall_mem_singleton.mpr ha⟩

/-- Every exchange of a run was made in a state that the run had come to before. -/
theorem Runs.split {before after : List (Exchange I)} {e : Exchange I}
    (h : Runs m starts moves s tr t) (htr : tr = before ++ e :: after) :
    ∃ u a resume state, Runs m starts moves s before u ∧ u.tasks[e.task]? = some a ∧
      a.Asks e.request resume ∧ m.answer e.task e.request u.state = some (e.answer, state) := by
  induction h generalizing after with
  | refl => exact absurd htr (by simp)
  | @ask tr t id a r resume x state hrun ha hasks hx ih =>
      -- the exchange is the one just made, or it was made before
      rcases append_singleton_eq_cut htr with ⟨rfl, rfl, -⟩ | ⟨init, -, hinit⟩
      · exact ⟨t, a, resume, state, hrun, ha, hasks, hx⟩
      · exact ih hinit
  | again _ _ ih => exact ih htr
  | spawn _ _ ih => exact ih htr
  | move _ _ ih => exact ih htr

/-- A task that has ended stays as it is and asks for nothing. -/
theorem Runs.of_result (h : Runs m starts moves s tr t) {id : TaskId} {a : Task I α} {y : α}
    (ha : s.tasks[id]? = some a) (hy : a.result? = some y) :
    t.tasks[id]? = some a ∧ ∀ e ∈ tr, e.task ≠ id := by
  induction h with
  | refl => exact ⟨ha, fun e he => absurd he List.not_mem_nil⟩
  | @ask tr t j b r resume x state _ hb hasks _ ih =>
      have hj : j ≠ id := by
        rintro rfl
        -- a task that asks has no result yet
        have hba : b = a := Option.some.inj (hb.symm.trans ih.1)
        exact nomatch (hba ▸ hasks.result?_eq_none).symm.trans hy
      refine ⟨?_, ?_⟩
      · rw [List.getElem?_set_ne hj]
        exact ih.1
      · intro e he
        rcases List.mem_append.mp he with he | he
        · exact ih.2 e he
        · rw [List.mem_singleton.mp he]
          exact hj
  | @again tr t j body _ hb ih =>
      have hj : j ≠ id := by
        rintro rfl
        have hba : .forever body (.done none) = a := Option.some.inj (hb.symm.trans ih.1)
        rw [← hba] at hy
        exact nomatch hy
      rw [List.getElem?_set_ne hj]
      exact ih
  | spawn _ _ ih =>
      exact ⟨(List.getElem?_append_left (List.getElem?_eq_some_iff.mp ih.1).1).trans ih.1, ih.2⟩
  | move _ _ ih => exact ih

/-- Several tasks may begin at once. -/
theorem Runs.spawnAll {as : List (Task I α)} (h : Runs m starts moves s tr t)
    (has : ∀ a ∈ as, starts a) : Runs m starts moves s tr ⟨t.state, t.tasks ++ as⟩ := by
  induction as generalizing t with
  | nil =>
      rw [List.append_nil]
      exact h
  | cons a as ih =>
      have hrest := ih (h.spawn (has a List.mem_cons_self)) fun b hb =>
        has b (List.mem_cons_of_mem a hb)
      rw [System.spawn, List.append_assoc] at hrest
      exact hrest

/-! ## Running the tasks in a given order -/

/-- Lets the task with the given number take a step: what it exchanged, and the system
    after it. -/
def exchange (m : Machine I σ) (s : System I σ α) (id : TaskId) :
    Option (List (Exchange I) × System I σ α) :=
  match s.tasks[id]? with
  | some (.once (.ask r next)) =>
    (m.answer id r s.state).map fun (x, state) =>
      ([⟨id, r, x⟩], ⟨state, s.tasks.set id (.once (next x))⟩)
  | some (.forever body (.ask r next)) =>
    (m.answer id r s.state).map fun (x, state) =>
      ([⟨id, r, x⟩], ⟨state, s.tasks.set id (.forever body (next x))⟩)
  | some (.forever body (.done none)) => some ([], ⟨s.state, s.tasks.set id (.loop body)⟩)
  | _ => none

/-- Lets tasks take their steps in the given order. -/
def play (m : Machine I σ) : List TaskId → System I σ α → Option (List (Exchange I) × System I σ α)
  | [], s => some ([], s)
  | id :: ids, s =>
    (s.exchange m id).bind fun (tr, t) => (t.play m ids).map fun (tr', u) => (tr ++ tr', u)

theorem Runs.exchange {id : TaskId} {tr' : List (Exchange I)} {u : System I σ α}
    (h : Runs m starts moves s tr t) (hu : t.exchange m id = some (tr', u)) :
    Runs m starts moves s (tr ++ tr') u := by
  unfold System.exchange at hu
  split at hu
  · rename_i r next ha
    obtain ⟨⟨x, state⟩, hx, heq⟩ := Option.map_eq_some_iff.mp hu
    cases heq
    exact .ask h ha (.once r next) hx
  · rename_i body r next ha
    obtain ⟨⟨x, state⟩, hx, heq⟩ := Option.map_eq_some_iff.mp hu
    cases heq
    exact .ask h ha (.forever body r next) hx
  · rename_i body ha
    cases hu
    rw [List.append_nil]
    exact .again h ha
  · exact nomatch hu

/-- Tasks that take their steps in a given order make a run. -/
theorem Runs.play {ids : List TaskId} {tr' : List (Exchange I)} {u : System I σ α}
    (h : Runs m starts moves s tr t) (hu : t.play m ids = some (tr', u)) :
    Runs m starts moves s (tr ++ tr') u := by
  induction ids generalizing t tr tr' with
  | nil =>
      cases hu
      rw [List.append_nil]
      exact h
  | cons id ids ih =>
      obtain ⟨⟨tr₁, v⟩, hv, hrest⟩ := Option.bind_eq_some_iff.mp hu
      obtain ⟨⟨tr₂, w⟩, hw, heq⟩ := Option.map_eq_some_iff.mp hrest
      cases heq
      rw [← List.append_assoc]
      exact ih (h.exchange hv) hw

/-! ## How many steps a task takes -/

/-- The steps that are left of a run of a program when it asks for nothing more: the next run has
    to begin. -/
def leftover : Program I (Option α) → Nat
  | .done _ => 1
  | .ask _ _ => 0

theorem leftover_le_one (now : Program I (Option α)) : leftover now ≤ 1 := by
  cases now with
  | done _ => exact Nat.le_refl 1
  | ask _ _ => exact Nat.zero_le 1

/-- The number of requests that a task has made. -/
def asked (id : TaskId) (tr : List (Exchange I)) : Nat := tr.countP fun e => e.task = id

theorem asked_append {id : TaskId} {tr' : List (Exchange I)} :
    asked id (tr ++ tr') = asked id tr + asked id tr' := List.countP_append

section Steps

variable {i j : TaskId} {body now : Program I (Option α)} {tr' : List (Exchange I)}
  {u : System I σ α} (hbody : leftover body = 0)
include hbody

/-- A step of a task that runs a program again and again is a request, or it begins the next
    run; the steps of the others are not its own. -/
theorem exchange_count_le (ha : t.tasks[i]? = some (.forever body now))
    (hu : t.exchange m j = some (tr', u)) :
    ∃ now', u.tasks[i]? = some (.forever body now') ∧
      [j].count i + leftover now' ≤ 2 * asked i tr' + leftover now := by
  have hlt : i < t.tasks.length := (List.getElem?_eq_some_iff.mp ha).1
  by_cases hji : j = i
  · subst hji
    rw [List.count_singleton_self]
    unfold System.exchange at hu
    rw [ha] at hu
    cases now with
    | ask r next =>
        obtain ⟨⟨x, state⟩, -, heq⟩ := Option.map_eq_some_iff.mp hu
        cases heq
        have hasked : asked j [(⟨j, r, x⟩ : Exchange I)] = 1 := by simp [asked]
        have hle := leftover_le_one (next x)
        exact ⟨next x, List.getElem?_set_self hlt, by omega⟩
    | done y =>
        cases y with
        | none =>
            cases hu
            refine ⟨body, List.getElem?_set_self hlt, ?_⟩
            rw [hbody]
            exact Nat.le_add_left 1 _
        | some y => exact nomatch hu
  · refine ⟨now, ?_, ?_⟩
    · unfold System.exchange at hu
      split at hu
      · obtain ⟨_, -, heq⟩ := Option.map_eq_some_iff.mp hu
        cases heq
        exact (List.getElem?_set_ne hji).trans ha
      · obtain ⟨_, -, heq⟩ := Option.map_eq_some_iff.mp hu
        cases heq
        exact (List.getElem?_set_ne hji).trans ha
      · cases hu
        exact (List.getElem?_set_ne hji).trans ha
      · exact nomatch hu
    · rw [List.count_singleton, if_neg (by simpa using hji), Nat.zero_add]
      exact Nat.le_add_left _ _

/-- **A task that asks for something in each of its runs** takes at most two steps for each of its
    requests, and one more. -/
theorem play_count_le {order : List TaskId} (ha : t.tasks[i]? = some (.forever body now))
    (hu : t.play m order = some (tr', u)) :
    order.count i ≤ 2 * asked i tr' + leftover now := by
  induction order generalizing t now tr' with
  | nil => exact Nat.zero_le _
  | cons j order ih =>
      obtain ⟨⟨tr₁, v⟩, hv, hrest⟩ := Option.bind_eq_some_iff.mp hu
      obtain ⟨⟨tr₂, w⟩, hw, heq⟩ := Option.map_eq_some_iff.mp hrest
      cases heq
      obtain ⟨now', ha', hstep⟩ := exchange_count_le hbody ha hv
      have hlater := ih ha' hw
      rw [← List.singleton_append, List.count_append, asked_append]
      omega

end Steps

end System

end Overlay
