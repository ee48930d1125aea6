import Mathlib.Data.List.Forall2
import Mathlib.Logic.Function.Basic
import Overlay.Proofs.Task.Trace

/-!
# Protocols that tasks keep

A protocol says which requests a task may make and when.  A task is always in one of the
protocol's phases; in each of them some requests may be made, and every answer that is
possible leads to a phase again.  Whether a program keeps a protocol can be read off the
program alone, without the tasks that run beside it (`Program.Keeps`), and what two
programs keep one after the other is kept by both together (`Keeps.bind`).

The machine comes in once, in `Runs.keeps`: an invariant over the trace, the shared state
and the phases of all tasks holds in every run when each single exchange preserves it.  A task
that is alone is in one phase (`Runs.keeps_one`), and two tasks may keep two protocols that know
nothing of each other (`Runs.keeps_two`).
-/

namespace Overlay

variable {I J : Interface} {σ α β : Type}

/-- Which requests may be made in which phase, and where their answers lead. -/
structure Protocol (I : Interface) where
  /-- How far a task has come. -/
  Phase : Type
  /-- The answers that a request can get. -/
  Possible : (r : I.Request) → I.Answer r → Prop
  /-- In the phase the request may be made, and the answer leads to the other phase. -/
  Step : Phase → (r : I.Request) → I.Answer r → Phase → Prop

namespace Program

/-- From the phase on, all that the program asks for is allowed, and when it is done the
    result fits the phase that it is done in. -/
def Keeps (P : Protocol I) (Ends : P.Phase → α → Prop) : Program I α → P.Phase → Prop
  | done a, ph => Ends ph a
  | ask r next, ph => ∀ x, P.Possible r x → ∃ ph', P.Step ph r x ph' ∧ (next x).Keeps P Ends ph'

variable {P : Protocol I}

theorem Keeps.mono {Ends Ends' : P.Phase → α → Prop} (hends : ∀ ph a, Ends ph a → Ends' ph a)
    {p : Program I α} {ph : P.Phase} (h : p.Keeps P Ends ph) : p.Keeps P Ends' ph := by
  induction p generalizing ph with
  | done a => exact hends ph a h
  | ask r next ih =>
      intro x hx
      obtain ⟨ph', hstep, hnext⟩ := h x hx
      exact ⟨ph', hstep, ih x hnext⟩

/-- One program after the other: the second starts in the phase that the first is done in. -/
theorem Keeps.bind {Ends : P.Phase → β → Prop} {f : α → Program I β} {p : Program I α}
    {ph : P.Phase} (h : p.Keeps P (fun ph a => (f a).Keeps P Ends ph) ph) :
    (p >>= f).Keeps P Ends ph := by
  induction p generalizing ph with
  | done a => exact h
  | ask r next ih =>
      intro x hx
      obtain ⟨ph', hstep, hnext⟩ := h x hx
      exact ⟨ph', hstep, ih x hnext⟩

theorem Keeps.map {Ends : P.Phase → β → Prop} {f : α → β} {p : Program I α}
    {ph : P.Phase} (h : p.Keeps P (fun ph a => Ends ph (f a)) ph) :
    (f <$> p).Keeps P Ends ph :=
  Keeps.bind h

/-- One program after the other in another interface. -/
theorem lift_bind {request : I.Request → J.Request}
    {answer : ∀ r, J.Answer (request r) → I.Answer r} (p : Program I α) (f : α → Program I β) :
    (p >>= f).lift request answer =
      p.lift request answer >>= fun a => (f a).lift request answer := by
  induction p with
  | done a => rfl
  | ask r next ih => exact congrArg (ask (request r)) (funext fun x => ih (answer r x))

/-- A program keeps in another interface what it keeps in its own, when the steps of the
    one protocol are steps of the other. -/
theorem Keeps.lift {Q : Protocol J} {request : I.Request → J.Request}
    {answer : ∀ r, J.Answer (request r) → I.Answer r} (phase : P.Phase → Q.Phase)
    (possible : ∀ r x, Q.Possible (request r) x → P.Possible r (answer r x))
    (step : ∀ {ph r x ph'}, P.Step ph r (answer r x) ph' →
      Q.Step (phase ph) (request r) x (phase ph'))
    {Ends : P.Phase → α → Prop} {Ends' : Q.Phase → α → Prop}
    (hends : ∀ ph a, Ends ph a → Ends' (phase ph) a) {p : Program I α} {ph : P.Phase}
    (h : p.Keeps P Ends ph) : (p.lift request answer).Keeps Q Ends' (phase ph) := by
  induction p generalizing ph with
  | done a => exact hends ph a h
  | ask r next ih =>
      intro x hx
      obtain ⟨ph', hstep, hnext⟩ := h (answer r x) (possible r x hx)
      exact ⟨phase ph', step hstep, ih _ hnext⟩

/-- A program that keeps a protocol within some of its phases keeps every protocol that allows
    the steps that are made there, when no step leads out of them. -/
theorem Keeps.within {Q : Protocol I} (Within : P.Phase → Prop) (phase : P.Phase → Q.Phase)
    (possible : ∀ r x, Q.Possible r x → P.Possible r x)
    (step : ∀ {ph r x ph'}, Within ph → P.Step ph r x ph' →
      Within ph' ∧ Q.Step (phase ph) r x (phase ph'))
    {Ends : P.Phase → α → Prop} {Ends' : Q.Phase → α → Prop}
    (hends : ∀ ph a, Within ph → Ends ph a → Ends' (phase ph) a) {p : Program I α}
    {ph : P.Phase} (hph : Within ph) (h : p.Keeps P Ends ph) : p.Keeps Q Ends' (phase ph) := by
  induction p generalizing ph with
  | done a => exact hends ph a hph h
  | ask r next ih =>
      intro x hx
      obtain ⟨ph', hstep, hnext⟩ := h x (possible r x hx)
      obtain ⟨hph', hstep'⟩ := step hph hstep
      exact ⟨phase ph', hstep', ih x hph' hnext⟩

/-- A program keeps every protocol that allows the steps of the one that it keeps. -/
theorem Keeps.coarsen {Q : Protocol I} (phase : P.Phase → Q.Phase)
    (possible : ∀ r x, Q.Possible r x → P.Possible r x)
    (step : ∀ {ph r x ph'}, P.Step ph r x ph' → Q.Step (phase ph) r x (phase ph'))
    {Ends : P.Phase → α → Prop} {Ends' : Q.Phase → α → Prop}
    (hends : ∀ ph a, Ends ph a → Ends' (phase ph) a) {p : Program I α} {ph : P.Phase}
    (h : p.Keeps P Ends ph) : p.Keeps Q Ends' (phase ph) :=
  h.within (fun _ => True) phase possible (fun _ hstep => ⟨trivial, step hstep⟩)
    (fun ph a _ => hends ph a) trivial

end Program

namespace Task

/-- How a run of a program that is run again and again may end: with a result, or in a
    phase in which the next run may begin. -/
def RunEnds {P : Protocol I} (Again : P.Phase → Prop) (Ends : P.Phase → α → Prop)
    (ph : P.Phase) : Option α → Prop
  | none => Again ph
  | some a => Ends ph a

/-- From the phase on, all that the task asks for is allowed. -/
def Keeps (P : Protocol I) (Ends : P.Phase → α → Prop) : Task I α → P.Phase → Prop
  | once now, ph => now.Keeps P Ends ph
  | forever body now, ph => ∃ Again : P.Phase → Prop,
      (∀ q, Again q → body.Keeps P (RunEnds Again Ends) q) ∧ now.Keeps P (RunEnds Again Ends) ph

variable {P : Protocol I} {Ends : P.Phase → α → Prop}

/-- A loop keeps a protocol when its body does from every phase that it can begin in. -/
theorem keeps_loop {body : Program I (Option α)} (Again : P.Phase → Prop)
    (h : ∀ q, Again q → body.Keeps P (RunEnds Again Ends) q) {ph : P.Phase} (hph : Again ph) :
    (loop body).Keeps P Ends ph :=
  ⟨Again, h, h ph hph⟩

/-- What a task that keeps a protocol asks for is allowed, and it keeps the protocol
    after the answer. -/
theorem Keeps.asks {a : Task I α} {ph : P.Phase} (h : a.Keeps P Ends ph) {r : I.Request}
    {resume : I.Answer r → Task I α} (hasks : a.Asks r resume) {x : I.Answer r}
    (hx : P.Possible r x) : ∃ ph', P.Step ph r x ph' ∧ (resume x).Keeps P Ends ph' := by
  cases hasks with
  | once r next => exact h x hx
  | forever body r next =>
      obtain ⟨Again, hbody, hnow⟩ := h
      obtain ⟨ph', hstep, hnext⟩ := hnow x hx
      exact ⟨ph', hstep, Again, hbody, hnext⟩

/-- A task that keeps a protocol within some of its phases keeps every protocol that allows
    these steps. -/
theorem Keeps.within {Q : Protocol I} (Within : P.Phase → Prop) (phase : P.Phase → Q.Phase)
    (possible : ∀ r x, Q.Possible r x → P.Possible r x)
    (step : ∀ {ph r x ph'}, Within ph → P.Step ph r x ph' →
      Within ph' ∧ Q.Step (phase ph) r x (phase ph'))
    {Ends' : Q.Phase → α → Prop} (hends : ∀ ph a, Within ph → Ends ph a → Ends' (phase ph) a)
    {a : Task I α} {ph : P.Phase} (hph : Within ph) (h : a.Keeps P Ends ph) :
    a.Keeps Q Ends' (phase ph) := by
  cases a with
  | once now => exact Program.Keeps.within Within phase possible step hends hph h
  | forever body now =>
      obtain ⟨Again, hbody, hnow⟩ := h
      let Again' : Q.Phase → Prop := fun q' => ∃ q, Within q ∧ Again q ∧ phase q = q'
      have hrun : ∀ q y, Within q → RunEnds Again Ends q y →
          RunEnds Again' Ends' (phase q) y := by
        intro q y hq hy
        cases y with
        | none => exact ⟨q, hq, hy, rfl⟩
        | some y => exact hends q y hq hy
      refine ⟨Again', ?_, Program.Keeps.within Within phase possible step hrun hph hnow⟩
      rintro _ ⟨q, hq, hagain, rfl⟩
      exact Program.Keeps.within Within phase possible step hrun hq (hbody q hagain)

theorem Keeps.again {body : Program I (Option α)} {ph : P.Phase}
    (h : (forever body (.done none)).Keeps P Ends ph) : (loop body).Keeps P Ends ph := by
  obtain ⟨Again, hbody, hnow⟩ := h
  exact keeps_loop Again hbody hnow

/-- A task that has ended is in a phase that fits its result. -/
theorem Keeps.ends {a : Task I α} {ph : P.Phase} (h : a.Keeps P Ends ph) {x : α}
    (hx : a.result? = some x) : Ends ph x := by
  cases a with
  | once now =>
      cases now with
      | done y =>
          cases hx
          exact h
      | ask r next => exact nomatch hx
  | forever body now =>
      cases now with
      | done y =>
          obtain ⟨Again, -, hnow⟩ := h
          cases hx
          exact hnow
      | ask r next => exact nomatch hx

end Task

namespace System

/-- Every task keeps the protocol in its phase; a number that no task has yet is in the
    phase that tasks start in. -/
structure Keeps (P : Protocol I) (Ends : P.Phase → α → Prop) (start : P.Phase)
    (t : System I σ α) (ph : TaskId → P.Phase) : Prop where
  task : ∀ {id : TaskId} {a : Task I α}, t.tasks[id]? = some a → a.Keeps P Ends (ph id)
  rest : ∀ {id : TaskId}, t.tasks.length ≤ id → ph id = start

variable {P : Protocol I} {Ends : P.Phase → α → Prop} {start : P.Phase}
  {t : System I σ α} {ph : TaskId → P.Phase}

theorem Keeps.lt_length {id : TaskId} {a : Task I α} (ha : t.tasks[id]? = some a) :
    id < t.tasks.length :=
  (List.getElem?_eq_some_iff.mp ha).1

/-- Another task in the place of one, in another phase. -/
theorem Keeps.set (h : t.Keeps P Ends start ph) {id : TaskId} {a : Task I α}
    {ph' : P.Phase} {state : σ} (hid : id < t.tasks.length) (ha : a.Keeps P Ends ph') :
    (⟨state, t.tasks.set id a⟩ : System I σ α).Keeps P Ends start
      (Function.update ph id ph') where
  task := by
    intro j b hb
    by_cases hj : j = id
    · subst hj
      rw [List.getElem?_set_self hid] at hb
      cases hb
      rw [Function.update_self]
      exact ha
    · rw [List.getElem?_set_ne (fun h => hj h.symm)] at hb
      rw [Function.update_of_ne hj]
      exact h.task hb
  rest := by
    intro j hj
    rw [List.length_set] at hj
    have hne : j ≠ id := Nat.ne_of_gt (Nat.lt_of_lt_of_le hid hj)
    rw [Function.update_of_ne hne]
    exact h.rest hj

theorem Keeps.spawn (h : t.Keeps P Ends start ph) {a : Task I α} (ha : a.Keeps P Ends start) :
    (t.spawn a).Keeps P Ends start ph where
  task := by
    intro j b hb
    have hb' : (t.tasks ++ [a])[j]? = some b := hb
    rcases Nat.lt_trichotomy j t.tasks.length with hlt | heq | hgt
    · rw [List.getElem?_append_left hlt] at hb'
      exact h.task hb'
    · rw [heq, List.getElem?_concat_length] at hb'
      cases hb'
      rw [h.rest (Nat.le_of_eq heq.symm)]
      exact ha
    · rw [List.getElem?_eq_none (by simp; omega)] at hb'
      cases hb'
  rest := by
    intro j hj
    refine h.rest ?_
    simp only [System.spawn, List.length_append, List.length_singleton] at hj
    omega

/-- Tasks that keep the protocol in the phases of a list, place by place. -/
theorem Keeps.of_forall₂ {phases : List P.Phase}
    (h : List.Forall₂ (fun a q => a.Keeps P Ends q) t.tasks phases) :
    t.Keeps P Ends start fun i => phases[i]?.getD start := by
  obtain ⟨hlength, hget⟩ := List.forall₂_iff_get.mp h
  refine ⟨?_, ?_⟩
  · intro id a ha
    obtain ⟨hid, rfl⟩ := List.getElem?_eq_some_iff.mp ha
    rw [List.getElem?_eq_getElem (hlength ▸ hid)]
    exact hget id hid (hlength ▸ hid)
  · intro id hid
    rw [List.getElem?_eq_none (hlength ▸ hid)]
    rfl

variable {m : Machine I σ} {starts : Task I α → Prop} {moves : σ → σ → Prop}
  {s : System I σ α} {tr : List (Exchange I)}

/-- **The invariant rule.**  All tasks keep a protocol, and an invariant over the trace,
    the state and the phases survives every exchange that the protocol allows and every
    change from outside: then it holds in every run. -/
theorem Runs.keeps (Inv : List (Exchange I) → σ → (TaskId → P.Phase) → Prop)
    (possible : ∀ {id r u x u'}, m.answer id r u = some (x, u') → P.Possible r x)
    {ph₀ : TaskId → P.Phase} (hkeeps : s.Keeps P Ends start ph₀) (hinit : Inv [] s.state ph₀)
    (hask : ∀ {tr t ph id r x state ph'}, Runs m starts moves s tr t → Inv tr t.state ph →
      P.Step (ph id) r x ph' → m.answer id r t.state = some (x, state) →
      Inv (tr ++ [⟨id, r, x⟩]) state (Function.update ph id ph'))
    (hspawn : ∀ {a}, starts a → a.Keeps P Ends start)
    (hmove : ∀ {tr u u' ph}, Inv tr u ph → moves u u' → Inv tr u' ph)
    (h : Runs m starts moves s tr t) :
    ∃ ph, Inv tr t.state ph ∧ t.Keeps P Ends start ph := by
  induction h with
  | refl => exact ⟨ph₀, hinit, hkeeps⟩
  | @ask tr t id a r resume x state hrun ha hasks hx ih =>
      obtain ⟨ph, hinv, hk⟩ := ih
      obtain ⟨ph', hstep, hk'⟩ := (hk.task ha).asks hasks (possible hx)
      -- only the task that has asked comes to another phase
      exact ⟨Function.update ph id ph', hask hrun hinv hstep hx, hk.set (Keeps.lt_length ha) hk'⟩
  | @again tr t id body _ ha ih =>
      obtain ⟨ph, hinv, hk⟩ := ih
      -- the next run begins in the phase that the last one is done in
      refine ⟨ph, hinv, ?_⟩
      have hset : (⟨t.state, t.tasks.set id (.loop body)⟩ : System I σ α).Keeps P Ends start
          (Function.update ph id (ph id)) :=
        hk.set (Keeps.lt_length ha) (hk.task ha).again
      rw [Function.update_eq_self] at hset
      exact hset
  | spawn _ ha ih =>
      obtain ⟨ph, hinv, hk⟩ := ih
      exact ⟨ph, hinv, hk.spawn (hspawn ha)⟩
  | move _ hmv ih =>
      obtain ⟨ph, hinv, hk⟩ := ih
      exact ⟨ph, hmove hinv hmv, hk.task, hk.rest⟩

/-- There is one task, and it keeps a protocol. -/
def KeepsOne (P : Protocol I) (Ends : P.Phase → α → Prop) (t : System I σ α) (p : P.Phase) :
    Prop :=
  ∃ a, t.tasks = [a] ∧ a.Keeps P Ends p

/-- **The invariant rule for one task** that is alone: what survives its exchanges and every change
    from outside holds in every run. -/
theorem Runs.keeps_one (Inv : List (Exchange I) → σ → P.Phase → Prop)
    (possible : ∀ {id r u x u'}, m.answer id r u = some (x, u') → P.Possible r x)
    {p₀ : P.Phase} (hkeeps : s.KeepsOne P Ends p₀) (hinit : Inv [] s.state p₀)
    (hask : ∀ {tr u p r x u' p'}, Inv tr u p → P.Step p r x p' →
      m.answer 0 r u = some (x, u') → Inv (tr ++ [⟨0, r, x⟩]) u' p')
    (hmove : ∀ {tr u u' p}, Inv tr u p → moves u u' → Inv tr u' p)
    (h : Runs m (fun _ => False) moves s tr t) :
    ∃ p, Inv tr t.state p ∧ t.KeepsOne P Ends p := by
  induction h with
  | refl => exact ⟨p₀, hinit, hkeeps⟩
  | @ask tr t id c r resume x state _ hc hasks hx ih =>
      obtain ⟨p, hinv, a, htasks, ha⟩ := ih
      rw [htasks] at hc ⊢
      match id with
      | 0 =>
          cases hc
          obtain ⟨p', hstep, ha'⟩ := ha.asks hasks (possible hx)
          exact ⟨p', hask hinv hstep hx, _, rfl, ha'⟩
  | @again tr t id body _ hc ih =>
      obtain ⟨p, hinv, a, htasks, ha⟩ := ih
      rw [htasks] at hc ⊢
      match id with
      | 0 =>
          cases hc
          exact ⟨p, hinv, _, rfl, ha.again⟩
  | spawn _ hstarts _ => exact hstarts.elim
  | move _ hmv ih =>
      obtain ⟨p, hinv, hk⟩ := ih
      exact ⟨p, hmove hinv hmv, hk⟩

/-- There are two tasks, and each keeps a protocol of its own. -/
def KeepsTwo (P Q : Protocol I) (EndsP : P.Phase → α → Prop) (EndsQ : Q.Phase → α → Prop)
    (t : System I σ α) (p : P.Phase) (q : Q.Phase) : Prop :=
  ∃ a b, t.tasks = [a, b] ∧ a.Keeps P EndsP p ∧ b.Keeps Q EndsQ q

/-- **The invariant rule for two tasks** that keep a protocol each: what survives the exchanges of
    the one, those of the other and every change from outside holds in every run. -/
theorem Runs.keeps_two {Q : Protocol I} {EndsQ : Q.Phase → α → Prop}
    (Inv : List (Exchange I) → σ → P.Phase → Q.Phase → Prop)
    (possible : ∀ {id r u x u'}, m.answer id r u = some (x, u') →
      P.Possible r x ∧ Q.Possible r x)
    {p₀ : P.Phase} {q₀ : Q.Phase} (hkeeps : s.KeepsTwo P Q Ends EndsQ p₀ q₀)
    (hinit : Inv [] s.state p₀ q₀)
    (hfirst : ∀ {tr u p q r x u' p'}, Inv tr u p q → P.Step p r x p' →
      m.answer 0 r u = some (x, u') → Inv (tr ++ [⟨0, r, x⟩]) u' p' q)
    (hsecond : ∀ {tr u p q r x u' q'}, Inv tr u p q → Q.Step q r x q' →
      m.answer 1 r u = some (x, u') → Inv (tr ++ [⟨1, r, x⟩]) u' p q')
    (hmove : ∀ {tr u u' p q}, Inv tr u p q → moves u u' → Inv tr u' p q)
    (h : Runs m (fun _ => False) moves s tr t) :
    ∃ p q, Inv tr t.state p q ∧ t.KeepsTwo P Q Ends EndsQ p q := by
  induction h with
  | refl => exact ⟨p₀, q₀, hinit, hkeeps⟩
  | @ask tr t id c r resume x state _ hc hasks hx ih =>
      obtain ⟨p, q, hinv, a, b, htasks, ha, hb⟩ := ih
      rw [htasks] at hc ⊢
      match id with
      | 0 =>
          cases hc
          obtain ⟨p', hstep, ha'⟩ := ha.asks hasks (possible hx).1
          exact ⟨p', q, hfirst hinv hstep hx, _, b, rfl, ha', hb⟩
      | 1 =>
          cases hc
          obtain ⟨q', hstep, hb'⟩ := hb.asks hasks (possible hx).2
          exact ⟨p, q', hsecond hinv hstep hx, a, _, rfl, ha, hb'⟩
  | @again tr t id body _ hc ih =>
      obtain ⟨p, q, hinv, a, b, htasks, ha, hb⟩ := ih
      rw [htasks] at hc ⊢
      match id with
      | 0 =>
          cases hc
          exact ⟨p, q, hinv, _, b, rfl, ha.again, hb⟩
      | 1 =>
          cases hc
          exact ⟨p, q, hinv, a, _, rfl, ha, hb.again⟩
  | spawn _ hstarts _ => exact hstarts.elim
  | move _ hmv ih =>
      obtain ⟨p, q, hinv, hk⟩ := ih
      exact ⟨p, q, hmove hinv hmv, hk⟩

/-- **What a task may do next**: a task that keeps a protocol has ended in a phase that fits its
    result, or can take a step, or waits for the answer to a request that is allowed. -/
theorem ended_or_steps_or_waits {p : P.Phase} (possible : ∀ r, ∃ x, P.Possible r x) {id : TaskId}
    {a : Task I α} (ha : t.tasks[id]? = some a) (h : a.Keeps P Ends p) :
    (∃ y, a.result? = some y ∧ Ends p y) ∨ (∃ u, t.step m id = some u) ∨
      ∃ r resume x p', a.Asks r resume ∧ P.Step p r x p' ∧ m.answer id r t.state = none := by
  rcases a.ended_or_goes_on with ⟨y, hy⟩ | ⟨r, resume, hasks⟩ | ⟨body, rfl⟩
  · exact Or.inl ⟨y, hy, h.ends hy⟩
  · cases hx : m.answer id r t.state with
    | some xs => exact Or.inr (Or.inl (exists_step_of_answer ha hasks ⟨xs.1, xs.2, hx⟩))
    | none =>
        obtain ⟨x, hpossible⟩ := possible r
        obtain ⟨p', hstep, -⟩ := h.asks hasks hpossible
        exact Or.inr (Or.inr ⟨r, resume, x, p', hasks, hstep, hx⟩)
  · exact Or.inr (Or.inl (exists_step_of_again ha))

/-- What holds in every run holds before each exchange of a run, and the exchange is a step of
    the protocol there. -/
theorem Runs.step_at (Inv : List (Exchange I) → σ → (TaskId → P.Phase) → Prop)
    (possible : ∀ {id r u x u'}, m.answer id r u = some (x, u') → P.Possible r x)
    (hinv : ∀ {tr t}, Runs m starts moves s tr t →
      ∃ ph, Inv tr t.state ph ∧ t.Keeps P Ends start ph)
    (h : Runs m starts moves s tr t) {before after : List (Exchange I)} {e : Exchange I}
    (htr : tr = before ++ e :: after) :
    ∃ u ph ph' state, Inv before u ph ∧ P.Step (ph e.task) e.request e.answer ph' ∧
      m.answer e.task e.request u = some (e.answer, state) := by
  obtain ⟨u, a, resume, state, hrun, ha, hasks, hx⟩ := h.split htr
  obtain ⟨ph, hbefore, hk⟩ := hinv hrun
  obtain ⟨ph', hstep, -⟩ := (hk.task ha).asks hasks (possible hx)
  exact ⟨u.state, ph, ph', state, hbefore, hstep, hx⟩

/-- A task that is run once stays so. -/
theorem Runs.once_at (h : Runs m starts moves s tr t) {id : TaskId}
    (hs : ∀ {a}, s.tasks[id]? = some a → ∃ p, a = .once p)
    (hstarts : ∀ {a}, starts a → ∃ p, a = .once p) {a : Task I α} (ha : t.tasks[id]? = some a) :
    ∃ p, a = .once p := by
  induction h generalizing a with
  | refl => exact hs ha
  | @ask tr t j b r resume x state _ hb hasks _ ih =>
      by_cases hj : id = j
      · subst hj
        obtain ⟨p, rfl⟩ := ih hb
        rw [List.getElem?_set_self (Keeps.lt_length hb)] at ha
        cases ha
        cases hasks with
        | once r next => exact ⟨next x, rfl⟩
      · rw [List.getElem?_set_ne fun heq => hj heq.symm] at ha
        exact ih ha
  | @again tr t j body _ hb ih =>
      by_cases hj : id = j
      · subst hj
        obtain ⟨p, hp⟩ := ih hb
        exact nomatch hp
      · rw [List.getElem?_set_ne fun heq => hj heq.symm] at ha
        exact ih ha
  | @spawn tr t b _ hb ih =>
      have ha' : (t.tasks ++ [b])[id]? = some a := ha
      by_cases hid : id < t.tasks.length
      · rw [List.getElem?_append_left hid] at ha'
        exact ih ha'
      · rw [List.getElem?_append_right (Nat.le_of_not_lt hid)] at ha'
        rw [List.mem_singleton.mp (List.mem_of_getElem? ha')]
        exact hstarts hb
  | move _ _ ih => exact ih ha

/-- A task that runs a program again and again goes on with the same program. -/
theorem Runs.forever_at (h : Runs m starts moves s tr t) {id : TaskId}
    {body now : Program I (Option α)} (hs : s.tasks[id]? = some (.forever body now)) :
    ∃ now', t.tasks[id]? = some (.forever body now') := by
  induction h with
  | refl => exact ⟨now, hs⟩
  | @ask tr t j b r resume x state _ hb hasks _ ih =>
      obtain ⟨now', ht⟩ := ih
      by_cases hj : id = j
      · subst hj
        cases hb.symm.trans ht
        cases hasks with
        | forever body r next => exact ⟨next x, List.getElem?_set_self (Keeps.lt_length hb)⟩
      · exact ⟨now', (List.getElem?_set_ne fun heq => hj heq.symm).trans ht⟩
  | @again tr t j body' _ hb ih =>
      obtain ⟨now', ht⟩ := ih
      by_cases hj : id = j
      · subst hj
        cases hb.symm.trans ht
        exact ⟨body, List.getElem?_set_self (Keeps.lt_length hb)⟩
      · exact ⟨now', (List.getElem?_set_ne fun heq => hj heq.symm).trans ht⟩
  | spawn _ _ ih =>
      obtain ⟨now', ht⟩ := ih
      exact ⟨now', (List.getElem?_append_left (Keeps.lt_length ht)).trans ht⟩
  | move _ _ ih => exact ih

end System

end Overlay
