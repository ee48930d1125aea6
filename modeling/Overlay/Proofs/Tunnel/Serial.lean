import Overlay.Proofs.Tunnel.Call
import Overlay.Simulation.Scene

/-!
# Calls one after the other

The steps of concurrent calls fall between each other, but the changes that they make to
the peers do not.  Every run of calls in which all of them end comes to the same state as
a run in which each change is made without interruption, in the order in which the lock
was taken: from the line up the task goes straight on until it gives the lock back.

The proof follows the given run and lets a task line up only when it also gets the lock.
What the task inside asks for is answered in the same way, since no answer beside that to
the lock itself depends on the line.
-/

namespace Overlay.Tunnel

/-- The tasks in the order in which they took the lock, once for each time. -/
def lockOrder (tr : List (Exchange interface)) : List TaskId :=
  tr.filterMap fun e =>
    match e.request with
    | .lock => some e.task
    | _ => none

/-- The route commands in the order in which they were given. -/
def commands (tr : List (Exchange interface)) : List (RouteAction × Subnet) :=
  tr.filterMap fun e =>
    match e.request with
    | .issue action n => some (action, n)
    | _ => none

theorem lockOrder_append (tr tr' : List (Exchange interface)) :
    lockOrder (tr ++ tr') = lockOrder tr ++ lockOrder tr' := List.filterMap_append

theorem commands_append (tr tr' : List (Exchange interface)) :
    commands (tr ++ tr') = commands tr ++ commands tr' := List.filterMap_append

theorem lockOrder_append_eq {tr : List (Exchange interface)} {id : TaskId} {r : Request}
    {x : r.Answer} (hl : r ≠ .lock) : lockOrder (tr ++ [⟨id, r, x⟩]) = lockOrder tr := by
  rw [lockOrder_append]
  cases r with
  | lock => exact absurd rfl hl
  | _ => exact List.append_nil _

/-! ## Without interruption -/

/-- Does the request end a change? -/
def Request.isUnlock : Request → Bool
  | unlock => true
  | _ => false

section Turns

variable {σ α : Type}

/-- Goes on with a program until it has given the lock back: what it has asked for, what is
    left of it, and the server after it. -/
def alone (around : Surroundings σ) (id : TaskId) :
    Work α → Server σ → List (Exchange interface) × Work α × Server σ
  | .done a, s => ([], .done a, s)
  | .ask r next, s =>
    match s.answer around id r with
    | none => ([], .ask r next, s)
    | some (x, s) =>
      if r.isUnlock then ([⟨id, r, x⟩], next x, s)
      else
        let (tr, rest) := alone around id (next x) s
        (⟨id, r, x⟩ :: tr, rest)

/-- Lets a task make one change while all others rest. -/
def turn (around : Surroundings σ) (t : System interface (Server σ) α) (id : TaskId) :
    List (Exchange interface) × System interface (Server σ) α :=
  match t.tasks[id]? with
  | some (.once now) =>
    let (tr, rest, state) := alone around id now t.state
    (tr, ⟨state, t.tasks.set id (.once rest)⟩)
  | _ => ([], t)

/-- Lets tasks make their changes one after the other, in the given order. -/
def oneByOne (around : Surroundings σ) (order : List TaskId)
    (t : System interface (Server σ) α) :
    List (Exchange interface) × System interface (Server σ) α :=
  order.foldl (fun (tr, t) id => (tr ++ (turn around t id).1, (turn around t id).2)) ([], t)

variable {around : Surroundings σ} {id : TaskId} {r : Request} {x : r.Answer} {v : Server σ}
  {t u : System interface (Server σ) α} {tr : List (Exchange interface)}

theorem oneByOne_append {order : List TaskId} (h : oneByOne around order t = (tr, u))
    (id : TaskId) :
    oneByOne around (order ++ [id]) t = (tr ++ (turn around u id).1, (turn around u id).2) := by
  rw [oneByOne, List.foldl_append]
  show List.foldl _ (oneByOne around order t) [id] = _
  rw [h]
  rfl

/-- A turn begins with the next request of the task. -/
theorem turn_ask {next : r.Answer → Work α} (ht : t.tasks[id]? = some (.once (.ask r next)))
    (hx : t.state.answer around id r = some (x, v)) (hr : r ≠ .unlock) :
    turn around t id =
      (⟨id, r, x⟩ :: (turn around ⟨v, t.tasks.set id (.once (next x))⟩ id).1,
        (turn around ⟨v, t.tasks.set id (.once (next x))⟩ id).2) := by
  have hrest : (t.tasks.set id (.once (next x)))[id]? = some (.once (next x)) :=
    List.getElem?_set_self (List.getElem?_eq_some_iff.mp ht).1
  have hunlock : r.isUnlock = false := by
    cases r with
    | unlock => exact absurd rfl hr
    | _ => rfl
  simp only [turn, ht, hrest, alone, hx, hunlock, Bool.false_eq_true, if_false, List.set_set]

/-- A turn ends when the task gives the lock back. -/
theorem turn_unlock {next : Unit → Work α} (ht : t.tasks[id]? = some (.once (.ask .unlock next)))
    (hx : t.state.answer around id .unlock = some ((), v)) :
    turn around t id = ([⟨id, .unlock, ()⟩], ⟨v, t.tasks.set id (.once (next ()))⟩) := by
  simp only [turn, ht, alone, hx, Request.isUnlock, if_true]

end Turns

/-! ## The line matters to the lock only -/

/-- A server with another line. -/
def withLine {σ : Type} (s : Server σ) (line : List TaskId) : Server σ := { s with line }

/-- Requests that are not about the lock are answered in the same way whatever the line is. -/
theorem answer_withLine {σ : Type} {around : Surroundings σ} {id : TaskId} {r : Request}
    (hq : r ≠ .queue) (hl : r ≠ .lock) (hu : r ≠ .unlock) (s : Server σ) (line : List TaskId) :
    (withLine s line).answer around id r =
      (s.answer around id r).map fun (x, s') => (x, withLine s' line) := by
  cases r with
  | queue => exact absurd rfl hq
  | lock => exact absurd rfl hl
  | unlock => exact absurd rfl hu
  | connect n host =>
      simp only [Server.answer, withLine]
      split <;> rfl
  | arrival d =>
      by_cases hstop : s.stopping
      · simp [Server.answer, withLine, hstop]
      · cases d <;> simp [Server.answer, Server.nextRead, withLine, hstop, Function.comp_def]
  | outcome | write | firstEnded | join =>
      simp only [Server.answer, withLine, Option.map_map]
      rfl
  | remove | insert | removeSame | networks | lookup | issue | report | send | count | finish
  | stop => rfl

/-! ## What every task knows -/

/-- The peer that the task has inserted since it took the lock. -/
def insertedBy (i : TaskId) (tr : List (Exchange interface)) : Option Peer :=
  tr.foldl (fun q e =>
    if e.task = i then
      match e.request with
      | .lock => none
      | .insert p => some p
      | _ => q
    else q) none

theorem insertedBy_append (i : TaskId) (tr : List (Exchange interface)) (e : Exchange interface) :
    insertedBy i (tr ++ [e]) =
      if e.task = i then
        match e.request with
        | .lock => none
        | .insert p => some p
        | _ => insertedBy i tr
      else insertedBy i tr := by
  simp only [insertedBy, List.foldl_append, List.foldl_cons, List.foldl_nil]

/-- The tasks stand in line; whoever is inside knows what it knows of the table, and a task
    that has inserted a peer has inserted it itself. -/
structure Orderly {σ : Type} (tr : List (Exchange interface)) (u : Server σ)
    (ph : TaskId → Phase) : Prop where
  line : Line tr u.line ph
  known : Guards (Known u.table) ph
  inserted : ∀ {i : TaskId} {p : Peer}, ph i = .inserted p → insertedBy i tr = some p

variable {σ : Type} {around : Surroundings σ} {tr : List (Exchange interface)} {id : TaskId}
  {r : Request} {x : r.Answer} {p' : Phase}

theorem Orderly.step {Free : Request → Prop} {u u' : Server σ} {ph : TaskId → Phase}
    (hfree : ∀ r, Free r → r.Passive) (h : Orderly tr u ph) (hstep : Change Free (ph id) r x p')
    (hx : u.answer around id r = some (x, u')) :
    Orderly (tr ++ [⟨id, r, x⟩]) u' (Function.update ph id p') := by
  have ha := answers_of_answer hx
  refine ⟨?_, ?_, ?_⟩
  · rw [ha.line]
    exact h.line.step hfree hstep ha.shows
  · rw [ha.table]
    refine h.known.step h.line hstep ha.shows ?_ (fun _ _ => trivial) (fun _ _ => trivial)
      fun _ hin hknown => hknown.step hstep hin
    intro hr q hq
    rw [Request.tableAfter_eq (hr.imp_left (hfree r))]
    exact hq
  · intro i p hi
    rw [insertedBy_append]
    by_cases heq : id = i
    · subst heq
      rw [Function.update_self] at hi
      rw [if_pos rfl]
      generalize hq : ph id = q at hstep
      subst hi
      cases hstep with
      | insert => rfl
      | issueAdd => exact h.inserted hq
      | refused => exact h.inserted hq
    · rw [Function.update_of_ne (Ne.symm heq)] at hi
      rw [if_neg heq]
      exact h.inserted hi

/-! ## Tasks that have lined up -/

theorem asks_once {α : Type} (r : Request) (next : r.Answer → Work α) :
    (Task.once (.ask r next) : Task interface α).Asks r fun x => .once (next x) :=
  Task.Asks.once (I := interface) r next

/-- The task has lined up and asks for the lock. -/
def Waits {α : Type} (a : Task interface α) : Prop := ∃ resume, a.Asks .lock resume

/-- The discipline of the lock, for tasks that do nothing beside it. -/
abbrev mutating : Protocol interface := changing fun _ => False

section Waiting

variable {α : Type} {a : Task interface α} {ph : Phase}

/-- A task asks for the lock only when it has lined up. -/
theorem Waits.eq_waiting {Ends : Phase → α → Prop} (h : Waits a) (hk : a.Keeps mutating Ends ph) :
    ph = .waiting := by
  obtain ⟨resume, hasks⟩ := h
  obtain ⟨ph', hstep, -⟩ := hk.asks hasks (x := ()) trivial
  cases hstep with
  | lock => rfl
  | aside hr => exact hr.elim

/-- A task that has lined up has nothing else to do than to ask for the lock. -/
theorem waits_of_keeps {now : Work α} (hk : (Task.once now).Keeps mutating (fun q _ => q = .outside)
    Phase.waiting) : Waits (.once now) := by
  cases now with
  | done a => exact nomatch (show Phase.waiting = .outside from hk)
  | ask r next =>
      obtain ⟨x, hx⟩ := exists_plausible r
      obtain ⟨ph', hstep, -⟩ := hk x hx
      generalize hq : Phase.waiting = q at hstep
      cases hstep with
      | lock => exact ⟨_, asks_once .lock next⟩
      | _ => exact nomatch hq

end Waiting

/-! ## Following a run -/

/-- What the calls do that are made at once and take their steps in any order, when nothing
    else happens. -/
def Together (around : Surroundings σ) (s : Server σ) (calls : List Call) :
    List (Exchange interface) → System interface (Server σ) Reply → Prop :=
  System.Runs (Server.machine around) (fun _ => False) (fun _ _ => False)
    ⟨s, calls.map Call.task⟩

/-- The second system is where the first one is, except that nobody waits there: a task that
    waits in the first system has not lined up yet in the second. -/
structure Follows (tr : List (Exchange interface)) (t u : System interface (Server σ) Reply) :
    Prop where
  state : u.state = withLine t.state (holder tr).toList
  length : u.tasks.length = t.tasks.length
  task : ∀ {j : TaskId} {a : Task interface Reply}, t.tasks[j]? = some a →
    (¬ Waits a ∧ u.tasks[j]? = some a) ∨
      (Waits a ∧ ∃ b resume, u.tasks[j]? = some b ∧ b.Asks .queue resume ∧ a = resume ())

variable {s : Server σ} {calls : List Call} {t u : System interface (Server σ) Reply}
  {tr' : List (Exchange interface)} {a : Task interface Reply}

/-- A task that makes the same step in both systems does not wait afterwards. -/
theorem Follows.set (h : Follows tr t u) {v w : Server σ} {tr₂ : List (Exchange interface)}
    (hstate : w = withLine v (holder tr₂).toList) (ha : ¬ Waits a) :
    Follows tr₂ ⟨v, t.tasks.set id a⟩ ⟨w, u.tasks.set id a⟩ where
  state := hstate
  length := by simp only [List.length_set, h.length]
  task := by
    intro j b hb
    by_cases hj : id = j
    · subst hj
      have hlt : id < t.tasks.length := by
        have hlen := (List.getElem?_eq_some_iff.mp hb).1
        rwa [List.length_set] at hlen
      rw [List.getElem?_set_self hlt] at hb
      cases hb
      exact Or.inl ⟨ha, List.getElem?_set_self (h.length ▸ hlt)⟩
    · rw [List.getElem?_set_ne hj] at hb ⊢
      exact h.task hb

/-- A task that lines up is followed by doing nothing. -/
theorem Follows.queue (h : Follows tr t u) {resume : Unit → Task interface Reply}
    (ha : t.tasks[id]? = some a) (hasks : a.Asks .queue resume) (hwaits : Waits (resume ()))
    {line : List TaskId} :
    Follows (tr ++ [⟨id, .queue, ()⟩]) ⟨withLine t.state line, t.tasks.set id (resume ())⟩ u where
  state := by
    have hkeep : holder (tr ++ [⟨id, .queue, ()⟩]) = holder tr :=
      holder_append_eq (fun hr => nomatch hr) fun hr => nomatch hr
    rw [hkeep]
    exact h.state
  length := by
    rw [List.length_set]
    exact h.length
  task := by
    intro j b hb
    by_cases hj : id = j
    · subst hj
      rw [List.getElem?_set_self (System.Keeps.lt_length ha)] at hb
      cases hb
      rcases h.task ha with ⟨-, hua⟩ | ⟨⟨_, hlock⟩, -⟩
      · exact Or.inr ⟨hwaits, a, resume, hua, hasks, rfl⟩
      · exact nomatch hasks.request_eq hlock
    · rw [List.getElem?_set_ne hj] at hb
      exact h.task hb

/-- A task that does not ask for the lock is in the same place in both systems. -/
theorem Follows.same (h : Follows tr t u) (ha : t.tasks[id]? = some a) {resume}
    (hasks : a.Asks r resume) (hr : r ≠ .lock) : u.tasks[id]? = some a := by
  rcases h.task ha with ⟨-, hua⟩ | ⟨⟨_, hlock⟩, -⟩
  · exact hua
  · exact absurd (hasks.request_eq hlock) hr

/-- The second system is where the tasks come to when they make their changes one by one in
    the order; the holder of the lock is still to go on with its change. -/
def Made (around : Surroundings σ) (t : System interface (Server σ) Reply) (order : List TaskId)
    (tr : List (Exchange interface)) (u : System interface (Server σ) Reply) :
    Option TaskId → Prop
  | none => oneByOne around order t = (tr, u)
  | some i => oneByOne around order t = (tr ++ (turn around u i).1, (turn around u i).2)

/-- The run is followed by one in which every change is made without interruption. -/
structure Followed (around : Surroundings σ) (s : Server σ) (calls : List Call)
    (tr : List (Exchange interface)) (t : System interface (Server σ) Reply)
    (tr' : List (Exchange interface)) (u : System interface (Server σ) Reply) : Prop where
  run : Together around s calls tr' u
  made : Made around ⟨s, calls.map Call.task⟩ (lockOrder tr) tr' u (holder tr)
  commands : commands tr' = commands tr
  follows : Follows tr t u

namespace Followed

theorem queue (h : Followed around s calls tr t tr' u) {resume : Unit → Task interface Reply}
    (ha : t.tasks[id]? = some a) (hasks : a.Asks .queue resume) (hwaits : Waits (resume ()))
    {line : List TaskId} :
    Followed around s calls (tr ++ [⟨id, .queue, ()⟩])
      ⟨withLine t.state line, t.tasks.set id (resume ())⟩ tr' u where
  run := h.run
  made := by
    have hkeep : holder (tr ++ [⟨id, .queue, ()⟩]) = holder tr :=
      holder_append_eq (fun hr => nomatch hr) fun hr => nomatch hr
    have horder : lockOrder (tr ++ [⟨id, .queue, ()⟩]) = lockOrder tr :=
      lockOrder_append_eq fun hr => nomatch hr
    rw [hkeep, horder]
    exact h.made
  commands := by
    rw [commands_append, ← h.commands]
    exact (List.append_nil _).symm
  follows := h.follows.queue ha hasks hwaits

/-- A task that gets the lock is followed by lining up and getting it. -/
theorem lock (h : Followed around s calls tr t tr' u) (hfree : holder tr = none)
    {next : Unit → Work Reply} (ha : t.tasks[id]? = some (.once (.ask .lock next)))
    (hwaits : ¬ Waits (.once (next ()))) :
    ∃ u', Followed around s calls (tr ++ [⟨id, .lock, ()⟩])
      ⟨t.state, t.tasks.set id (.once (next ()))⟩
      (tr' ++ [⟨id, .queue, ()⟩] ++ [⟨id, .lock, ()⟩]) u' := by
  rcases h.follows.task ha with ⟨hno, -⟩ | ⟨-, b, resume, hb, hqueue, hresume⟩
  · exact absurd ⟨_, asks_once .lock next⟩ hno
  · cases hqueue with
    | forever => exact nomatch hresume
    | once _ start =>
        have hstart : start () = .ask .lock next := (Task.once.inj hresume).symm
        have hline : u.state = withLine t.state [] := by
          rw [h.follows.state, hfree]
          rfl
        have hlined : u.state.answer around id .queue = some ((), withLine t.state [id]) := by
          rw [hline]
          rfl
        have hid : (u.tasks.set id (.once (start ())))[id]? = some (.once (.ask .lock next)) := by
          rw [← hstart]
          exact List.getElem?_set_self (System.Keeps.lt_length hb)
        have hlocked : (withLine t.state [id]).answer around id .lock =
            some ((), withLine t.state [id]) := if_pos rfl
        -- two steps there for the one step here: the task lines up only now that the lock is free
        have hqueued := System.Runs.ask h.run hb (.once _ start) hlined
        have hrun := System.Runs.ask hqueued hid (asks_once .lock next) hlocked
        have hqueueTurn := turn_ask hb hlined fun hr => nomatch hr
        have hlockTurn := turn_ask (t := ⟨withLine t.state [id], u.tasks.set id (.once (start ()))⟩)
          hid hlocked fun hr => nomatch hr
        rw [List.set_set] at hrun
        refine ⟨⟨withLine t.state [id], u.tasks.set id (.once (next ()))⟩, hrun, ?_, ?_, ?_⟩
        · have hmade := h.made
          rw [hfree] at hmade
          have hnext := oneByOne_append hmade id
          rw [hqueueTurn, hlockTurn, List.set_set] at hnext
          rw [holder_append, lockOrder_append]
          show oneByOne around (lockOrder tr ++ [id]) _ = _
          rw [hnext]
          simp only [List.append_assoc, List.cons_append, List.nil_append]
        · rw [commands_append, commands_append, commands_append, h.commands, List.append_assoc]
          rfl
        · refine h.follows.set ?_ hwaits
          rw [holder_append]
          rfl

/-- What the task inside asks for is asked in the same way. -/
theorem inside (h : Followed around s calls tr t tr' u) (hholder : holder tr = some id)
    {next : r.Answer → Work Reply} (ha : t.tasks[id]? = some (.once (.ask r next)))
    (hq : r ≠ .queue) (hl : r ≠ .lock) (hu : r ≠ .unlock) {v : Server σ}
    (hx : t.state.answer around id r = some (x, v)) (hwaits : ¬ Waits (.once (next x))) :
    Followed around s calls (tr ++ [⟨id, r, x⟩]) ⟨v, t.tasks.set id (.once (next x))⟩
      (tr' ++ [⟨id, r, x⟩]) ⟨withLine v [id], u.tasks.set id (.once (next x))⟩ := by
  have hsame : u.tasks[id]? = some (.once (.ask r next)) := h.follows.same ha (asks_once r next) hl
  -- the other system answers the same, since the request is not about the lock
  have hux : u.state.answer around id r = some (x, withLine v [id]) := by
    rw [h.follows.state, answer_withLine hq hl hu, hx, hholder]
    rfl
  refine ⟨System.Runs.ask h.run hsame (asks_once r next) hux, ?_, ?_, ?_⟩
  · have hmade := h.made
    rw [hholder] at hmade
    rw [holder_append_eq hl hu, hholder, lockOrder_append_eq hl]
    have hturn : oneByOne around (lockOrder tr) _ = _ := hmade
    rw [turn_ask hsame hux hu] at hturn
    show oneByOne around (lockOrder tr) _ = _
    rw [hturn, List.append_assoc]
    rfl
  · rw [commands_append, commands_append, h.commands]
  · refine h.follows.set ?_ hwaits
    rw [holder_append_eq hl hu, hholder]
    rfl

theorem unlock (h : Followed around s calls tr t tr' u) (hholder : holder tr = some id)
    {next : Unit → Work Reply} (ha : t.tasks[id]? = some (.once (.ask .unlock next)))
    (hwaits : ¬ Waits (.once (next ()))) {line : List TaskId} :
    Followed around s calls (tr ++ [⟨id, .unlock, ()⟩])
      ⟨withLine t.state line, t.tasks.set id (.once (next ()))⟩ (tr' ++ [⟨id, .unlock, ()⟩])
      ⟨withLine t.state [], u.tasks.set id (.once (next ()))⟩ := by
  have hsame : u.tasks[id]? = some (.once (.ask .unlock next)) :=
    h.follows.same ha (asks_once .unlock next) fun hr => nomatch hr
  have hux : u.state.answer around id .unlock = some ((), withLine t.state []) := by
    rw [h.follows.state, hholder]
    rfl
  refine ⟨System.Runs.ask h.run hsame (asks_once .unlock next) hux, ?_, ?_, ?_⟩
  · have hmade := h.made
    rw [hholder] at hmade
    have horder : lockOrder (tr ++ [⟨id, .unlock, ()⟩]) = lockOrder tr :=
      lockOrder_append_eq fun hr => nomatch hr
    have hturn : oneByOne around (lockOrder tr) _ = _ := hmade
    rw [turn_unlock hsame hux] at hturn
    rw [holder_append, horder]
    exact hturn
  · rw [commands_append, commands_append, h.commands]
  · refine h.follows.set ?_ hwaits
    rw [holder_append]
    rfl

/-- Every exchange of the run is followed. -/
theorem step (h : Followed around s calls tr t tr' u) {ph : TaskId → Phase}
    (horderly : Orderly tr t.state ph)
    (hk : t.Keeps mutating (fun q _ => q = Phase.outside) Phase.outside ph)
    {now : Work Reply} {resume : r.Answer → Task interface Reply} {v : Server σ}
    (ha : t.tasks[id]? = some (.once now)) (hasks : (Task.once now).Asks r resume)
    (hx : t.state.answer around id r = some (x, v)) :
    ∃ tr'' u', Followed around s calls (tr ++ [⟨id, r, x⟩]) ⟨v, t.tasks.set id (resume x)⟩
      tr'' u' := by
  obtain ⟨ph', hstep, hk'⟩ := (hk.task ha).asks hasks (answers_of_answer hx).possible
  have hwaits : ph' ≠ .waiting → ¬ Waits (resume x) := fun hne hw => hne (hw.eq_waiting hk')
  rcases Change.kind hstep with ⟨hr, -, -⟩ | ⟨rfl, -, rfl⟩ | ⟨rfl, hp, rfl⟩ | ⟨rfl, hp, rfl⟩ |
    ⟨-, hq, hl, hu, hp, hp'⟩ <;> cases hasks with | once _ next => ?_
  · exact hr.elim
  · cases hx
    exact ⟨_, _, h.queue ha (.once _ next) (waits_of_keeps hk')⟩
  · have hhead : t.state.line.head? = some id := (answers_of_answer hx).shows
    have hnone : holder tr = none := by
      refine horderly.line.holder_eq_none (horderly.line.not_inside hhead ?_)
      rw [hp]
      exact not_inside_waiting
    have hv : v = t.state := by
      have hx' : (if t.state.line.head? = some id then some ((), t.state) else none) =
          some (x, v) := hx
      rw [if_pos hhead] at hx'
      cases hx'
      rfl
    rw [hv]
    exact ⟨_, h.lock hnone ha (hwaits fun heq => nomatch heq)⟩
  · cases hx
    exact ⟨_, _, h.unlock (horderly.line.inside_iff.mp hp) ha (hwaits fun heq => nomatch heq)⟩
  · refine ⟨_, _, h.inside (horderly.line.inside_iff.mp hp) ha hq hl hu hx
      (hwaits fun heq => ?_)⟩
    rw [heq] at hp'
    exact hp'

end Followed

namespace Together

/-- In every run the tasks are in order and keep the discipline of the lock. -/
theorem orderly (hcalls : ∀ c ∈ calls, c.Changes) (hline : s.line = [])
    (h : Together around s calls tr t) :
    ∃ ph, Orderly tr t.state ph ∧
      t.Keeps mutating (fun q _ => q = Phase.outside) Phase.outside ph := by
  have hstart : System.Keeps mutating (fun q _ => q = Phase.outside) Phase.outside
      (⟨s, calls.map Call.task⟩ : System interface (Server σ) Reply) (fun _ => Phase.outside) := by
    refine ⟨fun ha => ?_, fun _ => rfl⟩
    obtain ⟨c, hc, rfl⟩ := List.mem_map.mp (List.mem_of_getElem? ha)
    exact Call.keeps (Or.inl (hcalls c hc))
  have hinit : Orderly [] s fun _ => Phase.outside :=
    ⟨hline ▸ Line.nil, Guards.of_outside trivial, fun hi => nomatch hi⟩
  exact System.Runs.keeps Orderly (fun hx => (answers_of_answer hx).possible) hstart hinit
    (fun _ hinv hstep hx => hinv.step (fun _ hr => hr.elim) hstep hx)
    (fun ha => ha.elim) (fun _ hmove => hmove.elim) h

/-- Calls are run once. -/
theorem once_at (h : Together around s calls tr t) {id : TaskId} {a : Task interface Reply}
    (ha : t.tasks[id]? = some a) : ∃ p, a = .once p := by
  refine System.Runs.once_at h (fun ha => ?_) (fun ha => ha.elim) ha
  obtain ⟨c, -, rfl⟩ := List.mem_map.mp (List.mem_of_getElem? ha)
  exact ⟨c.program, rfl⟩

/-- Every run is followed by one whose changes are not interrupted. -/
theorem followed (hcalls : ∀ c ∈ calls, c.Changes) (hline : s.line = [])
    (h : Together around s calls tr t) : ∃ tr' u, Followed around s calls tr t tr' u := by
  induction h with
  | refl =>
      refine ⟨[], _, .refl, rfl, rfl, ?_, rfl, fun ha => Or.inl ⟨fun hw => ?_, ha⟩⟩
      · rw [withLine]
        simp only [holder, List.foldl_nil, Option.toList_none, ← hline]
      · -- in the beginning every task is outside, where nobody asks for the lock
        obtain ⟨c, hc, rfl⟩ := List.mem_map.mp (List.mem_of_getElem? ha)
        cases hw.eq_waiting (Call.keeps (Or.inl (hcalls c hc)))
  | ask hrun ha hasks hx ih =>
      obtain ⟨tr', u, hfollowed⟩ := ih
      obtain ⟨ph, horderly, hk⟩ := orderly hcalls hline hrun
      obtain ⟨now, rfl⟩ := once_at hrun ha
      exact hfollowed.step horderly hk ha hasks hx
  | again hrun ha _ =>
      obtain ⟨p, hp⟩ := once_at hrun ha
      cases hp
  | spawn _ ha _ => exact ha.elim
  | move _ hmove _ => exact hmove.elim

/-- When all tasks have ended nobody has to do with the lock. -/
theorem outside_of_ended {ph : TaskId → Phase}
    (hk : t.Keeps mutating (fun q _ => q = Phase.outside) Phase.outside ph)
    (hended : ∀ a ∈ t.tasks, a.result? ≠ none) (i : TaskId) : ph i = .outside := by
  rcases Nat.lt_or_ge i t.tasks.length with hlt | hge
  · have ha : t.tasks[i]? = some t.tasks[i] := List.getElem?_eq_getElem hlt
    obtain ⟨y, hy⟩ := Option.ne_none_iff_exists'.mp (hended _ (List.mem_of_getElem? ha))
    exact (hk.task ha).ends hy
  · exact hk.rest hge

/-- When all tasks have ended, the run that was followed and the one that follows it have
    come to the same state. -/
theorem eq_of_ended (h : Follows tr t u) {ph : TaskId → Phase} (horderly : Orderly tr t.state ph)
    (hout : ∀ i, ph i = .outside) (hended : ∀ a ∈ t.tasks, a.result? ≠ none) :
    holder tr = none ∧ u = t := by
  have hholder : holder tr = none :=
    horderly.line.holder_eq_none fun i hi => by
      rw [hout i] at hi
      exact hi
  have hline : t.state.line = [] :=
    List.eq_nil_iff_forall_not_mem.mpr fun i hi => horderly.line.mem_iff.mp hi (hout i)
  have hstate : u.state = t.state := by
    rw [h.state, hholder, Option.toList_none, ← hline]
    rfl
  have htasks : u.tasks = t.tasks := by
    refine List.ext_getElem? fun j => ?_
    cases ha : t.tasks[j]? with
    | none => rw [List.getElem?_eq_none_iff, h.length, ← List.getElem?_eq_none_iff, ha]
    | some a =>
        rcases h.task ha with ⟨-, hu⟩ | ⟨⟨_, hasks⟩, -⟩
        · exact hu
        · exact absurd hasks.result?_eq_none (hended a (List.mem_of_getElem? ha))
  refine ⟨hholder, ?_⟩
  calc u = ⟨u.state, u.tasks⟩ := rfl
    _ = ⟨t.state, t.tasks⟩ := by rw [hstate, htasks]

/-- Before each exchange of a run the tasks are in order, and the exchange is a step of the
    discipline there. -/
theorem step_at (hcalls : ∀ c ∈ calls, c.Changes) (hline : s.line = [])
    (h : Together around s calls tr t) {before after : List (Exchange interface)}
    (htr : tr = before ++ ⟨id, r, x⟩ :: after) :
    ∃ (v : Server σ) (ph : TaskId → Phase) (ph' : Phase), Orderly before v ph ∧
      Change (fun _ => False) (ph id) r x ph' ∧
      Shows id v.line v.table r x := by
  obtain ⟨v, ph, ph', state, horderly, hstep, hx⟩ := System.Runs.step_at (P := mutating) Orderly
    (fun hx => (answers_of_answer hx).possible) (fun hrun => orderly hcalls hline hrun) h htr
  exact ⟨v, ph, ph', horderly, hstep, (answers_of_answer hx).shows⟩

/-- An insertion displaces no peer. -/
theorem insert_eq_none (hcalls : ∀ c ∈ calls, c.Changes) (hline : s.line = [])
    (h : Together around s calls tr t) {before after : List (Exchange interface)} {p : Peer}
    {q : Option Peer} (htr : tr = before ++ ⟨id, .insert p, q⟩ :: after) : q = none := by
  obtain ⟨v, ph, ph', horderly, hstep, hshows⟩ := step_at hcalls hline h htr
  generalize hp : ph id = phase at hstep
  cases hstep with
  | insert =>
      have hknown := horderly.known.inside (i := id) (hp ▸ trivial)
      rw [hp] at hknown
      exact hshows.trans hknown
  | aside hr => exact hr.elim

/-- A removal of one connection finds it, and it is the one that the task has inserted. -/
theorem removeSame_eq (hcalls : ∀ c ∈ calls, c.Changes) (hline : s.line = [])
    (h : Together around s calls tr t) {before after : List (Exchange interface)} {n : Subnet}
    {p : Peer} {q : Option Peer} (htr : tr = before ++ ⟨id, .removeSame n p, q⟩ :: after) :
    q = some p ∧ insertedBy id before = some p := by
  obtain ⟨v, ph, ph', horderly, hstep, hshows⟩ := step_at hcalls hline h htr
  generalize hp : ph id = phase at hstep
  cases hstep with
  | removeSame =>
      have hknown := horderly.known.inside (i := id) (hp ▸ trivial)
      rw [hp] at hknown
      have hq : q = (v.table.removeSame p.network p).1 := hshows
      rw [RouteTable.removeSame_eq hknown] at hq
      exact ⟨hq, horderly.inserted hp⟩
  | aside hr => exact hr.elim

/-- **Concurrent calls are serialisable.**  When all of them have ended, the server, the
    results of the calls and the route commands are those of making the changes one by one
    in the order in which the lock was taken.  Whether or not they have ended, no insertion
    has displaced a peer, every rollback has removed the connection that its own task has
    inserted, and calls for hosts without a network have asked for nothing. -/
theorem serializable (hcalls : ∀ c ∈ calls, c.Changes) (hline : s.line = [])
    (h : Together around s calls tr t) :
    ((∀ a ∈ t.tasks, a.result? ≠ none) →
        ∃ tr', Together around s calls tr' t ∧
          oneByOne around (lockOrder tr) ⟨s, calls.map Call.task⟩ = (tr', t) ∧
          commands tr' = commands tr) ∧
      (∀ before after i p q, tr = before ++ ⟨i, .insert p, q⟩ :: after → q = none) ∧
      (∀ before after i n p q, tr = before ++ ⟨i, .removeSame n p, q⟩ :: after →
        q = some p ∧ insertedBy i before = some p) ∧
      ∀ i c, calls[i]? = some c → c.Refused →
        t.tasks[i]? = some c.task ∧ ∀ e ∈ tr, e.task ≠ i := by
  refine ⟨fun hended => ?_, fun before after i p q htr => insert_eq_none hcalls hline h htr,
    fun before after i n p q htr => removeSame_eq hcalls hline h htr, fun i c hc hrefused => ?_⟩
  · obtain ⟨tr', u, hfollowed⟩ := followed hcalls hline h
    obtain ⟨ph, horderly, hk⟩ := orderly hcalls hline h
    have hout := outside_of_ended hk hended
    obtain ⟨hholder, rfl⟩ := eq_of_ended hfollowed.follows horderly hout hended
    have hmade := hfollowed.made
    rw [hholder] at hmade
    exact ⟨tr', hfollowed.run, hmade, hfollowed.commands⟩
  · obtain ⟨reply, hreply⟩ := hrefused.result?
    have ha : (calls.map Call.task)[i]? = some c.task := by
      rw [List.getElem?_map, hc]
      rfl
    exact System.Runs.of_result h ha hreply

/-- A host is added and deleted at the same time; the task that deletes it lines up while the
    other one does, and the host is deleted after it was added. -/
theorem serializable_add_del :
    ∃ tr t tr', Together Scene.around
        { device := "loom0", outside := { reach := .everything, device := .channel {} } }
        [.add ⟨"192.0.2.1:7000", "10.1.0.0/16"⟩, .del ⟨"192.0.2.1:7000", "10.1.0.0/16"⟩] tr t ∧
      (∀ a ∈ t.tasks, a.result? ≠ none) ∧ lockOrder tr = [0, 1] ∧
      (commands tr).map Prod.fst = [.del, .add, .del] ∧
      oneByOne Scene.around (lockOrder tr)
        ⟨{ device := "loom0", outside := { reach := .everything, device := .channel {} } },
          [Call.add ⟨"192.0.2.1:7000", "10.1.0.0/16"⟩,
            Call.del ⟨"192.0.2.1:7000", "10.1.0.0/16"⟩].map Call.task⟩ = (tr', t) ∧
      commands tr' = commands tr := by
  let host : Host := ⟨"192.0.2.1:7000", "10.1.0.0/16"⟩
  let server : Server Scene :=
    { device := "loom0", outside := { reach := .everything, device := .channel {} } }
  let start : System interface (Server Scene) Reply :=
    ⟨server, [Call.add host, .del host].map Call.task⟩
  have hfinds : (start.play (Server.machine Scene.around)
      ([0, 1] ++ List.replicate 9 0 ++ List.replicate 5 1)).any (fun (tr, t) =>
        decide ((∀ a ∈ t.tasks, a.result?.isSome) ∧ lockOrder tr = [0, 1] ∧
          (commands tr).map Prod.fst = [.del, .add, .del])) = true := by
    decide +kernel
  obtain ⟨⟨tr, t⟩, hplay, hfacts⟩ := (Option.any_eq_true _ _).mp hfinds
  obtain ⟨hsome, horder, hcommands⟩ := of_decide_eq_true hfacts
  have hcalls : ∀ c ∈ [Call.add host, .del host], c.Changes := by
    simp [Call.Changes]
  have hrun : Together Scene.around server [.add host, .del host] tr t :=
    System.Runs.play .refl hplay
  have hended : ∀ a ∈ t.tasks, a.result? ≠ none :=
    fun a ha => Option.isSome_iff_ne_none.mp (hsome a ha)
  obtain ⟨tr', -, hone, hsame⟩ := (serializable hcalls rfl hrun).1 hended
  exact ⟨tr, t, tr', hrun, hended, horder, hcommands, hone, hsame⟩

end Together

end Overlay.Tunnel
