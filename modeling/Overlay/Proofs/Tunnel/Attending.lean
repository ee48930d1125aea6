import Overlay.Proofs.Tunnel.Outbound
import Overlay.Simulation.Tunnel

/-!
# Serving over a device in memory

A server that serves has two forwarding loops and a task that waits for them; operations on
its peers may begin at any time.  Beside the tasks the handle of the device is used, the
rest of the surroundings goes on, and the server is told to shut down.

Every task attends to its duty (`Duty`), and from the duties one can tell which loops have
ended (`Attended`).  `Serves.attended` says that this holds in every state that the server
can come to.
-/

namespace Overlay.Tunnel

variable {τ : Type}

/-! ## The system -/

/-- Surroundings with a device in memory; the rest of them is left open. -/
def overChannel (rest : Surroundings τ) : Surroundings (Channel × τ) where
  connect a w := ((rest.connect a w.2).1, w.1, (rest.connect a w.2).2)
  issue action n device w := (w.1, rest.issue action n device w.2)
  outcome action n device w :=
    (rest.outcome action n device w.2).map fun (r, v) => (r, w.1, v)
  report a w := (w.1, rest.report a w.2)
  send q p w := ((rest.send q p w.2).1, w.1, (rest.send q p w.2).2)
  read size w := (w.1.read size).map fun (p, c) => (.ok p, c, w.2)
  write p w := (w.1.write p).map fun (r, c) => (r, c, w.2)
  receive size w := (rest.receive size w.2).map fun (r, v) => (r, w.1, v)

/-- What the handle of the device may do. -/
inductive Handled : Channel → Channel → Prop where
  | transmit {c c' : Channel} {p : Packet} {x : Except IoError Unit} :
      c.transmit p = some (x, c') → Handled c c'
  | take {c c' : Channel} {x : Option Packet} : c.take = some (x, c') → Handled c c'
  | close (c : Channel) : Handled c c.close
  | drop (c : Channel) : Handled c c.dropHandle

/-- What happens beside the tasks. -/
inductive Happens : Server (Channel × τ) → Server (Channel × τ) → Prop where
  /-- The handle of the device is used. -/
  | handle {s : Server (Channel × τ)} {c : Channel} :
      Handled s.outside.1 c → Happens s { s with outside := (c, s.outside.2) }
  /-- The rest of the surroundings goes on. -/
  | drift (s : Server (Channel × τ)) (v : τ) : Happens s { s with outside := (s.outside.1, v) }
  /-- The server is told to shut down. -/
  | shutdown (s : Server (Channel × τ)) : Happens s { s with stopping := true }

/-- The operations on the peers that may begin at any time. -/
inductive Operation : Task interface TaskResult → Prop where
  | addPeer (h : Host) : Operation (.once (Simulation.addPeer h))
  | addPeers (hs : List Host) : Operation (.once (Simulation.addPeers hs))
  | delPeer (h : Host) : Operation (.once (Simulation.delPeer h))
  | clearPeers : Operation (.once Simulation.clearPeers)

/-- A server that begins to serve: the two loops, and the task that waits for them. -/
def serving (device : String) (w : τ) : System interface (Server (Channel × τ)) TaskResult :=
  ⟨{ device, outside := ({}, w) },
    [Simulation.loop .inbound, Simulation.loop .outbound, .once (.ended <$> serve)]⟩

/-- The number of the task that is a loop. -/
def loopTask : Direction → TaskId
  | .inbound => 0
  | .outbound => 1

/-- The number of the task that waits for the loops. -/
def serveTask : TaskId := 2

/-- The states that a serving server can come to. -/
def Serves (rest : Surroundings τ) (device : String) (w : τ) :
    System interface (Server (Channel × τ)) TaskResult → Prop :=
  System.Reaches (Server.machine (overChannel rest)) Operation Happens (serving device w)

/-! ## What the tasks do -/

/-- How far a task has come. -/
inductive Duty where
  /-- The loop goes on. -/
  | running (d : Direction)
  /-- The loop has ended. -/
  | ended (d : Direction)
  /-- The task waits until one of the loops has ended. -/
  | awaiting
  /-- It knows that this loop has ended first. -/
  | leading (d : Direction)
  /-- It waits for this loop. -/
  | joining (d : Direction)
  /-- The server has returned. -/
  | returned
  /-- The task is an operation on the peers. -/
  | operating

namespace Duty

/-- The task whose duty it is; there may be many operations. -/
def owner : Duty → Option TaskId
  | running d => some (loopTask d)
  | ended d => some (loopTask d)
  | awaiting => some serveTask
  | leading _ => some serveTask
  | joining _ => some serveTask
  | returned => some serveTask
  | operating => none

/-- The task may have ended. -/
def Resting : Duty → Prop
  | ended _ => True
  | returned => True
  | operating => True
  | _ => False

/-- The steps of the tasks. -/
inductive Step : Duty → (r : Request) → r.Answer → Duty → Prop where
  | arrival {d : Direction} {x : Arrival} : Step (running d) (.arrival d) x (running d)
  | write {p : Packet} {x : Except IoError Unit} :
      Step (running .inbound) (.write p) x (running .inbound)
  | prompt {d : Direction} {r : Request} {x : r.Answer} :
      r.Prompt → Step (running d) r x (running d)
  | finish {d : Direction} {e : Ending} {x : Unit} : Step (running d) (.finish d e) x (ended d)
  | firstEnded {x : Direction × Ending} : Step awaiting .firstEnded x (leading x.1)
  | stop {d : Direction} {x : Unit} : Step (leading d) .stop x (joining d.other)
  | join {d : Direction} {e : Ending} : Step (joining d) (.join d) e returned
  | operate {r : Request} {x : r.Answer} : ¬ r.Passive → Step operating r x operating

end Duty

/-- The protocol of a serving server. -/
def attending : Protocol interface where
  Phase := Duty
  Possible := Plausible
  Step := Duty.Step

/-- A task ends when its duty may have ended. -/
abbrev Rests (q : Duty) (_ : TaskResult) : Prop := q.Resting

section Programs

variable {d : Direction}

theorem count_attends {Ends : Duty → Unit → Prop} {c : Counter} (hends : Ends (.running d) ()) :
    (ask (.count c)).Keeps attending Ends (Duty.running d) :=
  fun _ _ => ⟨.running d, .prompt trivial, hends⟩

theorem finish_attends {Ends : Duty → Option Ending → Prop} {e : Ending}
    (hends : Ends (.ended d) (some e)) : (finish d e).Keeps attending Ends (Duty.running d) :=
  fun _ _ => ⟨.ended d, .finish, hends⟩

theorem forwardInbound_attends {Ends : Duty → Unit → Prop} {p : Packet}
    (hends : Ends (.running .inbound) ()) :
    (forwardInbound p).Keeps attending Ends (Duty.running .inbound) := by
  unfold forwardInbound
  split
  · exact count_attends hends
  · intro written _
    refine ⟨.running .inbound, .write, ?_⟩
    cases written with
    | ok _ => exact count_attends hends
    | error _ => exact count_attends hends

theorem forwardOutbound_attends {Ends : Duty → Unit → Prop} {p : Packet}
    (hends : Ends (.running .outbound) ()) :
    (forwardOutbound p).Keeps attending Ends (Duty.running .outbound) := by
  have hk : (forwardOutbound p).Keeps attending
      (fun q _ => q = Duty.running .outbound) (Duty.running .outbound) :=
    Program.Keeps.coarsen (P := promptly) (Q := attending) (fun _ => Duty.running .outbound)
      (fun _ _ _ => trivial) (fun hprompt => Duty.Step.prompt hprompt) (fun _ _ _ => rfl)
      (forwardOutbound_promptly p)
  exact hk.mono fun q _ hq => hq ▸ hends

theorem inboundRun_attends :
    (Option.map TaskResult.ended <$> inboundRun).Keeps attending
      (Task.RunEnds (· = Duty.running .inbound) Rests) (Duty.running .inbound) := by
  refine Program.Keeps.map ?_
  intro x _
  refine ⟨.running .inbound, .arrival, ?_⟩
  match x with
  | .stop => exact finish_attends trivial
  | .read (.error e) => exact finish_attends trivial
  | .read (.ok p) =>
      exact Program.Keeps.bind (f := fun _ => .done none) (forwardInbound_attends rfl)

theorem outboundRun_attends :
    (Option.map TaskResult.ended <$> outboundRun).Keeps attending
      (Task.RunEnds (· = Duty.running .outbound) Rests) (Duty.running .outbound) := by
  refine Program.Keeps.map ?_
  intro x _
  refine ⟨.running .outbound, .arrival, ?_⟩
  match x with
  | .stop => exact finish_attends trivial
  | .read (.error e) =>
      show (if e.closesDevice then finish .outbound (.error (.io e)) else .done none).Keeps
        attending _ _
      split
      · exact finish_attends trivial
      · exact rfl
  | .read (.ok []) => exact finish_attends trivial
  | .read (.ok (b :: bytes)) =>
      exact Program.Keeps.bind (f := fun _ => .done none) (forwardOutbound_attends rfl)

/-- The loops attend to their duties. -/
theorem loop_attends (d : Direction) :
    (Simulation.loop d).Keeps attending Rests (Duty.running d) := by
  cases d with
  | inbound =>
      exact Task.keeps_loop (· = Duty.running .inbound) (fun _ hq => hq ▸ inboundRun_attends) rfl
  | outbound =>
      exact Task.keeps_loop (· = Duty.running .outbound) (fun _ hq => hq ▸ outboundRun_attends) rfl

/-- The task that waits for the loops attends to its duty. -/
theorem serve_attends :
    (Task.once (TaskResult.ended <$> serve)).Keeps attending Rests Duty.awaiting := by
  intro x _
  refine ⟨.leading x.1, .firstEnded, ?_⟩
  intro _ _
  refine ⟨.joining x.1.other, .stop, ?_⟩
  intro _ _
  exact ⟨.returned, .join, trivial⟩

/-- Changes of the peers end no loop and wait for none. -/
theorem operating_of_changing {α : Type} {p : Work α} {Ends : Duty → α → Prop}
    (hends : ∀ a, Ends .operating a)
    (h : p.Keeps (changing fun _ => False) (fun q _ => q = Phase.outside) Phase.outside) :
    p.Keeps attending Ends Duty.operating := by
  refine Program.Keeps.coarsen (P := changing fun _ => False) (Q := attending)
    (fun _ => Duty.operating) (fun _ _ hx => hx) ?_ (fun _ a _ => hends a) h
  intro q r x q' hstep
  refine Duty.Step.operate ?_
  rcases Change.kind hstep with ⟨hfree, -⟩ | ⟨rfl, -⟩ | ⟨rfl, -⟩ | ⟨rfl, -⟩ | ⟨hnot, -⟩
  · exact hfree.elim
  · exact id
  · exact id
  · exact id
  · exact hnot

/-- Operations on the peers attend to theirs. -/
theorem Operation.attends {a : Task interface TaskResult} (h : Operation a) :
    a.Keeps attending Rests Duty.operating := by
  have hends : ∀ x, Rests .operating x := fun _ => trivial
  cases h with
  | addPeer host =>
      exact operating_of_changing hends (Program.Keeps.map (addPeer_keeps fun _ => rfl))
  | addPeers hosts =>
      exact operating_of_changing hends (Program.Keeps.map (addPeers_keeps fun _ => rfl))
  | delPeer host =>
      exact operating_of_changing hends (Program.Keeps.map (delPeer_keeps fun _ => rfl))
  | clearPeers =>
      exact operating_of_changing hends (Program.Keeps.map (clearPeers_keeps fun _ => rfl))

end Programs

/-! ## What every state keeps -/

section Reached

variable {rest : Surroundings τ} {device : String} {w : τ}

/-- Each duty is with the task whose it is, the loops that have ended are those that the server
    knows to have ended, and only such a loop is said to be the first. -/
structure Attended (s : Server (Channel × τ)) (ph : TaskId → Duty) : Prop where
  owner : ∀ i, (ph i).owner = if i < 3 then some i else none
  ended_iff : ∀ d, ph (loopTask d) = .ended d ↔ ∃ e, (d, e) ∈ s.ended
  leads : ∀ d, ph serveTask = .leading d ∨ ph serveTask = .joining d.other →
    ∃ e, (d, e) ∈ s.ended

/-- A step leaves the duty with its task. -/
theorem Duty.Step.owner_eq {q q' : Duty} {r : Request} {x : r.Answer} (h : Duty.Step q r x q') :
    q'.owner = q.owner := by
  cases h <;> rfl

/-- Only the step that ends a loop changes which loops have ended. -/
theorem Duty.Step.ended_iff {q q' : Duty} {r : Request} {x : r.Answer} (h : Duty.Step q r x q')
    (hr : ∀ d e, r ≠ .finish d e) (d : Direction) : q' = .ended d ↔ q = .ended d := by
  cases h with
  | finish => exact absurd rfl (hr _ _)
  | arrival | write | prompt => exact Iff.rfl
  | firstEnded | stop | join | operate =>
      exact iff_of_false (fun h => nomatch h) fun h => nomatch h

theorem Request.endedAfter_eq {r : Request} (hr : ∀ d e, r ≠ .finish d e)
    (ended : List (Direction × Ending)) : r.endedAfter ended = ended := by
  cases r with
  | finish d e => exact absurd rfl (hr d e)
  | _ => rfl

theorem loopTask_inj {d d' : Direction} (h : loopTask d = loopTask d') : d = d' := by
  cases d with
  | inbound =>
      cases d' with
      | inbound => rfl
      | outbound => exact nomatch h
  | outbound =>
      cases d' with
      | inbound => exact nomatch h
      | outbound => rfl

theorem loopTask_ne_serveTask (d : Direction) : loopTask d ≠ serveTask := by
  cases d <;> decide

theorem other_other (d : Direction) : d.other.other = d := by
  cases d <;> rfl

theorem other_inj {d d' : Direction} (h : d.other = d'.other) : d = d' := by
  rw [← other_other d, h, other_other]

variable {s s' : Server (Channel × τ)} {ph : TaskId → Duty} {id : TaskId} {r : Request}
  {x : r.Answer} {q : Duty}

/-- The task with a duty is the one whose it is. -/
theorem Attended.eq_of_owner (h : Attended s ph) {i : TaskId} (hid : (ph id).owner = some i) :
    id = i := by
  rw [h.owner id] at hid
  split at hid
  · exact Option.some.inj hid
  · exact nomatch hid

/-- The end of a loop is known from then on. -/
theorem Attended.finish (h : Attended s ph) {d : Direction} {e : Ending}
    (hid : ph id = .running d) (hq : q = .ended d) (hended : s'.ended = (d, e) :: s.ended)
    (howner : ∀ i, ((Function.update ph id q) i).owner = if i < 3 then some i else none) :
    Attended s' (Function.update ph id q) := by
  obtain rfl : id = loopTask d := h.eq_of_owner (by rw [hid]; rfl)
  subst hq
  refine ⟨howner, ?_, ?_⟩
  · intro d'
    rw [hended]
    by_cases hd : d' = d
    · subst hd
      rw [Function.update_self]
      exact iff_of_true rfl ⟨e, List.mem_cons_self⟩
    · have hne : loopTask d' ≠ loopTask d := fun heq => hd (loopTask_inj heq)
      rw [Function.update_of_ne hne, h.ended_iff]
      constructor
      · exact fun ⟨e', he'⟩ => ⟨e', List.mem_cons_of_mem _ he'⟩
      · rintro ⟨e', he'⟩
        rcases List.mem_cons.mp he' with heq | he'
        · exact absurd (congrArg Prod.fst heq) hd
        · exact ⟨e', he'⟩
  · intro d' hleads
    rw [Function.update_of_ne (loopTask_ne_serveTask d).symm] at hleads
    obtain ⟨e', he'⟩ := h.leads d' hleads
    rw [hended]
    exact ⟨e', List.mem_cons_of_mem _ he'⟩

/-- The loop that the third task leads with after a step was in the answer to its question for
    the first one, or has been said to be the first before. -/
theorem Attended.leading (h : Attended s ph) (hstep : Duty.Step (ph serveTask) r x q)
    (hx : s.answer (overChannel rest) serveTask r = some (x, s')) {d : Direction}
    (hleads : q = .leading d ∨ q = .joining d.other) : ∃ e, (d, e) ∈ s.ended := by
  generalize hid : ph serveTask = q₀ at hstep
  cases hstep with
  | @firstEnded y =>
      have hd : y.1 = d := hleads.elim (fun heq => Duty.leading.inj heq) fun heq => nomatch heq
      obtain ⟨e, he, heq⟩ := Option.map_eq_some_iff.mp hx
      cases heq
      exact ⟨y.2, hd ▸ List.mem_of_getLast? he⟩
  | @stop d' =>
      have hd : d' = d :=
        other_inj (hleads.elim (fun heq => nomatch heq) fun heq => Duty.joining.inj heq)
      exact h.leads d (Or.inl (hd ▸ hid))
  | arrival | write | prompt | operate | join | finish =>
      exact hleads.elim (fun heq => nomatch heq) fun heq => nomatch heq

/-- Every exchange keeps it. -/
theorem Attended.step (h : Attended s ph) (hstep : Duty.Step (ph id) r x q)
    (hx : s.answer (overChannel rest) id r = some (x, s')) :
    Attended s' (Function.update ph id q) := by
  have hended := (answers_of_answer hx).ended
  have howner : ∀ i, ((Function.update ph id q) i).owner = if i < 3 then some i else none := by
    intro i
    rw [← h.owner i, Function.update_apply]
    split
    · rename_i hi
      rw [hi]
      exact hstep.owner_eq
    · rfl
  by_cases hr : ∃ d e, r = .finish d e
  · obtain ⟨d, e, rfl⟩ := hr
    generalize hid : ph id = q₀ at hstep
    cases hstep with
    | finish => exact h.finish hid rfl hended howner
    | prompt hprompt => exact hprompt.elim
    | operate hpassive => exact absurd trivial hpassive
  · have hr : ∀ d e, r ≠ .finish d e := fun d e heq => hr ⟨d, e, heq⟩
    rw [Request.endedAfter_eq hr] at hended
    refine ⟨howner, ?_, ?_⟩
    · intro d
      rw [hended, ← h.ended_iff, Function.update_apply]
      split
      · rename_i hi
        rw [hstep.ended_iff hr, hi]
      · exact Iff.rfl
    · intro d hleads
      rw [hended]
      rw [Function.update_apply] at hleads
      split at hleads
      · rename_i hi
        subst hi
        exact h.leading hstep hx hleads
      · exact h.leads d hleads

/-- What happens beside the tasks ends no loop. -/
theorem Attended.happens (h : Attended s ph) (hs : Happens s s') : Attended s' ph := by
  have hended : s'.ended = s.ended := by
    cases hs with
    | handle | drift | shutdown => rfl
  exact ⟨h.owner, fun d => hended ▸ h.ended_iff d, fun d hleads => hended ▸ h.leads d hleads⟩

theorem serving_keeps : (serving device w).Keeps attending Rests Duty.operating
    fun i => [Duty.running .inbound, .running .outbound, .awaiting][i]?.getD .operating :=
  System.Keeps.of_forall₂ <|
    .cons (loop_attends .inbound) (.cons (loop_attends .outbound) (.cons serve_attends .nil))

theorem attended_serving : Attended (serving device w).state
    fun i => [Duty.running .inbound, .running .outbound, .awaiting][i]?.getD .operating where
  owner := by
    intro i
    match i with
    | 0 => rfl
    | 1 => rfl
    | 2 => rfl
    | i + 3 =>
        rw [if_neg (Nat.not_lt.mpr (Nat.le_add_left 3 i))]
        rfl
  ended_iff := by
    intro d
    refine iff_of_false ?_ fun ⟨_, he⟩ => absurd he List.not_mem_nil
    cases d <;> exact fun h => nomatch h
  leads := fun _ h => h.elim (fun heq => nomatch heq) fun heq => nomatch heq

/-- The tasks attend to their duties in every state that is reached. -/
theorem Serves.attended {t : System interface (Server (Channel × τ)) TaskResult}
    (h : Serves rest device w t) :
    ∃ ph, Attended t.state ph ∧ t.Keeps attending Rests Duty.operating ph := by
  obtain ⟨tr, hrun⟩ := h.runs
  refine System.Runs.keeps (P := attending) (fun _ s ph => Attended s ph)
    (fun hx => (answers_of_answer hx).possible) serving_keeps attended_serving ?_
    (fun ha => ha.attends) (fun hinv hs => hinv.happens hs) hrun
  intro tr t ph id r x s' q _ hinv hstep hx
  exact Attended.step (q := q) hinv hstep hx

end Reached

end Overlay.Tunnel
