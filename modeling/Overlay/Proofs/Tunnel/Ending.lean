import Overlay.Proofs.Tunnel.Feeding

/-!
# How the loops end

A loop ends because of what it found last and for no other reason: because it was told to stop,
because the device is closed, or because a read failed for good (`endingOf`).  What becomes of a
packet that it has taken ends no loop.

* `Job.Step.goes`: a step of a loop finds something, or it goes on with the packet in hand.
* `ends_of_ending`: a loop that has found what ends it has ended, or its next step says so.
* `Minded` ties the phases of the loops to the trace: how each loop ends, which packet it has
  in hand, and which endings the server knows.
-/

namespace Overlay.Tunnel

variable {σ : Type} {tr : List (Exchange interface)} {d : Direction} {id : TaskId} {r : Request}
  {x : r.Answer}

/-! ## What a loop finds and passes on -/

/-- What a loop has found whenever it looked for a packet, the oldest first. -/
def found (d : Direction) (tr : List (Exchange interface)) : List Arrival :=
  tr.filterMap fun e =>
    match e with
    | ⟨_, .arrival d', x⟩ => if d' = d then some x else none
    | _ => none

/-- The packet that was found. -/
def Arrival.packet? : Arrival → Option Packet
  | read (.ok p) => some p
  | _ => none

/-- The packets that a loop has read. -/
def taken (d : Direction) (tr : List (Exchange interface)) : List Packet :=
  (found d tr).filterMap Arrival.packet?

/-- The packets that a loop has passed on: to the device, or to the socket of a peer. -/
def passed : Direction → List (Exchange interface) → List Packet
  | .inbound, tr => (writes tr).map Prod.fst
  | .outbound, tr => (sends tr).map Prod.snd

theorem found_append (tr tr' : List (Exchange interface)) :
    found d (tr ++ tr') = found d tr ++ found d tr' := List.filterMap_append

theorem taken_append (tr tr' : List (Exchange interface)) :
    taken d (tr ++ tr') = taken d tr ++ taken d tr' := by
  rw [taken, found_append, List.filterMap_append]
  rfl

theorem passed_append (tr tr' : List (Exchange interface)) :
    passed d (tr ++ tr') = passed d tr ++ passed d tr' := by
  cases d with
  | inbound => rw [passed, writes_append, List.map_append]; rfl
  | outbound => rw [passed, sends_append, List.map_append]; rfl

/-- How a loop ends because of what it has found, if it does. -/
def endingOf : Direction → Arrival → Option Ending
  | _, .stop => some (.ok ())
  | .inbound, .read (.error e) => some (.error (.io e))
  | .outbound, .read (.error e) =>
    if e.kind = .brokenPipe ∨ e.kind = .notConnected ∨ e.kind = .unexpectedEof then
      some (.error (.io e))
    else none
  | .inbound, .read (.ok _) => none
  | .outbound, .read (.ok []) => some (.error .deviceClosed)
  | .outbound, .read (.ok (_ :: _)) => none

/-- Errors of three kinds say that the device is gone. -/
theorem closesDevice_iff {e : IoError} : e.closesDevice = true ↔
    e.kind = .brokenPipe ∨ e.kind = .notConnected ∨ e.kind = .unexpectedEof := by
  unfold IoError.closesDevice
  cases e.kind <;> simp

/-! ## A step of a loop -/

/-- How the loop ends, once it does. -/
def Inbound.ending? : Inbound → Option Ending
  | leaving e => some e
  | ended e => some e
  | _ => none

namespace Job

/-- The loop that the task is. -/
def loop? : Job → Option Direction
  | inbound _ => some .inbound
  | outbound _ => some .outbound
  | other => none

/-- How the loop ends, once it does. -/
def ending? : Job → Option Ending
  | inbound q => q.ending?
  | outbound q => q.ending?
  | other => none

/-- The packet in hand, if there is one and it may still be passed on. -/
def hand : Job → List Packet
  | inbound (.writing p) => [p]
  | outbound (.reporting _ _ p) => [p]
  | outbound (.seeking _ p) => [p]
  | outbound (.sending _ p) => [p]
  | _ => []

/-- The job of a loop that has ended. -/
def finished : Direction → Ending → Job
  | .inbound, e => inbound (.ended e)
  | .outbound, e => outbound (.ended e)

end Job

/-- What a step of a loop does.  It finds something, or it goes on with what it has. -/
inductive Goes (d : Direction) (e : Exchange interface) (q q' : Job) : Prop where
  | finds (y : Arrival) (look : e.request = .arrival d) (finds : found d [e] = [y])
      (free : q.hand = [] ∧ q.load = 0 ∧ q.ending? = none) (ending : q'.ending? = endingOf d y)
      (hand : q'.hand.Sublist y.packet?.toList) (load : q'.load ≤ y.packet?.toList.length)
      (passes : passed d [e] = [])
  | handles (finds : found d [e] = []) (ending : q'.ending? = q.ending?)
      (hand : (passed d [e] ++ q'.hand).Sublist q.hand)
      (load : e.request.moved.length + q'.load = q.load)

/-- A datagram that was taken ends nothing, and it is all that is in hand. -/
theorem Inbound.goes_take (p : Packet) :
    (Inbound.take p).ending? = none ∧ (Job.inbound (.take p)).hand.Sublist [p] ∧
      (Inbound.take p).load ≤ 1 := by
  unfold Inbound.take
  cases p.validate with
  | error e => exact ⟨rfl, List.nil_sublist _, Nat.le_refl 1⟩
  | ok _ => exact ⟨rfl, .refl _, Nat.le_refl 1⟩

theorem Inbound.goes_arrive (y : Arrival) :
    (Inbound.arrive y).ending? = endingOf .inbound y ∧
      (Job.inbound (.arrive y)).hand.Sublist y.packet?.toList ∧
      (Inbound.arrive y).load ≤ y.packet?.toList.length := by
  match y with
  | .stop => exact ⟨rfl, .slnil, Nat.le_refl 0⟩
  | .read (.error e) => exact ⟨rfl, .slnil, Nat.le_refl 0⟩
  | .read (.ok p) => exact goes_take p

/-- A packet that was taken ends nothing, and it is all that is in hand. -/
theorem Outbound.goes_take (p : Packet) :
    (Outbound.take p).ending? = none ∧ (Job.outbound (.take p)).hand.Sublist [p] ∧
      (Outbound.take p).load ≤ 1 := by
  unfold Outbound.take
  split
  · exact ⟨rfl, .refl _, Nat.le_refl 1⟩
  · exact ⟨rfl, List.nil_sublist _, Nat.le_refl 1⟩

/-- A read that fails ends the loop when the error says that the device is gone. -/
theorem Outbound.arrive_error (e : IoError) :
    (Outbound.arrive (.read (.error e))).ending? = endingOf .outbound (.read (.error e)) ∧
      (Job.outbound (.arrive (.read (.error e)))).hand = [] ∧
      (Outbound.arrive (.read (.error e))).load = 0 := by
  show (if e.closesDevice then leaving (.error (.io e)) else idle).ending? =
      (if _ then _ else _) ∧
    (Job.outbound (if e.closesDevice then leaving (.error (.io e)) else idle)).hand = [] ∧
      (if e.closesDevice then leaving (.error (.io e)) else idle).load = 0
  by_cases hclosed : e.closesDevice = true
  · rw [if_pos hclosed, if_pos (closesDevice_iff.mp hclosed)]
    exact ⟨rfl, rfl, rfl⟩
  · rw [if_neg hclosed, if_neg fun h => hclosed (closesDevice_iff.mpr h)]
    exact ⟨rfl, rfl, rfl⟩

theorem Outbound.goes_arrive (y : Arrival) :
    (Outbound.arrive y).ending? = endingOf .outbound y ∧
      (Job.outbound (.arrive y)).hand.Sublist y.packet?.toList ∧
      (Outbound.arrive y).load ≤ y.packet?.toList.length := by
  match y with
  | .stop => exact ⟨rfl, .slnil, Nat.le_refl 0⟩
  | .read (.error e) =>
      obtain ⟨hending, hhand, hload⟩ := arrive_error e
      exact ⟨hending, hhand ▸ .slnil, Nat.le_of_eq hload⟩
  | .read (.ok []) => exact ⟨rfl, List.nil_sublist _, Nat.zero_le 1⟩
  | .read (.ok (b :: bytes)) => exact goes_take (b :: bytes)

/-- A step of a loop finds something, or it goes on with the packet in hand. -/
theorem Job.Step.goes {q q' : Job} (h : Job.Step q r x q') (hd : q.loop? = some d) (id : TaskId) :
    Goes d ⟨id, r, x⟩ q q' := by
  cases h with
  | inbound h =>
      cases hd
      cases h with
      | @arrive y =>
          obtain ⟨hending, hhand, hload⟩ := Inbound.goes_arrive y
          exact .finds y rfl rfl ⟨rfl, rfl, rfl⟩ hending hhand hload rfl
      | write => exact .handles rfl rfl (.refl _) rfl
      | count | finish => exact .handles rfl rfl .slnil rfl
  | outbound h =>
      cases hd
      cases h with
      | @arrive y =>
          obtain ⟨hending, hhand, hload⟩ := Outbound.goes_arrive y
          exact .finds y rfl rfl ⟨rfl, rfl, rfl⟩ hending hhand hload rfl
      | report | send => exact .handles rfl rfl (.refl _) rfl
      | @seek a p y =>
          cases y with
          | none => exact .handles rfl rfl (List.nil_sublist _) rfl
          | some q => exact .handles rfl rfl (.refl _) rfl
      | count | finish => exact .handles rfl rfl .slnil rfl
  | other => exact nomatch hd

/-- A step of another task finds nothing for the loop and passes nothing on for it. -/
theorem Job.Step.apart {q q' : Job} (h : Job.Step q r x q') (hd : q.loop? ≠ some d)
    (id : TaskId) : found d [⟨id, r, x⟩] = [] ∧ passed d [⟨id, r, x⟩] = [] := by
  cases h with
  | inbound h =>
      cases d with
      | inbound => exact absurd rfl hd
      | outbound => cases h with
        | arrive | write | count | finish => exact ⟨rfl, rfl⟩
  | outbound h =>
      cases d with
      | outbound => exact absurd rfl hd
      | inbound => cases h with
        | arrive | report | seek | send | count | finish => exact ⟨rfl, rfl⟩
  | other hr =>
      cases r with
      | arrival | write | send => exact absurd trivial hr
      | _ => cases d <;> exact ⟨rfl, rfl⟩

/-- A task stays the loop that it is. -/
theorem Job.Step.loop?_eq {q q' : Job} (h : Job.Step q r x q') : q'.loop? = q.loop? := by
  cases h <;> rfl

/-- A loop that has ended takes no step. -/
theorem Job.not_step_finished {q : Job} {e : Ending} : ¬ Job.Step (.finished d e) r x q := by
  intro h
  cases d with
  | inbound => cases h with
    | inbound h => cases h
  | outbound => cases h with
    | outbound h => cases h

/-- All that a loop which is ending still does is to say so. -/
theorem Job.Step.of_ending {q q' : Job} {e : Ending} (h : Job.Step q r x q')
    (hd : q.loop? = some d) (he : q.ending? = some e) : r = .finish d e ∧ q' = .finished d e := by
  cases h with
  | inbound h =>
      cases hd
      cases h with
      | finish =>
          cases he
          exact ⟨rfl, rfl⟩
      | arrive | write | count => exact nomatch he
  | outbound h =>
      cases hd
      cases h with
      | finish =>
          cases he
          exact ⟨rfl, rfl⟩
      | arrive | report | seek | send | count => exact nomatch he
  | other => exact nomatch hd

/-- Only a loop says that it has ended, and then it has. -/
theorem Job.Step.finish {q q' : Job} {e : Ending} {y : Unit}
    (h : Job.Step q (.finish d e) y q') : q.loop? = some d ∧ q' = .finished d e := by
  cases h with
  | inbound h => cases h with
    | finish => exact ⟨rfl, rfl⟩
  | outbound h => cases h with
    | finish => exact ⟨rfl, rfl⟩
  | other hr => exact absurd trivial hr

/-- The tasks that are the loops, and nobody else, have their jobs. -/
structure Placed (ph : TaskId → Job) : Prop where
  loop : ∀ d, (ph (loopTask d)).loop? = some d
  others : ∀ i, (∀ d, i ≠ loopTask d) → (ph i).loop? = none

namespace Placed

variable {ph : TaskId → Job} {q : Job}

theorem eq_loopTask (h : Placed ph) (hid : (ph id).loop? = some d) : id = loopTask d := by
  by_cases hloop : ∃ d', id = loopTask d'
  · obtain ⟨d', rfl⟩ := hloop
    rw [h.loop d'] at hid
    rw [Option.some.inj hid]
  · exact nomatch (h.others id fun d' hd' => hloop ⟨d', hd'⟩).symm.trans hid

theorem step (h : Placed ph) (hstep : Job.Step (ph id) r x q) :
    Placed (Function.update ph id q) := by
  have hsame : ∀ i, (Function.update ph id q i).loop? = (ph i).loop? := by
    intro i
    by_cases hi : i = id
    · subst hi
      rw [Function.update_self]
      exact hstep.loop?_eq
    · rw [Function.update_of_ne hi]
  exact ⟨fun d => (hsame _).trans (h.loop d), fun i hi => (hsame i).trans (h.others i hi)⟩

/-- What an exchange does for a loop: the loop makes it, or it has nothing to do with the
    loop. -/
theorem step_cases (h : Placed ph) (hstep : Job.Step (ph id) r x q) (d : Direction) :
    (id = loopTask d ∧ Function.update ph id q (loopTask d) = q ∧
        Goes d ⟨id, r, x⟩ (ph (loopTask d)) q) ∨
      (id ≠ loopTask d ∧ Function.update ph id q (loopTask d) = ph (loopTask d) ∧
        found d [⟨id, r, x⟩] = [] ∧ passed d [⟨id, r, x⟩] = []) := by
  by_cases hid : id = loopTask d
  · subst hid
    exact Or.inl ⟨rfl, Function.update_self .., hstep.goes (h.loop d) (loopTask d)⟩
  · refine Or.inr ⟨hid, Function.update_of_ne (fun heq => hid heq.symm) .., hstep.apart ?_ id⟩
    exact fun hloop => hid (h.eq_loopTask hloop)

end Placed

theorem placed_launched : Placed launched where
  loop := by
    intro d
    cases d <;> rfl
  others := by
    intro i hi
    match i with
    | 0 => exact absurd rfl (hi .inbound)
    | 1 => exact absurd rfl (hi .outbound)
    | 2 => rfl
    | i + 3 => rfl

/-- A loop that is ending does not run again: the next run would look for a packet. -/
theorem not_again {q : Job} {e : Ending} (hd : q.loop? = some d) (he : q.ending? = some e) :
    ¬ (Task.forever (runOf d) (.done none)).Keeps handling Job.EndsWith q := by
  intro hk
  obtain ⟨_, -, hagain⟩ := hk.again
  cases d with
  | inbound | outbound =>
      obtain ⟨q', hstep, -⟩ := hagain Arrival.stop trivial
      exact nomatch (hstep.of_ending hd he).1

/-- A loop whose job is over has its result. -/
theorem result?_of_finished {now : Work (Option TaskResult)} {e : Ending}
    (hk : (Task.forever (runOf d) now).Keeps handling Job.EndsWith (Job.finished d e)) :
    (Task.forever (runOf d) now).result? = some (.ended e) := by
  cases now with
  | ask r next =>
      obtain ⟨x, hx⟩ := exists_plausible r
      obtain ⟨q, hstep, -⟩ := hk.asks (.forever (runOf d) r next) hx
      exact absurd hstep Job.not_step_finished
  | done y =>
      cases y with
      | none => exact absurd hk (by cases d <;> exact not_again rfl rfl)
      | some y =>
          have hends : (Job.finished d e).EndsWith y := hk.ends rfl
          cases d with
          | inbound | outbound => exact congrArg some hends

/-- What a task ends with is how its loop ends. -/
theorem Job.EndsWith.ending? {q : Job} {y : TaskResult} (h : q.EndsWith y)
    (hd : q.loop? = some d) : ∃ e, q.ending? = some e ∧ y = .ended e := by
  cases q with
  | inbound q =>
      cases q with
      | ended e => exact ⟨e, rfl, h⟩
      | _ => exact h.elim
  | outbound q =>
      cases q with
      | ended e => exact ⟨e, rfl, h⟩
      | _ => exact h.elim
  | other => exact nomatch hd

/-- A loop that is ending has its result, or it has it after its next step. -/
theorem ends_of_ending {now : Work (Option TaskResult)} {q : Job} {e : Ending}
    (hk : (Task.forever (runOf d) now).Keeps handling Job.EndsWith q) (hd : q.loop? = some d)
    (he : q.ending? = some e) :
    (Task.forever (runOf d) now).result? = some (.ended e) ∨
      ∃ next : Unit → Work (Option TaskResult), now = .ask (.finish d e) next ∧
        (Task.forever (runOf d) (next ())).result? = some (.ended e) := by
  cases now with
  | ask r next =>
      obtain ⟨x, hx⟩ := exists_plausible r
      obtain ⟨q', hstep, hnext⟩ := hk.asks (.forever (runOf d) r next) hx
      obtain ⟨rfl, rfl⟩ := hstep.of_ending hd he
      exact Or.inr ⟨next, rfl, result?_of_finished hnext⟩
  | done y =>
      cases y with
      | none => exact absurd hk (not_again hd he)
      | some y =>
          obtain ⟨e', he', rfl⟩ := (hk.ends rfl : q.EndsWith y).ending? hd
          obtain rfl := Option.some.inj (he'.symm.trans he)
          exact Or.inl rfl

/-! ## The loops and the trace -/

/-- What an answer says about the shutdown. -/
def Tells (s : Server σ) : (r : Request) → r.Answer → Prop
  | .arrival _, x => x = .stop ↔ s.stopping = true
  | .firstEnded, x => x ∈ s.ended
  | .join d, x => (d, x) ∈ s.ended
  | _, _ => True

/-- What an exchange does to the counters and to the shutdown, whichever of two loops that have
    ended is taken for the first. -/
structure Heeds (r : Request) (x : r.Answer) (s s' : Server σ) : Prop where
  possible : Plausible r x
  tells : Tells s r x
  ended : s'.ended = r.endedAfter s.ended
  stats : s'.stats = r.moved.foldl Stats.bump s.stats
  stopping : s.stopping = true → s'.stopping = true
  stop : r = .stop → s'.stopping = true

theorem tells_of_answer {around : Surroundings σ} {s s' : Server σ}
    (h : s.answer around id r = some (x, s')) : Tells s r x := by
  cases r with
  | arrival d =>
      simp only [Server.answer] at h
      split at h
      · rename_i hstop
        cases h
        exact iff_of_true rfl hstop
      · rename_i hgo
        obtain ⟨y, -, heq⟩ := Option.map_eq_some_iff.mp h
        cases heq
        exact iff_of_false (fun heq => by cases heq) hgo
  | firstEnded =>
      obtain ⟨e, he, heq⟩ := Option.map_eq_some_iff.mp h
      cases heq
      exact List.mem_of_getLast? he
  | join d =>
      obtain ⟨e, he, heq⟩ := Option.map_eq_some_iff.mp h
      cases heq
      obtain ⟨⟨d', e'⟩, hfind, rfl⟩ := Option.map_eq_some_iff.mp he
      obtain rfl : d' = d := of_decide_eq_true (List.find?_some hfind :)
      exact List.mem_of_find?_eq_some hfind
  | _ => trivial

theorem heeds_of_answer {around : Surroundings σ} {s s' : Server σ}
    (h : s.answer around id r = some (x, s')) : Heeds r x s s' where
  possible := (answers_of_answer h).possible
  tells := tells_of_answer h
  ended := (answers_of_answer h).ended
  stats := (stats_of_answer h).1
  stopping := (stats_of_answer h).2
  stop := by
    rintro rfl
    cases h
    rfl

/-- How the phases of the loops, the trace and the state of the server belong together. -/
structure Minded (tr : List (Exchange interface)) (s : Server σ) (ph : TaskId → Job) : Prop where
  place : Placed ph
  ending : ∀ d, (ph (loopTask d)).ending? = (found d tr).getLast?.bind (endingOf d)
  earlier : ∀ d, ∀ y ∈ (found d tr).dropLast, endingOf d y = none
  hand : ∀ d, (ph (loopTask d)).hand.Sublist (taken d tr).getLast?.toList
  stopped : ∀ d, .stop ∈ found d tr → s.stopping = true
  posted : ∀ d e, (d, e) ∈ s.ended →
    ph (loopTask d) = .finished d e ∧ ⟨loopTask d, .finish d e, ()⟩ ∈ tr

namespace Minded

variable {s s' : Server σ} {ph : TaskId → Job} {q : Job}

/-- What the state says is kept as long as no loop ends and no shutdown is taken back. -/
theorem move (h : Minded tr s ph) (hended : s'.ended = s.ended)
    (hstop : s.stopping = true → s'.stopping = true) : Minded tr s' ph :=
  ⟨h.place, h.ending, h.earlier, h.hand, fun d hd => hstop (h.stopped d hd), hended ▸ h.posted⟩

/-- While a loop goes on, nothing that it has found ends it. -/
theorem endingOf_eq_none (h : Minded tr s ph) (hgoing : (ph (loopTask d)).ending? = none) :
    ∀ y ∈ found d tr, endingOf d y = none := by
  intro y hy
  have hlast := (h.ending d).symm.trans hgoing
  have hearlier := h.earlier d
  rcases List.eq_nil_or_concat' (found d tr) with hnil | ⟨before, last, hfound⟩
  · exact absurd (hnil ▸ hy) List.not_mem_nil
  · rw [hfound, List.dropLast_concat] at hearlier
    rw [hfound, List.getLast?_concat] at hlast
    rw [hfound] at hy
    rcases List.mem_append.mp hy with hy | hy
    · exact hearlier y hy
    · exact (List.mem_singleton.mp hy) ▸ hlast

/-- How the loops end and what they have in hand is kept by every exchange. -/
theorem step_loop (h : Minded tr s ph) (hstep : Job.Step (ph id) r x q) (d : Direction) :
    (Function.update ph id q (loopTask d)).ending? =
        (found d (tr ++ [⟨id, r, x⟩])).getLast?.bind (endingOf d) ∧
      (∀ y ∈ (found d (tr ++ [⟨id, r, x⟩])).dropLast, endingOf d y = none) ∧
      (Function.update ph id q (loopTask d)).hand.Sublist
        (taken d (tr ++ [⟨id, r, x⟩])).getLast?.toList := by
  rw [found_append, taken_append]
  rcases h.place.step_cases hstep d with ⟨-, hupdate, hgoes⟩ | ⟨-, hupdate, hnone, -⟩
  · rw [hupdate]
    cases hgoes with
    | finds y _ hfound hfree hending hhand =>
        rw [taken, taken, hfound, List.getLast?_concat, List.dropLast_concat]
        refine ⟨hending, h.endingOf_eq_none hfree.2.2, hhand.trans ?_⟩
        cases hy : y.packet? with
        | none => exact List.nil_sublist _
        | some p => rw [List.filterMap_cons_some hy, List.filterMap_nil, List.getLast?_concat]
    | handles hnone hending hhand =>
        rw [taken, taken, hnone, List.append_nil, List.filterMap_nil, List.append_nil, hending]
        exact ⟨h.ending d, h.earlier d,
          ((List.sublist_append_right _ _).trans hhand).trans (h.hand d)⟩
  · rw [hupdate, taken, taken, hnone, List.append_nil, List.filterMap_nil, List.append_nil]
    exact ⟨h.ending d, h.earlier d, h.hand d⟩

/-- Every exchange keeps it. -/
theorem step (h : Minded tr s ph) (hstep : Job.Step (ph id) r x q) (hx : Heeds r x s s') :
    Minded (tr ++ [⟨id, r, x⟩]) s' (Function.update ph id q) := by
  refine ⟨h.place.step hstep, fun d => (h.step_loop hstep d).1,
    fun d => (h.step_loop hstep d).2.1, fun d => (h.step_loop hstep d).2.2, ?_, ?_⟩
  · intro d hd
    rw [found_append] at hd
    rcases List.mem_append.mp hd with hd | hd
    · exact hx.stopping (h.stopped d hd)
    · -- who finds that it is to stop has looked while the server was being shut down
      cases r with
      | arrival d' =>
          by_cases hd' : d' = d
          · have hfound : found d [⟨id, .arrival d', x⟩] = [x] := by simp [found, hd']
            rw [hfound] at hd
            exact hx.stopping (hx.tells.mp (List.mem_singleton.mp hd).symm)
          · have hfound : found d [⟨id, .arrival d', x⟩] = [] := by simp [found, hd']
            rw [hfound] at hd
            exact absurd hd List.not_mem_nil
      | _ => exact absurd hd List.not_mem_nil
  · intro d e he
    -- an ending is known from before, or it is the one that is being said
    have hold : (d, e) ∈ s.ended → Function.update ph id q (loopTask d) = .finished d e ∧
        ⟨loopTask d, .finish d e, ()⟩ ∈ tr ++ [⟨id, r, x⟩] := by
      intro hmem
      obtain ⟨hended, htr⟩ := h.posted d e hmem
      refine ⟨?_, List.mem_append_left _ htr⟩
      rw [Function.update_of_ne, hended]
      rintro rfl
      exact Job.not_step_finished (hended ▸ hstep)
    rw [hx.ended] at he
    cases r with
    | finish d' e' =>
        rcases List.mem_cons.mp he with heq | he
        · cases heq
          obtain ⟨hloop, rfl⟩ := hstep.finish
          obtain rfl := h.place.eq_loopTask hloop
          exact ⟨Function.update_self .., List.mem_append_right _ List.mem_cons_self⟩
        · exact hold he
    | _ => exact hold he

end Minded

theorem minded_launch {device : String} {w : σ} :
    Minded [] (launch device w).state launched where
  place := placed_launched
  ending := by
    intro d
    cases d <;> rfl
  earlier := fun _ _ hy => absurd hy List.not_mem_nil
  hand := by
    intro d
    cases d <;> exact .slnil
  stopped := fun _ hd => absurd hd List.not_mem_nil
  posted := fun _ _ he => absurd he List.not_mem_nil

end Overlay.Tunnel
