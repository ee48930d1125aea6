import Overlay.Proofs.Tunnel.Conservation
import Overlay.Tunnel.Reporting

/-!
# Reporting does not influence forwarding

The sources that a server reports may be put into a queue that somebody empties, or not, or at
whatever pace, and who may go away at any time.  A source that finds no room, or nobody there, is
dropped.

* `answer_queueing`: what the server is answered is what it would be answered if nobody wanted to
  know the sources, and only a report changes the queue.
* `Queued.unobserved`: so the two servers run alike, exchange by exchange, whatever happens to
  the queue; and what is received and what is missing can be told from how the queue was when
  each source was reported.
-/

namespace Overlay

/-! ## The server without the queue -/

namespace Server

variable {σ τ : Type}

/-- The server without what is beside its surroundings. -/
def bare (s : Server (τ × σ)) : Server σ := { s with outside := s.outside.2 }

/-- The server with something beside its surroundings. -/
def holding (q : τ) (s : Server σ) : Server (τ × σ) := { s with outside := (q, s.outside) }

end Server

namespace Tunnel

variable {σ : Type}

/-- The queue after a request. -/
def Request.queueAfter : Request → ReportQueue → ReportQueue
  | report a, q => q.push a
  | _, q => q

/-- **The queue has no say.**  A server that reports into a queue is answered as one that reports
    to nobody. -/
theorem answer_queueing (around : Surroundings σ) (id : TaskId) (r : Request)
    (s : Server (ReportQueue × σ)) :
    s.answer around.queueing id r =
      (s.bare.answer around.silent id r).map fun (x, s') =>
        (x, s'.holding (r.queueAfter s.outside.1)) := by
  cases r with
  | lock =>
      show (if s.line.head? = some id then some ((), s) else none) =
        (if s.line.head? = some id then some ((), s.bare) else none).map _
      by_cases hhead : s.line.head? = some id
      · rw [if_pos hhead, if_pos hhead]
        rfl
      · rw [if_neg hhead, if_neg hhead]
        rfl
  | connect n host =>
      obtain ⟨r, w, hconnect⟩ : ∃ r w, around.connect host.address s.outside.2 = (r, w) :=
        ⟨_, _, rfl⟩
      simp only [Server.answer, Surroundings.queueing, Surroundings.beside, Surroundings.silent,
        Server.bare, hconnect]
      cases r with
      | ok a => rfl
      | error e => rfl
  | arrival d =>
      show (if s.stopping then _ else _) = Option.map _ (if s.stopping then _ else _)
      by_cases hstop : s.stopping = true
      · rw [if_pos hstop, if_pos hstop]
        rfl
      · rw [if_neg hstop, if_neg hstop]
        cases d with
        | inbound | outbound =>
            simp only [Server.nextRead, Surroundings.queueing, Surroundings.beside,
              Surroundings.silent, Option.map_map]
            rfl
  | outcome | write =>
      simp only [Server.answer, Surroundings.queueing, Surroundings.beside, Surroundings.silent,
        Option.map_map]
      rfl
  | firstEnded | join =>
      simp only [Server.answer, Option.map_map]
      rfl
  | queue | unlock | remove | insert | removeSame | networks | lookup | issue | report | send
  | count | finish | stop => rfl

/-! ## The system -/

/-- How the queue was when a source was reported. -/
structure Sighting where
  /-- The source. -/
  address : Ipv4
  /-- How many sources were waiting. -/
  pending : Nat
  /-- Had the receiver gone away? -/
  gone : Bool

/-- There was room, and somebody to read it. -/
def Sighting.fits (capacity : Nat) (x : Sighting) : Bool := decide (x.pending < capacity) && !x.gone

/-- What has become of the sources, the oldest first. -/
structure Sightings where
  /-- Every report. -/
  log : List Sighting := []
  /-- What the receiver has taken. -/
  received : List Ipv4 := []
  /-- What was waiting when the receiver went away. -/
  abandoned : List Ipv4 := []

/-- A server that reports into a queue, and what has become of the sources. -/
abbrev Sighted (σ : Type) := Server (ReportQueue × σ) × Sightings

namespace Sighted

/-- The queue. -/
def queue (u : Sighted σ) : ReportQueue := u.1.outside.1

/-- The server with another queue. -/
def withQueue (u : Sighted σ) (q : ReportQueue) : Server (ReportQueue × σ) := u.1.bare.holding q

end Sighted

/-- Takes note of a report. -/
def noteReport (e : Exchange interface) (s : Server (ReportQueue × σ)) (n : Sightings) :
    Sightings :=
  match e.request with
  | .report a =>
    { n with log := n.log ++ [⟨a, s.outside.1.waiting.length, s.outside.1.receiverGone⟩] }
  | _ => n

/-- The machine of the server, with a note of every report. -/
def reportMachine (around : Surroundings σ) : Machine interface (Sighted σ) :=
  (Server.machine around.queueing).noting noteReport

/-- What happens beside the tasks. -/
inductive Consumes : Sighted σ → Sighted σ → Prop where
  /-- The receiver takes the oldest source. -/
  | take {u : Sighted σ} {a : Ipv4} {q : ReportQueue} : u.queue.pop = (.item a, q) →
      Consumes u (u.withQueue q, { u.2 with received := u.2.received ++ [a] })
  /-- The receiver goes away. -/
  | leave (u : Sighted σ) : Consumes u
      (u.withQueue u.queue.dropReceiver, { u.2 with abandoned := u.2.abandoned ++ u.queue.waiting })
  /-- The surroundings go on. -/
  | drift (u : Sighted σ) (w : σ) : Consumes u ({ u.1 with outside := (u.queue, w) }, u.2)
  /-- The server is told to shut down. -/
  | shutdown (u : Sighted σ) : Consumes u ({ u.1 with stopping := true }, u.2)

/-- A server at its beginning, with the queue. -/
def sightedLaunch (device : String) (q : ReportQueue) (w : σ) :
    System interface (Sighted σ) TaskResult :=
  ⟨((launch device w).state.holding q, {}), (launch device w).tasks⟩

/-- What happens to a server that forwards packets and reports into a queue, while its peers are
    changed. -/
def Queued (around : Surroundings σ) (q : ReportQueue) (device : String) (w : σ) :
    List (Exchange interface) → System interface (Sighted σ) TaskResult → Prop :=
  System.Runs (reportMachine around) Operation Consumes (sightedLaunch device q w)

variable {around : Surroundings σ} {device : String} {w : σ} {q : ReportQueue} {capacity : Nat}
  {tr : List (Exchange interface)} {t : System interface (Sighted σ) TaskResult}
  {u u' : Sighted σ} {v v' : Server σ} {id : TaskId} {r : Request} {x : r.Answer}

/-- What an answer to the server says. -/
theorem answer_reportMachine (h : (reportMachine around).answer id r u = some (x, u')) :
    (u.1.bare.answer around.silent id r = some (x, u'.1.bare) ∧
      u'.queue = r.queueAfter u.queue) ∧ u'.2 = noteReport ⟨id, r, x⟩ u.1 u.2 := by
  obtain ⟨hx, hnote⟩ := Machine.answer_noting h
  have hx : u.1.answer around.queueing id r = some (x, u'.1) := hx
  rw [answer_queueing] at hx
  obtain ⟨⟨y, s'⟩, hy, heq⟩ := Option.map_eq_some_iff.mp hx
  obtain ⟨rfl, hs⟩ := Prod.mk.inj heq
  rw [Sighted.queue, ← hs]
  exact ⟨⟨hy, rfl⟩, hnote⟩

/-- And everything that the other one is answered it is answered, too. -/
theorem exists_answer_reportMachine (h : u.1.bare.answer around.silent id r = some (x, v')) :
    ∃ u', (reportMachine around).answer id r u = some (x, u') ∧ u'.1.bare = v' := by
  have hx : u.1.answer around.queueing id r =
      some (x, v'.holding (r.queueAfter u.1.outside.1)) := by
    rw [answer_queueing, h]
    rfl
  exact ⟨(_, _), Option.map_eq_some_iff.mpr ⟨_, hx, rfl⟩, rfl⟩

/-! ## The two servers run alike -/

/-- What happens beside the one server happens beside the other, or it is the queue's affair. -/
theorem Consumes.bare (h : Consumes u u') :
    u'.1.bare = u.1.bare ∨ Meanwhile u.1.bare u'.1.bare := by
  cases h with
  | take | leave => exact Or.inl rfl
  | drift w => exact Or.inr (.drift _ w)
  | shutdown => exact Or.inr (.shutdown _)

/-- A server that reports to nobody does what the other one does. -/
theorem silenced {t₀ : System interface (Sighted σ) TaskResult}
    (h : System.Runs (reportMachine around) Operation Consumes t₀ tr t) :
    System.Runs (Server.machine around.silent) Operation Meanwhile ⟨t₀.state.1.bare, t₀.tasks⟩ tr
      ⟨t.state.1.bare, t.tasks⟩ := by
  have hsim : ∃ v, v = t.state.1.bare ∧ System.Runs (Server.machine around.silent) Operation
      Meanwhile ⟨t₀.state.1.bare, t₀.tasks⟩ tr ⟨v, t.tasks⟩ := by
    refine System.Runs.simulate (fun u v => v = u.1.bare) ?_ ?_ h rfl
    · rintro u u' _ id r x rfl hx
      exact ⟨_, (answer_reportMachine hx).1.1, rfl⟩
    · rintro u u' _ rfl hmove
      exact ⟨_, hmove.bare, rfl⟩
  obtain ⟨_, rfl, hrun⟩ := hsim
  exact hrun

/-- And the other one does what that server does, whatever is in the queue. -/
theorem unsilenced {t₀ : System interface (Sighted σ) TaskResult}
    {s : System interface (Server σ) TaskResult}
    (h : System.Runs (Server.machine around.silent) Operation Meanwhile
      ⟨t₀.state.1.bare, t₀.tasks⟩ tr s) :
    ∃ t, System.Runs (reportMachine around) Operation Consumes t₀ tr t ∧
      t.state.1.bare = s.state ∧ t.tasks = s.tasks := by
  have hsim : ∃ u, Server.bare u.1 = s.state ∧ System.Runs (reportMachine around) Operation
      Consumes ⟨t₀.state, t₀.tasks⟩ tr ⟨u, s.tasks⟩ := by
    refine System.Runs.simulate (fun v (u : Sighted σ) => u.1.bare = v) ?_ ?_ h rfl
    · rintro _ v' u id r x rfl hx
      exact exists_answer_reportMachine hx
    · rintro _ v' u rfl hmove
      cases hmove with
      | drift w => exact ⟨_, Or.inr (.drift u w), rfl⟩
      | shutdown => exact ⟨_, Or.inr (.shutdown u), rfl⟩
  obtain ⟨u, hu, hrun⟩ := hsim
  exact ⟨_, hrun, hu, rfl⟩

/-! ## What the receiver gets -/

/-- The reports, what is in the queue and what has become of the sources belong together. -/
structure Accounted (capacity : Nat) (tr : List (Exchange interface)) (u : Sighted σ) : Prop where
  /-- The log is the list of the reports. -/
  log : u.2.log.map Sighting.address = reports tr
  /-- The sources that fitted have been taken, are waiting, or were waiting when the receiver went
      away. -/
  kept : u.2.received ++ u.2.abandoned ++ u.queue.waiting =
    (u.2.log.filter (Sighting.fits capacity)).map Sighting.address
  size : u.queue.capacity = capacity
  room : u.queue.waiting.length ≤ capacity
  /-- Nothing is lost while the receiver is there. -/
  present : u.queue.receiverGone = false → u.2.abandoned = []
  gone : u.queue.receiverGone = true → u.queue.waiting = []
  pending : ∀ x ∈ u.2.log, x.pending ≤ capacity

theorem fits_eq {a : Ipv4} (hcapacity : q.capacity = capacity) :
    Sighting.fits capacity ⟨a, q.waiting.length, q.receiverGone⟩ =
      !(q.receiverGone || q.isFull) := by
  rw [Sighting.fits, Queue.isFull, hcapacity, Bool.not_or, Bool.and_comm, ← decide_not,
    decide_eq_decide.mpr Nat.not_le]

/-- A report is noted, and it is in the queue if it fitted. -/
theorem Accounted.report {a : Ipv4} (h : Accounted capacity tr u)
    (hq : u'.queue = u.queue.push a)
    (hnote : u'.2 = noteReport ⟨id, .report a, ()⟩ u.1 u.2) :
    Accounted capacity (tr ++ [⟨id, .report a, ()⟩]) u' := by
  have hlog : u'.2.log =
      u.2.log ++ [⟨a, u.queue.waiting.length, u.queue.receiverGone⟩] := congrArg Sightings.log hnote
  have hreceived : u'.2.received = u.2.received := by rw [hnote]; rfl
  have habandoned : u'.2.abandoned = u.2.abandoned := by rw [hnote]; rfl
  have hpending : ∀ x ∈ u'.2.log, x.pending ≤ capacity := by
    rw [hlog]
    exact System.forall_mem_concat h.pending h.room
  have hlogged : u'.2.log.map Sighting.address = reports (tr ++ [⟨id, .report a, ()⟩]) := by
    rw [hlog, List.map_append, h.log, reports_append]
    rfl
  by_cases hfull : (u.queue.receiverGone || u.queue.isFull) = true
  · have hsame : u'.queue = u.queue := by rw [hq, Queue.push, if_pos hfull]
    refine ⟨hlogged, ?_, hsame ▸ h.size, hsame ▸ h.room, ?_, hsame ▸ h.gone, hpending⟩
    · rw [hlog, List.filter_append, List.map_append, hreceived, habandoned, hsame, h.kept,
        List.filter_cons_of_neg (by rw [fits_eq h.size, hfull]; exact Bool.false_ne_true)]
      exact (List.append_nil _).symm
    · rw [hsame, habandoned]
      exact h.present
  · have hpushed : u'.queue = { u.queue with waiting := u.queue.waiting ++ [a] } := by
      rw [hq, Queue.push, if_neg hfull]
    rw [Bool.not_eq_true, Bool.or_eq_false_iff] at hfull
    obtain ⟨hpresent, hroom⟩ := hfull
    have hlt : u.queue.waiting.length < capacity :=
      h.size ▸ Nat.not_le.mp (of_decide_eq_false hroom)
    refine ⟨hlogged, ?_, hpushed ▸ h.size, ?_, ?_, ?_, hpending⟩
    · rw [hlog, List.filter_append, List.map_append, hreceived, habandoned, hpushed, ← h.kept,
        List.filter_cons_of_pos (by rw [fits_eq h.size, hpresent, hroom]; rfl),
        List.append_assoc, List.append_assoc, List.append_assoc]
      rfl
    · rw [hpushed, List.length_append]
      exact hlt
    · rw [hpushed, habandoned]
      exact h.present
    · rw [hpushed]
      exact fun hgone => nomatch hpresent.symm.trans hgone

/-- Every exchange keeps it. -/
theorem Accounted.step (h : Accounted capacity tr u)
    (hx : (reportMachine around).answer id r u = some (x, u')) :
    Accounted capacity (tr ++ [⟨id, r, x⟩]) u' := by
  obtain ⟨⟨-, hq⟩, hnote⟩ := answer_reportMachine hx
  cases r with
  | report a => exact h.report hq hnote
  | _ =>
      -- nothing else is about the queue
      obtain ⟨s', n'⟩ := u'
      obtain rfl : n' = u.2 := hnote
      have hq : Sighted.queue (s', u.2) = u.queue := hq
      refine ⟨?_, hq ▸ h.kept, hq ▸ h.size, hq ▸ h.room, hq ▸ h.present, hq ▸ h.gone,
        h.pending⟩
      rw [reports_append, h.log]
      exact (List.append_nil _).symm

/-- What happens beside the tasks keeps it. -/
theorem Accounted.consumes (h : Accounted capacity tr u) (hmove : Consumes u u') :
    Accounted capacity tr u' := by
  cases hmove with
  | @take a q hpop =>
      unfold Queue.pop at hpop
      split at hpop
      · rename_i _ rest hwaiting
        cases hpop
        have hkept := h.kept
        have hroom := h.room
        rw [hwaiting] at hkept hroom
        refine ⟨h.log, ?_, h.size, Nat.le_of_succ_le hroom, h.present, ?_, h.pending⟩
        · rw [← hkept]
          by_cases hgone : u.queue.receiverGone = true
          · exact nomatch hwaiting.symm.trans (h.gone hgone)
          · show u.2.received ++ [a] ++ u.2.abandoned ++ rest = _
            rw [h.present (Bool.not_eq_true _ ▸ hgone), List.append_nil, List.append_nil,
              List.append_assoc]
            rfl
        · exact fun hgone => nomatch hwaiting.symm.trans (h.gone hgone)
      · split at hpop
        · exact nomatch hpop
        · exact nomatch hpop
  | leave =>
      refine ⟨h.log, ?_, h.size, Nat.zero_le _, (fun hgone => nomatch hgone), fun _ => rfl,
        h.pending⟩
      rw [← h.kept]
      exact (List.append_nil _).trans (List.append_assoc ..).symm
  | drift | shutdown => exact ⟨h.log, h.kept, h.size, h.room, h.present, h.gone, h.pending⟩

theorem Queued.accounted (hq : Queue.ofCapacity? capacity = some q)
    (h : Queued around q device w tr t) : Accounted capacity tr t.state := by
  obtain rfl : ({ capacity } : ReportQueue) = q := by
    unfold Queue.ofCapacity? at hq
    split at hq
    · exact nomatch hq
    · exact Option.some.inj hq
  exact System.Runs.invariant (Accounted capacity)
    ⟨rfl, rfl, rfl, Nat.zero_le _, fun _ => rfl, fun _ => rfl,
      fun _ hx => absurd hx List.not_mem_nil⟩
    (fun hinv hx => hinv.step hx) (fun hinv hmove => hinv.consumes hmove) h

/-- The sources that are reported are those of the valid packets from the device, but for the
    packet in hand. -/
theorem Forwarding.reports_eq {s : System interface (Server σ) TaskResult}
    (h : Forwarding around device w tr s) :
    (reports tr).map some <+: (valid (arrivals tr)).map Packet.source? ∧
      (Pausing .outbound s →
        (reports tr).map some = (valid (arrivals tr)).map Packet.source?) := by
  obtain ⟨ph, hrec, hk⟩ := h.recorded
  obtain ⟨q, hq, hbooks⟩ := hrec.outbound
  have htold := hbooks.told
  rw [List.map_append] at htold
  refine ⟨⟨_, htold⟩, fun hp => ?_⟩
  have hload : (ph (loopTask .outbound)).load = 0 :=
    load_eq_zero_of_pausing h (launch_loop .outbound) hk hp
  rw [hq] at hload
  rw [Outbound.unreported_eq_nil hload, List.map_nil, List.append_nil] at htold
  exact htold

/-- What the receiver gets of the sources of the valid packets from the device. -/
structure Informed (capacity : Nat) (tr : List (Exchange interface)) (u : Sighted σ) : Prop where
  /-- Every report is in the log. -/
  log : u.2.log.map Sighting.address = reports tr
  /-- The receiver takes sources of valid packets, in their order. -/
  inOrder : (u.2.received.map some).Sublist ((valid (arrivals tr)).map Packet.source?)
  /-- Never do more sources wait than there is room for. -/
  room : u.queue.waiting.length ≤ capacity
  /-- Every source that fitted was received, is waiting, or was waiting when the receiver went
      away. -/
  kept : u.2.received ++ u.2.abandoned ++ u.queue.waiting =
    (u.2.log.filter (Sighting.fits capacity)).map Sighting.address
  present : u.queue.receiverGone = false → u.2.abandoned = []
  /-- A source that did not fit was reported when the queue was full or the receiver gone. -/
  missing : ∀ x ∈ u.2.log, x.fits capacity = false → x.pending = capacity ∨ x.gone = true

theorem Queued.informed (hq : Queue.ofCapacity? capacity = some q)
    (h : Queued around q device w tr t) : Informed capacity tr t.state := by
  have haccount := h.accounted hq
  refine ⟨haccount.log, ?_, haccount.room, haccount.kept, haccount.present, ?_⟩
  · have hkept : t.state.2.received.Sublist
        ((t.state.2.log.filter (Sighting.fits capacity)).map Sighting.address) := by
      rw [← haccount.kept, List.append_assoc]
      exact List.sublist_append_left _ _
    have hreports : t.state.2.received.Sublist (reports tr) :=
      haccount.log ▸ hkept.trans (List.filter_sublist.map _)
    exact (hreports.map some).trans (Forwarding.reports_eq (silenced h)).1.sublist
  · intro x hx hfits
    rw [Sighting.fits, Bool.and_eq_false_iff, decide_eq_false_iff_not, Bool.not_eq_false'] at hfits
    exact hfits.imp_left fun hfull =>
      Nat.le_antisymm (haccount.pending x hx) (Nat.le_of_not_lt hfull)

/-- **Reporting does not influence forwarding.**  A server reports into a queue of some capacity,
    which a receiver empties at any pace, or not, and which it may leave at any time.

    * A server that reports to nobody makes the same exchanges, and its tasks and its state, the
      counters included, are the same: what is sent, what is written, and how the loops end does
      not depend on the queue.
    * However such a server goes on, the one with the queue can go on in the same way, whatever
      is in the queue.
    * The receiver takes sources of the valid packets from the device, in their order, and no
      more than the capacity ever wait.  As long as it is there, a source is received or waits,
      unless the queue was full when it was reported; later, unless the receiver was gone.  A
      source that was waiting when the receiver went away counts as kept, although nobody takes
      it any more: only what was not accepted at its report is missing. -/
theorem Queued.unobserved (hq : Queue.ofCapacity? capacity = some q)
    (h : Queued around q device w tr t) :
    Forwarding around.silent device w tr ⟨t.state.1.bare, t.tasks⟩ ∧
    (∀ tr' s, System.Runs (Server.machine around.silent) Operation Meanwhile
        ⟨t.state.1.bare, t.tasks⟩ tr' s →
      ∃ t', System.Runs (reportMachine around) Operation Consumes t tr' t' ∧
        t'.state.1.bare = s.state ∧ t'.tasks = s.tasks) ∧
    Informed capacity tr t.state ∧
    (Pausing .outbound t → (reports tr).map some = (valid (arrivals tr)).map Packet.source?) :=
  ⟨silenced h, fun _ _ hrun => unsilenced hrun, h.informed hq,
    fun hp => (Forwarding.reports_eq (silenced h)).2 hp⟩

/-- A device that gives two valid packets. -/
def twoPackets : Scene :=
  { reach := .everything,
    device := .channel { outgoing := [
      [0x45, 0, 0, 20, 0, 0, 0, 0, 64, 17, 0, 0, 10, 0, 0, 2, 10, 1, 0, 5],
      [0x45, 0, 0, 20, 0, 0, 0, 0, 64, 17, 0, 0, 10, 0, 0, 3, 10, 1, 0, 5]] } }

/-- Two packets are forwarded before the receiver takes a source: with room for one of them it
    gets the first, and the second was dropped because the queue was full. -/
theorem Queued.unobserved_when_full :
    ∃ q tr t, Queue.ofCapacity? 1 = some q ∧ Queued Scene.around q "loom0" twoPackets tr t ∧
      t.state.2.received = [.ofOctets 10 0 0 2] ∧
      reports tr = [.ofOctets 10 0 0 2, .ofOctets 10 0 0 3] ∧ Informed 1 tr t.state ∧
      Forwarding Scene.around.silent "loom0" twoPackets tr ⟨t.state.1.bare, t.tasks⟩ := by
  have hrun : Queued Scene.around { capacity := 1 } "loom0" twoPackets _ _ :=
    System.Runs.move (System.Runs.play .refl (show System.play _
      [1, 1, 1, 1, 1, 1, 1, 1, 1] _ = some (_, _) from rfl)) (.take rfl)
  have hq : Queue.ofCapacity? 1 = some ({ capacity := 1 } : ReportQueue) := rfl
  obtain ⟨hsilent, -, hinformed, -⟩ := Queued.unobserved hq hrun
  exact ⟨_, _, _, hq, hrun, rfl, rfl, hinformed, hsilent⟩

end Tunnel

end Overlay
