import Overlay.Proofs.Tunnel.Handling
import Overlay.Simulation.Scene

/-!
# Every packet is counted once

The books of a loop say how what it has read, written, sent and counted belongs together,
the packet that it has in hand included (`Inbound.Books`, `Outbound.Books`).  Every step of
the loop keeps its books, and no other task touches them.

`Forwarding.conservation` is what is left when no loop has a packet in hand: every datagram
and every packet that is not empty moved exactly one counter, the datagrams that were to be
written are the valid ones, and the sources that were reported are those of the valid packets
from the device.
-/

namespace Overlay

/-! ## The counters -/

/-- The sum of all counters. -/
def Stats.total (s : Stats) : UInt64 :=
  s.forwardedLocal + s.forwardedRemote + s.invalid + s.noRoute + s.sendErrors

theorem Stats.get_bump (s : Stats) (c c' : Tunnel.Counter) :
    (s.bump c).get c' = s.get c' + if c = c' then 1 else 0 := by
  cases c <;> cases c' <;> simp [Stats.bump, Stats.get]

namespace Tunnel

/-- The counters show how often each of them is in the list. -/
def Tallies (stats : Stats) (cs : List Counter) : Prop :=
  ∀ c, stats.get c = UInt64.ofNat (cs.count c)

theorem Tallies.bump {stats : Stats} {cs : List Counter} (h : Tallies stats cs) (c : Counter) :
    Tallies (stats.bump c) (cs ++ [c]) := by
  intro c'
  rw [Stats.get_bump, h c', List.count_append, UInt64.ofNat_add, List.count_singleton]
  by_cases hc : c = c' <;> simp [hc]

theorem Tallies.perm {stats : Stats} {cs cs' : List Counter} (h : Tallies stats cs)
    (hperm : cs.Perm cs') : Tallies stats cs' := by
  intro c
  rw [h c, hperm.count_eq]

/-- A list has as many entries as its entries are counted. -/
theorem length_eq_counts (cs : List Counter) :
    cs.length = cs.count .forwardedLocal + cs.count .forwardedRemote + cs.count .invalid +
      cs.count .noRoute + cs.count .sendErrors := by
  induction cs with
  | nil => rfl
  | cons c cs ih =>
      rw [List.length_cons, ih]
      cases c <;> simp <;> omega

theorem Tallies.total_eq {stats : Stats} {cs : List Counter} (h : Tallies stats cs) :
    stats.total = UInt64.ofNat cs.length := by
  have hl : stats.forwardedLocal = UInt64.ofNat _ := h .forwardedLocal
  have hr : stats.forwardedRemote = UInt64.ofNat _ := h .forwardedRemote
  have hi : stats.invalid = UInt64.ofNat _ := h .invalid
  have hn : stats.noRoute = UInt64.ofNat _ := h .noRoute
  have hs : stats.sendErrors = UInt64.ofNat _ := h .sendErrors
  rw [Stats.total, hl, hr, hi, hn, hs, length_eq_counts cs]
  simp only [UInt64.ofNat_add]

variable {σ : Type} {around : Surroundings σ} {device : String} {w : σ} {id : TaskId}
  {s s' : Server σ} {tr : List (Exchange interface)}

/-! ## What the trace says of packets -/

/-- The datagrams that the inbound loop has read. -/
def received (tr : List (Exchange interface)) : List Packet :=
  tr.filterMap fun e =>
    match e with
    | ⟨_, .arrival .inbound, .read (.ok p)⟩ => some p
    | _ => none

/-- The packets that were handed to the device, and what became of them. -/
def writes (tr : List (Exchange interface)) : List (Packet × Except IoError Unit) :=
  tr.filterMap fun e =>
    match e with
    | ⟨_, .write p, x⟩ => some (p, x)
    | _ => none

/-- The packets that were written to the device. -/
def written (tr : List (Exchange interface)) : List Packet :=
  ((writes tr).filter fun e => e.2.isOk).map Prod.fst

/-- The packets that were sent to a peer. -/
def delivered (tr : List (Exchange interface)) : List (Peer × Packet) :=
  tr.filterMap fun e =>
    match e with
    | ⟨_, .send q p, .ok _⟩ => some (q, p)
    | _ => none

/-- The packets that are valid. -/
def valid (ps : List Packet) : List Packet := ps.filter fun p => !p.invalid

/-- The packets that are not empty. -/
def nonempty (ps : List Packet) : List Packet := ps.filter fun p => !p.isEmpty

/-- The counter that a request moves. -/
def Request.moved : Request → List Counter
  | count c => [c]
  | _ => []

/-- The counters that a task has moved. -/
def counted (id : TaskId) (tr : List (Exchange interface)) : List Counter :=
  tr.flatMap fun e => if e.task = id then e.request.moved else []

theorem received_append (tr tr' : List (Exchange interface)) :
    received (tr ++ tr') = received tr ++ received tr' := List.filterMap_append

theorem writes_append (tr tr' : List (Exchange interface)) :
    writes (tr ++ tr') = writes tr ++ writes tr' := List.filterMap_append

theorem delivered_append (tr tr' : List (Exchange interface)) :
    delivered (tr ++ tr') = delivered tr ++ delivered tr' := List.filterMap_append

theorem reports_append (tr tr' : List (Exchange interface)) :
    reports (tr ++ tr') = reports tr ++ reports tr' := List.filterMap_append

theorem counted_append (tr tr' : List (Exchange interface)) :
    counted id (tr ++ tr') = counted id tr ++ counted id tr' := List.flatMap_append

theorem counted_self (r : Request) (x : r.Answer) : counted id [⟨id, r, x⟩] = r.moved := by
  simp [counted]

theorem counted_of_ne {j : TaskId} (h : j ≠ id) (r : Request) (x : r.Answer) :
    counted id [⟨j, r, x⟩] = [] := by
  simp [counted, h]

theorem valid_append (ps qs : List Packet) : valid (ps ++ qs) = valid ps ++ valid qs :=
  List.filter_append ..

theorem nonempty_append (ps qs : List Packet) :
    nonempty (ps ++ qs) = nonempty ps ++ nonempty qs :=
  List.filter_append ..

/-- An answer moves the counter that was asked for, and it takes no shutdown back. -/
theorem stats_of_answer {r : Request} {x : r.Answer}
    (h : s.answer around id r = some (x, s')) :
    s'.stats = r.moved.foldl Stats.bump s.stats ∧ (s.stopping = true → s'.stopping = true) := by
  cases r with
  | lock =>
      simp only [Server.answer] at h
      split at h
      · cases h
        exact ⟨rfl, fun hs => hs⟩
      · cases h
  | arrival d =>
      simp only [Server.answer] at h
      split at h
      · cases h
        exact ⟨rfl, fun hs => hs⟩
      · obtain ⟨y, -, heq⟩ := Option.map_eq_some_iff.mp h
        cases heq
        exact ⟨rfl, fun hs => hs⟩
  | connect n host =>
      simp only [Server.answer] at h
      split at h
      · cases h
        exact ⟨rfl, fun hs => hs⟩
      · cases h
        exact ⟨rfl, fun hs => hs⟩
  | outcome | write | firstEnded | join =>
      obtain ⟨y, -, heq⟩ := Option.map_eq_some_iff.mp h
      cases heq
      exact ⟨rfl, fun hs => hs⟩
  | stop =>
      cases h
      exact ⟨rfl, fun _ => rfl⟩
  | queue | unlock | networks | lookup | issue | report | count | finish | send | remove | insert
  | removeSame =>
      cases h
      exact ⟨rfl, fun hs => hs⟩

theorem Tallies.answer {r : Request} {x : r.Answer} {cs : List Counter}
    (h : Tallies s.stats cs) (hx : s.answer around id r = some (x, s')) :
    Tallies s'.stats (cs ++ r.moved) := by
  rw [(stats_of_answer hx).1]
  cases r with
  | count c => exact h.bump c
  | _ => simpa only [Request.moved, List.foldl_nil, List.append_nil] using h

/-! ## The books of the inbound loop -/

namespace Inbound

/-- The datagram that is still to be written. -/
def ahead : Inbound → List Packet
  | writing p => [p]
  | _ => []

/-- The counter that is still to be moved, when it is known. -/
def due : Inbound → List Counter
  | counting c => [c]
  | _ => []

/-- The number of datagrams in hand. -/
def load : Inbound → Nat
  | writing _ => 1
  | counting _ => 1
  | _ => 0

/-- The valid datagrams are handed to the device, each datagram moves one counter, and those
    that are written move the one for them. -/
structure Books (q : Inbound) (rs : List Packet) (ws : List (Packet × Except IoError Unit))
    (cs : List Counter) : Prop where
  handed : ws.map Prod.fst ++ q.ahead = valid rs
  total : cs.length + q.load = rs.length
  here : (cs ++ q.due).count .forwardedRemote = (ws.filter fun e => e.2.isOk).length
  there : (cs ++ q.due).count .forwardedLocal = 0

variable {q q' : Inbound} {rs : List Packet} {ws : List (Packet × Except IoError Unit)}
  {cs : List Counter}

theorem ahead_eq_nil (h : q.load = 0) : q.ahead = [] := by
  cases q with
  | writing | counting => exact nomatch h
  | _ => rfl

theorem due_eq_nil (h : q.load = 0) : q.due = [] := by
  cases q with
  | writing | counting => exact nomatch h
  | _ => rfl

/-- The books do not tell the phases apart in which there is nothing in hand. -/
theorem Books.rest (h : q.Books rs ws cs) (hq : q.load = 0) (hq' : q'.load = 0) :
    q'.Books rs ws cs where
  handed := by
    rw [ahead_eq_nil hq', ← ahead_eq_nil hq]
    exact h.handed
  total := by
    rw [hq', ← hq]
    exact h.total
  here := by
    rw [due_eq_nil hq', ← due_eq_nil hq]
    exact h.here
  there := by
    rw [due_eq_nil hq', ← due_eq_nil hq]
    exact h.there

theorem Books.take (h : Books idle rs ws cs) (p : Packet) :
    Books (take p) (rs ++ [p]) ws cs := by
  obtain ⟨hhanded, htotal, hhere, hthere⟩ := h
  simp only [ahead, load, due, List.append_nil, Nat.add_zero] at hhanded htotal hhere hthere
  unfold Inbound.take
  cases hvalid : p.validate with
  | error e =>
      have hp : p.invalid = true := by rw [Packet.invalid, hvalid]
      constructor <;> simp [ahead, load, due, valid, *]
  | ok _ =>
      have hp : p.invalid = false := by rw [Packet.invalid, hvalid]
      constructor <;> simp [ahead, load, due, valid, *]

theorem Books.write {p : Packet} (h : Books (writing p) rs ws cs) (x : Except IoError Unit) :
    Books (counting (writtenCounter x)) rs (ws ++ [(p, x)]) cs := by
  obtain ⟨hhanded, htotal, hhere, hthere⟩ := h
  simp only [ahead, load, due, List.append_nil] at hhanded htotal hhere hthere
  cases x with
  | ok _ => constructor <;> simp [ahead, load, due, writtenCounter, Except.isOk, Except.toBool, *]
  | error e =>
      constructor <;> simp [ahead, load, due, writtenCounter, Except.isOk, Except.toBool, *]

theorem Books.count {c : Counter} (h : Books (counting c) rs ws cs) :
    Books idle rs ws (cs ++ [c]) where
  handed := h.handed
  total := by
    rw [List.length_append]
    exact h.total
  here := by
    simpa only [due, List.append_nil] using h.here
  there := by
    simpa only [due, List.append_nil] using h.there

/-- Every step of the loop keeps its books. -/
theorem Books.step (h : q.Books rs ws cs) {r : Request} {x : r.Answer} (hstep : q.Step r x q') :
    q'.Books (rs ++ received [⟨id, r, x⟩]) (ws ++ writes [⟨id, r, x⟩]) (cs ++ r.moved) := by
  cases hstep with
  | @arrive x =>
      match x with
      | .read (.ok p) =>
          show Books _ (rs ++ [p]) (ws ++ []) (cs ++ [])
          rw [List.append_nil, List.append_nil]
          exact h.take p
      | .stop =>
          show Books _ (rs ++ []) (ws ++ []) (cs ++ [])
          simp only [List.append_nil]
          exact h.rest rfl rfl
      | .read (.error e) =>
          show Books _ (rs ++ []) (ws ++ []) (cs ++ [])
          simp only [List.append_nil]
          exact h.rest rfl rfl
  | @write p x =>
      show Books _ (rs ++ []) (ws ++ [(p, x)]) (cs ++ [])
      rw [List.append_nil, List.append_nil]
      exact h.write x
  | @count c =>
      show Books _ (rs ++ []) (ws ++ []) (cs ++ [c])
      rw [List.append_nil, List.append_nil]
      exact h.count
  | finish =>
      show Books _ (rs ++ []) (ws ++ []) (cs ++ [])
      simp only [List.append_nil]
      exact h.rest rfl rfl

end Inbound

/-! ## The books of the outbound loop -/

namespace Outbound

/-- The source that is still to be reported. -/
def unreported : Outbound → List Ipv4
  | reporting a _ _ => [a]
  | _ => []

/-- The counter that is still to be moved, when it is known. -/
def due : Outbound → List Counter
  | counting c => [c]
  | _ => []

/-- The number of packets in hand. -/
def load : Outbound → Nat
  | reporting _ _ _ => 1
  | seeking _ _ => 1
  | sending _ _ => 1
  | counting _ => 1
  | _ => 0

/-- The sources of the valid packets are reported, each packet that is not empty moves one
    counter, and those that are sent move the one for them. -/
structure Books (q : Outbound) (ps : List Packet) (rs : List Ipv4) (ds : List (Peer × Packet))
    (cs : List Counter) : Prop where
  told : (rs ++ q.unreported).map some = (valid ps).map Packet.source?
  total : cs.length + q.load = (nonempty ps).length
  here : (cs ++ q.due).count .forwardedLocal = ds.length
  there : (cs ++ q.due).count .forwardedRemote = 0

variable {q q' : Outbound} {ps : List Packet} {rs : List Ipv4} {ds : List (Peer × Packet)}
  {cs : List Counter}

theorem unreported_eq_nil (h : q.load = 0) : q.unreported = [] := by
  cases q with
  | reporting => exact nomatch h
  | _ => rfl

theorem due_eq_nil (h : q.load = 0) : q.due = [] := by
  cases q with
  | counting => exact nomatch h
  | _ => rfl

/-- The books do not tell the phases apart in which there is nothing in hand. -/
theorem Books.rest (h : q.Books ps rs ds cs) (hq : q.load = 0) (hq' : q'.load = 0) :
    q'.Books ps rs ds cs where
  told := by
    rw [unreported_eq_nil hq', ← unreported_eq_nil hq]
    exact h.told
  total := by
    rw [hq', ← hq]
    exact h.total
  here := by
    rw [due_eq_nil hq', ← due_eq_nil hq]
    exact h.here
  there := by
    rw [due_eq_nil hq', ← due_eq_nil hq]
    exact h.there

theorem Books.take (h : Books idle ps rs ds cs) {p : Packet} (hp : p ≠ []) :
    Books (take p) (ps ++ [p]) rs ds cs := by
  obtain ⟨htold, htotal, hhere, hthere⟩ := h
  simp only [unreported, load, due, List.append_nil, Nat.add_zero] at htold htotal hhere hthere
  cases hvalid : p.validate with
  | error e =>
      have hinvalid : p.invalid = true := by rw [Packet.invalid, hvalid]
      rw [take_invalid (by simp [hvalid])]
      constructor <;> simp [unreported, load, due, valid, nonempty, *]
  | ok _ =>
      have hinvalid : p.invalid = false := by rw [Packet.invalid, hvalid]
      obtain ⟨a, d, ha, hd⟩ := exists_addresses hvalid
      rw [take_valid hvalid ha hd]
      constructor <;> simp [unreported, load, due, valid, nonempty, *]

/-- An empty packet is none. -/
theorem Books.empty (h : q.Books ps rs ds cs) : q.Books (ps ++ [[]]) rs ds cs where
  told := by
    rw [valid_append]
    exact (List.append_nil _).symm ▸ h.told
  total := by
    rw [nonempty_append]
    exact (List.append_nil _).symm ▸ h.total
  here := h.here
  there := h.there

theorem Books.report {a d : Ipv4} {p : Packet} (h : Books (reporting a d p) ps rs ds cs) :
    Books (seeking d p) ps (rs ++ [a]) ds cs where
  told := by simpa only [unreported, List.append_nil] using h.told
  total := h.total
  here := h.here
  there := h.there

theorem Books.found {d : Ipv4} {p : Packet} (h : Books (seeking d p) ps rs ds cs)
    (x : Option Peer) : Books (found p x) ps rs ds cs := by
  obtain ⟨htold, htotal, hhere, hthere⟩ := h
  simp only [unreported, load, due, List.append_nil] at htold htotal hhere hthere
  cases x with
  | none => constructor <;> simp [Outbound.found, unreported, load, due, *]
  | some q => constructor <;> simp [Outbound.found, unreported, load, due, *]

theorem Books.sent {y : Peer} {p : Packet} (h : Books (sending y p) ps rs ds cs) (u : Unit) :
    Books (counting (sentCounter (.ok u))) ps rs (ds ++ [(y, p)]) cs := by
  obtain ⟨htold, htotal, hhere, hthere⟩ := h
  simp only [unreported, load, due, List.append_nil] at htold htotal hhere hthere
  constructor <;> simp [unreported, load, due, sentCounter, *]

theorem Books.failed {y : Peer} {p : Packet} (h : Books (sending y p) ps rs ds cs)
    (e : IoError) : Books (counting (sentCounter (.error e))) ps rs ds cs := by
  obtain ⟨htold, htotal, hhere, hthere⟩ := h
  simp only [unreported, load, due, List.append_nil] at htold htotal hhere hthere
  constructor <;> simp [unreported, load, due, sentCounter, *]

theorem Books.count {c : Counter} (h : Books (counting c) ps rs ds cs) :
    Books idle ps rs ds (cs ++ [c]) where
  told := h.told
  total := by
    rw [List.length_append]
    exact h.total
  here := by
    simpa only [due, List.append_nil] using h.here
  there := by
    simpa only [due, List.append_nil] using h.there

/-- Every step of the loop keeps its books. -/
theorem Books.step (h : q.Books ps rs ds cs) {r : Request} {x : r.Answer}
    (hstep : q.Step r x q') :
    q'.Books (ps ++ arrivals [⟨id, r, x⟩]) (rs ++ reports [⟨id, r, x⟩])
      (ds ++ delivered [⟨id, r, x⟩]) (cs ++ r.moved) := by
  cases hstep with
  | @arrive x =>
      match x with
      | .read (.ok []) =>
          show Books _ (ps ++ [[]]) (rs ++ []) (ds ++ []) (cs ++ [])
          simp only [List.append_nil]
          exact (h.rest rfl rfl).empty
      | .read (.ok (b :: bytes)) =>
          show Books _ (ps ++ [b :: bytes]) (rs ++ []) (ds ++ []) (cs ++ [])
          simp only [List.append_nil]
          exact h.take (List.cons_ne_nil b bytes)
      | .stop =>
          show Books _ (ps ++ []) (rs ++ []) (ds ++ []) (cs ++ [])
          simp only [List.append_nil]
          exact h.rest rfl rfl
      | .read (.error e) =>
          show Books _ (ps ++ []) (rs ++ []) (ds ++ []) (cs ++ [])
          simp only [List.append_nil]
          refine h.rest rfl ?_
          show (if e.closesDevice then leaving (.error (.io e)) else idle).load = 0
          split
          · rfl
          · rfl
  | @report a d p x =>
      show Books _ (ps ++ []) (rs ++ [a]) (ds ++ []) (cs ++ [])
      simp only [List.append_nil]
      exact h.report
  | @seek d p x =>
      show Books _ (ps ++ []) (rs ++ []) (ds ++ []) (cs ++ [])
      simp only [List.append_nil]
      exact h.found x
  | @send y p x =>
      cases x with
      | ok u =>
          show Books _ (ps ++ []) (rs ++ []) (ds ++ [(y, p)]) (cs ++ [])
          simp only [List.append_nil]
          exact h.sent u
      | error e =>
          show Books _ (ps ++ []) (rs ++ []) (ds ++ []) (cs ++ [])
          simp only [List.append_nil]
          exact h.failed e
  | @count c x =>
      show Books _ (ps ++ []) (rs ++ []) (ds ++ []) (cs ++ [c])
      simp only [List.append_nil]
      exact h.count
  | finish =>
      show Books _ (ps ++ []) (rs ++ []) (ds ++ []) (cs ++ [])
      simp only [List.append_nil]
      exact h.rest rfl rfl

end Outbound

/-! ## Each loop keeps its own books -/

/-- A request that is not of the loops leaves all books alone. -/
theorem Request.views_eq_nil {r : Request} (h : ¬ r.OfLoop) (id : TaskId) (x : r.Answer) :
    (received [⟨id, r, x⟩] = [] ∧ writes [⟨id, r, x⟩] = []) ∧
      (arrivals [⟨id, r, x⟩] = [] ∧ reports [⟨id, r, x⟩] = [] ∧ delivered [⟨id, r, x⟩] = []) ∧
        r.moved = [] := by
  cases r with
  | arrival | report | send | write | count | finish => exact absurd trivial h
  | _ => exact ⟨⟨rfl, rfl⟩, ⟨rfl, rfl, rfl⟩, rfl⟩

/-- The inbound loop leaves the books of the other one alone. -/
theorem Inbound.Step.views_eq_nil {q q' : Inbound} {r : Request} {x : r.Answer}
    (h : q.Step r x q') (id : TaskId) :
    arrivals [⟨id, r, x⟩] = [] ∧ reports [⟨id, r, x⟩] = [] ∧ delivered [⟨id, r, x⟩] = [] := by
  cases h with
  | arrive | write | count | finish => exact ⟨rfl, rfl, rfl⟩

/-- The outbound loop leaves the books of the other one alone. -/
theorem Outbound.Step.views_eq_nil {q q' : Outbound} {r : Request} {x : r.Answer}
    (h : q.Step r x q') (id : TaskId) : received [⟨id, r, x⟩] = [] ∧ writes [⟨id, r, x⟩] = [] := by
  cases h with
  | arrive | report | seek | send | count | finish => exact ⟨rfl, rfl⟩

/-- What holds all the time: the books of both loops, and the counters show what the loops have
    moved. -/
structure Recorded (tr : List (Exchange interface)) (s : Server σ) (ph : TaskId → Job) : Prop where
  inbound : ∃ q, ph (loopTask .inbound) = .inbound q ∧
    q.Books (received tr) (writes tr) (counted (loopTask .inbound) tr)
  outbound : ∃ q, ph (loopTask .outbound) = .outbound q ∧
    q.Books (arrivals tr) (reports tr) (delivered tr) (counted (loopTask .outbound) tr)
  others : ∀ i, (∀ d, i ≠ loopTask d) → ph i = .other
  stats : Tallies s.stats (counted (loopTask .inbound) tr ++ counted (loopTask .outbound) tr)
  reporter : ∀ e ∈ tr, ∀ a, e.request = .report a → e.task = loopTask .outbound

variable {ph : TaskId → Job} {r : Request} {x : r.Answer} {q : Job}

/-- The task that is in a phase of the inbound loop is the inbound loop. -/
theorem Recorded.eq_inbound (h : Recorded tr s ph) {q : Inbound} (hid : ph id = .inbound q) :
    id = loopTask .inbound := by
  by_contra hne
  by_cases hout : id = loopTask .outbound
  · obtain ⟨q', hq', -⟩ := h.outbound
    exact nomatch (hout ▸ hid).symm.trans hq'
  · refine nomatch hid.symm.trans (h.others id fun d => ?_)
    cases d with
    | inbound => exact hne
    | outbound => exact hout

theorem Recorded.eq_outbound (h : Recorded tr s ph) {q : Outbound} (hid : ph id = .outbound q) :
    id = loopTask .outbound := by
  by_contra hne
  by_cases hin : id = loopTask .inbound
  · obtain ⟨q', hq', -⟩ := h.inbound
    exact nomatch (hin ▸ hid).symm.trans hq'
  · refine nomatch hid.symm.trans (h.others id fun d => ?_)
    cases d with
    | inbound => exact hin
    | outbound => exact hne

theorem Recorded.stepInbound (h : Recorded tr s ph) {q q' : Inbound}
    (hid : ph id = .inbound q) (hstep : q.Step r x q')
    (hx : s.answer around id r = some (x, s')) :
    Recorded (tr ++ [⟨id, r, x⟩]) s' (Function.update ph id (.inbound q')) := by
  obtain rfl := h.eq_inbound hid
  obtain ⟨q₀, hq₀, hbooks⟩ := h.inbound
  obtain rfl : q₀ = q := Job.inbound.inj (hq₀.symm.trans hid)
  obtain ⟨harrivals, hreports, hdelivered⟩ := hstep.views_eq_nil (loopTask .inbound)
  have hne : loopTask .inbound ≠ loopTask .outbound := by decide
  refine ⟨⟨q', Function.update_self .., ?_⟩, ?_, ?_, ?_, ?_⟩
  · rw [received_append, writes_append, counted_append, counted_self]
    exact hbooks.step hstep
  · rw [Function.update_of_ne hne.symm, arrivals_append, reports_append, delivered_append,
      counted_append, harrivals, hreports, hdelivered, counted_of_ne hne]
    simpa only [List.append_nil] using h.outbound
  · intro i hi
    rw [Function.update_of_ne (hi .inbound)]
    exact h.others i hi
  · rw [counted_append, counted_append, counted_self, counted_of_ne hne, List.append_nil]
    refine (h.stats.answer hx).perm ?_
    rw [List.append_assoc, List.append_assoc]
    exact List.perm_append_comm.append_left _
  · refine System.forall_mem_concat h.reporter fun a ha => ?_
    cases ha
    cases hstep

theorem Recorded.stepOutbound (h : Recorded tr s ph) {q q' : Outbound}
    (hid : ph id = .outbound q) (hstep : q.Step r x q')
    (hx : s.answer around id r = some (x, s')) :
    Recorded (tr ++ [⟨id, r, x⟩]) s' (Function.update ph id (.outbound q')) := by
  obtain rfl := h.eq_outbound hid
  obtain ⟨q₀, hq₀, hbooks⟩ := h.outbound
  obtain rfl : q₀ = q := Job.outbound.inj (hq₀.symm.trans hid)
  obtain ⟨hreceived, hwrites⟩ := hstep.views_eq_nil (loopTask .outbound)
  have hne : loopTask .outbound ≠ loopTask .inbound := by decide
  refine ⟨?_, ⟨q', Function.update_self .., ?_⟩, ?_, ?_, ?_⟩
  · rw [Function.update_of_ne hne.symm, received_append, writes_append, counted_append, hreceived,
      hwrites, counted_of_ne hne]
    simpa only [List.append_nil] using h.inbound
  · rw [arrivals_append, reports_append, delivered_append, counted_append, counted_self]
    exact hbooks.step hstep
  · intro i hi
    rw [Function.update_of_ne (hi .outbound)]
    exact h.others i hi
  · rw [counted_append, counted_append, counted_self, counted_of_ne hne, List.append_nil,
      ← List.append_assoc]
    exact h.stats.answer hx
  · exact System.forall_mem_concat h.reporter fun _ _ => rfl

theorem Recorded.stepOther (h : Recorded tr s ph) (hid : ph id = .other) (hr : ¬ r.OfLoop)
    (hx : s.answer around id r = some (x, s')) :
    Recorded (tr ++ [⟨id, r, x⟩]) s' (Function.update ph id .other) := by
  obtain ⟨⟨hreceived, hwrites⟩, ⟨harrivals, hreports, hdelivered⟩, hmoved⟩ :=
    Request.views_eq_nil hr id x
  have hcounted : ∀ i, counted i (tr ++ [⟨id, r, x⟩]) = counted i tr := by
    intro i
    rw [counted_append]
    by_cases hi : id = i
    · rw [hi, counted_self, hmoved, List.append_nil]
    · rw [counted_of_ne hi, List.append_nil]
  rw [← hid, Function.update_eq_self]
  refine ⟨?_, ?_, h.others, ?_, ?_⟩
  · rw [received_append, writes_append, hreceived, hwrites, hcounted]
    simpa only [List.append_nil] using h.inbound
  · rw [arrivals_append, reports_append, delivered_append, harrivals, hreports, hdelivered,
      hcounted]
    simpa only [List.append_nil] using h.outbound
  · rw [hcounted, hcounted]
    simpa only [hmoved, List.append_nil] using h.stats.answer hx
  · refine System.forall_mem_concat h.reporter fun a ha => ?_
    cases ha
    exact absurd trivial hr

/-- Every exchange keeps it. -/
theorem Recorded.step (h : Recorded tr s ph) (hstep : Job.Step (ph id) r x q)
    (hx : s.answer around id r = some (x, s')) :
    Recorded (tr ++ [⟨id, r, x⟩]) s' (Function.update ph id q) := by
  generalize hid : ph id = q₀ at hstep
  cases hstep with
  | inbound hstep => exact h.stepInbound hid hstep hx
  | outbound hstep => exact h.stepOutbound hid hstep hx
  | other hr => exact h.stepOther hid hr hx

/-- What leaves the counters alone keeps it. -/
theorem Recorded.move (h : Recorded tr s ph) (hs : s'.stats = s.stats) : Recorded tr s' ph :=
  ⟨h.inbound, h.outbound, h.others, hs ▸ h.stats, h.reporter⟩

/-- The phases of the tasks that the server begins with. -/
def launched (i : TaskId) : Job :=
  [Job.inbound .idle, Job.outbound .idle, Job.other][i]?.getD Job.other

theorem launch_keeps : (launch device w).Keeps handling Job.EndsWith Job.other launched :=
  System.Keeps.of_forall₂ <|
    .cons (loop_handles .inbound) (.cons (loop_handles .outbound) (.cons serve_handles .nil))

theorem recorded_launch : Recorded [] (launch device w).state launched where
  inbound := ⟨.idle, rfl, rfl, rfl, rfl, rfl⟩
  outbound := ⟨.idle, rfl, rfl, rfl, rfl, rfl⟩
  others := by
    intro i hi
    match i with
    | 0 => exact absurd rfl (hi .inbound)
    | 1 => exact absurd rfl (hi .outbound)
    | 2 => rfl
    | i + 3 => rfl
  stats := by
    intro c
    cases c <;> rfl
  reporter := fun _ he => absurd he List.not_mem_nil

variable {t : System interface (Server σ) TaskResult}

/-- The books are kept in every run. -/
theorem Forwarding.recorded (h : Forwarding around device w tr t) :
    ∃ ph, Recorded tr t.state ph ∧ t.Keeps handling Job.EndsWith Job.other ph := by
  refine System.Runs.keeps (P := handling) Recorded (fun hx => (answers_of_answer hx).possible)
    launch_keeps recorded_launch (fun _ hinv hstep hx => hinv.step hstep hx)
    (fun ha => ha.handles) (fun hinv hs => ?_) h
  cases hs with
  | drift | shutdown => exact hinv.move rfl

/-! ## When no packet is in hand -/

/-- What a loop asks for with a packet in hand. -/
def Request.OfPacket : Request → Bool
  | report _ => true
  | lookup _ => true
  | send _ _ => true
  | write _ => true
  | count _ => true
  | _ => false

/-- The loop has no packet in hand. -/
def Pausing (d : Direction) (t : System interface σ TaskResult) : Prop :=
  ∀ a r, t.tasks[loopTask d]? = some a → a.request? = some r → r.OfPacket = false

/-- The number of packets in hand. -/
def Job.load : Job → Nat
  | inbound q => q.load
  | outbound q => q.load
  | other => 0

/-- Whoever has a packet in hand asks for what is done with packets. -/
theorem Job.Step.load_eq_zero {q q' : Job} (h : Job.Step q r x q') (hr : r.OfPacket = false) :
    q.load = 0 := by
  cases h with
  | inbound hstep =>
      cases hstep with
      | arrive | finish => rfl
      | write | count => exact nomatch hr
  | outbound hstep =>
      cases hstep with
      | arrive | finish => rfl
      | report | seek | send | count => exact nomatch hr
  | other => rfl

/-- Whoever has ended has none in hand. -/
theorem Job.EndsWith.load_eq_zero {q : Job} {y : TaskResult} (h : q.EndsWith y) :
    q.load = 0 := by
  cases q with
  | inbound q =>
      cases q with
      | ended => rfl
      | _ => exact h.elim
  | outbound q =>
      cases q with
      | ended => rfl
      | _ => exact h.elim
  | other => rfl

/-- What a task asks for next says whether it has a packet in hand. -/
theorem Job.load_eq_zero {d : Direction} {now : Work (Option TaskResult)} {q : Job}
    (hk : (Task.forever (runOf d) now).Keeps handling Job.EndsWith q)
    (hrest : ∀ r, (Task.forever (runOf d) now).request? = some r → r.OfPacket = false) :
    q.load = 0 := by
  cases now with
  | ask r next =>
      obtain ⟨x, hx⟩ := exists_plausible r
      obtain ⟨q', hstep, -⟩ := hk.asks (.forever (runOf d) r next) hx
      exact Job.Step.load_eq_zero hstep (hrest r rfl)
  | done y =>
      cases y with
      | some y => exact Job.EndsWith.load_eq_zero (hk.ends rfl)
      | none =>
          -- the next run begins with the question for the next packet
          obtain ⟨_, -, hagain⟩ := hk.again
          cases d with
          | inbound | outbound =>
              obtain ⟨q', hstep, -⟩ := hagain Arrival.stop trivial
              exact Job.Step.load_eq_zero hstep rfl

/-- Has the loop no packet in hand? -/
def isPausing (d : Direction) (t : System interface σ TaskResult) : Bool :=
  (t.tasks[loopTask d]?.bind Task.request?).all fun r => !r.OfPacket

theorem pausing_of_isPausing {d : Direction} {t : System interface σ TaskResult}
    (h : isPausing d t = true) : Pausing d t := by
  intro a r ha hr
  rw [isPausing, ha, Option.bind_some, hr] at h
  simpa using h

/-- A loop that does not ask for what is done with packets has no packet in hand. -/
theorem load_eq_zero_of_pausing {m : Machine interface σ}
    {starts : Task interface TaskResult → Prop} {moves : σ → σ → Prop}
    {s t : System interface σ TaskResult} {d : Direction}
    (h : System.Runs m starts moves s tr t)
    (hs : s.tasks[loopTask d]? = some (Simulation.loop d)) {ph : TaskId → Job}
    (hk : t.Keeps handling Job.EndsWith Job.other ph) (hp : Pausing d t) :
    (ph (loopTask d)).load = 0 := by
  rw [loop_eq] at hs
  obtain ⟨now, hnow⟩ := h.forever_at hs
  exact Job.load_eq_zero (hk.task hnow) fun r hr => hp _ r hnow hr

theorem launch_loop (d : Direction) :
    (launch device w).tasks[loopTask d]? = some (Simulation.loop d) := by
  cases d with
  | inbound | outbound => rfl

/-- How the counters and what was done with packets belong together. -/
structure Conserved (tr : List (Exchange interface)) (stats : Stats) : Prop where
  total : stats.total = UInt64.ofNat ((received tr).length + (nonempty (arrivals tr)).length)
  handed : (writes tr).map Prod.fst = valid (received tr)
  forwardedRemote : stats.forwardedRemote = UInt64.ofNat (written tr).length
  forwardedLocal : stats.forwardedLocal = UInt64.ofNat (delivered tr).length
  told : (reports tr).map some = (valid (arrivals tr)).map Packet.source?
  reporter : ∀ e ∈ tr, ∀ a, e.request = .report a → e.task = loopTask .outbound

/-- **Every packet is counted once.**  Whatever the surroundings do and whichever operations
    on the peers begin, when no loop has a packet in hand: the counters add up to the number of
    datagrams that were received, empty ones included, and of packets from the device that are
    not empty.  The valid datagrams were handed to the device, unchanged and in order, and one
    counter shows how many of them were written; another one shows how many packets were sent
    to a peer.  The sources that were reported are those of the valid packets from the device,
    in order, and only the outbound loop reports. -/
theorem Forwarding.conservation (h : Forwarding around device w tr t) (hp : ∀ d, Pausing d t) :
    Conserved tr t.state.stats := by
  obtain ⟨ph, hrec, hk⟩ := h.recorded
  have hload := fun d => load_eq_zero_of_pausing h (launch_loop d) hk (hp d)
  obtain ⟨q, hq, hin⟩ := hrec.inbound
  obtain ⟨q', hq', hout⟩ := hrec.outbound
  have hzero : q.load = 0 := (hq ▸ hload .inbound : (Job.inbound q).load = 0)
  have hzero' : q'.load = 0 := (hq' ▸ hload .outbound : (Job.outbound q').load = 0)
  obtain ⟨hhanded, htotal, hhere, hthere⟩ := hin
  obtain ⟨htold, htotal', hhere', hthere'⟩ := hout
  rw [Inbound.due_eq_nil hzero, List.append_nil] at hhere hthere
  rw [Outbound.due_eq_nil hzero', List.append_nil] at hhere' hthere'
  refine ⟨?_, ?_, ?_, ?_, ?_, hrec.reporter⟩
  · rw [hrec.stats.total_eq, List.length_append, ← htotal, ← htotal', hzero, hzero', Nat.add_zero,
      Nat.add_zero]
  · rw [← hhanded, Inbound.ahead_eq_nil hzero, List.append_nil]
  · have hcount := hrec.stats .forwardedRemote
    rw [List.count_append, hhere, hthere', Nat.add_zero] at hcount
    rw [written, List.length_map]
    exact hcount
  · have hcount := hrec.stats .forwardedLocal
    rw [List.count_append, hhere', hthere, Nat.zero_add] at hcount
    exact hcount
  · rw [← htold, Outbound.unreported_eq_nil hzero', List.append_nil]

/-- While a host is added, a packet for it and two datagrams are handled, one of them empty.  The
    source of the packet is reported. -/
theorem Forwarding.conservation_while_adding :
    ∃ (w : Scene) (tr : List (Exchange interface)) (t : System interface (Server Scene) TaskResult),
      Forwarding Scene.around "loom0" w tr t ∧ (∀ d, Pausing d t) ∧ (received tr).length = 2 ∧
        (delivered tr).length = 1 ∧ (additions tr).length = 1 ∧ t.state.stats.total = 3 ∧
        t.state.stats.forwardedRemote = 1 ∧ reports tr = [.ofOctets 10 0 0 2] := by
  let p : Packet :=
    [0x45, 0, 0, 20, 0, 0, 0, 0, 64, 17, 0, 0, 10, 0, 0, 2, 10, 1, 0, 5]
  let w : Scene :=
    { reach := .everything, device := .channel { outgoing := [p] }, datagrams := [p, []] }
  let start : System interface (Server Scene) TaskResult :=
    (launch "loom0" w).spawn (.once (Simulation.addPeer ⟨"192.0.2.1:7000", "10.1.0.0/16"⟩))
  let order : List TaskId :=
    [1, 3, 3, 3, 3, 3, 1, 3, 3, 0, 3, 0, 3, 0, 3, 0, 1, 1, 1, 0, 0]
  have hfinds : (start.play (Server.machine Scene.around) order).any (fun y =>
      isPausing .inbound y.2 && isPausing .outbound y.2 && decide ((received y.1).length = 2 ∧
        (delivered y.1).length = 1 ∧ (additions y.1).length = 1 ∧
        arrivals y.1 = [p] ∧ (written y.1).length = 1)) = true := by
    decide +kernel
  obtain ⟨⟨tr, t⟩, hplay, hfacts⟩ := (Option.any_eq_true _ _).mp hfinds
  rw [Bool.and_eq_true, Bool.and_eq_true] at hfacts
  obtain ⟨⟨hin, hout⟩, hfacts⟩ := hfacts
  obtain ⟨hreceived, hdelivered, hadditions, harrivals, hwritten⟩ := of_decide_eq_true hfacts
  have hstart : Forwarding Scene.around "loom0" w [] start :=
    System.Runs.refl.spawn (.addPeer ⟨"192.0.2.1:7000", "10.1.0.0/16"⟩)
  have hrun : Forwarding Scene.around "loom0" w tr t := hstart.play hplay
  have hpause : ∀ d, Pausing d t := by
    intro d
    cases d with
    | inbound => exact pausing_of_isPausing hin
    | outbound => exact pausing_of_isPausing hout
  have hconserved := Forwarding.conservation hrun hpause
  refine ⟨w, tr, t, hrun, hpause, hreceived, hdelivered, hadditions, ?_, ?_, ?_⟩
  · rw [hconserved.total, hreceived, harrivals]
    rfl
  · rw [hconserved.forwardedRemote, hwritten]
    rfl
  · have htold := hconserved.told
    rw [harrivals] at htold
    exact List.map_injective_iff.mpr (fun _ _ => Option.some.inj) htold

end Tunnel

end Overlay
