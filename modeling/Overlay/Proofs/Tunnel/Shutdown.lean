import Overlay.Proofs.Tunnel.Attending

/-!
# Shutting down over a device in memory

Once a server is being shut down, both loops leave as soon as they look for the next packet.
The inbound loop may not get there: it hands its packets to the queue of the device, and
while that is full it waits for somebody to take a packet, whether or not the server is
being shut down.

`enabled_iff_not_jammed` says that this is all that can go wrong.  In every state that is
reached, one of the loops or the task that waits for them can take a step, unless the
inbound loop waits for room in the queue while the outbound loop has ended and the third
task waits for the inbound loop.  Such a state is reached, after one datagram more than the
queue holds (`exists_jammed`).
-/

namespace Overlay.Tunnel

variable {τ : Type}

/-- One of the loops, or the task that waits for them, can take a step. -/
def Enabled (rest : Surroundings τ) (t : System interface (Server (Channel × τ)) TaskResult) :
    Prop :=
  ∃ id, (id = loopTask .inbound ∨ id = loopTask .outbound ∨ id = serveTask) ∧
    ∃ u, t.step (Server.machine (overChannel rest)) id = some u

/-- The inbound loop waits for room in the queue of the device, and everybody who serves waits
    for the inbound loop. -/
structure Jammed (t : System interface (Server (Channel × τ)) TaskResult) : Prop where
  inbound : ∃ a p resume, t.tasks[loopTask .inbound]? = some a ∧ a.Asks (.write p) resume
  present : t.state.outside.1.handleGone = false
  full : Channel.capacity ≤ t.state.outside.1.incoming.length
  outbound : ∃ a e, t.tasks[loopTask .outbound]? = some a ∧ a.result? = some e
  serve : ∃ a resume, t.tasks[serveTask]? = some a ∧ a.Asks (.join .inbound) resume

section Steps

variable {rest : Surroundings τ} {device : String} {w : τ} {s : Server (Channel × τ)}
  {ph : TaskId → Duty} {id : TaskId} {r : Request}
  {t : System interface (Server (Channel × τ)) TaskResult} {a : Task interface TaskResult}

/-! ## Who can take a step -/

/-- A task that has ended takes no step. -/
theorem step_eq_none_of_result {e : TaskResult} (ha : t.tasks[id]? = some a)
    (he : a.result? = some e) : t.step (Server.machine (overChannel rest)) id = none := by
  cases hstep : t.step (Server.machine (overChannel rest)) id with
  | none => rfl
  | some u =>
      obtain ⟨b, _, _, hb, hbstep, -⟩ := System.step_eq_some hstep
      obtain rfl : a = b := Option.some.inj (ha.symm.trans hb)
      rcases Task.step_eq_some hbstep with ⟨_, _, _, hasks, -⟩ | ⟨_, rfl, -⟩
      · exact nomatch hasks.result?_eq_none.symm.trans he
      · exact nomatch he

/-- A task takes no step while its request is open. -/
theorem step_eq_none_of_open {resume : r.Answer → Task interface TaskResult}
    (ha : t.tasks[id]? = some a) (hasks : a.Asks r resume)
    (hopen : t.state.answer (overChannel rest) id r = none) :
    t.step (Server.machine (overChannel rest)) id = none := by
  cases hstep : t.step (Server.machine (overChannel rest)) id with
  | none => rfl
  | some u =>
      obtain ⟨b, _, _, hb, hbstep, -⟩ := System.step_eq_some hstep
      obtain rfl : a = b := Option.some.inj (ha.symm.trans hb)
      rcases Task.step_eq_some hbstep with ⟨_, _, _, hasks', hx, -⟩ | ⟨_, rfl, -⟩
      · obtain rfl := hasks.request_eq hasks'
        exact nomatch hopen.symm.trans hx
      · exact nomatch hasks

/-- A loop that goes on can take a step once the server is being shut down, but for the inbound
    loop when the queue of the device is full. -/
theorem running_steps {d : Direction} (hkeeps : a.Keeps attending Rests (Duty.running d))
    (ha : t.tasks[id]? = some a) (hstop : t.state.stopping = true) :
    (∃ u, t.step (Server.machine (overChannel rest)) id = some u) ∨
      d = .inbound ∧ ∃ p resume, a.Asks (.write p) resume ∧ t.state.outside.1.write p = none := by
  rcases System.ended_or_steps_or_waits exists_plausible ha hkeeps with
    ⟨_, _, hends⟩ | hsteps | ⟨r, resume, x, q, hasks, hstep, hnone⟩
  · exact hends.elim
  · exact Or.inl hsteps
  · cases hstep with
    | arrival => cases hnone.symm.trans (if_pos hstop)
    | @write p =>
        have hwrite : t.state.outside.1.write p = none := Option.map_eq_none_iff.mp
          (Option.map_eq_none_iff.mp hnone)
        exact Or.inr ⟨rfl, p, resume, hasks, hwrite⟩
    | prompt hprompt =>
        obtain ⟨y, u, hy⟩ := hprompt.exists_answer t.state
        cases hnone.symm.trans hy
    | finish => cases hnone

/-- A write to the device waits while the queue is full and its reader is there. -/
theorem write_eq_none_iff {c : Channel} {p : Packet} :
    c.write p = none ↔ c.handleGone = false ∧ Channel.capacity ≤ c.incoming.length := by
  unfold Channel.write
  by_cases hgone : c.handleGone = true
  · rw [if_pos hgone]
    exact iff_of_false (fun h => nomatch h) fun h => nomatch hgone.symm.trans h.1
  · rw [if_neg hgone]
    by_cases hroom : c.incoming.length < Channel.capacity
    · rw [if_pos hroom]
      exact iff_of_false (fun h => nomatch h) fun h => absurd hroom (Nat.not_lt.mpr h.2)
    · rw [if_neg hroom]
      exact iff_of_true rfl ⟨Bool.not_eq_true _ ▸ hgone, Nat.le_of_not_lt hroom⟩

/-- The ending of a loop is open as long as it is not known. -/
theorem ending?_eq_none_iff {d : Direction} : s.ending? d = none ↔ ¬∃ e, (d, e) ∈ s.ended := by
  rw [Server.ending?, Option.map_eq_none_iff, List.find?_eq_none]
  constructor
  · rintro h ⟨e, he⟩
    exact h _ he (decide_eq_true rfl)
  · rintro h ⟨d', e⟩ he heq
    obtain rfl : d' = d := of_decide_eq_true heq
    exact h ⟨e, he⟩

/-- The task that a loop is, while the server serves. -/
theorem Attended.running_or_ended (h : Attended s ph) (d : Direction) :
    ph (loopTask d) = .running d ∨ ph (loopTask d) = .ended d := by
  have howner := h.owner (loopTask d)
  have hlt : loopTask d < 3 := by cases d <;> decide
  rw [if_pos hlt] at howner
  cases hduty : ph (loopTask d) with
  | running d' =>
      rw [hduty] at howner
      rw [loopTask_inj (Option.some.inj howner)]
      exact Or.inl rfl
  | ended d' =>
      rw [hduty] at howner
      rw [loopTask_inj (Option.some.inj howner)]
      exact Or.inr rfl
  | awaiting | leading | joining | returned =>
      rw [hduty] at howner
      exact absurd (Option.some.inj howner).symm (loopTask_ne_serveTask d)
  | operating =>
      rw [hduty] at howner
      exact nomatch howner

/-- While the queue is full and both others wait for the inbound loop, nobody takes a step. -/
theorem not_enabled_of_jammed (h : Serves rest device w t) (hjammed : Jammed t) :
    ¬Enabled rest t := by
  obtain ⟨ph, hattended, hkeeps⟩ := h.attended
  obtain ⟨a₀, p, resume₀, ha₀, hasks₀⟩ := hjammed.inbound
  obtain ⟨a₁, e, ha₁, he⟩ := hjammed.outbound
  obtain ⟨a₂, resume₂, ha₂, hasks₂⟩ := hjammed.serve
  have hwrite : t.state.outside.1.write p = none :=
    write_eq_none_iff.mpr ⟨hjammed.present, hjammed.full⟩
  -- the inbound loop still asks for something, so that its ending is not known
  have hgoes : ¬∃ e, (Direction.inbound, e) ∈ t.state.ended := by
    rw [← hattended.ended_iff]
    intro hended
    obtain ⟨q, hstep, -⟩ := (hkeeps.task ha₀).asks hasks₀ (x := .ok ()) trivial
    rw [hended] at hstep
    cases hstep
  have hopen₀ : t.state.answer (overChannel rest) (loopTask .inbound) (.write p) = none := by
    simp only [Server.answer, overChannel, hwrite, Option.map_none]
  have hopen₂ : t.state.answer (overChannel rest) serveTask (.join .inbound) = none := by
    rw [Server.answer, ending?_eq_none_iff.mpr hgoes, Option.map_none]
  rintro ⟨id, rfl | rfl | rfl, u, hu⟩
  · exact Option.ne_none_iff_exists'.mpr ⟨u, hu⟩ (step_eq_none_of_open ha₀ hasks₀ hopen₀)
  · exact Option.ne_none_iff_exists'.mpr ⟨u, hu⟩ (step_eq_none_of_result ha₁ he)
  · exact Option.ne_none_iff_exists'.mpr ⟨u, hu⟩ (step_eq_none_of_open ha₂ hasks₂ hopen₂)

/-- A loop that has ended has its result, unless there is a step left to take. -/
theorem ended_steps {d : Direction} (hkeeps : a.Keeps attending Rests (Duty.ended d))
    (ha : t.tasks[id]? = some a) :
    (∃ u, t.step (Server.machine (overChannel rest)) id = some u) ∨ ∃ e, a.result? = some e := by
  rcases System.ended_or_steps_or_waits exists_plausible ha hkeeps with
    ⟨e, he, -⟩ | hsteps | ⟨r, resume, x, q, -, hstep, -⟩
  · exact Or.inr ⟨e, he⟩
  · exact Or.inl hsteps
  · cases hstep

/-- Once a loop has ended, the task that waits for the loops can take a step until it has its
    result, unless it waits for a loop that goes on. -/
theorem serve_steps (hattended : Attended t.state ph)
    (hkeeps : a.Keeps attending Rests (ph serveTask)) (ha : t.tasks[serveTask]? = some a)
    (hopen : a.result? = none) (hended : t.state.ended ≠ []) :
    (∃ u, t.step (Server.machine (overChannel rest)) serveTask = some u) ∨
      ∃ d resume, a.Asks (.join d) resume ∧ ¬∃ e, (d, e) ∈ t.state.ended := by
  rcases System.ended_or_steps_or_waits exists_plausible ha hkeeps with
    ⟨e, he, -⟩ | hsteps | ⟨r, resume, x, q, hasks, hstep, hnone⟩
  · exact absurd hopen (Option.ne_none_iff_exists'.mpr ⟨e, he⟩)
  · exact Or.inl hsteps
  · have howner := hattended.owner serveTask
    generalize ph serveTask = q₀ at hstep howner
    cases hstep with
    | firstEnded =>
        have hlast : t.state.ended.getLast? = none := Option.map_eq_none_iff.mp hnone
        exact absurd (List.getLast?_eq_none_iff.mp hlast) hended
    | stop => cases hnone
    | @join d =>
        have hending : t.state.ending? d = none := Option.map_eq_none_iff.mp hnone
        exact Or.inr ⟨d, resume, hasks, ending?_eq_none_iff.mp hending⟩
    | operate => cases howner
    | arrival | write | prompt | finish =>
        exact absurd (Option.some.inj howner) (loopTask_ne_serveTask _)

/-- A server that is being shut down and has not returned goes on, or it is jammed. -/
theorem jammed_of_not_enabled (h : Serves rest device w t) (hstop : t.state.stopping = true)
    (hserve : ∃ a, t.tasks[serveTask]? = some a ∧ a.result? = none)
    (hnot : ¬Enabled rest t) : Jammed t := by
  obtain ⟨ph, hattended, hkeeps⟩ := h.attended
  obtain ⟨a₂, ha₂, hopen₂⟩ := hserve
  have hlength : serveTask < t.tasks.length := System.Keeps.lt_length ha₂
  have hidle {id : TaskId}
      (hid : id = loopTask .inbound ∨ id = loopTask .outbound ∨ id = serveTask) :
      ¬∃ u, t.step (Server.machine (overChannel rest)) id = some u := fun hu => hnot ⟨id, hid, hu⟩
  have hloop (d : Direction) : ∃ a, t.tasks[loopTask d]? = some a := by
    have hlt : loopTask d < t.tasks.length :=
      Nat.lt_of_le_of_lt (by cases d <;> decide) hlength
    exact ⟨_, List.getElem?_eq_getElem hlt⟩
  obtain ⟨a₀, ha₀⟩ := hloop .inbound
  obtain ⟨a₁, ha₁⟩ := hloop .outbound
  -- the outbound loop never waits
  have houtbound : ph (loopTask .outbound) = .ended .outbound := by
    refine (hattended.running_or_ended .outbound).resolve_left fun hrunning => ?_
    rcases running_steps (hrunning ▸ hkeeps.task ha₁) ha₁ hstop with hsteps | ⟨hd, -⟩
    · exact hidle (Or.inr (Or.inl rfl)) hsteps
    · cases hd
  obtain ⟨e, he⟩ := (hattended.ended_iff .outbound).mp houtbound
  obtain ⟨e₁, he₁⟩ := (ended_steps (houtbound ▸ hkeeps.task ha₁) ha₁).resolve_left
    (hidle (Or.inr (Or.inl rfl)))
  -- so the third task waits for the inbound loop, which goes on
  obtain ⟨d, resume, hasks, hgoes⟩ :=
    (serve_steps hattended (hkeeps.task ha₂) ha₂ hopen₂ (List.ne_nil_of_mem he)).resolve_left
      (hidle (Or.inr (Or.inr rfl)))
  obtain rfl : d = .inbound := by
    cases d with
    | inbound => rfl
    | outbound => exact absurd ⟨e, he⟩ hgoes
  have hrunning : ph (loopTask .inbound) = .running .inbound := by
    refine (hattended.running_or_ended .inbound).resolve_right fun hended => hgoes ?_
    exact (hattended.ended_iff .inbound).mp hended
  obtain ⟨-, p, resume₀, hasks₀, hwrite⟩ :=
    (running_steps (hrunning ▸ hkeeps.task ha₀) ha₀ hstop).resolve_left (hidle (Or.inl rfl))
  obtain ⟨hpresent, hfull⟩ := write_eq_none_iff.mp hwrite
  exact ⟨⟨a₀, p, resume₀, ha₀, hasks₀⟩, hpresent, hfull, ⟨a₁, e₁, ha₁, he₁⟩,
    ⟨a₂, resume, ha₂, hasks⟩⟩

/-- **A server that is being shut down goes on unless it is jammed.**  As long as it has not
    returned, one of the loops or the task that waits for them can take a step, whatever the
    handle of the device does; the one exception is that the inbound loop waits for room in the
    queue of the device, the outbound loop has ended, and the server waits for the inbound
    loop. -/
theorem enabled_iff_not_jammed (h : Serves rest device w t) (hstop : t.state.stopping = true)
    (hserve : ∃ a, t.tasks[serveTask]? = some a ∧ a.result? = none) :
    Enabled rest t ↔ ¬Jammed t := by
  constructor
  · exact fun henabled hjammed => not_enabled_of_jammed h hjammed henabled
  · intro hjammed
    by_contra hnot
    exact hjammed (jammed_of_not_enabled h hstop hserve hnot)

end Steps

/-! ## A server that jams -/

/-- A valid datagram. -/
def datagram : Packet := [0x45, 0, 0, 20, 0, 0, 0, 0, 64, 17, 0, 0, 10, 0, 0, 2, 10, 0, 1, 5]

/-- Surroundings that never run out of datagrams. -/
def flooding : Surroundings Unit where
  connect _ w := (.ok (.v4 (.ofOctets 192 0 2 1) 7000), w)
  issue _ _ _ w := w
  outcome _ _ _ w := some (.ok "", w)
  report _ w := w
  send _ _ w := (.ok (), w)
  read _ _ := none
  write _ w := some (.ok (), w)
  receive _ w := some (.ok datagram, w)

/-- The state when so many datagrams have been written. -/
def filled (n : Nat) (stats : Stats) : Server (Channel × Unit) :=
  { device := "loom0", stats, outside := ({ incoming := List.replicate n datagram }, ()) }

/-- The server between two datagrams. -/
def between (s : Server (Channel × Unit)) :
    System interface (Server (Channel × Unit)) TaskResult :=
  ⟨s, (serving "loom0" ()).tasks⟩

theorem Serves.next {rest : Surroundings τ} {device : String} {w : τ}
    {t u : System interface (Server (Channel × τ)) TaskResult} (id : TaskId)
    (h : Serves rest device w t)
    (hstep : t.step (Server.machine (overChannel rest)) id = some u) :
    Serves rest device w u :=
  System.Reaches.step h hstep

theorem serves_filled {n : Nat} (hn : n ≤ Channel.capacity) :
    ∃ stats, Serves flooding "loom0" () (between (filled n stats)) := by
  induction n with
  | zero => exact ⟨{}, .refl _⟩
  | succ n ih =>
      obtain ⟨stats, h⟩ := ih (Nat.le_of_succ_le hn)
      refine ⟨stats.bump .forwardedRemote, ?_⟩
      have hroom : (List.replicate n datagram).length < Channel.capacity := by
        rw [List.length_replicate]
        exact hn
      have hwrite : (filled n stats).answer (overChannel flooding) 0 (.write datagram) =
          some (.ok (), filled (n + 1) stats) := by
        simp only [Server.answer, overChannel, filled, Channel.write, if_neg Bool.false_ne_true,
          if_pos hroom, Option.map_some]
        rw [List.replicate_succ']
      -- the loop reads a datagram, writes it, counts it and begins again
      have hread := h.next 0 rfl
      have hwritten :=
        hread.next 0 (System.step_of_task rfl ((Task.Asks.forever _ _ _).step hwrite))
      have hcounted := hwritten.next 0 rfl
      exact hcounted.next 0 rfl

/-- One datagram more than the queue holds, and the server is shut down. -/
theorem exists_jammed :
    ∃ t, Serves flooding "loom0" () t ∧ t.state.stopping = true ∧
      (∃ a, t.tasks[serveTask]? = some a ∧ a.result? = none) ∧ Jammed t := by
  obtain ⟨stats, h⟩ := serves_filled (Nat.le_refl Channel.capacity)
  have hread := h.next (loopTask .inbound) rfl
  have hshut : Serves flooding "loom0" () _ := hread.move (.shutdown _)
  have hlooked := hshut.next (loopTask .outbound) rfl
  have hended := hlooked.next (loopTask .outbound) rfl
  have hfirst := hended.next serveTask rfl
  have hstopped := hfirst.next serveTask rfl
  refine ⟨_, hstopped, rfl, ⟨_, rfl, rfl⟩, ?_⟩
  have hfull : Channel.capacity ≤ (List.replicate Channel.capacity datagram).length :=
    Nat.le_of_eq List.length_replicate.symm
  exact ⟨⟨_, datagram, _, rfl, .forever _ _ _⟩, rfl, hfull, ⟨_, _, rfl, rfl⟩,
    ⟨_, _, rfl, .once _ _⟩⟩

/-- Nobody goes on there, although sendings and route commands return. -/
theorem shutdown_gets_stuck :
    Returns (overChannel flooding) ∧
      ∃ t, Serves flooding "loom0" () t ∧ t.state.stopping = true ∧
        (∃ a, t.tasks[serveTask]? = some a ∧ a.result? = none) ∧ ¬Enabled flooding t := by
  obtain ⟨t, h, hstop, hserve, hjammed⟩ := exists_jammed
  exact ⟨fun _ _ _ _ => ⟨_, rfl⟩, t, h, hstop, hserve, not_enabled_of_jammed h hjammed⟩

/-- A server that is shut down with a datagram in hand, while a host is being added, goes on. -/
theorem enabled_at_shutdown :
    ∃ t, Serves flooding "loom0" () t ∧ t.state.stopping = true ∧
      (∃ a, t.tasks[serveTask]? = some a ∧ a.result? = none) ∧
      (∃ a resume, t.tasks[loopTask .inbound]? = some a ∧ a.Asks (.write datagram) resume) ∧
      t.state.line = [3] ∧ Enabled flooding t := by
  have hbegin : Serves flooding "loom0" () _ := System.Reaches.refl _
  have hread := hbegin.next (loopTask .inbound) rfl
  have hadding : Serves flooding "loom0" () _ :=
    hread.spawn (.addPeer ⟨"192.0.2.1:7000", "10.1.0.0/16"⟩)
  have hqueued := hadding.next 3 rfl
  have hlocked := hqueued.next 3 rfl
  have hshut : Serves flooding "loom0" () _ := hlocked.move (.shutdown _)
  refine ⟨_, hshut, rfl, ⟨_, rfl, rfl⟩, ⟨_, _, rfl, .forever _ _ _⟩, rfl, ?_⟩
  refine (enabled_iff_not_jammed hshut rfl ⟨_, rfl, rfl⟩).mpr fun hjammed => ?_
  exact absurd hjammed.full (by decide)

end Overlay.Tunnel
