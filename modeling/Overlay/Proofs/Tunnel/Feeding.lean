import Overlay.Proofs.Tunnel.Conservation
import Overlay.Proofs.Tunnel.Shutdown

/-!
# What stops the outbound loop

The handle of a device in memory sends packets, and the outbound loop reads them in the order
in which the device has accepted them.  A read of length zero is the end of the device, and a
packet of length zero reads the same: the loop cannot tell the two apart.

`Feeding.goes_on_iff` says what follows.  While the handle is there, has not closed the
device, and the server is not shut down, the loop goes on exactly when no packet that it has
taken was empty.  Every other packet moves one counter, whatever its bytes are.
`Feeding.stopped_by_empty` is a run that an empty packet stops.
-/

namespace Overlay.Tunnel

variable {τ : Type}

/-! ## The system -/

/-- A server over a device in memory, and the packets that the device has accepted from the
    handle so far, the oldest first. -/
abbrev Fed (τ : Type) := Server (Channel × τ) × List Packet

/-- The device. -/
def Fed.channel (u : Fed τ) : Channel := u.1.outside.1

/-- The device after the handle was used. -/
def Fed.withChannel (u : Fed τ) (c : Channel) : Fed τ :=
  ({ u.1 with outside := (c, u.1.outside.2) }, u.2)

/-- What happens beside the tasks.  A handle that has gone away is not used any more. -/
inductive Feeds : Fed τ → Fed τ → Prop where
  /-- The device accepts a packet. -/
  | accept {u : Fed τ} {c : Channel} {p : Packet} {x : Unit} :
      u.channel.handleGone = false → u.channel.transmit p = some (.ok x, c) →
        Feeds u ((u.withChannel c).1, u.2 ++ [p])
  /-- The device refuses a packet. -/
  | refuse {u : Fed τ} {c : Channel} {p : Packet} {e : IoError} :
      u.channel.handleGone = false → u.channel.transmit p = some (.error e, c) →
        Feeds u (u.withChannel c)
  /-- The handle takes a packet. -/
  | take {u : Fed τ} {c : Channel} {x : Option Packet} :
      u.channel.handleGone = false → u.channel.take = some (x, c) → Feeds u (u.withChannel c)
  /-- The handle closes the device. -/
  | close (u : Fed τ) : Feeds u (u.withChannel u.channel.close)
  /-- The handle goes away. -/
  | drop (u : Fed τ) : Feeds u (u.withChannel u.channel.dropHandle)
  /-- The rest of the surroundings goes on. -/
  | drift (u : Fed τ) (v : τ) : Feeds u ({ u.1 with outside := (u.channel, v) }, u.2)
  /-- The server is told to shut down. -/
  | shutdown (u : Fed τ) : Feeds u ({ u.1 with stopping := true }, u.2)

/-- The machine of the server; what the device has accepted is not its business. -/
def feedMachine (rest : Surroundings τ) : Machine interface (Fed τ) :=
  (Server.machine (overChannel rest)).noting fun _ _ accepted => accepted

/-- The server at its beginning. -/
def fedLaunch (device : String) (w : τ) : System interface (Fed τ) TaskResult :=
  ⟨((serving device w).state, []), (serving device w).tasks⟩

/-- What happens to a server that forwards the packets of a handle. -/
def Feeding (rest : Surroundings τ) (device : String) (w : τ) :
    List (Exchange interface) → System interface (Fed τ) TaskResult → Prop :=
  System.Runs (feedMachine rest) Operation Feeds (fedLaunch device w)

/-! ## What the loop has taken -/

variable {rest : Surroundings τ} {device : String} {w : τ} {tr : List (Exchange interface)}
  {u u' : Fed τ} {s s' : Server (Channel × τ)} {id : TaskId} {r : Request} {x : r.Answer}

/-- Nothing comes any more: the handle has closed the device or is gone, and the queue is
    empty. -/
def Exhausted (c : Channel) : Prop :=
  (c.closed = true ∨ c.handleGone = true) ∧ c.outgoing = []

/-- How the loop ends, once it does. -/
def Outbound.ending? : Outbound → Option Ending
  | leaving e => some e
  | ended e => some e
  | _ => none

/-- What the outbound loop has taken of what the device has accepted.  An empty packet can only
    be the last one taken, and then the loop takes itself for closed. -/
structure Drawn (tr : List (Exchange interface)) (u : Fed τ) (q : Outbound)
    (taken : List Packet) : Prop where
  accepted : u.2 = taken ++ u.channel.outgoing
  read : nonempty (arrivals tr) = nonempty (taken.map fun p => p.take maxDatagram)
  last : [] ∉ taken.dropLast
  going : q.ending? = none → [] ∉ taken
  ending : ∀ e, q.ending? = some e → e = .ok () ∧ u.1.stopping = true ∨
    e = .error .deviceClosed ∧ ([] ∈ taken ∨ Exhausted u.channel)

/-- The side of the device that the outbound loop reads. -/
def SameFeed (c c' : Channel) : Prop :=
  c'.outgoing = c.outgoing ∧ c'.closed = c.closed ∧ c'.handleGone = c.handleGone

theorem SameFeed.refl (c : Channel) : SameFeed c c := ⟨rfl, rfl, rfl⟩

theorem Exhausted.of_sameFeed {c c' : Channel} (h : Exhausted c) (hsame : SameFeed c c') :
    Exhausted c' := by
  obtain ⟨houtgoing, hclosed, hgone⟩ := hsame
  exact ⟨by rw [hclosed, hgone]; exact h.1, by rw [houtgoing]; exact h.2⟩

theorem sameFeed_of_write {c c' : Channel} {p : Packet} {y : Except IoError Unit}
    (h : c.write p = some (y, c')) : SameFeed c c' := by
  unfold Channel.write at h
  split at h
  · cases h
    exact .refl c
  · split at h
    · cases h
      exact ⟨rfl, rfl, rfl⟩
    · exact nomatch h

/-- Only the outbound loop takes packets from the device. -/
theorem sameFeed_of_answer (hx : s.answer (overChannel rest) id r = some (x, s'))
    (hr : r ≠ .arrival .outbound) : SameFeed s.outside.1 s'.outside.1 := by
  cases r with
  | lock =>
      simp only [Server.answer] at hx
      split at hx
      · cases hx
        exact .refl _
      · cases hx
  | connect n host =>
      simp only [Server.answer, overChannel] at hx
      split at hx
      · rename_i heq
        cases hx
        exact congrArg (fun y => y.2.1) heq ▸ .refl _
      · rename_i heq
        cases hx
        exact congrArg (fun y => y.2.1) heq ▸ .refl _
  | arrival d =>
      cases d with
      | outbound => exact absurd rfl hr
      | inbound =>
          simp only [Server.answer, Server.nextRead, overChannel, Option.map_map] at hx
          split at hx
          · cases hx
            exact .refl _
          · obtain ⟨y, -, heq⟩ := Option.map_eq_some_iff.mp hx
            cases heq
            exact .refl _
  | write p =>
      simp only [Server.answer, overChannel, Option.map_map] at hx
      obtain ⟨y, hy, heq⟩ := Option.map_eq_some_iff.mp hx
      cases heq
      exact sameFeed_of_write hy
  | outcome action n =>
      simp only [Server.answer, overChannel, Option.map_map] at hx
      obtain ⟨y, -, heq⟩ := Option.map_eq_some_iff.mp hx
      cases heq
      exact .refl _
  | firstEnded | join =>
      obtain ⟨y, -, heq⟩ := Option.map_eq_some_iff.mp hx
      cases heq
      exact .refl _
  | queue | unlock | networks | lookup | issue | report | count | finish | stop | send | remove
  | insert | removeSame =>
      cases hx
      exact .refl _

/-- A read takes the oldest packet, or there is none and none will come. -/
theorem read_cases {c c' : Channel} {size : Nat} {p : Packet} (h : c.read size = some (p, c')) :
    (∃ q rest, c.outgoing = q :: rest ∧ p = q.take size ∧ c' = { c with outgoing := rest }) ∨
      (p = [] ∧ c' = c ∧ Exhausted c) := by
  unfold Channel.read at h
  split at h
  · rename_i q rest houtgoing
    cases h
    exact Or.inl ⟨q, rest, houtgoing, rfl, rfl⟩
  · rename_i houtgoing
    split at h
    · rename_i hend
      cases h
      rw [Bool.or_eq_true] at hend
      exact Or.inr ⟨rfl, rfl, hend, houtgoing⟩
    · exact nomatch h

/-- What the outbound loop finds when it looks for a packet. -/
theorem arrival_cases {y : Arrival}
    (hx : s.answer (overChannel rest) id (.arrival .outbound) = some (y, s')) :
    (y = .stop ∧ s.stopping = true ∧ s' = s) ∨
      ∃ p c, s.outside.1.read maxDatagram = some (p, c) ∧ y = .read (.ok p) ∧
        s' = { s with outside := (c, s.outside.2) } := by
  simp only [Server.answer, Server.nextRead, overChannel, Option.map_map] at hx
  split at hx
  · rename_i hstop
    cases hx
    exact Or.inl ⟨rfl, hstop, rfl⟩
  · obtain ⟨⟨p, c⟩, hread, heq⟩ := Option.map_eq_some_iff.mp hx
    cases heq
    exact Or.inr ⟨p, c, hread, rfl, rfl⟩

/-- A packet is empty exactly when nothing of it is read. -/
theorem take_eq_nil_iff {p : Packet} : p.take maxDatagram = [] ↔ p = [] := by
  rw [List.take_eq_nil_iff]
  exact ⟨fun h => h.resolve_left (by decide), Or.inr⟩

/-- The loop does not end with a packet in hand. -/
theorem Outbound.ending?_take (p : Packet) : (Outbound.take p).ending? = none := by
  unfold Outbound.take
  split
  · rfl
  · rfl

/-- The loop takes what is empty for the end, and nothing else. -/
theorem Outbound.ending?_arrive (p : Packet) :
    (Outbound.arrive (.read (.ok p))).ending? =
      if p = [] then some (.error .deviceClosed) else none := by
  cases p with
  | nil => rfl
  | cons b bytes => exact Outbound.ending?_take (b :: bytes)

namespace Drawn

variable {q q' : Outbound} {taken : List Packet}

/-- What leaves the queue alone keeps what was taken. -/
theorem keep (h : Drawn tr u q taken) (haccepted : u'.2 = u.2)
    (houtgoing : u'.channel.outgoing = u.channel.outgoing)
    (hexhausted : Exhausted u.channel → Exhausted u'.channel)
    (hstop : u.1.stopping = true → u'.1.stopping = true) : Drawn tr u' q taken where
  accepted := by
    rw [haccepted, houtgoing]
    exact h.accepted
  read := h.read
  last := h.last
  going := h.going
  ending := by
    intro e he
    rcases h.ending e he with ⟨rfl, hs⟩ | ⟨rfl, hend⟩
    · exact Or.inl ⟨rfl, hstop hs⟩
    · exact Or.inr ⟨rfl, hend.imp_right hexhausted⟩

/-- So does an exchange that takes no packet. -/
theorem pass (h : Drawn tr u q taken) {e : Exchange interface} (harrivals : arrivals [e] = [])
    (hsame : SameFeed u.channel s'.outside.1)
    (hstop : u.1.stopping = true → s'.stopping = true) (hending : q'.ending? = q.ending?) :
    Drawn (tr ++ [e]) (s', u.2) q' taken := by
  have hkeep : Drawn tr (s', u.2) q taken :=
    h.keep rfl hsame.1 (fun hx => hx.of_sameFeed hsame) hstop
  refine ⟨hkeep.accepted, ?_, hkeep.last, ?_, ?_⟩
  · rw [arrivals_append, harrivals, List.append_nil]
    exact hkeep.read
  · rw [hending]
    exact hkeep.going
  · rw [hending]
    exact hkeep.ending

/-- The loop looks for a packet: it takes the oldest one, or it ends. -/
theorem arrive (h : Drawn tr u .idle taken) {y : Arrival}
    (hx : u.1.answer (overChannel rest) id (.arrival .outbound) = some (y, s')) :
    ∃ taken', Drawn (tr ++ [⟨id, .arrival .outbound, y⟩]) (s', u.2) (.arrive y) taken' := by
  rcases arrival_cases hx with ⟨rfl, hstop, rfl⟩ | ⟨p, c, hread, rfl, rfl⟩
  · refine ⟨taken, h.accepted, ?_, h.last, (fun hnone => nomatch hnone), ?_⟩
    · rw [arrivals_append]
      exact (List.append_nil _).symm ▸ h.read
    · intro e he
      cases he
      exact Or.inl ⟨rfl, hstop⟩
  · have harrivals : arrivals (tr ++ [⟨id, .arrival .outbound, .read (.ok p)⟩]) =
        arrivals tr ++ [p] := arrivals_append ..
    rcases read_cases hread with ⟨oldest, others, houtgoing, rfl, rfl⟩ | ⟨rfl, rfl, hexhausted⟩
    · refine ⟨taken ++ [oldest], ?_, ?_, ?_, ?_, ?_⟩
      · rw [h.accepted, List.append_assoc]
        exact congrArg (taken ++ ·) houtgoing
      · rw [harrivals, List.map_append, nonempty_append, nonempty_append, h.read]
        rfl
      · rw [List.dropLast_concat]
        exact h.going rfl
      · rw [Outbound.ending?_arrive]
        intro hnone hmem
        rcases List.mem_append.mp hmem with hmem | hmem
        · exact h.going rfl hmem
        · rw [← List.mem_singleton.mp hmem] at hnone
          exact nomatch hnone
      · intro e he
        rw [Outbound.ending?_arrive] at he
        by_cases hempty : oldest.take maxDatagram = []
        · rw [if_pos hempty] at he
          cases he
          obtain rfl := take_eq_nil_iff.mp hempty
          exact Or.inr ⟨rfl, Or.inl (List.mem_append_right _ List.mem_cons_self)⟩
        · rw [if_neg hempty] at he
          exact nomatch he
    · refine ⟨taken, h.accepted, ?_, h.last, (fun hnone => nomatch hnone), ?_⟩
      · rw [harrivals, nonempty_append, h.read]
        exact List.append_nil _
      · intro e he
        cases he
        exact Or.inr ⟨rfl, Or.inr hexhausted⟩

/-- The other steps of the loop take nothing. -/
theorem step (h : Drawn tr u q taken) (hstep : q.Step r x q')
    (hx : u.1.answer (overChannel rest) id r = some (x, s')) :
    ∃ taken', Drawn (tr ++ [⟨id, r, x⟩]) (s', u.2) q' taken' := by
  have hstop := (stats_of_answer hx).2
  cases hstep with
  | arrive => exact h.arrive hx
  | @seek d p y =>
      refine ⟨taken, h.pass rfl (sameFeed_of_answer hx (by simp)) hstop ?_⟩
      cases y with
      | none | some => rfl
  | report | send | count | finish =>
      exact ⟨taken, h.pass rfl (sameFeed_of_answer hx (by simp)) hstop rfl⟩

/-- So do the other tasks. -/
theorem aside (h : Drawn tr u q taken) (hr : r ≠ .arrival .outbound)
    (hx : u.1.answer (overChannel rest) id r = some (x, s')) :
    Drawn (tr ++ [⟨id, r, x⟩]) (s', u.2) q taken := by
  refine h.pass ?_ (sameFeed_of_answer hx hr) (stats_of_answer hx).2 rfl
  cases r with
  | arrival d =>
      cases d with
      | inbound => rfl
      | outbound => exact absurd rfl hr
  | _ => rfl

/-- What happens beside the tasks takes nothing either, and nothing is accepted any more once
    nothing comes. -/
theorem happens (h : Drawn tr u q taken) (hu : Feeds u u') : Drawn tr u' q taken := by
  cases hu with
  | @accept c p x hgone htransmit =>
      unfold Channel.transmit at htransmit
      split at htransmit
      · exact nomatch htransmit
      · rename_i hopen
        split at htransmit
        · exact nomatch htransmit
        · split at htransmit
          · cases htransmit
            refine ⟨?_, h.read, h.last, h.going, ?_⟩
            · rw [h.accepted, List.append_assoc]
              rfl
            · intro e he
              rcases h.ending e he with hstop | ⟨rfl, hend⟩
              · exact Or.inl hstop
              · refine Or.inr ⟨rfl, Or.inl (hend.resolve_right ?_)⟩
                rintro ⟨hclosed | hgone', -⟩
                · exact hopen hclosed
                · exact nomatch hgone.symm.trans hgone'
          · exact nomatch htransmit
  | @refuse c p e hgone htransmit =>
      have hc : c = u.channel := by
        unfold Channel.transmit at htransmit
        split at htransmit
        · cases htransmit
          rfl
        · split at htransmit
          · cases htransmit
            rfl
          · split at htransmit
            · exact nomatch htransmit
            · exact nomatch htransmit
      subst hc
      exact h.keep rfl rfl id id
  | @take c x hgone htake =>
      have hsame : SameFeed u.channel c := by
        unfold Channel.take at htake
        split at htake
        · cases htake
          exact ⟨rfl, rfl, rfl⟩
        · split at htake
          · cases htake
            exact .refl _
          · exact nomatch htake
      exact h.keep rfl hsame.1 (fun hx => hx.of_sameFeed hsame) id
  | close => exact h.keep rfl rfl (fun hx => ⟨Or.inl rfl, hx.2⟩) id
  | drop => exact h.keep rfl rfl (fun hx => ⟨Or.inr rfl, hx.2⟩) id
  | drift v => exact h.keep rfl rfl id id
  | shutdown => exact h.keep rfl rfl id fun _ => rfl

end Drawn

/-! ## What stops it -/

variable {t : System interface (Fed τ) TaskResult} {ph : TaskId → Job}

theorem fedLaunch_keeps :
    (fedLaunch device w).Keeps handling Job.EndsWith Job.other launched :=
  System.Keeps.of_forall₂ <|
    .cons (loop_handles .inbound) (.cons (loop_handles .outbound) (.cons serve_handles .nil))

/-- What holds all the time: the books are kept, and what was taken is known. -/
def Watched (tr : List (Exchange interface)) (u : Fed τ) (ph : TaskId → Job) : Prop :=
  Recorded tr u.1 ph ∧ ∃ q taken, ph (loopTask .outbound) = .outbound q ∧ Drawn tr u q taken

theorem watched_launch : Watched [] (fedLaunch device w).state launched := by
  refine ⟨recorded_launch, .idle, [], rfl, rfl, rfl, List.not_mem_nil, ?_, ?_⟩
  · exact fun _ => List.not_mem_nil
  · exact fun _ he => nomatch he

/-- Every exchange keeps it. -/
theorem Watched.step (h : Watched tr u ph) {q : Job} (hstep : Job.Step (ph id) r x q)
    (hx : (feedMachine rest).answer id r u = some (x, u')) :
    Watched (tr ++ [⟨id, r, x⟩]) u' (Function.update ph id q) := by
  obtain ⟨hrec, o, taken, ho, hdrawn⟩ := h
  obtain ⟨hx, hsame⟩ := Machine.answer_noting hx
  obtain ⟨s', accepted⟩ := u'
  obtain rfl : accepted = u.2 := hsame
  refine ⟨hrec.step hstep hx, ?_⟩
  -- a task that is no outbound loop does not look for packets from the device
  have haside : id ≠ loopTask .outbound → r ≠ .arrival .outbound →
      ∃ q' taken', Function.update ph id q (loopTask .outbound) = .outbound q' ∧
        Drawn (tr ++ [⟨id, r, x⟩]) (s', u.2) q' taken' := by
    intro hne hr
    rw [Function.update_of_ne hne.symm]
    exact ⟨o, taken, ho, hdrawn.aside hr hx⟩
  generalize hid : ph id = q₀ at hstep
  cases hstep with
  | inbound hstep =>
      obtain rfl := hrec.eq_inbound hid
      refine haside (by decide) ?_
      cases hstep with
      | arrive | write | count | finish => simp
  | outbound hstep =>
      obtain rfl := hrec.eq_outbound hid
      obtain rfl := Job.outbound.inj (ho.symm.trans hid)
      obtain ⟨taken', hdrawn'⟩ := hdrawn.step hstep hx
      exact ⟨_, taken', Function.update_self .., hdrawn'⟩
  | other hr =>
      refine haside ?_ ?_
      · rintro rfl
        exact nomatch ho.symm.trans hid
      · rintro rfl
        exact hr trivial

/-- What happens beside the tasks keeps it. -/
theorem Watched.happens (h : Watched tr u ph) (hu : Feeds u u') : Watched tr u' ph := by
  obtain ⟨hrec, q, taken, hq, hdrawn⟩ := h
  refine ⟨hrec.move ?_, q, taken, hq, hdrawn.happens hu⟩
  cases hu with
  | _ => rfl

theorem Feeding.watched (h : Feeding rest device w tr t) :
    ∃ ph, Watched tr t.state ph ∧ t.Keeps handling Job.EndsWith Job.other ph :=
  System.Runs.keeps (P := handling) Watched
    (fun hx => (answers_of_answer (Machine.answer_noting hx).1).possible) fedLaunch_keeps
    watched_launch (fun _ hinv hstep hx => hinv.step hstep hx) (fun ha => ha.handles)
    (fun hinv hu => hinv.happens hu) h

/-- The outbound loop goes on: it has not ended and is not about to, and it can take its next
    step unless there is nothing to read. -/
def GoesOn (rest : Surroundings τ) (t : System interface (Fed τ) TaskResult) : Prop :=
  ∃ a, t.tasks[loopTask .outbound]? = some a ∧ a.result? = none ∧
    (∀ e, a.request? ≠ some (.finish .outbound e)) ∧
    ((∃ u, t.step (feedMachine rest) (loopTask .outbound) = some u) ∨
      t.state.channel.outgoing = [])

/-- The outbound loop has ended. -/
def HasEnded (e : Ending) (t : System interface (Fed τ) TaskResult) : Prop :=
  ∃ a, t.tasks[loopTask .outbound]? = some a ∧ a.result? = some (.ended e)

/-- What the server can answer, the machine can. -/
theorem exists_feed_answer (h : ∃ x s', u.1.answer (overChannel rest) id r = some (x, s')) :
    ∃ x u', (feedMachine rest).answer id r u = some (x, u') := by
  obtain ⟨x, s', hx⟩ := h
  exact ⟨x, (s', u.2), Option.map_eq_some_iff.mpr ⟨(x, s'), hx, rfl⟩⟩

/-- There is a next packet, or nothing to read. -/
theorem exists_arrival (houtgoing : u.channel.outgoing ≠ []) :
    ∃ x s', u.1.answer (overChannel rest) id (.arrival .outbound) = some (x, s') := by
  obtain ⟨p, others, hp⟩ := List.exists_cons_of_ne_nil houtgoing
  have hp : u.1.outside.1.outgoing = p :: others := hp
  by_cases hstop : u.1.stopping = true
  · exact ⟨.stop, u.1, if_pos hstop⟩
  · simp only [Server.answer, if_neg hstop, Server.nextRead, overChannel, Channel.read, hp,
      Option.map_some]
    exact ⟨_, _, rfl⟩

/-- A loop that asks for something goes on unless it asks for its end. -/
theorem goesOn_of_ask {next : r.Answer → Work (Option TaskResult)} {q q' : Outbound}
    (ha : t.tasks[loopTask .outbound]? = some (.forever (runOf .outbound) (.ask r next)))
    (hstep : q.Step r x q') : GoesOn rest t ↔ q.ending? = none := by
  have hasks := Task.Asks.forever (runOf .outbound) r next
  have hgoes : (∀ e, r ≠ .finish .outbound e) →
      (∃ x s', t.state.1.answer (overChannel rest) (loopTask .outbound) r = some (x, s')) ∨
        t.state.channel.outgoing = [] → GoesOn rest t := by
    intro hr hnext
    refine ⟨_, ha, rfl, fun e he => hr e (Option.some.inj he), hnext.imp_left fun hx => ?_⟩
    obtain ⟨x, u', hx⟩ := exists_feed_answer hx
    exact ⟨_, System.step_of_task ha (hasks.step hx)⟩
  cases hstep with
  | arrive =>
      refine iff_of_true (hgoes (fun e he => nomatch he) ?_) rfl
      by_cases houtgoing : t.state.channel.outgoing = []
      · exact Or.inr houtgoing
      · exact Or.inl (exists_arrival houtgoing)
  | report | seek | send | count =>
      exact iff_of_true (hgoes (fun e he => nomatch he) (Or.inl ⟨_, _, rfl⟩)) rfl
  | finish =>
      refine iff_of_false ?_ fun he => nomatch he
      rintro ⟨a, ha', -, hnot, -⟩
      obtain rfl := Option.some.inj (ha.symm.trans ha')
      exact hnot _ rfl

/-- Whether the loop goes on can be told from its phase. -/
theorem goesOn_iff {q : Outbound} {now : Work (Option TaskResult)}
    (ha : t.tasks[loopTask .outbound]? = some (.forever (runOf .outbound) now))
    (hk : (Task.forever (runOf .outbound) now).Keeps handling Job.EndsWith (Job.outbound q)) :
    GoesOn rest t ↔ q.ending? = none := by
  cases now with
  | ask r next =>
      obtain ⟨x, hx⟩ := exists_plausible r
      obtain ⟨_, hstep, -⟩ := hk.asks (.forever (runOf .outbound) r next) hx
      cases hstep with
      | outbound hstep => exact goesOn_of_ask ha hstep
  | done y =>
      cases y with
      | none =>
          -- a loop is idle between two runs
          obtain ⟨_, -, hagain⟩ := hk.again
          obtain ⟨_, hstep, -⟩ := hagain Arrival.stop trivial
          cases hstep with
          | outbound hstep =>
              cases hstep with
              | arrive =>
                  refine iff_of_true ⟨_, ha, rfl, (fun e he => nomatch he), Or.inl ?_⟩ rfl
                  exact ⟨_, System.step_of_task ha rfl⟩
      | some y =>
          refine iff_of_false ?_ ?_
          · rintro ⟨a, ha', hnone, -⟩
            obtain rfl := Option.some.inj (ha.symm.trans ha')
            exact nomatch hnone
          · intro hq
            have hends : Job.EndsWith (.outbound q) y := hk.ends rfl
            cases q with
            | ended e => exact nomatch hq
            | _ => exact hends.elim

/-- What the loop has ended with. -/
theorem ending?_of_hasEnded {q : Outbound} {e : Ending} (hend : HasEnded e t)
    (hk : t.Keeps handling Job.EndsWith Job.other ph)
    (hq : ph (loopTask .outbound) = .outbound q) : q = .ended e := by
  obtain ⟨a, ha, hresult⟩ := hend
  have hends := (hk.task ha).ends hresult
  rw [hq] at hends
  cases q with
  | ended e' =>
      obtain ⟨rfl⟩ : TaskResult.ended e = .ended e' := hends
      rfl
  | _ => exact hends.elim

theorem length_nonempty_take (ps : List Packet) :
    (nonempty (ps.map fun p => p.take maxDatagram)).length = (nonempty ps).length := by
  induction ps with
  | nil => rfl
  | cons p ps ih =>
      cases p with
      | nil => exact ih
      | cons b bytes => exact congrArg (· + 1) ih

/-- With no packet in hand the loop has counted all that it has taken, except for an empty
    one. -/
theorem Recorded.length_counted {q : Outbound} {taken : List Packet}
    (hrec : Recorded tr t.state.1 ph) (hq : ph (loopTask .outbound) = .outbound q)
    (hdrawn : Drawn tr t.state q taken) (hload : q.load = 0) :
    (counted (loopTask .outbound) tr).length = (nonempty taken).length := by
  obtain ⟨q', hq', hbooks⟩ := hrec.outbound
  obtain rfl := Job.outbound.inj (hq'.symm.trans hq)
  have htotal := hbooks.total
  rw [hload, Nat.add_zero, hdrawn.read, length_nonempty_take] at htotal
  exact htotal

/-- The task with the given number takes its next step. -/
theorem Feeding.next (h : Feeding rest device w tr t) {t' : System interface (Fed τ) TaskResult}
    {tr' : List (Exchange interface)} (id : TaskId)
    (hnext : t.exchange (feedMachine rest) id = some (tr', t')) :
    Feeding rest device w (tr ++ tr') t' :=
  System.Runs.exchange h hnext

/-- The device accepts a packet at the beginning. -/
theorem feeding_accepted (p : Packet) :
    Feeding flooding "loom0" () []
      ⟨({ (fedLaunch "loom0" ()).state.1 with outside := ({ outgoing := [p] }, ()) }, [p]),
        (fedLaunch "loom0" ()).tasks⟩ :=
  System.Runs.refl.move (.accept (x := ()) rfl rfl)

/-- **Only an empty packet stops the outbound loop.**  The packets that it has taken are the
    first of those that the device has accepted, and none but the last of them is empty.  While
    the handle is there, has not closed the device, and the server is not shut down, the loop
    goes on exactly when none of them is empty.  Whatever their bytes are, all of them that are
    not empty have moved one counter each when the loop has none of them in hand.  When it has
    ended because the device is closed, it has taken an empty packet, or the handle has closed
    the device or is gone, and everything was taken and counted. -/
theorem Feeding.goes_on_iff (h : Feeding rest device w tr t) :
    ∃ taken, t.state.2 = taken ++ t.state.channel.outgoing ∧ [] ∉ taken.dropLast ∧
      (t.state.channel.closed = false → t.state.channel.handleGone = false →
        t.state.1.stopping = false → (GoesOn rest t ↔ [] ∉ taken)) ∧
      (Pausing .outbound t →
        (counted (loopTask .outbound) tr).length = (nonempty taken).length) ∧
      Tallies t.state.1.stats
        (counted (loopTask .inbound) tr ++ counted (loopTask .outbound) tr) ∧
      (HasEnded (.error .deviceClosed) t → [] ∈ taken ∨ Exhausted t.state.channel ∧
        t.state.2 = taken ∧
          (counted (loopTask .outbound) tr).length = (nonempty taken).length) := by
  obtain ⟨ph, ⟨hrec, q, taken, hq, hdrawn⟩, hk⟩ := h.watched
  refine ⟨taken, hdrawn.accepted, hdrawn.last, ?_, ?_, hrec.stats, ?_⟩
  · intro hclosed hgone hstop
    obtain ⟨now, hnow⟩ : ∃ now, t.tasks[loopTask .outbound]? =
        some (.forever (runOf .outbound) now) := h.forever_at rfl
    rw [goesOn_iff hnow (hq ▸ hk.task hnow)]
    refine ⟨hdrawn.going, fun hempty => ?_⟩
    cases he : q.ending? with
    | none => rfl
    | some e =>
        rcases hdrawn.ending e he with ⟨-, hstop'⟩ | ⟨-, hmem | ⟨hclosed' | hgone', -⟩⟩
        · exact nomatch hstop.symm.trans hstop'
        · exact absurd hmem hempty
        · exact nomatch hclosed.symm.trans hclosed'
        · exact nomatch hgone.symm.trans hgone'
  · intro hp
    have hload : (ph (loopTask .outbound)).load = 0 := load_eq_zero_of_pausing h rfl hk hp
    rw [hq] at hload
    exact hrec.length_counted hq hdrawn hload
  · intro hend
    obtain rfl := ending?_of_hasEnded hend hk hq
    rcases hdrawn.ending _ rfl with ⟨hok, -⟩ | ⟨-, hmem | hexhausted⟩
    · exact nomatch hok
    · exact Or.inl hmem
    · refine Or.inr ⟨hexhausted, ?_, hrec.length_counted hq hdrawn rfl⟩
      rw [hdrawn.accepted, hexhausted.2, List.append_nil]

/-- Bytes that are no packet at all are counted, and the loop goes on. -/
theorem Feeding.goes_on_after_garbage :
    ∃ tr t, Feeding flooding "loom0" () tr t ∧ t.state.2 = [[0xff, 1, 2]] ∧
      GoesOn flooding t ∧ (counted (loopTask .outbound) tr).length = 1 := by
  have hread := (feeding_accepted [0xff, 1, 2]).next (loopTask .outbound) rfl
  have hcounted := hread.next (loopTask .outbound) rfl
  obtain ⟨taken, haccepted, -, hgoes, hcount, -⟩ := Feeding.goes_on_iff hcounted
  obtain rfl : [[0xff, 1, 2]] = taken := haccepted.trans (List.append_nil taken)
  refine ⟨_, _, hcounted, rfl, (hgoes rfl rfl rfl).mpr (by decide), hcount ?_⟩
  intro a r ha hr
  cases ha
  cases hr

/-- An empty packet stops the loop, although the handle is there, has not closed the device, and
    the server is not shut down. -/
theorem Feeding.stopped_by_empty :
    ∃ tr t, Feeding flooding "loom0" () tr t ∧ t.state.2 = [[]] ∧
      t.state.channel.closed = false ∧ t.state.channel.handleGone = false ∧
      t.state.1.stopping = false ∧ HasEnded (.error .deviceClosed) t ∧
      ¬ GoesOn flooding t ∧ counted (loopTask .outbound) tr = [] := by
  have hread := (feeding_accepted []).next (loopTask .outbound) rfl
  have hended := hread.next (loopTask .outbound) rfl
  refine ⟨_, _, hended, rfl, rfl, rfl, rfl, ⟨_, rfl, rfl⟩, ?_, rfl⟩
  rintro ⟨a, ha, hnone, -⟩
  cases ha
  exact nomatch hnone

end Overlay.Tunnel
