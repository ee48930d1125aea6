import Overlay.Agent.State
import Overlay.Proofs.Tunnel.Lock

/-!
# What an answer of an agent says and changes

The requests of the tunnel server are answered by the server itself, in surroundings that
take the reported sources into a queue.  All other requests leave the peers and the lock
alone.
-/

namespace Overlay.Agent

variable {σ : Type} {around : Around σ} {id : TaskId} {s s' : State σ}

/-- What a connection gives is a connection to the host, for the network. -/
def Plausible : (r : Request) → r.Answer → Prop
  | .tunnel r, x => Tunnel.Plausible r x
  | _, _ => True

/-- Every request can get an answer. -/
theorem exists_plausible (r : Request) : ∃ x, Plausible r x := by
  cases r with
  | tunnel r => exact Tunnel.exists_plausible r
  | draw => exact ⟨0, trivial⟩
  | nextDelay => exact ⟨.zero, trivial⟩
  | register => exact ⟨.ok [], trivial⟩
  | awaitEnd => exact ⟨none, trivial⟩
  | sighting => exact ⟨.closed, trivial⟩
  | change => exact ⟨.closed, trivial⟩
  | connect => exact ⟨.failed, trivial⟩
  | arrival => exact ⟨.ended, trivial⟩
  | stopping | pause | due | isOpen | publish | claim => exact ⟨true, trivial⟩
  | report | bind | joinServer | unregister => exact ⟨.ok (), trivial⟩
  | leave | forget | prune | resetDelay | launch | signal | served | join => exact ⟨(), trivial⟩

/-- What a tunnel asks for is answered by the server, and nothing else changes. -/
theorem answer_tunnel {r : Tunnel.Request} {x : r.Answer}
    (h : s.answer around id (.tunnel r) = some (x, s')) :
    Tunnel.Answers id r x s.server s'.server ∧ s' = { s with server := s'.server } := by
  simp only [State.answer] at h
  split at h
  · obtain ⟨⟨y, server⟩, hserver, heq⟩ := Option.map_eq_some_iff.mp h
    cases heq
    exact ⟨Tunnel.answers_of_answer hserver, rfl⟩
  · exact nomatch h

/-- Every answer is a possible one. -/
theorem plausible_of_answer {r : Request} {x : r.Answer}
    (h : s.answer around id r = some (x, s')) : Plausible r x := by
  cases r with
  | tunnel r => exact (answer_tunnel h).1.possible
  | _ => trivial

/-- To look for a change of the signal, or else for something else, is to find the change or
    the other thing. -/
theorem lookOr_eq_some {α : Type} {p : Part} {changed : Bool → α}
    {other : State σ → Option (α × State σ)} {x : α}
    (h : s.lookOr p changed other = some (x, s')) :
    (∃ stop g, (s.signals p).look = some (stop, g) ∧ x = changed stop ∧ s' = s.setSignal p g) ∨
      ((s.signals p).look = none ∧ other s = some (x, s')) := by
  unfold State.lookOr State.look at h
  cases hlook : (s.signals p).look with
  | none =>
      rw [hlook] at h
      exact Or.inr ⟨rfl, h⟩
  | some found =>
      rw [hlook] at h
      cases h
      exact Or.inl ⟨found.1, found.2, rfl, rfl, rfl⟩

/-- What is true of every state that a change may lead to is true of the one that it does. -/
theorem of_map {α β : Type} {R : State σ → Prop} {o : Option α} {f : α → β × State σ} {x : β}
    (h : o.map f = some (x, s')) (hf : ∀ a, R (f a).2) : R s' := by
  obtain ⟨a, -, ha⟩ := Option.map_eq_some_iff.mp h
  have hR := hf a
  rw [ha] at hR
  exact hR

theorem of_lookOr {α : Type} {R : State σ → Prop} {p : Part} {changed : Bool → α}
    {other : State σ → Option (α × State σ)} {x : α}
    (h : s.lookOr p changed other = some (x, s')) (hlook : ∀ g, R (s.setSignal p g))
    (hother : other s = some (x, s') → R s') : R s' := by
  rcases lookOr_eq_some h with ⟨stop, g, -, -, rfl⟩ | ⟨-, ho⟩
  · exact hlook g
  · exact hother ho

/-- What the tasks of an agent leave behind for each other, apart from the server. -/
structure Marks where
  /-- Has the agent been run? -/
  claimed : Bool
  /-- Have the tunnel server and the parts been launched? -/
  launched : Bool
  /-- The parts that have ended. -/
  left : List Part
  /-- The ending of the tunnel server. -/
  served : Option Tunnel.Ending

/-- The marks of a state. -/
def State.marks (s : State σ) : Marks := ⟨s.claimed, s.launched, s.left, s.served⟩

/-- The marks after a request. -/
def Request.mark : Request → Marks → Marks
  | .claim, m => { m with claimed := true }
  | .launch, m => { m with launched := true }
  | .leave p, m => { m with left := p :: m.left }
  | .served e, m => { m with served := some e }
  | _, m => m

/-- What requests that no tunnel makes change: the marks, and of the server at most its
    surroundings. -/
structure Effect (r : Request) (s s' : State σ) : Prop where
  server : s'.server = { s.server with outside := s'.server.outside }
  marks : s'.marks = r.mark s.marks

theorem effect_of_answer {r : Request} {x : r.Answer} (hr : ∀ q, r ≠ .tunnel q)
    (h : s.answer around id r = some (x, s')) : Effect r s s' := by
  cases r with
  | tunnel q => exact absurd rfl (hr q)
  | stopping p =>
      simp only [State.answer, State.whenLaunched] at h
      split at h
      · cases h
        exact ⟨rfl, rfl⟩
      · exact nomatch h
  | isOpen =>
      simp only [State.answer, State.whenLaunched] at h
      split at h
      · cases h
        exact ⟨rfl, rfl⟩
      · exact nomatch h
  | pause p d =>
      simp only [State.answer] at h
      exact of_lookOr h (fun _ => ⟨rfl, rfl⟩) fun ho => of_map ho fun _ => ⟨rfl, rfl⟩
  | connect url =>
      exact of_lookOr h (fun _ => ⟨rfl, rfl⟩) fun ho => of_map ho fun _ => ⟨rfl, rfl⟩
  | arrival =>
      refine of_lookOr h (fun _ => ⟨rfl, rfl⟩) fun ho => of_map ho fun (e, w) => ?_
      cases e <;> exact ⟨rfl, rfl⟩
  | sighting =>
      simp only [State.answer, State.whenLaunched] at h
      split at h
      · refine of_lookOr h (fun _ => ⟨rfl, rfl⟩) fun ho => ?_
        unfold State.nextSighting at ho
        split at ho
        · cases ho
          exact ⟨rfl, rfl⟩
        · cases ho
          exact ⟨rfl, rfl⟩
        · exact of_map ho fun _ => ⟨rfl, rfl⟩
      · exact nomatch h
  | change =>
      refine of_lookOr h (fun _ => ⟨rfl, rfl⟩) fun ho => ?_
      unfold State.nextChange at ho
      split at ho
      · cases ho
        exact ⟨rfl, rfl⟩
      · cases ho
        exact ⟨rfl, rfl⟩
      · exact nomatch ho
  | leave p =>
      cases h
      cases p <;> exact ⟨rfl, rfl⟩
  | awaitEnd =>
      simp only [State.answer] at h
      split at h
      · cases h
        exact ⟨rfl, rfl⟩
      · exact of_map h fun _ => ⟨rfl, rfl⟩
  | join p =>
      simp only [State.answer] at h
      split at h
      · cases h
        exact ⟨rfl, rfl⟩
      · exact nomatch h
  | report | publish | register | joinServer | unregister =>
      exact of_map h fun _ => ⟨rfl, rfl⟩
  | draw | due | forget | prune | nextDelay | resetDelay | claim | bind | launch | signal
  | served =>
      cases h
      exact ⟨rfl, rfl⟩

theorem marks_of_answer {r : Request} {x : r.Answer} (h : s.answer around id r = some (x, s')) :
    s'.marks = r.mark s.marks := by
  cases r with
  | tunnel q =>
      rw [(answer_tunnel h).2]
      rfl
  | _ => exact (effect_of_answer (fun q hq => by cases hq) h).marks

/-- What an answer tells of the marks and of the loops that have ended. -/
def Tells (m : Marks) (ended : List (Tunnel.Direction × Tunnel.Ending)) :
    (r : Request) → r.Answer → Prop
  | .tunnel (.arrival _), _ => m.launched = true
  | .tunnel .firstEnded, x => x ∈ ended
  | .tunnel (.join d), x => (d, x) ∈ ended
  | .stopping _, _ => m.launched = true
  | .sighting, _ => m.launched = true
  | .isOpen, _ => m.launched = true
  | .claim, x => x = !m.claimed
  | .awaitEnd, x => ∀ e ∈ x, m.served = some e
  | .joinServer, e => m.served = some e
  | .join p, _ => p ∈ m.left
  | _, _ => True

theorem launched_of_whenLaunched {α : Type} {o : Option α} {x : α}
    (h : s.whenLaunched o = some x) : s.launched = true := by
  unfold State.whenLaunched at h
  split at h
  · assumption
  · exact nomatch h

theorem tells_of_answer {r : Request} {x : r.Answer} (h : s.answer around id r = some (x, s')) :
    Tells s.marks s.server.ended r x := by
  cases r with
  | tunnel q =>
      simp only [State.answer] at h
      split at h
      · rename_i hserves
        obtain ⟨⟨y, server⟩, hserver, heq⟩ := Option.map_eq_some_iff.mp h
        cases heq
        cases q with
        | arrival d => exact hserves
        | firstEnded =>
            obtain ⟨e, he, heq⟩ := Option.map_eq_some_iff.mp hserver
            cases heq
            exact List.mem_of_getLast? he
        | join d =>
            obtain ⟨e, he, heq⟩ := Option.map_eq_some_iff.mp hserver
            cases heq
            obtain ⟨⟨d', e'⟩, hfound, rfl⟩ := Option.map_eq_some_iff.mp he
            have hd := List.find?_some hfound
            exact of_decide_eq_true hd ▸ List.mem_of_find?_eq_some hfound
        | _ => trivial
      · exact nomatch h
  | stopping p => exact launched_of_whenLaunched h
  | sighting => exact launched_of_whenLaunched h
  | isOpen => exact launched_of_whenLaunched h
  | claim =>
      cases h
      rfl
  | awaitEnd =>
      simp only [State.answer] at h
      split at h
      · cases h
        exact fun e he => nomatch he
      · obtain ⟨e, he, heq⟩ := Option.map_eq_some_iff.mp h
        cases heq
        rintro _ ⟨⟩
        exact he
  | joinServer =>
      obtain ⟨e, he, heq⟩ := Option.map_eq_some_iff.mp h
      cases heq
      exact he
  | join p =>
      simp only [State.answer] at h
      split at h
      · rename_i hleft
        exact List.contains_iff_mem.mp hleft
      · exact nomatch h
  | _ => trivial

/-- The table after a request. -/
def Request.tableAfter : Request → RouteTable → RouteTable
  | .tunnel r, t => r.tableAfter t
  | _, t => t

theorem table_of_answer {r : Request} {x : r.Answer} (h : s.answer around id r = some (x, s')) :
    s'.server.table = r.tableAfter s.server.table := by
  cases r with
  | tunnel q => exact (answer_tunnel h).1.table
  | _ =>
      rw [(effect_of_answer (fun q hq => by cases hq) h).server]
      rfl

/-- The line after a request of the task. -/
def Request.lineAfter (id : TaskId) : Request → List TaskId → List TaskId
  | .tunnel r, line => r.lineAfter id line
  | _, line => line

theorem line_of_answer {r : Request} {x : r.Answer} (h : s.answer around id r = some (x, s')) :
    s'.server.line = r.lineAfter id s.server.line := by
  cases r with
  | tunnel q => exact (answer_tunnel h).1.line
  | _ =>
      rw [(effect_of_answer (fun q hq => by cases hq) h).server]
      rfl

/-- The loops that have ended, after a request. -/
def Request.endedAfter : Request → List (Tunnel.Direction × Tunnel.Ending) →
    List (Tunnel.Direction × Tunnel.Ending)
  | .tunnel r, past => r.endedAfter past
  | _, past => past

theorem ended_of_answer {r : Request} {x : r.Answer} (h : s.answer around id r = some (x, s')) :
    s'.server.ended = r.endedAfter s.server.ended := by
  cases r with
  | tunnel q => exact (answer_tunnel h).1.ended
  | _ =>
      rw [(effect_of_answer (fun q hq => by cases hq) h).server]
      rfl

/-- What an answer says about the line and the table. -/
def Shows (id : TaskId) (line : List TaskId) (t : RouteTable) : (r : Request) → r.Answer → Prop
  | .tunnel r, x => Tunnel.Shows id line t r x
  | _, _ => True

theorem shows_of_answer {r : Request} {x : r.Answer} (h : s.answer around id r = some (x, s')) :
    Shows id s.server.line s.server.table r x := by
  cases r with
  | tunnel q => exact (answer_tunnel h).1.shows
  | _ => trivial

/-- One program of the tunnel after the other. -/
theorem keeps_tunnel_bind {α β : Type} {P : Protocol interface} {Ends : P.Phase → β → Prop}
    {p : Tunnel.Work α} {f : α → Tunnel.Work β} {ph : P.Phase}
    (h : (tunnel p).Keeps P (fun ph a => (tunnel (f a)).Keeps P Ends ph) ph) :
    (tunnel (p >>= f)).Keeps P Ends ph := by
  unfold tunnel
  rw [Program.lift_bind]
  exact Program.Keeps.bind h

end Overlay.Agent
