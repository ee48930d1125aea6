import Overlay.Proofs.Agent.Helpers

/-!
# What the parts of an agent are answered

The watcher and the bridge share the signal, the queue of changes and the stream of events.
`answer_cases` says all that an answer does to these: whoever listens to the signal hears of a
change before anything else, and then nothing else has happened; otherwise the signals are as
they were, and the queue and the stream are as the request says.

While all is quiet (`Quiet`) nobody hears that it is to stop, and there are fewer answers.
-/

namespace Overlay.Agent

/-! ## The signal -/

/-- Whoever has this signal has not missed that it is to stop. -/
def Alert (g : Signal) : Prop := g.value = true → g.unseen = true ∨ g.dropped = true

/-- A signal that says nothing to stop for has not been missed. -/
theorem Alert.of_value {g : Signal} (h : g.value = false) : Alert g :=
  fun htrue => nomatch h.symm.trans htrue

theorem Alert.look {g : Signal} (h : Alert g) (hvalue : g.value = true) :
    ∃ g', g.look = some (true, g') := by
  unfold Signal.look
  by_cases hunseen : g.unseen = true
  · rw [if_pos hunseen, hvalue]
    exact ⟨_, rfl⟩
  · rw [if_neg hunseen, if_pos ((h hvalue).resolve_left hunseen)]
    exact ⟨_, rfl⟩

/-- To look changes nothing but that the value was noticed. -/
theorem value_of_look {g g' : Signal} {stop : Bool} (h : g.look = some (stop, g')) :
    g'.value = g.value ∧ (stop = false → g'.value = false) := by
  unfold Signal.look at h
  split at h
  · cases h
    exact ⟨rfl, id⟩
  · split at h
    · cases h
      exact ⟨rfl, fun hstop => nomatch hstop⟩
    · exact nomatch h

/-- The part that listens to the signal while it asks for something. -/
def Request.listener? : Request → Option Part
  | pause p _ => some p
  | connect _ => some .watch
  | arrival => some .watch
  | change => some .bridge
  | sighting => some .report
  | _ => none

/-- The answer says that the signal has changed to the value. -/
def Heard (stop : Bool) : (r : Request) → r.Answer → Prop
  | .pause _ _, x => x = stop
  | .connect _, x => x = .signal stop
  | .arrival, x => x = .signal stop
  | .change, x => x = .signal stop
  | .sighting, x => x = .signal stop
  | _, _ => False

/-! ## The queue and the stream -/

/-- What an answer says of the queue of changes before and after it. -/
def Passes : (r : Request) → r.Answer → Queue EdgeEvent → Queue EdgeEvent → Prop
  | .publish e, there, q, q' => q.offer? e = some (there, q')
  | .change, .event e, q, q' => q.pop = (.item e, q')
  | .leave .watch, _, q, q' => q' = q.dropSender
  | .leave .bridge, _, q, q' => q' = q.dropReceiver
  | _, _, q, q' => q' = q

/-- The receiver of the queue does not come back. -/
theorem gone_of_passes {r : Request} {x : r.Answer} {q q' : Queue EdgeEvent} (h : Passes r x q q')
    (hgone : q.receiverGone = true) : q'.receiverGone = true := by
  cases r with
  | publish e =>
      have h : q.offer? e = some (x, q') := h
      rw [Queue.offer?, if_pos hgone] at h
      cases h
      exact hgone
  | change =>
      cases x with
      | event e =>
          have h : q.pop = (.item e, q') := h
          unfold Queue.pop at h
          split at h
          · cases h
            exact hgone
          · split at h <;> cases h
      | signal | closed =>
          cases h
          exact hgone
  | leave p =>
      cases p with
      | report | watch =>
          cases h
          exact hgone
      | bridge =>
          cases h
          rfl
  | _ =>
      cases h
      exact hgone

/-- Is a stream open after an answer? -/
def Request.opens : (r : Request) → r.Answer → Bool → Bool
  | .connect _, .opened, _ => true
  | .connect _, _, _ => false
  | .arrival, .ended, _ => false
  | .leave .watch, _, _ => false
  | _, _, before => before

variable {σ : Type} {around : Around σ} {id : TaskId} {s s' : State σ} {r : Request} {x : r.Answer}

/-- What an answer does that is not about the signal. -/
structure Unheard (r : Request) (x : r.Answer) (s s' : State σ) : Prop where
  signals : s'.signals = s.signals
  quiet : ∀ p, r.listener? = some p → (s.signals p).look = none
  changes : Passes r x s.changes s'.changes
  isOpen : s'.isOpen = r.opens x s.isOpen

/-- Whoever listens hears of the signal, or else finds what there is beside it. -/
theorem listen_cases {p : Part} {changed : Bool → r.Answer}
    {other : State σ → Option (r.Answer × State σ)} (hp : r.listener? = some p)
    (hchanged : ∀ stop, Heard stop r (changed stop))
    (hother : other s = some (x, s') → s'.signals = s.signals ∧
      Passes r x s.changes s'.changes ∧ s'.isOpen = r.opens x s.isOpen)
    (h : s.lookOr p changed other = some (x, s')) :
    (∃ p stop g, r.listener? = some p ∧ Heard stop r x ∧ (s.signals p).look = some (stop, g) ∧
        s' = s.setSignal p g) ∨ Unheard r x s s' := by
  rcases lookOr_eq_some h with ⟨stop, g, hlook, rfl, rfl⟩ | ⟨hlook, ho⟩
  · exact Or.inl ⟨p, stop, g, hp, hchanged stop, hlook, rfl⟩
  · obtain ⟨hsignals, hpasses, hopen⟩ := hother ho
    refine Or.inr ⟨hsignals, fun p' hp' => ?_, hpasses, hopen⟩
    rw [← Option.some.inj (hp.symm.trans hp')]
    exact hlook

/-- Whoever does not listen hears nothing. -/
theorem Unheard.deaf (hlistener : r.listener? = none) (hsignals : s'.signals = s.signals)
    (hchanges : Passes r x s.changes s'.changes) (hopen : s'.isOpen = r.opens x s.isOpen) :
    Unheard r x s s' :=
  ⟨hsignals, fun _ hp => (nomatch hlistener.symm.trans hp), hchanges, hopen⟩

/-- **Whoever listens hears of the signal first.**  An answer says that the signal has changed, or
    there is nothing to be heard and it does what was asked for. -/
theorem answer_cases (hr : r ≠ .signal) (h : s.answer around id r = some (x, s')) :
    (∃ p stop g, r.listener? = some p ∧ Heard stop r x ∧ (s.signals p).look = some (stop, g) ∧
        s' = s.setSignal p g) ∨ Unheard r x s s' := by
  cases r with
  | pause p d =>
      simp only [State.answer] at h
      refine listen_cases rfl (fun _ => rfl) (fun ho => ?_) h
      obtain ⟨w, -, heq⟩ := Option.map_eq_some_iff.mp ho
      cases heq
      exact ⟨rfl, rfl, rfl⟩
  | connect url =>
      refine listen_cases rfl (fun _ => rfl) (fun ho => ?_) h
      obtain ⟨⟨opened, w⟩, -, heq⟩ := Option.map_eq_some_iff.mp ho
      cases heq
      cases opened <;> exact ⟨rfl, rfl, rfl⟩
  | arrival =>
      refine listen_cases rfl (fun _ => rfl) (fun ho => ?_) h
      obtain ⟨⟨e, w⟩, -, heq⟩ := Option.map_eq_some_iff.mp ho
      cases e with
      | none | some =>
          cases heq
          exact ⟨rfl, rfl, rfl⟩
  | change =>
      refine listen_cases rfl (fun _ => rfl) (fun ho => ?_) h
      unfold State.nextChange at ho
      split at ho
      · rename_i e q hpop
        cases ho
        exact ⟨rfl, hpop, rfl⟩
      · rename_i q hpop
        cases ho
        exact ⟨rfl, rfl, rfl⟩
      · cases ho
  | sighting =>
      simp only [State.answer, State.whenLaunched] at h
      split at h
      · refine listen_cases rfl (fun _ => rfl) (fun ho => ?_) h
        unfold State.nextSighting at ho
        split at ho
        · cases ho
          exact ⟨rfl, rfl, rfl⟩
        · cases ho
          exact ⟨rfl, rfl, rfl⟩
        · obtain ⟨w, -, heq⟩ := Option.map_eq_some_iff.mp ho
          cases heq
          exact ⟨rfl, rfl, rfl⟩
      · cases h
  | tunnel q =>
      rw [(answer_tunnel h).2]
      exact Or.inr (.deaf rfl rfl rfl rfl)
  | publish e =>
      obtain ⟨⟨there, q⟩, hq, heq⟩ := Option.map_eq_some_iff.mp h
      cases heq
      exact Or.inr (.deaf rfl rfl hq rfl)
  | leave p =>
      cases h
      cases p <;> exact Or.inr (.deaf rfl rfl rfl rfl)
  | stopping | isOpen =>
      simp only [State.answer, State.whenLaunched] at h
      split at h
      · cases h
        exact Or.inr (.deaf rfl rfl rfl rfl)
      · cases h
  | awaitEnd =>
      simp only [State.answer] at h
      split at h
      · cases h
        exact Or.inr (.deaf rfl rfl rfl rfl)
      · obtain ⟨e, -, heq⟩ := Option.map_eq_some_iff.mp h
        cases heq
        exact Or.inr (.deaf rfl rfl rfl rfl)
  | join p =>
      simp only [State.answer] at h
      split at h
      · cases h
        exact Or.inr (.deaf rfl rfl rfl rfl)
      · cases h
  | report | register | joinServer | unregister =>
      obtain ⟨e, -, heq⟩ := Option.map_eq_some_iff.mp h
      cases heq
      exact Or.inr (.deaf rfl rfl rfl rfl)
  | signal => exact absurd rfl hr
  | draw | due | forget | prune | nextDelay | resetDelay | claim | bind | launch | served =>
      cases h
      exact Or.inr (.deaf rfl rfl rfl rfl)

theorem launched_of_answer (h : s.answer around id r = some (x, s')) (hs : s.launched = true) :
    s'.launched = true := by
  have hmarks : s'.launched = (r.mark s.marks).launched :=
    congrArg Marks.launched (marks_of_answer h)
  cases hs' : s'.launched with
  | true => rfl
  | false => exact nomatch hs.symm.trans (Lifecycle.mark_launched (hmarks.symm.trans hs'))

/-- Whoever listens is answered when there is an answer beside the signal. -/
theorem exists_lookOr {α : Type} {p : Part} {changed : Bool → α}
    {other : State σ → Option (α × State σ)} (h : ∃ y u, other s = some (y, u)) :
    ∃ y u, s.lookOr p changed other = some (y, u) := by
  unfold State.lookOr
  cases s.look p with
  | none => exact h
  | some found => exact ⟨_, _, rfl⟩

/-- To ask for the value of the signal is to read it. -/
theorem stopping_eq {p : Part} {b : Bool} (hx : s.answer around id (.stopping p) = some (b, s')) :
    b = (s.signals p).value ∧ s' = s := by
  simp only [State.answer, State.whenLaunched] at hx
  split at hx
  · obtain ⟨hb, hs⟩ := Prod.mk.inj (Option.some.inj hx)
    exact ⟨hb.symm, hs.symm⟩
  · cases hx

/-- To ask whether a stream is open changes nothing. -/
theorem isOpen_eq {b : Bool} (hx : s.answer around id .isOpen = some (b, s')) :
    b = s.isOpen ∧ s' = s := by
  simp only [State.answer, State.whenLaunched] at hx
  split at hx
  · obtain ⟨hb, hs⟩ := Prod.mk.inj (Option.some.inj hx)
    exact ⟨hb.symm, hs.symm⟩
  · cases hx

/-! ## While nobody is told to stop -/

/-- No part has been told to stop, although some may have been told to go on. -/
def Quiet {σ : Type} (s : State σ) : Prop :=
  ∀ p, (s.signals p).value = false ∧ (s.signals p).dropped = false

/-- While all is quiet nobody is told to stop. -/
theorem Quiet.lookOr {α : Type} {p : Part} {changed : Bool → α}
    {other : State σ → Option (α × State σ)} {y : α} (hquiet : Quiet s)
    (hy : s.lookOr p changed other = some (y, s')) :
    (y = changed false ∧ Quiet s' ∧ ∃ g, s' = s.setSignal p g) ∨ other s = some (y, s') := by
  rcases lookOr_eq_some hy with ⟨stop, g, hlook, rfl, rfl⟩ | ⟨-, hother⟩
  · unfold Signal.look at hlook
    rw [(hquiet p).1, (hquiet p).2] at hlook
    by_cases hunseen : (s.signals p).unseen = true
    · simp only [hunseen, if_true, Option.some.injEq, Prod.mk.injEq] at hlook
      obtain ⟨rfl, rfl⟩ := hlook
      refine Or.inl ⟨rfl, fun p' => ?_, _, rfl⟩
      show (if p' = p then _ else s.signals p').value = false ∧
        (if p' = p then _ else s.signals p').dropped = false
      by_cases hp : p' = p
      · rw [if_pos hp]
        exact ⟨rfl, rfl⟩
      · rw [if_neg hp]
        exact hquiet p'
    · simp [hunseen] at hlook
  · exact Or.inr hother

/-- What the bridge finds next is a signal to go on, the oldest change that waits, or nothing
    any more. -/
theorem Quiet.change {y : Change} (hquiet : Quiet s)
    (hy : s.answer around id .change = some (y, s')) :
    (y = .signal false ∧ Quiet s' ∧ ∃ g, s' = s.setSignal .bridge g) ∨
      (∃ e rest, s.changes.waiting = e :: rest ∧ y = .event e ∧
        s' = { s with changes := { s.changes with waiting := rest } }) ∨
      (s.changes.waiting = [] ∧ s.changes.senders = 0 ∧ y = .closed ∧ s' = s) := by
  rcases hquiet.lookOr hy with hsignal | hnext
  · exact Or.inl hsignal
  · refine Or.inr ?_
    unfold State.nextChange Queue.pop at hnext
    cases hw : s.changes.waiting with
    | cons e rest =>
        rw [hw] at hnext
        cases hnext
        exact Or.inl ⟨e, rest, rfl, rfl, rfl⟩
    | nil =>
        rw [hw] at hnext
        by_cases hs : s.changes.senders = 0
        · simp only [hs, if_true] at hnext
          cases hnext
          exact Or.inr ⟨rfl, hs, rfl, rfl⟩
        · simp only [hs, if_false] at hnext
          exact nomatch hnext

/-- To be told to go on is not to be told to stop. -/
theorem Quiet.goOn (hquiet : Quiet s) : Quiet (s.mapSignals (.send false)) := by
  intro p
  show (Signal.send false (s.signals p)).value = false ∧
    (Signal.send false (s.signals p)).dropped = false
  unfold Signal.send
  rw [(hquiet p).2]
  exact ⟨rfl, rfl⟩

end Overlay.Agent
