import Overlay.Proofs.Agent.Feed
import Overlay.Proofs.Agent.Retrying

/-!
# Connections with a delay after each

A round is a connection and the delay after it.  How long this is depends on the connections made so
far and on nothing else: it doubles with each of them since the last one that opened a stream
(`lapse`), up to the longest delay, and has a random part on top (`reconnect_delay`).

`course` is what rounds leave in a trace, one after the other, and `Timely` says that their delays
are as they should be.
-/

namespace Overlay.Agent.Pacing

/-! ## How many delays count -/

/-- The connection opens a stream. -/
def opens (c : Connection) : Bool := c.body?.isSome

/-- The number of connections after the last one that opened a stream, or after the first one when
    none did. -/
def lapse (made : List Connection) : Nat :=
  if made.any opens then (made.reverse.takeWhile fun c => !opens c).length else made.length - 1

/-- How many delays count before the next connection. -/
def since (made : List Connection) : Nat := if made = [] then 0 else lapse made + 1

section Counting

variable {made : List Connection} {c : Connection}

/-- After a stream there is nothing to count. -/
theorem lapse_concat_of_opens (h : opens c = true) : lapse (made ++ [c]) = 0 := by
  have hany : (made ++ [c]).any opens = true :=
    List.any_eq_true.mpr ⟨c, List.mem_append_right made List.mem_cons_self, h⟩
  rw [lapse, if_pos hany, List.reverse_concat, List.takeWhile_cons, h]
  rfl

/-- Another connection that opens no stream counts once more, unless it is the first one. -/
theorem lapse_concat_of_not_opens (h : opens c = false) : lapse (made ++ [c]) = since made := by
  have hany : (made ++ [c]).any opens = made.any opens := by
    rw [List.any_append, List.any_cons, h]
    exact Bool.or_false _
  unfold since lapse
  rw [hany]
  cases hmade : made.any opens with
  | true =>
      have hne : made ≠ [] := by
        rintro rfl
        exact nomatch hmade
      rw [if_pos rfl, if_pos rfl, if_neg hne, List.reverse_concat, List.takeWhile_cons, h]
      rfl
  | false =>
      rw [if_neg Bool.false_ne_true, if_neg Bool.false_ne_true, List.length_append,
        List.length_singleton, Nat.add_sub_cancel]
      by_cases hne : made = []
      · rw [if_pos hne, hne]
        rfl
      · have hpos := List.length_pos_of_ne_nil hne
        rw [if_neg hne]
        omega

theorem since_concat : since (made ++ [c]) = lapse (made ++ [c]) + 1 :=
  if_neg (List.append_ne_nil_of_right_ne_nil _ (List.cons_ne_nil _ _))

end Counting

/-! ## Rounds -/

/-- A connection and the delay after it. -/
structure Round where
  /-- The connection. -/
  connection : Connection
  /-- The delay. -/
  delay : Duration

/-- What a trace tells of connections and delays. -/
inductive Mark where
  /-- A connection was made: has it opened a stream? -/
  | attempt (opened : Bool)
  /-- A delay was taken. -/
  | taken (d : Duration)
  /-- A delay has passed. -/
  | waited (d : Duration)
deriving DecidableEq

/-- What an exchange tells. -/
def mark? : Exchange interface → Option Mark
  | ⟨_, .connect _, .opened⟩ => some (.attempt true)
  | ⟨_, .connect _, .failed⟩ => some (.attempt false)
  | ⟨_, .nextDelay, d⟩ => some (.taken d)
  | ⟨_, .pause _ d, false⟩ => some (.waited d)
  | _ => none

/-- What a trace tells. -/
def marks (tr : List (Exchange interface)) : List Mark := tr.filterMap mark?

theorem marks_append (tr more : List (Exchange interface)) :
    marks (tr ++ more) = marks tr ++ marks more := List.filterMap_append

/-- What a round leaves in a trace: the connection is made, one delay is taken, and it has
    passed. -/
def Round.marks (r : Round) : List Mark :=
  [.attempt (opens r.connection), .taken r.delay, .waited r.delay]

/-- What rounds leave in a trace. -/
def course (rounds : List Round) : List Mark := rounds.flatMap Round.marks

theorem course_append (rounds more : List Round) :
    course (rounds ++ more) = course rounds ++ course more := List.flatMap_append

theorem length_course (rounds : List Round) : (course rounds).length = 3 * rounds.length := by
  induction rounds with
  | nil => rfl
  | cons r rounds ih =>
      rw [course, List.flatMap_cons, List.length_append, List.length_cons, Nat.mul_succ, ← ih]
      exact Nat.add_comm _ _

/-- The connections of rounds. -/
def made (rounds : List Round) : List Connection := rounds.map Round.connection

theorem made_append (rounds more : List Round) :
    made (rounds ++ more) = made rounds ++ made more := List.map_append

/-- Every delay is one that may be taken after as many others as the connections say. -/
def Timely (rounds : List Round) : Prop :=
  ∀ before r after, rounds = before ++ r :: after →
    reconnectDelays.MayTake (lapse (made before ++ [r.connection])) r.delay

namespace Timely

variable {rounds : List Round} {c : Connection} {d : Duration}

theorem nil : Timely [] := fun _ _ _ h => nomatch (List.append_eq_nil_iff.mp h.symm).2

theorem concat (h : Timely rounds) (hd : reconnectDelays.MayTake (lapse (made rounds ++ [c])) d) :
    Timely (rounds ++ [⟨c, d⟩]) := by
  intro before r after heq
  rcases System.append_singleton_eq_cut heq with ⟨rfl, rfl, -⟩ | ⟨init, -, hinit⟩
  · exact hd
  · exact h before r init hinit

/-- Connections that are to come can have their delays. -/
theorem extend (h : Timely rounds) (coming : List Connection) :
    ∃ more, made more = coming ∧ Timely (rounds ++ more) := by
  induction coming generalizing rounds with
  | nil =>
      refine ⟨[], rfl, ?_⟩
      rw [List.append_nil]
      exact h
  | cons c coming ih =>
      -- any delay that may be taken will do
      obtain ⟨more, rfl, hmore⟩ := ih (h.concat (c := c) ⟨0, rfl⟩)
      rw [List.append_assoc] at hmore
      exact ⟨_, rfl, hmore⟩

end Timely

/-! ## How long a delay is -/

/-- The delay that is due after `n` others, and what it may be with its random part. -/
theorem reconnect_delay {n : Nat} {d : Duration} (h : reconnectDelays.MayTake n d) :
    (reconnectDelays.advanceBy n).delay.nanos =
        Nat.min (500 * 2 ^ n) 30000 * Duration.nanosPerMilli ∧
      500 * Duration.nanosPerMilli ≤ d.nanos ∧ d.nanos ≤ 37500 * Duration.nanosPerMilli := by
  have hbase : reconnectDelays.base.nanos = 500 * Duration.nanosPerMilli := by decide
  have hmax : reconnectDelays.max.nanos = 30000 * Duration.nanosPerMilli := by decide
  have hwhole : Duration.nanosPerMilli ∣ reconnectDelays.base.nanos := ⟨500, by decide⟩
  have hfits : reconnectDelays.max.nanos ≤ Backoff.greatestMax := by decide
  have hdue : min (reconnectDelays.base.nanos * 2 ^ n) reconnectDelays.max.nanos =
      Nat.min (500 * 2 ^ n) 30000 * Duration.nanosPerMilli := by
    rw [hbase, hmax, Nat.mul_right_comm]
    exact Nat.mul_min_mul_right _ _ _
  obtain ⟨drawn, rfl⟩ := h
  have hwithin := Backoff.nanos_take_advanceBy_within rfl hwhole hfits n drawn
  rw [hdue] at hwithin
  have hleast : 500 ≤ Nat.min (500 * 2 ^ n) 30000 :=
    Nat.le_min.mpr ⟨Nat.le_mul_of_pos_right 500 (Nat.two_pow_pos n), by decide⟩
  have hmost : Nat.min (500 * 2 ^ n) 30000 ≤ 30000 := Nat.min_le_right _ _
  unfold Duration.nanosPerMilli at *
  refine ⟨(Backoff.nanos_delay_advanceBy rfl hwhole hfits n).trans hdue, ?_, ?_⟩ <;> omega

end Overlay.Agent.Pacing
