import Mathlib.Algebra.Group.Nat.Defs
import Overlay.Backoff

/-!
# Delays that double

The factor of a delay is counted in thirty-two bits and stops there, and so does the product
with the first delay when it is no duration.  Neither is to be seen when the first delay is a
number of whole milliseconds and the longest one is not too long: the delay after `n` others is
the first one doubled `n` times, or the longest one (`nanos_delay_advanceBy`).  The random part
is at most a quarter of it (`nanos_take_within`).

Of a history of calls only the delays since the last new start count (`after_eq`).
`doubles_up_to_max` is all of this for every history.
-/

namespace Overlay.Backoff

variable {b : Backoff} {n : Nat}

/-! ## The number of attempts -/

theorem toNat_bump (a : UInt32) : (bump a).toNat = min (a.toNat + 1) 0xFFFFFFFF := by
  have hlt := a.toNat_lt
  unfold bump
  split
  · have hsum : (a + 1).toNat = a.toNat + 1 := by
      rw [UInt32.toNat_add]
      exact Nat.mod_eq_of_lt (by simp; omega)
    omega
  · omega

theorem toNat_attempt_advanceBy (b : Backoff) (n : Nat) :
    (b.advanceBy n).attempt.toNat = min (b.attempt.toNat + n) 0xFFFFFFFF :=
  Nat.mod_eq_of_lt (Nat.lt_of_le_of_lt (Nat.min_le_right _ _) (by decide))

/-- No delay taken. -/
theorem advanceBy_zero (b : Backoff) : b.advanceBy 0 = b := by
  have hlt := b.attempt.toNat_lt
  have hattempt : (b.advanceBy 0).attempt = b.attempt := by
    rw [← UInt32.toNat_inj, toNat_attempt_advanceBy]
    omega
  exact congrArg (Backoff.mk b.base b.max) hattempt

/-- Starting again undoes it. -/
theorem reset_advanceBy (b : Backoff) (n : Nat) : (b.advanceBy n).reset = b.reset := rfl

/-- One delay taken after `n` others. -/
theorem advance_advanceBy (b : Backoff) (n : Nat) :
    (b.advanceBy n).advance = b.advanceBy (n + 1) := by
  have hattempt : (b.advanceBy n).advance.attempt = (b.advanceBy (n + 1)).attempt := by
    have hbump : (b.advanceBy n).advance.attempt.toNat =
        min ((b.advanceBy n).attempt.toNat + 1) 0xFFFFFFFF := toNat_bump _
    rw [← UInt32.toNat_inj, hbump, toNat_attempt_advanceBy, toNat_attempt_advanceBy]
    omega
  exact congrArg (Backoff.mk b.base b.max) hattempt

/-- One delay taken, and then `n` others. -/
theorem advanceBy_advance (b : Backoff) (n : Nat) :
    b.advance.advanceBy n = b.advanceBy (n + 1) := by
  have hattempt : (b.advance.advanceBy n).attempt = (b.advanceBy (n + 1)).attempt := by
    have hbump : b.advance.attempt.toNat = min (b.attempt.toNat + 1) 0xFFFFFFFF :=
      toNat_bump b.attempt
    rw [← UInt32.toNat_inj, toNat_attempt_advanceBy, toNat_attempt_advanceBy]
    omega
  exact congrArg (Backoff.mk b.base b.max) hattempt

/-! ## The delay that is due -/

/-- A product stops at the greatest duration. -/
theorem nanos_scale (a : Duration) (k : Nat) :
    (a.scale k).nanos = min (a.nanos * k) (Duration.limit - 1) := by
  unfold Duration.scale Duration.ofNanosSat Duration.ofNanos?
  split
  · rename_i hlt
    exact (Nat.min_eq_left (Nat.le_pred_of_lt hlt)).symm
  · rename_i hge
    exact (Nat.min_eq_right (Nat.le_trans (Nat.pred_le _) (Nat.le_of_not_lt hge))).symm

theorem nanos_min (a b : Duration) : (a.min b).nanos = min a.nanos b.nanos := by
  unfold Duration.min
  split
  · rename_i hle
    exact (Nat.min_eq_left hle).symm
  · rename_i hle
    exact (Nat.min_eq_right (Nat.le_of_not_le hle)).symm

theorem nanos_delay (b : Backoff) :
    b.delay.nanos =
      min (min (b.base.nanos * factor b.attempt) (Duration.limit - 1)) b.max.nanos := by
  rw [delay, nanos_min, nanos_scale]

theorem delay_le_max (b : Backoff) : b.delay.nanos ≤ b.max.nanos := by
  rw [nanos_delay]
  exact Nat.min_le_right _ _

/-- More attempts do not make the factor smaller, not even where it stops to double. -/
theorem factor_le {a c : UInt32} (h : a.toNat ≤ c.toNat) : factor a ≤ factor c := by
  unfold factor
  by_cases hc : c.toNat < 32
  · rw [if_pos hc, if_pos (Nat.lt_of_le_of_lt h hc)]
    exact Nat.pow_le_pow_right (by decide) h
  · rw [if_neg hc]
    by_cases ha : a.toNat < 32
    · rw [if_pos ha]
      have hpow : 2 ^ a.toNat ≤ 2 ^ 31 := Nat.pow_le_pow_right (by decide) (by omega)
      exact Nat.le_trans hpow (by decide)
    · exact Nat.le_of_eq (if_neg ha)

/-- A later delay is not shorter. -/
theorem delay_advanceBy_le (b : Backoff) {n m : Nat} (h : n ≤ m) :
    (b.advanceBy n).delay.nanos ≤ (b.advanceBy m).delay.nanos := by
  have hattempt : (b.advanceBy n).attempt.toNat ≤ (b.advanceBy m).attempt.toNat := by
    rw [toNat_attempt_advanceBy, toNat_attempt_advanceBy]
    omega
  have hproduct : b.base.nanos * factor (b.advanceBy n).attempt ≤
      b.base.nanos * factor (b.advanceBy m).attempt :=
    Nat.mul_le_mul_left _ (factor_le hattempt)
  rw [nanos_delay, nanos_delay]
  show min (min (b.base.nanos * _) _) b.max.nanos ≤ min (min (b.base.nanos * _) _) b.max.nanos
  omega

/-- The greatest longest delay with which the bounds of the factor do not show. -/
def greatestMax : Nat := 0xFFFFFFFF * Duration.nanosPerMilli

/-- Past thirty-two attempts the longest delay is due, unless there is none at all. -/
theorem greatestMax_le_mul {base k : Nat} (hbase : Duration.nanosPerMilli ∣ base)
    (hpos : base ≠ 0) (hk : 0xFFFFFFFF ≤ k) : greatestMax ≤ base * k := by
  have hmilli : Duration.nanosPerMilli ≤ base :=
    Nat.le_of_dvd (Nat.pos_of_ne_zero hpos) hbase
  calc greatestMax = Duration.nanosPerMilli * 0xFFFFFFFF := Nat.mul_comm _ _
    _ ≤ base * k := Nat.mul_le_mul hmilli hk

/-- **The delay after `n` others is the first one doubled `n` times, or the longest one.** -/
theorem nanos_delay_advanceBy (hstart : b.attempt = 0)
    (hbase : Duration.nanosPerMilli ∣ b.base.nanos) (hmax : b.max.nanos ≤ greatestMax) (n : Nat) :
    (b.advanceBy n).delay.nanos = min (b.base.nanos * 2 ^ n) b.max.nanos := by
  have hattempt : (b.advanceBy n).attempt.toNat = min n 0xFFFFFFFF := by
    rw [toNat_attempt_advanceBy, hstart, UInt32.toNat_zero, Nat.zero_add]
  have hdelay : (b.advanceBy n).delay.nanos =
      min (b.base.nanos * factor (b.advanceBy n).attempt) b.max.nanos := by
    have hlimit : greatestMax ≤ Duration.limit - 1 := by decide
    rw [nanos_delay, Nat.min_assoc]
    exact congrArg (min _) (Nat.min_eq_right (Nat.le_trans hmax hlimit))
  rw [hdelay]
  by_cases hzero : b.base.nanos = 0
  · rw [hzero, Nat.zero_mul, Nat.zero_mul]
  by_cases hn : n < 32
  · have hfactor : factor (b.advanceBy n).attempt = 2 ^ n := by
      rw [factor, hattempt, Nat.min_eq_left (by omega), if_pos hn]
      rfl
    rw [hfactor]
  · have hfactor : factor (b.advanceBy n).attempt = 0xFFFFFFFF := by
      rw [factor, hattempt, if_neg (by omega)]
    have hpow : 0xFFFFFFFF ≤ 2 ^ n := by
      have h32 : 2 ^ 32 ≤ 2 ^ n := Nat.pow_le_pow_right (by decide) (by omega)
      omega
    rw [hfactor,
      Nat.min_eq_right (Nat.le_trans hmax (greatestMax_le_mul hbase hzero (Nat.le_refl _))),
      Nat.min_eq_right (Nat.le_trans hmax (greatestMax_le_mul hbase hzero hpow))]

/-! ## The random part -/

/-- The random part is at most a quarter of the delay. -/
theorem spread_le (d : Duration) : spread d * Duration.nanosPerMilli ≤ d.nanos / 4 := by
  have hmod : d.millis % 0x10000000000000000 ≤ d.millis := Nat.mod_le _ _
  unfold spread Duration.millis Duration.nanosPerMilli at *
  omega

/-- What is drawn is at most the spread. -/
theorem drawn_le (b : Backoff) (drawn : Nat) : drawn % (spread b.delay + 1) ≤ spread b.delay :=
  Nat.le_of_lt_succ (Nat.mod_lt _ (Nat.succ_pos _))

/-- The random part does not lead out of the durations. -/
theorem drawn_fits (b : Backoff) (drawn : Nat)
    (hfits : b.delay.nanos + b.delay.nanos / 4 < Duration.limit) :
    b.delay.nanos + drawn % (spread b.delay + 1) * Duration.nanosPerMilli < Duration.limit := by
  have hquarter := Nat.le_trans
    (Nat.mul_le_mul_right Duration.nanosPerMilli (drawn_le b drawn)) (spread_le b.delay)
  omega

/-- There is a delay to be taken. -/
theorem next_eq_some (b : Backoff) (drawn : Nat)
    (hfits : b.delay.nanos + b.delay.nanos / 4 < Duration.limit) :
    (b.next drawn).1 = some (b.take drawn) := by
  rw [take, next, jittered?, Duration.ofNanos?, dif_pos (drawn_fits b drawn hfits)]
  rfl

/-- The delay with its random part, when that is a duration. -/
theorem nanos_take (b : Backoff) (drawn : Nat)
    (hfits : b.delay.nanos + b.delay.nanos / 4 < Duration.limit) :
    (b.take drawn).nanos =
      b.delay.nanos + drawn % (spread b.delay + 1) * Duration.nanosPerMilli := by
  rw [take, next, jittered?, Duration.ofNanos?, dif_pos (drawn_fits b drawn hfits)]
  rfl

/-- **A delay lies between the one that is due and that with a quarter of it on top.** -/
theorem nanos_take_within (b : Backoff) (drawn : Nat)
    (hfits : b.delay.nanos + b.delay.nanos / 4 < Duration.limit) :
    b.delay.nanos ≤ (b.take drawn).nanos ∧
      (b.take drawn).nanos ≤ b.delay.nanos + b.delay.nanos / 4 := by
  rw [nanos_take b drawn hfits]
  refine ⟨Nat.le_add_right _ _, Nat.add_le_add_left ?_ _⟩
  exact Nat.le_trans (Nat.mul_le_mul_right _ (drawn_le b drawn)) (spread_le b.delay)

/-- **A delay after `n` others lies between the one that is due then and that with a quarter of it
    on top.** -/
theorem nanos_take_advanceBy_within (hstart : b.attempt = 0)
    (hbase : Duration.nanosPerMilli ∣ b.base.nanos) (hmax : b.max.nanos ≤ greatestMax)
    (n drawn : Nat) :
    min (b.base.nanos * 2 ^ n) b.max.nanos ≤ ((b.advanceBy n).take drawn).nanos ∧
      ((b.advanceBy n).take drawn).nanos ≤
        min (b.base.nanos * 2 ^ n) b.max.nanos + min (b.base.nanos * 2 ^ n) b.max.nanos / 4 := by
  have hwithin := nanos_take_within (b.advanceBy n) drawn
  rw [nanos_delay_advanceBy hstart hbase hmax n] at hwithin
  refine hwithin ?_
  have hcapped := Nat.min_le_right (b.base.nanos * 2 ^ n) b.max.nanos
  unfold greatestMax Duration.nanosPerMilli at hmax
  unfold Duration.limit Duration.nanosPerSecond
  omega

/-- Whatever is drawn there is a delay; it is at least the one that is due, at most that with a
    quarter of it on top, and at most the given longest one with a quarter of that on top. -/
def Gives (b : Backoff) (longest : Duration) : Prop :=
  ∀ drawn, ∃ d, (b.next drawn).1 = some d ∧ b.delay.nanos ≤ d.nanos ∧
    d.nanos ≤ b.delay.nanos + b.delay.nanos / 4 ∧ d.nanos ≤ longest.nanos + longest.nanos / 4

/-- A delay is given when the longest one with a quarter on top is a duration. -/
theorem gives_of_fits (hfits : b.max.nanos + b.max.nanos / 4 < Duration.limit) :
    b.Gives b.max := by
  intro drawn
  have hmax := delay_le_max b
  have hdelay : b.delay.nanos + b.delay.nanos / 4 < Duration.limit := by omega
  obtain ⟨hleast, hmost⟩ := nanos_take_within b drawn hdelay
  exact ⟨b.take drawn, next_eq_some b drawn hdelay, hleast, hmost, by omega⟩

/-! ## A history of calls -/

/-- A call. -/
inductive Call where
  /-- A delay is taken, with so much drawn for its random part. -/
  | next (drawn : Nat)
  /-- It starts again. -/
  | reset

/-- The state after a call. -/
def Call.apply : Call → Backoff → Backoff
  | next drawn, b => (b.next drawn).2
  | reset, b => b.reset

/-- The state after calls, the latest first. -/
def after (base max : Duration) : List Call → Backoff
  | [] => { base, max }
  | c :: earlier => c.apply (after base max earlier)

/-- How many delays were taken since the beginning or the last new start. -/
def taken : List Call → Nat
  | [] => 0
  | .next _ :: earlier => taken earlier + 1
  | .reset :: _ => 0

/-- **Only the delays since the last new start count.** -/
theorem after_eq (base max : Duration) (calls : List Call) :
    after base max calls = ({ base, max } : Backoff).advanceBy (taken calls) := by
  induction calls with
  | nil => exact (advanceBy_zero _).symm
  | cons c earlier ih =>
      cases c with
      | next drawn =>
          show (after base max earlier).advance = _
          rw [ih]
          exact advance_advanceBy _ _
      | reset =>
          show (after base max earlier).reset = _
          rw [ih, reset_advanceBy]
          exact (advanceBy_zero _).symm

/-- **Delays double until they reach the longest one.**  After any history of calls in which `n`
    delays were taken since the beginning or the last new start:

    * the count of attempts is `n`, or the greatest number of thirty-two bits;
    * the delay that is due is not shorter than after a history with fewer of them;
    * it is the first one doubled `n` times, or the longest one, when the first one is a number of
      whole milliseconds and the longest one has at most `2³² - 1` of them;
    * a call gives a delay, with at most a quarter on top, when the longest one with a quarter on
      top is a duration at all, which it is in the case before. -/
theorem doubles_up_to_max (base max : Duration) :
    (∀ calls, (after base max calls).attempt.toNat = Nat.min (taken calls) 0xFFFFFFFF) ∧
    (∀ calls calls', taken calls ≤ taken calls' →
      (after base max calls).delay.nanos ≤ (after base max calls').delay.nanos) ∧
    (Duration.nanosPerMilli ∣ base.nanos → max.nanos ≤ 0xFFFFFFFF * Duration.nanosPerMilli →
      ∀ calls, (after base max calls).delay.nanos =
          Nat.min (base.nanos * 2 ^ taken calls) max.nanos ∧
        (after base max calls).Gives max) ∧
    (max.nanos + max.nanos / 4 < Duration.limit → ∀ calls, (after base max calls).Gives max) := by
  have hgives : max.nanos + max.nanos / 4 < Duration.limit →
      ∀ calls, (after base max calls).Gives max := by
    intro hfits calls
    rw [after_eq]
    exact gives_of_fits hfits
  refine ⟨fun calls => ?_, fun calls calls' hle => ?_, fun hbase hmax calls => ⟨?_, ?_⟩, hgives⟩
  · rw [after_eq, toNat_attempt_advanceBy]
    exact congrArg (Nat.min · _) (Nat.zero_add _)
  · rw [after_eq, after_eq]
    exact delay_advanceBy_le _ hle
  · rw [after_eq]
    exact nanos_delay_advanceBy rfl hbase hmax (taken calls)
  · refine hgives ?_ calls
    unfold Duration.nanosPerMilli at hmax
    unfold Duration.limit Duration.nanosPerSecond
    omega

/-- One millisecond, and the greatest number of them that counts: after thirty-one delays half of
    the longest one is due, after thirty-two the longest one, and it is given. -/
theorem doubles_up_to_max_at_the_end :
    ∃ (base max : Duration) (before late : List Call),
      base.nanos = Duration.nanosPerMilli ∧ max.nanos = 0xFFFFFFFF * Duration.nanosPerMilli ∧
      max.nanos + max.nanos / 4 < Duration.limit ∧ taken before = 31 ∧ taken late = 32 ∧
      (after base max before).delay.nanos = 2 ^ 31 * Duration.nanosPerMilli ∧
      (after base max late).delay.nanos = max.nanos ∧
      (after base max before).delay.nanos ≤ (after base max late).delay.nanos ∧
      (after base max late).attempt.toNat = 32 ∧ (after base max late).Gives max := by
  let base : Duration := .ofMillis 1
  let max : Duration := .ofMillis 0xFFFFFFFF
  let before : List Call := List.replicate 31 (.next 7) ++ [.reset, .next 1]
  let late : List Call := .next 0 :: before
  obtain ⟨hcount, hgrows, hdoubles, hgives⟩ := doubles_up_to_max base max
  have hbase : Duration.nanosPerMilli ∣ base.nanos := ⟨1, rfl⟩
  have hfits : max.nanos + max.nanos / 4 < Duration.limit := by decide
  have hbefore : taken before = 31 := by decide
  have hlate : taken late = 32 := by decide
  refine ⟨base, max, before, late, rfl, rfl, hfits, hbefore, hlate, ?_, ?_,
    hgrows before late (by rw [hbefore, hlate]; decide), ?_, hgives hfits late⟩
  · rw [(hdoubles hbase (Nat.le_refl _) before).1, hbefore]
    decide
  · rw [(hdoubles hbase (Nat.le_refl _) late).1, hlate]
    decide
  · rw [hcount, hlate]
    decide

end Overlay.Backoff
