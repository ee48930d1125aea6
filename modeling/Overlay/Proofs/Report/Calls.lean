import Mathlib.Data.Set.Card
import Overlay.Proofs.Report.Filter

/-!
# What a filter answers after calls

A filter keeps one time for each address, and yet its answers are a matter of everything that
it was called for: an address is held back exactly when an earlier look let it through less
than the interval before, and it was not forgotten since (`Recent`, `isDue_after`).  This holds
as long as times do not go back (`Timely`).

The calls that tidy up do not occur in this.  They can be put in or left out anywhere
(`answers_unpruned`); what they do is to leave exactly those addresses in the filter that are
held back in that moment (`mem_sent_prune_iff`).
-/

namespace Overlay.ReportFilter

/-! ## Calls -/

/-- What a filter is called for. -/
inductive Call where
  /-- An address is seen: is it let through? -/
  | see (a : Ipv4) (t : Moment)
  /-- An address is forgotten. -/
  | forget (a : Ipv4)
  /-- The filter is tidied up. -/
  | prune (t : Moment)
deriving DecidableEq

namespace Call

/-- The time that the call is made with. -/
def time? : Call → Option Moment
  | see _ t => some t
  | forget _ => none
  | prune t => some t

/-- The filter after the call. -/
def apply : Call → ReportFilter → ReportFilter
  | see a t, f => (f.see a t).2
  | forget a, f => f.forget a
  | prune t, f => f.prune t

/-- What the call is answered. -/
def answer? : Call → ReportFilter → Option Bool
  | see a t, f => some (f.see a t).1
  | forget _, _ => none
  | prune _, _ => none

/-- Does the call tidy up? -/
def isPrune : Call → Bool
  | prune _ => true
  | _ => false

end Call

/-- A new filter after calls, the latest first. -/
def after (interval : Duration) : List Call → ReportFilter
  | [] => { interval }
  | c :: earlier => c.apply (after interval earlier)

/-- Is the address let through when it is seen after calls? -/
def passes (interval : Duration) (earlier : List Call) (a : Ipv4) (t : Moment) : Bool :=
  ((after interval earlier).see a t).1

/-- What the calls are answered, the latest first. -/
def answers (interval : Duration) : List Call → List Bool
  | [] => []
  | c :: earlier => (c.answer? (after interval earlier)).toList ++ answers interval earlier

/-- The calls that do something else than to tidy up. -/
def unpruned (calls : List Call) : List Call := calls.filter fun c => !c.isPrune

/-- Times do not go back. -/
def Timely (calls : List Call) : Prop := (calls.filterMap Call.time?).Pairwise (· ≥ ·)

instance (calls : List Call) : Decidable (Timely calls) :=
  inferInstanceAs (Decidable ((calls.filterMap Call.time?).Pairwise (· ≥ ·)))

/-- An earlier look has let the address through less than the interval before, and the address
    was not forgotten since. -/
def Recent (interval : Duration) (earlier : List Call) (a : Ipv4) (t : Moment) : Prop :=
  ∃ later s before, earlier = later ++ .see a s :: before ∧ passes interval before a s = true ∧
    t - s < interval.nanos ∧ Call.forget a ∉ later

variable {interval : Duration} {earlier calls calls' : List Call} {c : Call} {f : ReportFilter}
  {a b : Ipv4} {s t : Moment}

/-! ## The filter after a call -/

theorem see_eq (f : ReportFilter) (a : Ipv4) (t : Moment) :
    f.see a t = (f.isDue a t, if f.isDue a t = true then f.remember a t else f) := by
  cases hdue : f.isDue a t with
  | true => rw [see, if_pos hdue, if_pos rfl]
  | false => rw [see, hdue, if_neg Bool.false_ne_true, if_neg Bool.false_ne_true]

theorem passes_eq : passes interval earlier a t = (after interval earlier).isDue a t := by
  rw [passes, see_eq]

/-- An address that is seen counts as let through from then on if it is. -/
theorem isDue_see (f : ReportFilter) : (f.see a s).2.isDue b t = true ↔
    if b = a ∧ f.isDue a s = true then f.interval.nanos ≤ t - s else f.isDue b t = true := by
  rw [see_eq]
  cases hdue : f.isDue a s with
  | true =>
      show (f.remember a s).isDue b t = true ↔ _
      rw [isDue_remember]
      exact iff_of_eq (if_congr (and_iff_left rfl).symm rfl rfl)
  | false =>
      show f.isDue b t = true ↔ _
      rw [if_neg fun h => Bool.false_ne_true h.2]

theorem interval_apply (c : Call) (f : ReportFilter) : (c.apply f).interval = f.interval := by
  cases c with
  | see a t =>
      show (f.see a t).2.interval = f.interval
      rw [see_eq]
      cases f.isDue a t <;> rfl
  | forget a => rfl
  | prune t => rfl

@[simp] theorem interval_after (calls : List Call) :
    (after interval calls).interval = interval := by
  induction calls with
  | nil => rfl
  | cons c earlier ih => exact (interval_apply c _).trans ih

theorem Distinct.apply (h : f.Distinct) (c : Call) : (c.apply f).Distinct := by
  cases c with
  | see a t =>
      show (f.see a t).2.Distinct
      rw [see_eq]
      cases f.isDue a t with
      | true => exact h.remember a t
      | false => exact h
  | forget a => exact h.forget a
  | prune t => exact h.prune t

theorem distinct_after (interval : Duration) (calls : List Call) :
    (after interval calls).Distinct := by
  induction calls with
  | nil => exact List.Pairwise.nil
  | cons c earlier ih => exact ih.apply c

/-! ## Times -/

theorem Timely.of_cons (h : Timely (c :: earlier)) : Timely earlier := by
  cases hc : c.time? with
  | none => rwa [Timely, List.filterMap_cons_none hc] at h
  | some t =>
      rw [Timely, List.filterMap_cons_some hc] at h
      exact (List.pairwise_cons.mp h).2

/-- No call was made later than the given time. -/
def Until (calls : List Call) (t : Moment) : Prop := ∀ s ∈ calls.filterMap Call.time?, s ≤ t

theorem until_cons :
    Until (c :: earlier) t ↔ (∀ s, c.time? = some s → s ≤ t) ∧ Until earlier t := by
  cases hc : c.time? with
  | none =>
      rw [Until, List.filterMap_cons_none hc]
      exact (and_iff_right fun s hs => nomatch hs).symm
  | some s =>
      rw [Until, List.filterMap_cons_some hc, List.forall_mem_cons]
      refine and_congr_left fun _ => ⟨?_, fun h => h s rfl⟩
      rintro h _ ⟨⟩
      exact h

/-- A call comes after the times of the calls before it. -/
theorem Timely.until (h : Timely (c :: earlier)) (hc : c.time? = some t) : Until earlier t := by
  rw [Timely, List.filterMap_cons_some hc] at h
  exact (List.pairwise_cons.mp h).1

/-! ## The history decides -/

/-- What a call adds to the history. -/
theorem recent_cons : Recent interval (c :: earlier) a t ↔
    (∃ s, c = .see a s ∧ passes interval earlier a s = true ∧ t - s < interval.nanos) ∨
      (c ≠ .forget a ∧ Recent interval earlier a t) := by
  constructor
  · rintro ⟨later, s, before, hsplit, hpasses, hclose, hforget⟩
    rcases List.append_eq_cons_iff.mp hsplit.symm with ⟨rfl, hlast⟩ | ⟨later, rfl, hrest⟩
    · obtain ⟨rfl, rfl⟩ := List.cons.inj hlast
      exact Or.inl ⟨s, rfl, hpasses, hclose⟩
    · rw [List.mem_cons, not_or] at hforget
      exact Or.inr ⟨Ne.symm hforget.1, later, s, before, hrest, hpasses, hclose, hforget.2⟩
  · rintro (⟨s, rfl, hpasses, hclose⟩ | ⟨hc, later, s, before, rfl, hpasses, hclose, hforget⟩)
    · exact ⟨[], s, earlier, rfl, hpasses, hclose, List.not_mem_nil⟩
    · refine ⟨c :: later, s, before, rfl, hpasses, hclose, ?_⟩
      rw [List.mem_cons, not_or]
      exact ⟨Ne.symm hc, hforget⟩

/-- What was long ago stays so. -/
theorem Recent.mono (h : Recent interval earlier a t) (hst : s ≤ t) :
    Recent interval earlier a s := by
  obtain ⟨later, u, before, hsplit, hpasses, hclose, hforget⟩ := h
  have hle : s - u ≤ t - u := Nat.sub_le_sub_right hst u
  exact ⟨later, u, before, hsplit, hpasses, Nat.lt_of_le_of_lt hle hclose, hforget⟩

/-- **The history decides**: after calls, an address is due exactly when it was not let through
    recently. -/
theorem isDue_after (hcalls : Timely calls) (ht : Until calls t) :
    (after interval calls).isDue a t = true ↔ ¬Recent interval calls a t := by
  induction calls generalizing a t with
  | nil =>
      refine iff_of_true rfl ?_
      rintro ⟨later, s, before, hsplit, -⟩
      exact List.cons_ne_nil _ _ (List.append_eq_nil_iff.mp hsplit.symm).2
  | cons c earlier ih =>
      have hearlier := hcalls.of_cons
      obtain ⟨htime, hrest⟩ := until_cons.mp ht
      rw [recent_cons]
      cases c with
      | see b s =>
          have hs : Until earlier s := hcalls.until rfl
          have hst : s ≤ t := htime s rfl
          show ((after interval earlier).see b s).2.isDue a t = true ↔ _
          rw [isDue_see, interval_after]
          by_cases hpassed : a = b ∧ (after interval earlier).isDue b s = true
          · obtain ⟨rfl, hdue⟩ := hpassed
            -- the address was due already then, so that only this look counts
            have hold : ¬Recent interval earlier a t :=
              fun h => (ih hearlier hs).mp hdue (h.mono hst)
            rw [if_pos ⟨rfl, hdue⟩, ← Nat.not_lt]
            refine not_congr ⟨fun h => Or.inl ⟨s, rfl, passes_eq.trans hdue, h⟩, ?_⟩
            rintro (⟨_, ⟨⟩, -, h⟩ | ⟨-, h⟩)
            · exact h
            · exact absurd h hold
          · rw [if_neg hpassed, ih hearlier hrest]
            refine not_congr ⟨fun h => Or.inr ⟨Call.noConfusion, h⟩, ?_⟩
            rintro (⟨_, ⟨⟩, hpasses, -⟩ | ⟨-, h⟩)
            · exact absurd ⟨rfl, passes_eq.symm.trans hpasses⟩ hpassed
            · exact h
      | forget b =>
          show ((after interval earlier).forget b).isDue a t = true ↔ _
          rw [isDue_forget, ih hearlier hrest]
          by_cases hb : a = b
          · rw [hb]
            refine iff_of_true (Or.inl rfl) ?_
            rintro (⟨_, h, -⟩ | ⟨h, -⟩)
            · exact nomatch h
            · exact h rfl
          · rw [or_iff_right hb]
            refine not_congr ⟨fun h => Or.inr ⟨fun heq => hb (Call.forget.inj heq).symm, h⟩, ?_⟩
            rintro (⟨_, h, -⟩ | ⟨-, h⟩)
            · exact nomatch h
            · exact h
      | prune s =>
          have hst : s ≤ t := htime s rfl
          show ((after interval earlier).prune s).isDue a t = true ↔ _
          rw [isDue_prune (distinct_after interval earlier) hst, ih hearlier hrest]
          refine not_congr ⟨fun h => Or.inr ⟨Call.noConfusion, h⟩, ?_⟩
          rintro (⟨_, h, -⟩ | ⟨-, h⟩)
          · exact nomatch h
          · exact h

/-! ## Tidying up cannot be noticed -/

theorem unpruned_cons (c : Call) (earlier : List Call) :
    unpruned (c :: earlier) =
      if c.isPrune = true then unpruned earlier else c :: unpruned earlier := by
  rw [unpruned, List.filter_cons]
  cases c.isPrune <;> rfl

/-- The same addresses are due without the calls that tidy up. -/
theorem isDue_unpruned (hcalls : Timely calls) (ht : Until calls t) :
    (after interval (unpruned calls)).isDue a t = (after interval calls).isDue a t := by
  induction calls generalizing a t with
  | nil => rfl
  | cons c earlier ih =>
      have hearlier := hcalls.of_cons
      obtain ⟨htime, hrest⟩ := until_cons.mp ht
      rw [unpruned_cons]
      cases c with
      | see b s =>
          have hs : Until earlier s := hcalls.until rfl
          show ((after interval (unpruned earlier)).see b s).2.isDue a t =
            ((after interval earlier).see b s).2.isDue a t
          rw [Bool.eq_iff_iff, isDue_see, isDue_see, interval_after, interval_after, ih hearlier hs,
            ih hearlier hrest]
      | forget b =>
          show ((after interval (unpruned earlier)).forget b).isDue a t =
            ((after interval earlier).forget b).isDue a t
          rw [Bool.eq_iff_iff, isDue_forget, isDue_forget, ih hearlier hrest]
      | prune s =>
          show (after interval (unpruned earlier)).isDue a t =
            ((after interval earlier).prune s).isDue a t
          rw [isDue_prune (distinct_after interval earlier) (htime s rfl), ih hearlier hrest]

/-- The answers are the same without the calls that tidy up. -/
theorem answers_unpruned (hcalls : Timely calls) :
    answers interval (unpruned calls) = answers interval calls := by
  induction calls with
  | nil => rfl
  | cons c earlier ih =>
      have hanswers := ih hcalls.of_cons
      rw [unpruned_cons]
      cases c with
      | see a t =>
          have hdue : (after interval (unpruned earlier)).isDue a t =
              (after interval earlier).isDue a t :=
            isDue_unpruned hcalls.of_cons (hcalls.until rfl)
          show passes interval (unpruned earlier) a t :: answers interval (unpruned earlier) =
            passes interval earlier a t :: answers interval earlier
          rw [passes_eq, passes_eq, hdue, hanswers]
      | forget a => exact hanswers
      | prune t => exact hanswers

/-! ## What is left after tidying up -/

theorem mem_sent_iff : a ∈ f.sent.map Prod.fst ↔ ∃ s, f.last? a = some s := by
  rw [last?, ← Option.isSome_iff_exists, Option.isSome_map, List.find?_isSome, List.mem_map]
  simp only [decide_eq_true_eq]

/-- The addresses that are left are those that are held back in that moment. -/
theorem mem_sent_prune_iff (h : f.Distinct) :
    a ∈ (f.prune t).sent.map Prod.fst ↔ (f.prune t).isDue a t = false := by
  rw [mem_sent_iff, ← Bool.not_eq_true, isDue_iff]
  constructor
  · rintro ⟨s, hs⟩ hdue
    have hfresh : f.fresh t s = true := by
      rw [last?_prune h] at hs
      exact (Option.filter_eq_some_iff.mp hs).2
    exact absurd hfresh (Bool.not_eq_true _ ▸ fresh_eq_false.mpr (hdue s hs))
  · intro hdue
    by_contra hnone
    exact hdue fun s hs => absurd ⟨s, hs⟩ hnone

/-- A filter has as many entries as addresses. -/
theorem size_eq_ncard (h : f.Distinct) : f.size = {a | a ∈ f.sent.map Prod.fst}.ncard := by
  have hnodup : (f.sent.map Prod.fst).Nodup := List.pairwise_map.mpr h
  rw [← List.coe_toFinset, Set.ncard_coe_finset, List.toFinset_card_of_nodup hnodup,
    List.length_map]
  rfl

/-- **A filter is known by its history.**  As long as times do not go back, an address is held
    back exactly when an earlier look has let it through less than the interval before and it
    was not forgotten since.  Calls that tidy up can be put in and left out anywhere, and no
    answer changes.  Right after one of them the filter has exactly the addresses that would be
    held back in that moment, and its size is their number. -/
theorem history_decides (interval : Duration) :
    (∀ earlier a t, Timely (.see a t :: earlier) →
      (passes interval earlier a t = false ↔
        ∃ later s before, earlier = later ++ .see a s :: before ∧
          passes interval before a s = true ∧ t - s < interval.nanos ∧ Call.forget a ∉ later)) ∧
    (∀ calls calls', Timely calls → Timely calls' → unpruned calls = unpruned calls' →
      answers interval calls = answers interval calls') ∧
    ∀ calls t,
      (∀ a, a ∈ (after interval (.prune t :: calls)).sent.map Prod.fst ↔
        passes interval (.prune t :: calls) a t = false) ∧
      (after interval (.prune t :: calls)).size =
        {a | passes interval (.prune t :: calls) a t = false}.ncard := by
  refine ⟨fun earlier a t htimely => ?_, fun calls calls' htimely htimely' hsame => ?_,
    fun calls t => ?_⟩
  · rw [passes_eq, ← Bool.not_eq_true, isDue_after htimely.of_cons (htimely.until rfl),
      Classical.not_not]
    exact Iff.rfl
  · rw [← answers_unpruned htimely, hsame, answers_unpruned htimely']
  · have hmem : ∀ a, a ∈ (after interval (.prune t :: calls)).sent.map Prod.fst ↔
        passes interval (.prune t :: calls) a t = false := by
      intro a
      rw [passes_eq]
      exact mem_sent_prune_iff (distinct_after interval calls)
    refine ⟨hmem, ?_⟩
    rw [size_eq_ncard (distinct_after interval _)]
    exact congrArg Set.ncard (Set.ext hmem)

/-- Two addresses are let through, and the interval is ten nanoseconds.  The first address is
    held back nine nanoseconds later, whether or not the filter was tidied up before; when it is
    tidied up after ten, only the second address is left. -/
theorem history_decides_at_the_end :
    ∃ (interval : Duration) (calls : List Call) (a b : Ipv4), interval.nanos = 10 ∧
      calls = [.see b 7, .see a 3] ∧ Timely (.see a 12 :: .prune 12 :: calls) ∧
      passes interval (.prune 12 :: calls) a 12 = false ∧
      (∃ later s before, .prune 12 :: calls = later ++ .see a s :: before ∧
        passes interval before a s = true ∧ 12 - s < interval.nanos ∧ Call.forget a ∉ later) ∧
      answers interval (.see a 12 :: .prune 12 :: calls) = answers interval (.see a 12 :: calls) ∧
      (after interval (.prune 13 :: calls)).sent.map Prod.fst = [b] ∧
      passes interval (.prune 13 :: calls) b 13 = false ∧
      {c | passes interval (.prune 13 :: calls) c 13 = false}.ncard = 1 := by
  let interval : Duration := ⟨10, by decide⟩
  let a : Ipv4 := .ofOctets 10 0 0 1
  let b : Ipv4 := .ofOctets 10 0 0 2
  let calls : List Call := [.see b 7, .see a 3]
  have htimely : Timely (.see a 12 :: .prune 12 :: calls) := by decide
  have htimely' : Timely (.see a 12 :: calls) := by decide
  have hheld : passes interval (.prune 12 :: calls) a 12 = false := by decide
  have hleft : (after interval (.prune 13 :: calls)).sent.map Prod.fst = [b] := by decide
  obtain ⟨hrecent, hanswers, hprune⟩ := history_decides interval
  obtain ⟨hmem, hsize⟩ := hprune calls 13
  refine ⟨interval, calls, a, b, rfl, rfl, htimely, hheld, (hrecent _ a 12 htimely).mp hheld,
    hanswers _ _ htimely htimely' (by decide), hleft, (hmem b).mp ?_, hsize.symm.trans (by decide)⟩
  rw [hleft]
  exact List.mem_singleton_self b

end Overlay.ReportFilter
