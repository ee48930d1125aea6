import Overlay.Report.Filter

/-!
# What the filter of sources lets through

`isDue_iff` says when an address is due in terms of its last report, and the lemmas after it
say what becomes of this when an address is remembered or forgotten and when the filter is
tidied up.  To tidy up is to forget what would be due in any case: as long as time does not go
back, `isDue_prune` finds the same addresses due before and after.
-/

namespace Overlay.ReportFilter

variable {f : ReportFilter} {a b : Ipv4} {t u : Moment}

/-- Every address is remembered once. -/
def Distinct (f : ReportFilter) : Prop := f.sent.Pairwise fun e e' => e.1 ≠ e'.1

theorem fresh_eq_false : f.fresh u t = false ↔ f.interval.nanos ≤ u - t := by
  rw [fresh, decide_eq_false_iff_not, Nat.not_lt]

/-- An address is due when the interval has passed since its last report. -/
theorem isDue_iff :
    f.isDue a u = true ↔ ∀ t, f.last? a = some t → f.interval.nanos ≤ u - t := by
  unfold isDue
  cases f.last? a with
  | none => exact iff_of_true rfl fun t ht => nomatch ht
  | some t =>
      rw [Bool.not_eq_true', fresh_eq_false]
      constructor
      · rintro h _ ⟨⟩
        exact h
      · intro h
        exact h t rfl

/-! ## Forgetting and remembering -/

theorem last?_forget : (f.forget a).last? b = if b = a then none else f.last? b := by
  unfold last? forget
  rw [List.find?_filter]
  by_cases hb : b = a
  · rw [if_pos hb, hb]
    simp
  · rw [if_neg hb]
    congr 2
    funext e
    by_cases he : e.1 = b
    · simp [he, hb]
    · simp [he]

theorem last?_remember : (f.remember a t).last? b = if b = a then some t else f.last? b := by
  have hrest : (f.remember a t).last? b =
      if a = b then some t else (f.forget a).last? b := by
    unfold last? remember
    rw [List.find?_cons]
    by_cases hb : a = b
    · simp [hb]
    · simp [hb]
  rw [hrest, last?_forget]
  by_cases hb : b = a
  · rw [if_pos hb.symm, if_pos hb]
  · rw [if_neg fun h => hb h.symm, if_neg hb, if_neg hb]

theorem isDue_forget : (f.forget a).isDue b u = true ↔ b = a ∨ f.isDue b u = true := by
  rw [isDue_iff, last?_forget]
  by_cases hb : b = a
  · rw [if_pos hb]
    exact iff_of_true (fun t ht => nomatch ht) (Or.inl hb)
  · rw [if_neg hb, or_iff_right hb]
    exact isDue_iff.symm

theorem isDue_remember : (f.remember a t).isDue b u = true ↔
    if b = a then f.interval.nanos ≤ u - t else f.isDue b u = true := by
  rw [isDue_iff, last?_remember]
  by_cases hb : b = a
  · rw [if_pos hb, if_pos hb]
    constructor
    · intro h
      exact h t rfl
    · rintro h _ ⟨⟩
      exact h
  · rw [if_neg hb, if_neg hb]
    exact isDue_iff.symm

theorem Distinct.forget (h : f.Distinct) (a : Ipv4) : (f.forget a).Distinct :=
  List.Pairwise.filter _ h

theorem Distinct.remember (h : f.Distinct) (a : Ipv4) (t : Moment) :
    (f.remember a t).Distinct := by
  refine List.pairwise_cons.mpr ⟨?_, h.forget a⟩
  intro e he
  have hne := (List.mem_filter.mp he).2
  exact fun heq => of_decide_eq_true hne heq.symm

/-- An address that is seen is remembered when it is due. -/
theorem see_eq_true {f' : ReportFilter} (h : f.see a t = (true, f')) :
    f.isDue a t = true ∧ f' = f.remember a t := by
  unfold see at h
  split at h
  · rename_i hdue
    cases h
    exact ⟨hdue, rfl⟩
  · cases h

theorem see_eq_false {f' : ReportFilter} (h : f.see a t = (false, f')) :
    ¬ f.isDue a t = true ∧ f' = f := by
  unfold see at h
  split at h
  · cases h
  · rename_i hdue
    cases h
    exact ⟨hdue, rfl⟩

/-! ## Tidying up -/

theorem Distinct.prune (h : f.Distinct) (t : Moment) : (f.prune t).Distinct :=
  List.Pairwise.filter _ h

/-- In a list that has an entry for each address at most, an entry that is dropped leaves none
    for its address. -/
theorem find?_filter_of_pairwise {l : List (Ipv4 × Moment)} {p : Moment → Bool}
    (h : l.Pairwise fun e e' => e.1 ≠ e'.1) :
    ((l.filter fun e => p e.2).find? fun e => e.1 = a).map (·.2) =
      ((l.find? fun e => e.1 = a).map (·.2)).filter p := by
  induction l with
  | nil => rfl
  | cons e l ih =>
      obtain ⟨hhead, htail⟩ := List.pairwise_cons.mp h
      by_cases ha : e.1 = a
      · have hfirst : ∀ l', (e :: l').find? (fun e => e.1 = a) = some e := fun _ =>
          List.find?_cons_of_pos (decide_eq_true ha)
        rw [hfirst]
        by_cases hp : p e.2 = true
        · rw [List.filter_cons, if_pos hp, hfirst]
          exact (Option.filter_some_pos hp).symm
        · have hnone : ((l.filter fun e => p e.2).find? fun e => e.1 = a) = none := by
            refine List.find?_eq_none.mpr fun e' he' heq => ?_
            have hne := hhead e' (List.mem_filter.mp he').1
            exact hne (ha.trans (of_decide_eq_true heq).symm)
          rw [List.filter_cons, if_neg hp, hnone]
          exact (Option.filter_some_neg (Bool.not_eq_true _ ▸ hp)).symm
      · have hrest : ∀ l', (e :: l').find? (fun e => e.1 = a) = l'.find? fun e => e.1 = a :=
          fun _ => List.find?_cons_of_neg fun heq => ha (of_decide_eq_true heq)
        rw [hrest, ← ih htail]
        by_cases hp : p e.2 = true
        · rw [List.filter_cons, if_pos hp, hrest]
        · rw [List.filter_cons, if_neg hp]

/-- What is left of an address: its last report, if the interval has not passed. -/
theorem last?_prune (h : f.Distinct) : (f.prune t).last? a = (f.last? a).filter (f.fresh t) :=
  find?_filter_of_pairwise h

/-- **Tidying up does not matter**: as long as time does not go back, the same addresses are
    due. -/
theorem isDue_prune (h : f.Distinct) (htu : t ≤ u) : (f.prune t).isDue a u = f.isDue a u := by
  rw [Bool.eq_iff_iff, isDue_iff, isDue_iff, last?_prune h]
  constructor
  · intro hdue s hs
    by_cases hfresh : f.fresh t s = true
    · exact hdue s (Option.filter_eq_some_iff.mpr ⟨hs, hfresh⟩)
    · have hpassed := fresh_eq_false.mp (Bool.not_eq_true _ ▸ hfresh)
      exact Nat.le_trans hpassed (Nat.sub_le_sub_right htu s)
  · intro hdue s hs
    exact hdue s (Option.filter_eq_some_iff.mp hs).1

end Overlay.ReportFilter
