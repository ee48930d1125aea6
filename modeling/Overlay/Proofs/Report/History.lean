import Overlay.Controller.Registry
import Overlay.Proofs.Report.Filter

/-!
# Sources that were seen, and what became of them

A history is the list of the sources that were looked at, the latest first, each with the time
and with what became of it.  It is faithful to an interval when exactly those were reported
that were due: no earlier report of the address that succeeded lies less than the interval
before (`Faithful`).

This leaves no freedom.  Reports that succeed keep their distance (`Faithful.apart`), a report
that fails is made again when the address is seen again (`Faithful.retried`), and two faithful
histories of the same sources report the same ones, as long as the reports come out the same
(`Faithful.reported_eq`).

A filter agrees with a history when it finds the same sources due from now on (`Agrees`).  It
stays so when it remembers a report that may succeed, forgets one that has failed, and is
tidied up.
-/

namespace Overlay.Report

/-- What becomes of a source. -/
inductive Fate where
  /-- It is passed over. -/
  | passed
  /-- Its report is under way. -/
  | underway
  /-- It was reported, and this is what came of it. -/
  | ended (outcome : Except RegistryError Unit)

/-- A source that was looked at. -/
structure Sight where
  /-- The source. -/
  address : Ipv4
  /-- When it was looked at. -/
  time : Moment
  /-- What became of it. -/
  fate : Fate

namespace Sight

/-- Was a report made? -/
def reported (e : Sight) : Bool :=
  match e.fate with
  | .passed => false
  | _ => true

/-- The outcome of the report, once it is there. -/
def outcome? (e : Sight) : Option (Except RegistryError Unit) :=
  match e.fate with
  | .ended r => some r
  | _ => none

/-- The source and the time, without what became of it. -/
def seen (e : Sight) : Ipv4 × Moment := (e.address, e.time)

end Sight

variable {interval : Duration} {l l' earlier : List Sight} {e : Sight} {a : Ipv4} {t u : Moment}

/-- No earlier report of the address that succeeded lies less than the interval before. -/
def Due (interval : Duration) (earlier : List Sight) (a : Ipv4) (t : Moment) : Prop :=
  ∀ e ∈ earlier, e.address = a → e.fate = .ended (.ok ()) → interval.nanos ≤ t - e.time

theorem Due.mono (h : Due interval earlier a t) (htu : t ≤ u) : Due interval earlier a u :=
  fun e he ha hok => Nat.le_trans (h e he ha hok) (Nat.sub_le_sub_right htu e.time)

theorem due_cons : Due interval (e :: earlier) a t ↔
    (e.address = a → e.fate = .ended (.ok ()) → interval.nanos ≤ t - e.time) ∧
      Due interval earlier a t :=
  List.forall_mem_cons

/-- When times do not go back, an earlier source was looked at before. -/
theorem time_le_of_mem (h : ((l ++ e :: earlier).map Sight.time).Pairwise (· ≥ ·)) {e' : Sight}
    (he' : e' ∈ earlier) : e'.time ≤ e.time := by
  rw [List.map_append, List.map_cons] at h
  have htail := (List.pairwise_append.mp h).2.1
  exact (List.pairwise_cons.mp htail).1 e'.time (List.mem_map_of_mem he')

/-- Exactly the sources that were due were reported. -/
def Faithful (interval : Duration) : List Sight → Prop
  | [] => True
  | e :: earlier =>
    (e.reported = true ↔ Due interval earlier e.address e.time) ∧ Faithful interval earlier

theorem Faithful.of_append (h : Faithful interval (l ++ l')) : Faithful interval l' := by
  induction l with
  | nil => exact h
  | cons e l ih => exact ih h.2

/-- Whether a source of a faithful history was reported is decided by the earlier ones. -/
theorem Faithful.reported_iff (h : Faithful interval (l ++ e :: earlier)) :
    e.reported = true ↔ Due interval earlier e.address e.time :=
  h.of_append.1

/-- Two reports of an address that succeed are the interval apart. -/
theorem Faithful.apart (h : Faithful interval (l ++ e :: earlier))
    (hok : e.fate = .ended (.ok ())) {e' : Sight} (he' : e' ∈ earlier)
    (ha : e'.address = e.address) (hok' : e'.fate = .ended (.ok ())) :
    interval.nanos ≤ e.time - e'.time := by
  have hreported : e.reported = true := by
    rw [Sight.reported, hok]
  exact h.reported_iff.mp hreported e' he' ha hok'

/-- When a report has failed, the address is reported when it is next seen. -/
theorem Faithful.retried {between : List Sight} {e' : Sight} {reason : RegistryError}
    (h : Faithful interval (l ++ e :: (between ++ e' :: earlier)))
    (hfailed : e'.fate = .ended (.error reason)) (ha : e'.address = e.address)
    (hbetween : ∀ b ∈ between, b.address ≠ e.address) (htime : e'.time ≤ e.time) :
    e.reported = true := by
  have hdue : Due interval earlier e'.address e'.time := by
    refine (Faithful.reported_iff h.of_append.2).mp ?_
    rw [Sight.reported, hfailed]
  rw [ha] at hdue
  refine h.reported_iff.mpr fun b hb hba hbok => ?_
  rcases List.mem_append.mp hb with hb | hb
  · exact absurd hba (hbetween b hb)
  · rcases List.mem_cons.mp hb with rfl | hb
    · rw [hfailed] at hbok
      exact nomatch hbok
    · exact hdue.mono htime b hb hba hbok

/-! ## Nothing else decides -/

/-- No report is under way. -/
def Settled (l : List Sight) : Prop := ∀ e ∈ l, e.fate ≠ .underway

theorem Settled.of_cons (h : Settled (e :: l)) : Settled l := (List.forall_mem_cons.mp h).2

/-- The outcomes of the reports, the latest first. -/
def outcomes (l : List Sight) : List (Except RegistryError Unit) := l.filterMap Sight.outcome?

theorem outcomes_cons : outcomes (e :: l) = e.outcome?.toList ++ outcomes l := by
  unfold outcomes
  rw [List.filterMap_cons]
  cases e.outcome? with
  | none => rfl
  | some r => rfl

theorem outcomes_suffix_cons : outcomes l <:+ outcomes (e :: l) := by
  rw [outcomes_cons]
  exact List.suffix_append _ _

/-- A source whose report is not under way was reported when there is an outcome. -/
theorem Sight.isSome_outcome? (h : e.fate ≠ .underway) : e.outcome?.isSome = e.reported := by
  obtain ⟨a, t, fate⟩ := e
  cases fate with
  | passed => rfl
  | underway => exact absurd rfl h
  | ended r => rfl

theorem Sight.fate_eq (h : e.fate ≠ .underway) :
    e.fate = e.outcome?.elim .passed .ended := by
  obtain ⟨a, t, fate⟩ := e
  cases fate with
  | passed => rfl
  | underway => exact absurd rfl h
  | ended r => rfl

/-- Such a source is known by its address, its time and the outcome. -/
theorem Sight.eq_of_outcome? {e' : Sight} (h : e.fate ≠ .underway) (h' : e'.fate ≠ .underway)
    (hseen : e.seen = e'.seen) (houtcome : e.outcome? = e'.outcome?) : e = e' := by
  have hfate : e.fate = e'.fate := by
    rw [Sight.fate_eq h, Sight.fate_eq h', houtcome]
  obtain ⟨a, t, fate⟩ := e
  cases hseen
  cases hfate
  rfl

/-- Faithful histories of the same sources are the same, when the reports come out the same. -/
theorem Faithful.unique (h : Faithful interval l) (h' : Faithful interval l') (hl : Settled l)
    (hl' : Settled l') (hseen : l.map Sight.seen = l'.map Sight.seen)
    {os : List (Except RegistryError Unit)} (hos : outcomes l <:+ os) (hos' : outcomes l' <:+ os) :
    l = l' := by
  induction l generalizing l' with
  | nil => exact (List.map_eq_nil_iff.mp hseen.symm).symm
  | cons e earlier ih =>
      cases l' with
      | nil => exact nomatch hseen
      | cons e' earlier' =>
          obtain ⟨hhead, htail⟩ := List.cons.inj hseen
          obtain rfl : earlier = earlier' := ih h.2 h'.2 hl.of_cons hl'.of_cons htail
            (outcomes_suffix_cons.trans hos) (outcomes_suffix_cons.trans hos')
          have he := hl e List.mem_cons_self
          have he' := hl' e' List.mem_cons_self
          obtain ⟨ha, ht⟩ := Prod.mk.inj hhead
          have hreported : e.reported = e'.reported := by
            have hiff := h.1
            rw [ha, ht] at hiff
            exact Bool.eq_iff_iff.mpr (hiff.trans h'.1.symm)
          have hsome : e.outcome?.isSome = e'.outcome?.isSome := by
            rw [Sight.isSome_outcome? he, Sight.isSome_outcome? he', hreported]
          have houtcome : e.outcome? = e'.outcome? := by
            have hlength :
                (outcomes (e :: earlier)).length = (outcomes (e' :: earlier)).length := by
              rw [outcomes_cons, outcomes_cons, List.length_append, List.length_append,
                Option.length_toList, Option.length_toList, hsome]
            have hsuffix := List.suffix_of_suffix_length_le hos hos' (Nat.le_of_eq hlength)
            have heq := hsuffix.eq_of_length hlength
            rw [outcomes_cons, outcomes_cons] at heq
            simpa using congrArg List.head? (List.append_cancel_right heq)
          rw [Sight.eq_of_outcome? he he' hhead houtcome]

/-- The same sources were reported, when the reports came out the same, the last one of which
    may be under way. -/
theorem Faithful.reported_eq (h : Faithful interval l) (h' : Faithful interval l')
    (hl : Settled l.tail) (hl' : Settled l'.tail) (hseen : l.map Sight.seen = l'.map Sight.seen)
    {os : List (Except RegistryError Unit)} (hos : outcomes l <:+ os) (hos' : outcomes l' <:+ os) :
    l.map Sight.reported = l'.map Sight.reported := by
  cases l with
  | nil =>
      rw [List.map_eq_nil_iff.mp hseen.symm]
  | cons e earlier =>
      cases l' with
      | nil => exact nomatch hseen
      | cons e' earlier' =>
          obtain ⟨hhead, htail⟩ := List.cons.inj hseen
          obtain rfl : earlier = earlier' := h.2.unique h'.2 hl hl' htail
            (outcomes_suffix_cons.trans hos) (outcomes_suffix_cons.trans hos')
          obtain ⟨ha, ht⟩ := Prod.mk.inj hhead
          have hsame : e.reported = e'.reported := by
            have h₁ := h.1
            rw [ha, ht] at h₁
            exact Bool.eq_iff_iff.mpr (h₁.trans h'.1.symm)
          rw [List.map_cons, List.map_cons, hsame]

/-! ## What the filter knows of it -/

variable {f : ReportFilter} {readings : List Moment}

/-- From the readings of the clock on, the filter finds due what is due after the history. -/
def Agrees (f : ReportFilter) (readings : List Moment) (l : List Sight) : Prop :=
  ∀ a u, (∀ r ∈ readings, r ≤ u) → (f.isDue a u = true ↔ Due f.interval l a u)

/-- A source that was not reported with success changes nothing. -/
theorem due_cons_of_ne (h : e.fate ≠ .ended (.ok ())) :
    Due interval (e :: earlier) a t ↔ Due interval earlier a t := by
  rw [due_cons]
  exact and_iff_right fun _ hok => absurd hok h

theorem Agrees.cons (h : Agrees f readings l) (he : e.fate ≠ .ended (.ok ())) (t : Moment) :
    Agrees f (t :: readings) (e :: l) := by
  intro b u hu
  rw [due_cons_of_ne he]
  exact h b u fun r hr => hu r (List.mem_cons_of_mem t hr)

/-- The filter remembers a source that is due as if its report had succeeded. -/
theorem Agrees.remember (h : Agrees f readings l) (ht : ∀ r ∈ readings, r ≤ t)
    (hdue : f.isDue a t = true) :
    Agrees (f.remember a t) (t :: readings) (⟨a, t, .ended (.ok ())⟩ :: l) := by
  intro b u hu
  have htu : t ≤ u := hu t List.mem_cons_self
  have hrest := h b u fun r hr => hu r (List.mem_cons_of_mem t hr)
  rw [ReportFilter.isDue_remember, due_cons]
  by_cases hb : b = a
  · subst hb
    have hbefore : Due f.interval l b u := ((h b t ht).mp hdue).mono htu
    rw [if_pos rfl]
    exact ⟨fun hpassed => ⟨fun _ _ => hpassed, hbefore⟩, fun hd => hd.1 rfl rfl⟩
  · rw [if_neg hb, hrest]
    exact (and_iff_right fun hba => absurd hba.symm hb).symm

/-- The filter forgets a source whose report has failed: it was due before. -/
theorem Agrees.forget {reason : RegistryError}
    (h : Agrees f readings (⟨a, t, .ended (.ok ())⟩ :: l)) (ht : t ∈ readings)
    (hdue : Due f.interval l a t) :
    Agrees (f.forget a) readings (⟨a, t, .ended (.error reason)⟩ :: l) := by
  intro b u hu
  rw [ReportFilter.isDue_forget, due_cons_of_ne (by simp)]
  by_cases hb : b = a
  · subst hb
    exact iff_of_true (Or.inl rfl) (hdue.mono (hu t ht))
  · rw [or_iff_right hb, h b u hu, due_cons]
    exact and_iff_right fun hba => absurd hba.symm hb

theorem Agrees.prune (h : Agrees f readings l) (hf : f.Distinct) (t : Moment) :
    Agrees (f.prune t) (t :: readings) l := by
  intro b u hu
  rw [ReportFilter.isDue_prune hf (hu t List.mem_cons_self)]
  exact h b u fun r hr => hu r (List.mem_cons_of_mem t hr)

end Overlay.Report
