import Mathlib.Data.List.DropRight
import Mathlib.Data.Nat.Digits.Defs
import Overlay.Text.Blank
import Overlay.Text.Numeral
import Overlay.Text.Split

/-!
# Reading what was written

What `Numeral.decimal` writes is read back by `Numeral.decimal?`, and what `Text.join` puts
together with a separator is taken apart again by `Text.split`, as long as the separator is
in none of the pieces.

Every reader is also known from the texts that it accepts: a numeral is a nonempty run of
digits (`Numeral.decimal?_eq_some_iff`), the pieces of a text are what joins to it
(`Text.split_eq_iff`), and a text is trimmed to what stands between its blanks
(`Text.trim_eq_iff`).
-/

namespace Overlay

/-! ## Decimal numerals -/

namespace Numeral

theorem digit?_of_isDigit {c : Char} (h : c.isDigit = true) : digit? c = some (c.toNat - 48) := by
  unfold digit?
  rw [if_pos]
  rw [Char.isDigit, Bool.and_eq_true, decide_eq_true_eq, decide_eq_true_eq] at h
  exact h

/-- Digits are read one by one. -/
theorem digits?_of_isDigit {s : List Char} (h : ∀ c ∈ s, c.isDigit = true) :
    digits? digit? s = some (s.map fun c => c.toNat - 48) := by
  induction s with
  | nil => rfl
  | cons c s ih =>
      rw [digits?, digit?_of_isDigit (h c List.mem_cons_self),
        ih fun d hd => h d (List.mem_cons_of_mem c hd)]
      rfl

/-- The value of digits is what the library takes it for. -/
theorem value_eq_ofDigitChars (s : List Char) :
    value 10 (s.map fun c => c.toNat - 48) = Nat.ofDigitChars 10 s 0 := by
  unfold value Nat.ofDigitChars
  rw [List.foldl_map]
  congr 1
  funext n c
  rw [Nat.mul_comm]
  rfl

theorem isDigit_of_digit? {c : Char} {d : Nat} (h : digit? c = some d) : c.isDigit = true := by
  rw [digit?] at h
  obtain ⟨hbounds, -⟩ := Option.ite_none_right_eq_some.mp h
  rw [Char.isDigit, Bool.and_eq_true, decide_eq_true_eq, decide_eq_true_eq]
  exact hbounds

/-- Nothing but digits is read. -/
theorem isDigit_of_digits? {s : List Char} {ds : List Nat} (h : digits? digit? s = some ds) :
    ∀ c ∈ s, c.isDigit = true := by
  induction s generalizing ds with
  | nil => exact fun c hc => absurd hc List.not_mem_nil
  | cons c s ih =>
      rw [digits?] at h
      cases hfirst : digit? c with
      | none =>
          rw [hfirst] at h
          exact nomatch h
      | some d =>
          cases hrest : digits? digit? s with
          | none =>
              rw [hfirst, hrest] at h
              exact nomatch h
          | some ds => exact List.forall_mem_cons.mpr ⟨isDigit_of_digit? hfirst, ih hrest⟩

/-- **A numeral is a nonempty run of digits**, and its value is what the library takes the run
    for. -/
theorem decimal?_eq_some_iff {s : List Char} {n : Nat} :
    decimal? s = some n ↔
      s ≠ [] ∧ (∀ c ∈ s, c.isDigit = true) ∧ Nat.ofDigitChars 10 s 0 = n := by
  rw [decimal?]
  cases s with
  | nil => exact ⟨fun h => (nomatch h), fun h => absurd rfl h.1⟩
  | cons c s =>
      rw [if_neg (by simp)]
      constructor
      · intro h
        obtain ⟨ds, hds, -⟩ := Option.map_eq_some_iff.mp h
        have hdigits := isDigit_of_digits? hds
        rw [digits?_of_isDigit hdigits, Option.map_some, value_eq_ofDigitChars] at h
        exact ⟨List.cons_ne_nil c s, hdigits, Option.some.inj h⟩
      · rintro ⟨-, hdigits, hvalue⟩
        rw [digits?_of_isDigit hdigits, Option.map_some, value_eq_ofDigitChars, hvalue]

/-- Every character of a numeral is a digit. -/
theorem isDigit_of_mem_decimal {n : Nat} {c : Char} (h : c ∈ decimal n) : c.isDigit = true :=
  Nat.isDigit_of_mem_toDigits (by decide) (by decide) h

/-- **A numeral is read as the number that it was written for.** -/
theorem decimal?_decimal (n : Nat) : decimal? (decimal n) = some n :=
  decimal?_eq_some_iff.mpr ⟨Nat.toDigits_ne_nil, fun _ hc => isDigit_of_mem_decimal hc,
    Nat.ofDigitChars_toDigits (by decide) (by decide)⟩

/-- A number below a power of ten has at most so many digits. -/
theorem length_decimal_le {n k : Nat} (hk : 0 < k) (h : n < 10 ^ k) : (decimal n).length ≤ k :=
  (Nat.length_toDigits_le_iff (by decide) hk).mpr h

/-- The text is a numeral of one to so many digits, and this is its number. -/
structure Writes (width : Nat) (s : List Char) (n : Nat) : Prop where
  /-- There is a digit. -/
  nonempty : s ≠ []
  /-- There are no more digits than the width. -/
  length_le : s.length ≤ width
  /-- There is nothing else. -/
  digits : ∀ c ∈ s, c.isDigit = true
  /-- The digits are those of the number, zeros in front of it included. -/
  value : Nat.ofDigitChars 10 s 0 = n

theorem writes_iff {width n : Nat} {s : List Char} :
    Writes width s n ↔ s.length ≤ width ∧ decimal? s = some n := by
  rw [decimal?_eq_some_iff]
  exact ⟨fun h => ⟨h.length_le, h.nonempty, h.digits, h.value⟩,
    fun h => ⟨h.2.1, h.1, h.2.2.1, h.2.2.2⟩⟩

/-- A numeral that was written for a number writes it. -/
theorem writes_decimal {width n : Nat} (hwidth : 0 < width) (h : n < 10 ^ width) :
    Writes width (decimal n) n :=
  writes_iff.mpr ⟨length_decimal_le hwidth h, decimal?_decimal n⟩

theorem Writes.not_mem {width n : Nat} {s : List Char} {c : Char} (h : Writes width s n)
    (hc : c.isDigit = false) : c ∉ s :=
  fun hmem => nomatch (h.digits c hmem).symm.trans hc

end Numeral

/-! ## Pieces -/

namespace Text

variable {sep : Char}

/-- A piece without the separator is one piece. -/
theorem split_of_not_mem {s : List Char} (h : sep ∉ s) : split sep s = [s] := by
  induction s with
  | nil => rfl
  | cons c s ih =>
      rw [List.mem_cons, not_or] at h
      rw [split, if_neg fun heq => h.1 heq.symm, ih h.2]

theorem split_append {s rest : List Char} (h : sep ∉ s) :
    split sep (s ++ sep :: rest) = s :: split sep rest := by
  induction s with
  | nil => exact if_pos rfl
  | cons c s ih =>
      rw [List.mem_cons, not_or] at h
      rw [List.cons_append, split, if_neg fun heq => h.1 heq.symm, ih h.2]

/-- **What was joined is taken apart again.** -/
theorem split_join {pieces : List (List Char)} (hne : pieces ≠ [])
    (h : ∀ piece ∈ pieces, sep ∉ piece) : split sep (join [sep] pieces) = pieces := by
  induction pieces with
  | nil => exact absurd rfl hne
  | cons piece pieces ih =>
      have hpiece := h piece List.mem_cons_self
      cases pieces with
      | nil => exact split_of_not_mem hpiece
      | cons next pieces =>
          have hrest := ih (List.cons_ne_nil _ _) fun p hp => h p (List.mem_cons_of_mem _ hp)
          show split sep (piece ++ [sep] ++ join [sep] (next :: pieces)) = piece :: next :: pieces
          rw [List.append_assoc, List.singleton_append, split_append hpiece, hrest]

/-- There is no separator in a piece. -/
theorem not_mem_of_mem_split {s piece : List Char} (h : piece ∈ split sep s) : sep ∉ piece := by
  induction s generalizing piece with
  | nil =>
      rw [List.mem_singleton.mp h]
      exact List.not_mem_nil
  | cons c s ih =>
      rw [split] at h
      by_cases hc : c = sep
      · rw [if_pos hc] at h
        rcases List.mem_cons.mp h with rfl | h
        · exact List.not_mem_nil
        · exact ih h
      · rw [if_neg hc] at h
        cases hs : split sep s with
        | nil => exact absurd hs (split_ne_nil sep s)
        | cons front rest =>
            rw [hs] at h ih
            rcases List.mem_cons.mp h with rfl | h
            · rw [List.mem_cons, not_or]
              exact ⟨fun heq => hc heq.symm, ih List.mem_cons_self⟩
            · exact ih (List.mem_cons_of_mem _ h)

/-- **The pieces of a text** are what joins to it and has no separators. -/
theorem split_eq_iff {s : List Char} {pieces : List (List Char)} (hne : pieces ≠ []) :
    split sep s = pieces ↔ s = join [sep] pieces ∧ ∀ piece ∈ pieces, sep ∉ piece := by
  constructor
  · rintro rfl
    exact ⟨(join_split sep s).symm, fun _ => not_mem_of_mem_split⟩
  · rintro ⟨rfl, hpieces⟩
    exact split_join hne hpieces

/-- A text is cut at the first separator. -/
theorem cutFirst?_append {s rest : List Char} (h : sep ∉ s) :
    cutFirst? sep (s ++ sep :: rest) = some (s, rest) := by
  induction s with
  | nil => exact if_pos rfl
  | cons c s ih =>
      rw [List.mem_cons, not_or] at h
      rw [List.cons_append, cutFirst?, if_neg fun heq => h.1 heq.symm, ih h.2]
      rfl

theorem cutFirst?_eq_some_iff {s front rest : List Char} :
    cutFirst? sep s = some (front, rest) ↔ s = front ++ sep :: rest ∧ sep ∉ front := by
  constructor
  · intro h
    induction s generalizing front with
    | nil => exact nomatch h
    | cons c s ih =>
        rw [cutFirst?] at h
        by_cases hc : c = sep
        · rw [if_pos hc] at h
          cases h
          exact ⟨congrArg (· :: rest) hc, List.not_mem_nil⟩
        · rw [if_neg hc] at h
          obtain ⟨⟨front', rest'⟩, hcut, heq⟩ := Option.map_eq_some_iff.mp h
          cases heq
          obtain ⟨hs, hfront⟩ := ih hcut
          rw [List.mem_cons, not_or]
          exact ⟨congrArg (c :: ·) hs, fun heq => hc heq.symm, hfront⟩
  · rintro ⟨rfl, hfront⟩
    exact cutFirst?_append hfront

theorem mem_join {sep : List Char} {pieces : List (List Char)} {c : Char}
    (h : c ∈ join sep pieces) : c ∈ sep ∨ ∃ piece ∈ pieces, c ∈ piece := by
  induction pieces with
  | nil => exact absurd h List.not_mem_nil
  | cons piece pieces ih =>
      cases pieces with
      | nil => exact Or.inr ⟨piece, List.mem_cons_self, h⟩
      | cons next pieces =>
          have hparts : c ∈ piece ++ sep ++ join sep (next :: pieces) := h
          rw [List.mem_append, List.mem_append] at hparts
          rcases hparts with (h | h) | h
          · exact Or.inr ⟨piece, List.mem_cons_self, h⟩
          · exact Or.inl h
          · exact (ih h).imp_right fun ⟨p, hp, hc⟩ => ⟨p, List.mem_cons_of_mem _ hp, hc⟩

/-! ## Blanks -/

/-- The text is `core` with blanks around it. -/
def Surrounds (s core : List Char) : Prop :=
  ∃ front back, s = front ++ core ++ back ∧ (∀ c ∈ front, isBlank c = true) ∧
    ∀ c ∈ back, isBlank c = true

theorem Surrounds.refl (s : List Char) : Surrounds s s :=
  ⟨[], [], (List.append_nil s).symm, fun _ hc => absurd hc List.not_mem_nil,
    fun _ hc => absurd hc List.not_mem_nil⟩

theorem surrounds_trim (s : List Char) : Surrounds s (trim s) := by
  refine ⟨s.takeWhile isBlank, (s.dropWhile isBlank).rtakeWhile isBlank, ?_, ?_, ?_⟩
  · show s = _ ++ (s.dropWhile isBlank).rdropWhile isBlank ++ _
    rw [List.append_assoc, List.rdropWhile_append_rtakeWhile, List.takeWhile_append_dropWhile]
  · exact fun c => List.mem_takeWhile_imp
  · exact fun c => List.mem_rtakeWhile_imp

/-- A digit is not blank. -/
theorem isBlank_of_isDigit {c : Char} (h : c.isDigit = true) : isBlank c = false := by
  rw [Char.isDigit, Bool.and_eq_true, decide_eq_true_eq, decide_eq_true_eq] at h
  have hlow : 48 ≤ c.toNat := h.1
  have hhigh : c.toNat ≤ 57 := h.2
  simp only [isBlank, decide_eq_false_iff_not]
  omega

theorem dropWhile_isBlank {core rest : List Char} (hne : core ≠ [])
    (h : ∀ c ∈ core, isBlank c = false) : (core ++ rest).dropWhile isBlank = core ++ rest := by
  cases core with
  | nil => exact absurd rfl hne
  | cons c core =>
      rw [List.cons_append, List.dropWhile_cons, h c List.mem_cons_self]
      rfl

/-- **A text is trimmed to what stands between its blanks.** -/
theorem trim_eq_iff {s core : List Char} (hne : core ≠ [])
    (h : ∀ c ∈ core, isBlank c = false) : trim s = core ↔ Surrounds s core := by
  constructor
  · rintro rfl
    exact surrounds_trim s
  · rintro ⟨front, back, rfl, hfront, hback⟩
    have hback' : ∀ c ∈ back.reverse, isBlank c = true :=
      fun c hc => hback c (List.mem_reverse.mp hc)
    have hcore : core.reverse.dropWhile isBlank = core.reverse := by
      have hdrop : (core.reverse ++ []).dropWhile isBlank = core.reverse ++ [] :=
        dropWhile_isBlank (List.reverse_ne_nil_iff.mpr hne)
          fun c hc => h c (List.mem_reverse.mp hc)
      rwa [List.append_nil] at hdrop
    rw [trim, trimBy, dropWhileEnd, List.append_assoc, List.dropWhile_append_of_pos hfront,
      dropWhile_isBlank hne h, List.reverse_append, List.dropWhile_append_of_pos hback', hcore,
      List.reverse_reverse]

end Text

end Overlay
