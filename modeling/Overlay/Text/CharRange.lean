/-!
# Sets of characters given by ranges

The tables of character properties list their code points as closed ranges in ascending order. A
table is `Ascending` when each range is nonempty and ends before the next one begins, so that no code
point is listed twice.
-/

namespace Overlay.Text

/-- Closed ranges of code points. -/
abbrev CharRanges := List (Nat × Nat)

/-- Does one of the ranges hold the character? -/
def CharRanges.has (ranges : CharRanges) (c : Char) : Bool :=
  ranges.any fun (first, last) => first ≤ c.toNat && c.toNat ≤ last

/-- Each range is nonempty and lies below the ranges after it; all of them lie at or past `low`. -/
def CharRanges.ascendingFrom : Nat → CharRanges → Bool
  | _, [] => true
  | low, (first, last) :: rest => low ≤ first && first ≤ last && ascendingFrom (last + 1) rest

end Overlay.Text
