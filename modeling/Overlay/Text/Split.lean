/-!
# Splitting text at a separator

`split` cuts a list of characters at every occurrence of a separator, so that joining the pieces
with the separator gives the text back. `cutFirst?` and `cutLast?` cut once, at the first or at the
last occurrence.
-/

namespace Overlay.Text

/-- The pieces between the occurrences of `sep`: one more than there are occurrences. -/
def split (sep : Char) : List Char → List (List Char)
  | [] => [[]]
  | c :: s =>
    if c = sep then [] :: split sep s
    else
      match split sep s with
      | [] => [[c]]
      | piece :: rest => (c :: piece) :: rest

/-- The pieces with `sep` written between them. -/
def join (sep : List Char) : List (List Char) → List Char
  | [] => []
  | [piece] => piece
  | piece :: rest => piece ++ sep ++ join sep rest

/-- The text before and after the first `sep`. -/
def cutFirst? (sep : Char) : List Char → Option (List Char × List Char)
  | [] => none
  | c :: s =>
    if c = sep then some ([], s)
    else (cutFirst? sep s).map fun (l, r) => (c :: l, r)

/-- The text before and after the last `sep`. -/
def cutLast? (sep : Char) (s : List Char) : Option (List Char × List Char) :=
  (cutFirst? sep s.reverse).map fun (l, r) => (r.reverse, l.reverse)

/-- What follows `front` when the text begins with it. -/
def dropFront? : List Char → List Char → Option (List Char)
  | [], s => some s
  | _ :: _, [] => none
  | a :: front, c :: s => if a = c then dropFront? front s else none

/-- The text before and after the first occurrence of the nonempty text `mark`. -/
def cutAt? (mark : List Char) : List Char → Option (List Char × List Char)
  | [] => none
  | c :: s =>
    match dropFront? mark (c :: s) with
    | some rest => some ([], rest)
    | none => (cutAt? mark s).map fun (l, r) => (c :: l, r)

theorem split_ne_nil (sep : Char) (s : List Char) : split sep s ≠ [] := by
  cases s with
  | nil => simp [split]
  | cons c s =>
    unfold split
    split
    · simp
    · split <;> simp

theorem join_split (sep : Char) (s : List Char) : join [sep] (split sep s) = s := by
  induction s with
  | nil => rfl
  | cons c s ih =>
    unfold split
    by_cases h : c = sep
    · rw [if_pos h]
      cases hs : split sep s with
      | nil => exact absurd hs (split_ne_nil sep s)
      | cons piece rest => rw [hs] at ih; simp [join, ih, h]
    · rw [if_neg h]
      cases hs : split sep s with
      | nil => exact absurd hs (split_ne_nil sep s)
      | cons piece rest =>
        rw [hs] at ih
        cases rest with
        | nil => simp_all [join]
        | cons _ _ => simp_all [join]

end Overlay.Text
