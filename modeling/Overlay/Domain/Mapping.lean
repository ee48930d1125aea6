import Overlay.Domain.Disallowed
import Overlay.Domain.Expansions
import Overlay.Domain.Replacements
import Overlay.Domain.Shifts

/-!
# How the characters of a domain are read

A domain may be written with characters that it does not hold: capital letters, wide letters, ligatures
and other signs that look like some text. Each of them is read as one or several characters that a
domain holds, or passed over; others make the text no domain. Characters are given by their code
points.
-/

namespace Overlay.Domain

/-- The item of a character in a table of blocks, which give the first of some characters that follow
each other and an item for each of them. -/
def itemOf? {α : Type} (blocks : List (Nat × List α)) (n : Nat) : Option α :=
  blocks.findSome? fun (first, items) => if first ≤ n then items[n - first]? else none

/-- What a character is read as by one of the runs in `shifts`. -/
def shifted? (n : Nat) : Option Nat :=
  shifts.findSome? fun (first, count, step, target) =>
    if n < first then none
    else if step = 0 then if n - first < count then some target else none
    else if (n - first) % step = 0 && (n - first) / step < count then some (target + (n - first))
    else none

/-- What a character that a domain does not hold is read as. -/
def reading? (n : Nat) : Option (List Nat) :=
  match shifted? n with
  | some m => some [m]
  | none =>
    match itemOf? replacements n with
    | some m => some [m]
    | none => if ignored.has (Char.ofNat n) then some [] else itemOf? expansions n

/-- What a character is read as, unless no domain holds it. -/
def read? (n : Nat) : Option (List Nat) :=
  match reading? n with
  | some ms => some ms
  | none => if disallowed.has (Char.ofNat n) then none else some [n]

/-- What a text is read as, unless no domain holds one of its characters. -/
def readAll? : List Nat → Option (List Nat)
  | [] => some []
  | n :: rest =>
    match read? n, readAll? rest with
    | some ms, some more => some (ms ++ more)
    | _, _ => none

/-- Is the character held by domains as it is? -/
def isHeld (n : Nat) : Bool := read? n = some [n]

end Overlay.Domain
