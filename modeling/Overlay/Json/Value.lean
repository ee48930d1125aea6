import Overlay.Text.Scientific
import Overlay.Json.Text

/-!
# JSON values

A value is kept as it was written: the members of an object in their order, a repeated key twice, a
number by its digits, and a text whose surrogates do not pair as no text at all.

Not every value that can be read can also be held. `holdable limit` is what a reader asks of a value
that it puts aside before it knows what to do with it: all texts name characters, all numbers are in
the range of a double, and no more than `limit` arrays and objects stand inside one another.
-/

namespace Overlay

/-- A JSON value. -/
inductive Json where
  /-- The value `null`. -/
  | null
  /-- A truth value. -/
  | bool (b : Bool)
  /-- A number. -/
  | number (n : Scientific)
  /-- A text, or nothing when a surrogate in it stands alone. -/
  | text (s : Option (List Char))
  /-- An array. -/
  | array (items : List Json)
  /-- An object: its members in the order in which they are written. -/
  | object (members : List (Option (List Char) × Json))

namespace Json

instance : Inhabited Json := ⟨null⟩

/-- The text, when the value is one. -/
def text? : Json → Option String
  | text (some s) => some (String.ofList s)
  | _ => none

mutual

/-- How many arrays and objects stand inside one another. -/
def levels : Json → Nat
  | null => 0
  | bool _ => 0
  | number _ => 0
  | text _ => 0
  | array items => 1 + levelsItems items
  | object members => 1 + levelsMembers members

/-- The greatest number of levels among the items. -/
def levelsItems : List Json → Nat
  | [] => 0
  | item :: rest => max item.levels (levelsItems rest)

/-- The greatest number of levels among the values of the members. -/
def levelsMembers : List (Option (List Char) × Json) → Nat
  | [] => 0
  | (_, item) :: rest => max item.levels (levelsMembers rest)

end

mutual

/-- All texts name characters and all numbers are in the range of a double. -/
def sound : Json → Bool
  | null => true
  | bool _ => true
  | number n => n.finite
  | text s => s.isSome
  | array items => soundItems items
  | object members => soundMembers members

/-- All items are sound. -/
def soundItems : List Json → Bool
  | [] => true
  | item :: rest => item.sound && soundItems rest

/-- All keys name characters and all values of the members are sound. -/
def soundMembers : List (Option (List Char) × Json) → Bool
  | [] => true
  | (key, item) :: rest => key.isSome && item.sound && soundMembers rest

end

/-- Can the value be put aside by a reader that allows `limit` levels? -/
def holdable (limit : Nat) (j : Json) : Bool := j.sound && j.levels ≤ limit

end Json

end Overlay
