/-!
# TOML values

The value of a configuration document. A table lists its members in the order in which they are
written. Floating-point numbers and moments are kept as text: they are checked when they are read,
and no setting has such a value.
-/

namespace Overlay

/-- A TOML value. -/
inductive Toml where
  /-- A text. -/
  | text (s : List Char)
  /-- A whole number of sixty-four bits. -/
  | integer (n : Int)
  /-- A floating-point number. -/
  | float (written : List Char)
  /-- A truth value. -/
  | bool (b : Bool)
  /-- A date, a time or both. -/
  | moment (written : List Char)
  /-- An array. -/
  | array (items : List Toml)
  /-- A table. -/
  | table (members : List (List Char × Toml))

namespace Toml

/-- The text, when the value is one. -/
def text? : Toml → Option (List Char)
  | text s => some s
  | _ => none

/-- The truth value, when the value is one. -/
def bool? : Toml → Option Bool
  | bool b => some b
  | _ => none

/-- The number, when the value is a whole number that is not negative and less than `bound`. -/
def natBelow? (bound : Nat) : Toml → Option Nat
  | integer n => if 0 ≤ n ∧ n < bound then some n.toNat else none
  | _ => none

/-- Is this an array or a table without members? -/
def isVoid : Toml → Bool
  | array items => items.isEmpty
  | table members => members.isEmpty
  | _ => false

/-- The value of a member. -/
def member? (key : List Char) (members : List (List Char × Toml)) : Option Toml :=
  (members.find? (fun m => m.1 = key)).map (·.2)

/-- The values of a record's fields, `none` for one that is missing. A table may have no other
members. An array gives the values in the order of the fields, and what it has beyond them is not
looked at. -/
def record? (keys : List (List Char)) : Toml → Option (List (Option Toml))
  | table members =>
    if members.all (fun m => keys.contains m.1) then some (keys.map (member? · members)) else none
  | array items =>
    some ((items.take keys.length).map some ++ List.replicate (keys.length - items.length) none)
  | _ => none

end Toml

end Overlay
