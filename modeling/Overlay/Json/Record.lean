import Overlay.Text.Split
import Overlay.Json.Reader

/-!
# Records in JSON

A record is written as an object with one member for each of its fields, in the order of the fields
and without blanks. It is read from an object whose members come in any order, whose other members
are ignored and none of whose fields is given twice, or from an array of the values of its fields in
order.
-/

namespace Overlay.Json

/-- The value of the only member with the key, `none` when there is no such member. It fails when
there are several. -/
def member? (key : List Char) (members : List (Option (List Char) × Json)) :
    Option (Option Json) :=
  match members.filter (fun m => m.1 = some key) with
  | [] => some none
  | [m] => some (some m.2)
  | _ => none

/-- The values of the named members, unless one of them comes twice. -/
def members? (members : List (Option (List Char) × Json)) :
    List (List Char) → Option (List (Option Json))
  | [] => some []
  | key :: keys =>
    match member? key members, members? members keys with
    | some v, some vs => some (v :: vs)
    | _, _ => none

/-- The values of a record's fields, `none` for one that is missing. The keys of an object have to
name characters even when they name no field. -/
def record? (keys : List (List Char)) : Json → Option (List (Option Json))
  | .object members =>
    if members.all (fun m => m.1.isSome) then members? members keys else none
  | .array items =>
    if items.length ≤ keys.length then
      some (items.map some ++ List.replicate (keys.length - items.length) none)
    else none
  | _ => none

/-- The values of a record whose fields are all texts. -/
def textRecord? (keys : List (List Char)) (j : Json) : Option (List String) :=
  match record? keys j with
  | none => none
  | some values => values.mapM fun v => v.bind Json.text?

/-- One member of a record as it is written. -/
def memberText (key value : String) : List Char :=
  Text.encode key.toList ++ ':' :: Text.encode value.toList

/-- A record of texts as it is written. -/
def recordText (fields : List (String × String)) : List Char :=
  ['{'] ++ Overlay.Text.join [','] (fields.map fun (k, v) => memberText k v) ++ ['}']

end Overlay.Json
