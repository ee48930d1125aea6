import Overlay.Json.Token

/-!
# Reading JSON values

The tokens of a value are read one at a time. What has been read so far is a stack of open arrays
and objects together with what may come next, so that no nesting is too deep to read. `Json.read?`
reads a text that holds one value and nothing else.
-/

namespace Overlay.Json

/-- An array or object whose end has not been read; its items are kept in reverse. -/
inductive Frame where
  /-- An open array. -/
  | array (items : List Json)
  /-- An open object, and the key whose value is being read. -/
  | object (members : List (Option (List Char) × Json)) (key : Option (List Char))

/-- What may come next. -/
inductive Want where
  /-- A value. -/
  | value
  /-- A value, or the end of an array that has just begun. -/
  | item
  /-- A key; the members read so far are kept in reverse. -/
  | key (members : List (Option (List Char) × Json))
  /-- A key, or the end of an object that has just begun. -/
  | member
  /-- The colon after a key. -/
  | colon (members : List (Option (List Char) × Json)) (key : Option (List Char))
  /-- A comma or the end of what encloses the value that has just been read. -/
  | more (value : Json)

/-- Begins a value. -/
def beginValue (stack : List Frame) : Token → Option (Want × List Frame)
  | .openObject => some (.member, stack)
  | .openArray => some (.item, .array [] :: stack)
  | .atom v => some (.more v, stack)
  | _ => none

/-- Reads a key. -/
def beginKey (members : List (Option (List Char) × Json)) (stack : List Frame) :
    Token → Option (Want × List Frame)
  | .atom (.text k) => some (.colon members k, stack)
  | _ => none

/-- Goes on after the value `v`. -/
def afterValue (v : Json) : List Frame → Token → Option (Want × List Frame)
  | .array items :: stack, .comma => some (.value, .array (v :: items) :: stack)
  | .array items :: stack, .closeArray => some (.more (.array (v :: items).reverse), stack)
  | .object members k :: stack, .comma => some (.key ((k, v) :: members), stack)
  | .object members k :: stack, .closeObject =>
    some (.more (.object ((k, v) :: members).reverse), stack)
  | _, _ => none

/-- Reads one token. -/
def step (state : Want × List Frame) (t : Token) : Option (Want × List Frame) :=
  match state, t with
  | (.value, stack), t => beginValue stack t
  | (.item, .array [] :: stack), .closeArray => some (.more (.array []), stack)
  | (.item, stack), t => beginValue stack t
  | (.key members, stack), t => beginKey members stack t
  | (.member, stack), .closeObject => some (.more (.object []), stack)
  | (.member, stack), t => beginKey [] stack t
  | (.colon members k, stack), .colon => some (.value, .object members k :: stack)
  | (.colon _ _, _), _ => none
  | (.more v, stack), t => afterValue v stack t

/-- Reads all tokens, which have to end with a whole value. -/
def run? : Want × List Frame → List Token → Option Json
  | (.more v, []), [] => some v
  | _, [] => none
  | state, t :: ts =>
    match step state t with
    | some state => run? state ts
    | none => none

/-- Reads a text that holds one value. -/
def read? (s : List Char) : Option Json :=
  match Token.scan? s with
  | some ts => run? (.value, []) ts
  | none => none

end Overlay.Json
