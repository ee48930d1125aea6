import Overlay.Member.Host

/-!
# Edges

An edge is a member of the overlay as the controller publishes it: its name and its host. An edge
event says that an edge was put into the overlay or deleted from it.

An event is an object with a member `type` and a member `edge`. When `type` comes first, the edge is
read as soon as it is met. When `edge` comes first, its value is put aside until `type` is known, and
so it has to be holdable. An event may also be an array of the two values in this order. The type may
also be written as an object whose only member has the null value.
-/

namespace Overlay

/-- A member of the overlay. -/
structure Edge where
  /-- The name of the edge. -/
  name : String
  /-- The address that the edge listens on. -/
  address : String
  /-- The network behind the edge, in CIDR notation. -/
  cidr : String
deriving DecidableEq

namespace Edge

/-- The edge as the data plane sees it. -/
def host (e : Edge) : Host := ⟨e.address, e.cidr⟩

/-- The fields of the record, in the order in which they are written. -/
def keys : List (List Char) := ["name".toList, "host_addr".toList, "cidr".toList]

/-- The record in JSON. -/
def toJsonText (e : Edge) : List Char :=
  Json.recordText [("name", e.name), ("host_addr", e.address), ("cidr", e.cidr)]

/-- Reads the record from a JSON value. -/
def ofJson? (j : Json) : Option Edge :=
  match Json.textRecord? keys j with
  | some [name, address, cidr] => some ⟨name, address, cidr⟩
  | _ => none

/-- Reads the record from the text of a JSON value. -/
def ofJsonText? (s : List Char) : Option Edge := (Json.read? s).bind ofJson?

/-- Is a host this edge itself? Its address is the edge's, or both name the same network. -/
def isSelf (e : Edge) (h : Host) : Bool :=
  h.address = e.address ||
    match h.network, Cidr.read e.cidr with
    | .ok a, .ok b => a = b
    | _, _ => false

end Edge

/-- A change of the membership. -/
inductive EdgeEvent where
  /-- The edge is a member from now on. -/
  | put (edge : Edge)
  /-- The edge is no longer a member. -/
  | delete (edge : Edge)
deriving DecidableEq

namespace EdgeEvent

/-- The edge that the event is about. -/
def edge : EdgeEvent → Edge
  | put e => e
  | delete e => e

/-- The name of the kind of event. -/
def kind : EdgeEvent → String
  | put _ => "put"
  | delete _ => "delete"

/-- The event of the named kind. -/
def ofKind? (kind : List Char) (e : Edge) : Option EdgeEvent :=
  if kind = "put".toList then some (put e)
  else if kind = "delete".toList then some (delete e)
  else none

/-- The name of a kind: a text, or an object whose only member has that key and is null. -/
def kind? : Json → Option (List Char)
  | .text k => k
  | .object [(k, .null)] => k
  | _ => none

/-- How many arrays and objects may stand inside one another in a value that is put aside: reading
allows 127 of them, and the event itself is one. -/
def heldLevels : Nat := 126

/-- The event with the given kind and edge. -/
def ofParts? (kind edge : Json) : Option EdgeEvent :=
  match kind? kind, Edge.ofJson? edge with
  | some k, some e => ofKind? k e
  | _, _ => none

/-- Does the key name one of the two members of an event? -/
def isPart (key : Option (List Char)) : Bool := key = some "type".toList || key = some "edge".toList

/-- Reads an event from a JSON value. -/
def ofJson? : Json → Option EdgeEvent
  | .array [kind, edge] => ofParts? kind edge
  | .object members =>
    if members.all (fun m => m.1.isSome) then
      match members.filter (fun m => isPart m.1) with
      | [(a, x), (b, y)] =>
        if a = some "type".toList && b = some "edge".toList then ofParts? x y
        else if a = some "edge".toList && b = some "type".toList && x.holdable heldLevels then
          ofParts? y x
        else none
      | _ => none
    else none
  | _ => none

/-- Reads an event from the text of a JSON value. -/
def ofJsonText? (s : List Char) : Option EdgeEvent := (Json.read? s).bind ofJson?

/-- The event in JSON, the kind first. -/
def toJsonText (e : EdgeEvent) : List Char :=
  ['{'] ++ Json.memberText "type" e.kind ++ [','] ++ Json.Text.encode "edge".toList ++ [':'] ++
    e.edge.toJsonText ++ ['}']

end EdgeEvent

end Overlay
