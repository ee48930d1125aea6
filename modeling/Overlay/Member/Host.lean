import Overlay.Net.Cidr
import Overlay.Json.Record

/-!
# Hosts

A host is a member of the overlay as the data plane sees it: where datagrams for it are sent, and
which network lies behind it. Both are kept as the texts that the controller gave.
-/

namespace Overlay

/-- Where to send datagrams, and the network that they reach. -/
structure Host where
  /-- The address that the host listens on. -/
  address : String
  /-- The network behind the host, in CIDR notation. -/
  cidr : String
deriving DecidableEq

namespace Host

/-- The network behind the host. -/
def network (h : Host) : Except CidrError Subnet := Cidr.read h.cidr

/-- The network and how it is reached. -/
def text (h : Host) : String := h.cidr ++ " via " ++ h.address

/-- The fields of the record, in the order in which they are written. -/
def keys : List (List Char) := ["host_addr".toList, "cidr".toList]

/-- The record in JSON. -/
def toJsonText (h : Host) : List Char :=
  Json.recordText [("host_addr", h.address), ("cidr", h.cidr)]

/-- Reads the record from a JSON value. -/
def ofJson? (j : Json) : Option Host :=
  match Json.textRecord? keys j with
  | some [address, cidr] => some ⟨address, cidr⟩
  | _ => none

/-- Reads the record from the text of a JSON value. -/
def ofJsonText? (s : List Char) : Option Host := (Json.read? s).bind ofJson?

/-- The hosts of an array, if every item is a host. -/
def listOfJson? : List Json → Option (List Host)
  | [] => some []
  | j :: js =>
    match ofJson? j, listOfJson? js with
    | some h, some hs => some (h :: hs)
    | _, _ => none

end Host

end Overlay
