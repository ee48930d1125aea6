import Overlay.Controller.Registry
import Overlay.Proofs.Controller.Address
import Overlay.Proofs.Member.Edge
import Overlay.Proofs.Text.Utf8

/-!
# Records on the wire

Edges and hosts are written as JSON and read again, and between the two nothing is lost, whatever
characters their texts have.  A change of the membership is an object of two members, which come
in either order: when the edge comes first, it is put aside until the kind is known.  The hosts of
the overlay come in an array.

`records_round_trip` says all of this, with blanks wherever JSON allows them between the pieces of
what is read.
-/

namespace Overlay

open Json Json.Token

/-! ## Hosts -/

namespace Host

/-- The fields of a host as they are written. -/
def fields (h : Host) : List (String × String) := [("host_addr", h.address), ("cidr", h.cidr)]

/-- The value that a host is written as. -/
def toJson (h : Host) : Json :=
  .object [(some "host_addr".toList, .text (some h.address.toList)),
    (some "cidr".toList, .text (some h.cidr.toList))]

theorem lexes (h : Host) : Lexes h.toJsonText (recordTokens h.fields) := .record _

theorem builds (h : Host) : Builds (recordTokens h.fields) h.toJson := fun _ _ => rfl

theorem ofJson?_toJson (h : Host) : ofJson? h.toJson = some h := by
  have hvalues : textRecord? keys h.toJson =
      some [String.ofList h.address.toList, String.ofList h.cidr.toList] := rfl
  rw [ofJson?, hvalues]
  simp only [String.ofList_toList]

theorem listOfJson?_map_toJson (hosts : List Host) :
    listOfJson? (hosts.map toJson) = some hosts := by
  induction hosts with
  | nil => rfl
  | cons h hosts ih => rw [List.map_cons, listOfJson?, ofJson?_toJson, ih]

/-- A host is read back from the text that is written of it. -/
theorem ofJsonText?_toJsonText (h : Host) : ofJsonText? h.toJsonText = some h := by
  rw [ofJsonText?, read?_of_spread (.one _) (.one h.lexes) h.builds]
  exact ofJson?_toJson h

end Host

/-! ## The hosts of the overlay -/

namespace Controller

/-- The pieces of the object that lists hosts. -/
def hostsPieces (hosts : List Host) : List (List Char) :=
  objectPieces [("hosts", arrayPieces (hosts.map fun h => [h.toJsonText]))]

/-- The tokens of the object that lists hosts. -/
def hostsTokens (hosts : List Host) : List Token :=
  objectTokens [("hosts", arrayTokens (hosts.map fun h => recordTokens h.fields))]

theorem lexes_hosts (hosts : List Host) : LexesAll (hostsPieces hosts) (hostsTokens hosts) := by
  refine .object (.cons ⟨rfl, .array ?_⟩ .nil)
  rw [List.forall₂_map_left_iff, List.forall₂_map_right_iff, List.forall₂_same]
  exact fun h _ => .one h.lexes

theorem builds_hosts (hosts : List Host) :
    Builds (hostsTokens hosts)
      (.object [(some "hosts".toList, .array (hosts.map Host.toJson))]) := by
  have harray : Builds (arrayTokens (hosts.map fun h => recordTokens h.fields))
      (.array (hosts.map Host.toJson)) := by
    refine .array ?_
    rw [List.forall₂_map_left_iff, List.forall₂_map_right_iff, List.forall₂_same]
    exact fun h _ => h.builds
  intro stack us
  have htokens : hostsTokens hosts ++ us =
      openObject :: atom (.text (some "hosts".toList)) :: colon ::
        (arrayTokens (hosts.map fun h => recordTokens h.fields) ++ closeObject :: us) := by
    simp [hostsTokens, objectTokens, listed]
  rw [htokens]
  show run? (.value, .object [] (some "hosts".toList) :: stack) _ = _
  rw [harray]
  rfl

/-- The hosts of a reply are read from its body. -/
theorem hosts_of_spread {hosts : List Host} {s : List Char} {reply : HttpReply}
    (h : Spread (hostsPieces hosts) s) (hsuccess : reply.isSuccess = true)
    (hbody : reply.body = Utf8.encode s) : reply.hosts = .ok hosts := by
  have hread : ((Utf8.decode? reply.body).bind read?).bind HttpReply.hostsOfJson? = some hosts := by
    rw [hbody, Utf8.decode?_encode, Option.bind_some,
      read?_of_spread h (lexes_hosts hosts) (builds_hosts hosts), Option.bind_some]
    exact Host.listOfJson?_map_toJson hosts
  rw [HttpReply.hosts, HttpReply.content, if_pos hsuccess]
  simp only [hread]

/-- **Records go over the wire unchanged**, whatever characters their texts have.

    * A host and an edge are read back from the text that is written of them.
    * A change of the membership is read from every object with its kind and its edge as they are
      written, in either order and with any blanks.
    * When the reply to a registration is a success and its body an object that lists hosts as they
      are written, with any blanks, the registration gives these hosts in their order. -/
theorem records_round_trip :
    (∀ h : Host, Host.ofJsonText? h.toJsonText = some h) ∧
    (∀ e : Edge, Edge.ofJsonText? e.toJsonText = some e) ∧
    (∀ (e : EdgeEvent) (s : List Char),
      Spread (objectPieces e.parts) s ∨ Spread (objectPieces e.parts.reverse) s →
        EdgeEvent.ofJsonText? s = some e) ∧
    ∀ (hosts : List Host) (s : List Char) (via : Exchange) (base : Url) (e : Edge)
      (request : HttpRequest) (reply : HttpReply), Spread (hostsPieces hosts) s →
        registration base e = .ok request → via request = .ok reply → reply.isSuccess = true →
          reply.body = Utf8.encode s → register via base e = .ok hosts := by
  refine ⟨Host.ofJsonText?_toJsonText, Edge.ofJsonText?_toJsonText,
    fun e s => EdgeEvent.ofJsonText?_of_spread, ?_⟩
  intro hosts s via base e request reply hs hrequest hreply hsuccess hbody
  have hexchange : exchange via (registration base e) = .ok reply := by
    rw [hrequest]
    simp only [exchange, hreply]
  rw [register, hexchange]
  exact hosts_of_spread hs hsuccess hbody

/-- Texts with quotes, a backslash, control characters and characters beyond sixteen bits: the
    change is read with its edge first and blanks around its pieces, and a registration gives two
    hosts. -/
theorem records_round_trip_of_escapes :
    ∃ (h : Host) (edge : Edge) (s body : List Char) (request : HttpRequest) (reply : HttpReply),
      h = ⟨"\"\\😀", "\x01\n"⟩ ∧ edge = ⟨"é/\u2028", h.address, h.cidr⟩ ∧
      s = (" \x7b \"edge\" : \x7b\"name\":\"é/\u2028\",\"host_addr\":\"\\\"\\\\😀\"," ++
        "\"cidr\":\"\\u0001\\n\"\x7d , \"type\" : \"delete\" \x7d ").toList ∧
      Host.ofJsonText? h.toJsonText = some h ∧ Edge.ofJsonText? edge.toJsonText = some edge ∧
      EdgeEvent.ofJsonText? s = some (.delete edge) ∧
      Spread (hostsPieces [h, ⟨"", ""⟩]) body ∧ registration controller edge = .ok request ∧
      reply = ⟨200, Utf8.encode body⟩ ∧
      register (fun _ => .ok reply) controller edge = .ok [h, ⟨"", ""⟩] := by
  let h : Host := ⟨"\"\\😀", "\x01\n"⟩
  let edge : Edge := ⟨"é/\u2028", h.address, h.cidr⟩
  let e : EdgeEvent := .delete edge
  let s : List Char := spread [' '] (objectPieces e.parts.reverse)
  let body : List Char := spread [' ', '\n'] (hostsPieces [h, ⟨"", ""⟩])
  let reply : HttpReply := ⟨200, Utf8.encode body⟩
  obtain ⟨hhost, hedge, hevent, hregister⟩ := records_round_trip
  have hs : Spread (objectPieces e.parts.reverse) s := .of_blank (by decide) _
  have hbody : Spread (hostsPieces [h, ⟨"", ""⟩]) body := .of_blank (by decide) _
  obtain ⟨request, hrequest⟩ : ∃ request, registration controller edge = .ok request := ⟨_, rfl⟩
  exact ⟨h, edge, s, body, request, reply, rfl, rfl, by decide +kernel, hhost h, hedge edge,
    hevent e s (Or.inr hs), hbody, hrequest, rfl,
    hregister _ body (fun _ => .ok reply) controller edge request reply hbody hrequest rfl rfl rfl⟩

end Controller

end Overlay
