import Overlay.Controller.Address
import Overlay.Member.Edge
import Overlay.Text.Utf8

/-!
# The registry of the controller

The controller takes three calls: to register an edge, which answers with the hosts of the overlay, to
report a source that an edge has seen, and to unregister an edge. Each call is one exchange over HTTP.
A reply with a status from 200 to 299 is a success, and any other one an error that carries its body.

The hosts of a reply are a record with one field, which may be missing.
-/

namespace Overlay

/-- Why a call to the registry failed. -/
inductive RegistryError where
  /-- The exchange failed, or the reply cannot be understood. -/
  | http (reason : String)
  /-- There is no address for the call. -/
  | url (reason : UrlError)
  /-- The reply is no success. -/
  | status (code : Nat) (body : String)
deriving DecidableEq

/-- The text of the error. -/
def RegistryError.message : RegistryError → String
  | http reason => "HTTP error: " ++ reason
  | url reason => Controller.urlMessage reason
  | status code body => "registry returned " ++ toString code ++ ": " ++ body

/-- What a request does to its resource. -/
inductive HttpMethod where
  /-- Reads it. -/
  | get
  /-- Adds to it. -/
  | post
  /-- Removes it. -/
  | delete
deriving DecidableEq

/-- A request over HTTP. -/
structure HttpRequest where
  /-- What is done. -/
  method : HttpMethod
  /-- To what it is done. -/
  url : Url
  /-- The body, in JSON. -/
  body : Option (List Char) := none
deriving DecidableEq

/-- A reply over HTTP. -/
structure HttpReply where
  /-- The status. -/
  status : Nat
  /-- The body. -/
  body : List UInt8
deriving DecidableEq

namespace HttpReply

/-- Does the status say that the request succeeded? -/
def isSuccess (r : HttpReply) : Bool := 200 ≤ r.status && r.status < 300

/-- The body of a success. -/
def content (r : HttpReply) : Except RegistryError (List UInt8) :=
  if r.isSuccess then .ok r.body
  else .error (.status r.status (String.ofList (Utf8.decodeLossy r.body)))

/-- The hosts that a JSON value lists. -/
def hostsOfJson? (j : Json) : Option (List Host) :=
  match Json.record? ["hosts".toList] j with
  | some [some (.array items)] => Host.listOfJson? items
  | some [none] => some []
  | _ => none

/-- The hosts that the reply lists. -/
def hosts (r : HttpReply) : Except RegistryError (List Host) :=
  match r.content with
  | .error e => .error e
  | .ok body =>
    match ((Utf8.decode? body).bind Json.read?).bind hostsOfJson? with
    | some hosts => .ok hosts
    | none => .error (.http "error decoding response body")

end HttpReply

namespace Controller

/-- How a request is exchanged for a reply. It fails with a text. -/
abbrev Exchange := HttpRequest → Except String HttpReply

/-- The request that registers an edge. -/
def registration (base : Url) (e : Edge) : Except UrlError HttpRequest :=
  (edgesUrl base).map fun url => ⟨.post, url, some e.toJsonText⟩

/-- The request that reports a source of the named edge. -/
def sighting (base : Url) (name : String) (a : Ipv4) : Except UrlError HttpRequest :=
  (edgeUrl base name ["report"]).map fun url =>
    ⟨.post, url, some (Json.recordText [("addr", toString a)])⟩

/-- The request that unregisters the named edge. -/
def removal (base : Url) (name : String) : Except UrlError HttpRequest :=
  (edgeUrl base name []).map fun url => ⟨.delete, url, none⟩

/-- Makes a request, if it has an address. -/
def exchange (via : Exchange) : Except UrlError HttpRequest → Except RegistryError HttpReply
  | .error e => .error (.url e)
  | .ok r =>
    match via r with
    | .error reason => .error (.http reason)
    | .ok reply => .ok reply

/-- Makes a request whose reply has to be a success. -/
def carryOut (via : Exchange) (r : Except UrlError HttpRequest) : Except RegistryError Unit :=
  match exchange via r with
  | .error e => .error e
  | .ok reply => reply.content.map fun _ => ()

/-- Registers an edge: the hosts of the overlay. -/
def register (via : Exchange) (base : Url) (e : Edge) : Except RegistryError (List Host) :=
  match exchange via (registration base e) with
  | .error e => .error e
  | .ok reply => reply.hosts

/-- Reports a source of the named edge. -/
def report (via : Exchange) (base : Url) (name : String) (a : Ipv4) : Except RegistryError Unit :=
  carryOut via (sighting base name a)

/-- Unregisters the named edge. -/
def unregister (via : Exchange) (base : Url) (name : String) : Except RegistryError Unit :=
  carryOut via (removal base name)

end Controller

end Overlay
