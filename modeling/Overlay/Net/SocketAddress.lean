import Overlay.Net.Ipv6

/-!
# Socket addresses

A socket address is an IP address with a port. The text of an IPv6 address stands in brackets,
followed inside them by a percent sign and the scope when that is not zero. Octets have no leading
zeros; ports and scopes may have any number of them.

`Destination` is what a connection is asked for: a socket address, or a name and a port that
somebody has to look up.
-/

namespace Overlay

/-- An IP address with a port. -/
inductive SocketAddress where
  /-- An IPv4 address and a port. -/
  | v4 (address : Ipv4) (port : UInt16)
  /-- An IPv6 address, a port and a scope. -/
  | v6 (address : Ipv6) (port : UInt16) (scope : UInt32)
deriving DecidableEq

/-- A decimal port: digits only, leading zeros included, at most 65535. -/
def port? (s : List Char) : Option UInt16 :=
  match Numeral.decimal? s with
  | some n => if n < 65536 then some (UInt16.ofNat n) else none
  | none => none

namespace SocketAddress

/-- The port. -/
def port : SocketAddress → UInt16
  | v4 _ p => p
  | v6 _ p _ => p

/-- The text of a socket address. -/
def toText : SocketAddress → List Char
  | v4 a p => a.toText ++ ':' :: Numeral.decimal p.toNat
  | v6 a p scope =>
    let zone := if scope = 0 then [] else '%' :: Numeral.decimal scope.toNat
    ['['] ++ a.toTextMapped ++ zone ++ [']', ':'] ++ Numeral.decimal p.toNat

instance : ToString SocketAddress := ⟨fun a => String.ofList a.toText⟩

/-- A decimal scope of at most 32 bits. -/
def scope? (s : List Char) : Option UInt32 :=
  match Numeral.decimal? s with
  | some n => if n < 4294967296 then some (UInt32.ofNat n) else none
  | none => none

/-- Reads an IPv4 address, a colon and a port. -/
def ofV4Text? (s : List Char) : Option SocketAddress :=
  match Text.cutFirst? ':' s with
  | some (address, port) =>
    match Ipv4.ofPlainText? address, port? port with
    | some a, some p => some (v4 a p)
    | _, _ => none
  | none => none

/-- An IPv6 address and its scope, zero when none is written. -/
def zoned? (s : List Char) : Option (Ipv6 × UInt32) :=
  match Text.cutFirst? '%' s with
  | none => (Ipv6.ofText? s).map (·, 0)
  | some (address, scope) =>
    match Ipv6.ofText? address, scope? scope with
    | some a, some k => some (a, k)
    | _, _ => none

/-- Reads an IPv6 address in brackets, a colon and a port. -/
def ofV6Text? : List Char → Option SocketAddress
  | '[' :: s =>
    match Text.cutFirst? ']' s with
    | some (inside, ':' :: port) =>
      match zoned? inside, port? port with
      | some (a, k), some p => some (v6 a p k)
      | _, _ => none
    | _ => none
  | _ => none

/-- Reads a socket address. -/
def ofText? (s : List Char) : Option SocketAddress :=
  match ofV4Text? s with
  | some a => some a
  | none => ofV6Text? s

/-- What is said of a text that is no socket address. -/
def syntaxMessage : String := "invalid socket address syntax"

end SocketAddress

/-- Where a connection is to go. -/
inductive Destination where
  /-- A socket address. -/
  | address (a : SocketAddress)
  /-- A name to look up, and a port. -/
  | name (host : String) (port : UInt16)
deriving DecidableEq

/-- Why a text names no destination. -/
inductive DestinationError where
  /-- There is no colon in it. -/
  | noPort
  /-- What follows the last colon is no port. -/
  | badPort
deriving DecidableEq

namespace Destination

/-- A port after a name: a plus sign may stand before the digits. -/
def namedPort? : List Char → Option UInt16
  | '+' :: s => port? s
  | s => port? s

/-- Reads a destination. What is not a socket address is cut at its last colon. -/
def ofText (s : List Char) : Except DestinationError Destination :=
  match SocketAddress.ofText? s with
  | some a => .ok (address a)
  | none =>
    match Text.cutLast? ':' s with
    | none => .error .noPort
    | some (host, port) =>
      match namedPort? port with
      | some p => .ok (name (String.ofList host) p)
      | none => .error .badPort

end Destination

/-- The text of an error about a destination. -/
def DestinationError.message : DestinationError → String
  | noPort => "invalid socket address"
  | badPort => "invalid port value"

end Overlay
