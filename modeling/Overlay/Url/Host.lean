import Overlay.Net.Ipv6
import Overlay.Domain.Ascii
import Overlay.Url.Percent

/-!
# Hosts of URLs

The host of a URL is a name or an IP address. In URLs with a special scheme a name is a domain: it is
decoded, brought into its ASCII form, and read as an IPv4 address when its last label is a number.
Other URLs take names as they are, if no character in them is forbidden.

`UrlError` collects all the reasons why a text is no URL.
-/

namespace Overlay

/-- Why a text is no URL. -/
inductive UrlError where
  /-- There is no host where one is needed. -/
  | emptyHost
  /-- The host has no ASCII form. -/
  | domain
  /-- The port is no number below 65536. -/
  | port
  /-- The host ends in a number but is no IPv4 address. -/
  | ipv4
  /-- The host stands in brackets but is no IPv6 address. -/
  | ipv6
  /-- The host has a forbidden character. -/
  | domainCharacter
  /-- There is no scheme. -/
  | noScheme
  /-- A path is to be resolved against a URL that has none. -/
  | noHierarchy
deriving DecidableEq

/-- The text of the error. -/
def UrlError.message : UrlError → String
  | emptyHost => "empty host"
  | domain => "invalid international domain name"
  | port => "invalid port number"
  | ipv4 => "invalid IPv4 address"
  | ipv6 => "invalid IPv6 address"
  | domainCharacter => "invalid domain character"
  | noScheme => "relative URL without a base"
  | noHierarchy => "relative URL with a cannot-be-a-base base"

/-- The host of a URL. -/
inductive UrlHost where
  /-- There is no host. -/
  | empty
  /-- A domain, or a name that means something to the scheme alone. -/
  | name (s : List Char)
  /-- An IPv4 address. -/
  | ipv4 (a : Ipv4)
  /-- An IPv6 address, written in brackets. -/
  | ipv6 (a : Ipv6)
deriving DecidableEq

namespace UrlHost

/-- The host as it is written in a URL. -/
def toText : UrlHost → List Char
  | empty => []
  | name s => s
  | ipv4 a => a.toText
  | ipv6 a => '[' :: a.toText ++ [']']

/-- A part of an IPv4 address: hexadecimal after `0x`, octal after another leading zero, else
decimal. -/
def number? (s : List Char) : Option Nat :=
  match s with
  | '0' :: 'x' :: ds => if ds.isEmpty then some 0 else Numeral.hex? ds
  | '0' :: 'X' :: ds => if ds.isEmpty then some 0 else Numeral.hex? ds
  | '0' :: d :: ds => Numeral.based? 8 (d :: ds)
  | _ => Numeral.decimal? s

/-- The labels of a domain, without the empty one after a final dot. -/
def labels (s : List Char) : List (List Char) :=
  let parts := Text.split '.' s
  if 1 < parts.length ∧ parts.getLast? = some [] then parts.dropLast else parts

/-- Is the last label a number? -/
def endsInNumber (s : List Char) : Bool :=
  match (labels s).getLast? with
  | some l => (!l.isEmpty && l.all Numeral.isDigit) || (number? l).isSome
  | none => false

/-- The address of up to four numbers. Each but the last is an octet; the last one fills the octets
that are left. -/
def ipv4OfNumbers? : List Nat → Option Ipv4
  | ns =>
    match ns.reverse with
    | last :: front =>
      let k := front.length
      if k ≤ 3 ∧ last < Nat.pow 256 (4 - k) ∧ front.all (· ≤ 255) then
        some (Ipv4.ofNat (front.reverse.foldl (fun n b => n * 256 + b) 0 * Nat.pow 256 (4 - k) + last))
      else none
    | [] => none

/-- Reads the numbers of an IPv4 address. -/
def ipv4? (s : List Char) : Option Ipv4 := ((labels s).mapM number?).bind ipv4OfNumbers?

/-- Reads what stands after an opening bracket. -/
def bracketed (s : List Char) : Except UrlError UrlHost :=
  match s.reverse with
  | ']' :: inside =>
    match Ipv6.ofText? inside.reverse with
    | some a => .ok (ipv6 a)
    | none => .error .ipv6
  | _ => .error .ipv6

/-- Reads a host as a domain or an address. -/
def ofDomain (s : List Char) : Except UrlError UrlHost :=
  match s with
  | '[' :: rest => bracketed rest
  | _ =>
    match (Utf8.decode? (Percent.decode (Utf8.encode s))).bind Domain.toAscii? with
    | none => .error .domain
    | some d =>
      if d.isEmpty then .error .emptyHost
      else if endsInNumber d then
        match ipv4? d with
        | some a => .ok (ipv4 a)
        | none => .error .ipv4
      else .ok (name d)

/-- A character that no host contains. -/
def isForbidden (c : Char) : Bool :=
  ['\x00', '\t', '\n', '\r', ' ', '#', '/', ':', '<', '>', '?', '@', '[', '\\', ']', '^',
    '|'].contains c

/-- Reads a host whose name is taken as it is. -/
def ofName (s : List Char) : Except UrlError UrlHost :=
  match s with
  | [] => .ok empty
  | '[' :: rest => bracketed rest
  | _ =>
    if s.any isForbidden then .error .domainCharacter
    else .ok (name (Percent.encode Percent.isControl s))

/-- Reads the host of a file, which may be missing; this computer is the same as none. -/
def ofFileHost (s : List Char) : Except UrlError UrlHost :=
  if s.isEmpty then .ok empty
  else
    match ofDomain s with
    | .ok h => .ok (if h = name "localhost".toList then empty else h)
    | .error e => .error e

end UrlHost

end Overlay
