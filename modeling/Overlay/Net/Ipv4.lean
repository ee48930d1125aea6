import Overlay.Text.Numeral
import Overlay.Text.Split

/-!
# IPv4 addresses

An address is a number below 2³², the first octet being the most significant. Its text is four
decimal octets with dots between them. Two grammars of octets are in use: network notation takes one
to three digits, leading zeros included; the notation of endpoints takes no leading zero.
-/

namespace Overlay

/-- An IPv4 address. -/
structure Ipv4 where
  /-- The address as a number. -/
  toNat : Nat
  /-- An address has thirty-two bits. -/
  toNat_lt : toNat < 0x100000000
deriving DecidableEq

namespace Ipv4

/-- The address with the given four octets. -/
def ofOctets (a b c d : UInt8) : Ipv4 where
  toNat := a.toNat * 0x1000000 + b.toNat * 0x10000 + c.toNat * 0x100 + d.toNat
  toNat_lt := by
    have ha := a.toNat_lt
    have hb := b.toNat_lt
    have hc := c.toNat_lt
    have hd := d.toNat_lt
    omega

/-- The address with the given number, taken modulo 2³². -/
def ofNat (n : Nat) : Ipv4 := ⟨n % 0x100000000, Nat.mod_lt _ (by decide)⟩

/-- The four octets, the most significant first. -/
def octets (a : Ipv4) : List Nat :=
  [a.toNat / 0x1000000, a.toNat / 0x10000 % 256, a.toNat / 0x100 % 256, a.toNat % 256]

/-- The address in dotted decimal notation. -/
def toText (a : Ipv4) : List Char :=
  Text.join ['.'] (a.octets.map Numeral.decimal)

instance : ToString Ipv4 := ⟨fun a => String.ofList a.toText⟩

instance : Inhabited Ipv4 := ⟨⟨0, by decide⟩⟩

/-- An octet of one to three decimal digits, leading zeros included. -/
def octet? (s : List Char) : Option UInt8 :=
  if s.length ≤ 3 then
    match Numeral.decimal? s with
    | some n => if n ≤ 255 then some (UInt8.ofNat n) else none
    | none => none
  else none

/-- An octet without leading zeros. -/
def plainOctet? (s : List Char) : Option UInt8 :=
  if s.length ≠ 1 ∧ s.head? = some '0' then none else octet? s

/-- Reads four octets with dots between them. -/
def ofText? (octet : List Char → Option UInt8) (s : List Char) : Option Ipv4 :=
  match Text.split '.' s with
  | [a, b, c, d] =>
    match octet a, octet b, octet c, octet d with
    | some a, some b, some c, some d => some (ofOctets a b c d)
    | _, _, _, _ => none
  | _ => none

/-- Reads an address in dotted decimal notation without leading zeros. -/
def ofPlainText? (s : List Char) : Option Ipv4 := ofText? plainOctet? s

@[ext] theorem ext {a b : Ipv4} (h : a.toNat = b.toNat) : a = b := by
  cases a
  cases b
  simpa using h

end Ipv4

end Overlay
