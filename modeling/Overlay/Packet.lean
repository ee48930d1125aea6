import Overlay.Net.Ipv4

/-!
# IPv4 packets

A packet is the bytes of one raw IPv4 datagram. `validate` checks what has to hold before the header
is believed: enough bytes for the smallest header, version four, a header that fits, and a total
length that covers the header and fits. Bytes past the total length are allowed.

The readers of header fields look at fixed positions, whether the packet is valid or not, and give
nothing when the bytes end before them.
-/

namespace Overlay

/-- The bytes of a packet. -/
abbrev Packet := List UInt8

/-- Why a packet is refused. -/
inductive PacketError where
  /-- There are fewer bytes than the smallest header has. -/
  | tooShort (size : Nat)
  /-- The version is not four. -/
  | version (version : Nat)
  /-- The header is shorter than the smallest one or longer than the packet. -/
  | headerLength (header : Nat)
  /-- The total length is less than the header or more than the packet. -/
  | totalLength (total header size : Nat)
deriving DecidableEq

/-- The text of the error. -/
def PacketError.message : PacketError → String
  | tooShort size => s!"buffer too short: {size} bytes"
  | version v => s!"not an IPv4 packet (version {v})"
  | headerLength header => s!"invalid header length: {header} bytes"
  | totalLength total header size =>
    s!"total length {total} inconsistent with header {header} and buffer {size}"

namespace Packet

/-- The number of bytes of the smallest header. -/
def minHeader : Nat := 20

/-- The byte at a position. -/
def byte? (p : Packet) (i : Nat) : Option Nat := p[i]?.map UInt8.toNat

/-- The version: the upper half of the first byte. -/
def version? (p : Packet) : Option Nat := (p.byte? 0).map (· / 16)

/-- The length of the header: four times the lower half of the first byte. -/
def headerLength? (p : Packet) : Option Nat := (p.byte? 0).map (· % 16 * 4)

/-- The total length: two bytes at position two. -/
def totalLength? (p : Packet) : Option Nat :=
  match p.byte? 2, p.byte? 3 with
  | some h, some l => some (h * 256 + l)
  | _, _ => none

/-- The protocol: the byte at position nine. -/
def protocol? (p : Packet) : Option Nat := p.byte? 9

/-- The four bytes from a position, as an address. -/
def address? (p : Packet) (i : Nat) : Option Ipv4 :=
  match p[i]?, p[i + 1]?, p[i + 2]?, p[i + 3]? with
  | some a, some b, some c, some d => some (Ipv4.ofOctets a b c d)
  | _, _, _, _ => none

/-- The source address: four bytes at position twelve. -/
def source? (p : Packet) : Option Ipv4 := p.address? 12

/-- The destination address: four bytes at position sixteen. -/
def destination? (p : Packet) : Option Ipv4 := p.address? 16

/-- Checks a packet. The first check that fails gives the error. -/
def validate (p : Packet) : Except PacketError Unit :=
  match p.version?, p.headerLength?, p.totalLength? with
  | some version, some header, some total =>
    if p.length < minHeader then .error (.tooShort p.length)
    else if version ≠ 4 then .error (.version version)
    else if header < minHeader ∨ p.length < header then .error (.headerLength header)
    else if total < header ∨ p.length < total then .error (.totalLength total header p.length)
    else .ok ()
  | _, _, _ => .error (.tooShort p.length)

/-- Is the packet to be dropped? -/
def invalid (p : Packet) : Bool :=
  match p.validate with
  | .ok _ => false
  | .error _ => true

end Packet

end Overlay
