import Overlay.Net.Ipv4

/-!
# IPv4 subnets

A subnet is an address together with a prefix length. Its address may have host bits, which are kept
until `network` clears them: two subnets are the same only when all of their bits are. The subnet
owns the addresses from `first` to `last`, and these ranges are what containment compares.

The text is CIDR notation: an address whose octets have one to three digits, a slash, and a prefix
length of one or two digits.
-/

namespace Overlay

/-- An IPv4 address with a prefix length. -/
structure Subnet where
  /-- The address, host bits included. -/
  address : Ipv4
  /-- The number of leading bits that name the network. -/
  length : Nat
  /-- An address has no more bits to name it with. -/
  length_le : length ≤ 32
deriving DecidableEq

namespace Subnet

/-- The number of addresses in the subnet. -/
def size (n : Subnet) : Nat := Nat.pow 2 (32 - n.length)

theorem size_pos (n : Subnet) : 0 < n.size := Nat.two_pow_pos _

/-- The least address of the subnet, as a number: the host bits are zero. -/
def first (n : Subnet) : Nat := n.address.toNat / n.size * n.size

/-- The greatest address of the subnet, as a number: the host bits are one. -/
def last (n : Subnet) : Nat := n.first + (n.size - 1)

theorem first_le (n : Subnet) : n.first ≤ n.address.toNat := Nat.div_mul_le_self _ _

theorem first_lt (n : Subnet) : n.first < 0x100000000 :=
  Nat.lt_of_le_of_lt n.first_le n.address.toNat_lt

/-- The subnet with its host bits cleared. -/
def network (n : Subnet) : Subnet := { n with address := ⟨n.first, n.first_lt⟩ }

@[simp] theorem network_length (n : Subnet) : n.network.length = n.length := rfl

@[simp] theorem network_size (n : Subnet) : n.network.size = n.size := rfl

@[simp] theorem network_address (n : Subnet) : n.network.address.toNat = n.first := rfl

@[simp] theorem network_first (n : Subnet) : n.network.first = n.first := by
  have h : n.network.first = n.first / n.size * n.size := rfl
  rw [h]
  unfold first
  rw [Nat.mul_div_cancel _ n.size_pos]

@[simp] theorem network_network (n : Subnet) : n.network.network = n.network := by
  have h := n.network_first
  unfold network at h ⊢
  simp only [Subnet.mk.injEq, and_true]
  exact Ipv4.ext h

/-- Does the address agree with the subnet on the bits that name the network? -/
def owns (n : Subnet) (a : Ipv4) : Bool := (Subnet.mk a n.length n.length_le).first = n.first

/-- Is every address of the second subnet one of the first? -/
def contains (n m : Subnet) : Bool := n.first ≤ m.first ∧ m.last ≤ n.last

/-- Order by address and then by prefix length. -/
def le (n m : Subnet) : Bool :=
  n.address.toNat < m.address.toNat ∨ (n.address.toNat = m.address.toNat ∧ n.length ≤ m.length)

/-- The subnet in CIDR notation, host bits included. -/
def toText (n : Subnet) : List Char :=
  n.address.toText ++ '/' :: Numeral.decimal n.length

instance : ToString Subnet := ⟨fun n => String.ofList n.toText⟩

/-- A prefix length of one or two digits. -/
def length? (s : List Char) : Option { k : Nat // k ≤ 32 } :=
  if s.length ≤ 2 then
    match Numeral.decimal? s with
    | some k => if h : k ≤ 32 then some ⟨k, h⟩ else none
    | none => none
  else none

/-- Reads CIDR notation, and nothing around it. -/
def ofText? (s : List Char) : Option Subnet :=
  match Text.cutFirst? '/' s with
  | none => none
  | some (address, length) =>
    match Ipv4.ofText? Ipv4.octet? address, length? length with
    | some a, some ⟨k, h⟩ => some ⟨a, k, h⟩
    | _, _ => none

end Subnet

end Overlay
