import Mathlib.Data.Nat.Bitwise
import Overlay.Net.Subnet

/-!
# The addresses of a subnet

That an address agrees with a subnet on the bits that name the network is the same as that
it lies between the first and the last address of the subnet.  These two are what the masks
of the prefix make of the subnet's address: the one clears the bits of the hosts
(`first_eq_base`), the other sets them (`last_eq_broadcast`).

Two subnets that share an address lie one inside the other.
-/

namespace Overlay.Subnet

/-- The address is one of the subnet's. -/
def Covers (n : Subnet) (a : Ipv4) : Prop := n.first ≤ a.toNat ∧ a.toNat ≤ n.last

/-- **A subnet owns the addresses of its range.** -/
theorem owns_iff_covers {n : Subnet} {a : Ipv4} : n.owns a = true ↔ n.Covers a := by
  have hpos : 0 < n.size := n.size_pos
  have hmasked : (Subnet.mk a n.length n.length_le).first = a.toNat / n.size * n.size := rfl
  have hfirst : n.first = n.address.toNat / n.size * n.size := rfl
  rw [owns, decide_eq_true_eq, Covers, last, hmasked, hfirst]
  constructor
  · intro heq
    have hsplit : a.toNat / n.size * n.size + a.toNat % n.size = a.toNat := Nat.div_add_mod' _ _
    have hmod : a.toNat % n.size < n.size := Nat.mod_lt _ hpos
    omega
  · rintro ⟨hleast, hgreatest⟩
    -- the address has the same quotient, since it is within one size of the first address
    have hlt : a.toNat < (n.address.toNat / n.size + 1) * n.size := by
      rw [Nat.add_mul, Nat.one_mul]
      omega
    rw [Nat.div_eq_of_lt_le hleast hlt]

/-! ## The masks -/

/-- The bits that name the network, as a number of thirty-two bits. -/
def netmask (n : Subnet) : Nat := (0xFFFFFFFF <<< (32 - n.length)) % 2 ^ 32

/-- The bits that are left to the hosts. -/
def hostmask (n : Subnet) : Nat := 0xFFFFFFFF >>> n.length

/-- The network address of the subnet: the bits of the hosts are cleared. -/
def base (n : Subnet) : Nat := n.address.toNat &&& n.netmask

/-- The broadcast address of the subnet: the bits of the hosts are set. -/
def broadcast (n : Subnet) : Nat := n.address.toNat ||| n.hostmask

/-- The address lies between the network address and the broadcast address of the subnet. -/
def Spans (n : Subnet) (a : Ipv4) : Prop := n.base ≤ a.toNat ∧ a.toNat ≤ n.broadcast

theorem testBit_full (i : Nat) : Nat.testBit 0xFFFFFFFF i = decide (i < 32) :=
  Nat.testBit_two_pow_sub_one 32 i

/-- The first address has the bits that name the network, and no others. -/
theorem testBit_first (n : Subnet) (i : Nat) :
    n.first.testBit i = (decide (32 - n.length ≤ i) && n.address.toNat.testBit i) := by
  have hfirst : n.first = n.address.toNat / 2 ^ (32 - n.length) * 2 ^ (32 - n.length) := rfl
  rw [hfirst, Nat.testBit_mul_two_pow]
  by_cases hi : 32 - n.length ≤ i
  · rw [Nat.testBit_div_two_pow, Nat.sub_add_cancel hi]
  · rw [decide_eq_false hi, Bool.false_and, Bool.false_and]

/-- **The first address is the network address**: the address under the mask of the network. -/
theorem first_eq_base (n : Subnet) : n.first = n.base := by
  refine Nat.eq_of_testBit_eq fun i => ?_
  rw [testBit_first, base, Nat.testBit_and, netmask, Nat.testBit_mod_two_pow,
    Nat.testBit_shiftLeft, testBit_full]
  by_cases hi : i < 32
  · have hlow : i - (32 - n.length) < 32 := Nat.lt_of_le_of_lt (Nat.sub_le _ _) hi
    rw [decide_eq_true hi, decide_eq_true hlow, Bool.true_and, Bool.and_true, Bool.and_comm]
  · -- an address has no more than thirty-two bits
    have habove : n.address.toNat.testBit i = false :=
      Nat.testBit_lt_two_pow (Nat.lt_of_lt_of_le n.address.toNat_lt
        (Nat.pow_le_pow_right Nat.two_pos (Nat.le_of_not_lt hi)))
    rw [habove, Bool.and_false, Bool.false_and]

/-- **The last address is the broadcast address**: the address with the bits of the hosts set. -/
theorem last_eq_broadcast (n : Subnet) : n.last = n.broadcast := by
  have hlast : n.last = n.first ||| (2 ^ (32 - n.length) - 1) := by
    have hfirst : n.first = 2 ^ (32 - n.length) * (n.address.toNat / n.size) := Nat.mul_comm _ _
    rw [last, hfirst]
    exact Nat.two_pow_add_eq_or_of_lt (Nat.sub_lt n.size_pos Nat.one_pos) _
  refine Nat.eq_of_testBit_eq fun i => ?_
  rw [hlast, Nat.testBit_or, testBit_first, Nat.testBit_two_pow_sub_one, broadcast, Nat.testBit_or,
    hostmask, Nat.testBit_shiftRight, testBit_full]
  have hlength := n.length_le
  by_cases hi : i < 32 - n.length
  · rw [decide_eq_true hi, decide_eq_true (by omega : n.length + i < 32), Bool.or_true,
      Bool.or_true]
  · rw [decide_eq_false hi, decide_eq_false (by omega : ¬ n.length + i < 32),
      decide_eq_true (Nat.le_of_not_lt hi), Bool.true_and]

/-- A subnet owns the addresses between its network address and its broadcast address. -/
theorem owns_iff_spans {n : Subnet} {a : Ipv4} : n.owns a = true ↔ n.Spans a := by
  rw [owns_iff_covers, Covers, Spans, first_eq_base, last_eq_broadcast]

/-! ## Two subnets -/

/-- The first address is what clearing the bits of the hosts makes of any address of the
    subnet. -/
theorem first_of_covers {n : Subnet} {a : Ipv4} (h : n.Covers a) :
    n.first = a.toNat / n.size * n.size := by
  have howns := owns_iff_covers.mpr h
  exact (of_decide_eq_true howns).symm

/-- A subnet contains another one that shares an address with it and has no shorter prefix. -/
theorem contains_of_covers {n m : Subnet} {a : Ipv4} (hlength : n.length ≤ m.length)
    (hn : n.Covers a) (hm : m.Covers a) : n.contains m = true := by
  obtain ⟨k, hsize⟩ : ∃ k, n.size = m.size * k := by
    refine ⟨2 ^ (m.length - n.length), ?_⟩
    have hexponent : 32 - n.length = 32 - m.length + (m.length - n.length) := by
      have hle := m.length_le
      omega
    show 2 ^ (32 - n.length) = 2 ^ (32 - m.length) * 2 ^ (m.length - n.length)
    rw [← Nat.pow_add, ← hexponent]
  -- the wider subnet consists of `k` blocks of the size of the narrower one
  have hk : 0 < k := Nat.pos_of_mul_pos_left (hsize ▸ n.size_pos)
  let q := a.toNat / m.size
  have hfirst : n.first = q / k * k * m.size := by
    rw [first_of_covers hn, hsize, ← Nat.div_div_eq_div_mul, Nat.mul_comm m.size k, Nat.mul_assoc]
  have hle : q / k * k * m.size ≤ q * m.size := Nat.mul_le_mul_right _ (Nat.div_mul_le_self q k)
  have hlt : q * m.size + m.size ≤ q / k * k * m.size + n.size := by
    have hblock : q + 1 ≤ q / k * k + k := by
      have hmod := Nat.mod_lt q hk
      have hsplit := Nat.div_add_mod' q k
      omega
    calc q * m.size + m.size = (q + 1) * m.size := (Nat.succ_mul q m.size).symm
      _ ≤ (q / k * k + k) * m.size := Nat.mul_le_mul_right _ hblock
      _ = q / k * k * m.size + n.size := by rw [Nat.add_mul, hsize, Nat.mul_comm k]
  have hpos := m.size_pos
  refine decide_eq_true ⟨?_, ?_⟩
  · rw [hfirst, first_of_covers hm]
    exact hle
  · rw [last, last, hfirst, first_of_covers hm]
    show q * m.size + (m.size - 1) ≤ _
    omega

/-- **Two subnets that share an address lie one inside the other.** -/
theorem contains_or_contains_of_covers {n m : Subnet} {a : Ipv4} (hn : n.Covers a)
    (hm : m.Covers a) : n.contains m = true ∨ m.contains n = true := by
  rcases Nat.le_total n.length m.length with hle | hle
  · exact Or.inl (contains_of_covers hle hn hm)
  · exact Or.inr (contains_of_covers hle hm hn)

theorem last_lt (n : Subnet) : n.last < 0x100000000 := by
  rw [last_eq_broadcast]
  exact Nat.or_lt_two_pow (n := 32) n.address.toNat_lt
    (Nat.lt_of_le_of_lt (Nat.shiftRight_le _ _) (by decide))

theorem covers_first (n : Subnet) : n.Covers ⟨n.first, n.first_lt⟩ :=
  ⟨Nat.le_refl _, Nat.le_add_right _ _⟩

theorem covers_last (n : Subnet) : n.Covers ⟨n.last, n.last_lt⟩ :=
  ⟨Nat.le_add_right _ _, Nat.le_refl _⟩

/-- A subnet has all the addresses of the subnets that it contains. -/
theorem covers_of_contains {n m : Subnet} {a : Ipv4} (h : n.contains m = true) (ha : m.Covers a) :
    n.Covers a := by
  obtain ⟨hfirst, hlast⟩ := of_decide_eq_true h
  exact ⟨Nat.le_trans hfirst ha.1, Nat.le_trans ha.2 hlast⟩

/-- Two subnets lie one inside the other exactly when they share an address. -/
theorem contains_or_contains_iff {n m : Subnet} :
    n.contains m = true ∨ m.contains n = true ↔ ∃ a, n.Covers a ∧ m.Covers a := by
  constructor
  · rintro (h | h)
    · exact ⟨_, covers_of_contains h m.covers_first, m.covers_first⟩
    · exact ⟨_, n.covers_first, covers_of_contains h n.covers_first⟩
  · rintro ⟨a, hn, hm⟩
    exact contains_or_contains_of_covers hn hm

/-! ## Networks -/

/-- **A network is known by its addresses**: two subnets without host bits that have the same
    addresses are the same. -/
theorem eq_of_covers_iff {n m : Subnet} (hn : n.network = n) (hm : m.network = m)
    (h : ∀ a, n.Covers a ↔ m.Covers a) : n = m := by
  have hfirst : n.first = m.first :=
    Nat.le_antisymm ((h _).mpr m.covers_first).1 ((h _).mp n.covers_first).1
  have hlast : n.last = m.last :=
    Nat.le_antisymm ((h _).mp n.covers_last).2 ((h _).mpr m.covers_last).2
  have hsize : n.size = m.size := by
    have hpos := n.size_pos
    have hpos' := m.size_pos
    rw [last, last, hfirst] at hlast
    omega
  have hlength : n.length = m.length := by
    have hexponent := Nat.pow_right_injective (Nat.le_refl 2) hsize
    have hle := n.length_le
    have hle' := m.length_le
    omega
  have haddress : n.address = m.address := by
    rw [← hn, ← hm]
    exact Ipv4.ext hfirst
  cases n
  cases m
  cases hlength
  cases haddress
  rfl

end Overlay.Subnet
