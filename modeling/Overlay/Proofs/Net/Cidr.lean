import Overlay.Config.Basic
import Overlay.Proofs.Net.Grammar
import Overlay.Proofs.Net.Subnet

/-!
# Networks and their texts

A text that names a subnet is read as its network.  This has the length of the prefix and the
bits in front that were written, and no bits of hosts (`Subnet.Truncates`), so that two texts are
read as the same network exactly when their subnets share the prefix (`Subnet.network_eq_iff`).

A subnet that is written down in CIDR notation is read back as its network
(`Cidr.read_toString`), and a network as itself.
-/

namespace Overlay

namespace Subnet

/-! ## Networks of subnets -/

/-- The network of a subnet: the length of the prefix and the bits in front are kept, and there
    are no bits of hosts. -/
structure Truncates (n x : Subnet) : Prop where
  /-- The prefix is as long as it was. -/
  length : n.length = x.length
  /-- The bits that name the network are the same. -/
  leading : ∀ i, 32 - x.length ≤ i → n.address.toNat.testBit i = x.address.toNat.testBit i
  /-- The bits that are left to the hosts are zero. -/
  hosts : ∀ i, i < 32 - x.length → n.address.toNat.testBit i = false

/-- The prefixes have the same length and the same bits. -/
def SharesPrefix (x y : Subnet) : Prop :=
  x.length = y.length ∧
    ∀ i, 32 - x.length ≤ i → x.address.toNat.testBit i = y.address.toNat.testBit i

theorem network_truncates (x : Subnet) : x.network.Truncates x where
  length := rfl
  leading i hi := by
    rw [network_address, testBit_first, decide_eq_true hi, Bool.true_and]
  hosts i hi := by
    rw [network_address, testBit_first, decide_eq_false (Nat.not_le_of_lt hi), Bool.false_and]

/-- **Two subnets have the same network exactly when they share the prefix.** -/
theorem network_eq_iff {x y : Subnet} : x.network = y.network ↔ x.SharesPrefix y := by
  constructor
  · intro h
    have hlength : x.network.length = y.network.length := congrArg Subnet.length h
    refine ⟨hlength, fun i hi => ?_⟩
    rw [← x.network_truncates.leading i hi, ← y.network_truncates.leading i ?_, h]
    exact hlength ▸ hi
  · rintro ⟨hlength, hleading⟩
    have hfirst : x.first = y.first := by
      refine Nat.eq_of_testBit_eq fun i => ?_
      rw [testBit_first, testBit_first, ← hlength]
      by_cases hi : 32 - x.length ≤ i
      · rw [hleading i hi]
      -- a bit of the hosts, which both networks have cleared
      · rw [decide_eq_false hi, Bool.false_and, Bool.false_and]
    rw [network, network, Subnet.mk.injEq]
    exact ⟨Ipv4.ext hfirst, hlength⟩

end Subnet

/-! ## Reading a network -/

namespace Cidr

theorem read_of_read? {s : String} {n : Subnet} (h : read? s.toList = some n) : read s = .ok n := by
  rw [read, h]

theorem read_of_names {s : String} {x : Subnet} (h : Subnet.Names s.toList x) :
    read s = .ok x.network := by
  refine read_of_read? ?_
  rw [read?, Subnet.names_iff.mpr h, Option.map_some]

/-- A text that names no subnet is refused, and it is quoted with the blanks around it. -/
theorem read_of_not_names {s : String} (h : ¬ ∃ x, Subnet.Names s.toList x) :
    read s = .error ⟨s⟩ := by
  have hnone : Subnet.ofText? (Text.trim s.toList) = none :=
    Option.eq_none_iff_forall_ne_some.mpr fun x hx => h ⟨x, Subnet.names_iff.mp hx⟩
  rw [read, read?, hnone]
  rfl

/-- **A subnet that was written down is read as its network.** -/
theorem read_toString (n : Subnet) : read (toString n) = .ok n.network := by
  have htext : (toString n).toList = n.toText := String.toList_ofList
  exact read_of_names (htext ▸ n.names_toText)

theorem read_network {x : Subnet} : read (toString x.network) = .ok x.network := by
  rw [read_toString, Subnet.network_network]

/-- **Networks are read by their grammar.**  A text is accepted exactly when, without the blanks
    at its ends, it is in CIDR notation; otherwise the error holds the text as it was given.  The
    network that is read has the length and the leading bits of the subnet that was written and
    no bits of hosts, and what it is printed as is read as the same network.  Two accepted
    texts are read as one network exactly when their subnets share the prefix, and the
    network under which an edge is made known is that of its address in the overlay. -/
theorem read_exactly :
    (∀ s : String,
      ((∃ n, read s = .ok n) ↔ ∃ x, Subnet.Names s.toList x) ∧
      (∀ x, Subnet.Names s.toList x →
        ∃ n, read s = .ok n ∧ n.Truncates x ∧ read (toString n) = .ok n) ∧
      ((¬ ∃ x, Subnet.Names s.toList x) → read s = .error ⟨s⟩)) ∧
    (∀ (s t : String) (x y : Subnet), Subnet.Names s.toList x → Subnet.Names t.toList y →
      ((∃ n, read s = .ok n ∧ read t = .ok n) ↔ x.SharesPrefix y)) ∧
    ∀ c : Config, ∃ n, read c.localEdge.cidr = .ok n ∧ n.Truncates c.tunnel.address := by
  refine ⟨fun s => ⟨⟨?_, ?_⟩, ?_, read_of_not_names⟩, ?_, ?_⟩
  · rintro ⟨n, hn⟩
    by_contra hno
    rw [read_of_not_names hno] at hn
    exact nomatch hn
  · rintro ⟨x, hx⟩
    exact ⟨x.network, read_of_names hx⟩
  · intro x hx
    exact ⟨x.network, read_of_names hx, x.network_truncates, read_network⟩
  · intro s t x y hx hy
    rw [← Subnet.network_eq_iff, read_of_names hx, read_of_names hy]
    constructor
    · rintro ⟨n, hs, ht⟩
      exact (Except.ok.inj hs).trans (Except.ok.inj ht).symm
    · intro h
      exact ⟨x.network, rfl, congrArg Except.ok h.symm⟩
  · intro c
    exact ⟨c.tunnel.address.network, read_network, c.tunnel.address.network_truncates⟩

/-- Zeros in front, blanks around and other bits of hosts do not matter. -/
theorem read_exactly_of_spellings :
    (∃ n, read "\t010.0.1.7/24\n" = .ok n ∧
      n.Truncates ⟨.ofOctets 10 0 1 7, 24, by decide⟩ ∧ read (toString n) = .ok n) ∧
    ∃ n, read "\t010.0.1.7/24\n" = .ok n ∧ read "10.0.1.200/24" = .ok n := by
  have hseven : Subnet.Names "\t010.0.1.7/24\n".toList ⟨.ofOctets 10 0 1 7, 24, by decide⟩ :=
    Subnet.names_iff.mp (by decide +kernel)
  have hother : Subnet.Names "10.0.1.200/24".toList ⟨.ofOctets 10 0 1 200, 24, by decide⟩ :=
    Subnet.names_iff.mp (by decide +kernel)
  constructor
  · exact (read_exactly.1 _).2.1 _ hseven
  · refine (read_exactly.2.1 _ _ _ _ hseven hother).mpr ?_
    exact Subnet.network_eq_iff.mp (by decide +kernel)

end Cidr

end Overlay
