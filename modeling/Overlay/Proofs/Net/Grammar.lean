import Overlay.Net.Subnet
import Overlay.Proofs.Text.Numeral

/-!
# The grammar of networks

A network is written as four decimal octets with dots between them, a slash and the length of
the prefix.  An octet has one to three digits, zeros in front included, and the length has one
or two; blanks around the whole do not matter.  The relations `Ipv4.Writes`, `Subnet.Writes`
and `Subnet.Names` say this without a reader, and the readers accept what they say and nothing
else (`Ipv4.ofText?_eq_some_iff`, `Subnet.ofText?_eq_some_iff`, `Subnet.names_iff`).

What a subnet is written as is one of the texts that write it (`Subnet.writes_toText`), so that
it is read back, whatever its address and the length of its prefix are.
-/

namespace Overlay

/-! ## Addresses -/

namespace Ipv4

/-- The text is in dotted decimal notation, and this is its address: there are four numerals of
    one to three digits, and each is the number of an octet. -/
inductive Writes : List Char → Ipv4 → Prop
  /-- The most significant octet is the first. -/
  | octets {p q r t : List Char} {a b c d : UInt8} (hp : Numeral.Writes 3 p a.toNat)
      (hq : Numeral.Writes 3 q b.toNat) (hr : Numeral.Writes 3 r c.toNat)
      (ht : Numeral.Writes 3 t d.toNat) :
      Writes (Text.join ['.'] [p, q, r, t]) (ofOctets a b c d)

theorem octet?_eq_some_iff {s : List Char} {b : UInt8} :
    octet? s = some b ↔ Numeral.Writes 3 s b.toNat := by
  rw [Numeral.writes_iff, octet?, Option.ite_none_right_eq_some]
  refine and_congr_right fun _ => ?_
  cases Numeral.decimal? s with
  | none => exact ⟨fun h => (nomatch h), fun h => (nomatch h)⟩
  | some n =>
      show (if n ≤ 255 then some (UInt8.ofNat n) else none) = some b ↔ some n = some b.toNat
      rw [Option.ite_none_right_eq_some, Option.some.injEq, Option.some.injEq]
      constructor
      · rintro ⟨hle, rfl⟩
        exact (UInt8.toNat_ofNat_of_lt' (Nat.lt_succ_of_le hle)).symm
      · rintro rfl
        exact ⟨Nat.le_of_lt_succ b.toNat_lt, UInt8.ofNat_toNat⟩

/-- **Exactly the texts in dotted decimal notation are read.** -/
theorem ofText?_eq_some_iff {s : List Char} {x : Ipv4} :
    ofText? octet? s = some x ↔ Writes s x := by
  constructor
  · intro h
    rw [ofText?] at h
    split at h
    · next p q r t hsplit =>
        obtain ⟨rfl, -⟩ := (Text.split_eq_iff (List.cons_ne_nil _ _)).mp hsplit
        split at h
        · next a b c d ha hb hc hd =>
            cases h
            exact .octets (octet?_eq_some_iff.mp ha) (octet?_eq_some_iff.mp hb)
              (octet?_eq_some_iff.mp hc) (octet?_eq_some_iff.mp hd)
        · exact nomatch h
    · exact nomatch h
  · intro h
    cases h with
    | @octets p q r t a b c d hp hq hr ht =>
        -- there is no dot in a numeral, so that the text is split where it was joined
        have hsplit : Text.split '.' (Text.join ['.'] [p, q, r, t]) = [p, q, r, t] := by
          refine Text.split_join (List.cons_ne_nil _ _) ?_
          simp only [List.forall_mem_cons]
          exact ⟨hp.not_mem rfl, hq.not_mem rfl, hr.not_mem rfl, ht.not_mem rfl,
            fun _ h => absurd h List.not_mem_nil⟩
        rw [ofText?, hsplit]
        simp only [octet?_eq_some_iff.mpr hp, octet?_eq_some_iff.mpr hq,
          octet?_eq_some_iff.mpr hr, octet?_eq_some_iff.mpr ht]

/-- There are digits and dots in an address, and nothing else. -/
theorem Writes.mem {s : List Char} {x : Ipv4} {c : Char} (h : Writes s x) (hc : c ∈ s) :
    c = '.' ∨ c.isDigit = true := by
  cases h with
  | octets hp hq hr ht =>
      rcases Text.mem_join hc with hdot | ⟨piece, hpiece, hdigit⟩
      · exact Or.inl (List.mem_singleton.mp hdot)
      · simp only [List.mem_cons, List.not_mem_nil, or_false] at hpiece
        rcases hpiece with rfl | rfl | rfl | rfl
        · exact Or.inr (hp.digits c hdigit)
        · exact Or.inr (hq.digits c hdigit)
        · exact Or.inr (hr.digits c hdigit)
        · exact Or.inr (ht.digits c hdigit)

theorem ofOctets_octets (a : Ipv4) :
    ofOctets (UInt8.ofNat (a.toNat / 0x1000000)) (UInt8.ofNat (a.toNat / 0x10000 % 256))
      (UInt8.ofNat (a.toNat / 0x100 % 256)) (UInt8.ofNat (a.toNat % 256)) = a := by
  have hlt := a.toNat_lt
  refine Ipv4.ext ?_
  simp only [ofOctets, UInt8.toNat_ofNat']
  omega

theorem writes_octet {n : Nat} (h : n < 256) :
    Numeral.Writes 3 (Numeral.decimal n) (UInt8.ofNat n).toNat := by
  rw [UInt8.toNat_ofNat_of_lt' h]
  exact Numeral.writes_decimal (by decide) (by omega)

/-- An address is written in dotted decimal notation. -/
theorem writes_toText (a : Ipv4) : Writes a.toText a := by
  have hlt := a.toNat_lt
  have hoctets : Writes a.toText
      (ofOctets (UInt8.ofNat (a.toNat / 0x1000000)) (UInt8.ofNat (a.toNat / 0x10000 % 256))
        (UInt8.ofNat (a.toNat / 0x100 % 256)) (UInt8.ofNat (a.toNat % 256))) :=
    .octets (writes_octet (by omega)) (writes_octet (by omega)) (writes_octet (by omega))
      (writes_octet (by omega))
  rwa [ofOctets_octets] at hoctets

end Ipv4

/-! ## Subnets -/

namespace Subnet

/-- The text is in CIDR notation, and this is its subnet: there is an address, a slash, and a
    numeral of one or two digits for a length that is at most thirty-two. -/
inductive Writes : List Char → Subnet → Prop
  /-- Host bits of the address are kept. -/
  | slash {s t : List Char} {x : Ipv4} {k : Nat} (hs : Ipv4.Writes s x)
      (ht : Numeral.Writes 2 t k) (hk : k ≤ 32) : Writes (s ++ '/' :: t) ⟨x, k, hk⟩

theorem length?_eq_some_iff {s : List Char} {k : { k : Nat // k ≤ 32 }} :
    length? s = some k ↔ Numeral.Writes 2 s k.val := by
  rw [Numeral.writes_iff, length?, Option.ite_none_right_eq_some]
  refine and_congr_right fun _ => ?_
  cases Numeral.decimal? s with
  | none => exact ⟨fun h => (nomatch h), fun h => (nomatch h)⟩
  | some n =>
      show (if h : n ≤ 32 then some ⟨n, h⟩ else none) = some k ↔ some n = some k.val
      rw [Option.dite_none_right_eq_some, Option.some.injEq]
      constructor
      · rintro ⟨hle, h⟩
        exact congrArg Subtype.val (Option.some.inj h)
      · rintro rfl
        exact ⟨k.property, rfl⟩

/-- **Exactly the texts in CIDR notation are read.** -/
theorem ofText?_eq_some_iff {s : List Char} {x : Subnet} : ofText? s = some x ↔ Writes s x := by
  constructor
  · intro h
    rw [ofText?] at h
    split at h
    · exact nomatch h
    · next address length hcut =>
        obtain ⟨rfl, -⟩ := Text.cutFirst?_eq_some_iff.mp hcut
        split at h
        · next a k hk ha hlength =>
            cases h
            exact .slash (Ipv4.ofText?_eq_some_iff.mp ha) (length?_eq_some_iff.mp hlength) hk
        · exact nomatch h
  · intro h
    cases h with
    | @slash s t a k hs ht hk =>
        -- the slash that is written is the first one
        have hslash : '/' ∉ s := fun h => (hs.mem h).elim (by decide) (by decide)
        have hlength : length? t = some ⟨k, hk⟩ := length?_eq_some_iff.mpr ht
        rw [ofText?, Text.cutFirst?_append hslash]
        simp only [Ipv4.ofText?_eq_some_iff.mpr hs, hlength]

/-- There is nothing blank in CIDR notation. -/
theorem Writes.not_isBlank {s : List Char} {x : Subnet} {c : Char} (h : Writes s x) (hc : c ∈ s) :
    Text.isBlank c = false := by
  cases h with
  | slash hs ht =>
      rcases List.mem_append.mp hc with hc | hc
      · rcases hs.mem hc with rfl | hdigit
        · decide
        · exact Text.isBlank_of_isDigit hdigit
      · rcases List.mem_cons.mp hc with rfl | hc
        · decide
        · exact Text.isBlank_of_isDigit (ht.digits c hc)

theorem Writes.ne_nil {s : List Char} {x : Subnet} (h : Writes s x) : s ≠ [] := by
  cases h with
  | slash hs ht => exact List.append_ne_nil_of_right_ne_nil _ (List.cons_ne_nil _ _)

/-- **A subnet is written in CIDR notation**, host bits included. -/
theorem writes_toText (n : Subnet) : Writes n.toText n :=
  .slash n.address.writes_toText
    (Numeral.writes_decimal (by decide) (Nat.lt_of_le_of_lt n.length_le (by decide))) n.length_le

/-- The text names the subnet: but for blanks at its ends it is in CIDR notation. -/
def Names (s : List Char) (x : Subnet) : Prop :=
  ∃ core, Text.Surrounds s core ∧ Writes core x

theorem names_iff {s : List Char} {x : Subnet} :
    ofText? (Text.trim s) = some x ↔ Names s x := by
  constructor
  · intro h
    exact ⟨Text.trim s, Text.surrounds_trim s, ofText?_eq_some_iff.mp h⟩
  · rintro ⟨core, hcore, hwrites⟩
    rw [(Text.trim_eq_iff hwrites.ne_nil fun _ hc => hwrites.not_isBlank hc).mpr hcore]
    exact ofText?_eq_some_iff.mpr hwrites

theorem names_toText (n : Subnet) : Names n.toText n :=
  ⟨n.toText, Text.Surrounds.refl _, n.writes_toText⟩

end Subnet

end Overlay
