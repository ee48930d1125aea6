import Overlay.Device.Channel
import Overlay.Tunnel.Forward

/-!
# What makes a packet valid

The checks of a packet look at its first four bytes and at its length.  Here is what they come to,
in numbers: `Sound` is a packet that passes, and `Refused` lists what is wrong with any other one,
the first thing first (`validate_eq_ok_iff`, `validate_eq_error_iff`).

A sound packet ends within its bytes, so what stands behind its end does not matter: bytes may be
added, and they may be taken away as far as its total length (`Sound.of_isPrefix`,
`Sound.prefix_iff`).  The total length has sixteen bits, and the buffers that packets are read into
are larger.
-/

namespace Overlay.Packet

variable {p q : Packet} {i : Nat} {e : PacketError}

/-! ## The bytes of the header -/

/-- The byte at a position, or zero past the end. -/
def octet (p : Packet) (i : Nat) : UInt8 := p.getD i 0

/-- The upper half of the first byte. -/
def versionOf (p : Packet) : Nat := (p.octet 0).toNat / 16

/-- Four times the lower half of the first byte. -/
def headerOf (p : Packet) : Nat := (p.octet 0).toNat % 16 * 4

/-- The number of sixteen bits at position two. -/
def totalOf (p : Packet) : Nat := (p.octet 2).toNat * 256 + (p.octet 3).toNat

/-- The four bytes from a position, as an address. -/
def addressOf (p : Packet) (i : Nat) : Ipv4 :=
  .ofOctets (p.octet i) (p.octet (i + 1)) (p.octet (i + 2)) (p.octet (i + 3))

theorem totalOf_lt (p : Packet) : totalOf p < 0x10000 := by
  have hupper := (p.octet 2).toNat_lt
  have hlower := (p.octet 3).toNat_lt
  unfold totalOf
  omega

theorem getElem?_eq_octet (h : i < p.length) : p[i]? = some (p.octet i) := by
  rw [octet, List.getD_eq_getElem?_getD, List.getElem?_eq_getElem h, Option.getD_some]

theorem byte?_eq (h : i < p.length) : p.byte? i = some (p.octet i).toNat := by
  rw [byte?, getElem?_eq_octet h, Option.map_some]

/-- A packet and one that goes on after it have the same bytes where both have some. -/
theorem octet_of_isPrefix (hq : q <+: p) (h : i < q.length) : p.octet i = q.octet i := by
  obtain ⟨rest, rfl⟩ := hq
  rw [octet, octet, List.getD_eq_getElem?_getD, List.getD_eq_getElem?_getD,
    List.getElem?_append_left h]

/-! ## What the readers give -/

/-- The fields of a header that are read. -/
structure Fields where
  /-- The length of the header. -/
  header : Nat
  /-- The total length. -/
  total : Nat
  /-- The protocol. -/
  protocol : Nat
  /-- The source address. -/
  source : Ipv4
  /-- The destination address. -/
  destination : Ipv4

/-- The readers find these fields within the bytes of the packet. -/
structure Reads (p : Packet) (f : Fields) : Prop where
  header : p.headerLength? = some f.header
  total : p.totalLength? = some f.total
  protocol : p.protocol? = some f.protocol
  source : p.source? = some f.source
  destination : p.destination? = some f.destination

/-- The fields, read off the bytes. -/
def fieldsOf (p : Packet) : Fields where
  header := headerOf p
  total := totalOf p
  protocol := (p.octet 9).toNat
  source := p.addressOf 12
  destination := p.addressOf 16

theorem address?_eq (h : i + 3 < p.length) : p.address? i = some (p.addressOf i) := by
  rw [address?, getElem?_eq_octet (by omega : i < p.length),
    getElem?_eq_octet (by omega : i + 1 < p.length),
    getElem?_eq_octet (by omega : i + 2 < p.length), getElem?_eq_octet h]
  rfl

theorem version?_eq (h : 0 < p.length) : p.version? = some (versionOf p) := by
  rw [version?, byte?_eq h, Option.map_some]
  rfl

theorem headerLength?_eq (h : 0 < p.length) : p.headerLength? = some (headerOf p) := by
  rw [headerLength?, byte?_eq h, Option.map_some]
  rfl

theorem totalLength?_eq (h : 3 < p.length) : p.totalLength? = some (totalOf p) := by
  rw [totalLength?, byte?_eq (by omega : 2 < p.length), byte?_eq h]
  rfl

/-- A packet with a whole header is read within its bytes. -/
theorem reads_fieldsOf (h : minHeader ≤ p.length) : Reads p (fieldsOf p) := by
  have hlength : 20 ≤ p.length := h
  exact ⟨headerLength?_eq (by omega), totalLength?_eq (by omega), byte?_eq (by omega),
    address?_eq (by omega), address?_eq (by omega)⟩

/-- What stands behind the header is not read. -/
theorem fieldsOf_of_isPrefix (hq : q <+: p) (h : minHeader ≤ q.length) :
    fieldsOf p = fieldsOf q := by
  have hoctet : ∀ i < 20, p.octet i = q.octet i := fun i hi =>
    octet_of_isPrefix hq (Nat.lt_of_lt_of_le hi h)
  simp only [fieldsOf, headerOf, totalOf, addressOf, hoctet 0, hoctet 2, hoctet 3, hoctet 9,
    hoctet 12, hoctet 13, hoctet 14, hoctet 15, hoctet 16, hoctet 17, hoctet 18, hoctet 19,
    Nat.reduceLT]

/-! ## The checks -/

/-- The packet has a header of version four that fits into its total length, which fits into its
    bytes. -/
structure Sound (p : Packet) : Prop where
  long : 20 ≤ p.length
  version : versionOf p = 4
  least : 20 ≤ headerOf p
  header : headerOf p ≤ totalOf p
  total : totalOf p ≤ p.length

/-- What is wrong with a packet, when everything that is looked at before is right. -/
inductive Refused (p : Packet) : PacketError → Prop where
  | tooShort : p.length < 20 → Refused p (.tooShort p.length)
  | version : 20 ≤ p.length → versionOf p ≠ 4 → Refused p (.version (versionOf p))
  | headerLength : 20 ≤ p.length → versionOf p = 4 →
      headerOf p < 20 ∨ p.length < headerOf p → Refused p (.headerLength (headerOf p))
  | totalLength : 20 ≤ p.length → versionOf p = 4 → 20 ≤ headerOf p → headerOf p ≤ p.length →
      totalOf p < headerOf p ∨ p.length < totalOf p →
      Refused p (.totalLength (totalOf p) (headerOf p) p.length)

/-- A packet is sound, or something is wrong with it. -/
theorem sound_or_refused (p : Packet) : Sound p ∨ ∃ e, Refused p e := by
  by_cases hlong : 20 ≤ p.length
  · by_cases hversion : versionOf p = 4
    · by_cases hheader : headerOf p < 20 ∨ p.length < headerOf p
      · exact Or.inr ⟨_, .headerLength hlong hversion hheader⟩
      · by_cases htotal : totalOf p < headerOf p ∨ p.length < totalOf p
        · exact Or.inr ⟨_, .totalLength hlong hversion (by omega) (by omega) htotal⟩
        · exact Or.inl ⟨hlong, hversion, by omega, by omega, by omega⟩
    · exact Or.inr ⟨_, .version hlong hversion⟩
  · exact Or.inr ⟨_, .tooShort (Nat.lt_of_not_le hlong)⟩

/-- The checks of a packet with a whole header. -/
theorem validate_of_long (h : minHeader ≤ p.length) : p.validate =
    if versionOf p ≠ 4 then .error (.version (versionOf p))
    else if headerOf p < minHeader ∨ p.length < headerOf p then .error (.headerLength (headerOf p))
    else if totalOf p < headerOf p ∨ p.length < totalOf p then
      .error (.totalLength (totalOf p) (headerOf p) p.length)
    else .ok () := by
  have hlength : 20 ≤ p.length := h
  rw [validate, version?_eq (by omega), headerLength?_eq (by omega), totalLength?_eq (by omega)]
  exact if_neg (Nat.not_lt.mpr h)

theorem validate_of_short (h : p.length < minHeader) :
    p.validate = .error (.tooShort p.length) := by
  rw [validate]
  split
  · exact if_pos h
  · rfl

theorem validate_of_sound (h : Sound p) : p.validate = .ok () := by
  have hheader : ¬ (headerOf p < minHeader ∨ p.length < headerOf p) :=
    not_or.mpr ⟨Nat.not_lt.mpr h.least, Nat.not_lt.mpr (Nat.le_trans h.header h.total)⟩
  have htotal : ¬ (totalOf p < headerOf p ∨ p.length < totalOf p) :=
    not_or.mpr ⟨Nat.not_lt.mpr h.header, Nat.not_lt.mpr h.total⟩
  rw [validate_of_long h.long, if_neg (not_not_intro h.version), if_neg hheader, if_neg htotal]

theorem validate_of_refused (h : Refused p e) : p.validate = .error e := by
  cases h with
  | tooShort hshort => exact validate_of_short hshort
  | version hlong hversion => rw [validate_of_long hlong, if_pos hversion]
  | headerLength hlong hversion hheader =>
      rw [validate_of_long hlong, if_neg (not_not_intro hversion)]
      exact if_pos hheader
  | totalLength hlong hversion hleast hmost htotal =>
      have hheader : ¬ (headerOf p < minHeader ∨ p.length < headerOf p) :=
        not_or.mpr ⟨Nat.not_lt.mpr hleast, Nat.not_lt.mpr hmost⟩
      rw [validate_of_long hlong, if_neg (not_not_intro hversion), if_neg hheader, if_pos htotal]

theorem validate_eq_ok_iff : p.validate = .ok () ↔ Sound p := by
  refine ⟨fun h => ?_, validate_of_sound⟩
  rcases sound_or_refused p with hsound | ⟨e, hrefused⟩
  · exact hsound
  · exact nomatch h.symm.trans (validate_of_refused hrefused)

theorem validate_eq_error_iff : p.validate = .error e ↔ Refused p e := by
  refine ⟨fun h => ?_, validate_of_refused⟩
  rcases sound_or_refused p with hsound | ⟨e', hrefused⟩
  · exact nomatch h.symm.trans (validate_of_sound hsound)
  · cases h.symm.trans (validate_of_refused hrefused)
    exact hrefused

/-! ## More bytes and fewer -/

/-- The numbers that are checked are those of every beginning that has the whole header. -/
theorem numbers_of_isPrefix (hq : q <+: p) (h : minHeader ≤ q.length) :
    versionOf p = versionOf q ∧ headerOf p = headerOf q ∧ totalOf p = totalOf q := by
  have hversion : versionOf p = versionOf q := by
    rw [versionOf, versionOf, octet_of_isPrefix hq (Nat.lt_of_lt_of_le (by decide) h)]
  have hfields := fieldsOf_of_isPrefix hq h
  exact ⟨hversion, congrArg Fields.header hfields, congrArg Fields.total hfields⟩

/-- A packet that begins with a sound one is sound. -/
theorem Sound.of_isPrefix (h : Sound q) (hq : q <+: p) : Sound p := by
  obtain ⟨hversion, hheader, htotal⟩ := numbers_of_isPrefix hq h.long
  have hle := hq.length_le
  refine ⟨Nat.le_trans h.long hle, hversion.trans h.version, ?_, ?_, ?_⟩
  · rw [hheader]
    exact h.least
  · rw [hheader, htotal]
    exact h.header
  · rw [htotal]
    exact Nat.le_trans h.total hle

/-- **What may be taken away**: the beginning of a sound packet is sound when it reaches as far as
    the total length, and not otherwise. -/
theorem Sound.prefix_iff (h : Sound p) (hq : q <+: p) : Sound q ↔ totalOf p ≤ q.length := by
  constructor
  · intro hsound
    rw [(numbers_of_isPrefix hq hsound.long).2.2]
    exact hsound.total
  · intro hreach
    have hlong : 20 ≤ q.length := Nat.le_trans (Nat.le_trans h.least h.header) hreach
    obtain ⟨hversion, hheader, htotal⟩ := numbers_of_isPrefix hq hlong
    refine ⟨hlong, hversion.symm.trans h.version, ?_, ?_, ?_⟩
    · rw [← hheader]
      exact h.least
    · rw [← hheader, ← htotal]
      exact h.header
    · rw [← htotal]
      exact hreach

/-- Both are valid or neither, and the readers find the same in them when they are. -/
structure Alike (q p : Packet) : Prop where
  validate : q.validate = .ok () ↔ p.validate = .ok ()
  fields : p.validate = .ok () → Reads q (fieldsOf p)

/-- To cut a packet changes nothing as long as there is room for every total length. -/
theorem alike_take {size : Nat} (hsize : 0x10000 ≤ size) (p : Packet) : Alike (p.take size) p := by
  have hprefix : p.take size <+: p := List.take_prefix size p
  have hsound : Sound (p.take size) ↔ Sound p := by
    refine ⟨fun h => h.of_isPrefix hprefix, fun h => (h.prefix_iff hprefix).mpr ?_⟩
    have htotal := h.total
    have hlt := totalOf_lt p
    rw [List.length_take]
    omega
  refine ⟨by rw [validate_eq_ok_iff, validate_eq_ok_iff, hsound], fun h => ?_⟩
  have hlong := (hsound.mpr (validate_eq_ok_iff.mp h)).long
  exact fieldsOf_of_isPrefix hprefix hlong ▸ reads_fieldsOf hlong

/-- **A packet is valid exactly when its numbers fit together.**

    * The checks let a packet through exactly when it is sound, and otherwise say what is wrong
      first.
    * A valid packet is read within its bytes, it stays valid with the same fields when bytes are
      added, and a beginning of it is valid exactly when it reaches as far as the total length.
    * To cut a packet to the size of the buffers changes neither whether it is valid nor, if it is,
      what is read from it; that is how a device in memory hands its oldest packet to the loop
      that reads from it. -/
theorem validates_exactly (p : Packet) :
    (p.validate = .ok () ↔ Sound p) ∧ (∀ e, p.validate = .error e ↔ Refused p e) ∧
    (p.validate = .ok () → Reads p (fieldsOf p) ∧
      (∀ rest, (p ++ rest).validate = .ok () ∧ Reads (p ++ rest) (fieldsOf p)) ∧
      ∀ q : Packet, q <+: p → (q.validate = .ok () ↔ totalOf p ≤ q.length)) ∧
    Alike (p.take Tunnel.maxDatagram) p ∧
    ∀ c : Channel, c.outgoing.head? = some p →
      ∃ cut c', c.read Tunnel.maxDatagram = some (cut, c') ∧ Alike cut p := by
  have hcut : Alike (p.take Tunnel.maxDatagram) p := alike_take (Nat.le_refl _) p
  refine ⟨validate_eq_ok_iff, fun _ => validate_eq_error_iff, fun hvalid => ?_, hcut,
    fun c hc => ?_⟩
  · have hsound := validate_eq_ok_iff.mp hvalid
    refine ⟨reads_fieldsOf hsound.long, fun rest => ?_, fun q hq => ?_⟩
    · have hprefix : p <+: p ++ rest := List.prefix_append p rest
      have hmore := hsound.of_isPrefix hprefix
      exact ⟨validate_of_sound hmore,
        fieldsOf_of_isPrefix hprefix hsound.long ▸ reads_fieldsOf hmore.long⟩
    · rw [validate_eq_ok_iff, hsound.prefix_iff hq]
  · obtain ⟨waiting, hwaiting⟩ := List.head?_eq_some_iff.mp hc
    refine ⟨_, { c with outgoing := waiting }, ?_, hcut⟩
    rw [Channel.read, hwaiting]

/-- A packet of twenty-five bytes with a header of twenty-four, and two bytes of padding: it is
    valid, without the padding and with more of it too, but not without its last byte. -/
theorem validates_exactly_with_padding :
    ∃ (p : Packet) (f : Fields), p.length = 27 ∧ f.header = 24 ∧ f.total = 25 ∧
      f.source = .ofOctets 10 0 1 5 ∧ f.destination = .ofOctets 10 0 2 9 ∧ Reads p f ∧
      (p ++ [7, 7]).validate = .ok () ∧ Reads (p ++ [7, 7]) f ∧
      validate (p.take 25) = .ok () ∧ validate (p.take 24) = .error (.totalLength 25 24 24) ∧
      ∃ cut c', Channel.read { outgoing := [p] } Tunnel.maxDatagram = some (cut, c') ∧
        cut.validate = .ok () ∧ Reads cut f := by
  let p : Packet := [0x46, 0, 0, 25, 0, 0, 0, 0, 64, 17, 0, 0, 10, 0, 1, 5, 10, 0, 2, 9,
    1, 1, 1, 0, 0xFF, 0, 0]
  obtain ⟨hsound, -, hgood, -, hdevice⟩ := validates_exactly p
  have hvalid : p.validate = .ok () :=
    hsound.mpr ⟨by decide, by decide, by decide, by decide, by decide⟩
  obtain ⟨hreads, hmore, hfewer⟩ := hgood hvalid
  obtain ⟨cut, c', hread, halike⟩ := hdevice { outgoing := [p] } rfl
  have htotal : totalOf (p.take 24) = 25 := by decide
  have hheader : headerOf (p.take 24) = 24 := by decide
  have hshort : Refused (p.take 24)
      (.totalLength (totalOf (p.take 24)) (headerOf (p.take 24)) (p.take 24).length) :=
    .totalLength (by decide) (by decide) (by decide) (by decide) (Or.inr (by decide))
  rw [htotal, hheader] at hshort
  exact ⟨p, fieldsOf p, rfl, by decide, by decide, rfl, rfl, hreads, (hmore _).1, (hmore _).2,
    (hfewer _ (List.take_prefix 25 p)).mpr (by decide),
    ((validates_exactly (p.take 24)).2.1 _).mpr hshort, cut, c', hread,
    halike.validate.mpr hvalid, halike.fields hvalid⟩

end Overlay.Packet
