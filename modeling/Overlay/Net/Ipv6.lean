import Overlay.Net.Ipv4

/-!
# IPv6 addresses

An address is eight groups of sixteen bits. In its text the groups are hexadecimal with colons
between them; one run of zero groups may be written `::`, and the last two groups may be written as
an IPv4 address. Written out, the first of the longest runs of at least two zero groups is left out.
-/

namespace Overlay

/-- An IPv6 address. -/
structure Ipv6 where
  /-- The groups, the most significant first. -/
  groups : List Nat
  /-- There are eight of them. -/
  length_groups : groups.length = 8
deriving DecidableEq

namespace Ipv6

/-- A group of one to four hexadecimal digits. -/
def group? (s : List Char) : Option Nat :=
  if s.length ≤ 4 then Numeral.hex? s else none

/-- The groups written between colons; `tail` says whether the last may be an IPv4 address, which
then gives two groups. -/
def groups? (tail : Bool) : List (List Char) → Option (List Nat)
  | [] => some []
  | [s] =>
    match group? s with
    | some g => some [g]
    | none =>
      match tail, Ipv4.ofPlainText? s with
      | true, some a => some [a.toNat / 65536, a.toNat % 65536]
      | _, _ => none
  | s :: rest =>
    match group? s, groups? tail rest with
    | some g, some gs => some (g :: gs)
    | _, _ => none

/-- The groups of one side of `::`, which may be empty. -/
def side? (tail : Bool) (s : List Char) : Option (List Nat) :=
  if s.isEmpty then some [] else groups? tail (Text.split ':' s)

/-- The groups of both sides of `::` with zeros between them, eight in all. -/
def fill (front back : List Nat) : List Nat :=
  front ++ List.replicate (8 - (front.length + back.length)) 0 ++ back

theorem fill_length {front back : List Nat} (h : front.length + back.length ≤ 7) :
    (fill front back).length = 8 := by
  unfold fill
  rw [List.length_append, List.length_append, List.length_replicate]
  omega

/-- Reads the text of an address. The run that `::` stands for holds at least one group, and an IPv4
address may come only at the very end. -/
def ofText? (s : List Char) : Option Ipv6 :=
  match Text.cutAt? [':', ':'] s with
  | none =>
    match groups? true (Text.split ':' s) with
    | some gs => if h : gs.length = 8 then some ⟨gs, h⟩ else none
    | none => none
  | some (front, back) =>
    match side? false front, side? true back with
    | some fs, some bs =>
      if h : fs.length + bs.length ≤ 7 then
        some ⟨fill fs bs, fill_length h⟩
      else none
    | _, _ => none

/-- The length of the run of zeros that the groups begin with. -/
def zeros : List Nat → Nat
  | 0 :: gs => zeros gs + 1
  | _ => 0

/-- The position and the length of the first of the longest runs of zeros, from position `at`. -/
def longestZeros : Nat → List Nat → Nat × Nat
  | _, [] => (0, 0)
  | i, g :: gs =>
    let here := zeros (g :: gs)
    let later := longestZeros (i + 1) gs
    if later.2 ≤ here then (i, here) else later

/-- Groups in hexadecimal with colons between them. -/
def groupsText (gs : List Nat) : List Char := Text.join [':'] (gs.map Numeral.hex)

/-- The text of an address, all of it hexadecimal. -/
def toText (a : Ipv6) : List Char :=
  let (start, count) := longestZeros 0 a.groups
  if count < 2 then groupsText a.groups
  else groupsText (a.groups.take start) ++ [':', ':'] ++ groupsText (a.groups.drop (start + count))

/-- The text of an address, with an address of the block `::ffff:0:0/96` shown as the IPv4 address
that it stands for. -/
def toTextMapped (a : Ipv6) : List Char :=
  match a.groups with
  | [0, 0, 0, 0, 0, 0xFFFF, h, l] =>
    [':', ':', 'f', 'f', 'f', 'f', ':'] ++ (Ipv4.ofNat (h * 65536 + l)).toText
  | _ => a.toText

end Ipv6

end Overlay
