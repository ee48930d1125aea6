import Overlay.Domain.CombiningClass
import Overlay.Domain.Compositions
import Overlay.Domain.Mapping

/-!
# The normal form of a text

Texts that are equivalent have one normal form (NFC). To find it, every character is decomposed as far
as possible, the combining characters that follow each other are brought into the order of their
classes, and then each character is composed with those after it that reach it. A combining character
is kept from the one it would be composed with by another one of the same or a higher class between
them.

The syllables of Hangul are composed by a rule; all other compositions are in a table. Characters are
given by their code points.
-/

namespace Overlay.Domain

/-! ## Hangul -/

/-- The first syllable. -/
def firstSyllable : Nat := 0xAC00

/-- The first leading consonant. -/
def firstLead : Nat := 0x1100

/-- The first vowel. -/
def firstVowel : Nat := 0x1161

/-- One before the first trailing consonant. -/
def noTrail : Nat := 0x11A7

/-- Is there a syllable with this code point? -/
def isSyllable (n : Nat) : Bool := firstSyllable ≤ n && n < firstSyllable + 19 * 21 * 28

/-- The two parts of a syllable. -/
def syllableParts (n : Nat) : Nat × Nat :=
  let i := n - firstSyllable
  if i % 28 = 0 then (firstLead + i / (21 * 28), firstVowel + i / 28 % 21)
  else (n - i % 28, noTrail + i % 28)

/-- The syllable with the given parts. -/
def syllable? (a b : Nat) : Option Nat :=
  if firstLead ≤ a && a < firstLead + 19 && firstVowel ≤ b && b < firstVowel + 21 then
    some (firstSyllable + ((a - firstLead) * 21 + (b - firstVowel)) * 28)
  else if isSyllable a && (a - firstSyllable) % 28 = 0 && noTrail < b && b < noTrail + 28 then
    some (a + (b - noTrail))
  else none

/-! ## Parts -/

/-- The two parts of a character. -/
def parts? (n : Nat) : Option (Nat × Nat) :=
  if isSyllable n then some (syllableParts n) else itemOf? compositions n

/-- The character with the given parts. -/
def composed? (a b : Nat) : Option Nat :=
  match syllable? a b with
  | some n => some n
  | none => compositions.findSome? fun (first, parts) => (parts.idxOf? (a, b)).map (first + ·)

/-- How often parts may have parts. -/
def depth : Nat := 8

/-- The character, decomposed so many times. -/
def decompose : Nat → Nat → List Nat
  | 0, n => [n]
  | levels + 1, n =>
    match parts? n with
    | some (a, b) => decompose levels a ++ decompose levels b
    | none => [n]

/-! ## Order -/

/-- Puts a character at the end of a text that is given from its end, before the combining characters
of higher classes. -/
def insertMark (n : Nat) : List Nat → List Nat
  | [] => [n]
  | m :: rest =>
    if combiningClass n ≠ 0 && combiningClass n < combiningClass m then m :: insertMark n rest
    else n :: m :: rest

/-- The text with its combining characters in the order of their classes. -/
def ordered (s : List Nat) : List Nat := (s.foldl (fun text n => insertMark n text) []).reverse

/-! ## Composition -/

/-- Does a character reach the one before the marks, which are given from the last one? -/
def reaches (n : Nat) : List Nat → Bool
  | [] => true
  | m :: _ => combiningClass m < combiningClass n

/-- Composes a character with what comes after it and after the marks that it was not composed with,
which are given from the last one. -/
def composeFrom : Nat → List Nat → List Nat → List Nat
  | base, marks, [] => base :: marks.reverse
  | base, marks, n :: rest =>
    match if reaches n marks then composed? base n else none with
    | some c => composeFrom c marks rest
    | none =>
      if combiningClass n = 0 then base :: marks.reverse ++ composeFrom n [] rest
      else composeFrom base (n :: marks) rest

/-- The text with all characters composed. -/
def compose : List Nat → List Nat
  | [] => []
  | n :: rest => composeFrom n [] rest

/-- The normal form of a text. -/
def normalize (s : List Nat) : List Nat := compose (ordered (s.flatMap (decompose depth)))

end Overlay.Domain
