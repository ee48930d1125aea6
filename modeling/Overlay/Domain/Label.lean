import Overlay.Domain.Directions
import Overlay.Domain.Joining
import Overlay.Domain.Marks
import Overlay.Domain.Normal
import Overlay.Domain.Punycode

/-!
# Labels of domains

The labels of a domain stand between its dots. A label does not begin with a mark, and the two signs
that join letters or keep them apart stand only where they make a difference. In a domain with letters
that run from right to left no label may mix the directions in a way that would make its parts change
places on the page.

A label with characters past ASCII has an ASCII form: a prefix and the text in letters and digits. A
label that begins with the prefix is in that form, and then it is the form of a label in its normal
form. Characters are given by their code points.
-/

namespace Overlay.Domain

open Overlay.Text

/-- Is the code point in a table? -/
def within (table : CharRanges) (n : Nat) : Bool := table.has (Char.ofNat n)

/-! ## Joining -/

/-- The sign that keeps letters apart. -/
def nonJoiner : Nat := 0x200C

/-- The sign that joins letters. -/
def joiner : Nat := 0x200D

/-- The first character that letters do not join across. -/
def acrossMarks : List Nat → Option Nat
  | [] => none
  | n :: rest => if within joinsAcross n then acrossMarks rest else some n

/-- Does a sign keep letters apart that would join? Before and after it there is a letter, past the
characters that letters join across. The text before it is given from its end. -/
def separates (before after : List Nat) : Bool :=
  match acrossMarks before, acrossMarks after with
  | some a, some b =>
    (within joinsBoth a || within joinsAfter a) && (within joinsBoth b || within joinsBefore b)
  | _, _ => false

/-- Does the text before, which is given from its end, take the vowel from a consonant? -/
def afterVirama : List Nat → Bool
  | [] => false
  | n :: _ => combiningClass n = viramaClass

/-- Do the signs stand where they make a difference? The text before is given from its end. -/
def joinersFit : List Nat → List Nat → Bool
  | _, [] => true
  | before, n :: rest =>
    (if n = nonJoiner then afterVirama before || separates before rest
      else if n = joiner then afterVirama before
      else true) && joinersFit (n :: before) rest

/-! ## Directions -/

/-- The direction of a character. -/
inductive Direction where
  /-- From left to right. -/
  | left
  /-- From right to left. -/
  | right
  /-- A number that runs from left to right among letters of Arabic. -/
  | arabicNumber
  /-- Another number. -/
  | number
  /-- What may stand beside numbers and between letters. -/
  | neutral
  /-- A mark. -/
  | mark
deriving DecidableEq

/-- The direction of a character. -/
def direction (n : Nat) : Direction :=
  if within rightToLeft n || within arabicLetters n then .right
  else if within arabicNumbers n then .arabicNumber
  else if within europeanNumbers n then .number
  else if within nonspacing n then .mark
  else if within signs n || within separators n || within terminators n || within neutral n ||
      within boundary n then .neutral
  else .left

/-- Does the character run from right to left, or belong to those that do? -/
def isBackward (n : Nat) : Bool := direction n = .right || direction n = .arabicNumber

/-- The last direction that is not that of a mark. -/
def lastDirection : List Direction → Option Direction
  | [] => none
  | d :: rest =>
    match lastDirection rest with
    | some e => some e
    | none => if d = .mark then none else some d

/-- Do the directions of a label keep its parts in their places? -/
def directionsFit : List Direction → Bool
  | [] => true
  | .left :: rest =>
    !rest.contains .right && !rest.contains .arabicNumber &&
      (lastDirection (.left :: rest) = some .left || lastDirection (.left :: rest) = some .number)
  | .right :: rest =>
    !rest.contains .left && !(rest.contains .number && rest.contains .arabicNumber) &&
      (match lastDirection (.right :: rest) with
        | some .right => true
        | some .number => true
        | some .arabicNumber => true
        | _ => false)
  | _ :: _ => false

/-! ## Labels -/

/-- What the ASCII form of a label begins with. -/
def asciiMark : List Char := "xn--".toList

/-- The greatest number of characters of a label that is brought into its ASCII form. -/
def encodeLimit : Nat := 1000

/-- The greatest number of characters of a label that is read from its ASCII form. -/
def decodeLimit : Nat := 2000

/-- Are all characters in ASCII? -/
def isAscii (s : List Nat) : Bool := s.all (· < Punycode.firstHigh)

/-- May the text be a label with characters past ASCII? -/
def isSound (s : List Nat) : Bool :=
  (match s with
    | [] => true
    | n :: _ => !within marks n) && joinersFit [] s

/-- A label: what it says and its ASCII form. -/
structure Label where
  /-- The characters. -/
  text : List Nat
  /-- The ASCII form. -/
  ascii : List Char

namespace Label

/-- The label whose ASCII form follows the prefix. -/
def ofAscii? (s : List Char) : Option Label :=
  if decodeLimit < s.length then none
  else
    match Punycode.decode? s with
    | some text =>
      if !isAscii text && text.all isHeld && normalize text = text && isSound text &&
          (dropFront? asciiMark (text.map Char.ofNat)).isNone then
        some ⟨text, asciiMark ++ s⟩
      else none
    | none => none

/-- Reads a label whose characters are held by domains. -/
def ofText? (s : List Char) : Option Label :=
  let text := s.map Char.toNat
  match dropFront? asciiMark s with
  | some rest => if isAscii text then ofAscii? rest else none
  | none =>
    if isAscii text then some ⟨text, s⟩
    else if isSound text && text.length ≤ encodeLimit then
      some ⟨text, asciiMark ++ Punycode.encode text⟩
    else none

end Label

end Overlay.Domain
