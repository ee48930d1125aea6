import Overlay.Text.Split

/-!
# Texts in letters and digits

Punycode writes a text of any characters in those of ASCII: the ASCII characters of the text come
first, and then for each other character, in the order of the code points, how far it is from the one
before. The distance counts places: all places in the text, for all code points. It is written as a
number in base thirty-six whose digits, the lowest first, have thresholds; a digit below its threshold
is the last one. The thresholds follow a bias that adapts itself to the distances.

Characters are given by their code points.
-/

namespace Overlay.Domain.Punycode

/-- The base of the numbers. -/
def base : Nat := 36

/-- The least threshold. -/
def least : Nat := 1

/-- The greatest threshold. -/
def greatest : Nat := 26

/-- The bias at the beginning. -/
def firstBias : Nat := 72

/-- The first code point past ASCII. -/
def firstHigh : Nat := 128

/-- The threshold of the digit at a place. The places are multiples of the base. -/
def threshold (place bias : Nat) : Nat := max least (min greatest (place - bias))

theorem threshold_le (place bias : Nat) : threshold place bias ≤ 26 := by
  unfold threshold least greatest
  omega

theorem one_le_threshold (place bias : Nat) : 1 ≤ threshold place bias := by
  unfold threshold least greatest
  omega

/-- The bias that belongs to a distance, when it has been brought to its scale. -/
def settle (distance places : Nat) : Nat :=
  if 455 < distance then settle (distance / 35) (places + base)
  else places + base * distance / (distance + 38)
termination_by distance

/-- The bias after a distance in a text of so many characters. -/
def adapt (distance length : Nat) (first : Bool) : Nat :=
  let d := if first then distance / 700 else distance / 2
  settle (d + d / length) 0

/-- The character of a digit. -/
def digit (d : Nat) : Char := if d < 26 then Char.ofNat (97 + d) else Char.ofNat (22 + d)

/-- The value of a digit. -/
def value? (c : Char) : Option Nat :=
  if 97 ≤ c.toNat ∧ c.toNat ≤ 122 then some (c.toNat - 97)
  else if 48 ≤ c.toNat ∧ c.toNat ≤ 57 then some (c.toNat - 22)
  else none

/-! ## Writing -/

/-- The digits of a number from a place on. -/
def number (n place bias : Nat) : List Char :=
  let t := threshold place bias
  if n < t then [digit n]
  else digit (t + (n - t) % (base - t)) :: number ((n - t) / (base - t)) (place + base) bias
termination_by n
decreasing_by
  have hle := threshold_le place bias
  have hge := one_le_threshold place bias
  have := Nat.div_le_self (n - threshold place bias) (base - threshold place bias)
  omega

/-- What has been written. -/
structure Writer where
  /-- The distance from the last character that was written. -/
  distance : Nat := 0
  /-- The bias. -/
  bias : Nat := firstBias
  /-- The number of characters that were written. -/
  count : Nat
  /-- Has no distance been written yet? -/
  first : Bool := true
  /-- The digits, in groups, the latest first. -/
  groups : List (List Char) := []

/-- Goes past one character of the text when those with code point `n` are written. -/
def Writer.pass (n : Nat) (w : Writer) (m : Nat) : Writer :=
  if m < n then { w with distance := w.distance + 1 }
  else if m = n then
    { distance := 0, bias := adapt w.distance (w.count + 1) w.first, count := w.count + 1,
      first := false, groups := number w.distance base w.bias :: w.groups }
  else w

/-- Writes all characters of the given code points, which ascend from `low` on. -/
def Writer.all (s : List Nat) : Nat → List Nat → Writer → Writer
  | _, [], w => w
  | low, n :: rest, w =>
    let w := s.foldl (Writer.pass n) { w with distance := w.distance + (n - low) * (w.count + 1) }
    all s (n + 1) rest { w with distance := w.distance + 1 }

/-- The text in ASCII. -/
def encode (s : List Nat) : List Char :=
  let low := s.filter (· < firstHigh)
  let high := ((s.filter (firstHigh ≤ ·)).mergeSort (· ≤ ·)).eraseDups
  let w := Writer.all s firstHigh high { count := low.length }
  low.map Char.ofNat ++ (if low.isEmpty then [] else ['-']) ++ w.groups.reverse.flatten

/-! ## Reading -/

/-- What has been read. -/
structure Reader where
  /-- The characters. -/
  text : List Nat
  /-- The code point of the last character. -/
  code : Nat := firstHigh
  /-- The place of the next character, counted as far as its distance is known. -/
  next : Nat := 0
  /-- The place after the last character. -/
  last : Nat := 0
  /-- What the next digit is multiplied with. -/
  weight : Nat := 1
  /-- The place of the next digit. -/
  place : Nat := base
  /-- The bias. -/
  bias : Nat := firstBias

/-- Puts the character into the text whose place is known now. -/
def Reader.insert (r : Reader) (next : Nat) : Option Reader :=
  let length := r.text.length + 1
  let code := r.code + next / length
  let position := next % length
  if code.isValidChar then
    some { text := r.text.insertIdx position code, code, next := position + 1, last := position + 1,
           bias := adapt (next - r.last) length (r.last = 0) }
  else none

/-- Reads one digit. -/
def Reader.feed (r : Reader) (c : Char) : Option Reader :=
  match value? c with
  | none => none
  | some d =>
    let next := r.next + d * r.weight
    let t := threshold r.place r.bias
    if d < t then r.insert next
    else some { r with next, weight := r.weight * (base - t), place := r.place + base }

/-- Reads digits. -/
def Reader.feedAll : List Char → Reader → Option Reader
  | [], r => if r.place = base then some r else none
  | c :: s, r => (r.feed c).bind (feedAll s)

/-- The text that is written in ASCII, if one is. -/
def decode? (s : List Char) : Option (List Nat) :=
  let (low, digits) := match Text.cutLast? '-' s with
    | some (c :: low, digits) => (c :: low, digits)
    | _ => ([], s)
  (Reader.feedAll digits { text := low.map Char.toNat }).map (·.text)

end Overlay.Domain.Punycode
