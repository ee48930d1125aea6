/-!
# Blank characters

A character is blank when it has the Unicode property White_Space. There are twenty-five of them;
the zero width space, the word joiner and the byte order mark are not among them. `trim` removes
blank characters from both ends of a text.
-/

namespace Overlay.Text

/-- The characters with the property White_Space. -/
def isBlank (c : Char) : Bool :=
  let n := c.toNat
  (9 ≤ n ∧ n ≤ 13) ∨ n = 0x20 ∨ n = 0x85 ∨ n = 0xA0 ∨ n = 0x1680 ∨ (0x2000 ≤ n ∧ n ≤ 0x200A) ∨
    n = 0x2028 ∨ n = 0x2029 ∨ n = 0x202F ∨ n = 0x205F ∨ n = 0x3000

/-- The text without the characters at its end that satisfy `p`. -/
def dropWhileEnd (p : Char → Bool) (s : List Char) : List Char :=
  (s.reverse.dropWhile p).reverse

/-- The text without the characters at its two ends that satisfy `p`. -/
def trimBy (p : Char → Bool) (s : List Char) : List Char :=
  dropWhileEnd p (s.dropWhile p)

/-- The text without blank characters at its two ends. -/
def trim (s : List Char) : List Char := trimBy isBlank s

/-- A text of blank characters only, the empty one included. -/
def allBlank (s : List Char) : Bool := s.all isBlank

end Overlay.Text
