import Overlay.Text.Numeral
import Overlay.Text.Utf8

/-!
# Percent encoding

In a URL a percent sign and two hexadecimal digits stand for a byte. Each part of a URL has its own
set of characters that are written in this way. Controls and characters outside ASCII belong to every
set; a character outside ASCII gives one escape for each byte of its UTF-8 form.
-/

namespace Overlay.Percent

/-- The characters of every set: controls and what is not ASCII. -/
def isControl (c : Char) : Bool := c.toNat < 0x20 || 0x7F ≤ c.toNat

/-- The set for fragments. -/
def inFragment (c : Char) : Bool :=
  isControl c || c = ' ' || c = '"' || c = '<' || c = '>' || c = '\x60'

/-- The set for paths. -/
def inPath (c : Char) : Bool :=
  inFragment c || c = '#' || c = '?' || c = '{' || c = '}'

/-- The set for a segment that is put into the path of a URL; in a URL with a special scheme a
backslash would divide the path. -/
def inSegment (special : Bool) (c : Char) : Bool :=
  inPath c || c = '/' || c = '%' || (special && c = '\\')

/-- The set for user names and passwords. -/
def inUserInfo (c : Char) : Bool :=
  inPath c || c = '/' || c = ':' || c = ';' || c = '=' || c = '@' || c = '[' || c = '\\' ||
    c = ']' || c = '^' || c = '|'

/-- The set for queries; special schemes also escape the single quote. -/
def inQuery (special : Bool) (c : Char) : Bool :=
  isControl c || c = ' ' || c = '"' || c = '#' || c = '<' || c = '>' || (special && c = '\'')

/-- One byte as an escape. -/
def escape (b : UInt8) : List Char := '%' :: Numeral.hexByteCapital b.toNat

/-- The text with the characters of a set escaped. -/
def encode (set : Char → Bool) (s : List Char) : List Char :=
  s.flatMap fun c => if set c then (Utf8.encodeChar c).flatMap escape else [c]

/-- The value of a byte that is a hexadecimal digit. -/
def hexValue? (b : UInt8) : Option Nat := Numeral.hexDigit? (Char.ofNat b.toNat)

/-- The bytes that a text with escapes stands for. A percent sign without two digits after it stands
for itself. -/
def decode : List UInt8 → List UInt8
  | [] => []
  | 0x25 :: h :: l :: rest =>
    match hexValue? h, hexValue? l with
    | some a, some b => UInt8.ofNat (16 * a + b) :: decode rest
    | _, _ => 0x25 :: decode (h :: l :: rest)
  | b :: rest => b :: decode rest

end Overlay.Percent
