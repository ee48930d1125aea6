import Overlay.Text.Numeral
import Overlay.Text.Unprintable
import Overlay.Text.GraphemeExtend

/-!
# Quoted text

Messages quote a text that a reader may have to see exactly: it stands between double quotes, with a
backslash before a double quote or a backslash, with short escapes for the tab, the line feed, the
carriage return and the null, and with the code point in braces for every other character that does
not print or that would merge with the character before it.
-/

namespace Overlay.Quoted

/-- One character inside the quotes. -/
def escape (c : Char) : List Char :=
  if c = '\x00' then ['\\', '0']
  else if c = '\t' then ['\\', 't']
  else if c = '\n' then ['\\', 'n']
  else if c = '\r' then ['\\', 'r']
  else if c = '"' || c = '\\' then ['\\', c]
  else if Text.extendsGrapheme c || !Text.isPrintable c then
    ['\\', 'u', '{'] ++ Numeral.hex c.toNat ++ ['}']
  else [c]

/-- The text between double quotes. -/
def encode (s : List Char) : List Char :=
  ['"'] ++ s.flatMap escape ++ ['"']

/-- The text between double quotes. -/
def text (s : String) : String := String.ofList (encode s.toList)

end Overlay.Quoted
