import Overlay.Text.Numeral

/-!
# Text in JSON

A text stands between double quotes. `encode` writes it with the short escapes where JSON has one,
with `\u` and four digits for the other characters below the space, and with every other character
as it is. `scan?` reads everything that JSON allows between quotes, as a list of pieces: a character,
or a code unit of UTF-16 that was written as `\u` and four digits. `ofPieces?` puts the pieces
together; it fails on half of a surrogate pair, which names no character.

The two steps are separate because a reader that only skips a text never looks at its code units.
-/

namespace Overlay.Json

/-- One piece of a text as it is written. -/
inductive Piece where
  /-- A character, written as it is or with a short escape. -/
  | char (c : Char)
  /-- A code unit of UTF-16, written with four hexadecimal digits. -/
  | unit (u : Nat)
deriving DecidableEq

namespace Piece

/-- Is this the first half of a surrogate pair? -/
def isHigh (u : Nat) : Bool := 0xD800 ≤ u ∧ u < 0xDC00

/-- Is this the second half of a surrogate pair? -/
def isLow (u : Nat) : Bool := 0xDC00 ≤ u ∧ u < 0xE000

/-- The text that the pieces write, unless a surrogate stands alone. -/
def ofPieces? : List Piece → Option (List Char)
  | [] => some []
  | char c :: rest => (ofPieces? rest).map (c :: ·)
  | unit u :: char c :: rest =>
    if isHigh u || isLow u then none
    else (ofPieces? (char c :: rest)).map (Char.ofNat u :: ·)
  | unit u :: unit v :: rest =>
    if isHigh u && isLow v then
      (ofPieces? rest).map (Char.ofNat (0x10000 + (u - 0xD800) * 1024 + (v - 0xDC00)) :: ·)
    else if isHigh u || isLow u then none
    else (ofPieces? (unit v :: rest)).map (Char.ofNat u :: ·)
  | [unit u] => if isHigh u || isLow u then none else some [Char.ofNat u]

end Piece

namespace Text

/-- The character that a backslash and this letter stand for. -/
def shortEscape? (c : Char) : Option Char :=
  if c = '"' || c = '\\' || c = '/' then some c
  else if c = 'b' then some '\x08'
  else if c = 'f' then some '\x0c'
  else if c = 'n' then some '\n'
  else if c = 'r' then some '\r'
  else if c = 't' then some '\t'
  else none

/-- The number written by four hexadecimal digits. -/
def unit? (a b c d : Char) : Option Nat :=
  match Numeral.hexDigit? a, Numeral.hexDigit? b, Numeral.hexDigit? c, Numeral.hexDigit? d with
  | some a, some b, some c, some d => some (((a * 16 + b) * 16 + c) * 16 + d)
  | _, _, _, _ => none

/-- Puts a piece in front of what was scanned after it. -/
def cons (p : Piece) : List Piece × List Char → List Piece × List Char
  | (ps, rest) => (p :: ps, rest)

/-- Reads up to the closing quote: the pieces and what follows the quote. A character below the
space has to be escaped. -/
def scan? : List Char → Option (List Piece × List Char)
  | [] => none
  | '"' :: rest => some ([], rest)
  | '\\' :: 'u' :: a :: b :: c :: d :: s =>
    match unit? a b c d, scan? s with
    | some u, some r => some (cons (.unit u) r)
    | _, _ => none
  | '\\' :: e :: s =>
    match shortEscape? e, scan? s with
    | some c, some r => some (cons (.char c) r)
    | _, _ => none
  | c :: s =>
    if c.toNat < 0x20 || c = '\\' then none
    else (scan? s).map (cons (.char c))

/-- One character of a text as it is written. -/
def escape (c : Char) : List Char :=
  if c = '"' then ['\\', '"']
  else if c = '\\' then ['\\', '\\']
  else if c = '\x08' then ['\\', 'b']
  else if c = '\x0c' then ['\\', 'f']
  else if c = '\n' then ['\\', 'n']
  else if c = '\r' then ['\\', 'r']
  else if c = '\t' then ['\\', 't']
  else if c.toNat < 0x20 then ['\\', 'u', '0', '0'] ++ Numeral.hexByte c.toNat
  else [c]

/-- The text between double quotes. -/
def encode (s : List Char) : List Char := ['"'] ++ s.flatMap escape ++ ['"']

end Text

end Overlay.Json
