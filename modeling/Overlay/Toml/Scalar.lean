import Overlay.Text.Numeral
import Overlay.Text.Reader
import Overlay.Text.Scientific
import Overlay.Toml.Value

/-!
# TOML scalars

The values without parts: four kinds of text, numbers, truth values and moments, and the keys of
tables. The characters of a text are all but the controls; the tab is allowed, and in the two kinds
of text that may have several lines also the line feed, alone or after a carriage return.
-/

namespace Overlay.Toml

open Reader

/-- The two characters that may stand between tokens. -/
def isSpace (c : Char) : Bool := c = ' ' || c = '\t'

/-- A character that may stand in a comment or a text: no control except the tab. -/
def isPlain (c : Char) : Bool := c = '\t' || (0x20 ≤ c.toNat && c.toNat ≠ 0x7F)

/-- A character of a key without quotes. -/
def isBare (c : Char) : Bool :=
  Numeral.isLetter c || Numeral.isDigit c || c = '-' || c = '_'

/-- Blanks within a line. -/
def spaces : Reader Unit := discard (run isSpace)

/-- The end of a line. -/
def newline : Reader Unit := char '\n' <|> word ['\r', '\n']

/-- A comment, up to the end of its line. -/
def comment : Reader Unit := char '#' *> discard (run isPlain)

/-- Blanks, ends of lines and whole comments. -/
def blanks : Reader Unit :=
  discard (many (discard (run1 isSpace) <|> newline <|> (comment *> newline)))

/-! ## Texts -/

/-- The character with the code point that `n` hexadecimal digits write. -/
def codePoint (n : Nat) : Reader Char := do
  let ds ← times (satisfy Numeral.isHexDigit) n
  match Numeral.hex? ds with
  | some k => if k.isValidChar then return Char.ofNat k else failure
  | none => failure

/-- What a backslash and the characters after it stand for. -/
def escape : Reader Char := do
  char '\\'
  match ← any with
  | 'b' => return '\x08'
  | 't' => return '\t'
  | 'n' => return '\n'
  | 'f' => return '\x0c'
  | 'r' => return '\r'
  | '"' => return '"'
  | '\\' => return '\\'
  | 'u' => codePoint 4
  | 'U' => codePoint 8
  | _ => failure

/-- A backslash before the end of a line: the text goes on at the next character that is neither a
blank nor the end of a line. -/
def continuation : Reader Unit := do
  char '\\'
  spaces
  newline
  discard (many (discard (run1 isSpace) <|> newline))

/-- A character of a text in double quotes that stands for itself. -/
def isBasic (c : Char) : Bool := isPlain c && c ≠ '"' && c ≠ '\\'

/-- A character of a text in single quotes. -/
def isLiteral (c : Char) : Bool := isPlain c && c ≠ '\''

/-- A text in double quotes on one line. -/
def basicText : Reader (List Char) := do
  char '"'
  let parts ← many (run1 isBasic <|> (do return [← escape]))
  char '"'
  return parts.flatten

/-- A text in single quotes on one line, in which nothing is escaped. -/
def literalText : Reader (List Char) := char '\'' *> run isLiteral <* char '\''

/-- A text between threefold quotes. An end of line right after the opening quotes is left out. One
or two quotes may stand anywhere in the text, also right before the closing ones. -/
def longText (quote : Char) (part : Reader (List Char)) : Reader (List Char) := do
  word [quote, quote, quote]
  discard (optional newline)
  let inside : Reader (List Char) := do
    let quotes ← run1 (· = quote)
    if quotes.length < 3 then return quotes else failure
  let parts ← many (part <|> inside)
  let quotes ← run (· = quote)
  if 3 ≤ quotes.length ∧ quotes.length ≤ 5 then
    return parts.flatten ++ List.replicate (quotes.length - 3) quote
  else failure

/-- A part of a text between threefold double quotes. -/
def basicPart : Reader (List Char) :=
  run1 isBasic <|> (newline *> return ['\n']) <|> (continuation *> return []) <|>
    (do return [← escape])

/-- A part of a text between threefold single quotes. -/
def literalPart : Reader (List Char) := run1 isLiteral <|> (newline *> return ['\n'])

/-- A text of any of the four kinds. -/
def quotedText : Reader (List Char) :=
  longText '"' basicPart <|> basicText <|> longText '\'' literalPart <|> literalText

/-! ## Keys -/

/-- One part of a key: bare, or quoted on one line. -/
def keyPart : Reader (List Char) := run1 isBare <|> basicText <|> literalText

/-- Neither the parts of a key nor the levels of a value reach this number. -/
def levelLimit : Nat := 80

/-- The parts of a key with dots between them: those before the last one, and the last one. -/
def key : Reader (List (List Char) × List Char) := do
  let parts ← sepBy1 (spaces *> keyPart <* spaces) (char '.')
  match parts.reverse with
  | last :: front => if parts.length < levelLimit then return (front.reverse, last) else failure
  | [] => failure

/-! ## Numbers -/

/-- Digits that satisfy `p`, with single underscores allowed between them. -/
def digitsOf (p : Char → Bool) : Reader (List Char) := do
  let first ← satisfy p
  let rest ← many (satisfy p <|> (char '_' *> satisfy p))
  return first :: rest

/-- A sign, if there is one: is it a minus sign? -/
def sign : Reader Bool := (char '-' *> return true) <|> (char '+' *> return false) <|> return false

/-- The digits of a decimal number, which has no leading zero. -/
def wholeDigits : Reader (List Char) := do
  let ds ← digitsOf Numeral.isDigit
  if ds.length ≠ 1 ∧ ds.head? = some '0' then failure else return ds

/-- A number of sixty-four bits in two's complement. -/
def integerOf (negative : Bool) (magnitude : Nat) : Reader Toml :=
  if magnitude < 0x8000000000000000 ∨ (negative ∧ magnitude = 0x8000000000000000) then
    return integer (if negative then - magnitude else magnitude)
  else failure

/-- A number with a mark for its base. -/
def basedInteger : Reader Toml := do
  char '0'
  let base ← match ← any with
    | 'x' => pure 16
    | 'o' => pure 8
    | 'b' => pure 2
    | _ => failure
  let ds ← digitsOf Numeral.isHexDigit
  match Numeral.based? base ds with
  | some n => integerOf false n
  | none => failure

/-- The digits after the point. -/
def fraction : Reader (List Char) := char '.' *> digitsOf Numeral.isDigit

/-- The power of ten. -/
def exponent : Reader Int := do
  discard (satisfy fun c => c = 'e' || c = 'E')
  let negative ← sign
  let ds ← digitsOf Numeral.isDigit
  let n := (Numeral.decimal? ds).getD 0
  return if negative then - n else n

/-- A decimal number. It is whole when it has neither a fraction nor a power of ten. A number too
great for a double is refused unless it has a minus sign. -/
def decimalNumber : Reader Toml := do
  let start ← get
  let negative ← sign
  let ds ← wholeDigits
  let fs ← optional fraction
  let e ← optional exponent
  let rest ← get
  let magnitude := (Numeral.decimal? (ds ++ fs.getD [])).getD 0
  match fs, e with
  | none, none => integerOf negative magnitude
  | _, _ =>
    let n : Scientific := ⟨negative, magnitude, e.getD 0 - (fs.getD []).length⟩
    if n.finite || negative then return float (start.take (start.length - rest.length))
    else failure

/-- Infinity, or what is not a number. -/
def specialNumber : Reader Toml := do
  return float (← taken (sign *> (word "inf".toList <|> word "nan".toList)))

/-! ## Moments -/

/-- A number of two digits, at least `least` and at most `greatest`. -/
def twoDigits (least greatest : Nat) : Reader Nat := do
  let ds ← times (satisfy Numeral.isDigit) 2
  let n := (Numeral.decimal? ds).getD 0
  if least ≤ n ∧ n ≤ greatest then return n else failure

/-- The number of days of a month. -/
def daysOf (year month : Nat) : Nat :=
  if month = 2 then
    if year % 4 = 0 ∧ (year % 100 ≠ 0 ∨ year % 400 = 0) then 29 else 28
  else if [4, 6, 9, 11].contains month then 30
  else 31

/-- A date of the calendar. -/
def date : Reader Unit := do
  let ds ← times (satisfy Numeral.isDigit) 4
  char '-'
  let month ← twoDigits 1 12
  char '-'
  discard (twoDigits 1 (daysOf ((Numeral.decimal? ds).getD 0) month))

/-- A time of the day. A minute may have a sixty-first second. -/
def time : Reader Unit := do
  discard (twoDigits 0 23)
  char ':'
  discard (twoDigits 0 59)
  char ':'
  discard (twoDigits 0 60)
  discard (optional (char '.' *> run1 Numeral.isDigit))

/-- The distance from universal time. -/
def zone : Reader Unit :=
  discard (satisfy fun c => c = 'Z' || c = 'z') <|> do
    discard (satisfy fun c => c = '+' || c = '-')
    discard (twoDigits 0 23)
    char ':'
    discard (twoDigits 0 59)

/-- A date, a date and a time, or a time. -/
def momentText : Reader (List Char) :=
  taken (date *> optional (satisfy (fun c => c = 'T' || c = 't' || c = ' ') *> time *> optional zone))
    <|> taken time

/-- A value without parts. -/
def scalar : Reader Toml :=
  (text <$> quotedText) <|> (moment <$> momentText) <|> basedInteger <|> decimalNumber <|>
    specialNumber <|> (word "true".toList *> return bool true) <|>
    (word "false".toList *> return bool false)

end Overlay.Toml
