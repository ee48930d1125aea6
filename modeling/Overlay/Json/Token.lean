import Overlay.Json.Value

/-!
# Tokens of JSON

The text of a value falls into tokens: brackets, braces, colons, commas, the three words, numbers
and texts, with blanks between them. `Token.scan?` reads all of them or fails.
-/

namespace Overlay.Json

/-- A token of JSON. -/
inductive Token where
  /-- An opening brace. -/
  | openObject
  /-- A closing brace. -/
  | closeObject
  /-- An opening bracket. -/
  | openArray
  /-- A closing bracket. -/
  | closeArray
  /-- A colon. -/
  | colon
  /-- A comma. -/
  | comma
  /-- A value that takes a single token. -/
  | atom (value : Json)

namespace Token

/-- The four characters that may stand between tokens. -/
def isSpace (c : Char) : Bool := c = ' ' || c = '\t' || c = '\n' || c = '\r'

/-- A run of digits and what follows it. -/
def digitRun (s : List Char) : List Char × List Char := s.span Numeral.isDigit

/-- The number written by a run of digits, zero for an empty one. -/
def runValue (s : List Char) : Nat := (Numeral.decimal? s).getD 0

/-- The exponent of a number, zero when there is none, and what follows it. -/
def exponent? (s : List Char) : Option (Int × List Char) :=
  match s with
  | c :: t =>
    if c = 'e' || c = 'E' then
      let (sign, t) : Int × List Char := match t with
        | '+' :: u => (1, u)
        | '-' :: u => (-1, u)
        | _ => (1, t)
      let (ds, rest) := digitRun t
      if ds.isEmpty then none else some (sign * runValue ds, rest)
    else some (0, s)
  | [] => some (0, s)

/-- The fraction of a number, no digits when there is none, and what follows it. -/
def fraction? (s : List Char) : Option (List Char × List Char) :=
  match s with
  | '.' :: t =>
    let (ds, rest) := digitRun t
    if ds.isEmpty then none else some (ds, rest)
  | _ => some ([], s)

/-- A number and what follows it. A leading zero is the whole of the integer part. -/
def number? (s : List Char) : Option (Scientific × List Char) :=
  let (negative, s) := match s with
    | '-' :: t => (true, t)
    | _ => (false, s)
  let (ds, rest) := digitRun s
  if ds.isEmpty || (ds.head? = some '0' && ds.length ≠ 1) then none
  else
    match fraction? rest with
    | none => none
    | some (fs, rest) =>
      match exponent? rest with
      | none => none
      | some (e, rest) => some (⟨negative, runValue (ds ++ fs), e - fs.length⟩, rest)

/-- The first token of a text that does not begin with a blank, and what follows it. -/
def next? : List Char → Option (Token × List Char)
  | '{' :: s => some (openObject, s)
  | '}' :: s => some (closeObject, s)
  | '[' :: s => some (openArray, s)
  | ']' :: s => some (closeArray, s)
  | ':' :: s => some (colon, s)
  | ',' :: s => some (comma, s)
  | 'n' :: 'u' :: 'l' :: 'l' :: s => some (atom .null, s)
  | 't' :: 'r' :: 'u' :: 'e' :: s => some (atom (.bool true), s)
  | 'f' :: 'a' :: 'l' :: 's' :: 'e' :: s => some (atom (.bool false), s)
  | '"' :: s => (Text.scan? s).map fun (ps, rest) => (atom (.text (Piece.ofPieces? ps)), rest)
  | s => (number? s).map fun (n, rest) => (atom (.number n), rest)

/-- The tokens of a text whose length is at most the first argument. -/
def scanWithin? : Nat → List Char → Option (List Token)
  | 0, s => if s.isEmpty then some [] else none
  | _ + 1, [] => some []
  | n + 1, c :: s =>
    if isSpace c then scanWithin? n s
    else
      match next? (c :: s) with
      | none => none
      | some (t, rest) => (scanWithin? n rest).map (t :: ·)

/-- The tokens of a text: every token takes at least one character. -/
def scan? (s : List Char) : Option (List Token) := scanWithin? s.length s

end Token

end Overlay.Json
