import Overlay.Toml.Scalar
import Overlay.Toml.Table

/-!
# TOML documents

A document is a list of statements, one a line: a header that begins a table, a header that begins a
table of an array, or a key with its value. `Toml.read?` reads a document as the table it describes.
-/

namespace Overlay.Toml

open Reader

/-- A key, an equals sign and a value. -/
def pairOf (value : Reader Toml) : Reader ((List (List Char) × List Char) × Toml) := do
  let k ← key
  char '='
  spaces
  let v ← value
  return (k, v)

/-- An array, over any number of lines, with an optional comma at its end. -/
def arrayOf (value : Reader Toml) : Reader Toml := do
  char '['
  let items ← (sepBy1 (blanks *> value <* blanks) (char ',') <* optional (char ',')) <|> return []
  blanks
  char ']'
  return array items

/-- A table in braces on one line. -/
def braced (value : Reader Toml) : Reader Toml := do
  char '{'
  let pairs ← sepBy1 (pairOf value <* spaces) (char ',') <|> return []
  spaces
  char '}'
  match pairs.foldlM (fun (ms : Members) ((path, k), v) => ms.put path k v) [] with
  | some ms => return ms.finish
  | none => failure

/-- A value with at most so many arrays and tables inside one another. -/
def valueWithin : Nat → Reader Toml
  | 0 => scalar
  | levels + 1 => do
    match ← peek with
    | some '[' => arrayOf (valueWithin levels)
    | some '{' => braced (valueWithin levels)
    | _ => scalar

/-- A line of a document. -/
inductive Statement where
  /-- A line without content. -/
  | empty
  /-- A header in brackets. -/
  | table (path : List (List Char)) (key : List Char)
  /-- A header in double brackets. -/
  | element (path : List (List Char)) (key : List Char)
  /-- A key and its value. -/
  | pair (path : List (List Char)) (key : List Char) (v : Toml)

/-- What may follow a header or a value on its line. -/
def lineEnd : Reader Unit := spaces *> optional comment *> (newline <|> ending)

/-- One statement. -/
def statement : Reader Statement := do
  spaces
  match ← peek with
  | some '#' => comment *> (newline <|> ending) *> return .empty
  | some '\n' => newline *> return .empty
  | some '\r' => newline *> return .empty
  | some '[' =>
    (do
      word ['[', '[']
      let (path, k) ← key
      word [']', ']']
      lineEnd
      return .element path k) <|> do
      char '['
      let (path, k) ← key
      char ']'
      lineEnd
      return .table path k
  | _ =>
    let ((path, k), v) ← pairOf (valueWithin (levelLimit - 1))
    lineEnd
    return .pair path k v

/-- The statements of a document. A byte order mark may stand in front of them. -/
def statements : Reader (List Statement) :=
  optional (char '\uFEFF') *> many statement <* spaces

/-- The members of the document and the header of the table that is being written. -/
structure Draft where
  /-- The members of the whole document. -/
  members : Members
  /-- The header whose table the next values belong to. -/
  header : List (List Char)

/-- Adds a statement. -/
def Draft.add (d : Draft) : Statement → Option Draft
  | .empty => some d
  | .table path k => (d.members.openTable path k).map (⟨·, path ++ [k]⟩)
  | .element path k => (d.members.openElement path k).map (⟨·, path ++ [k]⟩)
  | .pair path k v => (d.members.putUnder d.header path k v).map (⟨·, d.header⟩)

/-- Reads a document. -/
def read? (s : List Char) : Option Toml :=
  match whole? statements s with
  | some ls => (ls.foldlM Draft.add ⟨[], []⟩).map fun d => d.members.finish
  | none => none

end Overlay.Toml
