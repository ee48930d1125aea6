import Overlay.Text.Split

/-!
# Readers

A reader takes something from the front of a text and leaves the rest, or fails. Readers are put
together in sequence; of two alternatives the second begins where the first began. `many` repeats a
reader that takes at least one character each time, so that the length of the text bounds the number
of repetitions.
-/

namespace Overlay

/-- Takes something from the front of a text, or fails. -/
abbrev Reader (α : Type) := StateT (List Char) Option α

namespace Reader

variable {α β : Type}

/-- The next character, which is not taken. -/
def peek : Reader (Option Char) := fun s => some (s.head?, s)

/-- Takes one character. -/
def any : Reader Char := fun s =>
  match s with
  | c :: rest => some (c, rest)
  | [] => none

/-- Takes one character that satisfies `p`. -/
def satisfy (p : Char → Bool) : Reader Char := fun s =>
  match s with
  | c :: rest => if p c then some (c, rest) else none
  | [] => none

/-- Takes the given character. -/
def char (c : Char) : Reader Unit := discard (satisfy (· = c))

/-- Takes the given characters. -/
def word (w : List Char) : Reader Unit := fun s => (Text.dropFront? w s).map ((), ·)

/-- Takes the longest run, possibly empty, of characters that satisfy `p`. -/
def run (p : Char → Bool) : Reader (List Char) := fun s => some (s.span p)

/-- Takes the longest run of characters that satisfy `p`, at least one of them. -/
def run1 (p : Char → Bool) : Reader (List Char) := fun s =>
  let (taken, rest) := s.span p
  if taken.isEmpty then none else some (taken, rest)

/-- Succeeds where the text ends. -/
def ending : Reader Unit := fun s => if s.isEmpty then some ((), s) else none

/-- The characters that a reader takes. -/
def taken (r : Reader α) : Reader (List Char) := fun s =>
  (r s).map fun (_, rest) => (s.take (s.length - rest.length), rest)

/-- Repeats a reader until it fails, but at most `n` times. What was read is put in front of `acc`,
which is in reverse. -/
def manyWithin (r : Reader α) : Nat → List α → List Char → List α × List Char
  | 0, acc, s => (acc.reverse, s)
  | n + 1, acc, s =>
    match r s with
    | some (a, rest) => manyWithin r n (a :: acc) rest
    | none => (acc.reverse, s)

/-- Repeats a reader that takes at least one character until it fails. -/
def many (r : Reader α) : Reader (List α) := fun s => some (manyWithin r s.length [] s)

/-- At least one item, with separators between the items. -/
def sepBy1 (item : Reader α) (separator : Reader β) : Reader (List α) := do
  let first ← item
  let rest ← many (separator *> item)
  return first :: rest

/-- Repeats a reader `n` times. -/
def times (r : Reader α) : Nat → Reader (List α)
  | 0 => return []
  | n + 1 => do
    let first ← r
    let rest ← times r n
    return first :: rest

/-- Reads a whole text. -/
def whole? (r : Reader α) (s : List Char) : Option α :=
  match r s with
  | some (a, []) => some a
  | _ => none

end Reader

end Overlay
