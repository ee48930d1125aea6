import Overlay.Member.Edge
import Overlay.Text.Split
import Overlay.Text.Utf8

/-!
# Event streams

The controller publishes changes of the membership as a stream of events. A stream is a text of lines.
A line ends in CR LF, in LF or in CR, and a CR at the very end may still be half of an end. A line
that begins with a colon is a comment; any other line names a field and, after a colon and at most one
space, gives its value. The lines up to an empty one make an event; without a line of data they make
none. What no empty line follows is no event yet.

A stream is read from bytes up to the first that is not UTF-8, and one byte order mark at its beginning
is no part of it.
-/

namespace Overlay

/-- An event of a stream. -/
structure StreamEvent where
  /-- The name of the event. -/
  name : String
  /-- The lines of data with a line feed between them. -/
  data : String
deriving DecidableEq

namespace EventStream

/-- The name of an event that names none. -/
def defaultName : List Char := "message".toList

/-- The complete lines of a text, when the characters of `line`, the last one first, stand before
it. -/
def linesAfter : List Char → List Char → List (List Char)
  | _, [] => []
  | line, '\n' :: s => line.reverse :: linesAfter [] s
  | _, ['\r'] => []
  | line, '\r' :: '\n' :: s => line.reverse :: linesAfter [] s
  | line, '\r' :: s => line.reverse :: linesAfter [] s
  | line, c :: s => linesAfter (c :: line) s

/-- The complete lines of a text. -/
def lines (s : List Char) : List (List Char) := linesAfter [] s

/-- The name of a field and its value. The name of a comment is empty. -/
def field (line : List Char) : List Char × List Char :=
  match Text.cutFirst? ':' line with
  | some (name, ' ' :: value) => (name, value)
  | some (name, value) => (name, value)
  | none => (line, [])

/-- An event that has not come to its end. -/
structure Pending where
  /-- The name that was given last. -/
  name : List Char := []
  /-- The lines of data, the latest first. -/
  data : List (List Char) := []

/-- Takes one more line that is not empty. -/
def Pending.add (p : Pending) (line : List Char) : Pending :=
  let (name, value) := field line
  if name = "event".toList then { p with name := value }
  else if name = "data".toList then { p with data := value :: p.data }
  else p

/-- The event, now that it has come to its end. -/
def Pending.event? (p : Pending) : Option StreamEvent :=
  if p.data.isEmpty then none
  else
    some ⟨String.ofList (if p.name.isEmpty then defaultName else p.name),
      String.ofList (Text.join ['\n'] p.data.reverse)⟩

/-- The events that lines make after a pending one. -/
def dispatch : Pending → List (List Char) → List StreamEvent
  | _, [] => []
  | p, [] :: rest =>
    match p.event? with
    | some e => e :: dispatch {} rest
    | none => dispatch {} rest
  | p, line :: rest => dispatch (p.add line) rest

/-- The text without the byte order mark at its beginning. -/
def dropMark : List Char → List Char
  | [] => []
  | c :: s => if c = Char.ofNat 0xFEFF then s else c :: s

/-- The events of a stream that is given by its bytes. -/
def events (body : List UInt8) : List StreamEvent :=
  dispatch {} (lines (dropMark (Utf8.decodeUntilBad body)))

end EventStream

/-- The change of the membership that an event publishes. -/
def StreamEvent.change? (e : StreamEvent) : Option EdgeEvent :=
  if e.name.toList = EventStream.defaultName then EdgeEvent.ofJsonText? e.data.toList else none

end Overlay
