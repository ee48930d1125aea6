import Overlay.Json.Record
import Overlay.Log.Filter

/-!
# Log entries

An entry says what has happened, and names what it has happened to by fields. It is written on one
line, either as text or in JSON. Whoever collects the lines adds the time.
-/

namespace Overlay.Log

/-- The name of a level. -/
def Level.name : Level → String
  | error => "ERROR"
  | warn => "WARN"
  | info => "INFO"
  | debug => "DEBUG"
  | trace => "TRACE"

/-- An entry. -/
structure Entry where
  /-- How grave it is. -/
  level : Level
  /-- Which part of the program it comes from. -/
  target : String
  /-- What has happened. -/
  message : String
  /-- What it has happened to. -/
  fields : List (String × String)
deriving DecidableEq

namespace Entry

/-- The entry as text. -/
def text (e : Entry) : String :=
  e.level.name ++ " " ++ e.target ++ ": " ++ e.message ++
    String.join (e.fields.map fun (k, v) => " " ++ k ++ "=" ++ v)

/-- The entry in JSON. -/
def jsonText (e : Entry) : String :=
  let fields := Json.recordText (("message", e.message) :: e.fields)
  String.ofList (['{'] ++ Json.memberText "level" e.level.name ++ [','] ++
    Json.Text.encode "fields".toList ++ [':'] ++ fields ++ [','] ++
    Json.memberText "target" e.target ++ ['}'])

/-- The line of the entry, unless the filter holds it back. -/
def line? (e : Entry) (json : Bool) (f : Filter) : Option String :=
  if f.allows e.level e.target.toList then some (if json then e.jsonText else e.text) else none

end Entry

end Overlay.Log
