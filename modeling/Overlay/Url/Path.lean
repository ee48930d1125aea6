import Overlay.Text.Split
import Overlay.Url.Percent

/-!
# Paths of URLs

A path is a list of segments. The path `/` has one segment, the empty one; a path that ends in a
slash has an empty segment at its end. Single-dot segments are dropped and double-dot segments take
back the segment before them. A drive letter (a letter and a colon or a bar) is never taken back.
-/

namespace Overlay.UrlPath

/-- What stands between two slashes of a path. -/
abbrev Segment := List Char

/-- A segment that stands for the place where it is. -/
def isSingleDot (s : Segment) : Bool :=
  let t := s.map Numeral.lower
  t = ['.'] || t = ['%', '2', 'e']

/-- A segment that stands for the place above. -/
def isDoubleDot (s : Segment) : Bool :=
  let t := s.map Numeral.lower
  t = ['.', '.'] || t = ['%', '2', 'e', '.'] || t = ['.', '%', '2', 'e'] ||
    t = ['%', '2', 'e', '%', '2', 'e']

/-- A letter followed by a colon or a bar. -/
def isDrive : Segment → Bool
  | [a, b] => Numeral.isLetter a && (b = ':' || b = '|')
  | _ => false

/-- A letter followed by a colon. -/
def isPlainDrive : Segment → Bool
  | [a, b] => Numeral.isLetter a && b = ':'
  | _ => false

/-- The drive letter with a colon. -/
def plainDrive : Segment → Segment
  | [a, _] => [a, ':']
  | s => s

/-- Takes back the last segment. The segments are in reverse. -/
def up : List Segment → List Segment
  | [] => []
  | s :: stack => if isDrive s then s :: stack else stack

/-- Goes through the segments of a path as they are written. What has been gone through is in
reverse. -/
def resolve (file : Bool) : List Segment → List Segment → List Segment
  | stack, [] => stack.reverse
  | stack, s :: rest =>
    let stack' :=
      if isDoubleDot s then if rest.isEmpty then [] :: up stack else up stack
      else if isSingleDot s then if rest.isEmpty then [] :: stack else stack
      else if file && stack.isEmpty && isDrive s then plainDrive s :: stack
      else s :: stack
    resolve file stack' rest

/-- Does a drive letter begin the path? -/
def hasDrive : List Segment → Bool
  | s :: _ => isDrive s
  | [] => false

/-- The path without the empty segments that it begins with. -/
def trimFront (segments : List Segment) : List Segment :=
  match segments.dropWhile List.isEmpty with
  | [] => [[]]
  | s :: rest => s :: rest

/-- The segments of a path as it is written, one slash at its front left out. In a URL with a special
scheme backslashes are slashes. -/
def written (special : Bool) (s : List Char) : List Segment :=
  let t := if special then s.map fun c => if c = '\\' then '/' else c else s
  let inside := match t with
    | '/' :: rest => rest
    | _ => t
  (Text.split '/' inside).map (Percent.encode Percent.inPath)

/-- The text of a path: a slash before each segment. -/
def toText (segments : List Segment) : List Char := segments.flatMap fun s => '/' :: s

/-- Puts a segment at the end of a path. Dots alone put nothing. Tabs and ends of lines are left out,
and dots that remain are gone through. -/
def push (special file : Bool) (segments : List Segment) (s : List Char) : List Segment :=
  if s = ['.'] || s = ['.', '.'] then segments
  else
    let kept := s.filter fun c => !(c = '\t' || c = '\n' || c = '\r')
    let stack := if segments = [[]] then [] else segments.reverse
    let path := resolve file stack [Percent.encode (Percent.inSegment special) kept]
    if file then trimFront path else path

/-- The path without the empty segment at its end, unless that is all of it. -/
def popIfEmpty (segments : List Segment) : List Segment :=
  if 1 < segments.length ∧ segments.getLast? = some [] then segments.dropLast else segments

end Overlay.UrlPath
