import Overlay.Text.Numeral
import Overlay.Text.Split

/-!
# Which log entries are written

A filter is a list of directives with commas between them. A directive gives a level, a target, or a
target and a level with an equals sign between them; a target alone lets everything through. Among the
directives whose target begins that of an entry the one with the longest target decides, and among
several with the same target the last one. Without any directive only errors are written.
-/

namespace Overlay.Log

/-- How grave an entry is. -/
inductive Level where
  /-- Something has failed. -/
  | error
  /-- Something is not as it should be. -/
  | warn
  /-- Something has happened. -/
  | info
  /-- A detail. -/
  | debug
  /-- A small detail. -/
  | trace
deriving DecidableEq

/-- The number of levels up to this one. -/
def Level.rank : Level → Nat
  | error => 1
  | warn => 2
  | info => 3
  | debug => 4
  | trace => 5

/-- How many levels a name or a digit lets through. -/
def limit? (s : List Char) : Option Nat :=
  let names := ["off", "error", "warn", "info", "debug", "trace"].map String.toList
  match names.idxOf? (s.map Numeral.lower) with
  | some n => some n
  | none => ["0", "1", "2", "3", "4", "5"].map String.toList |>.idxOf? s

/-- A rule of a filter. -/
structure Directive where
  /-- What the target of an entry begins with. -/
  target : List Char
  /-- How many levels are let through. -/
  limit : Nat
deriving DecidableEq

/-- A character of a target. -/
def isTargetChar (c : Char) : Bool :=
  Numeral.isLetter c || Numeral.isDigit c || c = '_' || c = ':' || c = '-'

/-- Is this the text of a target? -/
def isTarget (s : List Char) : Bool := !s.isEmpty && s.all isTargetChar

/-- The rule that a target and the text of a level make. No text lets everything through. -/
def Directive.ofParts? (target level : List Char) : Option Directive :=
  if isTarget target then
    if level.isEmpty then some ⟨target, Level.trace.rank⟩
    else (limit? level).map fun n => ⟨target, n⟩
  else none

/-- Reads a rule. -/
def Directive.ofText? (s : List Char) : Option Directive :=
  match limit? s with
  | some n => some ⟨[], n⟩
  | none =>
    match Text.cutFirst? '=' s with
    | some (target, level) => ofParts? target level
    | none => ofParts? s []

/-- A filter. -/
abbrev Filter := List Directive

namespace Filter

/-- The texts of the directives. -/
def texts (s : List Char) : List (List Char) := (Text.split ',' s).filter fun t => !t.isEmpty

/-- Reads a filter all of whose directives can be read. -/
def ofText? (s : List Char) : Option Filter := (texts s).mapM Directive.ofText?

/-- Reads a filter and leaves out the directives that cannot be read. -/
def ofTextLossy (s : List Char) : Filter := (texts s).filterMap Directive.ofText?

/-- The rule that decides about a target. -/
def ruleFor (f : Filter) (target : List Char) : Option Directive :=
  (f.filter fun d => (Text.dropFront? d.target target).isSome).foldl (fun best d =>
    match best with
    | some b => if b.target.length ≤ d.target.length then some d else some b
    | none => some d) none

/-- Is an entry of this level and target written? -/
def allows (f : Filter) (level : Level) (target : List Char) : Bool :=
  if f.isEmpty then level = .error
  else
    match f.ruleFor target with
    | some d => level.rank ≤ d.limit
    | none => false

end Filter

end Overlay.Log
