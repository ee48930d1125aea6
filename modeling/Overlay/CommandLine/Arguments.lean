import Overlay.Text.Split

/-!
# The arguments of the program

The program takes the path of its configuration, and whether it is to do no more than to check it. An
option with two hyphens has its value after an equals sign or in the next argument; one with a single
hyphen may be put together with others, and has its value in the rest of the argument or in the next
one. The first argument that cannot be understood gives the error.
-/

namespace Overlay.CommandLine

/-- What the program is asked to do. -/
structure Arguments where
  /-- The path of the configuration, when it is given. -/
  config : Option String := none
  /-- Is the configuration only to be checked? -/
  check : Bool := false
deriving DecidableEq

/-- Why the arguments cannot be understood. -/
inductive ArgumentError where
  /-- There is no such argument. -/
  | unexpected (argument : String)
  /-- The path of the configuration is missing. -/
  | noValue
  /-- An option is given twice. -/
  | repeated (option : String)
  /-- An option without a value is given one. -/
  | surplusValue (option value : String)
deriving DecidableEq

/-- How the option with the configuration is written. -/
def configOption : String := "--config <CONFIG>"

/-- How the option for a check is written. -/
def checkOption : String := "--check"

/-- The text of the error. -/
def ArgumentError.message : ArgumentError → String
  | unexpected argument => "unexpected argument '" ++ argument ++ "' found"
  | noValue => "a value is required for '" ++ configOption ++ "' but none was supplied"
  | repeated option => "the argument '" ++ option ++ "' cannot be used multiple times"
  | surplusValue option value =>
    "unexpected value '" ++ value ++ "' for '" ++ option ++ "' found; no more were expected"

/-- What the arguments ask for. -/
inductive Wish where
  /-- A run with these arguments. -/
  | run (a : Arguments)
  /-- The description of the arguments. -/
  | help
  /-- The version of the program. -/
  | version
deriving DecidableEq

namespace Arguments

/-- Takes the path of the configuration. -/
def setConfig (a : Arguments) (path : String) : Except ArgumentError Arguments :=
  if a.config.isSome then .error (.repeated configOption)
  else if path.isEmpty then .error .noValue
  else .ok { a with config := some path }

/-- Takes the wish for a check. -/
def setCheck (a : Arguments) : Except ArgumentError Arguments :=
  if a.check then .error (.repeated checkOption) else .ok { a with check := true }

end Arguments

/-- What an argument leaves to be done. -/
inductive Outcome where
  /-- Something that does not depend on further arguments. -/
  | wish (w : Wish)
  /-- The next argument has to be the path of the configuration. -/
  | pending (a : Arguments)
  /-- The next argument can be anything. -/
  | next (a : Arguments)

/-- Takes the letters after a single hyphen. -/
def takeLetters : List Char → Arguments → Except ArgumentError Outcome
  | [], a => .ok (.next a)
  | 'h' :: _, _ => .ok (.wish .help)
  | 'V' :: _, _ => .ok (.wish .version)
  | 'c' :: rest, a =>
    match rest with
    | [] => .ok (.pending a)
    | '=' :: value => (a.setConfig (String.ofList value)).map .next
    | _ => (a.setConfig (String.ofList rest)).map .next
  | c :: _, _ => .error (.unexpected (String.ofList ['-', c]))

/-- Takes what follows two hyphens. -/
def takeName (s : List Char) (a : Arguments) : Except ArgumentError Outcome :=
  let (name, value) := match Text.cutFirst? '=' s with
    | some (name, value) => (name, some (String.ofList value))
    | none => (s, none)
  let flag (option : String) (outcome : Except ArgumentError Outcome) :=
    match value with
    | some v => .error (.surplusValue option v)
    | none => outcome
  if name = "config".toList then
    match value with
    | some v => (a.setConfig v).map .next
    | none => .ok (.pending a)
  else if name = "check".toList then flag checkOption (a.setCheck.map .next)
  else if name = "help".toList then flag "--help" (.ok (.wish .help))
  else if name = "version".toList then flag "--version" (.ok (.wish .version))
  else .error (.unexpected (String.ofList ('-' :: '-' :: name)))

/-- Takes one argument. -/
def takeOne (s : String) (a : Arguments) : Except ArgumentError Outcome :=
  match s.toList with
  | '-' :: '-' :: rest => takeName rest a
  | '-' :: c :: rest => takeLetters (c :: rest) a
  | _ => .error (.unexpected s)

/-- May the argument be the value of an option? -/
def isValue (s : String) : Bool :=
  match s.toList with
  | '-' :: _ :: _ => false
  | _ => true

/-- Reads arguments after those that were read. Nothing may follow two hyphens alone. -/
def readFrom : List String → Arguments → Except ArgumentError Wish
  | [], a => .ok (.run a)
  | ["--"], a => .ok (.run a)
  | "--" :: s :: _, _ => .error (.unexpected s)
  | [s], a =>
    match takeOne s a with
    | .error e => .error e
    | .ok (.wish w) => .ok w
    | .ok (.pending _) => .error .noValue
    | .ok (.next a) => .ok (.run a)
  | s :: value :: rest, a =>
    match takeOne s a with
    | .error e => .error e
    | .ok (.wish w) => .ok w
    | .ok (.next a) => readFrom (value :: rest) a
    | .ok (.pending a) =>
      if isValue value then
        match a.setConfig value with
        | .ok a => readFrom rest a
        | .error e => .error e
      else .error .noValue

/-- Reads the arguments. -/
def read (arguments : List String) : Except ArgumentError Wish := readFrom arguments {}

end Overlay.CommandLine
