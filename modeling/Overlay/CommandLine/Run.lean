import Overlay.CommandLine.Arguments
import Overlay.Config.Read
import Overlay.Log.Entry

/-!
# A run of the program

A run reads the arguments and the configuration. When it is only to check the configuration, it says
that it is valid and ends. Otherwise it starts an agent, for which it has to open the device of the
tunnel; `start` ends where no device can be opened.

A run either ends at once or has to read one file first; `plan` says which. The variables of the
environment are given by a function, and what a run writes is its result.
-/

namespace Overlay.CommandLine

/-- What a run leaves behind. -/
structure Report where
  /-- The exit status. -/
  exit : UInt32 := 0
  /-- The lines of the output. -/
  output : List String := []
  /-- The lines of the error output. -/
  errors : List String := []
deriving DecidableEq

/-- The name of the program. -/
def programName : String := "loom-overlay-edge"

/-- The version of the program. -/
def programVersion : String := "0.1.0"

/-- The part of the program that log entries come from. -/
def logTarget : String := "loom_overlay_edge"

/-- The variable with the path of the configuration. -/
def configVariable : String := "LOOM_OVERLAY_CONFIG"

/-- The variable with the filter of the log. -/
def filterVariable : String := "RUST_LOG"

/-- The path of the configuration when none is given. -/
def defaultConfig : String := "/etc/loom/overlay.toml"

/-- The line that says how the program is used. -/
def usage : String := "Usage: " ++ programName ++ " [OPTIONS]"

/-- The description of the arguments, given the value of the variable with the path. -/
def helpLines (path : Option String) : List String :=
  ["Loom overlay network edge agent", "", usage, "", "Options:",
    "  -c, --config <CONFIG>  Path to the TOML configuration file [env: " ++ configVariable ++ "=" ++
      path.getD "" ++ "] [default: " ++ defaultConfig ++ "]",
    "      --check            Validate the configuration and exit",
    "  -h, --help             Print help",
    "  -V, --version          Print version"]

/-- What is left behind when the arguments cannot be understood. -/
def refused (e : ArgumentError) : Report where
  exit := 2
  errors := ["error: " ++ e.message, "", usage, "", "For more information, try '--help'."]

/-- What is left behind when the run fails for a reason with a cause. -/
def failed (output : List String) (reason cause : String) : Report where
  exit := 1
  output := output
  errors := ["Error: " ++ reason, "", "Caused by:", "    " ++ cause]

/-- The cause of a failure to load the configuration at a path. -/
def configCause (path : String) : ConfigError → String
  | .unreadable => "failed to read " ++ path
  | .malformed => "parse error"
  | .invalid e => e.message

/-- The filter of the log: the one that is given, if it can be read, and else that of the
configuration. -/
def filterOf (c : Config) (given : Option String) : Log.Filter :=
  match given.bind fun s => Log.Filter.ofText? s.toList with
  | some f => f
  | none => Log.Filter.ofTextLossy c.log.level.toList

/-- What is written about something that has happened, under the given filter of the log. -/
def logged (c : Config) (filter : Option String) (message : String)
    (fields : List (String × String)) : List String :=
  (Log.Entry.line? ⟨.info, logTarget, message, fields⟩ c.log.json (filterOf c filter)).toList

/-- A run with a configuration that was found valid at a path. -/
def check (c : Config) (filter : Option String) (path : String) : Report where
  output := logged c filter "configuration is valid" [("path", path)]

/-- A run that starts an agent with a valid configuration. -/
def start (c : Config) (filter : Option String) : Report :=
  failed
    (logged c filter ("starting " ++ programName)
      [("edge", c.registry.name), ("listen_addr", toString c.tunnel.listen),
        ("device", c.tunnel.device), ("address", toString c.tunnel.address)])
    "failed to initialise edge daemon" "no device can be opened"

/-- The text of a variable, when it is one. -/
def text? (environment : String → Option (List UInt8)) (name : String) : Option String :=
  ((environment name).bind Utf8.decode?).map String.ofList

/-- The run when the file at the path of the configuration has the given bytes. -/
def withFile (onlyCheck : Bool) (environment : String → Option (List UInt8)) (path : String)
    (file : Option (List UInt8)) : Report :=
  match Config.load file environment with
  | .error e => failed [] ("failed to load config from " ++ path) (configCause path e)
  | .ok c =>
    let filter := text? environment filterVariable
    if onlyCheck then check c filter path else start c filter

/-- What a run comes to. -/
inductive Plan where
  /-- It ends at once. -/
  | done (r : Report)
  /-- It reads the file at a path, and what it leaves behind depends on the bytes of the file. -/
  | load (path : String) (next : Option (List UInt8) → Report)

/-- What a run comes to, given its arguments and the variables of the environment. The path of the
configuration is taken from the arguments, from its variable or from nowhere, in this order. -/
def plan (arguments : List String) (environment : String → Option (List UInt8)) : Plan :=
  let setting := (environment configVariable).map fun bytes =>
    String.ofList (Utf8.decodeLossy bytes)
  match read arguments with
  | .error e => .done (refused e)
  | .ok .help => .done { output := helpLines setting }
  | .ok .version => .done { output := [programName ++ " " ++ programVersion] }
  | .ok (.run a) =>
    let path := (a.config.or setting).getD defaultConfig
    if path.isEmpty then .done (refused .noValue)
    else .load path (withFile a.check environment path)

end Overlay.CommandLine
