import Overlay.IoError
import Overlay.Net.Subnet
import Overlay.Json.Value
import Overlay.Text.Blank
import Overlay.Text.Utf8

/-!
# Commands that change the routes of the host

The routing table of the host is changed by a program. Two programs are known; they take the same
facts in different layouts. The program's two outputs, one after the other and without the blanks
around them, are the answer when it ends with status zero, and part of the error otherwise.
-/

namespace Overlay

/-- A change of the host's routes. -/
inductive RouteAction where
  /-- Sends the datagrams for a network to a device. -/
  | add
  /-- Takes such a route away. -/
  | del
deriving DecidableEq

/-- The word for the action on a command line. -/
def RouteAction.word : RouteAction → String
  | add => "add"
  | del => "del"

/-- The layout of the command line. -/
inductive RouteStyle where
  /-- `route add -net NETWORK dev DEVICE` -/
  | netTools
  /-- `ip route add NETWORK dev DEVICE` -/
  | iproute2
deriving DecidableEq

namespace RouteStyle

/-- The name of the style in a configuration. -/
def name : RouteStyle → String
  | netTools => "net-tools"
  | iproute2 => "iproute2"

/-- The style with the given name. -/
def ofName? (s : List Char) : Option RouteStyle :=
  if s = netTools.name.toList then some netTools
  else if s = iproute2.name.toList then some iproute2
  else none

/-- Reads a style from a JSON value: its name, or an object whose only member has that key and is
null. -/
def ofJson? : Json → Option RouteStyle
  | .text (some s) => ofName? s
  | .object [(some k, .null)] => ofName? k
  | _ => none

/-- The program that understands the style. -/
def program : RouteStyle → String
  | netTools => "route"
  | iproute2 => "ip"

/-- The arguments of the command. -/
def arguments (style : RouteStyle) (action : RouteAction) (network : Subnet) (device : String) :
    List String :=
  let front := match style with
    | netTools => [action.word, "-net"]
    | iproute2 => ["route", action.word]
  front ++ [toString network, "dev", device]

end RouteStyle

/-- How a process ended. -/
inductive ExitStatus where
  /-- It ended by itself, with a status below 256. -/
  | code (n : Nat)
  /-- A signal ended it. -/
  | signal (n : Nat)
deriving DecidableEq

namespace ExitStatus

/-- The names of the signals, from number one. -/
def signalNames : List String :=
  ["SIGHUP", "SIGINT", "SIGQUIT", "SIGILL", "SIGTRAP", "SIGABRT", "SIGBUS", "SIGFPE", "SIGKILL",
   "SIGUSR1", "SIGSEGV", "SIGUSR2", "SIGPIPE", "SIGALRM", "SIGTERM", "SIGSTKFLT", "SIGCHLD",
   "SIGCONT", "SIGSTOP", "SIGTSTP", "SIGTTIN", "SIGTTOU", "SIGURG", "SIGXCPU", "SIGXFSZ",
   "SIGVTALRM", "SIGPROF", "SIGWINCH", "SIGIO", "SIGPWR", "SIGSYS"]

/-- The text of the status. -/
def text : ExitStatus → String
  | code n => s!"exit status: {n}"
  | signal n =>
    match n, signalNames[n - 1]? with
    | 0, _ => "signal: 0"
    | n, some name => s!"signal: {n} ({name})"
    | n, none => s!"signal: {n}"

end ExitStatus

/-- What became of a process. -/
inductive ProcessResult where
  /-- It could not be started. -/
  | notStarted (reason : IoError)
  /-- It ran, wrote these bytes to its two outputs, and ended. -/
  | ended (out err : List UInt8) (status : ExitStatus)

/-- Why a route could not be changed. -/
inductive RouteError where
  /-- The program could not be started. -/
  | spawn (program : String) (reason : IoError)
  /-- The program ended with another status than zero. -/
  | failed (command status output : String)
deriving DecidableEq

/-- The text of the error. -/
def RouteError.message : RouteError → String
  | spawn program reason => s!"failed to run {program}: {reason.message}"
  | failed command status output => s!"\x60{command}\x60 exited with {status}: {output}"

/-- A program that changes routes. -/
structure RouteCommand where
  /-- The layout of its arguments. -/
  style : RouteStyle
  /-- The name of the program. -/
  program : String

namespace RouteCommand

/-- The usual program of a style. -/
def ofStyle (style : RouteStyle) : RouteCommand := ⟨style, style.program⟩

/-- The command line as it is shown. -/
def line (c : RouteCommand) (arguments : List String) : String :=
  " ".intercalate (c.program :: arguments)

/-- The outputs of a process: the first and then the second, without the blanks around them. -/
def output (out err : List UInt8) : String :=
  String.ofList (Text.trim (Utf8.decodeLossy out ++ Utf8.decodeLossy err))

/-- Runs the command, given what becomes of a process with this program and these arguments. -/
def run (c : RouteCommand) (execute : String → List String → ProcessResult) (action : RouteAction)
    (network : Subnet) (device : String) : Except RouteError String :=
  let arguments := c.style.arguments action network device
  match execute c.program arguments with
  | .notStarted reason => .error (.spawn c.program reason)
  | .ended out err (.code 0) => .ok (output out err)
  | .ended out err status => .error (.failed (c.line arguments) status.text (output out err))

end RouteCommand

end Overlay
