/-!
# Errors of input and output

What a socket, a device, a file or a process reports when an operation fails. An error is known by
its kind alone, or by the number that the operating system gave, or it carries a text of its own.
-/

namespace Overlay

/-- The kinds of errors that matter to the loops of the data plane. All others end no loop. -/
inductive IoKind where
  /-- The other side will read no more. -/
  | brokenPipe
  /-- There is no connection. -/
  | notConnected
  /-- The data ended too early. -/
  | unexpectedEof
  /-- A kind that ends no loop, with its description. -/
  | other (description : String)
deriving DecidableEq

/-- What is said of an error that is known by its kind alone. -/
def IoKind.description : IoKind → String
  | brokenPipe => "broken pipe"
  | notConnected => "not connected"
  | unexpectedEof => "unexpected end of file"
  | other d => d

/-- A failed operation. -/
inductive IoError where
  /-- An error known by its kind. -/
  | ofKind (kind : IoKind)
  /-- An error number of the operating system and the text that belongs to it. -/
  | system (number : Nat) (text : String)
  /-- An error of a kind with a text of its own. -/
  | custom (kind : IoKind) (text : String)
deriving DecidableEq

namespace IoError

/-- The text of the error. -/
def message : IoError → String
  | ofKind kind => kind.description
  | system number text => s!"{text} (os error {number})"
  | custom _ text => text

/-- The kind of the error. Numbers of the operating system stand for kinds of their own. -/
def kind : IoError → IoKind
  | ofKind k => k
  | system 32 _ => .brokenPipe
  | system 107 _ => .notConnected
  | system _ text => .other text
  | custom k _ => k

/-- Does the error say that a device is gone for good? -/
def closesDevice (e : IoError) : Bool :=
  match e.kind with
  | .brokenPipe => true
  | .notConnected => true
  | .unexpectedEof => true
  | .other _ => false

/-- No file or program has the name. -/
def noSuchFile : IoError := system 2 "No such file or directory"

/-- The operation is not allowed. -/
def permissionDenied : IoError := system 13 "Permission denied"

/-- No route leads to the address. -/
def networkUnreachable : IoError := system 101 "Network is unreachable"

/-- A socket cannot reach an address of another family. -/
def familyNotSupported : IoError := system 97 "Address family not supported by protocol"

/-- The address belongs to no interface. -/
def addressNotAvailable : IoError := system 99 "Cannot assign requested address"

/-- A datagram is longer than the network allows. -/
def messageTooLong : IoError := system 90 "Message too long"

/-- A null character in a name that the operating system reads. -/
def nulByte : IoError := custom (.other "invalid input parameter") "nul byte found in provided data"

end IoError

end Overlay
