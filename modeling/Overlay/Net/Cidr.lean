import Overlay.Net.Subnet
import Overlay.Text.Blank
import Overlay.Text.Quoted

/-!
# Networks by their CIDR text

Members of the overlay name their networks in CIDR notation. Blank characters around the text and
host bits in the address do not matter: `Cidr.read` clears both away, so that all spellings of a
network read as the same subnet. A text that is refused is quoted in the error as it was given.
-/

namespace Overlay

/-- A text that names no network. -/
structure CidrError where
  /-- The text as it was given. -/
  text : String
deriving DecidableEq

namespace Cidr

/-- The network that a text names, without host bits. -/
def read? (s : List Char) : Option Subnet := (Subnet.ofText? (Text.trim s)).map Subnet.network

/-- The network that a text names, without host bits. -/
def read (s : String) : Except CidrError Subnet :=
  match read? s.toList with
  | some n => .ok n
  | none => .error ⟨s⟩

end Cidr

/-- The text of the error. -/
def CidrError.message (e : CidrError) : String :=
  "invalid CIDR " ++ Quoted.text e.text ++ ": invalid IP address syntax"

end Overlay
