/-!
# Numerals in ASCII digits

Numbers are read from and written to lists of characters in base ten and base sixteen. A reader
accepts a nonempty run of digits of its base and nothing else: no sign, no blank, no digit outside
ASCII. Bounds (an octet, a port, a prefix length) are set by whoever calls it.
-/

namespace Overlay.Numeral

/-- The value of a decimal digit. -/
def digit? (c : Char) : Option Nat :=
  if 48 ≤ c.toNat ∧ c.toNat ≤ 57 then some (c.toNat - 48) else none

/-- The value of a hexadecimal digit of either case. -/
def hexDigit? (c : Char) : Option Nat :=
  if 48 ≤ c.toNat ∧ c.toNat ≤ 57 then some (c.toNat - 48)
  else if 97 ≤ c.toNat ∧ c.toNat ≤ 102 then some (c.toNat - 87)
  else if 65 ≤ c.toNat ∧ c.toNat ≤ 70 then some (c.toNat - 55)
  else none

/-- Is this a decimal digit? -/
def isDigit (c : Char) : Bool := (digit? c).isSome

/-- Is this a hexadecimal digit? -/
def isHexDigit (c : Char) : Bool := (hexDigit? c).isSome

/-- Is this a letter of ASCII? -/
def isLetter (c : Char) : Bool :=
  (65 ≤ c.toNat ∧ c.toNat ≤ 90) ∨ (97 ≤ c.toNat ∧ c.toNat ≤ 122)

/-- The small letter for a capital letter of ASCII, and every other character as it is. -/
def lower (c : Char) : Char :=
  if 65 ≤ c.toNat ∧ c.toNat ≤ 90 then Char.ofNat (c.toNat + 32) else c

/-- The number that a run of digit values writes in base `b`, the most significant first. -/
def value (b : Nat) (ds : List Nat) : Nat :=
  ds.foldl (fun n d => n * b + d) 0

/-- The values of all the characters, if every one of them is a digit. -/
def digits? (digit : Char → Option Nat) : List Char → Option (List Nat)
  | [] => some []
  | c :: s =>
    match digit c, digits? digit s with
    | some d, some ds => some (d :: ds)
    | _, _ => none

/-- The number written by a nonempty run of decimal digits. -/
def decimal? (s : List Char) : Option Nat :=
  if s.isEmpty then none else (digits? digit? s).map (value 10)

/-- The number written by a nonempty run of hexadecimal digits. -/
def hex? (s : List Char) : Option Nat :=
  if s.isEmpty then none else (digits? hexDigit? s).map (value 16)

/-- The number written by a nonempty run of digits of base `b`, for `b` up to sixteen. -/
def based? (b : Nat) (s : List Char) : Option Nat :=
  if s.isEmpty then none
  else
    match digits? hexDigit? s with
    | some ds => if ds.all (· < b) then some (value b ds) else none
    | none => none

/-- The decimal digits of a number, with no leading zero. -/
def decimal (n : Nat) : List Char := Nat.toDigits 10 n

/-- The hexadecimal digits of a number in small letters, with no leading zero. -/
def hex (n : Nat) : List Char := Nat.toDigits 16 n

/-- One byte as two hexadecimal digits in small letters. -/
def hexByte (n : Nat) : List Char :=
  [Nat.digitChar (n / 16 % 16), Nat.digitChar (n % 16)]

/-- One byte as two hexadecimal digits in capital letters. -/
def hexByteCapital (n : Nat) : List Char :=
  (hexByte n).map fun c => if 97 ≤ c.toNat ∧ c.toNat ≤ 102 then Char.ofNat (c.toNat - 32) else c

/-- Bytes as hexadecimal text, two small digits for each. -/
def hexBytes (bytes : List UInt8) : List Char :=
  bytes.flatMap fun b => hexByte b.toNat

/-- Reads what `hexBytes` writes, with digits of either case. -/
def bytesOfHex? : List Char → Option (List UInt8)
  | [] => some []
  | [_] => none
  | a :: b :: s =>
    match hexDigit? a, hexDigit? b, bytesOfHex? s with
    | some h, some l, some rest => some (UInt8.ofNat (16 * h + l) :: rest)
    | _, _, _ => none

end Overlay.Numeral
