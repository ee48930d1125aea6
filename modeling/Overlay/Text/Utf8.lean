/-!
# UTF-8

The strict reader turns bytes into characters and refuses what is not UTF-8. The lossy reader puts
U+FFFD in place of each maximal ill-formed part: the longest run of bytes that begins some character,
or a single byte when no character begins there. The writer gives the bytes of each character.

A character takes one to four bytes. `lead?` says for a first byte how many bytes follow and in
which range the second one must lie; that range is what rules out overlong forms, surrogates and
code points past U+10FFFF.
-/

namespace Overlay.Utf8

/-- The character that stands for an ill-formed part. -/
def replacement : Char := Char.ofNat 0xFFFD

/-- What a first byte past ASCII announces: how many bytes follow, the bits it adds itself, and the
range of the second byte. -/
structure Lead where
  /-- The number of bytes that follow. -/
  more : Nat
  /-- The bits that the first byte holds. -/
  bits : Nat
  /-- The least second byte. -/
  least : Nat
  /-- The greatest second byte. -/
  greatest : Nat

/-- The announcement of a first byte, if a character of several bytes can begin with it. -/
def lead? (b : Nat) : Option Lead :=
  if 0xC2 ≤ b ∧ b ≤ 0xDF then some ⟨1, b - 0xC0, 0x80, 0xBF⟩
  else if b = 0xE0 then some ⟨2, 0, 0xA0, 0xBF⟩
  else if b = 0xED then some ⟨2, 0x0D, 0x80, 0x9F⟩
  else if 0xE1 ≤ b ∧ b ≤ 0xEF then some ⟨2, b - 0xE0, 0x80, 0xBF⟩
  else if b = 0xF0 then some ⟨3, 0, 0x90, 0xBF⟩
  else if 0xF1 ≤ b ∧ b ≤ 0xF3 then some ⟨3, b - 0xF0, 0x80, 0xBF⟩
  else if b = 0xF4 then some ⟨3, 4, 0x80, 0x8F⟩
  else none

/-- Reads the bytes that follow a first byte. The first component is the code point, or nothing
when a byte does not fit; the second is what is left from the first byte that was not taken. -/
def tail? : Nat → Nat → Nat → Nat → List UInt8 → Option Nat × List UInt8
  | 0, bits, _, _, bytes => (some bits, bytes)
  | _ + 1, _, _, _, [] => (none, [])
  | more + 1, bits, least, greatest, b :: bytes =>
    if least ≤ b.toNat ∧ b.toNat ≤ greatest then
      tail? more (bits * 64 + (b.toNat - 0x80)) 0x80 0xBF bytes
    else (none, b :: bytes)

theorem tail?_length_le (more bits least greatest : Nat) (bytes : List UInt8) :
    (tail? more bits least greatest bytes).2.length ≤ bytes.length := by
  induction more generalizing bits least greatest bytes with
  | zero => simp [tail?]
  | succ more ih =>
    cases bytes with
    | nil => simp [tail?]
    | cons b bytes =>
      unfold tail?
      split
      · exact Nat.le_succ_of_le (ih _ _ _ _)
      · simp

/-- The first character of a nonempty byte string, nothing when it is ill-formed, and the rest. -/
def next (b : UInt8) (bytes : List UInt8) : Option Char × List UInt8 :=
  if b.toNat < 0x80 then (some (Char.ofNat b.toNat), bytes)
  else
    match lead? b.toNat with
    | none => (none, bytes)
    | some l =>
      match tail? l.more l.bits l.least l.greatest bytes with
      | (some n, rest) => (some (Char.ofNat n), rest)
      | (none, rest) => (none, rest)

theorem next_length_le (b : UInt8) (bytes : List UInt8) :
    (next b bytes).2.length ≤ bytes.length := by
  unfold next
  split
  · simp
  · split
    · simp
    · next l _ =>
      have h := tail?_length_le l.more l.bits l.least l.greatest bytes
      split <;> simp_all

/-- The characters of the bytes, each ill-formed part read as nothing. -/
def parts : List UInt8 → List (Option Char)
  | [] => []
  | b :: bytes => (next b bytes).1 :: parts (next b bytes).2
termination_by bytes => bytes.length
decreasing_by
  have := next_length_le b bytes
  simp only [List.length_cons]
  omega

/-- The text that the bytes encode, or nothing when they are not UTF-8. -/
def decode? (bytes : List UInt8) : Option (List Char) :=
  (parts bytes).foldr (fun c s => match c, s with
    | some c, some s => some (c :: s)
    | _, _ => none) (some [])

/-- The text that the bytes encode, with U+FFFD for each ill-formed part. -/
def decodeLossy (bytes : List UInt8) : List Char :=
  (parts bytes).map (·.getD replacement)

/-- The text up to the first ill-formed part. -/
def decodeUntilBad (bytes : List UInt8) : List Char :=
  ((parts bytes).takeWhile (·.isSome)).filterMap id

/-- The bytes of one character. -/
def encodeChar (c : Char) : List UInt8 :=
  let n := c.toNat
  if n < 0x80 then [UInt8.ofNat n]
  else if n < 0x800 then [UInt8.ofNat (0xC0 + n / 64), UInt8.ofNat (0x80 + n % 64)]
  else if n < 0x10000 then
    [UInt8.ofNat (0xE0 + n / 4096), UInt8.ofNat (0x80 + n / 64 % 64), UInt8.ofNat (0x80 + n % 64)]
  else
    [UInt8.ofNat (0xF0 + n / 262144), UInt8.ofNat (0x80 + n / 4096 % 64),
      UInt8.ofNat (0x80 + n / 64 % 64), UInt8.ofNat (0x80 + n % 64)]

/-- The bytes of a text. -/
def encode (s : List Char) : List UInt8 := s.flatMap encodeChar

end Overlay.Utf8
