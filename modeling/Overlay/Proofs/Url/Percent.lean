import Mathlib.Tactic.IntervalCases
import Overlay.Proofs.Text.Utf8
import Overlay.Url.Path

/-!
# Reading what percent encoding writes

An escape is read back as its byte, and a byte that is no percent sign stands for itself.
So a text is read back from its escaped form whenever percent signs are among the escaped
characters (`decodeText?_encode`), whatever else is escaped.

Dots are the exception in paths: a segment that consists of one or two dots says where it
is, also when the dots are escaped.  Escaping makes no such segment out of another text
(`eq_dot_of_isSingleDot`, `eq_dots_of_isDoubleDot`).
-/

namespace Overlay.Percent

/-- The text that a text with escapes stands for, if that is one. -/
def decodeText? (s : List Char) : Option (List Char) := Utf8.decode? (decode (Utf8.encode s))

/-! ## Escapes -/

/-- The capital hexadecimal digit of a value. -/
def capitalDigit (n : Nat) : Char :=
  let c := Nat.digitChar n
  if 97 ≤ c.toNat ∧ c.toNat ≤ 102 then Char.ofNat (c.toNat - 32) else c

theorem hexDigit?_capitalDigit {n : Nat} (h : n < 16) :
    Numeral.hexDigit? (capitalDigit n) = some n := by
  interval_cases n <;> decide

theorem capitalDigit_lt {n : Nat} (h : n < 16) : (capitalDigit n).toNat < 0x80 := by
  interval_cases n <;> decide

theorem escape_eq (b : UInt8) :
    escape b = ['%', capitalDigit (b.toNat / 16), capitalDigit (b.toNat % 16)] := by
  have hb := b.toNat_lt
  have hdiv : b.toNat / 16 % 16 = b.toNat / 16 := by omega
  simp only [escape, Numeral.hexByteCapital, Numeral.hexByte, List.map_cons, List.map_nil, hdiv]
  rfl

/-- A character of ASCII is its own byte. -/
theorem encodeChar_ascii {c : Char} (h : c.toNat < 0x80) :
    Utf8.encodeChar c = [UInt8.ofNat c.toNat] := by
  simp only [Utf8.encodeChar, if_pos h]

theorem hexValue?_ascii {c : Char} (h : c.toNat < 0x80) :
    hexValue? (UInt8.ofNat c.toNat) = Numeral.hexDigit? c := by
  have hbyte : (UInt8.ofNat c.toNat).toNat = c.toNat := Utf8.toNat_ofNat (by omega)
  rw [hexValue?, hbyte, Char.ofNat_toNat]

/-- An escape is read as its byte. -/
theorem decode_escape (b : UInt8) (rest : List UInt8) :
    decode (Utf8.encode (escape b) ++ rest) = b :: decode rest := by
  have hb := b.toNat_lt
  have hhigh : b.toNat / 16 < 16 := by omega
  have hlow : b.toNat % 16 < 16 := by omega
  have hsum : 16 * (b.toNat / 16) + b.toNat % 16 = b.toNat := by omega
  have hpercent : Utf8.encodeChar '%' = [0x25] := by decide
  rw [escape_eq, Utf8.encode, List.flatMap_cons, List.flatMap_cons, List.flatMap_cons,
    List.flatMap_nil, hpercent, encodeChar_ascii (capitalDigit_lt hhigh),
    encodeChar_ascii (capitalDigit_lt hlow)]
  simp only [List.cons_append, List.nil_append, decode, hexValue?_ascii (capitalDigit_lt hhigh),
    hexValue?_ascii (capitalDigit_lt hlow), hexDigit?_capitalDigit hhigh,
    hexDigit?_capitalDigit hlow, hsum, UInt8.ofNat_toNat]

theorem decode_escapes (bytes rest : List UInt8) :
    decode (Utf8.encode (bytes.flatMap escape) ++ rest) = bytes ++ decode rest := by
  induction bytes with
  | nil => rfl
  | cons b bytes ih =>
      rw [List.flatMap_cons, Utf8.encode_append, List.append_assoc, decode_escape, ih,
        List.cons_append]

/-! ## Characters that stand for themselves -/

theorem decode_cons {b : UInt8} (h : b ≠ 0x25) (rest : List UInt8) :
    decode (b :: rest) = b :: decode rest := by
  rw [decode]
  intro h' l rest' heq _
  exact h heq

theorem decode_append {bytes : List UInt8} (h : ∀ b ∈ bytes, b ≠ 0x25) (rest : List UInt8) :
    decode (bytes ++ rest) = bytes ++ decode rest := by
  induction bytes with
  | nil => rfl
  | cons b bytes ih =>
      rw [List.cons_append, decode_cons (h b List.mem_cons_self),
        ih fun a ha => h a (List.mem_cons_of_mem b ha), List.cons_append]

/-- Only the percent sign has its byte. -/
theorem ne_percent_of_mem_encodeChar {c : Char} (hc : c ≠ '%') {b : UInt8}
    (hb : b ∈ Utf8.encodeChar c) : b ≠ 0x25 := by
  rintro rfl
  have hrange := Utf8.toNat_char_range c
  have hne : c.toNat ≠ 0x25 := fun heq => hc (Char.toNat_inj.mp heq)
  have hbyte : ∀ {k : Nat}, k < 256 → (0x25 : UInt8) = UInt8.ofNat k → k = 0x25 := by
    intro k hk heq
    have htoNat := congrArg UInt8.toNat heq
    rw [Utf8.toNat_ofNat hk] at htoNat
    exact htoNat.symm
  unfold Utf8.encodeChar at hb
  simp only at hb
  split at hb
  · exact hne (hbyte (by omega) (List.mem_singleton.mp hb))
  -- the bytes of longer characters are beyond ASCII
  split at hb
  · simp only [List.mem_cons, List.not_mem_nil, or_false] at hb
    rcases hb with hb | hb <;> · have := hbyte (by omega) hb; omega
  split at hb
  · simp only [List.mem_cons, List.not_mem_nil, or_false] at hb
    rcases hb with hb | hb | hb <;> · have := hbyte (by omega) hb; omega
  · simp only [List.mem_cons, List.not_mem_nil, or_false] at hb
    rcases hb with hb | hb | hb | hb <;> · have := hbyte (by omega) hb; omega

/-! ## Texts -/

variable {set : Char → Bool}

theorem encode_cons (c : Char) (s : List Char) :
    encode set (c :: s) =
      (if set c then (Utf8.encodeChar c).flatMap escape else [c]) ++ encode set s :=
  List.flatMap_cons

/-- What was escaped is read as the bytes of the text. -/
theorem decode_encode (hset : set '%' = true) (s : List Char) (rest : List UInt8) :
    decode (Utf8.encode (encode set s) ++ rest) = Utf8.encode s ++ decode rest := by
  induction s with
  | nil => rfl
  | cons c s ih =>
      have hs : Utf8.encode (c :: s) = Utf8.encodeChar c ++ Utf8.encode s := List.flatMap_cons
      rw [encode_cons, Utf8.encode_append, List.append_assoc, hs, List.append_assoc]
      by_cases hc : set c = true
      · rw [if_pos hc, decode_escapes, ih]
      · have hne : c ≠ '%' := fun heq => hc (heq ▸ hset)
        have hself : Utf8.encode [c] = Utf8.encodeChar c := List.append_nil _
        rw [if_neg hc, hself, decode_append fun b hb => ne_percent_of_mem_encodeChar hne hb, ih]

/-- **A text is read back from its escaped form.** -/
theorem decodeText?_encode (hset : set '%' = true) (s : List Char) :
    decodeText? (encode set s) = some s := by
  have h := decode_encode hset s []
  rw [List.append_nil, show decode [] = [] from rfl, List.append_nil] at h
  rw [decodeText?, h, Utf8.decode?_encode]

theorem encode_ne_nil {s : List Char} (h : s ≠ []) : encode set s ≠ [] := by
  cases s with
  | nil => exact absurd rfl h
  | cons c s =>
      rw [encode_cons]
      intro hnil
      obtain ⟨hfirst, -⟩ := List.append_eq_nil_iff.mp hnil
      split at hfirst
      · -- a character has at least one byte, and a byte gives an escape
        obtain ⟨b, bytes, hbytes⟩ := List.exists_cons_of_ne_nil (Utf8.encodeChar_ne_nil c)
        rw [hbytes, List.flatMap_cons, escape_eq] at hfirst
        exact nomatch hfirst
      · exact nomatch hfirst

/-- The characters of an escaped text are those that are not escaped, percent signs and
    hexadecimal digits. -/
theorem mem_encode {s : List Char} {c : Char} (h : c ∈ encode set s) :
    set c = false ∨ c = '%' ∨ Numeral.isHexDigit c = true := by
  obtain ⟨d, -, hd⟩ := List.mem_flatMap.mp h
  split at hd
  · obtain ⟨b, -, hb⟩ := List.mem_flatMap.mp hd
    have hlt := b.toNat_lt
    rw [escape_eq] at hb
    simp only [List.mem_cons, List.not_mem_nil, or_false] at hb
    rcases hb with rfl | rfl | rfl
    · exact Or.inr (Or.inl rfl)
    · refine Or.inr (Or.inr ?_)
      rw [Numeral.isHexDigit, hexDigit?_capitalDigit (by omega)]
      rfl
    · refine Or.inr (Or.inr ?_)
      rw [Numeral.isHexDigit, hexDigit?_capitalDigit (by omega)]
      rfl
  · rename_i hset
    rw [List.mem_singleton.mp hd]
    exact Or.inl (Bool.not_eq_true _ ▸ hset)

/-! ## Segments of dots -/

/-- Only letters have another letter for their small one. -/
theorem eq_or_of_lower_eq {c d : Char} (h : Numeral.lower c = d) :
    c = d ∨ (65 ≤ c.toNat ∧ c.toNat ≤ 90 ∧ d.toNat = c.toNat + 32) := by
  unfold Numeral.lower at h
  split at h
  · rename_i hcapital
    have hvalid : (c.toNat + 32).isValidChar := Or.inl (by omega)
    have hd : d.toNat = c.toNat + 32 := by
      rw [← h, Char.ofNat, dif_pos hvalid]
      rfl
    exact Or.inr ⟨hcapital.1, hcapital.2, hd⟩
  · exact Or.inl h

theorem eq_of_lower_eq {c d : Char} (hd : d.toNat < 97) (h : Numeral.lower c = d) : c = d := by
  rcases eq_or_of_lower_eq h with rfl | ⟨hleast, -, heq⟩
  · rfl
  · omega

theorem eq_of_lower_eq_e {c : Char} (h : Numeral.lower c = 'e') : c = 'e' ∨ c = 'E' := by
  rcases eq_or_of_lower_eq h with rfl | ⟨-, -, heq⟩
  · exact Or.inl rfl
  · have hE : c.toNat = 'E'.toNat := by
      have he : 'e'.toNat = 101 := rfl
      have hE : 'E'.toNat = 69 := rfl
      omega
    exact Or.inr (Char.toNat_inj.mp hE)

/-- The ways to write a dot. -/
def dots : List (List Char) := [['.'], ['%', '2', 'e'], ['%', '2', 'E']]

theorem mem_dots_of_dot {t : List Char} (h : t.map Numeral.lower = ['.']) : t ∈ dots := by
  obtain ⟨c, rfl, hc⟩ := List.map_eq_singleton_iff.mp h
  rw [eq_of_lower_eq (by decide) hc]
  decide

theorem mem_dots_of_escape {t : List Char} (h : t.map Numeral.lower = ['%', '2', 'e']) :
    t ∈ dots := by
  obtain ⟨c, t, rfl, hc, h⟩ := List.map_eq_cons_iff.mp h
  obtain ⟨d, t, rfl, hd, h⟩ := List.map_eq_cons_iff.mp h
  obtain ⟨e, rfl, he⟩ := List.map_eq_singleton_iff.mp h
  rw [eq_of_lower_eq (by decide) hc, eq_of_lower_eq (by decide) hd]
  rcases eq_of_lower_eq_e he with rfl | rfl <;> decide

/-- However a dot is written, it is read as one. -/
theorem decode_dot {t : List Char} (h : t ∈ dots) (rest : List UInt8) :
    decode (Utf8.encode t ++ rest) = 0x2E :: decode rest := by
  simp only [dots, List.mem_cons, List.not_mem_nil, or_false] at h
  rcases h with rfl | rfl | rfl
  · exact decode_cons (by decide) rest
  · rfl
  · rfl

theorem mem_dots_of_isSingleDot {t : List Char} (h : UrlPath.isSingleDot t = true) :
    t ∈ dots := by
  simp only [UrlPath.isSingleDot, Bool.or_eq_true, decide_eq_true_eq] at h
  exact h.elim mem_dots_of_dot mem_dots_of_escape

theorem mem_dots_of_isDoubleDot {t : List Char} (h : UrlPath.isDoubleDot t = true) :
    ∃ a ∈ dots, ∃ b ∈ dots, t = a ++ b := by
  simp only [UrlPath.isDoubleDot, Bool.or_eq_true, decide_eq_true_eq] at h
  have hsplit {x y : List Char} (h : t.map Numeral.lower = x ++ y)
      (hx : x = ['.'] ∨ x = ['%', '2', 'e']) (hy : y = ['.'] ∨ y = ['%', '2', 'e']) :
      ∃ a ∈ dots, ∃ b ∈ dots, t = a ++ b := by
    obtain ⟨a, b, ht, rfl, rfl⟩ := List.map_eq_append_iff.mp h
    exact ⟨a, hx.elim mem_dots_of_dot mem_dots_of_escape, b,
      hy.elim mem_dots_of_dot mem_dots_of_escape, ht⟩
  rcases h with ((h | h) | h) | h
  · exact hsplit (x := ['.']) (y := ['.']) h (Or.inl rfl) (Or.inl rfl)
  · exact hsplit (x := ['%', '2', 'e']) (y := ['.']) h (Or.inr rfl) (Or.inl rfl)
  · exact hsplit (x := ['.']) (y := ['%', '2', 'e']) h (Or.inl rfl) (Or.inr rfl)
  · exact hsplit (x := ['%', '2', 'e']) (y := ['%', '2', 'e']) h (Or.inr rfl) (Or.inr rfl)

/-- A text is known by what is read from its escaped form. -/
theorem eq_of_decodeText? (hset : set '%' = true) {s t : List Char}
    (h : decodeText? (encode set s) = some t) : s = t := by
  rw [decodeText?_encode hset] at h
  exact Option.some.inj h

/-- Only a dot becomes a segment that stands for a dot. -/
theorem eq_dot_of_isSingleDot (hset : set '%' = true) {s : List Char}
    (h : UrlPath.isSingleDot (encode set s) = true) : s = ['.'] := by
  have hread := decode_dot (mem_dots_of_isSingleDot h) []
  rw [List.append_nil] at hread
  have hdot : decodeText? (encode set s) = some ['.'] := by
    rw [decodeText?, hread]
    exact Utf8.decode?_encode ['.']
  exact eq_of_decodeText? hset hdot

/-- Only two dots become a segment that stands for two dots. -/
theorem eq_dots_of_isDoubleDot (hset : set '%' = true) {s : List Char}
    (h : UrlPath.isDoubleDot (encode set s) = true) : s = ['.', '.'] := by
  obtain ⟨a, ha, b, hb, hab⟩ := mem_dots_of_isDoubleDot h
  have hread := decode_dot ha (Utf8.encode b)
  have hread' := decode_dot hb []
  rw [List.append_nil] at hread'
  rw [hread', ← Utf8.encode_append, ← hab] at hread
  have hdots : decodeText? (encode set s) = some ['.', '.'] := by
    rw [decodeText?, hread]
    exact Utf8.decode?_encode ['.', '.']
  exact eq_of_decodeText? hset hdots

end Overlay.Percent
