import Mathlib.Data.List.Forall2
import Mathlib.Tactic.IntervalCases
import Overlay.Json.Record
import Overlay.Proofs.Text.Numeral

/-!
# Reading the JSON that is written

A text is written with escapes and read as pieces: `scan?_encode` says that the pieces are those of
the text and that the reader stops after the closing quote.  What is written fits on one line
(`unbroken_encode`).

Tokens are read one after the other: `Scans.cons` puts one in front of others, `Scans.text` a text
and `Scans.record` a record.
-/

namespace Overlay

/-! ## Lines -/

namespace Text

/-- Neither a line feed nor a carriage return is in the text. -/
def Unbroken (s : List Char) : Prop := ∀ c ∈ s, c ≠ '\n' ∧ c ≠ '\r'

instance : DecidablePred Unbroken := List.decidableBAll _

theorem Unbroken.append {s t : List Char} (hs : Unbroken s) (ht : Unbroken t) : Unbroken (s ++ t) :=
  List.forall_mem_append.mpr ⟨hs, ht⟩

end Text

namespace Json

/-! ## Texts -/

/-- The character is written as this piece. -/
def Piece.Writes (p : Piece) (c : Char) : Prop := p = char c ∨ p = unit c.toNat ∧ c.toNat < 0x20

/-- A small code unit stands for itself. -/
theorem Piece.ofPieces?_unit {u : Nat} (hu : u < 0x20) (ps : List Piece) :
    ofPieces? (unit u :: ps) = (ofPieces? ps).map (Char.ofNat u :: ·) := by
  have hhigh : isHigh u = false := decide_eq_false fun h => absurd h.1 (by omega)
  have hlow : isLow u = false := decide_eq_false fun h => absurd h.1 (by omega)
  match ps with
  | [] | char c :: ps | unit v :: ps => simp [ofPieces?, hhigh, hlow]

/-- The pieces of a text make the text. -/
theorem Piece.ofPieces?_writes {ps : List Piece} {s : List Char}
    (h : List.Forall₂ Piece.Writes ps s) : ofPieces? ps = some s := by
  induction h with
  | nil => rfl
  | @cons p c ps s hp _ ih =>
      rcases hp with rfl | ⟨rfl, hsmall⟩
      · rw [ofPieces?, ih, Option.map_some]
      · rw [ofPieces?_unit hsmall, ih, Option.map_some, Char.ofNat_toNat]

namespace Text

theorem scan?_short {e c : Char} (he : e ≠ 'u') (hc : shortEscape? e = some c) (s : List Char) :
    scan? ('\\' :: e :: s) = (scan? s).map (cons (.char c)) := by
  rw [scan?, hc]
  · cases scan? s <;> rfl
  · rintro _ _ _ _ _ rfl
    exact absurd rfl he

theorem scan?_plain {c : Char} (hquote : c ≠ '"') (hslash : c ≠ '\\') (hspace : ¬ c.toNat < 0x20)
    (s : List Char) : scan? (c :: s) = (scan? s).map (cons (.char c)) := by
  rw [scan?, if_neg (by simp [hslash, hspace])]
  · exact hquote
  · rintro _ _ _ _ _ rfl
    exact absurd rfl hslash
  · rintro _ _ rfl
    exact absurd rfl hslash

/-- The digits of a control character are read as its code. -/
theorem unit?_hexByte {n : Nat} (h : n < 0x20) :
    unit? '0' '0' (Nat.digitChar (n / 16 % 16)) (Nat.digitChar (n % 16)) = some n := by
  interval_cases n <;> rfl

theorem scan?_unit {n : Nat} (h : n < 0x20) (s : List Char) :
    scan? (['\\', 'u', '0', '0'] ++ Numeral.hexByte n ++ s) = (scan? s).map (cons (.unit n)) := by
  show scan? ('\\' :: 'u' :: '0' :: '0' :: _ :: _ :: s) = _
  rw [scan?, unit?_hexByte h]
  cases scan? s <;> rfl

/-- The reader takes one character as it is written. -/
theorem scan?_escape (c : Char) (s : List Char) :
    ∃ p : Piece, p.Writes c ∧ scan? (escape c ++ s) = (scan? s).map (cons p) := by
  by_cases hquote : c = '"'
  · exact ⟨.char c, Or.inl rfl, hquote ▸ scan?_short (by decide) rfl s⟩
  by_cases hslash : c = '\\'
  · exact ⟨.char c, Or.inl rfl, hslash ▸ scan?_short (by decide) rfl s⟩
  by_cases hb : c = '\x08'
  · exact ⟨.char c, Or.inl rfl, hb ▸ scan?_short (by decide) rfl s⟩
  by_cases hf : c = '\x0c'
  · exact ⟨.char c, Or.inl rfl, hf ▸ scan?_short (by decide) rfl s⟩
  by_cases hn : c = '\n'
  · exact ⟨.char c, Or.inl rfl, hn ▸ scan?_short (by decide) rfl s⟩
  by_cases hr : c = '\r'
  · exact ⟨.char c, Or.inl rfl, hr ▸ scan?_short (by decide) rfl s⟩
  by_cases ht : c = '\t'
  · exact ⟨.char c, Or.inl rfl, ht ▸ scan?_short (by decide) rfl s⟩
  by_cases hsmall : c.toNat < 0x20
  · refine ⟨.unit c.toNat, Or.inr ⟨rfl, hsmall⟩, ?_⟩
    rw [escape, if_neg hquote, if_neg hslash, if_neg hb, if_neg hf, if_neg hn, if_neg hr, if_neg ht,
      if_pos hsmall]
    exact scan?_unit hsmall s
  · refine ⟨.char c, Or.inl rfl, ?_⟩
    rw [escape, if_neg hquote, if_neg hslash, if_neg hb, if_neg hf, if_neg hn, if_neg hr, if_neg ht,
      if_neg hsmall]
    exact scan?_plain hquote hslash hsmall s

/-- **A text is read back**, and the reader stops after the closing quote. -/
theorem scan?_flatMap_escape (s rest : List Char) :
    ∃ ps, scan? (s.flatMap escape ++ '"' :: rest) = some (ps, rest) ∧
      Piece.ofPieces? ps = some s := by
  have h : ∃ ps, scan? (s.flatMap escape ++ '"' :: rest) = some (ps, rest) ∧
      List.Forall₂ Piece.Writes ps s := by
    induction s with
    | nil => exact ⟨[], rfl, .nil⟩
    | cons c s ih =>
        obtain ⟨ps, hps, hwrites⟩ := ih
        obtain ⟨p, hp, hscan⟩ := scan?_escape c (s.flatMap escape ++ '"' :: rest)
        refine ⟨p :: ps, ?_, .cons hp hwrites⟩
        rw [List.flatMap_cons, List.append_assoc, hscan, hps]
        rfl
  obtain ⟨ps, hps, hwrites⟩ := h
  exact ⟨ps, hps, Piece.ofPieces?_writes hwrites⟩

/-! ## One line -/

theorem unbroken_hexByte {n : Nat} (h : n < 0x20) : Overlay.Text.Unbroken (Numeral.hexByte n) := by
  interval_cases n <;> decide

theorem unbroken_escape (c : Char) : Overlay.Text.Unbroken (escape c) := by
  unfold escape
  split
  · decide
  split
  · decide
  split
  · decide
  split
  · decide
  split
  · decide
  split
  · decide
  split
  · decide
  split
  · rename_i hsmall
    exact .append (by decide) (unbroken_hexByte hsmall)
  · rename_i hn hr _ _
    exact List.forall_mem_singleton.mpr ⟨hn, hr⟩

theorem unbroken_encode (s : List Char) : Overlay.Text.Unbroken (encode s) := by
  have h : Overlay.Text.Unbroken (s.flatMap escape) := by
    intro c hc
    obtain ⟨d, -, hd⟩ := List.mem_flatMap.mp hc
    exact unbroken_escape d c hd
  exact (Overlay.Text.Unbroken.append (by decide) h).append (by decide)

end Text

theorem unbroken_memberText (key value : String) : Overlay.Text.Unbroken (memberText key value) :=
  .append (Text.unbroken_encode _) (List.forall_mem_cons.mpr ⟨by decide, Text.unbroken_encode _⟩)

theorem unbroken_recordText (fields : List (String × String)) :
    Overlay.Text.Unbroken (recordText fields) := by
  refine .append (.append (by decide) fun c hc => ?_) (by decide)
  rcases Overlay.Text.mem_join hc with hsep | ⟨piece, hpiece, hc⟩
  · rw [List.mem_singleton.mp hsep]
    decide
  · obtain ⟨⟨k, v⟩, -, rfl⟩ := List.mem_map.mp hpiece
    exact unbroken_memberText k v c hc

/-! ## Tokens -/

namespace Token

/-- The text falls into these tokens. -/
def Scans (s : List Char) (ts : List Token) : Prop := scan? s = some ts

/-- More room changes nothing. -/
theorem scanWithin?_succ {n : Nat} {s : List Char} {ts : List Token}
    (h : scanWithin? n s = some ts) : scanWithin? (n + 1) s = some ts := by
  induction n generalizing s ts with
  | zero =>
      cases s with
      | nil => exact h
      | cons c s => exact nomatch h
  | succ n ih =>
      cases s with
      | nil => exact h
      | cons c s =>
          rw [scanWithin?] at h ⊢
          by_cases hspace : isSpace c = true
          · rw [if_pos hspace] at h ⊢
            exact ih h
          · rw [if_neg hspace] at h ⊢
            cases hnext : next? (c :: s) with
            | none =>
                rw [hnext] at h
                exact nomatch h
            | some found =>
                obtain ⟨t, rest⟩ := found
                rw [hnext] at h
                obtain ⟨ts', hts', rfl⟩ := Option.map_eq_some_iff.mp h
                exact Option.map_eq_some_iff.mpr ⟨ts', ih hts', rfl⟩

theorem scanWithin?_le {n m : Nat} {s : List Char} {ts : List Token} (hle : n ≤ m)
    (h : scanWithin? n s = some ts) : scanWithin? m s = some ts := by
  induction hle with
  | refl => exact h
  | step _ ih => exact scanWithin?_succ ih

theorem Scans.nil : Scans [] [] := rfl

/-- One more token in front. -/
theorem Scans.cons {c : Char} {s rest : List Char} {t : Token} {ts : List Token}
    (hspace : isSpace c = false) (hnext : next? (c :: s) = some (t, rest))
    (hle : rest.length ≤ s.length) (h : Scans rest ts) : Scans (c :: s) (t :: ts) := by
  unfold Scans scan?
  rw [List.length_cons, scanWithin?, if_neg (Bool.eq_false_iff.mp hspace), hnext]
  exact Option.map_eq_some_iff.mpr ⟨ts, scanWithin?_le hle h, rfl⟩

/-- A text in front. -/
theorem Scans.text {rest : List Char} {ts : List Token} (s : List Char) (h : Scans rest ts) :
    Scans (Text.encode s ++ rest) (atom (.text (some s)) :: ts) := by
  obtain ⟨ps, hscan, hps⟩ := Text.scan?_flatMap_escape s rest
  have hencode : Text.encode s ++ rest = '"' :: (s.flatMap Text.escape ++ '"' :: rest) := by
    simp [Text.encode]
  have hle : rest.length ≤ (s.flatMap Text.escape ++ '"' :: rest).length := by
    rw [List.length_append, List.length_cons]
    omega
  have hnext : next? ('"' :: (s.flatMap Text.escape ++ '"' :: rest)) =
      some (atom (.text (Piece.ofPieces? ps)), rest) := congrArg (Option.map _) hscan
  rw [hencode, ← hps]
  exact .cons rfl hnext hle h

/-- The tokens of one member of a record. -/
def ofMember (key value : String) : List Token :=
  [atom (.text (some key.toList)), colon, atom (.text (some value.toList))]

theorem Scans.member {rest : List Char} {ts : List Token} (key value : String)
    (h : Scans rest ts) : Scans (memberText key value ++ rest) (ofMember key value ++ ts) := by
  unfold memberText
  rw [List.append_assoc, List.cons_append]
  exact .text key.toList (.cons rfl rfl (by simp) (.text value.toList h))

/-- The tokens of a record. -/
def ofFields : List (String × String) → List Token
  | [] => []
  | [(k, v)] => ofMember k v
  | (k, v) :: fields => ofMember k v ++ comma :: ofFields fields

theorem Scans.fields {rest : List Char} {ts : List Token} (h : Scans rest ts)
    (fields : List (String × String)) :
    Scans (Overlay.Text.join [','] (fields.map fun (k, v) => memberText k v) ++ rest)
      (ofFields fields ++ ts) := by
  induction fields with
  | nil => exact h
  | cons field fields ih =>
      obtain ⟨k, v⟩ := field
      cases fields with
      | nil => exact .member k v h
      | cons next fields =>
          show Scans (memberText k v ++ [','] ++ _ ++ rest) (ofMember k v ++ comma :: _ ++ ts)
          simp only [List.append_assoc, List.cons_append, List.nil_append]
          exact .member k v (.cons rfl rfl (Nat.le_refl _) ih)

theorem Scans.record {rest : List Char} {ts : List Token} (h : Scans rest ts)
    (fields : List (String × String)) :
    Scans (recordText fields ++ rest) (openObject :: (ofFields fields ++ closeObject :: ts)) := by
  unfold recordText
  simp only [List.append_assoc, List.cons_append, List.nil_append]
  exact .cons rfl rfl (Nat.le_refl _) (.fields (.cons rfl rfl (Nat.le_refl _) h) fields)

end Token

end Json

end Overlay
