import Overlay.Proofs.Json.RoundTrip

/-!
# Values that are written with blanks

Whoever writes an object or an array may put blanks between its pieces: the brackets, the commas,
the colons, the keys and the values.  `Spread` says that a text is made of pieces in this way;
`objectPieces` and `arrayPieces` are the pieces of objects and arrays.

Blanks do not change the tokens (`Spread.lexes`), and the tokens of values in brackets are read as
the array of the values (`Builds.array`).  Together this is the value that the text holds
(`read?_of_spread`).
-/

namespace Overlay.Json

open Token

/-! ## Pieces -/

/-- The characters may stand between tokens. -/
def Blank (s : List Char) : Prop := ∀ c ∈ s, isSpace c = true

instance : DecidablePred Blank := fun s =>
  decidable_of_iff (s.all isSpace = true) List.all_eq_true

/-- The text is made of the pieces, with blanks before, between and behind them. -/
inductive Spread : List (List Char) → List Char → Prop where
  /-- There are no more pieces. -/
  | done {blank : List Char} : Blank blank → Spread [] blank
  /-- Blanks and the next piece. -/
  | next {blank piece s : List Char} {pieces : List (List Char)} :
      Blank blank → Spread pieces s → Spread (piece :: pieces) (blank ++ piece ++ s)

/-- The text with the same blanks everywhere. -/
def spread (blank : List Char) : List (List Char) → List Char
  | [] => blank
  | piece :: pieces => blank ++ piece ++ spread blank pieces

/-- Pieces can be written with any blanks. -/
theorem Spread.of_blank {blank : List Char} (h : Blank blank) (pieces : List (List Char)) :
    Spread pieces (spread blank pieces) := by
  induction pieces with
  | nil => exact .done h
  | cons piece pieces ih => exact .next h ih

/-- A text by itself is spread. -/
theorem Spread.one (piece : List Char) : Spread [piece] piece := by
  have hone : Spread [piece] ([] ++ piece ++ []) := .of_blank (List.forall_mem_nil _) [piece]
  rwa [List.append_nil] at hone

/-- What stands between brackets or braces, with commas. -/
def listed {α : Type} (comma : α) (items : List (List α)) : List α :=
  (items.intersperse [comma]).flatten

/-- The pieces of an array, given those of its items. -/
def arrayPieces (items : List (List (List Char))) : List (List Char) :=
  ['['] :: (listed [','] items ++ [[']']])

/-- The pieces of an object, given those of its values. -/
def objectPieces (members : List (String × List (List Char))) : List (List Char) :=
  ['{'] :: (listed [','] (members.map fun (k, v) => Text.encode k.toList :: [':'] :: v) ++ [['}']])

/-! ## Tokens -/

/-- The text falls into the tokens, whatever follows. -/
def Lexes (s : List Char) (ts : List Token) : Prop :=
  ∀ rest us, Scans rest us → Scans (s ++ rest) (ts ++ us)

variable {s s' piece : List Char} {ts us : List Token} {pieces pieces' : List (List Char)}

theorem Lexes.scans (h : Lexes s ts) : Scans s ts := by
  have hscans := h [] [] .nil
  rwa [List.append_nil, List.append_nil] at hscans

theorem Lexes.append (h : Lexes s ts) (h' : Lexes s' us) : Lexes (s ++ s') (ts ++ us) := by
  intro rest vs hrest
  rw [List.append_assoc, List.append_assoc]
  exact h _ _ (h' rest vs hrest)

/-- Blanks are no tokens. -/
theorem Lexes.blank (h : Blank s) : Lexes s [] := by
  intro rest us hrest
  induction s with
  | nil => exact hrest
  | cons c s ih =>
      obtain ⟨hc, hs⟩ := List.forall_mem_cons.mp h
      show scanWithin? ((s ++ rest).length + 1) (c :: (s ++ rest)) = some us
      rw [scanWithin?, if_pos hc]
      exact ih hs

/-- A character that is a token of its own. -/
theorem Lexes.mark {c : Char} {t : Token} (hspace : isSpace c = false)
    (hnext : ∀ s, next? (c :: s) = some (t, s)) : Lexes [c] [t] :=
  fun rest _ hrest => .cons hspace (hnext rest) (Nat.le_refl _) hrest

theorem Lexes.text (s : List Char) : Lexes (Text.encode s) [atom (.text (some s))] :=
  fun _ _ hrest => .text s hrest

/-- The tokens of a record. -/
def recordTokens (fields : List (String × String)) : List Token :=
  openObject :: (ofFields fields ++ [closeObject])

theorem Lexes.record (fields : List (String × String)) :
    Lexes (recordText fields) (recordTokens fields) := by
  intro rest us hrest
  unfold recordTokens
  rw [List.cons_append, List.append_assoc, List.singleton_append]
  exact .record hrest fields

/-! ## The tokens of pieces -/

/-- The pieces fall into the tokens, one after the other. -/
inductive LexesAll : List (List Char) → List Token → Prop where
  | nil : LexesAll [] []
  | cons {piece : List Char} {pieces : List (List Char)} {ts us : List Token} :
      Lexes piece ts → LexesAll pieces us → LexesAll (piece :: pieces) (ts ++ us)

theorem LexesAll.one (h : Lexes piece ts) : LexesAll [piece] ts := by
  have hone := LexesAll.cons h .nil
  rwa [List.append_nil] at hone

theorem LexesAll.append (h : LexesAll pieces ts) (h' : LexesAll pieces' us) :
    LexesAll (pieces ++ pieces') (ts ++ us) := by
  induction h with
  | nil => exact h'
  | cons hpiece _ ih =>
      rw [List.append_assoc]
      exact .cons hpiece ih

/-- **Blanks do not change the tokens.** -/
theorem Spread.lexes (h : Spread pieces s) (hpieces : LexesAll pieces ts) : Lexes s ts := by
  induction h generalizing ts with
  | done hblank =>
      cases hpieces
      exact .blank hblank
  | next hblank _ ih =>
      cases hpieces with
      | cons hpiece hrest => exact ((Lexes.blank hblank).append hpiece).append (ih hrest)

theorem LexesAll.listed {items : List (List (List Char))} {tokens : List (List Token)}
    (h : List.Forall₂ LexesAll items tokens) :
    LexesAll (Json.listed [','] items) (Json.listed comma tokens) := by
  have hcomma : Lexes [','] [comma] := .mark rfl fun _ => rfl
  induction h with
  | nil => exact .nil
  | cons hitem hrest ih =>
      cases hrest with
      | nil => simpa [Json.listed] using hitem
      | cons _ _ => exact hitem.append (.cons hcomma ih)

/-- The tokens of an array, given those of its items. -/
def arrayTokens (items : List (List Token)) : List Token :=
  openArray :: (listed comma items ++ [closeArray])

theorem LexesAll.array {items : List (List (List Char))} {tokens : List (List Token)}
    (h : List.Forall₂ LexesAll items tokens) : LexesAll (arrayPieces items) (arrayTokens tokens) :=
  .cons (.mark rfl fun _ => rfl) ((listed h).append (.one (.mark rfl fun _ => rfl)))

/-- The tokens of an object, given those of its values. -/
def objectTokens (members : List (String × List Token)) : List Token :=
  openObject :: (listed comma (members.map fun (k, v) => atom (.text (some k.toList)) :: colon :: v)
    ++ [closeObject])

theorem LexesAll.object {members : List (String × List (List Char))}
    {tokens : List (String × List Token)}
    (h : List.Forall₂ (fun m t => m.1 = t.1 ∧ LexesAll m.2 t.2) members tokens) :
    LexesAll (objectPieces members) (objectTokens tokens) := by
  refine .cons (.mark rfl fun _ => rfl) (.append (.listed ?_) (.one (.mark rfl fun _ => rfl)))
  rw [List.forall₂_map_left_iff, List.forall₂_map_right_iff]
  refine h.imp ?_
  rintro ⟨k, v⟩ ⟨_, ts⟩ ⟨rfl, hvalue⟩
  exact .cons (.text _) (.cons (.mark rfl fun _ => rfl) hvalue)

/-! ## Reading tokens -/

/-- The tokens are read as the value, whatever follows. -/
def Builds (ts : List Token) (v : Json) : Prop :=
  ∀ stack us, run? (.value, stack) (ts ++ us) = run? (.more v, stack) us

variable {v : Json}

/-- Where an array may end, a value is read as anywhere else. -/
theorem Builds.first (h : Builds ts v) (stack : List Frame) (us : List Token) :
    run? (.item, .array [] :: stack) (ts ++ us) = run? (.more v, .array [] :: stack) us := by
  cases ts with
  | nil => exact nomatch h [] []
  | cons t ts =>
      rw [← h]
      cases t with
      | closeArray => exact nomatch h [] []
      | _ => rfl

/-- The items of an array behind the first one are read one after the other. -/
theorem run?_items {tokens : List (List Token)} {values : List Json}
    (h : List.Forall₂ Builds tokens values) (items : List Json) (stack : List Frame)
    (us : List Token) :
    run? (.more v, .array items :: stack) (tokens.flatMap (comma :: ·) ++ closeArray :: us) =
      run? (.more (.array ((v :: items).reverse ++ values)), stack) us := by
  induction h generalizing v items with
  | nil =>
      rw [List.append_nil]
      rfl
  | @cons ts v' tokens values hitem _ ih =>
      rw [List.flatMap_cons, List.append_assoc, List.cons_append]
      show run? (.value, .array (v :: items) :: stack) (ts ++ _) = _
      rw [hitem, ih, List.reverse_cons (a := v'), List.append_assoc, List.singleton_append]

theorem listed_cons {α : Type} (c : α) (item : List α) (items : List (List α)) :
    listed c (item :: items) = item ++ items.flatMap (c :: ·) := by
  induction items generalizing item with
  | nil => simp [listed]
  | cons next items ih =>
      have hnext : listed c (item :: next :: items) = item ++ c :: listed c (next :: items) := rfl
      rw [hnext, ih, List.flatMap_cons, List.cons_append]

/-- **The tokens of values in brackets are read as the array of the values.** -/
theorem Builds.array {tokens : List (List Token)} {values : List Json}
    (h : List.Forall₂ Builds tokens values) : Builds (arrayTokens tokens) (.array values) := by
  intro stack us
  unfold arrayTokens
  rw [List.cons_append, List.append_assoc, List.singleton_append]
  show run? (.item, .array [] :: stack) _ = _
  cases h with
  | nil => rfl
  | cons hitem hrest =>
      rw [listed_cons, List.append_assoc, hitem.first, run?_items hrest]
      rfl

/-- **What a text holds** whose pieces fall into the tokens of a value. -/
theorem read?_of_spread (h : Spread pieces s) (hpieces : LexesAll pieces ts) (hv : Builds ts v) :
    read? s = some v := by
  have hscan : Token.scan? s = some ts := (h.lexes hpieces).scans
  have hrun := hv [] []
  rw [List.append_nil] at hrun
  rw [read?, hscan]
  exact hrun

end Overlay.Json
