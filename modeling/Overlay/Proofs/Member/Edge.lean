import Overlay.Member.Edge
import Overlay.Proofs.Json.Spread

/-!
# Reading the edges and the changes that are written

An edge is written as a JSON object, and the controller writes a change of the membership as an
object of two members on one line.  Both are read back, whatever the name, the address and the
network of the edge are.

A change is read in either order of its members and with blanks wherever JSON allows them
(`ofJsonText?_of_spread`): when the edge comes first, it is put aside until the kind is known.
-/

namespace Overlay

open Json Json.Token

/-! ## Edges -/

/-- The members of the object that an edge is written as. -/
def EdgeEvent.edgeMembers (e : Edge) : List (Option (List Char) × Json) :=
  [(some "name".toList, .text (some e.name.toList)),
    (some "host_addr".toList, .text (some e.address.toList)),
    (some "cidr".toList, .text (some e.cidr.toList))]

namespace Edge

/-- The fields of an edge as they are written. -/
def fields (e : Edge) : List (String × String) :=
  [("name", e.name), ("host_addr", e.address), ("cidr", e.cidr)]

theorem lexes (e : Edge) : Lexes e.toJsonText (recordTokens e.fields) := .record _

theorem builds (e : Edge) : Builds (recordTokens e.fields) (.object (EdgeEvent.edgeMembers e)) :=
  fun _ _ => rfl

theorem ofJson?_edgeMembers (e : Edge) : ofJson? (.object (EdgeEvent.edgeMembers e)) = some e := by
  have hvalues : textRecord? keys (.object (EdgeEvent.edgeMembers e)) =
      some [String.ofList e.name.toList, String.ofList e.address.toList,
        String.ofList e.cidr.toList] := rfl
  rw [ofJson?, hvalues]
  simp only [String.ofList_toList]

/-- An edge is read back from the text that is written of it. -/
theorem ofJsonText?_toJsonText (e : Edge) : ofJsonText? e.toJsonText = some e := by
  rw [ofJsonText?, read?_of_spread (.one _) (.one e.lexes) e.builds]
  exact e.ofJson?_edgeMembers

end Edge

/-! ## Changes of the membership -/

namespace EdgeEvent

/-- The members of the object that a change is written as. -/
def members (e : EdgeEvent) : List (Option (List Char) × Json) :=
  [(some "type".toList, .text (some e.kind.toList)),
    (some "edge".toList, .object (edgeMembers e.edge))]

theorem ofKind?_kind (e : EdgeEvent) : ofKind? e.kind.toList e.edge = some e := by
  cases e with
  | put edge => exact if_pos rfl
  | delete edge =>
      have hother : ¬ "delete".toList = "put".toList := by decide
      exact (if_neg hother).trans (if_pos rfl)

theorem ofParts?_kind_edge (e : EdgeEvent) :
    ofParts? (.text (some e.kind.toList)) (.object (edgeMembers e.edge)) = some e := by
  rw [ofParts?, e.edge.ofJson?_edgeMembers]
  exact ofKind?_kind e

theorem ofJson?_members (e : EdgeEvent) : ofJson? (.object e.members) = some e :=
  e.ofParts?_kind_edge

/-- An edge that is put aside can be read later. -/
theorem ofJson?_members_reverse (e : EdgeEvent) : ofJson? (.object e.members.reverse) = some e :=
  e.ofParts?_kind_edge

/-- The pieces of the members, the kind first. -/
def parts (e : EdgeEvent) : List (String × List (List Char)) :=
  [("type", [Text.encode e.kind.toList]), ("edge", [e.edge.toJsonText])]

/-- The tokens of the members, the kind first. -/
def partTokens (e : EdgeEvent) : List (String × List Token) :=
  [("type", [atom (.text (some e.kind.toList))]), ("edge", recordTokens e.edge.fields)]

theorem lexes_kind (e : EdgeEvent) :
    LexesAll [Text.encode e.kind.toList] [atom (.text (some e.kind.toList))] :=
  .one (.text _)

theorem lexes_edge (e : EdgeEvent) :
    LexesAll [e.edge.toJsonText] (recordTokens e.edge.fields) :=
  .one e.edge.lexes

theorem lexes_parts (e : EdgeEvent) :
    LexesAll (objectPieces e.parts) (objectTokens e.partTokens) :=
  .object (.cons ⟨rfl, e.lexes_kind⟩ (.cons ⟨rfl, e.lexes_edge⟩ .nil))

theorem lexes_parts_reverse (e : EdgeEvent) :
    LexesAll (objectPieces e.parts.reverse) (objectTokens e.partTokens.reverse) :=
  .object (.cons ⟨rfl, e.lexes_edge⟩ (.cons ⟨rfl, e.lexes_kind⟩ .nil))

theorem builds_parts (e : EdgeEvent) : Builds (objectTokens e.partTokens) (.object e.members) :=
  fun _ _ => rfl

theorem builds_parts_reverse (e : EdgeEvent) :
    Builds (objectTokens e.partTokens.reverse) (.object e.members.reverse) :=
  fun _ _ => rfl

/-- **A change is read in either order of its members.** -/
theorem ofJsonText?_of_spread {e : EdgeEvent} {s : List Char}
    (h : Spread (objectPieces e.parts) s ∨ Spread (objectPieces e.parts.reverse) s) :
    ofJsonText? s = some e := by
  rcases h with h | h
  · rw [ofJsonText?, read?_of_spread h e.lexes_parts e.builds_parts]
    exact ofJson?_members e
  · rw [ofJsonText?, read?_of_spread h e.lexes_parts_reverse e.builds_parts_reverse]
    exact ofJson?_members_reverse e

/-- A change is written without blanks. -/
theorem spread_toJsonText (e : EdgeEvent) : Spread (objectPieces e.parts) e.toJsonText := by
  have htight : spread [] (objectPieces e.parts) = e.toJsonText := by
    simp [spread, objectPieces, listed, parts, toJsonText, memberText]
  exact htight ▸ .of_blank (List.forall_mem_nil _) _

/-- **A change is read back from the text that is written of it.** -/
theorem ofJsonText?_toJsonText (e : EdgeEvent) : ofJsonText? e.toJsonText = some e :=
  ofJsonText?_of_spread (Or.inl e.spread_toJsonText)

/-- A change is written on one line. -/
theorem unbroken_toJsonText (e : EdgeEvent) : Text.Unbroken e.toJsonText := by
  have hkind : Text.Unbroken (['{'] ++ memberText "type" e.kind ++ [',']) :=
    .append (.append (by decide) (unbroken_memberText _ _)) (by decide)
  have hkey : Text.Unbroken (Text.encode "edge".toList ++ [':']) :=
    .append (Text.unbroken_encode _) (by decide)
  have hrest := (hkind.append hkey).append
    ((unbroken_recordText [("name", e.edge.name), ("host_addr", e.edge.address),
      ("cidr", e.edge.cidr)]).append (t := ['}']) (by decide))
  unfold toJsonText Edge.toJsonText
  simpa only [List.append_assoc] using hrest

end EdgeEvent

end Overlay
