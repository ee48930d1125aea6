import Mathlib.Data.List.Induction
import Overlay.Controller.EventStream
import Overlay.Proofs.Member.Edge
import Overlay.Proofs.Text.Utf8

/-!
# What a stream of events publishes

The lines of a stream may end in any of the three ways.  As long as no end runs into the next line
the reader finds the lines that were written (`lines_written`).  Lines up to an empty one make a
block; each block is an event of its own, whatever stands before and after it
(`changes_of_blocks`), and `changeOf?` says which change it publishes: the one that its data say, if
the event has no name or the name for messages.  Comments, events of other names and data that are
no change publish nothing.

So the changes of a body are those of the blocks that were written into it (`changes_of_carries`).
When changes were written, each as one line of data, then these are the changes, and whatever else
is written between them makes no difference (`changes_of_items`).
-/

namespace Overlay.EventStream

open Text (Unbroken)

/-! ## Lines -/

/-- How a line ends. -/
inductive LineEnd where
  /-- With a line feed. -/
  | lf
  /-- With a carriage return and a line feed. -/
  | crlf
  /-- With a carriage return. -/
  | cr

/-- The characters of the end. -/
def LineEnd.text : LineEnd → List Char
  | lf => ['\n']
  | crlf => ['\r', '\n']
  | cr => ['\r']

/-- Lines and their ends as they are written. -/
def written (ls : List (List Char × LineEnd)) : List Char := ls.flatMap fun (l, e) => l ++ e.text

/-- A carriage return ends a line only when something other than a line feed follows. -/
def Apart : List (List Char × LineEnd) → Prop
  | [] => True
  | (_, .cr) :: rest => (∃ c s, written rest = c :: s ∧ c ≠ '\n') ∧ Apart rest
  | _ :: rest => Apart rest

theorem linesAfter_append {l : List Char} (hl : Unbroken l) (before s : List Char) :
    linesAfter before (l ++ s) = linesAfter (l.reverse ++ before) s := by
  induction l generalizing before with
  | nil => rfl
  | cons c l ih =>
      obtain ⟨⟨hn, hr⟩, hl⟩ := List.forall_mem_cons.mp hl
      have hstep : linesAfter before (c :: (l ++ s)) = linesAfter (c :: before) (l ++ s) := by
        rw [linesAfter]
        · exact hn
        · rintro rfl
          exact absurd rfl hr
        · rintro _ rfl
          exact absurd rfl hr
        · rintro rfl
          exact absurd rfl hr
      rw [List.cons_append, hstep, ih hl, List.reverse_cons, List.append_assoc]
      rfl

/-- The first line of a text. -/
theorem lines_append {l : List Char} (hl : Unbroken l) {e : LineEnd} {s : List Char}
    (hapart : e = .cr → ∃ c t, s = c :: t ∧ c ≠ '\n') :
    lines (l ++ e.text ++ s) = l :: lines s := by
  unfold lines
  rw [List.append_assoc, linesAfter_append hl, List.append_nil]
  have hline : l.reverse.reverse = l := List.reverse_reverse l
  cases e with
  | lf =>
      show linesAfter l.reverse ('\n' :: s) = _
      rw [linesAfter, hline]
  | crlf =>
      show linesAfter l.reverse ('\r' :: '\n' :: s) = _
      rw [linesAfter, hline]
  | cr =>
      obtain ⟨c, t, rfl, hc⟩ := hapart rfl
      show linesAfter l.reverse ('\r' :: c :: t) = _
      rw [linesAfter, hline]
      · rintro heq
        cases heq
      · rintro t' heq
        cases heq
        exact hc rfl

/-- **The lines that were written are found again.** -/
theorem lines_written {ls : List (List Char × LineEnd)} (hls : ∀ l ∈ ls, Unbroken l.1)
    (hapart : Apart ls) : lines (written ls) = ls.map Prod.fst := by
  induction ls with
  | nil => rfl
  | cons le ls ih =>
      obtain ⟨l, e⟩ := le
      obtain ⟨hl, hls⟩ := List.forall_mem_cons.mp hls
      have hrest : Apart ls ∧ (e = .cr → ∃ c t, written ls = c :: t ∧ c ≠ '\n') := by
        cases e with
        | lf | crlf => exact ⟨hapart, fun heq => nomatch heq⟩
        | cr => exact ⟨hapart.2, fun _ => hapart.1⟩
      show lines (l ++ e.text ++ written ls) = l :: ls.map Prod.fst
      rw [lines_append hl hrest.2, ih hls hrest.1]

/-! ## Blocks -/

/-- The values that the lines give to a field. -/
def valuesOf (name : List Char) (ls : List (List Char)) : List (List Char) :=
  ((ls.map field).filter fun f => f.1 = name).map Prod.snd

/-- The name of the event that the lines make, nothing when they give none. -/
def nameOf (ls : List (List Char)) : List Char := (valuesOf "event".toList ls).getLast?.getD []

/-- The data of the event that the lines make. -/
def dataOf (ls : List (List Char)) : List (List Char) := valuesOf "data".toList ls

/-- The change that the lines publish: what their data say, if they have data and do not name
    another event. -/
def changeOf? (ls : List (List Char)) : Option EdgeEvent :=
  if dataOf ls ≠ [] ∧ (nameOf ls = [] ∨ nameOf ls = defaultName) then
    EdgeEvent.ofJsonText? (Text.join ['\n'] (dataOf ls))
  else none

theorem valuesOf_append (name : List Char) (ls ls' : List (List Char)) :
    valuesOf name (ls ++ ls') = valuesOf name ls ++ valuesOf name ls' := by
  simp only [valuesOf, List.map_append, List.filter_append]

theorem valuesOf_eq {name l : List Char} (h : (field l).1 = name) :
    valuesOf name [l] = [(field l).2] := by
  simp only [valuesOf, List.map_cons, List.map_nil, List.filter_cons, h, decide_true, if_true,
    List.filter_nil]

theorem valuesOf_ne {name l : List Char} (h : (field l).1 ≠ name) : valuesOf name [l] = [] := by
  simp only [valuesOf, List.map_cons, List.map_nil, List.filter_cons, h, decide_false,
    Bool.false_eq_true, if_false, List.filter_nil]

/-- What the lines have given to the pending event. -/
theorem foldl_add (ls : List (List Char)) :
    ls.foldl Pending.add {} = ⟨nameOf ls, (dataOf ls).reverse⟩ := by
  induction ls using List.reverseRecOn with
  | nil => rfl
  | append_singleton ls l ih =>
      rw [List.foldl_append, ih, List.foldl_cons, List.foldl_nil, nameOf, nameOf, dataOf, dataOf,
        valuesOf_append, valuesOf_append]
      have hother : "data".toList ≠ "event".toList := by decide
      -- the last line names the event, or gives data, or does neither
      by_cases hevent : (field l).1 = "event".toList
      · rw [valuesOf_eq hevent, valuesOf_ne fun hdata => hother (hdata.symm.trans hevent),
          List.append_nil, List.getLast?_concat]
        exact if_pos hevent
      by_cases hdata : (field l).1 = "data".toList
      · rw [valuesOf_ne hevent, valuesOf_eq hdata, List.append_nil, List.reverse_concat]
        exact (if_neg hevent).trans (if_pos hdata)
      · rw [valuesOf_ne hevent, valuesOf_ne hdata, List.append_nil, List.append_nil]
        exact (if_neg hevent).trans (if_neg hdata)

/-- The event that the lines make publishes their change. -/
theorem event?_change? (ls : List (List Char)) :
    (ls.foldl Pending.add {}).event?.bind StreamEvent.change? = changeOf? ls := by
  rw [foldl_add, Pending.event?, changeOf?]
  by_cases hdata : dataOf ls = []
  · have hempty : (dataOf ls).reverse.isEmpty = true := by
      rw [hdata]
      rfl
    rw [if_pos hempty, if_neg fun h => h.1 hdata]
    rfl
  · have hfull : ¬ (dataOf ls).reverse.isEmpty = true := by
      rw [List.isEmpty_iff, List.reverse_eq_nil_iff]
      exact hdata
    rw [if_neg hfull]
    show (if (String.ofList _).toList = defaultName then _ else _) = _
    rw [String.toList_ofList, String.toList_ofList, List.reverse_reverse]
    refine if_congr ⟨fun h => ⟨hdata, ?_⟩, fun h => ?_⟩ rfl rfl
    · by_cases hname : nameOf ls = []
      · exact Or.inl hname
      · rw [if_neg (by rw [List.isEmpty_iff]; exact hname)] at h
        exact Or.inr h
    · rcases h.2 with hname | hname
      · rw [hname]
        rfl
      · rw [hname]
        rfl

/-- A block is an event of its own: the lines after it make what they make alone. -/
theorem dispatch_block {ls : List (List Char)} (hls : ∀ l ∈ ls, l ≠ []) (p : Pending)
    (rest : List (List Char)) :
    dispatch p (ls ++ [] :: rest) = (ls.foldl Pending.add p).event?.toList ++ dispatch {} rest := by
  induction ls generalizing p with
  | nil =>
      show dispatch p ([] :: rest) = p.event?.toList ++ dispatch {} rest
      rw [dispatch]
      cases p.event? with
      | none | some => rfl
  | cons l ls ih =>
      obtain ⟨hl, hls⟩ := List.forall_mem_cons.mp hls
      rw [List.cons_append, dispatch, ih hls, List.foldl_cons]
      exact hl

/-- **The changes of a stream are those of its blocks**, in their order. -/
theorem changes_of_blocks {blocks : List (List (List Char))}
    (hblocks : ∀ ls ∈ blocks, ∀ l ∈ ls, l ≠ []) :
    (dispatch {} (blocks.flatMap (· ++ [[]]))).filterMap StreamEvent.change? =
      blocks.filterMap changeOf? := by
  induction blocks with
  | nil => rfl
  | cons ls blocks ih =>
      obtain ⟨hls, hblocks⟩ := List.forall_mem_cons.mp hblocks
      rw [List.flatMap_cons, List.append_assoc, List.cons_append, List.nil_append,
        dispatch_block hls, List.filterMap_append, ih hblocks, List.filterMap_cons,
        ← event?_change?]
      cases (ls.foldl Pending.add {}).event? with
      | none => rfl
      | some e =>
          show [e].filterMap _ ++ _ = _
          rw [List.filterMap_cons, List.filterMap_nil]
          cases hchange : e.change? with
          | none | some => simp only [Option.bind_some, hchange, List.nil_append, List.cons_append]

/-! ## Bodies -/

/-- The lines of a block: none of them is empty. -/
def Block (ls : List (List Char)) : Prop := ∀ l ∈ ls, l ≠ [] ∧ Unbroken l

instance : DecidablePred Block := List.decidableBAll _

/-- The body holds the blocks, each followed by an empty line.  A byte order mark may stand before
    them, and after them something that is not UTF-8 and ends the stream with an error. -/
def Carries (body : List UInt8) (blocks : List (List (List Char))) : Prop :=
  ∃ s bad ls, body = Utf8.encode s ++ bad ∧ Utf8.decodeUntilBad bad = [] ∧
    dropMark s = written ls ∧ Apart ls ∧ ls.map Prod.fst = blocks.flatMap (· ++ [[]])

/-- **The changes of a body are those of the blocks that were written into it.** -/
theorem changes_of_carries {body : List UInt8} {blocks : List (List (List Char))}
    (hblocks : ∀ ls ∈ blocks, Block ls) (h : Carries body blocks) :
    (events body).filterMap StreamEvent.change? = blocks.filterMap changeOf? := by
  obtain ⟨s, bad, ls, rfl, hbad, hmark, hapart, hlines⟩ := h
  have hunbroken : ∀ l ∈ ls, Unbroken l.1 := by
    intro l hl
    have hmem : l.1 ∈ blocks.flatMap (· ++ [[]]) := hlines ▸ List.mem_map_of_mem hl
    obtain ⟨block, hblock, hl⟩ := List.mem_flatMap.mp hmem
    rcases List.mem_append.mp hl with hl | hl
    · exact (hblocks block hblock l.1 hl).2
    · rw [List.mem_singleton.mp hl]
      decide
  rw [events, Utf8.decodeUntilBad_encode_append, hbad, List.append_nil, hmark,
    lines_written hunbroken hapart, hlines,
    changes_of_blocks fun block hblock l hl => (hblocks block hblock l hl).1]

/-! ## Changes with other things between them -/

/-- What is written into a stream. -/
inductive Item where
  /-- A change, in one line of data with or without a space before it. -/
  | change (spaced : Bool) (e : EdgeEvent)
  /-- An event that publishes no change, or no event at all. -/
  | other (ls : List (List Char))

namespace Item

/-- The line of data that a change is written in. -/
def dataLine (spaced : Bool) (e : EdgeEvent) : List Char :=
  "data:".toList ++ if spaced then ' ' :: e.toJsonText else e.toJsonText

/-- The block of the item. -/
def block : Item → List (List Char)
  | change spaced e => [dataLine spaced e]
  | other ls => ls

/-- The change that is published. -/
def change? : Item → Option EdgeEvent
  | change _ e => some e
  | other _ => none

/-- What is no change publishes none: it is a comment, it names another event, or its data cannot be
    read. -/
def Fits : Item → Prop
  | change _ _ => True
  | other ls => Block ls ∧ changeOf? ls = none

instance : DecidablePred Fits
  | change _ _ => isTrue trivial
  | other ls => inferInstanceAs (Decidable (Block ls ∧ changeOf? ls = none))

/-- The line says what is written in it, with the space taken off. -/
theorem field_dataLine (spaced : Bool) (e : EdgeEvent) :
    field (dataLine spaced e) = ("data".toList, e.toJsonText) := by
  cases spaced with
  | true | false => rfl

/-- A change is published by the line that it is written in. -/
theorem changeOf?_dataLine (spaced : Bool) (e : EdgeEvent) :
    changeOf? [dataLine spaced e] = some e := by
  have hfield : (field (dataLine spaced e)).1 = "data".toList :=
    congrArg Prod.fst (field_dataLine spaced e)
  have hother : "data".toList ≠ "event".toList := by decide
  have hdata : dataOf [dataLine spaced e] = [e.toJsonText] := by
    rw [dataOf, valuesOf_eq hfield, field_dataLine]
  have hname : nameOf [dataLine spaced e] = [] := by
    rw [nameOf, valuesOf_ne fun hevent => hother (hfield.symm.trans hevent)]
    rfl
  rw [changeOf?, hdata, hname, if_pos ⟨List.cons_ne_nil _ _, Or.inl rfl⟩]
  exact EdgeEvent.ofJsonText?_toJsonText e

theorem unbroken_dataLine (spaced : Bool) (e : EdgeEvent) : Unbroken (dataLine spaced e) := by
  refine .append (by decide) ?_
  cases spaced with
  | true => exact .append (s := [' ']) (by decide) (EdgeEvent.unbroken_toJsonText e)
  | false => exact EdgeEvent.unbroken_toJsonText e

namespace Fits

theorem block {i : Item} (h : i.Fits) : Block i.block := by
  cases i with
  | change spaced e =>
      exact List.forall_mem_singleton.mpr ⟨List.cons_ne_nil _ _, unbroken_dataLine spaced e⟩
  | other ls => exact h.1

theorem changeOf?_eq {i : Item} (h : i.Fits) : changeOf? i.block = i.change? := by
  cases i with
  | change spaced e => exact changeOf?_dataLine spaced e
  | other ls => exact h.2

end Fits

end Item

/-- **The changes that are written between other things are those that are published.** -/
theorem changes_of_items {items : List Item} (hitems : ∀ i ∈ items, i.Fits) :
    (items.map Item.block).filterMap changeOf? = items.filterMap Item.change? := by
  rw [List.filterMap_map]
  exact List.filterMap_congr fun i hi => (hitems i hi).changeOf?_eq

end Overlay.EventStream
