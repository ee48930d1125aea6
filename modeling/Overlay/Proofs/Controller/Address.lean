import Overlay.Controller.Registry
import Overlay.Proofs.Url.Percent
import Overlay.Proofs.Url.Web

/-!
# Names with an address of their own

An edge is addressed by its name, as one segment below the path of the collection of edges.
Slashes, percent signs and whatever else a name contains are escaped, so that the segment is
read as the name again.  Two kinds of names are lost on the way, though:

* dots alone put no segment at the end of a path, and
* tabs and ends of lines are left out of one.

`ownAddress_iff_plain` says that these are all: a name that is not blank has an address of its
own if and only if it is *plain*.  The names that are not share the address of another edge or
of the collection itself (`edgeUrl_dot`, `edgeUrl_kept`), and the edge that is unregistered is
not the one that was meant.
-/

namespace Overlay

/-! ## The segment for a text -/

namespace UrlPath

/-- The text without tabs and ends of lines. -/
def kept (s : List Char) : List Char := s.filter fun c => !(c = '\t' || c = '\n' || c = '\r')

/-- Is this a tab or the end of a line? -/
def isLost (c : Char) : Prop := c = '\t' ∨ c = '\n' ∨ c = '\r'

/-- Do dots alone make up the text, one or two? -/
def isDots (s : List Char) : Prop := s = ['.'] ∨ s = ['.', '.']

theorem kept_eq_self_iff {s : List Char} : kept s = s ↔ ∀ c ∈ s, ¬isLost c := by
  simp only [kept, List.filter_eq_self, isLost, Bool.not_eq_true', Bool.or_eq_false_iff,
    decide_eq_false_iff_not, not_or, and_assoc]

/-- A slash and a percent sign are escaped in a segment. -/
theorem inSegment_slash : Percent.inSegment true '/' = true := by decide

theorem inSegment_percent : Percent.inSegment true '%' = true := by decide

theorem slash_notMem_encode (s : List Char) :
    '/' ∉ Percent.encode (Percent.inSegment true) s := by
  intro h
  rcases Percent.mem_encode h with h | h | h
  · rw [inSegment_slash] at h
    exact nomatch h
  · exact nomatch h
  · exact nomatch h

/-- Dots alone put nothing at the end of a path. -/
theorem push_of_isDots {s : List Char} (h : isDots s) (segments : List Segment) :
    push true false segments s = segments := by
  have hdots : (decide (s = ['.']) || decide (s = ['.', '.'])) = true := by
    rw [Bool.or_eq_true, decide_eq_true_eq, decide_eq_true_eq]
    exact h
  rw [push, if_pos hdots]

/-- Another text is gone through, as far as it is kept. -/
theorem push_eq_resolve {s : List Char} (h : ¬isDots s) {segments : List Segment}
    (hne : segments ≠ [[]]) :
    push true false segments s =
      resolve false segments.reverse [Percent.encode (Percent.inSegment true) (kept s)] := by
  have hdots : ¬(decide (s = ['.']) || decide (s = ['.', '.'])) = true := by
    rw [Bool.or_eq_true, decide_eq_true_eq, decide_eq_true_eq]
    exact h
  rw [push, if_neg hdots]
  simp only [if_neg hne, if_neg Bool.false_ne_true]
  rfl

/-- A text of which no dots alone are kept puts its segment at the end. -/
theorem push_of_not_isDots {s : List Char} (hs : ¬isDots s) (h : ¬isDots (kept s))
    {segments : List Segment} (hne : segments ≠ [[]]) :
    push true false segments s =
      segments ++ [Percent.encode (Percent.inSegment true) (kept s)] := by
  have hdouble : ¬isDoubleDot (Percent.encode (Percent.inSegment true) (kept s)) = true :=
    fun hd => h (Or.inr (Percent.eq_dots_of_isDoubleDot inSegment_percent hd))
  have hsingle : ¬isSingleDot (Percent.encode (Percent.inSegment true) (kept s)) = true :=
    fun hd => h (Or.inl (Percent.eq_dot_of_isSingleDot inSegment_percent hd))
  rw [push_eq_resolve hs hne]
  simp only [resolve, if_neg hdouble, if_neg hsingle, Bool.false_and, if_neg Bool.false_ne_true,
    List.reverse_cons, List.reverse_reverse]

/-- A dot among characters that are left out puts an empty segment at the end. -/
theorem push_of_kept_eq_dot {s : List Char} (hs : ¬isDots s) (h : kept s = ['.'])
    {segments : List Segment} (hne : segments ≠ [[]]) :
    push true false segments s = segments ++ [[]] := by
  have hdot : Percent.encode (Percent.inSegment true) ['.'] = ['.'] := by decide
  have hdouble : ¬isDoubleDot ['.'] = true := by decide
  have hsingle : isSingleDot ['.'] = true := by decide
  rw [push_eq_resolve hs hne, h, hdot]
  simp only [resolve, if_neg hdouble, if_pos hsingle, List.isEmpty_nil, if_true,
    List.reverse_cons, List.reverse_reverse]

/-- Two dots among characters that are left out put an empty segment in place of the last one. -/
theorem push_of_kept_eq_dots {s : List Char} (hs : ¬isDots s) (h : kept s = ['.', '.'])
    {segments : List Segment} (hne : segments ≠ [[]]) :
    push true false segments s = (up segments.reverse).reverse ++ [[]] := by
  have hdots : Percent.encode (Percent.inSegment true) ['.', '.'] = ['.', '.'] := by decide
  have hdouble : isDoubleDot ['.', '.'] = true := by decide
  rw [push_eq_resolve hs hne, h, hdots]
  simp only [resolve, if_pos hdouble, List.isEmpty_nil, if_true, List.reverse_cons]

end UrlPath

namespace Controller

open UrlPath

/-! ## The address -/

/-- The URL is that of an edge, or of something below it: in the place of `base`, the path of
    the collection and in it one segment that is read as the name. -/
structure Addresses (base u : Url) (name : String) (below : List String) : Prop where
  scheme : u.scheme = base.scheme
  authority : u.authority = base.authority
  path : ∃ segment : Segment,
    u.way = .segments (edgesPath ++ segment :: below.map String.toList) ∧
      segment ≠ [] ∧ '/' ∉ segment ∧ Percent.decodeText? segment = some name.toList
  query : u.query = none
  fragment : u.fragment = none

/-- The edge and its reports have the addresses that they should have. -/
structure OwnAddress (base : Url) (name : String) : Prop where
  edge : ∃ u, edgeUrl base name [] = .ok u ∧ Addresses base u name []
  report : ∃ u, edgeUrl base name ["report"] = .ok u ∧ Addresses base u name ["report"]

/-- No dots alone, and neither tabs nor ends of lines. -/
structure Plain (name : String) : Prop where
  not_dots : ¬isDots name.toList
  not_lost : ∀ c ∈ name.toList, ¬isLost c

variable {text : List Char} {base : Url} (hbase : Url.read text = .ok base)
  (hweb : base.isWeb = true) {name : String}

include hbase hweb in
/-- The address has the path of the collection, with the name and what is below it put at its
    end one after the other. -/
theorem edgeUrl_eq (name : String) (below : List String) :
    edgeUrl base name below =
      .ok ⟨base.scheme, base.authority,
        .segments ((name.toList :: below.map String.toList).foldl (push true false) edgesPath),
        none, none⟩ := by
  have hspecial := Url.isSpecial_of_isWeb hweb
  have hfile := Url.isFile_eq_false_of_isWeb hweb
  have hpop : popIfEmpty (edgesPath ++ [[]]) = edgesPath := by decide
  rw [edgeUrl, Url.atPath_eq hbase hweb]
  simp only [Url.mapPath, Url.pushAll, hpop, hspecial, hfile]

theorem not_isDots_report : ¬isDots "report".toList := by
  rintro (h | h) <;> exact absurd h (by decide)

/-- What a report is sent to is below the edge. -/
theorem push_report {segments : List Segment} (h : segments ≠ [[]]) :
    push true false segments "report".toList = segments ++ ["report".toList] := by
  have hkept : kept "report".toList = "report".toList := by decide
  have hself :
      Percent.encode (Percent.inSegment true) "report".toList = "report".toList := by decide
  rw [push_of_not_isDots not_isDots_report (hkept ▸ not_isDots_report) h, hkept, hself]

include hbase hweb in
/-- Dots alone address the collection. -/
theorem edgeUrl_dot (h : isDots name.toList) : edgeUrl base name [] = edgesUrl base := by
  rw [edgeUrl_eq hbase hweb, edgesUrl, Url.atPath_eq hbase hweb]
  simp only [List.map_nil, List.foldl_cons, List.foldl_nil, push_of_isDots h]

include hbase hweb in
/-- Names of which the same is kept have the same address. -/
theorem edgeUrl_kept {other : String} (hname : ¬isDots name.toList)
    (hother : ¬isDots other.toList) (h : kept name.toList = kept other.toList)
    (below : List String) : edgeUrl base name below = edgeUrl base other below := by
  have hne : edgesPath ≠ [[]] := by decide
  rw [edgeUrl_eq hbase hweb, edgeUrl_eq hbase hweb]
  simp only [List.foldl_cons, push_eq_resolve hname hne, push_eq_resolve hother hne, h]

/-! ## Which names have one -/

theorem Plain.kept_eq (h : Plain name) : kept name.toList = name.toList :=
  kept_eq_self_iff.mpr h.not_lost

/-- The segment of a plain name. -/
def segmentOf (name : String) : Segment :=
  Percent.encode (Percent.inSegment true) name.toList

theorem Plain.push_eq (h : Plain name) {segments : List Segment} (hne : segments ≠ [[]]) :
    push true false segments name.toList = segments ++ [segmentOf name] := by
  have hkept : ¬isDots (kept name.toList) := by
    rw [h.kept_eq]
    exact h.not_dots
  rw [push_of_not_isDots h.not_dots hkept hne, h.kept_eq, segmentOf]

/-- The address of a plain name that is not empty, or of something below it. -/
theorem addresses_segmentOf (hne : name.toList ≠ []) (below : List String) :
    Addresses base
      ⟨base.scheme, base.authority,
        .segments (edgesPath ++ segmentOf name :: below.map String.toList), none, none⟩
      name below where
  scheme := rfl
  authority := rfl
  path := ⟨segmentOf name, rfl, Percent.encode_ne_nil hne, slash_notMem_encode _,
    Percent.decodeText?_encode inSegment_percent _⟩
  query := rfl
  fragment := rfl

include hbase hweb in
theorem Plain.edgeUrl_eq (h : Plain name) :
    edgeUrl base name [] =
      .ok ⟨base.scheme, base.authority, .segments (edgesPath ++ [segmentOf name]), none, none⟩ := by
  have hne : edgesPath ≠ [[]] := by decide
  rw [Controller.edgeUrl_eq hbase hweb]
  simp only [List.map_nil, List.foldl_cons, List.foldl_nil, h.push_eq hne]

include hbase hweb in
theorem Plain.edgeUrl_report_eq (h : Plain name) :
    edgeUrl base name ["report"] =
      .ok ⟨base.scheme, base.authority,
        .segments (edgesPath ++ [segmentOf name, "report".toList]), none, none⟩ := by
  have hne : edgesPath ≠ [[]] := by decide
  have hne' : edgesPath ++ [segmentOf name] ≠ [[]] := by
    intro heq
    exact absurd (congrArg List.length heq) (by simp [edgesPath])
  rw [Controller.edgeUrl_eq hbase hweb]
  simp only [List.map_cons, List.map_nil, List.foldl_cons, List.foldl_nil, h.push_eq hne,
    push_report hne', List.append_assoc, List.cons_append, List.nil_append]

include hbase hweb in
theorem ownAddress_of_plain (h : Plain name) (hne : name.toList ≠ []) : OwnAddress base name where
  edge := ⟨_, h.edgeUrl_eq hbase hweb, addresses_segmentOf hne []⟩
  report := ⟨_, h.edgeUrl_report_eq hbase hweb, addresses_segmentOf hne ["report"]⟩

include hbase hweb in
/-- A name that is not plain puts no segment that is read as it: none at all, an empty one,
    or that of what is kept of it. -/
theorem plain_of_ownAddress (h : OwnAddress base name) : Plain name := by
  have hne : edgesPath ≠ [[]] := by decide
  obtain ⟨u, hu, hat⟩ := h.edge
  obtain ⟨segment, hway, hsegment, -, hread⟩ := hat.path
  have hpath : push true false edgesPath name.toList = edgesPath ++ [segment] := by
    rw [edgeUrl_eq hbase hweb] at hu
    obtain rfl := Except.ok.inj hu
    exact UrlWay.segments.inj hway
  have hdots : ¬isDots name.toList := by
    intro hdots
    rw [push_of_isDots hdots] at hpath
    exact absurd (congrArg List.length hpath) (by simp)
  by_cases hdot : kept name.toList = ['.']
  · rw [push_of_kept_eq_dot hdots hdot hne] at hpath
    exact absurd (List.singleton_inj.mp (List.append_cancel_left hpath)).symm hsegment
  by_cases hdouble : kept name.toList = ['.', '.']
  · rw [push_of_kept_eq_dots hdots hdouble hne] at hpath
    exact absurd (congrArg List.length hpath) (by simp [edgesPath, up]; decide)
  · rw [push_of_not_isDots hdots (not_or.mpr ⟨hdot, hdouble⟩) hne] at hpath
    have hsegment := List.singleton_inj.mp (List.append_cancel_left hpath)
    rw [← hsegment, Percent.decodeText?_encode inSegment_percent] at hread
    exact ⟨hdots, kept_eq_self_iff.mp (Option.some.inj hread)⟩

/-! ## Requests -/

/-- What an edge is unregistered with, and what reports of it are sent with. -/
structure Requests (base : Url) (name : String) (a : Ipv4) : Prop where
  removal : ∃ u, removal base name = .ok ⟨.delete, u, none⟩ ∧ Addresses base u name []
  sighting : ∃ u body, sighting base name a = .ok ⟨.post, u, some body⟩ ∧
    Addresses base u name ["report"]

theorem OwnAddress.requests (h : OwnAddress base name) (a : Ipv4) : Requests base name a where
  removal := by
    obtain ⟨u, hu, hat⟩ := h.edge
    refine ⟨u, ?_, hat⟩
    rw [removal, hu]
    rfl
  sighting := by
    obtain ⟨u, hu, hat⟩ := h.report
    refine ⟨u, Json.recordText [("addr", toString a)], ?_, hat⟩
    rw [sighting, hu]
    rfl

/-- A request that is made has the URL that was found for it. -/
theorem ok_of_map {x : Except UrlError Url} {f : Url → HttpRequest} {r : HttpRequest}
    (hf : ∀ u, (f u).url = u) (h : x.map f = .ok r) : x = .ok r.url := by
  cases x with
  | error e => exact nomatch h
  | ok u =>
      obtain rfl := Except.ok.inj h
      rw [hf]

theorem Requests.ownAddress {a : Ipv4} (h : Requests base name a) : OwnAddress base name where
  edge := by
    obtain ⟨u, hu, hat⟩ := h.removal
    exact ⟨u, ok_of_map (fun _ => rfl) hu, hat⟩
  report := by
    obtain ⟨u, body, hu, hat⟩ := h.sighting
    exact ⟨u, ok_of_map (fun _ => rfl) hu, hat⟩

/-- A URL is the address of one name, and of the edge or of its reports. -/
theorem Addresses.unique {u : Url} {other : String} {below below' : List String}
    (h : Addresses base u name below) (h' : Addresses base u other below') :
    name = other ∧ below.map String.toList = below'.map String.toList := by
  obtain ⟨segment, hway, -, -, hread⟩ := h.path
  obtain ⟨segment', hway', -, -, hread'⟩ := h'.path
  have hpath := List.append_cancel_left (UrlWay.segments.inj (hway.symm.trans hway'))
  obtain ⟨rfl, hbelow⟩ := List.cons.inj hpath
  exact ⟨String.toList_inj.mp (Option.some.inj (hread.symm.trans hread')), hbelow⟩

/-- **A name that is not blank has an address of its own if and only if it is plain.**  Then
    the requests that are made for the edge have that address, and no request for another
    plain name has it. -/
theorem ownAddress_iff_plain {text : List Char} {base : Url} (hbase : Url.read text = .ok base)
    (hweb : base.isWeb = true) {name : String} (hname : Text.allBlank name.toList = false) :
    (OwnAddress base name ↔ Plain name) ∧
    (∀ a, Requests base name a ↔ Plain name) ∧
    ∀ other, Text.allBlank other.toList = false → Plain name → Plain other → name ≠ other →
      ∀ below ∈ [[], ["report"]], ∀ below' ∈ [[], ["report"]],
        edgeUrl base name below ≠ edgeUrl base other below' := by
  have hne {name : String} (h : Text.allBlank name.toList = false) : name.toList ≠ [] := by
    intro hnil
    rw [hnil] at h
    exact nomatch h
  have hown {name : String} (h : Text.allBlank name.toList = false) :
      OwnAddress base name ↔ Plain name :=
    ⟨plain_of_ownAddress hbase hweb, fun hplain => ownAddress_of_plain hbase hweb hplain (hne h)⟩
  have hat {name : String} (h : OwnAddress base name) :
      ∀ below ∈ [[], ["report"]], ∃ u, edgeUrl base name below = .ok u ∧
        Addresses base u name below := by
    intro below hbelow
    simp only [List.mem_cons, List.not_mem_nil, or_false] at hbelow
    rcases hbelow with rfl | rfl
    · exact h.edge
    · exact h.report
  refine ⟨hown hname, fun a => ?_, ?_⟩
  · exact ⟨fun h => (hown hname).mp h.ownAddress, fun h => ((hown hname).mpr h).requests a⟩
  · intro other hother hplain hplain' hdiffer below hbelow below' hbelow' heq
    obtain ⟨u, hu, hu'⟩ := hat ((hown hname).mpr hplain) below hbelow
    obtain ⟨v, hv, hv'⟩ := hat ((hown hother).mpr hplain') below' hbelow'
    obtain rfl : u = v := Except.ok.inj (hu.symm.trans (heq.trans hv))
    exact hdiffer (hu'.unique hv').1

/-- A controller. -/
def controller : Url :=
  ⟨"https".toList, some ⟨[], [], .name "hub".toList, none⟩,
    .segments [[]], none, none⟩

theorem read_controller : Url.read "https://hub".toList = .ok controller :=
  Url.ok_of_toOption (by decide +kernel)

/-- Slashes and percent signs in names do no harm. -/
theorem ownAddress_of_slashes :
    OwnAddress controller "../50% of a/b" ∧
      edgeUrl controller "../50% of a/b" [] ≠ edgeUrl controller "../50% of a" ["report"] := by
  have hweb : controller.isWeb = true := by decide
  have hplain : Plain "../50% of a/b" :=
    ⟨by unfold isDots; decide, kept_eq_self_iff.mp (by decide)⟩
  have hplain' : Plain "../50% of a" :=
    ⟨by unfold isDots; decide, kept_eq_self_iff.mp (by decide)⟩
  have hname : Text.allBlank "../50% of a/b".toList = false := by decide
  obtain ⟨hown, -, hdiffer⟩ := ownAddress_iff_plain read_controller hweb hname
  exact ⟨hown.mpr hplain, hdiffer "../50% of a" (by decide) hplain hplain' (by decide)
    [] (by decide) ["report"] (by decide)⟩

/-- A name that is a dot addresses the collection, and names that differ in a tab only share
    an address: not every name that is not blank has one of its own. -/
theorem not_ownAddress :
    Url.read "https://hub".toList = .ok controller ∧
    controller.isWeb = true ∧
    (Text.allBlank ".".toList = false ∧ edgeUrl controller "." [] = edgesUrl controller ∧
      ¬OwnAddress controller ".") ∧
    (Text.allBlank "a\tb".toList = false ∧ Text.allBlank "ab".toList = false ∧
      edgeUrl controller "a\tb" [] = edgeUrl controller "ab" [] ∧
      ¬OwnAddress controller "a\tb") := by
  have hweb : controller.isWeb = true := by decide
  have hdot : isDots ".".toList := Or.inl (by decide)
  have htab : isLost '\t' := Or.inl rfl
  refine ⟨read_controller, hweb, ⟨by decide, edgeUrl_dot read_controller hweb hdot, ?_⟩,
    by decide, by decide, edgeUrl_kept read_controller hweb ?_ ?_ (by decide) [], ?_⟩
  · exact fun h => (plain_of_ownAddress read_controller hweb h).not_dots hdot
  · unfold isDots
    decide
  · unfold isDots
    decide
  · exact fun h => (plain_of_ownAddress read_controller hweb h).not_lost '\t' (by decide) htab

end Controller

end Overlay
