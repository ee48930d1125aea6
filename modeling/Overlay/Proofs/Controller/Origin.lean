import Overlay.Proofs.Config.Loaded
import Overlay.Proofs.Controller.Address

/-!
# Only the origin of the controller counts

The requests to the controller go to fixed places of its origin, which are written as
references from the root: `/api/edges` and what is below it.  A reference from the root keeps
the scheme, the user, the host and the port of the URL that it is taken from and nothing else
(`Url.fromRoot_eq`).  It has a URL whenever the path of that URL is divided into segments, as
it is for all URLs of the web, and a configuration with another scheme is not loaded.

So no request of a loaded configuration fails for want of a URL, and the path, the query and
the fragment with which the controller was written down do not matter
(`Controller.origin_decides`).
-/

namespace Overlay

/-! ## References from the root -/

namespace Url

/-- The URL that a reference has which begins with one slash, taken from a URL that is no file:
    the scheme and the authority are kept, all else is read from the reference. -/
def fromRoot (u : Url) (reference : List Char) : Except UrlError Url :=
  match u.way with
  | .undivided _ => .error .noHierarchy
  | .segments _ =>
    let special := isSpecial u.scheme
    let r := Rest.ofText special (clean reference)
    .ok (r.url u.scheme u.authority
      (.segments (UrlPath.resolve false [] (UrlPath.written special r.body))))

/-- A URL of the web that was read from a text. -/
structure OfWeb (u : Url) : Prop where
  read : ∃ s, Url.read s = .ok u
  isWeb : u.isWeb = true

/-- The second URL is in the place of the first: it has the scheme, the user, the host and the
    port of that one, and neither a query nor a fragment. -/
structure Keeps (base u : Url) : Prop where
  scheme : u.scheme = base.scheme
  authority : u.authority = base.authority
  query : u.query = none
  fragment : u.fragment = none

/-- The two URLs differ in nothing but the path, the query and the fragment. -/
structure SameOrigin (u v : Url) : Prop where
  scheme : u.scheme = v.scheme
  authority : u.authority = v.authority

variable {base : Url}

/-- Every place of the origin of a URL of the web has an address. -/
theorem OfWeb.atPath_eq (h : base.OfWeb) (path : List UrlPath.Segment) :
    base.atPath path = .ok ⟨base.scheme, base.authority, .segments path, none, none⟩ := by
  obtain ⟨s, hs⟩ := h.read
  exact Url.atPath_eq hs h.isWeb path

/-- **A reference from the root** without query and fragment has the URL of the place that its
    path leads to. -/
theorem OfWeb.fromRoot_eq (h : base.OfWeb) {reference : List Char} {path : List UrlPath.Segment}
    (hrest : Rest.ofText true (clean reference) = ⟨reference, none, none⟩)
    (hpath : UrlPath.resolve false [] (UrlPath.written true reference) = path) :
    base.fromRoot reference = base.atPath path := by
  obtain ⟨s, hs⟩ := h.read
  have hspecial := isSpecial_of_isWeb h.isWeb
  obtain ⟨old, hold⟩ :=
    exists_segments_of_read hs hspecial (isFile_eq_false_of_isWeb h.isWeb)
  rw [h.atPath_eq, fromRoot, hold]
  simp only [hspecial, hrest, hpath, Rest.url]

/-- A reference from the root leads to a place of the origin that has it as its path. -/
theorem OfWeb.place_ok (h : base.OfWeb) {reference : List Char} {path : List UrlPath.Segment}
    (hrest : Rest.ofText true (clean reference) = ⟨reference, none, none⟩)
    (hpath : UrlPath.resolve false [] (UrlPath.written true reference) = path)
    (htext : ∀ authority, (UrlWay.segments path).toText authority = reference) :
    ∃ u, base.fromRoot reference = .ok u ∧ base.atPath path = .ok u ∧ Keeps base u ∧
      u.way.toText u.authority = reference := by
  have hplace := h.atPath_eq path
  exact ⟨_, (h.fromRoot_eq hrest hpath).trans hplace, hplace, ⟨rfl, rfl, rfl, rfl⟩, htext _⟩

end Url

namespace Controller

open Url

variable {base : Url}

/-! ## The places of the controller -/

theorem edgesUrl_ok (h : base.OfWeb) :
    ∃ u, base.fromRoot "/api/edges".toList = .ok u ∧ edgesUrl base = .ok u ∧ Keeps base u ∧
      u.way.toText u.authority = "/api/edges".toList :=
  h.place_ok rfl (by decide) fun authority => by cases authority <;> rfl

theorem watchUrl_ok (h : base.OfWeb) :
    ∃ u, base.fromRoot "/api/edges/watch".toList = .ok u ∧ watchUrl base = .ok u ∧
      Keeps base u ∧ u.way.toText u.authority = "/api/edges/watch".toList :=
  h.place_ok rfl (by decide) fun authority => by cases authority <;> rfl

/-- The address of an edge is made out of the place that is written with a slash at its end, and
    is in that place. -/
theorem edgeUrl_ok (h : base.OfWeb) (name : String) (below : List String) :
    ∃ place u, base.fromRoot "/api/edges/".toList = .ok place ∧
      u = (place.mapPath UrlPath.popIfEmpty).pushAll (name.toList :: below.map String.toList) ∧
      edgeUrl base name below = .ok u ∧ Keeps base u := by
  have hplace : base.fromRoot "/api/edges/".toList = base.atPath (edgesPath ++ [[]]) :=
    h.fromRoot_eq rfl (by decide)
  have hat := h.atPath_eq (edgesPath ++ [[]])
  refine ⟨_, _, hplace.trans hat, rfl, ?_, ⟨rfl, rfl, rfl, rfl⟩⟩
  rw [edgeUrl, hat]

/-! ## Requests -/

section

variable {via : Exchange} {reason : UrlError}

/-- A request that is not exchanged for want of a URL has none. -/
theorem error_of_exchange {r : Except UrlError HttpRequest}
    (h : exchange via r = .error (.url reason)) : r = .error reason := by
  cases r with
  | error e =>
      cases h
      rfl
  | ok r =>
      rw [exchange] at h
      split at h
      · exact nomatch h
      · exact nomatch h

/-- There is nothing about URLs in what is made of a reply. -/
theorem content_ne_url (reply : HttpReply) : reply.content ≠ .error (.url reason) := by
  rw [HttpReply.content]
  split
  · exact fun h => (nomatch h)
  · exact fun h => (nomatch h)

theorem hosts_ne_url (reply : HttpReply) : reply.hosts ≠ .error (.url reason) := by
  rw [HttpReply.hosts]
  split
  · next e he =>
      intro h
      obtain rfl := Except.error.inj h
      exact content_ne_url reply he
  · split
    · exact fun h => (nomatch h)
    · exact fun h => (nomatch h)

theorem error_of_carryOut {r : Except UrlError HttpRequest}
    (h : carryOut via r = .error (.url reason)) : r = .error reason := by
  rw [carryOut] at h
  split at h
  · next e he =>
      obtain rfl := Except.error.inj h
      exact error_of_exchange he
  · next reply hreply =>
      cases hcontent : reply.content with
      | error e =>
          rw [hcontent] at h
          obtain rfl := Except.error.inj h
          exact absurd hcontent (content_ne_url reply)
      | ok body =>
          rw [hcontent] at h
          exact nomatch h

theorem register_ne_url (h : base.OfWeb) (e : Edge) :
    register via base e ≠ .error (.url reason) := by
  intro hregister
  obtain ⟨u, -, hu, -⟩ := edgesUrl_ok h
  rw [register, registration, hu] at hregister
  split at hregister
  · next e he =>
      obtain rfl := Except.error.inj hregister
      cases error_of_exchange he
  · next reply _ => exact hosts_ne_url reply hregister

theorem report_ne_url (h : base.OfWeb) (name : String) (a : Ipv4) :
    report via base name a ≠ .error (.url reason) := by
  intro hreport
  obtain ⟨-, u, -, -, hu, -⟩ := edgeUrl_ok h name ["report"]
  rw [report, sighting, hu] at hreport
  cases error_of_carryOut hreport

theorem unregister_ne_url (h : base.OfWeb) (name : String) :
    unregister via base name ≠ .error (.url reason) := by
  intro hunregister
  obtain ⟨-, u, -, -, hu, -⟩ := edgeUrl_ok h name []
  rw [unregister, removal, hu] at hunregister
  cases error_of_carryOut hunregister

end

/-! ## The origin -/

theorem ofWeb_of_load {file : Option (List UInt8)} {environment : String → Option (List UInt8)}
    {c : Config} (h : Config.load file environment = .ok c) : c.registry.url.OfWeb :=
  ⟨(Config.url_of_load h).1, (Config.url_of_load h).2⟩

/-- **Only the origin counts, and it always suffices.**  The controller of every configuration
    that is loaded has a URL of the web.  For every such URL the references to the collection
    of edges and to its changes have URLs with the same scheme, user, host and port and with
    just the path of the reference; the address of every edge, with whatever is below it, is put
    together in such a place, and no call to the registry fails for want of a URL.  URLs that
    differ in the path, the query and the fragment only lead to the same places. -/
theorem origin_decides :
    (∀ file environment c, Config.load file environment = .ok c → c.registry.url.OfWeb) ∧
    (∀ base : Url, base.OfWeb →
      (∃ u, base.fromRoot "/api/edges".toList = .ok u ∧ edgesUrl base = .ok u ∧ Keeps base u ∧
        u.way.toText u.authority = "/api/edges".toList) ∧
      (∃ u, base.fromRoot "/api/edges/watch".toList = .ok u ∧ watchUrl base = .ok u ∧
        Keeps base u ∧ u.way.toText u.authority = "/api/edges/watch".toList) ∧
      (∀ name below, ∃ place u, base.fromRoot "/api/edges/".toList = .ok place ∧
        u = (place.mapPath UrlPath.popIfEmpty).pushAll (name.toList :: below.map String.toList) ∧
        edgeUrl base name below = .ok u ∧ Keeps base u) ∧
      ∀ via e name a reason, register via base e ≠ .error (.url reason) ∧
        report via base name a ≠ .error (.url reason) ∧
        unregister via base name ≠ .error (.url reason)) ∧
    ∀ base other : Url, base.OfWeb → other.OfWeb → SameOrigin base other →
      edgesUrl base = edgesUrl other ∧ watchUrl base = watchUrl other ∧
        ∀ name below, edgeUrl base name below = edgeUrl other name below := by
  refine ⟨fun _ _ _ => ofWeb_of_load,
    fun base h => ⟨edgesUrl_ok h, watchUrl_ok h, edgeUrl_ok h, ?_⟩, ?_⟩
  · intro via e name a reason
    exact ⟨register_ne_url h e, report_ne_url h name a, unregister_ne_url h name⟩
  · intro base other h h' hsame
    have hplace (path : List UrlPath.Segment) : base.atPath path = other.atPath path := by
      rw [h.atPath_eq, h'.atPath_eq, hsame.scheme, hsame.authority]
    refine ⟨hplace _, hplace _, fun name below => ?_⟩
    rw [edgeUrl, edgeUrl, hplace]

/-! A controller that is written down with everything that a URL can have. -/

/-- The configuration of an edge. -/
def document : String :=
  "[tunnel]\naddress = \"10.0.1.1/24\"\n[registry]\n" ++
    "url = \"http://ann:secret@[::1]:8080/ui/../x?y=/z#top\"\n" ++
    "edge_name = \"a\"\nadvertise_addr = \"192.0.2.1:58423\"\n"

/-- The URL of its controller. -/
def decorated : Url :=
  ⟨"http".toList, some ⟨"ann".toList, "secret".toList, .ipv6 ⟨[0, 0, 0, 0, 0, 0, 0, 1], rfl⟩,
    some 8080⟩, .segments ["x".toList], some "y=/z".toList, some "top".toList⟩

/-- The same without path, query and fragment. -/
def bare : Url := ⟨decorated.scheme, decorated.authority, .segments [[]], none, none⟩

theorem load_document :
    ∃ c, Config.load (some document.toUTF8.toList) (fun _ => none) = .ok c ∧
      c.registry.url = decorated := by
  have h : (Config.load (some document.toUTF8.toList) fun _ => none).toOption.map
      (fun c => c.registry.url) = some decorated := by decide +kernel
  obtain ⟨c, hc, hurl⟩ := Option.map_eq_some_iff.mp h
  exact ⟨c, ok_of_toOption hc, hurl⟩

theorem read_bare : Url.read "http://ann:secret@[::1]:8080".toList = .ok bare :=
  Url.ok_of_toOption (by decide +kernel)

/-- The path, the query and the fragment of the controller are left behind. -/
theorem origin_decides_of_document :
    decorated.OfWeb ∧
    (∃ u, watchUrl decorated = .ok u ∧ Keeps decorated u ∧
      u.way.toText u.authority = "/api/edges/watch".toList) ∧
    watchUrl decorated = watchUrl bare := by
  obtain ⟨c, hc, hurl⟩ := load_document
  have hweb : decorated.OfWeb := hurl ▸ origin_decides.1 _ _ c hc
  obtain ⟨-, ⟨u, -, hu⟩, -⟩ := origin_decides.2.1 decorated hweb
  have hbare : bare.OfWeb := ⟨⟨_, read_bare⟩, by decide⟩
  exact ⟨hweb, ⟨u, hu⟩, (origin_decides.2.2 decorated bare hweb hbare ⟨rfl, rfl⟩).2.1⟩

end Controller

end Overlay
