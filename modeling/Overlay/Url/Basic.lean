import Overlay.Url.Host
import Overlay.Url.Path

/-!
# URLs

A URL names a resource: its scheme, who holds it and where, the path to it, and a query and a
fragment. `Url.toText` writes a URL in its normal form.

The special schemes have a default port, which is left out, and a path that is never empty. A URL
whose path does not begin with a slash has no hierarchy: nothing can be resolved against it.
-/

namespace Overlay

/-- Who holds the resource and where. -/
structure UrlAuthority where
  /-- The name of the user. -/
  username : List Char := []
  /-- The password of the user. -/
  password : List Char := []
  /-- The host. -/
  host : UrlHost
  /-- The port, when it is not the default port of the scheme. -/
  port : Option UInt16 := none
deriving DecidableEq

/-- The path of a URL. -/
inductive UrlWay where
  /-- A path that is divided into segments. -/
  | segments (path : List UrlPath.Segment)
  /-- A text without hierarchy. -/
  | undivided (s : List Char)
deriving DecidableEq

/-- A URL. -/
structure Url where
  /-- The scheme, in small letters. -/
  scheme : List Char
  /-- The part after two slashes. -/
  authority : Option UrlAuthority
  /-- The path. -/
  way : UrlWay
  /-- The part after a question mark. -/
  query : Option (List Char) := none
  /-- The part after a number sign. -/
  fragment : Option (List Char) := none
deriving DecidableEq

namespace Url

/-- The default ports of the special schemes. -/
def defaultPort? (scheme : List Char) : Option UInt16 :=
  if scheme = "http".toList || scheme = "ws".toList then some 80
  else if scheme = "https".toList || scheme = "wss".toList then some 443
  else if scheme = "ftp".toList then some 21
  else none

/-- Does the scheme name files? -/
def isFile (scheme : List Char) : Bool := scheme = "file".toList

/-- Is the scheme one of those whose URLs have a hierarchy of their own? -/
def isSpecial (scheme : List Char) : Bool := (defaultPort? scheme).isSome || isFile scheme

/-- Does the URL belong to the web? -/
def isWeb (u : Url) : Bool := u.scheme = "http".toList || u.scheme = "https".toList

end Url

namespace UrlAuthority

/-- The user, the password and an at sign, as far as they are given. -/
def userText (a : UrlAuthority) : List Char :=
  if a.username.isEmpty && a.password.isEmpty then []
  else a.username ++ (if a.password.isEmpty then [] else ':' :: a.password) ++ ['@']

/-- The authority as it is written after two slashes. -/
def toText (a : UrlAuthority) : List Char :=
  a.userText ++ a.host.toText ++
    match a.port with
    | some p => ':' :: Numeral.decimal p.toNat
    | none => []

end UrlAuthority

/-- The path as it is written. Without an authority, a path must not begin with two slashes. -/
def UrlWay.toText (authority : Option UrlAuthority) : UrlWay → List Char
  | undivided s => s
  | segments path =>
    match authority, path with
    | none, [] :: _ :: _ => ['/', '.'] ++ UrlPath.toText path
    | _, _ => UrlPath.toText path

namespace Url

/-- The URL in its normal form. -/
def toText (u : Url) : List Char :=
  let authority := match u.authority with
    | some a => ['/', '/'] ++ a.toText
    | none => []
  let query := match u.query with
    | some q => '?' :: q
    | none => []
  let fragment := match u.fragment with
    | some f => '#' :: f
    | none => []
  u.scheme ++ [':'] ++ authority ++ u.way.toText u.authority ++ query ++ fragment

instance : ToString Url := ⟨fun u => String.ofList u.toText⟩

/-- The drive that a file is on. -/
def drive? (u : Url) : Option UrlPath.Segment :=
  match u.way with
  | .segments (s :: _) => if isFile u.scheme && UrlPath.isPlainDrive s then some s else none
  | _ => none

/-- The URL with the same origin and user whose path has the given segments, without query and
fragment. A file keeps the drive that it is on, and its host only when it is on none. -/
def atPath (u : Url) (path : List UrlPath.Segment) : Except UrlError Url :=
  match u.way, u.drive? with
  | .undivided _, _ => .error .noHierarchy
  | .segments _, none => .ok ⟨u.scheme, u.authority, .segments path, none, none⟩
  | .segments _, some d => .ok ⟨u.scheme, some ⟨[], [], .empty, none⟩, .segments (d :: path), none, none⟩

/-- Changes the segments of the path. -/
def mapPath (u : Url) (f : List UrlPath.Segment → List UrlPath.Segment) : Url :=
  match u.way with
  | .segments path => { u with way := .segments (f path) }
  | .undivided _ => u

/-- Puts segments at the end of the path. -/
def pushAll (u : Url) (segments : List (List Char)) : Url :=
  u.mapPath fun path => segments.foldl (UrlPath.push (isSpecial u.scheme) (isFile u.scheme)) path

end Url

end Overlay
