import Overlay.Url.Basic

/-!
# Reading URLs

`Url.read` reads a URL that stands by itself. Blanks and controls around the text, and tabs and ends
of lines inside it, are left out. The fragment begins at the first number sign, the query at the first
question mark before it; what is left is the scheme, the authority and the path.
-/

namespace Overlay.Url

/-- The text without what is left out of it. -/
def clean (s : List Char) : List Char :=
  (((s.dropWhile (·.toNat ≤ 0x20)).reverse.dropWhile (·.toNat ≤ 0x20)).reverse).filter fun c =>
    !(c = '\t' || c = '\n' || c = '\r')

/-- A character of a scheme. -/
def isSchemeChar (c : Char) : Bool :=
  Numeral.isLetter c || Numeral.isDigit c || c = '+' || c = '-' || c = '.'

/-- The scheme in small letters, and what follows its colon. -/
def scheme? (s : List Char) : Option (List Char × List Char) :=
  match s.span isSchemeChar with
  | (c :: scheme, ':' :: rest) =>
    if Numeral.isLetter c then some ((c :: scheme).map Numeral.lower, rest) else none
  | _ => none

/-- The text before the first `mark`, and what follows the mark if there is one. -/
def cut (mark : Char) (s : List Char) : List Char × Option (List Char) :=
  match Text.cutFirst? mark s with
  | some (front, back) => (front, some back)
  | none => (s, none)

/-- A part that is not the scheme: the authority and the path as they are written, the query and the
fragment in their normal form. -/
structure Rest where
  /-- The authority and the path. -/
  body : List Char
  /-- The query. -/
  query : Option (List Char)
  /-- The fragment. -/
  fragment : Option (List Char)

/-- Divides what follows the scheme. -/
def Rest.ofText (special : Bool) (s : List Char) : Rest :=
  let (front, fragment) := cut '#' s
  let (body, query) := cut '?' front
  ⟨body, query.map (Percent.encode (Percent.inQuery special)),
    fragment.map (Percent.encode Percent.inFragment)⟩

/-- The URL of a scheme with the given authority and path. -/
def Rest.url (r : Rest) (scheme : List Char) (authority : Option UrlAuthority) (way : UrlWay) : Url :=
  ⟨scheme, authority, way, r.query, r.fragment⟩

/-- Does the character end an authority? -/
def isSlash (special : Bool) (c : Char) : Bool := c = '/' || (special && c = '\\')

/-- The user name and the password before the last at sign. A colon divides them. -/
def userInfo (s : List Char) : List Char × List Char :=
  let (name, password) := cut ':' s
  (Percent.encode Percent.inUserInfo name, Percent.encode Percent.inUserInfo (password.getD []))

/-- The host up to the first colon outside brackets, and what follows it from the colon on. -/
def hostPart (inside : Bool) : List Char → List Char × List Char
  | [] => ([], [])
  | c :: s =>
    if c = ':' && !inside then ([], c :: s)
    else
      let inside := if c = '[' then true else if c = ']' then false else inside
      let (host, rest) := hostPart inside s
      (c :: host, rest)

/-- The port, and what of the path was written right after it. A backslash ends the port also where
it does not divide a path. -/
def portPart (scheme : List Char) (s : List Char) :
    Except UrlError (Option UInt16 × List Char) :=
  let (digits, rest) := s.span Numeral.isDigit
  let n := (Numeral.decimal? digits).getD 0
  if 65535 < n then .error .port
  else if rest.isEmpty || rest.head? = some '\\' then
    let port := UInt16.ofNat n
    if digits.isEmpty || defaultPort? scheme = some port then .ok (none, rest)
    else .ok (some port, rest)
  else .error .port

/-- Reads what follows the two slashes. -/
def withAuthority (scheme : List Char) (r : Rest) (s : List Char) : Except UrlError Url :=
  let special := isSpecial scheme
  let (authority, path) := s.span (!isSlash special ·)
  let followed := !path.isEmpty || r.query.isSome || r.fragment.isSome
  let (user, place) := match Text.cutLast? '@' authority with
    | some (user, place) => (some user, place)
    | none => (none, authority)
  if user = some [] && place.isEmpty && followed then .error .emptyHost
  else
    let (username, password) := userInfo (user.getD [])
    let (hostText, portText) := hostPart false place
    if special && hostText.isEmpty then .error .emptyHost
    else do
      let host ← if special then UrlHost.ofDomain hostText else UrlHost.ofName hostText
      if host = .empty && !portText.isEmpty then .error .emptyHost
      else
        let (port, leftover) ← portPart scheme (portText.drop 1)
        if host = .empty && !(username.isEmpty && password.isEmpty) then .error .emptyHost
        else
          let body := leftover ++ path
          let written := UrlPath.written special body
          let segments := if body.isEmpty && !special then [] else UrlPath.resolve false [] written
          .ok (r.url scheme (some ⟨username, password, host, port⟩) (.segments segments))

/-- The path of a file. -/
def filePath (s : List Char) : List UrlPath.Segment := UrlPath.resolve true [] (UrlPath.written true s)

/-- Reads a file's URL. A drive letter stands for a host of its own. -/
def file (scheme : List Char) (r : Rest) : Except UrlError Url :=
  let made (host : UrlHost) (body : List Char) : Url :=
    let path := filePath body
    let host := if UrlPath.hasDrive path then .empty else host
    r.url scheme (some ⟨[], [], host, none⟩) (.segments (UrlPath.trimFront path))
  match r.body with
  | a :: b :: s =>
    if isSlash true a && isSlash true b then
      let (hostText, path) := s.span (!isSlash true ·)
      if UrlPath.isDrive hostText then .ok (made .empty s)
      else do
        let host ← UrlHost.ofFileHost hostText
        return made host path
    else .ok (made .empty r.body)
  | _ => .ok (made .empty r.body)

/-- Reads a URL. -/
def read (s : List Char) : Except UrlError Url :=
  match scheme? (clean s) with
  | none => .error .noScheme
  | some (scheme, rest) =>
    let r := Rest.ofText (isSpecial scheme) rest
    if isFile scheme then file scheme r
    else if isSpecial scheme then withAuthority scheme r (r.body.dropWhile (isSlash true))
    else
      match r.body with
      | '/' :: '/' :: s => withAuthority scheme r s
      | '/' :: _ =>
        .ok (r.url scheme none (.segments (UrlPath.resolve false [] (UrlPath.written false r.body))))
      | s => .ok (r.url scheme none (.undivided (Percent.encode Percent.isControl s)))

end Overlay.Url
