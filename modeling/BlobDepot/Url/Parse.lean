import BlobDepot.Url.FilePath
import BlobDepot.Url.Host

/-!
# Reading URLs

`Url.parse` reads a URL that stands by itself. Schemes of the web take any number of slashes after
them, let a backslash be a slash, and drop the port that is theirs by default. Files have a path of
their own kind, and perhaps a host.
-/
namespace BlobDepot.Url

/-- Schemes of the web, with the port each has by default. -/
def webSchemes : List (String × Nat) :=
  [("http", 80), ("https", 443), ("ws", 80), ("wss", 443), ("ftp", 21)]

inductive Manner where
  | web (port : Nat)
  | file
  | other
  deriving DecidableEq

def manner (scheme : String) : Manner :=
  if scheme = "file" then .file
  else match webSchemes.lookup scheme with
    | some port => .web port
    | none => .other

def Manner.isSlash (m : Manner) (c : Char) : Bool :=
  c = '/' || (c = '\\' && m ≠ .other)

/-- Whether a character ends the part of a URL that names a server. -/
def Manner.endsAuthority (m : Manner) (c : Char) : Bool :=
  m.isSlash c || c = '?' || c = '#'

def isSchemeChar (c : Char) : Bool :=
  c.isAlphanum || c = '+' || c = '-' || c = '.'

def scheme? (s : List Char) : Option (String × List Char) :=
  match s with
  | [] => none
  | c :: _ =>
    if c.isAlpha then
      match s.dropWhile isSchemeChar with
      | ':' :: rest => some (String.ofList ((s.takeWhile isSchemeChar).map Char.toLower), rest)
      | _ => none
    else none

def splitUser (s : List Char) : Option (List Char × List Char) :=
  match s.reverse.span (· ≠ '@') with
  | (after, _ :: before) => some (before.reverse, after.reverse)
  | (_, []) => none

def userOf (s : List Char) : String × Option String :=
  let encode (s : List Char) := String.ofList (Text.Percent.encode Text.Percent.userInfo s)
  match s.span (· ≠ ':') with
  | (user, _ :: password) =>
    (encode user, if password = [] then none else some (encode password))
  | (user, []) => (encode user, none)

/-- The host and what follows it, up to a colon that is not in brackets. -/
def splitHost : Bool → List Char → List Char × List Char
  | _, [] => ([], [])
  | inside, c :: rest =>
    if c = ':' && !inside then ([], c :: rest)
    else
      let inside := if c = '[' then true else if c = ']' then false else inside
      let (host, more) := splitHost inside rest
      (c :: host, more)

def portOf (default : Option Nat) (s : List Char) : Except UrlError (Option Nat) :=
  if s.all Char.isDigit then
    let n := s.foldl (fun n c => 10 * n + (c.toNat - 48)) 0
    if 65535 < n then .error .invalidPort
    else if s = [] ∨ some n = default then .ok none
    else .ok (some n)
  else .error .invalidPort

/-- Reads the part of a URL that names a server, and what is left of it behind a port;
`isFollowed` when more of the URL follows. Without a user the host may be empty in URLs with rules
of their own. -/
def authorityOf (m : Manner) (s : List Char) (isFollowed : Bool) :
    Except UrlError (Authority × List Char) := do
  let (user, s) ←
    match splitUser s with
    | none => pure (("", none), s)
    | some ([], rest) =>
      if rest = [] ∧ isFollowed then throw .emptyHost else pure (("", none), rest)
    | some (user, rest) => pure (userOf user, rest)
  let (host, more) := splitHost false s
  let host ←
    match m with
    | .other => Host.opaqueHost host
    | _ => Host.web host
  if host = "" ∧ (user ≠ ("", none) ∨ more ≠ []) then throw .emptyHost
  let default := match m with
    | .web port => some port
    | _ => none
  let (digits, left) := more.tail.span fun c => c ≠ '\\'
  pure ({ user := user.1, password := user.2, host, port := ← portOf default digits }, left)

def pathOf (m : Manner) (s : List Char) : String :=
  let below := match s with
    | c :: rest => if m.isSlash c then rest else s
    | [] => []
  let raw := (Text.split m.isSlash below).map (Text.Percent.encode Text.Percent.path)
  String.ofList (Segments.render (Segments.resolve raw))

def withTail (m : Manner) (u : Url) (s : List Char) : Url :=
  let set := if m = .other then Text.Percent.query else Text.Percent.webQuery
  let fragmentOf (s : List Char) := String.ofList (Text.Percent.encode Text.Percent.fragment s)
  let (head, tail) := s.span (· ≠ '#')
  { u with
    query := match head with
      | '?' :: q => some (String.ofList (Text.Percent.encode set q))
      | _ => none
    fragment := match tail with
      | '#' :: f => some (fragmentOf f)
      | _ => none }

/-- Reads what follows a scheme and two slashes. -/
def afterSlashes (m : Manner) (scheme : String) (s : List Char) : Except UrlError Url := do
  let (server, s) := s.span fun c => !m.endsAuthority c
  let (authority, left) ← authorityOf m server (s ≠ [])
  let (path, tail) := s.span fun c => c ≠ '?' && c ≠ '#'
  let path := left ++ path
  let path := if m = .other ∧ path = [] then "" else pathOf m path
  pure (withTail m { scheme, authority := some authority, path } tail)

/-- The host of a file URL and the segments of its path, from the parts between its slashes. Two
slashes come before a host, which may be empty; a drive letter in its place starts the path. -/
def filePartsOf (parts : List (List Char)) : Except UrlError (String × List (List Char)) := do
  match parts with
  | first :: second :: host :: segments =>
    if Segments.kept first = [] ∧ Segments.kept second = [] then
      let name := Segments.kept host
      if name.length = 2 ∧ Segments.isDrive name then pure ("", host :: segments)
      else
        let name ← if name = [] then pure "" else Host.web name
        if name = "" ∨ name = "localhost" then pure ("", [] :: segments)
        else pure (name, segments)
    else if Segments.kept first = [] then pure ("", second :: host :: segments)
    else pure ("", parts)
  | first :: segments =>
    if Segments.kept first = [] ∧ segments ≠ [] then pure ("", segments) else pure ("", parts)
  | [] => pure ("", [])

/-- Reads what follows the scheme of a file, with the characters that are dropped. -/
def afterFileScheme (s : List Char) : Except UrlError Url := do
  let (front, tail) := s.span fun c => c ≠ '?' && c ≠ '#'
  let (host, segments) ← filePartsOf (Text.split Manner.file.isSlash front)
  let path := FilePath.addAll {} segments
  let authority : Authority := { host := if path.onDrive then "" else host }
  pure (withTail .file
    { scheme := "file", authority := some authority, path := path.render } (Segments.kept tail))

/-- Reads what follows a scheme with rules of its own. -/
def afterScheme (scheme : String) (s : List Char) : Except UrlError Url :=
  match s with
  | '/' :: '/' :: rest => afterSlashes .other scheme rest
  | s =>
    let (path, tail) := s.span fun c => c ≠ '?' && c ≠ '#'
    let text := match path with
      | '/' :: _ => pathOf .other path
      | _ => String.ofList (Text.Percent.encode Text.Percent.control path)
    .ok (withTail .other { scheme, path := text } tail)

/-- A text without the blanks and control characters around it. -/
def trimmed (s : List Char) : List Char :=
  let isEdge (c : Char) : Bool := c.toNat ≤ 0x20
  ((s.dropWhile isEdge).reverse.dropWhile isEdge).reverse

def parse (s : String) : Except UrlError Url :=
  let written := trimmed s.toList
  match scheme? (Segments.kept written) with
  | none => .error .relativeWithoutBase
  | some (scheme, rest) =>
    match manner scheme with
    | .web port => afterSlashes (.web port) scheme (rest.dropWhile (Manner.web port).isSlash)
    | .file => afterFileScheme (written.dropWhile fun c => c ≠ ':').tail
    | .other => afterScheme scheme rest

end BlobDepot.Url
