import BlobDepot.Text.Percent
import BlobDepot.Text.Utf8

/-!
# URLs

A URL with its parts encoded as they are shown. `Url.render` is the one text of a URL, and
`Url.withoutQuery` leaves out the query, where signatures stand.
-/
namespace BlobDepot

structure Authority where
  user : String := ""
  password : Option String := none
  host : String
  port : Option Nat := none
  deriving DecidableEq, Repr, Inhabited

structure Url where
  scheme : String
  authority : Option Authority := none
  path : String
  query : Option String := none
  fragment : Option String := none
  deriving DecidableEq, Repr, Inhabited

inductive UrlError where
  | emptyHost
  | invalidDomain
  | invalidPort
  | invalidIpv4
  | invalidIpv6
  | invalidDomainCharacter
  | relativeWithoutBase
  deriving DecidableEq, Repr, Inhabited

def UrlError.message : UrlError → String
  | emptyHost => "empty host"
  | invalidDomain => "invalid international domain name"
  | invalidPort => "invalid port number"
  | invalidIpv4 => "invalid IPv4 address"
  | invalidIpv6 => "invalid IPv6 address"
  | invalidDomainCharacter => "invalid domain character"
  | relativeWithoutBase => "relative URL without a base"

namespace Authority

def renderUser (a : Authority) : String :=
  match a.user, a.password with
  | "", none => ""
  | user, none => user ++ "@"
  | user, some password => user ++ ":" ++ password ++ "@"

def namesUser (a : Authority) : Bool :=
  let isText (s : String) : Bool := Text.Utf8.isValid (Text.Percent.decode s.toList)
  isText a.user && (a.user ≠ "" || a.password.any isText)

def render (a : Authority) : String :=
  a.renderUser ++ a.host ++ (a.port.elim "" fun p => ":" ++ toString p)

end Authority

namespace Url

/-- What stands before the path. An empty authority keeps a path from being read as one. -/
def renderAuthority (u : Url) : String :=
  match u.authority with
  | some a => "//" ++ a.render
  | none => if Text.startsWith "//" u.path then "/." else ""

def render (u : Url) : String :=
  u.scheme ++ ":" ++ u.renderAuthority ++ u.path
    ++ (u.query.elim "" fun q => "?" ++ q)
    ++ (u.fragment.elim "" fun f => "#" ++ f)

/-- Whether the path of a URL is no list of segments but a text of its own. -/
def isOpaque (u : Url) : Bool :=
  u.authority.isNone && !Text.startsWith "/" u.path

def trimEnd (s : String) : String :=
  String.ofList (s.toList.reverse.dropWhile fun c => c = ' ').reverse

/-- A URL without its query. A path that is a text of its own then loses the blanks at its end,
unless a fragment follows it. -/
def withoutQuery (u : Url) : Url :=
  { u with
    query := none
    path := if u.isOpaque && u.fragment.isNone then trimEnd u.path else u.path }

/-- A URL without the user that it names, who is told to the server apart. -/
def withoutUser (u : Url) : Url :=
  { u with
    authority := u.authority.map fun a =>
      if a.namesUser then { a with user := "", password := none } else a }

/-- A URL as it is sent: without the user that it names and without a fragment. -/
def bare (u : Url) : Url :=
  { u.withoutUser with fragment := none }

def maxSent : Nat := 65534

/-- Whether a character stands in hosts that no request is sent to. -/
def isUnsendable (c : Char) : Bool :=
  c = '"' || c.toNat = 0x60 || c = '\x7b' || c = '\x7d'

def canBeSent (u : Url) : Bool :=
  (u.scheme = "http" || u.scheme = "https")
    && u.authority.all (fun a => !a.host.toList.any isUnsendable)
    && (Text.bytes u.withoutUser.render).length ≤ maxSent

/-- What a request asks its server for: the path and the query. -/
def target (u : Url) : String :=
  u.path ++ (u.query.elim "" fun q => "?" ++ q)

@[simp] theorem withoutQuery_setQuery (u : Url) (q : Option String) :
    { u with query := q }.withoutQuery = u.withoutQuery := rfl

end Url
end BlobDepot
