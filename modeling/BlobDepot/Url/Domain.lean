import BlobDepot.Text.Composed
import BlobDepot.Text.Mark
import BlobDepot.Url.Domain.Direction
import BlobDepot.Url.Domain.Joining
import BlobDepot.Url.Domain.Mapping
import BlobDepot.Url.Punycode

/-!
# Domains

A domain is a text of labels between dots. The characters of a domain are mapped and composed, and
then each label has an ASCII form: itself in lower case, or a mark and its Punycode. A label may be
given in that form. `Domain.ascii?` is the ASCII form of a domain, unless a label is not fit for
one.
-/
namespace BlobDepot.Url

/-- A label: its ASCII form and the characters that it stands for. -/
structure Label where
  ascii : List Char
  chars : List Char
  deriving DecidableEq, Repr

namespace Label

def mark : List Char := ['x', 'n', '-', '-']

/-- How many characters a label may have that is to be written in Punycode. -/
def maxWritten : Nat := 1000

/-- How many characters in Punycode are read. -/
def maxRead : Nat := 2000

def isAscii (s : List Char) : Bool :=
  s.all fun c => c.toNat < 0x80

/-- Whether a text is in the form that mapping and composing give it, and has no mark of
Punycode. -/
def isSettled (s : List Char) : Bool :=
  s.all (fun c => Domain.fate c = .kept) && Text.Composed.ofChars s = s
    && (Text.dropChars? mark s).isNone

/-- Reads a label of a text that has been mapped and composed. A label in Punycode is ASCII, and it
stands for a text that is not. -/
def ofChars? (s : List Char) : Option Label :=
  match Text.dropChars? mark s with
  | some code =>
    if !isAscii code || code.length > maxRead || code = [] || code.getLast? = some '-' then none
    else ((Punycode.decode? code).filter isSettled).map fun chars => ⟨s, chars⟩
  | none =>
    if isAscii s then some ⟨s, s⟩
    else if s.length > maxWritten then none
    else some ⟨mark ++ Punycode.encode s, s⟩

/-- Whether the characters of a label may stand together: it starts with no mark, and its joiners
fit. -/
def isFit (l : Label) : Bool :=
  isAscii l.chars || (!l.chars.head?.any Text.Mark.isMark && Domain.joinersFit l.chars)

end Label

namespace Domain

def isForbidden (c : Char) : Bool :=
  c.toNat ≤ 0x20 || c.toNat = 0x7F || "%#/:<>?@[\\]^|".toList.contains c

def labels? (s : List Char) : Option (List Label) := do
  (Text.split (· = '.') (Text.Composed.ofChars (← mapped? s))).mapM Label.ofChars?

/-- Whether labels make a domain. Where a character runs from right to left, the characters of all
labels have to show in order. -/
def areFit (ls : List Label) : Bool :=
  ls.all (fun l => l.isFit && !l.chars.any isForbidden)
    && (!ls.any (fun l => l.chars.any isRightward) || ls.all fun l => directionsFit l.chars)

/-- Whether a domain has no label but those that stand for themselves in lower case. -/
def isPlain (s : List Char) : Bool :=
  Label.isAscii s
    && (Text.split (· = '.') (s.map Char.toLower)).all fun l =>
      (Text.dropChars? Label.mark l).isNone

def ascii? (s : List Char) : Option (List Char) :=
  if isPlain s then
    if s.any isForbidden then none else some (s.map Char.toLower)
  else do
    let ls ← labels? s
    if areFit ls then pure (['.'].intercalate (ls.map Label.ascii)) else none

end Domain
end BlobDepot.Url
