import BlobDepot.Url.Segments

/-!
# Paths of files

The path of a file URL may start with a drive letter, which is written with a colon and leaves no
place for a host. The empty segments that a path starts with are left out in the end.
-/
namespace BlobDepot.Url

/-- A file path under way: its segments, nearest first, and whether a drive letter came first. -/
structure FilePath where
  before : List (List Char) := []
  onDrive : Bool := false
  deriving DecidableEq, Repr

namespace FilePath

def add (p : FilePath) (s : List Char) (ended : Bool) : FilePath :=
  let next : FilePath := { p with before := Segments.step p.before s ended }
  match p.before, s with
  | [], [c, d] => if Segments.isDriveLetter c d then ⟨[[c, ':']], true⟩ else next
  | _, _ => next

/-- The letter of a drive with its colon, and what follows it in the same segment behind characters
that are dropped. -/
def afterDrive? (raw : List Char) : Option (Char × List Char) :=
  match raw.dropWhile Segments.isDropped with
  | [] => none
  | c :: more =>
    match more.dropWhile Segments.isDropped with
    | ':' :: d :: rest =>
      if c.isAlpha && Segments.isDropped d && Segments.kept rest ≠ [] then
        some (c, Segments.kept rest)
      else none
    | _ => none

/-- Adds a segment as it was written. What a drive letter at the start is cut off from is a segment
of its own, whatever it holds. -/
def addRaw (p : FilePath) (raw : List Char) (ended : Bool) : FilePath :=
  let encode := Text.Percent.encode Text.Percent.path
  match if p.before = [] then afterDrive? raw else none with
  | some (c, rest) => { p with before := [encode rest, [c, ':']] }
  | none => p.add (encode (Segments.kept raw)) ended

def addAll (p : FilePath) : List (List Char) → FilePath
  | [] => p
  | [raw] => p.addRaw raw false
  | raw :: rest => addAll (p.addRaw raw true) rest

def render (p : FilePath) : String :=
  String.ofList (Segments.render (p.before.reverse.dropWhile fun s => s = []))

end FilePath
end BlobDepot.Url
