import BlobDepot.Path
import BlobDepot.Text.Percent

/-!
# Segments of URL paths

The path of a URL is a list of encoded segments. Reading a path resolves its dot segments. A step
up never leaves a drive letter. Building a path pushes raw segments onto it: plain dots are left
out, tabs and line ends inside a segment are dropped, and a segment that is dots only after that
counts as a dot segment.
-/
namespace BlobDepot.Url.Segments

def isDropped (c : Char) : Bool :=
  c = '\t' || c = '\n' || c = '\r'

def kept (s : List Char) : List Char :=
  s.filter fun c => !isDropped c

/-- A segment with the encoded dots among its first characters read. -/
def plainDots : List Char → List Char
  | '%' :: '2' :: e :: rest =>
    if e = 'e' ∨ e = 'E' then '.' :: plainDots rest else '%' :: '2' :: e :: rest
  | '.' :: rest => '.' :: plainDots rest
  | s => s

def isHere (s : List Char) : Bool :=
  plainDots s = ['.']

def isAbove (s : List Char) : Bool :=
  plainDots s = ['.', '.']

/-- Whether two characters name a drive: a letter, and a colon or what stands for one. -/
def isDriveLetter (c d : Char) : Bool :=
  c.isAlpha && (d = ':' || d = '|')

/-- Whether a segment is a drive letter, or starts with one and a backslash. -/
def isDrive : List Char → Bool
  | [c, d] => isDriveLetter c d
  | c :: d :: '\\' :: _ => isDriveLetter c d
  | _ => false

/-- The segments that a step up leaves, nearest first. -/
def above : List (List Char) → List (List Char)
  | [] => []
  | s :: before => if isDrive s then s :: before else before

def render (segments : List (List Char)) : List Char :=
  '/' :: ['/'].intercalate segments

/-- Adds a segment to those before it, nearest first; `ended` when a slash follows it. -/
def step (before : List (List Char)) (s : List Char) (ended : Bool) : List (List Char) :=
  if isAbove s then
    if ended then above before else [] :: above before
  else if isHere s then
    if ended then before else [] :: before
  else s :: before

/-- Resolves the dot segments of a path after those before it, nearest first. -/
def resolveFrom (before : List (List Char)) : List (List Char) → List (List Char)
  | [] => before.reverse
  | [s] => (step before s false).reverse
  | s :: rest => resolveFrom (step before s true) rest

/-- Resolves the dot segments of a path from its root. -/
def resolve (segments : List (List Char)) : List (List Char) :=
  resolveFrom [] segments

/-- Adds a raw segment at the end of a path. The path `/` has one segment, which is empty. -/
def push (set : Text.Percent.Encoded) (segments : List (List Char)) (raw : List Char) :
    List (List Char) :=
  if raw = ['.'] ∨ raw = ['.', '.'] then segments
  else
    let base := if segments = [[]] then [] else segments
    (step base.reverse (Text.Percent.encode set (kept raw)) false).reverse

/-- The path that holds raw segments below the root. -/
def build (set : Text.Percent.Encoded) (raw : List (List Char)) : String :=
  String.ofList (render (raw.foldl (push set) [[]]))

end BlobDepot.Url.Segments
