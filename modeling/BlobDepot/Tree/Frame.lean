import BlobDepot.Key
import BlobDepot.Object
import BlobDepot.Tree.Attributes

/-!
# Frames

A frame holds the files below a key as one listing showed them, under their paths from there.
It answers questions about the key and all that is below it; directories are where paths go
through. The children of a directory are found by a scan that jumps over what is below a child it
has seen.
-/
namespace BlobDepot

/-- The files below a key, and the file at the key itself if there is one. -/
structure Frame where
  root : Key
  files : Catalog FileInfo
  rootFile : Option FileInfo

namespace Frame

/-- Adds what an entry tells about a file below a prefix. -/
def add (start : String) (files : Catalog FileInfo) (e : Entry) : Catalog FileInfo :=
  match e.size, Text.after? start e.key with
  | some size, some path => if path = "" then files else files.insert path ⟨size, e.modified⟩
  | _, _ => files

/-- The frame of a key from a listing. Of two entries under one key the later counts. -/
def ofListing (root : Key) (rootFile : Option FileInfo) (entries : List Entry) : Frame where
  root := root
  files := entries.foldl (add root.lead) .empty
  rootFile := rootFile

def size (f : Frame) : Nat :=
  f.files.size

/-- The path of a key from the root of a frame, if the frame covers it. -/
def pathTo? (f : Frame) (k : Key) : Option String :=
  if k.container ≠ f.root.container then none
  else if f.root.path = "" then some k.path
  else if k.path = f.root.path then some ""
  else (Text.after? f.root.path k.path).bind (Text.after? "/")

def file? (f : Frame) (path : String) : Option FileInfo :=
  if path = "" then f.rootFile else f.files.get? path

def hasBelow (f : Frame) (path : String) : Bool :=
  f.files.hasUnder (Path.lead path)

def attributes (f : Frame) (path : String) : Attributes :=
  match f.file? path with
  | some info => .file info
  | none => if f.hasBelow path then .directory else .missing

/-- The first text after all that start with a name and a slash. -/
def pastChild (start name : String) : String :=
  start ++ name ++ "0"

/-- The names of the children met in a run of files, some of them perhaps twice. -/
def childNames (start : String) : List (String × FileInfo) → List String
  | [] => []
  | (path, _) :: rest =>
    match Text.after? start path with
    | none => []
    | some below =>
      match Path.firstSegment below with
      | (name, true) =>
        name :: childNames start (rest.dropWhile fun e => e.1 < pastChild start name)
      | (name, false) => name :: childNames start rest
termination_by l => l.length
decreasing_by
  · exact Nat.lt_succ_of_le (List.dropWhile_sublist _).length_le
  · simp

def children (f : Frame) (path : String) : List String :=
  let start := Path.lead path
  (Catalog.ofKeys (childNames start (f.files.atLeast start))).keys

def filesBelow (f : Frame) (path : String) : List (String × FileInfo) :=
  let start := Path.lead path
  (f.files.under start).filterMap fun (p, info) => (Text.after? start p).map (·, info)

end Frame
end BlobDepot
