import BlobDepot.Catalog
import BlobDepot.Path

/-!
# Objects and listings

A listing is a list of entries: objects with a size, and common prefixes that stand for all
objects below them. `Listing.rollUp` turns a flat listing into one that shows a single level.
-/
namespace BlobDepot

/-- An entry of a listing. An entry without a size is a common prefix. -/
structure Entry where
  key : String
  size : Option Nat := none
  modified : Option Int := none
  etag : Option String := none
  deriving DecidableEq, Repr, Inhabited

namespace Entry

def object (key : String) (size : Nat) (modified : Option Int) : Entry :=
  { key, size := some size, modified }

def rolled (key : String) : Entry :=
  { key }

def isRolled (e : Entry) : Bool :=
  e.size.isNone

end Entry

/-- What is stored under a key: bytes and the second of their last change. -/
structure Blob where
  data : List UInt8
  modified : Int
  deriving DecidableEq, Repr, Inhabited

structure Metadata where
  size : Nat
  modified : Option Int := none
  contentType : Option String := none
  etag : Option String := none
  deriving DecidableEq, Repr, Inhabited

namespace Listing

/-- Adds an entry to a listing of the level below `start`. An entry on that level stands for
itself, a later one in place of an earlier; one further down stands for the prefix up to its
first slash, unless the prefix is there already. -/
def add (start : String) (level : Catalog Entry) (e : Entry) : Catalog Entry :=
  match Text.after? start e.key with
  | none => level
  | some rest =>
    if rest = "" then level
    else
      match Path.firstSegment rest with
      | (step, true) =>
        level.insertNew (start ++ step ++ "/") (.rolled (start ++ step ++ "/"))
      | (_, false) => level.insert e.key e

/-- The level below `start` of a flat listing, in order of keys. -/
def rollUp (start : String) (entries : List Entry) : List Entry :=
  (entries.foldl (add start) .empty).values

end Listing
end BlobDepot
