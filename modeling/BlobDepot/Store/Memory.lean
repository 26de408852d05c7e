import BlobDepot.Store.Basic
import BlobDepot.Url.Segments

/-!
# Stores in memory

A store that keeps its objects sorted by key, container by container, and counts the calls that
would go over the network. A container may be closed: then every call on it is refused.
-/
namespace BlobDepot

/-- How often each kind of call was made, and how many entries listings returned. -/
structure CallTally where
  list : Nat := 0
  metadata : Nat := 0
  read : Nat := 0
  presign : Nat := 0
  listedEntries : Nat := 0
  deriving DecidableEq, Repr, Inhabited

def CallTally.total (c : CallTally) : Nat :=
  c.list + c.metadata + c.read + c.presign

structure MemoryStore where
  id : String := "memory"
  containers : Catalog (Catalog Blob) := .empty
  denied : List String := []
  counts : CallTally := {}

namespace MemoryStore

def addContainer (s : MemoryStore) (container : String) : MemoryStore :=
  { s with containers := s.containers.insertNew container .empty }

def put (s : MemoryStore) (container key : String) (blob : Blob) : MemoryStore :=
  let objects := (s.containers.get? container).getD .empty
  { s with containers := s.containers.insert container (objects.insert key blob) }

def holds (s : MemoryStore) (container key : String) : Bool :=
  (s.containers.get? container).any fun objects => objects.contains key

def remove (s : MemoryStore) (container key : String) : MemoryStore :=
  match s.containers.get? container with
  | none => s
  | some objects => { s with containers := s.containers.insert container (objects.erase key) }

def deny (s : MemoryStore) (container : String) : MemoryStore :=
  { s with denied := container :: s.denied }

def forgetCounts (s : MemoryStore) : MemoryStore :=
  { s with counts := {} }

/-- Whether calls on a container are let through; `key` is what they ask for. -/
def letThrough (s : MemoryStore) (container key : String) : Except StoreError Unit :=
  if s.denied.contains container then
    .error (.accessDenied container key
      "container is not readable with the supplied credentials")
  else .ok ()

def objects (s : MemoryStore) (container key : String) : Except StoreError (Catalog Blob) := do
  s.letThrough container key
  match s.containers.get? container with
  | some objects => pure objects
  | none => throw (.containerNotFound container)

def entry (o : String × Blob) : Entry :=
  .object o.1 o.2.data.length (some o.2.modified)

def listing (objects : Catalog Blob) (start : String) (recursive : Bool) : List Entry :=
  let flat := (objects.under start).map entry
  if recursive then flat else Listing.rollUp start flat

def countList (s : MemoryStore) : MemoryStore :=
  { s with counts := { s.counts with list := s.counts.list + 1 } }

def countMetadata (s : MemoryStore) : MemoryStore :=
  { s with counts := { s.counts with metadata := s.counts.metadata + 1 } }

def countRead (s : MemoryStore) : MemoryStore :=
  { s with counts := { s.counts with read := s.counts.read + 1 } }

def countPresign (s : MemoryStore) : MemoryStore :=
  { s with counts := { s.counts with presign := s.counts.presign + 1 } }

def countEntries (s : MemoryStore) (n : Nat) : MemoryStore :=
  { s with counts := { s.counts with listedEntries := s.counts.listedEntries + n } }

def list (container start : String) (recursive : Bool) : Call MemoryStore (List Entry) := fun s =>
  match s.objects container start with
  | .error e => (.error e, s.countList)
  | .ok objects =>
    let entries := listing objects start recursive
    (.ok entries, s.countList.countEntries entries.length)

def anyUnder (container start : String) : Call MemoryStore Bool := fun s =>
  match s.objects container start with
  | .error e => (.error e, s.countList)
  | .ok objects =>
    if objects.hasUnder start then (.ok true, s.countList.countEntries 1)
    else (.ok false, s.countList)

def metadata (container key : String) : Call MemoryStore (Option Metadata) := fun s =>
  match s.objects container key with
  | .error e => (.error e, s.countMetadata)
  | .ok objects =>
    let found := (objects.get? key).map fun b =>
      { size := b.data.length, modified := some b.modified : Metadata }
    (.ok found, s.countMetadata)

def read (container key : String) : Call MemoryStore Content := fun s =>
  match s.objects container key with
  | .error e => (.error e, s.countRead)
  | .ok objects =>
    match objects.get? key with
    | some b => (.ok (.bytes b.data), s.countRead)
    | none => (.error (.notFound container key), s.countRead)

/-- The URL of an object: container and key as path segments, access and time as a query. -/
def url (container key : String) (access : Access) (ttl : Span) : Url where
  scheme := "memory"
  authority := some { host := "" }
  path := Url.Segments.build Text.Percent.segment
    (container.toList :: Path.segmentChars key.toList)
  query := some ("method=" ++ access.verb ++ "&ttl=" ++ toString ttl.seconds)

def presign (container key : String) (access : Access) (ttl : Span) : Call MemoryStore Url :=
  fun s =>
    match s.letThrough container key with
    | .error e => (.error e, s.countPresign)
    | .ok () => (.ok (url container key access ttl), s.countPresign)

instance : Store MemoryStore where
  providerId := id
  list := list
  anyUnder := anyUnder
  metadata := metadata
  read := read
  presign := presign

end MemoryStore
end BlobDepot
