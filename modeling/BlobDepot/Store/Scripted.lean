import BlobDepot.Store.Basic
import BlobDepot.Url.Parse

/-!
# Stores with prepared replies

A store that answers each kind of call from a queue of its own, whose last reply stays, and that
keeps a log of the calls made on it.
-/
namespace BlobDepot

abbrev Replies (α : Type) := List (Except StoreError α)

def Replies.next {α : Type} : Replies α → Except StoreError α × Replies α
  | [] => (.error (.other "no scripted reply"), [])
  | [r] => (r, [r])
  | r :: s :: rest => (r, s :: rest)

inductive RecordedCall where
  | list (container start : String) (recursive : Bool)
  | anyUnder (container start : String)
  | metadata (container key : String)
  | read (container key : String)
  | presign (container key : String) (access : Access) (ttl : Span)
  deriving DecidableEq, Repr

/-- A store with prepared replies. -/
structure ScriptedStore where
  id : String := "scripted"
  lists : Replies (List Entry) := []
  checks : Replies Bool := []
  lookups : Replies (Option Metadata) := []
  reads : Replies (List UInt8) := []
  urls : Replies String := []
  log : List RecordedCall := []

namespace ScriptedStore

def record (s : ScriptedStore) (call : RecordedCall) : ScriptedStore :=
  { s with log := s.log ++ [call] }

def forget (s : ScriptedStore) : ScriptedStore :=
  { s with log := [] }

def urlOf (text : String) : Except StoreError Url :=
  (Url.parse text).mapError fun e => .other e.message

instance : Store ScriptedStore where
  providerId := id
  list container start recursive := fun s =>
    let (reply, rest) := s.lists.next
    (reply, { s.record (.list container start recursive) with lists := rest })
  anyUnder container start := fun s =>
    let (reply, rest) := s.checks.next
    (reply, { s.record (.anyUnder container start) with checks := rest })
  metadata container key := fun s =>
    let (reply, rest) := s.lookups.next
    (reply, { s.record (.metadata container key) with lookups := rest })
  read container key := fun s =>
    let (reply, rest) := s.reads.next
    (reply.map .bytes, { s.record (.read container key) with reads := rest })
  presign container key access ttl := fun s =>
    let (reply, rest) := s.urls.next
    (reply.bind urlOf, { s.record (.presign container key access ttl) with urls := rest })

end ScriptedStore
end BlobDepot
