import BlobDepot.Object
import BlobDepot.Span
import BlobDepot.Store.Error
import BlobDepot.Url.Basic

/-!
# Stores

A store answers five calls. Each call yields an answer or a failure, and the store after it: a
store may count its calls or run out of prepared answers.
-/
namespace BlobDepot

inductive Access where
  | get
  | put
  deriving DecidableEq, Repr, Inhabited

def Access.verb : Access → String
  | get => "GET"
  | put => "PUT"

inductive Content where
  | bytes (data : List UInt8)
  | unreadable (fault : IoFault)
  deriving DecidableEq, Repr

abbrev Call (σ α : Type) := StateM σ (Except StoreError α)

class Store (σ : Type) where
  /-- The name the store is registered under. -/
  providerId : σ → String
  /-- The objects whose keys start with a text, all of them or rolled up to one level. -/
  list (container start : String) (recursive : Bool) : Call σ (List Entry)
  /-- Whether some object's key starts with a text. -/
  anyUnder (container start : String) : Call σ Bool
  /-- What is known of the object under a key, if there is one. -/
  metadata (container key : String) : Call σ (Option Metadata)
  /-- Opens the object under a key for reading. -/
  read (container key : String) : Call σ Content
  /-- A URL that gives access to the object under a key for a while. -/
  presign (container key : String) (access : Access) (ttl : Span) : Call σ Url

end BlobDepot
