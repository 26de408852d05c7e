import BlobDepot.Catalog
import BlobDepot.Store.Basic

/-!
# Registries

A registry holds stores under their ids. No two stores of a registry share one.
-/
namespace BlobDepot

structure Registry (σ : Type) where
  stores : Catalog σ

namespace Registry

variable {σ : Type}

/-- The first id of a list that stands in it again further up. -/
def firstRepeated (seen : List String) : List String → Option String
  | [] => none
  | id :: rest => if seen.contains id then some id else firstRepeated (id :: seen) rest

/-- The registry of some stores. The first id that was taken already is the failure. -/
def ofList [Store σ] (stores : List σ) : Except StoreError (Registry σ) :=
  match firstRepeated [] (stores.map Store.providerId) with
  | some id => .error (.duplicateProvider id)
  | none => .ok ⟨stores.foldl (fun c s => c.insert (Store.providerId s) s) .empty⟩

def get (r : Registry σ) (id : String) : Except StoreError σ :=
  match r.stores.get? id with
  | some s => .ok s
  | none => .error (.unknownProvider id)

def ids (r : Registry σ) : List String :=
  r.stores.keys

def size (r : Registry σ) : Nat :=
  r.stores.size

def describe (r : Registry σ) : String :=
  "BlobStoreRegistry \x7b providers: ["
    ++ ", ".intercalate (r.ids.map Text.Quoted.quote) ++ "] \x7d"

end Registry
end BlobDepot
