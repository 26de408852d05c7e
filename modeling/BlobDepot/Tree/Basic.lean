import BlobDepot.Store.Registry
import BlobDepot.Tree.Node

/-!
# Trees

A tree shows the objects below one key of a store as files in directories. Nothing is asked of
the store before a question about a node needs it.
-/
namespace BlobDepot

structure Tree (σ : Type) where
  store : σ
  root : Key

namespace Tree

variable {σ : Type}

def ofPath (store : σ) (container path : String) : Tree σ :=
  ⟨store, .ofPath container path⟩

def ofRegistry (registry : Registry σ) (id container path : String) :
    Except TreeError (Tree σ) :=
  match registry.get id with
  | .ok store => .ok (.ofPath store container path)
  | .error e => .error (.ofStore id e)

def rootNode (t : Tree σ) : Node :=
  { key := t.root }

def describe [Store σ] (t : Tree σ) : String :=
  "VirtualFileTree \x7b provider: " ++ Text.Quoted.quote (Store.providerId t.store)
    ++ ", root: " ++ t.root.describe ++ " \x7d"

end Tree
end BlobDepot
