import BlobDepot.Tree.Basic

/-!
# Sessions

A session is a store with contexts. A context is a stack of frames: the nodes that belong to it
see the scopes opened in it and no others.
-/
namespace BlobDepot

structure Session (σ : Type) where
  store : σ
  contexts : List FrameStack := []

/-- A node and the number of its context. -/
structure Handle where
  node : Node
  context : Nat

structure Scope where
  context : Nat
  ticket : Nat

namespace Session

variable {σ α : Type}

def frames (s : Session σ) (context : Nat) : FrameStack :=
  s.contexts.getD context {}

def newContext (s : Session σ) : Nat × Session σ :=
  (s.contexts.length, { s with contexts := s.contexts ++ [{}] })

/-- Asks a question whose answer the node may keep. -/
def ask (s : Session σ) (h : Handle) (question : FrameStack → Node → σ → α × Node × σ) :
    α × Handle × Session σ :=
  let (a, node, store) := question (s.frames h.context) h.node s.store
  (a, { h with node }, { s with store })

def look (s : Session σ) (h : Handle) (question : FrameStack → Node → Query σ α) :
    Except TreeError α × Session σ :=
  let (a, store) := question (s.frames h.context) h.node s.store
  (a, { s with store })

def enter [Store σ] (s : Session σ) (h : Handle) : Except TreeError Scope × Session σ :=
  let (ticket, frames, store) := h.node.enter (s.frames h.context) s.store
  (ticket.map (⟨h.context, ·⟩), { store, contexts := s.contexts.set h.context frames })

def leave (s : Session σ) (scope : Scope) : Session σ :=
  { s with
    contexts := s.contexts.set scope.context ((s.frames scope.context).close scope.ticket) }

def call {β : Type} (s : Session σ) (question : StateM σ β) : β × Session σ :=
  let (a, store) := question s.store
  (a, { s with store })

def change (s : Session σ) (f : σ → σ) : Session σ :=
  { s with store := f s.store }

end Session
end BlobDepot
