import BlobDepot.Transfer.Error

/-!
# Worker pools

Work runs on a pool until it is ready, panics or is given up. A pool that was shut down takes no
work. A caller's token is looked at before the work starts; work that is ready by itself then
counts, and work that never ends is given up for the token, for the pool, or for its time.
-/
namespace BlobDepot

structure PoolSize where
  threads : Nat := 4
  queue : Nat := 256
  deriving DecidableEq, Repr, Inhabited

namespace PoolSize

def withThreads (c : PoolSize) (n : Nat) : PoolSize :=
  { c with threads := max n 1 }

def withQueue (c : PoolSize) (n : Nat) : PoolSize :=
  { c with queue := max n 1 }

end PoolSize

/-- A state of the world, with the caller's token and the pool's. -/
structure Scene (σ : Type) where
  world : σ
  cancelled : Bool := false
  down : Bool := false

inductive Ending (α : Type) where
  | ready (value : α)
  | panics
  | hangs

abbrev Work (σ α : Type) := StateM (Scene σ) (Ending α)

namespace Scene

variable {σ α : Type}

def cancel (s : Scene σ) : Scene σ :=
  { s with cancelled := true }

def shutDown (s : Scene σ) : Scene σ :=
  { s with down := true }

def outcome (s : Scene σ) (timeout : Span) : Ending α → Except PoolFault α
  | .ready value => .ok value
  | .panics => .error .panicked
  | .hangs =>
    if s.cancelled then .error .cancelled
    else if s.down then .error .shutdown
    else .error (.timeout timeout)

def run (s : Scene σ) (timeout : Span) (work : Work σ α) : Except PoolFault α × Scene σ :=
  if s.down then (.error .shutdown, s)
  else if s.cancelled then (.error .cancelled, s)
  else
    let (ending, s) := work s
    (s.outcome timeout ending, s)

end Scene

def describePool (running : Bool) : String :=
  "WorkerPool \x7b running: " ++ toString running ++ " \x7d"

end BlobDepot
