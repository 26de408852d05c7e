import BlobDepot.IoFault
import BlobDepot.Span

/-!
# Failures of transfers

Why an operation failed. Each failure is of a class, and the class alone decides whether the
operation is tried again.
-/
namespace BlobDepot

inductive PoolFault where
  | shutdown
  | cancelled
  | timeout (span : Span)
  | panicked
  | startup (reason : String)
  deriving DecidableEq, Repr, Inhabited

namespace PoolFault

def message : PoolFault → String
  | shutdown => "Worker pool has been shut down"
  | cancelled => "Operation was cancelled"
  | timeout span => "Operation timed out after " ++ span.render
  | panicked => "Task panicked during execution"
  | startup reason => "Worker pool failed to start: " ++ reason

def kind : PoolFault → String
  | shutdown => "Shutdown"
  | cancelled => "Cancelled"
  | timeout _ => "Timeout"
  | panicked => "TaskPanicked"
  | startup _ => "Startup"

end PoolFault

inductive FailureClass where
  /-- It was interrupted and is not tried again. -/
  | cancelled
  /-- It would fail again and is not tried again. -/
  | client
  /-- It is tried again. -/
  | transient
  deriving DecidableEq, Repr, Inhabited

def FailureClass.name : FailureClass → String
  | cancelled => "cancelled"
  | client => "client"
  | transient => "transient"

inductive Failure where
  | cancelled
  | status (code : Nat) (reason body : String)
  | connection (reason : String)
  | timeout (span : Span)
  | io (path : String) (fault : IoFault)
  | pool (cause : PoolFault)
  deriving DecidableEq, Repr, Inhabited

structure OperationError where
  operation : String
  failure : Failure
  deriving DecidableEq, Repr, Inhabited

namespace OperationError

def message (e : OperationError) : String :=
  match e.failure with
  | .cancelled => e.operation ++ " was cancelled"
  | .status code reason body =>
    e.operation ++ " failed with HTTP " ++ toString code ++ " " ++ reason ++ ": " ++ body
  | .connection reason => e.operation ++ " failed with no HTTP status: " ++ reason
  | .timeout span => e.operation ++ " timed out after " ++ span.render
  | .io path fault => e.operation ++ " failed on " ++ path ++ ": " ++ fault.message
  | .pool cause => e.operation ++ " could not run: " ++ cause.message

def kind (e : OperationError) : String :=
  match e.failure with
  | .cancelled => "Cancelled"
  | .status .. => "Status"
  | .connection _ => "Connection"
  | .timeout _ => "Timeout"
  | .io .. => "Io"
  | .pool _ => "Pool"

def failureClass (e : OperationError) : FailureClass :=
  match e.failure with
  | .cancelled => .cancelled
  | .status code _ _ => if 400 ≤ code ∧ code < 500 then .client else .transient
  | .connection _ | .timeout _ | .io .. => .transient
  | .pool .shutdown | .pool .cancelled => .cancelled
  | .pool (.timeout _) => .transient
  | .pool .panicked | .pool (.startup _) => .client

def status (e : OperationError) : Nat :=
  match e.failure with
  | .status code _ _ => code
  | _ => 0

def wasInterrupted (e : OperationError) : Bool :=
  e.failureClass = .cancelled

def cause? (e : OperationError) : Option String :=
  match e.failure with
  | .io _ fault => some fault.message
  | .pool cause => some cause.message
  | _ => none

def cancelled (operation : String) : OperationError :=
  ⟨operation, .cancelled⟩

end OperationError
end BlobDepot
