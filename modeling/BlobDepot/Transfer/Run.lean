import BlobDepot.Transfer.Policy
import BlobDepot.Transfer.Pool
import BlobDepot.Transfer.Response

/-!
# Running an operation with retries

An operation connects, and what a server answers decides: success hands the answer on, anything
else is a failure. A failure that may pass is tried again after a wait, as long as the budget of
attempts and the deadline allow. How much time has passed is read off a clock, and a cancelled token
ends the run where it is seen: before an attempt, or in place of the attempt's result.
-/
namespace BlobDepot

/-- An operation: what connecting does at once, what it does on the pool, and what becomes of an
answer of success. -/
structure Operation (σ α : Type) where
  description : String
  start : Scene σ → Scene σ
  connect : Work σ (Except OperationError Response)
  onSuccess : Response → Work σ (Except OperationError α)

/-- What a clock shows of the time since a run began, when the attempt with a number begins and when
it has failed. A clock stands still by default. -/
structure Clock where
  begun : Nat → Span := fun _ => ⟨0⟩
  failed : Nat → Span := fun _ => ⟨0⟩

/-- What handing a line to a sink and flushing it do to the scene. -/
structure Listener (σ : Type) where
  line : String → Scene σ → Scene σ := fun _ s => s
  flush : Scene σ → Scene σ := id

inductive SinkCall where
  | line (text : String)
  | flush
  deriving DecidableEq, Repr

def SinkCall.line? : SinkCall → Option String
  | line text => some text
  | flush => none

inductive RunEvent where
  | retrying (attempt : Nat) (backoff : Span)
  | givingUp (attempt : Nat)
  | budgetExhausted (attempt : Nat)
  | deadlineReached (attempt : Nat)
  deriving DecidableEq, Repr

/-- What came of a run: its result, how often it connected, the calls on the sink and the events in
their order, and the scene at the end. -/
structure Report (σ α : Type) where
  result : Except OperationError α
  connects : Nat
  calls : List SinkCall
  events : List RunEvent
  scene : Scene σ

namespace Report

variable {σ α : Type}

def plain (result : Except OperationError α) (scene : Scene σ) : Report σ α :=
  ⟨result, 0, [], [], scene⟩

/-- Puts an attempt in front that called the sink and logged events. -/
def after (r : Report σ α) (calls : List SinkCall) (events : List RunEvent) : Report σ α :=
  { r with connects := r.connects + 1, calls := calls ++ r.calls, events := events ++ r.events }

def lines (r : Report σ α) : List String :=
  r.calls.filterMap SinkCall.line?

def flushes (r : Report σ α) : Nat :=
  r.calls.count .flush

end Report

namespace Operation

variable {σ α : Type}

def refusal (op : Operation σ α) (r : Response) : OperationError :=
  ⟨op.description, .status r.status r.reason (r.body.shown shownBytes)⟩

def work (op : Operation σ α) : Work σ (Except OperationError α) := fun s =>
  match op.connect s with
  | (.ready (.ok r), s) =>
    if isSuccess r.status then op.onSuccess r s else (.ready (.error (op.refusal r)), s)
  | (.ready (.error e), s) => (.ready (.error e), s)
  | (.panics, s) => (.panics, s)
  | (.hangs, s) => (.hangs, s)

def settle (op : Operation σ α) (outcome : Except PoolFault (Except OperationError α)) :
    Except OperationError α :=
  match outcome with
  | .ok result => result
  | .error (.timeout span) => .error ⟨op.description, .timeout span⟩
  | .error .cancelled => .error (.cancelled op.description)
  | .error cause => .error ⟨op.description, .pool cause⟩

/-- Makes one attempt. A token that is cancelled by its end counts before its result. -/
def attempt (op : Operation σ α) (timeout : Span) (s : Scene σ) :
    Except OperationError α × Scene σ :=
  let s := op.start s
  if s.cancelled then (.error (.cancelled op.description), s)
  else
    let (outcome, s) := s.run timeout op.work
    if s.cancelled then (.error (.cancelled op.description), s)
    else (op.settle outcome, s)

def completion (op : Operation σ α) (attempt : Nat) : String :=
  op.description ++ " completed after " ++ toString attempt ++ " attempt(s)"

def notice (op : Operation σ α) (e : OperationError) : String :=
  "Retrying " ++ op.description ++ " after: " ++ e.message

/-- Runs an operation from an attempt with a number on, with so many more in the budget. -/
def runFrom (op : Operation σ α) (policy : Policy) (clock : Clock) (sink : Listener σ) :
    (left number : Nat) → Scene σ → Report σ α
  | left, number, s =>
    if s.cancelled then .plain (.error (.cancelled op.description)) s
    else
      match op.attempt (policy.timeout (clock.begun number)) s with
      | (.ok value, s) =>
        let s := sink.flush (sink.line (op.completion number) s)
        (Report.plain (.ok value) s).after [.line (op.completion number), .flush] []
      | (.error e, s) =>
        let stop (event : RunEvent) := (Report.plain (.error e) s).after [] [event]
        match e.failureClass, left with
        | .cancelled, _ | .client, _ => stop (.givingUp number)
        | .transient, 0 => stop (.budgetExhausted number)
        | .transient, left + 1 =>
          if policy.isPastDeadline (clock.failed number) (.ofNat number) then
            stop (.deadlineReached number)
          else
            (runFrom op policy clock sink left (number + 1) (sink.line (op.notice e) s)).after
              [.line (op.notice e)] [.retrying number (policy.backoff (.ofNat number))]

def run (op : Operation σ α) (policy : Policy) (clock : Clock) (sink : Listener σ) (s : Scene σ) :
    Report σ α :=
  op.runFrom policy clock sink (policy.attempts.toNat - 1) 1 s

end Operation
end BlobDepot
