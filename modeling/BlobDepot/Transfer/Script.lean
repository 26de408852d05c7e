import BlobDepot.Transfer.Run

/-!
# Scripted attempts

An operation whose attempts follow a script: each takes some steps on the way to its response and
some more once the response is one of success.
-/
namespace BlobDepot

inductive ScriptStep where
  | cancel
  | shutDown
  | hang
  | panic
  | fail (e : OperationError)
  deriving DecidableEq, Repr

structure ScriptedAttempt where
  cancelsAtOnce : Bool := false
  connecting : List ScriptStep := []
  response : Response := ⟨200, "OK", .whole []⟩
  succeeding : List ScriptStep := []
  deriving Inhabited

/-- A script of attempts by number, counted from zero, how many of them have begun, and how many
lines the sink has got. -/
structure Script where
  attempt : Nat → ScriptedAttempt
  begun : Nat := 0
  heard : Nat := 0

namespace Script

variable {σ α : Type}

def ofList (attempts : List ScriptedAttempt) : Script where
  attempt n := (attempts[n]?.or attempts.getLast?).getD {}

def perform (steps : List ScriptStep) (next : Work σ (Except OperationError α)) :
    Work σ (Except OperationError α) :=
  match steps with
  | [] => next
  | .cancel :: rest => fun s => perform rest next s.cancel
  | .shutDown :: rest => fun s => perform rest next s.shutDown
  | .hang :: _ => fun s => (.hangs, s)
  | .panic :: _ => fun s => (.panics, s)
  | .fail e :: _ => fun s => (.ready (.error e), s)

def begin (s : Scene Script) : Scene Script :=
  let now := s.world.attempt s.world.begun
  { s with
    world := { s.world with begun := s.world.begun + 1 }
    cancelled := s.cancelled || now.cancelsAtOnce }

def current (s : Scene Script) : ScriptedAttempt :=
  s.world.attempt (s.world.begun - 1)

/-- The operation that follows its script. Its value is the response. -/
def operation (description : String) : Operation Script Response where
  description
  start := begin
  connect s :=
    perform (current s).connecting (fun s => (.ready (.ok (current s).response), s)) s
  onSuccess r s := perform (current s).succeeding (fun s => (.ready (.ok r), s)) s

/-- A sink that cancels the token while it gets the line with a number, counted from one. -/
def listener (line : Option Nat) : Listener Script where
  line _ s :=
    let heard := s.world.heard + 1
    { s with
      world := { s.world with heard }
      cancelled := s.cancelled || line = some heard }

end Script
end BlobDepot
