import BlobDepot.Json
import BlobDepot.Span

/-!
# Retry policies

How often an operation is tried, how long it waits after each failure, and how long an attempt
and the whole may take. Times are whole milliseconds in 64 bits. The wait doubles with each
attempt up to a ceiling.
-/
namespace BlobDepot

structure Policy where
  /-- The number of attempts; zero counts as one. -/
  budget : UInt32 := 10
  /-- The milliseconds that the waits double from. -/
  base : UInt64 := 100
  /-- The milliseconds no wait exceeds. -/
  ceiling : UInt64 := 300000
  /-- The milliseconds an attempt may take. -/
  limit : UInt64 := 900000
  /-- The milliseconds all attempts and waits may take together. -/
  deadline : Option UInt64 := none
  deriving DecidableEq, Repr, Inhabited

namespace Policy

/-! ## Settings -/

def clampMillis (s : Span) : UInt64 :=
  UInt64.ofNat (Nat.min s.millis (UInt64.size - 1))

def spanOf (ms : UInt64) : Span :=
  .ofMillis ms.toNat

def tryAtMost (p : Policy) (n : UInt32) : Policy :=
  { p with budget := max n 1 }

def waitFrom (p : Policy) (s : Span) : Policy :=
  { p with base := clampMillis s }

def waitAtMost (p : Policy) (s : Span) : Policy :=
  { p with ceiling := clampMillis s }

def attemptWithin (p : Policy) (s : Span) : Policy :=
  { p with limit := clampMillis s }

def allWithin (p : Policy) (s : Option Span) : Policy :=
  { p with deadline := s.map clampMillis }

def attempts (p : Policy) : UInt32 :=
  max p.budget 1

/-! ## Waits -/

def powerOfTwo (n : UInt32) : UInt64 :=
  if n < 64 then 1 <<< n.toUInt64 else 0xFFFFFFFFFFFFFFFF

/-- A product, or the largest number when that does not fit. -/
def cappedMul (a b : UInt64) : UInt64 :=
  if a.toNat * b.toNat < UInt64.size then a * b else 0xFFFFFFFFFFFFFFFF

def backoffMillis (p : Policy) (attempt : UInt32) : UInt64 :=
  min (cappedMul (powerOfTwo attempt) p.base) p.ceiling

def backoff (p : Policy) (attempt : UInt32) : Span :=
  spanOf (p.backoffMillis attempt)

/-- How long an attempt may take when so much time has passed: no longer than is left until the
deadline. -/
def timeout (p : Policy) (elapsed : Span) : Span :=
  match p.deadline with
  | some d => (spanOf p.limit).min ((spanOf d).less elapsed)
  | none => spanOf p.limit

/-- Whether waiting after an attempt would reach the deadline when so much time has passed. -/
def isPastDeadline (p : Policy) (elapsed : Span) (attempt : UInt32) : Bool :=
  p.deadline.any fun d => (spanOf d).nanos ≤ elapsed.nanos + (p.backoff attempt).nanos

/-! ## Text -/

def describe (p : Policy) : String :=
  "RetryPolicy \x7b max_attempts: " ++ toString p.budget.toNat
    ++ ", base_backoff_ms: " ++ toString p.base.toNat
    ++ ", max_backoff_ms: " ++ toString p.ceiling.toNat
    ++ ", attempt_timeout_ms: " ++ toString p.limit.toNat
    ++ ", overall_deadline_ms: "
    ++ (p.deadline.elim "None" fun d => "Some(" ++ toString d.toNat ++ ")") ++ " \x7d"

def fieldNames : List String :=
  ["max_attempts", "base_backoff_ms", "max_backoff_ms", "attempt_timeout_ms",
    "overall_deadline_ms"]

def fieldValues (p : Policy) : List Json :=
  [.ofNat p.budget.toNat, .ofNat p.base.toNat, .ofNat p.ceiling.toNat,
    .ofNat p.limit.toNat, p.deadline.elim .null fun d => .ofNat d.toNat]

def toJson (p : Policy) : Json :=
  .object ((fieldNames.map fun k => some k.toList).zip p.fieldValues)

def below? (bound : Nat) (v : Json) : Option Nat :=
  v.natural?.filter (· < bound)

def word32? (v : Json) : Option UInt32 :=
  (below? UInt32.size v).map UInt32.ofNat

def word64? (v : Json) : Option UInt64 :=
  (below? UInt64.size v).map UInt64.ofNat

def deadline? : Json → Option (Option UInt64)
  | .null => some none
  | v => (word64? v).map some

def fieldOr {α : Type} (read : Json → Option α) (default : α) : Option Json → Option α
  | none => some default
  | some v => read v

def ofFields? (field : String → Option Json) : Option Policy := do
  let plain : Policy := {}
  pure {
    budget := ← fieldOr word32? plain.budget (field "max_attempts")
    base := ← fieldOr word64? plain.base (field "base_backoff_ms")
    ceiling := ← fieldOr word64? plain.ceiling (field "max_backoff_ms")
    limit := ← fieldOr word64? plain.limit (field "attempt_timeout_ms")
    deadline := ← fieldOr deadline? plain.deadline (field "overall_deadline_ms") }

/-- Reads a policy: an object with some of its fields, or an array of the first few. -/
def ofJson? : Json → Option Policy
  | .object fields => do
    let fields ← Json.record? fieldNames fields
    ofFields? fun name => Json.lookup name fields
  | .array items =>
    if items.length ≤ fieldNames.length then
      ofFields? fun name => (fieldNames.zip items).lookup name
    else none
  | _ => none

def parse? (s : String) : Option Policy :=
  (Json.parse s).bind ofJson?

end Policy
end BlobDepot
