import BlobDepot.Proofs.Transfer.Response
import BlobDepot.Transfer.Run
import Mathlib.Data.Nat.Notation
import Mathlib.Logic.Basic
import Mathlib.Order.Bounds.Defs

/-!
# The attempts of a run

An attempt that nothing interrupts comes out in one of five ways, and `Operation.outcome` tells in
which. The attempts of a run follow each other: each begins in the scene that the one before it
left, after the sink was told of its failure.
-/
namespace BlobDepot

/-- The state after so many steps, of which the first has a number and each further one the next. -/
def trail {τ : Type} (step : ℕ → τ → τ) : (number : ℕ) → τ → (count : ℕ) → τ
  | _, x, 0 => x
  | number, x, count + 1 => trail step (number + 1) (step number x) count

theorem trail_succ {τ : Type} (step : ℕ → τ → τ) (number : ℕ) (x : τ) (count : ℕ) :
    trail step number x (count + 1) = step (number + count) (trail step number x count) := by
  induction count generalizing number x with
  | zero => rfl
  | succ count ih =>
    have hnumber : number + 1 + count = number + (count + 1) := by omega
    rw [trail, ih, hnumber]
    rfl

/-- How an attempt comes out that nothing interrupts. -/
inductive Outcome (α : Type) where
  /-- An answer of success was handed on, with this result. -/
  | handled (result : Except OperationError α)
  /-- The answer is none of success. -/
  | refused (r : Response)
  /-- Connecting failed. -/
  | failed (e : OperationError)
  | panicked
  | hung

def Outcome.result {α : Type} (description : String) (limit : Span) :
    Outcome α → Except OperationError α
  | handled result => result
  | refused r => .error ⟨description, .status r.status r.reason (truncate r.body.bytes 1024)⟩
  | failed e => .error e
  | panicked => .error ⟨description, .pool .panicked⟩
  | hung => .error ⟨description, .timeout limit⟩

def Outcome.ending {α : Type} (description : String) :
    Outcome α → Ending (Except OperationError α)
  | handled result => .ready result
  | refused r => .ready (.error ⟨description, .status r.status r.reason (r.body.shown shownBytes)⟩)
  | failed e => .ready (.error e)
  | panicked => .panics
  | hung => .hangs

def Scene.IsCalm {σ : Type} (s : Scene σ) : Prop :=
  s.cancelled = false ∧ s.down = false

namespace Policy

/-- How long an attempt may take when so much time has passed: as long as its own limit, or as is
left until the deadline if that is shorter. -/
def patience (p : Policy) (elapsed : Span) : Span :=
  match p.deadline with
  | none => spanOf p.limit
  | some d => ⟨min (spanOf p.limit).nanos ((spanOf d).nanos - elapsed.nanos)⟩

theorem timeout_eq_patience (p : Policy) (elapsed : Span) :
    p.timeout elapsed = p.patience elapsed := by
  cases h : p.deadline with
  | none => simp only [timeout, patience, h]
  | some d => simp only [timeout, patience, h, Span.min_eq, Span.nanos_less]

theorem attempts_pos (p : Policy) : 0 < p.attempts.toNat := by
  have hmax : p.attempts = if p.budget ≤ 1 then 1 else p.budget := rfl
  rw [hmax]
  split
  · decide
  · rename_i h
    have hlt := UInt32.le_iff_toNat_le.not.1 h
    simp at hlt
    omega

/-- Whether the time that has passed and the wait after an attempt reach the deadline. -/
def ReachesDeadline (p : Policy) (elapsed : Span) (attempt : UInt32) : Prop :=
  ∃ d ∈ p.deadline, (spanOf d).nanos ≤ elapsed.nanos + (p.backoff attempt).nanos

theorem isPastDeadline_iff {p : Policy} {elapsed : Span} {attempt : UInt32} :
    p.isPastDeadline elapsed attempt = true ↔ p.ReachesDeadline elapsed attempt := by
  simp only [isPastDeadline, ReachesDeadline, Option.any_eq_true, Option.mem_def, decide_eq_true_eq]

instance (p : Policy) (elapsed : Span) (attempt : UInt32) :
    Decidable (p.ReachesDeadline elapsed attempt) :=
  decidable_of_iff _ isPastDeadline_iff

/-- Whether no attempt follows the one with a number and a result when so much time has passed: it
succeeded, its failure is not to be tried again, the budget is used up, or the wait would reach the
deadline. -/
def EndsAt {α : Type} (p : Policy) (elapsed : Span) (number : ℕ) :
    Except OperationError α → Prop
  | .ok _ => True
  | .error e =>
    e.failureClass = .cancelled ∨ e.failureClass = .client ∨ number = p.attempts.toNat ∨
      p.ReachesDeadline elapsed (.ofNat number)

instance {α : Type} (p : Policy) (elapsed : Span) (number : ℕ) :
    (result : Except OperationError α) → Decidable (p.EndsAt elapsed number result)
  | .ok _ => inferInstanceAs (Decidable True)
  | .error _ => inferInstanceAs (Decidable (_ ∨ _))

theorem endsAt_attempts {α : Type} (p : Policy) (elapsed : Span)
    (result : Except OperationError α) : p.EndsAt elapsed p.attempts.toNat result := by
  cases result with
  | ok value => exact trivial
  | error e => exact .inr (.inr (.inl rfl))

def lastEvent (p : Policy) (number : ℕ) (e : OperationError) : RunEvent :=
  if e.failureClass ≠ .transient then .givingUp number
  else if number = p.attempts.toNat then .budgetExhausted number
  else .deadlineReached number

end Policy

namespace Operation

variable {σ α : Type}

/-- How the attempt that begins in a scene comes out if nothing interrupts it, and the scene it
leaves. -/
def outcome (op : Operation σ α) (s : Scene σ) : Outcome α × Scene σ :=
  match op.connect (op.start s) with
  | (.ready (.ok r), s) =>
    if isSuccess r.status then
      match op.onSuccess r s with
      | (.ready result, s) => (.handled result, s)
      | (.panics, s) => (.panicked, s)
      | (.hangs, s) => (.hung, s)
    else (.refused r, s)
  | (.ready (.error e), s) => (.failed e, s)
  | (.panics, s) => (.panicked, s)
  | (.hangs, s) => (.hung, s)

/-- The result of the attempt that begins in a scene and may take so long. -/
def resultIn (op : Operation σ α) (limit : Span) (s : Scene σ) : Except OperationError α :=
  (op.outcome s).1.result op.description limit

/-- The scene in which the next attempt begins: the sink was told why this one failed. -/
def sceneAfter (op : Operation σ α) (limit : Span) (sink : Listener σ) (s : Scene σ) : Scene σ :=
  match op.resultIn limit s with
  | .ok _ => (op.outcome s).2
  | .error e => sink.line (op.notice e) (op.outcome s).2

/-- The scene in which the attempt begins that comes so many after the one with a number, if that
begins in a scene and is tried again, like each after it. -/
def sceneFrom (op : Operation σ α) (policy : Policy) (clock : Clock) (sink : Listener σ) :
    (number : ℕ) → Scene σ → (more : ℕ) → Scene σ :=
  trail fun number => op.sceneAfter (policy.patience (clock.begun number)) sink

/-- The scene in which the attempt with a number begins, counted from one, if every one before it
is tried again. -/
def sceneAt (op : Operation σ α) (policy : Policy) (clock : Clock) (sink : Listener σ)
    (s : Scene σ) (number : ℕ) : Scene σ :=
  op.sceneFrom policy clock sink 1 s (number - 1)

def resultAt (op : Operation σ α) (policy : Policy) (clock : Clock) (sink : Listener σ)
    (s : Scene σ) (number : ℕ) : Except OperationError α :=
  op.resultIn (policy.patience (clock.begun number)) (op.sceneAt policy clock sink s number)

/-- Nothing cancels the token or shuts the pool down before the end of the attempt that begins in a
scene. -/
structure IsCalm (op : Operation σ α) (s : Scene σ) : Prop where
  before : s.IsCalm
  started : (op.start s).IsCalm
  ended : (op.outcome s).2.IsCalm

theorem sceneAt_one (op : Operation σ α) (policy : Policy) (clock : Clock) (sink : Listener σ)
    (s : Scene σ) : op.sceneAt policy clock sink s 1 = s := rfl

theorem sceneAt_succ (op : Operation σ α) (policy : Policy) (clock : Clock) (sink : Listener σ)
    (s : Scene σ) {number : ℕ} (h : 0 < number) :
    op.sceneAt policy clock sink s (number + 1) =
      op.sceneAfter (policy.patience (clock.begun number)) sink
        (op.sceneAt policy clock sink s number) := by
  obtain ⟨k, rfl⟩ : ∃ k, number = k + 1 := ⟨number - 1, by omega⟩
  rw [sceneAt, sceneAt, sceneFrom, Nat.add_sub_cancel, Nat.add_sub_cancel, trail_succ,
    Nat.add_comm 1 k]

theorem sceneAfter_of_error {op : Operation σ α} {limit : Span} {s : Scene σ}
    {e : OperationError} (sink : Listener σ) (h : op.resultIn limit s = .error e) :
    op.sceneAfter limit sink s = sink.line (op.notice e) (op.outcome s).2 := by
  simp only [sceneAfter, h]

theorem work_start (op : Operation σ α) (s : Scene σ) :
    op.work (op.start s) = ((op.outcome s).1.ending op.description, (op.outcome s).2) := by
  rcases hc : op.connect (op.start s) with ⟨(e | r) | _ | _, t⟩
  case ready.error => simp [work, outcome, hc, Outcome.ending]
  case panics => simp [work, outcome, hc, Outcome.ending]
  case hangs => simp [work, outcome, hc, Outcome.ending]
  case ready.ok =>
    by_cases hs : isSuccess r.status
    · rcases hh : op.onSuccess r t with ⟨_ | _ | _, u⟩ <;>
        simp [work, outcome, hc, hs, hh, Outcome.ending]
    · simp [work, outcome, hc, hs, refusal, Outcome.ending]

theorem settle_outcome_ending (op : Operation σ α) {s : Scene σ} (h : s.IsCalm) (limit : Span)
    (o : Outcome α) :
    op.settle (s.outcome limit (o.ending op.description)) = o.result op.description limit := by
  obtain ⟨hlive, hup⟩ := h
  cases o with
  | handled result => rfl
  | refused r => simp [Outcome.ending, Scene.outcome, settle, Outcome.result,
      Body.shown_eq_truncate, shownBytes]
  | failed e => rfl
  | panicked => rfl
  | hung => simp [Outcome.ending, Scene.outcome, settle, Outcome.result, hlive, hup]

/-- An attempt that nothing interrupts comes to what is made of its outcome. -/
theorem IsCalm.attempt_eq {op : Operation σ α} {s : Scene σ} (h : op.IsCalm s)
    (policy : Policy) (elapsed : Span) : op.attempt (policy.timeout elapsed) s =
      (op.resultIn (policy.patience elapsed) s, (op.outcome s).2) := by
  obtain ⟨_, ⟨hlive, hup⟩, ⟨hlive', hup'⟩⟩ := h
  simp only [attempt, Scene.run, work_start, hlive, hup, hlive', Bool.false_eq_true, ↓reduceIte]
  rw [settle_outcome_ending op ⟨hlive', hup'⟩, policy.timeout_eq_patience, resultIn]

end Operation
end BlobDepot
