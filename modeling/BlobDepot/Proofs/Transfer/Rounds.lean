import BlobDepot.Transfer.Run

/-!
# Rounds of a run

A round is an attempt and what the run makes of it. After a success the sink is told and flushed;
after a failure the policy either ends the run with an event or lets the next round begin.
-/
namespace BlobDepot

/-- The event with which a policy ends a run after a failure, if it does, when so much time has
passed and there are so many more attempts in the budget. -/
def Policy.stopAfter (p : Policy) (elapsed : Span) (left number : Nat) (e : OperationError) :
    Option RunEvent :=
  match e.failureClass, left with
  | .cancelled, _ | .client, _ => some (.givingUp number)
  | .transient, 0 => some (.budgetExhausted number)
  | .transient, _ + 1 =>
    if p.isPastDeadline elapsed (.ofNat number) then some (.deadlineReached number) else none

theorem Policy.stopAfter_eq_none {p : Policy} {elapsed : Span} {left number : Nat}
    {e : OperationError} (h : p.stopAfter elapsed left number e = none) :
    e.failureClass = .transient ∧ ∃ k, left = k + 1 := by
  cases hc : e.failureClass with
  | cancelled => simp [stopAfter, hc] at h
  | client => simp [stopAfter, hc] at h
  | transient =>
    cases left with
    | zero => simp [stopAfter, hc] at h
    | succ k => exact ⟨rfl, k, rfl⟩

@[simp] theorem Report.result_after {σ α : Type} (r : Report σ α) (calls : List SinkCall)
    (events : List RunEvent) : (r.after calls events).result = r.result := rfl

namespace Operation

variable {σ α : Type}

/-- An attempt ends at once if the token is cancelled while it starts, or if the pool takes no
work. A token that is cancelled by the end of the work counts before what the work came to. -/
theorem attempt_eq (op : Operation σ α) (limit : Span) (s : Scene σ) :
    op.attempt limit s =
      if (op.start s).cancelled then (.error (.cancelled op.description), op.start s)
      else if (op.start s).down then (.error ⟨op.description, .pool .shutdown⟩, op.start s)
      else
        (if (op.work (op.start s)).2.cancelled then .error (.cancelled op.description)
          else op.settle ((op.work (op.start s)).2.outcome limit (op.work (op.start s)).1),
          (op.work (op.start s)).2) := by
  cases hc : (op.start s).cancelled with
  | true => simp [attempt, hc]
  | false =>
    cases hd : (op.start s).down with
    | true => simp [attempt, Scene.run, hc, hd, settle]
    | false =>
      rcases hw : op.work (op.start s) with ⟨ending, t⟩
      cases ht : t.cancelled <;> simp [attempt, Scene.run, hc, hd, hw, ht]

def completed (op : Operation σ α) (sink : Listener σ) (number : Nat) (value : α)
    (s : Scene σ) : Report σ α :=
  (Report.plain (.ok value) (sink.flush (sink.line (op.completion number) s))).after
    [.line (op.completion number), .flush] []

theorem runFrom_eq (op : Operation σ α) (policy : Policy) (clock : Clock) (sink : Listener σ)
    (left number : Nat) (s : Scene σ) :
    op.runFrom policy clock sink left number s =
      if s.cancelled then .plain (.error (.cancelled op.description)) s
      else
        match op.attempt (policy.timeout (clock.begun number)) s with
        | (.ok value, t) => op.completed sink number value t
        | (.error e, t) =>
          match policy.stopAfter (clock.failed number) left number e with
          | some event => (Report.plain (.error e) t).after [] [event]
          | none =>
            (op.runFrom policy clock sink (left - 1) (number + 1) (sink.line (op.notice e) t)).after
              [.line (op.notice e)] [.retrying number (policy.backoff (.ofNat number))] := by
  rw [runFrom]
  cases hs : s.cancelled with
  | true => rfl
  | false =>
    rcases ha : op.attempt (policy.timeout (clock.begun number)) s with ⟨e | value, t⟩
    · cases hc : e.failureClass with
      | cancelled => simp [Policy.stopAfter, hc]
      | client => simp [Policy.stopAfter, hc]
      | transient =>
        cases left with
        | zero => simp [Policy.stopAfter, hc]
        | succ left =>
          cases hp : policy.isPastDeadline (clock.failed number) (.ofNat number) <;>
            simp [Policy.stopAfter, hc, hp]
    · rfl

section Round

variable {op : Operation σ α} {policy : Policy} {clock : Clock} {left number : Nat}
  {s t : Scene σ} {e : OperationError}

theorem runFrom_of_cancelled (hs : s.cancelled = true) (sink : Listener σ) (left number : Nat) :
    op.runFrom policy clock sink left number s = .plain (.error (.cancelled op.description)) s := by
  rw [runFrom_eq, if_pos hs]

theorem runFrom_of_ok {value : α} (hs : s.cancelled = false)
    (ha : op.attempt (policy.timeout (clock.begun number)) s = (.ok value, t)) (sink : Listener σ)
    (left : Nat) :
    op.runFrom policy clock sink left number s = op.completed sink number value t := by
  rw [runFrom_eq, hs, ha]
  rfl

theorem runFrom_of_stop {event : RunEvent} (hs : s.cancelled = false)
    (ha : op.attempt (policy.timeout (clock.begun number)) s = (.error e, t))
    (hstop : policy.stopAfter (clock.failed number) left number e = some event)
    (sink : Listener σ) :
    op.runFrom policy clock sink left number s = (Report.plain (.error e) t).after [] [event] := by
  rw [runFrom_eq, hs, ha]
  simp only [Bool.false_eq_true, ↓reduceIte, hstop]

theorem runFrom_of_go (hs : s.cancelled = false)
    (ha : op.attempt (policy.timeout (clock.begun number)) s = (.error e, t))
    (hgo : policy.stopAfter (clock.failed number) left number e = none) (sink : Listener σ) :
    op.runFrom policy clock sink left number s =
      (op.runFrom policy clock sink (left - 1) (number + 1) (sink.line (op.notice e) t)).after
        [.line (op.notice e)] [.retrying number (policy.backoff (.ofNat number))] := by
  rw [runFrom_eq, hs, ha]
  simp only [Bool.false_eq_true, ↓reduceIte, hgo]

end Round

end Operation
end BlobDepot
