import BlobDepot.Proofs.Transfer.Attempts
import BlobDepot.Proofs.Transfer.Rounds
import BlobDepot.Transfer.Script
import Mathlib.Data.Nat.Find

/-!
# The law of a run

A run that nothing interrupts ends with the first attempt that its policy does not follow by
another. It returns what that attempt came to, and it told the sink and the log of every attempt
before.
-/
namespace BlobDepot

namespace Policy

variable {α : Type} {elapsed : Span} {left number : ℕ} {e : OperationError}

theorem stopAfter_of_endsAt (p : Policy) (hbudget : number + left = p.attempts.toNat)
    (h : p.EndsAt elapsed number (.error e : Except OperationError α)) :
    p.stopAfter elapsed left number e = some (p.lastEvent number e) := by
  cases hclass : e.failureClass with
  | cancelled => simp [stopAfter, lastEvent, hclass]
  | client => simp [stopAfter, lastEvent, hclass]
  | transient =>
    cases left with
    | zero => simp [stopAfter, lastEvent, hclass, ← hbudget]
    | succ left =>
      have hne : number ≠ p.attempts.toNat := by omega
      have hpast : p.isPastDeadline elapsed (.ofNat number) = true := by
        simpa [EndsAt, hclass, hne, isPastDeadline_iff] using h
      simp [stopAfter, lastEvent, hclass, hne, hpast]

theorem stopAfter_of_not_endsAt (p : Policy) (hbudget : number + left = p.attempts.toNat)
    (h : ¬ p.EndsAt elapsed number (.error e : Except OperationError α)) :
    p.stopAfter elapsed left number e = none := by
  simp only [EndsAt, not_or] at h
  obtain ⟨hcancelled, hclient, hne, hpast⟩ := h
  have htransient : e.failureClass = .transient := by
    cases hc : e.failureClass with
    | cancelled => exact absurd hc hcancelled
    | client => exact absurd hc hclient
    | transient => rfl
  have hwait : p.isPastDeadline elapsed (.ofNat number) = false := by
    rwa [← isPastDeadline_iff, Bool.not_eq_true] at hpast
  obtain ⟨k, rfl⟩ : ∃ k, left = k + 1 := ⟨left - 1, by omega⟩
  simp [stopAfter, htransient, hwait]

end Policy

namespace Report

variable {σ α ι : Type}

/-- Attempts put in front of a report keep its result and add their calls and events in order. -/
theorem foldr_after (call : ι → SinkCall) (event : ι → RunEvent) (numbers : List ι)
    (last : Report σ α) :
    numbers.foldr (fun k r => r.after [call k] [event k]) last =
      ⟨last.result, numbers.length + last.connects, numbers.map call ++ last.calls,
        numbers.map event ++ last.events, last.scene⟩ := by
  induction numbers with
  | nil => simp
  | cons k numbers ih =>
    rw [List.foldr_cons, ih]
    simp [after, Nat.add_right_comm]

end Report

namespace Operation

variable {σ α : Type} (op : Operation σ α) (policy : Policy) (clock : Clock) (sink : Listener σ)

def closing (number : ℕ) (result : Except OperationError α) (s : Scene σ) : Report σ α :=
  match result with
  | .ok value => op.completed sink number value s
  | .error e => (Report.plain (.error e) s).after [] [policy.lastEvent number e]

variable {op policy clock}

theorem connects_closing (number : ℕ) (result : Except OperationError α) (s : Scene σ) :
    (op.closing policy sink number result s).connects = 1 := by
  cases result <;> rfl

theorem runFrom_of_endsAt {left number : ℕ} {s : Scene σ}
    (hbudget : number + left = policy.attempts.toNat) (h : op.IsCalm s)
    (hend : policy.EndsAt (clock.failed number) number
      (op.resultIn (policy.patience (clock.begun number)) s)) :
    op.runFrom policy clock sink left number s =
      op.closing policy sink number (op.resultIn (policy.patience (clock.begun number)) s)
        (op.outcome s).2 := by
  cases hr : op.resultIn (policy.patience (clock.begun number)) s with
  | ok value => exact runFrom_of_ok h.before.1 (by rw [h.attempt_eq, hr]) sink left
  | error e =>
    rw [hr] at hend
    exact runFrom_of_stop h.before.1 (by rw [h.attempt_eq, hr])
      (policy.stopAfter_of_endsAt hbudget hend) sink

theorem runFrom_of_not_endsAt {left number : ℕ} {s : Scene σ}
    (hbudget : number + left = policy.attempts.toNat) (h : op.IsCalm s)
    (hgo : ¬ policy.EndsAt (clock.failed number) number
      (op.resultIn (policy.patience (clock.begun number)) s)) :
    ∃ e, op.resultIn (policy.patience (clock.begun number)) s = .error e ∧
      op.runFrom policy clock sink left number s =
        (op.runFrom policy clock sink (left - 1) (number + 1)
          (op.sceneAfter (policy.patience (clock.begun number)) sink s)).after
          [.line (op.notice e)] [.retrying number (policy.backoff (.ofNat number))] := by
  cases hr : op.resultIn (policy.patience (clock.begun number)) s with
  | ok value => simp [hr, Policy.EndsAt] at hgo
  | error e =>
    rw [hr] at hgo
    refine ⟨e, rfl, ?_⟩
    rw [sceneAfter_of_error sink hr]
    exact runFrom_of_go h.before.1 (by rw [h.attempt_eq, hr])
      (policy.stopAfter_of_not_endsAt hbudget hgo) sink

variable (op policy clock)

def failureAt (s : Scene σ) (number : ℕ) : OperationError :=
  match op.resultAt policy clock sink s number with
  | .ok _ => default
  | .error e => e

variable {op policy clock}

theorem resultAt_eq_error_failureAt {s : Scene σ} {number : ℕ}
    (h : ¬ policy.EndsAt (clock.failed number) number (op.resultAt policy clock sink s number)) :
    op.resultAt policy clock sink s number = .error (op.failureAt policy clock sink s number) := by
  cases hr : op.resultAt policy clock sink s number with
  | ok value => simp [hr, Policy.EndsAt] at h
  | error e => simp [failureAt, hr]

theorem runFrom_sceneAt {s : Scene σ} {left first more : ℕ} (hfirst : 0 < first)
    (hbudget : first + left = policy.attempts.toNat)
    (hcalm : ∀ k, first ≤ k → k ≤ first + more → op.IsCalm (op.sceneAt policy clock sink s k))
    (hgo : ∀ k, first ≤ k → k < first + more →
      ¬ policy.EndsAt (clock.failed k) k (op.resultAt policy clock sink s k))
    (hend : policy.EndsAt (clock.failed (first + more)) (first + more)
      (op.resultAt policy clock sink s (first + more))) :
    op.runFrom policy clock sink left first (op.sceneAt policy clock sink s first) =
      (List.range' first more).foldr
        (fun k r => r.after [.line (op.notice (op.failureAt policy clock sink s k))]
          [.retrying k (policy.backoff (.ofNat k))])
        (op.closing policy sink (first + more) (op.resultAt policy clock sink s (first + more))
          (op.outcome (op.sceneAt policy clock sink s (first + more))).2) := by
  -- by induction on the attempts that are still to come, the first of which is taken off in front
  induction more generalizing left first with
  | zero =>
    exact runFrom_of_endsAt sink hbudget (hcalm first (Nat.le_refl _) (Nat.le_refl _)) hend
  | succ more ih =>
    have hne : first ≠ policy.attempts.toNat := fun heq =>
      hgo first (Nat.le_refl _) (by omega) (heq ▸ policy.endsAt_attempts _ _)
    obtain ⟨e, he, hrun⟩ := runFrom_of_not_endsAt sink hbudget
      (hcalm first (Nat.le_refl _) (by omega)) (hgo first (Nat.le_refl _) (by omega))
    have hfail : op.failureAt policy clock sink s first = e := by
      simp [failureAt, resultAt, he]
    have hlast : first + 1 + more = first + (more + 1) := by omega
    rw [hrun, ← sceneAt_succ op policy clock sink s hfirst, List.range'_succ, List.foldr_cons,
      hfail, ← hlast]
    congr 1
    exact ih (by omega) (by omega) (fun k hk hle => hcalm k (by omega) (by omega))
      (fun k hk hlt => hgo k (by omega) (by omega)) (by rwa [hlast])

/-- There is an attempt that ends a run: the last of the budget, if no other. -/
theorem exists_isLeast_endsAt (op : Operation σ α) (policy : Policy) (clock : Clock)
    (sink : Listener σ) (s : Scene σ) :
    ∃ n, IsLeast {k | 0 < k ∧
      policy.EndsAt (clock.failed k) k (op.resultAt policy clock sink s k)} n := by
  classical
  have h : ∃ k, 0 < k ∧ policy.EndsAt (clock.failed k) k (op.resultAt policy clock sink s k) :=
    ⟨policy.attempts.toNat, policy.attempts_pos, policy.endsAt_attempts _ _⟩
  exact ⟨Nat.find h, Nat.find_spec h, fun k hk => Nat.find_min' h hk⟩

/-- The law of a run. It ends with the first attempt that its policy does not follow by another.
Unless the token is cancelled or the pool shut down before that attempt has ended, it connects as
often as it makes attempts and returns what the last one came to. The sink gets a notice of each
failure before, and after a success a line that tells of it and a flush; the log gets an event for
each wait. What the clock shows is of no account but for the deadline. -/
theorem run_of_calm (op : Operation σ α) (policy : Policy) (clock : Clock) (sink : Listener σ)
    (s : Scene σ) :
    ∃ n, IsLeast {k | 0 < k ∧
        policy.EndsAt (clock.failed k) k (op.resultAt policy clock sink s k)} n ∧
      ((∀ k, 0 < k → k ≤ n → op.IsCalm (op.sceneAt policy clock sink s k)) →
        ∃ failure : ℕ → OperationError,
          (∀ k, 0 < k → k < n → op.resultAt policy clock sink s k = .error (failure k)) ∧
          (op.run policy clock sink s).connects = n ∧
          (op.run policy clock sink s).result = op.resultAt policy clock sink s n ∧
          (op.run policy clock sink s).calls =
            ((List.range' 1 (n - 1)).map fun k =>
              .line ("Retrying " ++ op.description ++ " after: " ++ (failure k).message)) ++
            (match op.resultAt policy clock sink s n with
              | .ok _ =>
                [.line (op.description ++ " completed after " ++ toString n ++ " attempt(s)"),
                  .flush]
              | .error _ => []) ∧
          (op.run policy clock sink s).events =
            ((List.range' 1 (n - 1)).map fun k =>
              .retrying k (policy.backoff (.ofNat k))) ++
            (match op.resultAt policy clock sink s n with
              | .ok _ => []
              | .error e => [policy.lastEvent n e])) := by
  obtain ⟨n, hn⟩ := exists_isLeast_endsAt op policy clock sink s
  refine ⟨n, hn, fun hcalm => ?_⟩
  obtain ⟨⟨hpos, hend⟩, hleast⟩ := hn
  have hgo : ∀ k, 0 < k → k < n →
      ¬ policy.EndsAt (clock.failed k) k (op.resultAt policy clock sink s k) :=
    fun k hk hlt hends => absurd (hleast ⟨hk, hends⟩) (by omega)
  have hlast : 1 + (n - 1) = n := by omega
  have hbudget : 1 + (policy.attempts.toNat - 1) = policy.attempts.toNat := by
    have hattempts := policy.attempts_pos
    omega
  have hlastEnds : policy.EndsAt (clock.failed (1 + (n - 1))) (1 + (n - 1))
      (op.resultAt policy clock sink s (1 + (n - 1))) := by
    rwa [hlast]
  have hrun := runFrom_sceneAt sink Nat.one_pos hbudget
    (fun k hk hle => hcalm k hk (by omega)) (fun k hk hlt => hgo k hk (by omega)) hlastEnds
  rw [hlast, sceneAt_one, Report.foldr_after] at hrun
  refine ⟨op.failureAt policy clock sink s,
    fun k hk hlt => resultAt_eq_error_failureAt sink (hgo k hk hlt), ?_⟩
  rw [run, hrun]
  refine ⟨?_, ?_⟩
  · simp only [List.length_range', connects_closing]
    omega
  · cases op.resultAt policy clock sink s n with
    | ok value => exact ⟨rfl, rfl, rfl⟩
    | error e => exact ⟨rfl, rfl, rfl⟩

theorem run_of_calm_third :
    let script := Script.ofList
      [{ response := ⟨503, "Busy", .whole []⟩ }, { connecting := [.hang] }, {}]
    let s : Scene Script := { world := script }
    let op := Script.operation "upload"
    (∀ k, 0 < k → k ≤ 3 → op.IsCalm (op.sceneAt {} {} {} s k)) ∧
      (op.run {} {} {} s).connects = 3 := by
  intro script s op
  have hcalm : ∀ k, 0 < k → k ≤ 3 → op.IsCalm (op.sceneAt {} {} {} s k) := by
    intro k hpos hle
    obtain rfl | rfl | rfl : k = 1 ∨ k = 2 ∨ k = 3 := by omega
    all_goals exact ⟨⟨rfl, rfl⟩, ⟨rfl, rfl⟩, ⟨rfl, rfl⟩⟩
  obtain ⟨n, ⟨⟨hpos, hend⟩, hleast⟩, hrun⟩ := run_of_calm op {} {} {} s
  have hn : n = 3 := by
    have hle : n ≤ 3 := hleast ⟨by decide, by decide⟩
    obtain rfl | rfl | rfl : n = 1 ∨ n = 2 ∨ n = 3 := by omega
    · exact absurd hend (by decide)
    · exact absurd hend (by decide)
    · rfl
  subst hn
  obtain ⟨failure, _, hconnects, _⟩ := hrun hcalm
  exact ⟨hcalm, hconnects⟩

end Operation
end BlobDepot
