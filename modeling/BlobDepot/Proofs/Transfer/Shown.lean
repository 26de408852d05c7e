import BlobDepot.Proofs.Transfer.Attempts
import BlobDepot.Proofs.Transfer.Interruption
import Mathlib.Tactic.ByContra

/-!
# What a run shows

A run shows its result, with the kind and the text of a failure, the calls on its sink and the
events of its log. Whatever tells the results of two attempts apart is seen in what the two runs
show.
-/
namespace BlobDepot

namespace OperationError

def shown (e : OperationError) : String × String :=
  (e.kind, e.message)

theorem kind_eq_connection {e : OperationError} :
    e.kind = "Connection" ↔ ∃ reason, e.failure = .connection reason := by
  rcases e with ⟨operation, failure⟩
  cases failure <;> simp [kind]

/-- No other failure of an operation reads like one to connect. -/
theorem message_ne_of_connection {e e' : OperationError} (hop : e.operation = e'.operation)
    (h : e.kind = "Connection") (h' : e'.kind ≠ "Connection") : e.message ≠ e'.message := by
  obtain ⟨reason, hreason⟩ := kind_eq_connection.1 h
  intro heq
  have hlist := congrArg String.toList heq
  rcases e' with ⟨operation, failure⟩
  cases failure with
  | connection reason' => exact h' rfl
  | cancelled => simp [message, hreason, hop] at hlist
  | status code text body => simp [message, hreason, hop] at hlist
  | timeout span => simp [message, hreason, hop] at hlist
  | io path fault => simp [message, hreason, hop] at hlist
  | pool cause => simp [message, hreason, hop] at hlist

end OperationError

def Report.shown {σ α : Type} (r : Report σ α) :
    Except (String × String) α × List SinkCall × List RunEvent :=
  (r.result.mapError OperationError.shown, r.calls, r.events)

theorem Report.shown_after {σ τ α : Type} {r : Report σ α} {q : Report τ α}
    (calls : List SinkCall) (events : List RunEvent) :
    (r.after calls events).shown = (q.after calls events).shown ↔ r.shown = q.shown := by
  simp [shown, after]

namespace Operation

variable {σ τ α : Type}

/-! ## Telling two runs apart -/

theorem notice_inj {op : Operation σ α} {op' : Operation τ α}
    (hop : op.description = op'.description) {e e' : OperationError}
    (h : op.notice e = op'.notice e') : e.message = e'.message := by
  simpa [notice, hop] using h

/-- What the first round of a run shows: all that the run shows, or the first call and the first
event of it. -/
theorem shown_runFrom_cases {op : Operation σ α} {policy : Policy} {clock : Clock}
    (sink : Listener σ) {number : Nat} {s t : Scene σ} {r : Except OperationError α}
    (hs : s.cancelled = false)
    (ha : op.attempt (policy.timeout (clock.begun number)) s = (r, t)) (left : Nat) :
    (∃ value, r = .ok value ∧ (op.runFrom policy clock sink left number s).shown =
        (.ok value, [.line (op.completion number), .flush], [])) ∨
      (∃ e event, r = .error e ∧ (op.runFrom policy clock sink left number s).shown =
        (.error e.shown, [], [event])) ∨
      ∃ e result calls events, r = .error e ∧ (op.runFrom policy clock sink left number s).shown =
        (result, .line (op.notice e) :: calls,
          .retrying number (policy.backoff (.ofNat number)) :: events) := by
  rw [runFrom_eq, hs, ha]
  cases r with
  | ok value => exact .inl ⟨value, rfl, rfl⟩
  | error e =>
    cases hstop : policy.stopAfter (clock.failed number) left number e with
    | some event => exact .inr (.inl ⟨e, event, rfl, by simp [hstop]; rfl⟩)
    | none => exact .inr (.inr ⟨e, _, _, _, rfl, by simp [hstop]; rfl⟩)

/-- Runs are told apart by what they show if the results of their first attempts are. -/
theorem shown_runFrom_ne {op : Operation σ α} {op' : Operation τ α} {policy : Policy}
    {clock : Clock} {sink : Listener σ} {sink' : Listener τ} {number : Nat} {s t : Scene σ}
    {s' t' : Scene τ} {r r' : Except OperationError α} (hop : op.description = op'.description)
    (hs : s.cancelled = false) (hs' : s'.cancelled = false)
    (ha : op.attempt (policy.timeout (clock.begun number)) s = (r, t))
    (ha' : op'.attempt (policy.timeout (clock.begun number)) s' = (r', t'))
    (hne : r.mapError OperationError.message ≠ r'.mapError OperationError.message)
    (left : Nat) :
    (op.runFrom policy clock sink left number s).shown ≠
      (op'.runFrom policy clock sink' left number s').shown := by
  intro heq
  rcases shown_runFrom_cases sink hs ha left with
    ⟨v, rfl, h⟩ | ⟨e, event, rfl, h⟩ | ⟨e, result, calls, events, rfl, h⟩
  · rcases shown_runFrom_cases sink' hs' ha' left with
      ⟨v', rfl, h'⟩ | ⟨e', event', rfl, h'⟩ | ⟨e', result', calls', events', rfl, h'⟩
    · have hvalue : v = v' := by
        simp only [h, h', Prod.mk.injEq, Except.ok.injEq] at heq
        exact heq.1
      exact hne (congrArg Except.ok hvalue)
    · simp [h, h'] at heq
    · simp [h, h'] at heq
  · rcases shown_runFrom_cases sink' hs' ha' left with
      ⟨v', rfl, h'⟩ | ⟨e', event', rfl, h'⟩ | ⟨e', result', calls', events', rfl, h'⟩
    · simp [h, h'] at heq
    · have hmessage : e.message = e'.message := by
        simp only [h, h', OperationError.shown, Prod.mk.injEq, Except.error.injEq] at heq
        exact heq.1.2
      exact hne (congrArg Except.error hmessage)
    · simp [h, h'] at heq
  · rcases shown_runFrom_cases sink' hs' ha' left with
      ⟨v', rfl, h'⟩ | ⟨e', event', rfl, h'⟩ | ⟨e', result', calls', events', rfl, h'⟩
    · simp [h, h'] at heq
    · simp [h, h'] at heq
    · have hnotice : op.notice e = op'.notice e' := by
        simp only [h, h', Prod.mk.injEq, List.cons.injEq, SinkCall.line.injEq] at heq
        exact heq.2.1.1
      exact hne (congrArg Except.error (notice_inj hop hnotice))

/-! ## Attempts that connect -/

section Connecting

variable (op : Operation σ α) (policy : Policy) (clock : Clock) (sink : Listener σ)

def DidConnect (result : Except OperationError α) : Prop :=
  ∀ e, result = .error e → e.kind ≠ "Connection"

instance : (result : Except OperationError α) → Decidable (DidConnect result)
  | .ok _ => .isTrue nofun
  | .error e => decidable_of_iff (e.kind ≠ "Connection")
      ⟨fun h _ he => Except.error.inj he ▸ h, fun h => h e rfl⟩

/-- The scene that an attempt leaves to the next: the sink was told if it failed. -/
def afterAttempt (limit : Span) (s : Scene σ) : Scene σ :=
  match op.attempt limit s with
  | (.ok _, t) => t
  | (.error e, t) => sink.line (op.notice e) t

/-- None of so many attempts fails to connect, when the one with a number begins in a scene. -/
def Connects (number : ℕ) (s : Scene σ) (count : ℕ) : Prop :=
  ∀ k < count, DidConnect (op.attempt (policy.timeout (clock.begun (number + k)))
    (trail (fun n => op.afterAttempt sink (policy.timeout (clock.begun n))) number s k)).1

instance (number : ℕ) (s : Scene σ) (count : ℕ) :
    Decidable (op.Connects policy clock sink number s count) :=
  inferInstanceAs (Decidable (∀ k < count, _))

variable {op policy clock sink}

theorem Connects.first {number : ℕ} {s : Scene σ} {count : ℕ}
    (h : op.Connects policy clock sink number s count) (hpos : 0 < count) :
    DidConnect (op.attempt (policy.timeout (clock.begun number)) s).1 :=
  h 0 hpos

theorem connects_zero (number : ℕ) (s : Scene σ) : op.Connects policy clock sink number s 0 := by
  intro k hk
  omega

theorem connects_succ {number : ℕ} {s : Scene σ} {count : ℕ} :
    op.Connects policy clock sink number s (count + 1) ↔
      DidConnect (op.attempt (policy.timeout (clock.begun number)) s).1 ∧
        op.Connects policy clock sink (number + 1)
          (op.afterAttempt sink (policy.timeout (clock.begun number)) s) count := by
  have hnumber : ∀ k, number + 1 + k = number + (k + 1) := by omega
  constructor
  · intro h
    refine ⟨h.first (Nat.succ_pos count), fun k hk => ?_⟩
    rw [hnumber]
    exact h (k + 1) (Nat.succ_lt_succ hk)
  · rintro ⟨hfirst, hrest⟩ k hk
    cases k with
    | zero => exact hfirst
    | succ k =>
      rw [← hnumber]
      exact hrest k (Nat.lt_of_succ_lt_succ hk)

theorem connects_runFrom_pos {s : Scene σ} (hs : s.cancelled = false) (left number : ℕ) :
    0 < (op.runFrom policy clock sink left number s).connects := by
  rw [runFrom_eq, hs]
  rcases ha : op.attempt (policy.timeout (clock.begun number)) s with ⟨e | value, t⟩
  · cases hstop : policy.stopAfter (clock.failed number) left number e <;>
      simp [hstop, Report.after]
  · exact Nat.one_pos

theorem afterAttempt_of_error {limit : Span} {s t : Scene σ} {e : OperationError}
    (ha : op.attempt limit s = (.error e, t)) :
    op.afterAttempt sink limit s = sink.line (op.notice e) t := by
  simp only [afterAttempt, ha]

end Connecting

/-- Two operations with their sinks that go through related scenes as long as they connect. -/
structure Alike (op : Operation σ α) (sink : Listener σ) (op' : Operation τ α)
    (sink' : Listener τ) (R : Scene σ → Scene τ → Prop) : Prop where
  description : op.description = op'.description
  cancelled {s s'} : R s s' → s.cancelled = s'.cancelled
  attempt {limit s s'} : R s s' → DidConnect (op.attempt limit s).1 →
    DidConnect (op'.attempt limit s').1 →
    (op.attempt limit s).1 = (op'.attempt limit s').1 ∧
      R (op.attempt limit s).2 (op'.attempt limit s').2
  line {s s'} (text : String) : R s s' → R (sink.line text s) (sink'.line text s')
  flush {s s'} : R s s' → R (sink.flush s) (sink'.flush s')

namespace Alike

variable {op : Operation σ α} {op' : Operation τ α} {policy : Policy} {clock : Clock}
  {sink : Listener σ} {sink' : Listener τ} {R : Scene σ → Scene τ → Prop} {s : Scene σ}
  {s' : Scene τ}

theorem completion_eq (h : op.Alike sink op' sink' R) (number : ℕ) :
    op.completion number = op'.completion number := by
  simp only [completion, h.description]

theorem notice_eq (h : op.Alike sink op' sink' R) (e : OperationError) :
    op.notice e = op'.notice e := by
  simp only [notice, h.description]

/-- The next attempts of two runs, if the first ones connect and fail. -/
theorem next (h : op.Alike sink op' sink' R) {t : Scene σ} {t' : Scene τ}
    (ht : R t t') (e : OperationError) :
    R (sink.line (op.notice e) t) (sink'.line (op'.notice e) t') :=
  h.notice_eq e ▸ h.line _ ht

/-- Runs that connect in all their attempts show the same. -/
theorem shown_eq (h : op.Alike sink op' sink' R) (hR : R s s') (left number : ℕ)
    (hc : op.Connects policy clock sink number s
      (op.runFrom policy clock sink left number s).connects)
    (hc' : op'.Connects policy clock sink' number s'
      (op'.runFrom policy clock sink' left number s').connects) :
    (op.runFrom policy clock sink left number s).shown =
        (op'.runFrom policy clock sink' left number s').shown ∧
      R (op.runFrom policy clock sink left number s).scene
        (op'.runFrom policy clock sink' left number s').scene := by
  -- as long as both attempts connect they lead to related scenes, where the rest of the runs begins
  induction left using Nat.strongRecOn generalizing number s s' with
  | ind left ih =>
    cases hs : s.cancelled with
    | true =>
      have hs' : s'.cancelled = true := h.cancelled hR ▸ hs
      rw [runFrom_of_cancelled hs, runFrom_of_cancelled hs', h.description]
      exact ⟨rfl, hR⟩
    | false =>
      have hs' : s'.cancelled = false := h.cancelled hR ▸ hs
      obtain ⟨hresult, hscene⟩ := h.attempt hR (hc.first (connects_runFrom_pos hs left number))
        (hc'.first (connects_runFrom_pos hs' left number))
      rcases ha : op.attempt (policy.timeout (clock.begun number)) s with ⟨r, t⟩
      rcases ha' : op'.attempt (policy.timeout (clock.begun number)) s' with ⟨r', t'⟩
      rw [ha, ha'] at hresult hscene
      obtain rfl : r = r' := hresult
      cases r with
      | ok value =>
        rw [runFrom_of_ok hs ha, runFrom_of_ok hs' ha', completed, completed, h.completion_eq]
        exact ⟨rfl, h.flush (h.line _ hscene)⟩
      | error e =>
        cases hstop : policy.stopAfter (clock.failed number) left number e with
        | some event =>
          rw [runFrom_of_stop hs ha hstop, runFrom_of_stop hs' ha' hstop]
          exact ⟨rfl, hscene⟩
        | none =>
          obtain ⟨-, k, rfl⟩ := Policy.stopAfter_eq_none hstop
          rw [runFrom_of_go hs ha hstop] at hc ⊢
          rw [runFrom_of_go hs' ha' hstop] at hc' ⊢
          have hrest := (connects_succ.1 hc).2
          have hrest' := (connects_succ.1 hc').2
          rw [afterAttempt_of_error ha] at hrest
          rw [afterAttempt_of_error ha'] at hrest'
          obtain ⟨hshown, hfinal⟩ := ih k (Nat.lt_succ_self k) (h.next hscene e) (number + 1)
            hrest hrest'
          rw [h.notice_eq] at hshown hfinal ⊢
          exact ⟨(Report.shown_after _ _).2 hshown, hfinal⟩

/-- Runs that are told apart by an attempt that does not connect connect in all their attempts if
they show the same. -/
theorem connects (h : op.Alike sink op' sink' R)
    (hdiffer : ∀ {limit s s'}, R s s' →
      ¬ (DidConnect (op.attempt limit s).1 ∧ DidConnect (op'.attempt limit s').1) →
        (op.attempt limit s).1.mapError OperationError.message ≠
          (op'.attempt limit s').1.mapError OperationError.message)
    (hR : R s s') (left number : ℕ)
    (heq : (op.runFrom policy clock sink left number s).shown =
      (op'.runFrom policy clock sink' left number s').shown) :
    op.Connects policy clock sink number s
      (op.runFrom policy clock sink left number s).connects ∧
      op'.Connects policy clock sink' number s'
      (op'.runFrom policy clock sink' left number s').connects := by
  induction left using Nat.strongRecOn generalizing number s s' with
  | ind left ih =>
    cases hs : s.cancelled with
    | true =>
      have hs' : s'.cancelled = true := h.cancelled hR ▸ hs
      rw [runFrom_of_cancelled hs, runFrom_of_cancelled hs']
      exact ⟨connects_zero number s, connects_zero number s'⟩
    | false =>
      have hs' : s'.cancelled = false := h.cancelled hR ▸ hs
      have hfirst : DidConnect (op.attempt (policy.timeout (clock.begun number)) s).1 ∧
          DidConnect (op'.attempt (policy.timeout (clock.begun number)) s').1 := by
        by_contra hnot
        exact shown_runFrom_ne h.description hs hs' rfl rfl (hdiffer hR hnot) left heq
      obtain ⟨hresult, hscene⟩ := h.attempt hR hfirst.1 hfirst.2
      have hone : ∀ {count : ℕ} {count' : ℕ}, count = 1 → count' = 1 →
          op.Connects policy clock sink number s count ∧
            op'.Connects policy clock sink' number s' count' := by
        rintro _ _ rfl rfl
        exact ⟨connects_succ.2 ⟨hfirst.1, connects_zero _ _⟩,
          connects_succ.2 ⟨hfirst.2, connects_zero _ _⟩⟩
      rcases ha : op.attempt (policy.timeout (clock.begun number)) s with ⟨r, t⟩
      rcases ha' : op'.attempt (policy.timeout (clock.begun number)) s' with ⟨r', t'⟩
      rw [ha, ha'] at hresult hscene
      obtain rfl : r = r' := hresult
      cases r with
      | ok value =>
        exact hone (by rw [runFrom_of_ok hs ha]; rfl) (by rw [runFrom_of_ok hs' ha']; rfl)
      | error e =>
        cases hstop : policy.stopAfter (clock.failed number) left number e with
        | some event =>
          exact hone (by rw [runFrom_of_stop hs ha hstop]; rfl)
            (by rw [runFrom_of_stop hs' ha' hstop]; rfl)
        | none =>
          obtain ⟨-, k, rfl⟩ := Policy.stopAfter_eq_none hstop
          rw [runFrom_of_go hs ha hstop, runFrom_of_go hs' ha' hstop, h.notice_eq] at heq
          have hrest := ih k (Nat.lt_succ_self k) (h.next hscene e) (number + 1)
            ((Report.shown_after _ _).1 (by rw [h.notice_eq]; exact heq))
          rw [runFrom_of_go hs ha hstop, runFrom_of_go hs' ha' hstop]
          constructor
          · refine connects_succ.2 ⟨hfirst.1, ?_⟩
            rw [afterAttempt_of_error ha]
            exact hrest.1
          · refine connects_succ.2 ⟨hfirst.2, ?_⟩
            rw [afterAttempt_of_error ha']
            exact hrest.2

end Alike

end Operation
end BlobDepot
