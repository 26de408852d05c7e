import BlobDepot.Proofs.Transfer.Rounds

/-!
# The timeline of a run

An operation and a sink can be put on record: each step then notes what was done and how it left
the token and the pool. The record changes nothing else, and the timeline of a run is what the run
of the recorded operation notes. `Operation.Rounds` builds the same timeline round by round.
-/
namespace BlobDepot

inductive RunStep where
  /-- The part of connecting that is done at once. -/
  | connect
  /-- The part of an attempt on the pool. -/
  | work
  | line (text : String)
  | flush
  deriving DecidableEq, Repr

/-- A step of a run, and how it left the token and the pool. -/
structure Moment where
  step : RunStep
  cancelled : Bool
  down : Bool
  deriving DecidableEq, Repr

def Moment.call? (m : Moment) : Option SinkCall :=
  match m.step with
  | .line text => some (.line text)
  | .flush => some .flush
  | _ => none

/-- A world with a record of the steps made in it. -/
structure Recorded (σ : Type) where
  world : σ
  moments : List Moment

namespace Scene

variable {σ : Type}

def moment (s : Scene σ) (step : RunStep) : Moment :=
  ⟨step, s.cancelled, s.down⟩

def erase (s : Scene (Recorded σ)) : Scene σ :=
  ⟨s.world.world, s.cancelled, s.down⟩

def withRecord (s : Scene σ) (moments : List Moment) : Scene (Recorded σ) :=
  ⟨⟨s.world, moments⟩, s.cancelled, s.down⟩

/-- A change of the scene that notes the step it makes. -/
def noting (step : RunStep) (f : Scene σ → Scene σ) (s : Scene (Recorded σ)) :
    Scene (Recorded σ) :=
  (f s.erase).withRecord (s.world.moments ++ [(f s.erase).moment step])

@[simp] theorem erase_withRecord (s : Scene σ) (moments : List Moment) :
    (s.withRecord moments).erase = s := rfl

@[simp] theorem moments_withRecord (s : Scene σ) (moments : List Moment) :
    (s.withRecord moments).world.moments = moments := rfl

@[simp] theorem cancelled_withRecord (s : Scene σ) (moments : List Moment) :
    (s.withRecord moments).cancelled = s.cancelled := rfl

@[simp] theorem down_withRecord (s : Scene σ) (moments : List Moment) :
    (s.withRecord moments).down = s.down := rfl

@[simp] theorem outcome_withRecord {β : Type} (s : Scene σ) (moments : List Moment)
    (limit : Span) (ending : Ending β) :
    (s.withRecord moments).outcome limit ending = s.outcome limit ending := by
  cases ending <;> rfl

end Scene

def Listener.recorded {σ : Type} (sink : Listener σ) : Listener (Recorded σ) where
  line text := Scene.noting (.line text) (sink.line text)
  flush := Scene.noting .flush sink.flush

@[simp] theorem Listener.line_recorded {σ : Type} (sink : Listener σ) (text : String)
    (s : Scene σ) (past : List Moment) :
    sink.recorded.line text (s.withRecord past) =
      (sink.line text s).withRecord (past ++ [(sink.line text s).moment (.line text)]) := rfl

@[simp] theorem Listener.flush_recorded {σ : Type} (sink : Listener σ) (s : Scene σ)
    (past : List Moment) :
    sink.recorded.flush (s.withRecord past) =
      (sink.flush s).withRecord (past ++ [(sink.flush s).moment .flush]) := rfl

def Report.withRecord {σ α : Type} (r : Report σ α) (moments : List Moment) :
    Report (Recorded σ) α :=
  ⟨r.result, r.connects, r.calls, r.events, r.scene.withRecord moments⟩

namespace Operation

variable {σ α : Type}

/-- An operation that notes its steps. The work of an attempt is one step, which lasts until the
answer has been handed on. -/
def recorded (op : Operation σ α) : Operation (Recorded σ) α where
  description := op.description
  start := Scene.noting .connect op.start
  connect s :=
    let (ending, t) := op.connect s.erase
    (ending, t.withRecord (s.world.moments ++ [t.moment .work]))
  onSuccess r s :=
    let (ending, t) := op.onSuccess r s.erase
    (ending, t.withRecord (s.world.moments.dropLast ++ [t.moment .work]))

def timeline (op : Operation σ α) (policy : Policy) (clock : Clock) (sink : Listener σ)
    (s : Scene σ) : List Moment :=
  (op.recorded.run policy clock sink.recorded (s.withRecord [])).scene.world.moments

/-- The moments of an attempt. Work that the pool does not take is none. -/
def moments (op : Operation σ α) (s : Scene σ) : List Moment :=
  (op.start s).moment .connect ::
    if (op.start s).cancelled || (op.start s).down then []
    else [(op.work (op.start s)).2.moment .work]

@[simp] theorem description_recorded (op : Operation σ α) :
    op.recorded.description = op.description := rfl

@[simp] theorem notice_recorded (op : Operation σ α) (e : OperationError) :
    op.recorded.notice e = op.notice e := rfl

@[simp] theorem completion_recorded (op : Operation σ α) (number : Nat) :
    op.recorded.completion number = op.completion number := rfl

@[simp] theorem settle_recorded (op : Operation σ α)
    (outcome : Except PoolFault (Except OperationError α)) :
    op.recorded.settle outcome = op.settle outcome := rfl

theorem work_recorded (op : Operation σ α) (s : Scene σ) (past : List Moment) :
    op.recorded.work (s.withRecord past) =
      ((op.work s).1, (op.work s).2.withRecord (past ++ [(op.work s).2.moment .work])) := by
  rcases hc : op.connect s with ⟨(e | r) | _ | _, t⟩
  case ready.ok =>
    by_cases hs : isSuccess r.status
    · rcases hh : op.onSuccess r t with ⟨_ | _ | _, u⟩ <;> simp [work, recorded, hc, hs, hh]
    · simp [work, recorded, hc, hs, refusal]
  all_goals simp [work, recorded, hc]

theorem attempt_recorded (op : Operation σ α) (limit : Span) (s : Scene σ)
    (past : List Moment) :
    op.recorded.attempt limit (s.withRecord past) =
      ((op.attempt limit s).1, (op.attempt limit s).2.withRecord (past ++ op.moments s)) := by
  have hstart : op.recorded.start (s.withRecord past) =
      (op.start s).withRecord (past ++ [(op.start s).moment .connect]) := rfl
  rw [attempt_eq, attempt_eq op, hstart, work_recorded]
  cases hc : (op.start s).cancelled with
  | true => simp [moments, hc]
  | false =>
    cases hd : (op.start s).down with
    | true => simp [moments, hc, hd]
    | false => simp [moments, hc, hd]

/-- The rounds of a run: the moments they take and the report they come to. -/
inductive Rounds (op : Operation σ α) (policy : Policy) (clock : Clock) (sink : Listener σ) :
    (left number : Nat) → Scene σ → List Moment → Report σ α → Prop where
  | cancelled {left number s} (h : s.cancelled = true) :
      Rounds op policy clock sink left number s [] (.plain (.error (.cancelled op.description)) s)
  | completed {left number s value t} (h : s.cancelled = false)
      (ha : op.attempt (policy.timeout (clock.begun number)) s = (.ok value, t)) :
      Rounds op policy clock sink left number s
        (op.moments s ++ [(sink.line (op.completion number) t).moment
          (.line (op.completion number)),
          (sink.flush (sink.line (op.completion number) t)).moment .flush])
        (op.completed sink number value t)
  | stopped {left number s e t event} (h : s.cancelled = false)
      (ha : op.attempt (policy.timeout (clock.begun number)) s = (.error e, t))
      (hstop : policy.stopAfter (clock.failed number) left number e = some event) :
      Rounds op policy clock sink left number s (op.moments s)
        ((Report.plain (.error e) t).after [] [event])
  | retried {left number s e t tail r} (h : s.cancelled = false)
      (ha : op.attempt (policy.timeout (clock.begun number)) s = (.error e, t))
      (hgo : policy.stopAfter (clock.failed number) (left + 1) number e = none)
      (next : Rounds op policy clock sink left (number + 1) (sink.line (op.notice e) t) tail r) :
      Rounds op policy clock sink (left + 1) number s
        (op.moments s ++ (sink.line (op.notice e) t).moment (.line (op.notice e)) :: tail)
        (r.after [.line (op.notice e)] [.retrying number (policy.backoff (.ofNat number))])

/-- The run of a recorded operation is the run of the operation itself, with its rounds on
record. -/
theorem runFrom_recorded (op : Operation σ α) (policy : Policy) (clock : Clock)
    (sink : Listener σ) (left number : Nat) (s : Scene σ) (past : List Moment) :
    ∃ tail, op.Rounds policy clock sink left number s tail
        (op.runFrom policy clock sink left number s) ∧
      op.recorded.runFrom policy clock sink.recorded left number (s.withRecord past) =
        (op.runFrom policy clock sink left number s).withRecord (past ++ tail) := by
  -- what is on record before the round only moves to the front of what the rest of the run records
  induction left using Nat.strongRecOn generalizing number s past with
  | ind left ih =>
    rw [runFrom_eq op, runFrom_eq op.recorded, attempt_recorded, Scene.cancelled_withRecord]
    cases hs : s.cancelled with
    | true => exact ⟨[], .cancelled hs, by simp [Report.withRecord, Report.plain]⟩
    | false =>
      rcases ha : op.attempt (policy.timeout (clock.begun number)) s with ⟨e | value, t⟩
      · cases hstop : policy.stopAfter (clock.failed number) left number e with
        | some event =>
          refine ⟨op.moments s, ?_, ?_⟩
          · simpa [hstop] using Rounds.stopped hs ha hstop
          · simp [hstop, Report.withRecord, Report.plain, Report.after]
        | none =>
          obtain ⟨-, k, rfl⟩ := Policy.stopAfter_eq_none hstop
          obtain ⟨tail, hrounds, hrun⟩ := ih k (Nat.lt_succ_self k) (number + 1)
            (sink.line (op.notice e) t)
            (past ++ op.moments s ++ [(sink.line (op.notice e) t).moment (.line (op.notice e))])
          refine ⟨op.moments s ++
            (sink.line (op.notice e) t).moment (.line (op.notice e)) :: tail, ?_, ?_⟩
          · simpa [hstop] using Rounds.retried hs ha hstop hrounds
          · rw [List.append_assoc] at hrun
            simp [hstop, hrun, Report.withRecord, Report.after]
      · refine ⟨op.moments s ++ [(sink.line (op.completion number) t).moment
          (.line (op.completion number)),
          (sink.flush (sink.line (op.completion number) t)).moment .flush], ?_, ?_⟩
        · simpa using Rounds.completed hs ha
        · simp [completed, Report.withRecord, Report.plain, Report.after]

theorem rounds_timeline (op : Operation σ α) (policy : Policy) (clock : Clock)
    (sink : Listener σ) (s : Scene σ) :
    op.Rounds policy clock sink (policy.attempts.toNat - 1) 1 s
      (op.timeline policy clock sink s) (op.run policy clock sink s) := by
  obtain ⟨tail, hrounds, hrun⟩ :=
    op.runFrom_recorded policy clock sink (policy.attempts.toNat - 1) 1 s []
  have htail : op.timeline policy clock sink s = tail := by
    change (op.recorded.runFrom policy clock sink.recorded _ _ _).scene.world.moments = tail
    rw [hrun]
    rfl
  rw [htail]
  exact hrounds

theorem filterMap_call_moments (op : Operation σ α) (s : Scene σ) :
    (op.moments s).filterMap Moment.call? = [] := by
  simp only [moments]
  split <;> rfl

theorem countP_connect_moments (op : Operation σ α) (s : Scene σ) :
    (op.moments s).countP (fun m => m.step = .connect) = 1 := by
  simp only [moments]
  split <;> rfl

/-- The moments of a run hold the calls on the sink that its report tells of. -/
theorem Rounds.calls_eq {op : Operation σ α} {policy : Policy} {clock : Clock}
    {sink : Listener σ} {left number : Nat} {s : Scene σ} {tail : List Moment} {r : Report σ α}
    (h : op.Rounds policy clock sink left number s tail r) :
    tail.filterMap Moment.call? = r.calls := by
  induction h with
  | cancelled h => rfl
  | completed h ha =>
    rw [List.filterMap_append, filterMap_call_moments]
    rfl
  | stopped h ha hstop => exact filterMap_call_moments op _
  | retried h ha hgo next ih =>
    rw [List.filterMap_append, filterMap_call_moments, List.filterMap_cons, ih]
    rfl

theorem Rounds.connects_eq {op : Operation σ α} {policy : Policy} {clock : Clock}
    {sink : Listener σ} {left number : Nat} {s : Scene σ} {tail : List Moment} {r : Report σ α}
    (h : op.Rounds policy clock sink left number s tail r) :
    tail.countP (fun m => m.step = .connect) = r.connects := by
  induction h with
  | cancelled h => rfl
  | completed h ha =>
    rw [List.countP_append, countP_connect_moments]
    rfl
  | stopped h ha hstop => exact countP_connect_moments op _
  | retried h ha hgo next ih =>
    rw [List.countP_append, countP_connect_moments, List.countP_cons, ih]
    simp [Scene.moment, Report.after, Nat.add_comm]

end Operation
end BlobDepot
