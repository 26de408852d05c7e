import BlobDepot.Proofs.Transfer.Timeline
import BlobDepot.Transfer.Script

/-!
# Interrupted runs

Once the token is cancelled or the pool shut down, a run comes to its end. On the timeline of a run
nothing follows the step that left the token cancelled, but for the flush after the line that tells
of success. After a step that left the pool shut down there is at most one more connection, and the
pool refuses its work.
-/
namespace BlobDepot

/-- The result of an operation that was interrupted, and by what. -/
def IsInterrupted {α : Type} (result : Except OperationError α) (failure : Failure) : Prop :=
  ∃ e, result = .error e ∧ e.failure = failure ∧ e.wasInterrupted = true

theorem isInterrupted_cancelled {α : Type} (description : String) :
    IsInterrupted (.error (.cancelled description) : Except OperationError α) .cancelled :=
  ⟨_, rfl, rfl, rfl⟩

theorem isInterrupted_shutdown {α : Type} (description : String) :
    IsInterrupted (.error ⟨description, .pool .shutdown⟩ : Except OperationError α)
      (.pool .shutdown) :=
  ⟨_, rfl, rfl, rfl⟩

/-- A connection that finds the pool shut down is the last step of a run, and the pool refused
its work. -/
def IsRefused {α : Type} (result : Except OperationError α) (m : Moment) (rest : List Moment) :
    Prop :=
  m.step = .connect → rest = [] ∧ (m.cancelled = false → IsInterrupted result (.pool .shutdown))

/-- What may follow once the pool is shut down: at most one connection, and nothing after it. -/
structure IsWindingUp {α : Type} (result : Except OperationError α) (tail : List Moment) :
    Prop where
  connects_le : tail.countP (fun m => m.step = .connect) ≤ 1
  refused {m rest} : m :: rest <:+ tail → IsRefused result m rest

theorem IsWindingUp.of_forall_ne {α : Type} (result : Except OperationError α)
    {tail : List Moment} (h : ∀ m ∈ tail, m.step ≠ .connect) : IsWindingUp result tail where
  connects_le := by
    have hzero : tail.countP (fun m => m.step = .connect) = 0 :=
      List.countP_eq_zero.2 fun m hm => by simpa using h m hm
    omega
  refused hm hstep := absurd hstep (h _ (hm.subset List.mem_cons_self))

theorem IsWindingUp.of_suffix {α : Type} {result : Except OperationError α}
    {tail rest : List Moment} (h : IsWindingUp result tail) (hrest : rest <:+ tail) :
    IsWindingUp result rest where
  connects_le := Nat.le_trans (hrest.sublist.countP_le) h.connects_le
  refused hm := h.refused (hm.trans hrest)

theorem IsWindingUp.cons {α : Type} {result : Except OperationError α} {tail : List Moment}
    (h : IsWindingUp result tail) {m : Moment} (hm : m.step ≠ .connect) :
    IsWindingUp result (m :: tail) where
  connects_le := by simpa [hm] using h.connects_le
  refused hsuffix hstep := by
    rcases List.suffix_cons_iff.1 hsuffix with heq | htail
    · obtain ⟨rfl, -⟩ := List.cons.inj heq
      exact absurd hstep hm
    · exact h.refused htail hstep

/-- What may follow a step that left the token cancelled: nothing, but for the flush after the line
that tells of success. -/
structure Operation.IsCutOff {σ α : Type} (op : Operation σ α)
    (result : Except OperationError α) (m : Moment) (rest : List Moment) : Prop where
  interrupted : (∀ number, m.step ≠ .line (op.completion number)) → m.step ≠ .flush →
    rest = [] ∧ IsInterrupted result .cancelled
  completed {number} : m.step = .line (op.completion number) →
    ∃ last value, rest = [last] ∧ last.step = .flush ∧ result = .ok value
  flushed : m.step = .flush → rest = [] ∧ ∃ value, result = .ok value

/-- A pool that was shut down stays so while an attempt starts and while the sink gets a line. -/
structure Operation.KeepsDown {σ α : Type} (op : Operation σ α) (sink : Listener σ) : Prop where
  start {s} : s.down = true → (op.start s).down = true
  line {s} (text : String) : s.down = true → (sink.line text s).down = true

/-- A moment stands in a first part of a timeline with what is left of it, or else in the second. -/
theorem cons_suffix_append {m : Moment} {rest first second : List Moment}
    (h : m :: rest <:+ first ++ second) :
    (∃ more, rest = more ++ second ∧ m :: more <:+ first) ∨ m :: rest <:+ second := by
  induction first with
  | nil => exact .inr h
  | cons a first ih =>
    rcases List.suffix_cons_iff.1 h with heq | hsuffix
    · obtain ⟨rfl, rfl⟩ := List.cons.inj heq
      exact .inl ⟨first, rfl, List.suffix_rfl⟩
    · rcases ih hsuffix with ⟨more, hmore, hm⟩ | hm
      · exact .inl ⟨more, hmore, List.suffix_cons_iff.2 (.inr hm)⟩
      · exact .inr hm

namespace Operation

variable {σ α : Type}

/-! ## The two kinds of lines -/

private theorem retrying_append_ne (d y z : List Char) :
    "Retrying ".toList ++ (d ++ (' ' :: 'a' :: y)) ≠ d ++ (' ' :: 'c' :: z) := by
  induction hn : d.length using Nat.strongRecOn generalizing d with
  | ind n ih =>
    intro heq
    rcases List.append_eq_append_iff.1 heq with ⟨as, rfl, has⟩ | ⟨bs, hd, hbs⟩
    · have hlt : as.length < n := by
        rw [← hn, List.length_append]
        exact Nat.lt_add_of_pos_left (by decide)
      exact ih as.length hlt as rfl (by rw [← List.append_assoc, has])
    · -- The text ends within "Retrying ", so the "c" that follows it would stand there.
      have hc : 'c' ∉ d ++ bs := by
        rw [← hd]
        decide
      rcases bs with _ | ⟨b, _ | ⟨b', bs⟩⟩
      · rw [List.append_nil] at hd
        simp [← hd] at hbs
      · rcases d with _ | ⟨a, d⟩
        · simp at hd
        · simp only [List.cons_append, List.nil_append, List.cons.injEq] at hbs
          exact hc (hbs.2.1 ▸ List.mem_append_left _ List.mem_cons_self)
      · simp only [List.cons_append, List.cons.injEq] at hbs
        exact hc (hbs.2.1 ▸ by simp)

/-- The line that tells of success is no notice of a failure, whatever the operation is called. -/
theorem completion_ne_notice (op : Operation σ α) (number : Nat) (e : OperationError) :
    op.completion number ≠ op.notice e := by
  intro h
  refine retrying_append_ne op.description.toList ("fter: ".toList ++ e.message.toList)
    ("ompleted after ".toList ++ (toString number).toList ++ " attempt(s)".toList) ?_
  have hlist := congrArg String.toList h
  simp only [completion, notice, String.toList_append, List.append_assoc] at hlist
  exact hlist.symm

/-! ## Cancellation -/

section Moments

variable {op : Operation σ α} {limit : Span} {s t : Scene σ} {m : Moment} {rest : List Moment}
  {result : Except OperationError α}

/-- A moment of an attempt is its connection, with the work after it if the pool takes it, or else
it is that work. -/
theorem cons_suffix_moments (h : m :: rest <:+ op.moments s) :
    m = (op.start s).moment .connect ∧
        (rest = if (op.start s).cancelled || (op.start s).down then []
          else [(op.work (op.start s)).2.moment .work]) ∨
      (op.start s).cancelled = false ∧ (op.start s).down = false ∧
        m = (op.work (op.start s)).2.moment .work ∧ rest = [] := by
  rcases List.suffix_cons_iff.1 h with heq | hsuffix
  · exact .inl (List.cons.inj heq)
  · cases hc : (op.start s).cancelled with
    | true => simp [hc] at hsuffix
    | false =>
      cases hd : (op.start s).down with
      | true => simp [hc, hd] at hsuffix
      | false =>
        simp only [hc, hd, Bool.or_self, Bool.false_eq_true, ↓reduceIte] at hsuffix
        rcases List.suffix_cons_iff.1 hsuffix with heq | hnil
        · exact .inr ⟨rfl, rfl, List.cons.inj heq⟩
        · simp at hnil

theorem step_of_cons_suffix_moments (h : m :: rest <:+ op.moments s) :
    m.step = .connect ∨ m.step = .work := by
  rcases cons_suffix_moments h with ⟨rfl, -⟩ | ⟨-, -, rfl, -⟩
  · exact .inl rfl
  · exact .inr rfl

theorem eq_nil_of_cancelled_moment (h : m :: rest <:+ op.moments s) (hm : m.cancelled = true)
    (ha : op.attempt limit s = (result, t)) :
    rest = [] ∧ result = .error (.cancelled op.description) := by
  have hresult : (op.attempt limit s).1 = result := congrArg Prod.fst ha
  rw [← hresult, attempt_eq]
  rcases cons_suffix_moments h with ⟨rfl, rfl⟩ | ⟨hlive, hup, rfl, rfl⟩
  · have hc : (op.start s).cancelled = true := hm
    simp [hc]
  · have hc : (op.work (op.start s)).2.cancelled = true := hm
    simp [hlive, hup, hc]

theorem moments_of_down (h : (op.start s).down = true) :
    op.moments s = [(op.start s).moment .connect] := by
  simp [moments, h]

theorem attempt_of_down (h : (op.start s).down = true) (limit : Span) :
    op.attempt limit s =
      (.error (if (op.start s).cancelled then .cancelled op.description
        else ⟨op.description, .pool .shutdown⟩), op.start s) := by
  rw [attempt_eq, if_pos h]
  split <;> rfl

/-- A pool that is shut down in an attempt either refuses its work or took it before. -/
theorem down_of_down_moment (h : m :: rest <:+ op.moments s) (hm : m.down = true)
    (ha : op.attempt limit s = (result, t)) :
    (op.start s).down = true ∧ m = (op.start s).moment .connect ∨
      m.step = .work ∧ rest = [] ∧ t.down = true := by
  have hscene : (op.attempt limit s).2 = t := congrArg Prod.snd ha
  rcases cons_suffix_moments h with ⟨rfl, -⟩ | ⟨hlive, hup, rfl, rfl⟩
  · exact .inl ⟨hm, rfl⟩
  · rw [← hscene, attempt_eq, hlive, hup]
    exact .inr ⟨rfl, rfl, hm⟩

theorem stopAfter_attempt_of_down {policy : Policy} {elapsed : Span} {left number : Nat}
    {e : OperationError} {t : Scene σ} (h : (op.start s).down = true) (limit : Span)
    (ha : op.attempt limit s = (.error e, t)) : policy.stopAfter elapsed left number e ≠ none := by
  rw [attempt_of_down h] at ha
  obtain ⟨he, -⟩ := Prod.mk.inj ha
  intro hgo
  have htransient := (Policy.stopAfter_eq_none hgo).1
  rw [← Except.error.inj he] at htransient
  split at htransient <;> cases htransient

theorem isWindingUp_moments_of_down {e : OperationError} {t : Scene σ}
    (h : (op.start s).down = true) (limit : Span) (ha : op.attempt limit s = (.error e, t)) :
    IsWindingUp (.error e : Except OperationError α) (op.moments s) := by
  rw [moments_of_down h]
  refine ⟨by simp [Scene.moment], fun hm _ => ?_⟩
  rcases List.suffix_cons_iff.1 hm with heq | hnil
  · obtain ⟨rfl, rfl⟩ := List.cons.inj heq
    refine ⟨rfl, fun hlive => ?_⟩
    have hlive' : (op.start s).cancelled = false := hlive
    rw [attempt_of_down h, hlive'] at ha
    rw [← (Prod.mk.inj ha).1]
    exact isInterrupted_shutdown op.description
  · simp at hnil

end Moments

section Rounds

variable {op : Operation σ α} {policy : Policy} {clock : Clock} {sink : Listener σ}
  {left number : Nat} {s : Scene σ} {tail : List Moment} {r : Report σ α} {m : Moment}
  {rest : List Moment}

theorem Rounds.of_cancelled (h : op.Rounds policy clock sink left number s tail r)
    (hs : s.cancelled = true) :
    tail = [] ∧ r.result = .error (.cancelled op.description) := by
  cases h with
  | cancelled _ => exact ⟨rfl, rfl⟩
  | completed h _ => simp [hs] at h
  | stopped h _ _ => simp [hs] at h
  | retried h _ _ _ => simp [hs] at h

/-- Nothing but the flush after a success follows a step that left the token cancelled. -/
theorem Rounds.isCutOff (h : op.Rounds policy clock sink left number s tail r)
    (hm : m :: rest <:+ tail) (hc : m.cancelled = true) : op.IsCutOff r.result m rest := by
  induction h with
  | cancelled h => simp at hm
  | completed h ha =>
    rcases cons_suffix_append hm with ⟨more, -, hfirst⟩ | hsecond
    · cases (eq_nil_of_cancelled_moment hfirst hc ha).2
    · rcases List.suffix_cons_iff.1 hsecond with heq | hflush
      · obtain ⟨rfl, rfl⟩ := List.cons.inj heq
        exact ⟨fun hne => absurd rfl (hne _), fun _ => ⟨_, _, rfl, rfl, rfl⟩, nofun⟩
      · rcases List.suffix_cons_iff.1 hflush with heq | hnil
        · obtain ⟨rfl, rfl⟩ := List.cons.inj heq
          exact ⟨fun _ hne => absurd rfl hne, nofun, fun _ => ⟨rfl, _, rfl⟩⟩
        · simp at hnil
  | stopped h ha hstop =>
    obtain ⟨hrest, hattempt⟩ := eq_nil_of_cancelled_moment hm hc ha
    have hresult : _ = OperationError.cancelled op.description := Except.error.inj hattempt
    have hstep := step_of_cons_suffix_moments hm
    refine ⟨fun _ _ => ⟨hrest, ?_⟩, ?_, ?_⟩
    · rw [hresult]
      exact isInterrupted_cancelled op.description
    · intro number hline
      rw [hline] at hstep
      simp at hstep
    · intro hflush
      rw [hflush] at hstep
      simp at hstep
  | retried h ha hgo next ih =>
    -- the moment is one of this attempt, which would then not be tried again, or comes after it
    rcases cons_suffix_append hm with ⟨more, -, hfirst⟩ | hsecond
    · cases Except.error.inj (eq_nil_of_cancelled_moment hfirst hc ha).2
      cases (Policy.stopAfter_eq_none hgo).1
    · rcases List.suffix_cons_iff.1 hsecond with heq | htail
      · obtain ⟨rfl, rfl⟩ := List.cons.inj heq
        obtain ⟨htail, hresult⟩ := next.of_cancelled hc
        refine ⟨fun _ _ => ⟨htail, ?_⟩, ?_, nofun⟩
        · rw [Report.result_after, hresult]
          exact isInterrupted_cancelled op.description
        · intro number hline
          exact absurd (RunStep.line.inj hline).symm (completion_ne_notice op number _)
      · exact ih htail

/-- A run that begins with the pool shut down connects at most once. -/
theorem Rounds.of_down (h : op.Rounds policy clock sink left number s tail r)
    (hkeep : op.KeepsDown sink) (hs : s.down = true) : IsWindingUp r.result tail := by
  have hstart := hkeep.start hs
  cases h with
  | cancelled h => exact .of_forall_ne _ (by simp)
  | completed h ha =>
    rw [attempt_of_down hstart] at ha
    cases ha
  | stopped h ha hstop => exact isWindingUp_moments_of_down hstart _ ha
  | retried h ha hgo next => exact absurd hgo (stopAfter_attempt_of_down hstart _ ha)

/-- Once the pool is shut down, a run connects at most once more, and the pool refuses its work. -/
theorem Rounds.isWindingUp (h : op.Rounds policy clock sink left number s tail r)
    (hkeep : op.KeepsDown sink) (hm : m :: rest <:+ tail) (hd : m.down = true) :
    IsRefused r.result m rest ∧ IsWindingUp r.result rest := by
  induction h with
  | cancelled h => simp at hm
  | completed h ha =>
    rcases cons_suffix_append hm with ⟨more, rfl, hfirst⟩ | hsecond
    · rcases down_of_down_moment hfirst hd ha with ⟨hstart, -⟩ | ⟨hwork, rfl, -⟩
      · rw [attempt_of_down hstart] at ha
        cases ha
      · refine ⟨fun hconnect => ?_, .of_forall_ne _ (by simp [Scene.moment])⟩
        rw [hwork] at hconnect
        cases hconnect
    · have hne : ∀ x ∈ m :: rest, x.step ≠ .connect := fun x hx => by
        have hx' := hsecond.subset hx
        simp only [List.mem_cons, List.not_mem_nil, or_false] at hx'
        rcases hx' with rfl | rfl <;> simp [Scene.moment]
      exact ⟨fun hconnect => absurd hconnect (hne m List.mem_cons_self),
        .of_forall_ne _ fun x hx => hne x (List.mem_cons_of_mem _ hx)⟩
  | stopped h ha hstop =>
    rcases down_of_down_moment hm hd ha with ⟨hstart, -⟩ | ⟨hwork, rfl, -⟩
    · have hup := isWindingUp_moments_of_down hstart _ ha
      exact ⟨hup.refused hm, hup.of_suffix ((List.suffix_cons m rest).trans hm)⟩
    · refine ⟨fun hconnect => ?_, .of_forall_ne _ (by simp)⟩
      rw [hwork] at hconnect
      cases hconnect
  | retried h ha hgo next ih =>
    rcases cons_suffix_append hm with ⟨more, rfl, hfirst⟩ | hsecond
    · rcases down_of_down_moment hfirst hd ha with ⟨hstart, -⟩ | ⟨hwork, rfl, ht⟩
      · exact absurd hgo (stopAfter_attempt_of_down hstart _ ha)
      · have htail := next.of_down hkeep (hkeep.line _ ht)
        refine ⟨fun hconnect => ?_, htail.cons (by simp [Scene.moment])⟩
        rw [hwork] at hconnect
        cases hconnect
    · rcases List.suffix_cons_iff.1 hsecond with heq | htail
      · obtain ⟨rfl, rfl⟩ := List.cons.inj heq
        exact ⟨fun hconnect => (by cases hconnect), next.of_down hkeep hd⟩
      · exact ih htail

end Rounds

/-- Interruption stops a run. The timeline holds the calls of its report. A token that was cancelled
before the run began lets nothing happen, and after the step that left it cancelled nothing follows
but the flush after the line that tells of success; but for that the run fails as cancelled. A pool
that was shut down before the run or in one of its steps lets at most one more connection follow,
which ends the run as refused unless the token is cancelled too. -/
theorem timeline_of_interrupted (op : Operation σ α) (policy : Policy) (clock : Clock)
    (sink : Listener σ) (s : Scene σ) :
    (op.timeline policy clock sink s).countP (fun m => m.step = .connect) =
        (op.run policy clock sink s).connects ∧
      (op.timeline policy clock sink s).filterMap Moment.call? =
        (op.run policy clock sink s).calls ∧
      (s.cancelled = true → op.timeline policy clock sink s = [] ∧
        IsInterrupted (op.run policy clock sink s).result .cancelled) ∧
      (∀ m rest, m :: rest <:+ op.timeline policy clock sink s → m.cancelled = true →
        op.IsCutOff (op.run policy clock sink s).result m rest) ∧
      (op.KeepsDown sink →
        (s.down = true →
          IsWindingUp (op.run policy clock sink s).result (op.timeline policy clock sink s)) ∧
        ∀ m rest, m :: rest <:+ op.timeline policy clock sink s → m.down = true →
          IsRefused (op.run policy clock sink s).result m rest ∧
            IsWindingUp (op.run policy clock sink s).result rest) := by
  have h := op.rounds_timeline policy clock sink s
  refine ⟨h.connects_eq, h.calls_eq, fun hs => ?_, fun m rest => h.isCutOff,
    fun hkeep => ⟨h.of_down hkeep, fun m rest => h.isWindingUp hkeep⟩⟩
  obtain ⟨htail, hresult⟩ := h.of_cancelled hs
  refine ⟨htail, ?_⟩
  rw [hresult]
  exact isInterrupted_cancelled op.description

/-- A token that the sink cancels with its first line, and a pool that is shut down in the first
attempt. -/
theorem timeline_of_interrupted_second :
    let op := Script.operation "upload"
    let busy : ScriptedAttempt := { response := ⟨503, "Busy", .whole []⟩ }
    let cancelling : Scene Script := ⟨.ofList [busy], false, false⟩
    let closing : Scene Script := ⟨.ofList [{ busy with connecting := [.shutDown] }], false, false⟩
    IsInterrupted (op.run {} {} (Script.listener (some 1)) cancelling).result .cancelled ∧
      IsInterrupted (op.run {} {} (Script.listener none) closing).result (.pool .shutdown) := by
  intro op busy cancelling closing
  obtain ⟨-, -, -, hcut, -⟩ :=
    timeline_of_interrupted op {} {} (Script.listener (some 1)) cancelling
  obtain ⟨-, -, -, -, hdown⟩ := timeline_of_interrupted op {} {} (Script.listener none) closing
  have hkeep : op.KeepsDown (Script.listener none) := ⟨fun h => h, fun _ h => h⟩
  constructor
  · have hline := hcut ⟨.line (op.notice (op.refusal busy.response)), true, false⟩ []
      ⟨_, rfl⟩ rfl
    refine (hline.interrupted (fun number heq => ?_) nofun).2
    exact completion_ne_notice op number _ (RunStep.line.inj heq).symm
  · have hconnect := (hdown hkeep).2 ⟨.connect, false, true⟩ [] ⟨_, rfl⟩ rfl
    exact (hconnect.1 rfl).2 rfl

end Operation
end BlobDepot
