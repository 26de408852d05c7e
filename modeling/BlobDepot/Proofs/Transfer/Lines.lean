import BlobDepot.Proofs.LineFeed
import BlobDepot.Proofs.Transfer.Attempts
import BlobDepot.Proofs.Transfer.Timeline
import BlobDepot.Transfer.Script
import BlobDepot.Transfer.Sink

/-!
# Lines of a run

A run hands its sink a notice of each failure that is tried again, and a line that tells of success.
A notice quotes what the server sent. Line feeds in it go through to the sink, where one notice then
takes several lines.
-/
namespace BlobDepot

open Text (IsOneLine)

variable {σ α : Type}

/-! ## Messages -/

theorem isOneLine_truncate_iff {body : List UInt8} {limit : Nat} :
    IsOneLine (truncate body limit) ↔ 0x0A ∉ body.take limit := by
  have hdots : IsOneLine "..." := by decide
  rw [truncate]
  split
  · rw [Text.isOneLine_append, Text.Utf8.isOneLine_decode_iff, and_iff_left hdots]
  · exact Text.Utf8.isOneLine_decode_iff

theorem OperationError.isOneLine_message_status_iff {description reason body : String} {code : Nat}
    (h : IsOneLine description) :
    IsOneLine (message ⟨description, .status code reason body⟩) ↔
      IsOneLine reason ∧ IsOneLine body := by
  have hhttp : IsOneLine " failed with HTTP " := by decide
  have hblank : IsOneLine " " := by decide
  have hcolon : IsOneLine ": " := by decide
  simp only [message, Text.isOneLine_append, h, hhttp, hblank, hcolon, Text.isOneLine_toString,
    true_and, and_true]

/-- What an attempt says of its failure is one line, unless it quotes an answer with line feeds. -/
theorem Outcome.isOneLine_message_iff {o : Outcome α} {description : String} {limit : Span}
    {e : OperationError} (hdescription : IsOneLine description)
    (hfailed : ∀ e, o = .failed e → IsOneLine e.message)
    (hhandled : ∀ e, o = .handled (.error e) → IsOneLine e.message)
    (h : o.result description limit = .error e) :
    IsOneLine e.message ↔ ∀ resp, o = .refused resp →
      IsOneLine resp.reason ∧ 0x0A ∉ resp.body.bytes.take 1024 := by
  cases o with
  | handled result =>
    obtain rfl : result = .error e := h
    exact iff_of_true (hhandled e rfl) nofun
  | failed e' =>
    obtain rfl : e' = e := Except.error.inj h
    exact iff_of_true (hfailed e' rfl) nofun
  | refused resp =>
    obtain rfl := Except.error.inj h
    rw [OperationError.isOneLine_message_status_iff hdescription, isOneLine_truncate_iff]
    simp
  | panicked =>
    obtain rfl := Except.error.inj h
    refine iff_of_true ?_ nofun
    exact Text.isOneLine_append.2 ⟨Text.isOneLine_append.2 ⟨hdescription, by decide⟩, by decide⟩
  | hung =>
    obtain rfl := Except.error.inj h
    refine iff_of_true ?_ nofun
    exact Text.isOneLine_append.2
      ⟨Text.isOneLine_append.2 ⟨hdescription, by decide⟩, limit.isOneLine_render⟩

/-! ## Failures that are tried again -/

theorem Policy.stopAfter_ne_retrying {p : Policy} {elapsed wait : Span} {left number k : Nat}
    {e : OperationError} : p.stopAfter elapsed left number e ≠ some (.retrying k wait) := by
  cases hclass : e.failureClass with
  | cancelled => simp [stopAfter, hclass]
  | client => simp [stopAfter, hclass]
  | transient => cases left <;> simp [stopAfter, hclass]

namespace Operation

variable {op : Operation σ α} {policy : Policy} {clock : Clock} {sink : Listener σ}
  {left number : Nat} {elapsed : Span} {s t : Scene σ} {e : OperationError}

theorem settle_cases (op : Operation σ α) (hlive : t.cancelled = false) (limit : Span)
    (o : Outcome α) :
    op.settle (t.outcome limit (o.ending op.description)) = o.result op.description limit ∨
      op.settle (t.outcome limit (o.ending op.description)) =
        .error ⟨op.description, .pool .shutdown⟩ := by
  cases hdown : t.down with
  | false => exact .inl (settle_outcome_ending op ⟨hlive, hdown⟩ limit o)
  | true =>
    cases o with
    | hung => exact .inr (by simp [Outcome.ending, Scene.outcome, settle, hlive, hdown])
    | refused resp =>
      exact .inl (by simp [Outcome.ending, Scene.outcome, settle, Outcome.result,
        Body.shown_eq_truncate, shownBytes])
    | handled result => exact .inl rfl
    | failed e => exact .inl rfl
    | panicked => exact .inl rfl

theorem attempt_cases (op : Operation σ α) (limit : Span) (s : Scene σ) :
    (op.attempt limit s).1 = .error (.cancelled op.description) ∨
      (op.attempt limit s).1 = .error ⟨op.description, .pool .shutdown⟩ ∨
      op.attempt limit s = ((op.outcome s).1.result op.description limit, (op.outcome s).2) := by
  rw [attempt_eq, work_start]
  split
  · exact .inl rfl
  split
  · exact .inr (.inl rfl)
  cases hlive : (op.outcome s).2.cancelled with
  | true => exact .inl (by rw [if_pos rfl])
  | false =>
    rw [if_neg Bool.false_ne_true]
    rcases settle_cases op hlive limit (op.outcome s).1 with hsettle | hsettle
    · exact .inr (.inr (by rw [hsettle]))
    · exact .inr (.inl hsettle)

theorem attempt_of_transient (ha : op.attempt (policy.timeout elapsed) s = (.error e, t))
    (htransient : e.failureClass = .transient) :
    op.resultIn (policy.patience elapsed) s = .error e ∧ (op.outcome s).2 = t := by
  have hne : ∀ {e' : OperationError}, e'.failureClass = .cancelled →
      (.error e : Except OperationError α) ≠ .error e' := by
    rintro e' hclass heq
    rw [← Except.error.inj heq, htransient] at hclass
    cases hclass
  rcases attempt_cases op (policy.timeout elapsed) s with h | h | h
  · rw [ha] at h
    exact absurd h (hne rfl)
  · rw [ha] at h
    exact absurd h (hne rfl)
  · rw [ha, policy.timeout_eq_patience] at h
    exact ⟨(Prod.mk.inj h).1.symm, (Prod.mk.inj h).2.symm⟩

/-- A report tells of failures after which the run goes on, from the attempt with a number on that
begins in a scene. They are what the attempts came to, one after the other; beyond them the sink
hears of success at most. -/
structure Retells (op : Operation σ α) (policy : Policy) (clock : Clock) (sink : Listener σ)
    (number : Nat) (s : Scene σ) (r : Report σ α) (failures : List OperationError) : Prop where
  results (k : Nat) (hk : k < failures.length) :
    op.resultIn (policy.patience (clock.begun (number + k)))
      (op.sceneFrom policy clock sink number s k) = .error failures[k]
  lines (text : String) : text ∈ r.lines →
    (∃ e ∈ failures, text = op.notice e) ∨ ∃ n, text = op.completion n
  notices (e : OperationError) : e ∈ failures → op.notice e ∈ r.lines
  events (k : Nat) : (∃ wait, .retrying k wait ∈ r.events) ↔
    ∃ n, n < failures.length ∧ k = number + n

/-- A round that ends the run tells of no failure to go on after. -/
theorem Retells.nil {r : Report σ α} (hlines : ∀ text ∈ r.lines, ∃ n, text = op.completion n)
    (hevents : ∀ k wait, .retrying k wait ∉ r.events) :
    op.Retells policy clock sink number s r [] where
  results _ hk := absurd hk (Nat.not_lt_zero _)
  lines text htext := .inr (hlines text htext)
  notices _ he := absurd he List.not_mem_nil
  events k := iff_of_false (fun ⟨wait, hmem⟩ => hevents k wait hmem)
    fun ⟨_, hlt, _⟩ => Nat.not_lt_zero _ hlt

theorem Retells.cons {r : Report σ α} {failures : List OperationError}
    (hresult : op.resultIn (policy.patience (clock.begun number)) s = .error e)
    (h : op.Retells policy clock sink (number + 1)
      (op.sceneAfter (policy.patience (clock.begun number)) sink s) r failures) :
    op.Retells policy clock sink number s
      (r.after [.line (op.notice e)] [.retrying number (policy.backoff (.ofNat number))])
      (e :: failures) := by
  have hlines : (r.after [.line (op.notice e)]
      [.retrying number (policy.backoff (.ofNat number))]).lines = op.notice e :: r.lines := rfl
  refine ⟨fun k hk => ?_, fun text htext => ?_, fun e' he' => ?_, fun k => ⟨?_, ?_⟩⟩
  · cases k with
    | zero => exact hresult
    | succ k =>
      have hnumber : number + 1 + k = number + (k + 1) := by omega
      have hrest := h.results k (Nat.lt_of_succ_lt_succ hk)
      rwa [hnumber] at hrest
  · rw [hlines] at htext
    rcases List.mem_cons.1 htext with rfl | htext
    · exact .inl ⟨e, List.mem_cons_self, rfl⟩
    · refine (h.lines text htext).imp_left ?_
      rintro ⟨e', he', rfl⟩
      exact ⟨e', List.mem_cons_of_mem e he', rfl⟩
  · rw [hlines]
    rcases List.mem_cons.1 he' with rfl | he'
    · exact List.mem_cons_self
    · exact List.mem_cons_of_mem _ (h.notices e' he')
  · rintro ⟨wait, hmem⟩
    rcases List.mem_cons.1 hmem with heq | hmem
    · cases heq
      exact ⟨0, Nat.succ_pos _, rfl⟩
    · obtain ⟨n, hn, rfl⟩ := (h.events k).1 ⟨wait, hmem⟩
      exact ⟨n + 1, Nat.succ_lt_succ hn, by omega⟩
  · rintro ⟨n, hn, rfl⟩
    cases n with
    | zero => exact ⟨_, List.mem_cons_self⟩
    | succ n =>
      obtain ⟨wait, hmem⟩ :=
        (h.events (number + (n + 1))).2 ⟨n, Nat.lt_of_succ_lt_succ hn, by omega⟩
      exact ⟨wait, List.mem_cons_of_mem _ hmem⟩

theorem Rounds.exists_retells {tail : List Moment} {r : Report σ α}
    (h : op.Rounds policy clock sink left number s tail r) :
    ∃ failures, op.Retells policy clock sink number s r failures := by
  induction h with
  | cancelled h => exact ⟨[], .nil nofun nofun⟩
  | @completed left number s value t h ha =>
    refine ⟨[], .nil (fun text htext => ⟨number, ?_⟩) nofun⟩
    exact List.mem_singleton.1 htext
  | @stopped left number s e t event h ha hstop =>
    refine ⟨[], .nil nofun fun k wait hmem => ?_⟩
    rw [← List.mem_singleton.1 hmem] at hstop
    exact Policy.stopAfter_ne_retrying hstop
  | @retried left number s e t tail r h ha hgo next ih =>
    obtain ⟨failures, hretells⟩ := ih
    obtain ⟨hresult, rfl⟩ := attempt_of_transient ha (Policy.stopAfter_eq_none hgo).1
    rw [← sceneAfter_of_error sink hresult] at hretells
    exact ⟨e :: failures, hretells.cons hresult⟩

/-- A run goes on after an attempt that came out so. -/
def Retries (op : Operation σ α) (policy : Policy) (clock : Clock) (sink : Listener σ)
    (s : Scene σ) (o : Outcome α) : Prop :=
  ∃ number wait, .retrying number wait ∈ (op.run policy clock sink s).events ∧
    (op.outcome (op.sceneAt policy clock sink s number)).1 = o

theorem Retells.retries_iff {failures : List OperationError} {o : Outcome α}
    (h : op.Retells policy clock sink 1 s (op.run policy clock sink s) failures) :
    op.Retries policy clock sink s o ↔ ∃ k, k < failures.length ∧
      (op.outcome (op.sceneFrom policy clock sink 1 s k)).1 = o := by
  constructor
  · rintro ⟨number, wait, hmem, ho⟩
    obtain ⟨k, hk, rfl⟩ := (h.events number).1 ⟨wait, hmem⟩
    rw [sceneAt, Nat.add_sub_cancel_left] at ho
    exact ⟨k, hk, ho⟩
  · rintro ⟨k, hk, ho⟩
    obtain ⟨wait, hmem⟩ := (h.events (1 + k)).2 ⟨k, hk, rfl⟩
    refine ⟨1 + k, wait, hmem, ?_⟩
    rwa [sceneAt, Nat.add_sub_cancel_left]

/-! ## Lines -/

theorem isOneLine_notice_iff (hdescription : IsOneLine op.description) :
    IsOneLine (op.notice e) ↔ IsOneLine e.message := by
  have hretrying : IsOneLine "Retrying " := by decide
  have hafter : IsOneLine " after: " := by decide
  simp only [notice, Text.isOneLine_append, hretrying, hafter, hdescription, true_and]

theorem isOneLine_completion (hdescription : IsOneLine op.description) (n : Nat) :
    IsOneLine (op.completion n) := by
  have hcompleted : IsOneLine " completed after " := by decide
  have hattempts : IsOneLine " attempt(s)" := by decide
  simp only [completion, Text.isOneLine_append, hcompleted, hattempts, hdescription,
    Text.isOneLine_toString, true_and]

theorem Retells.forall_isOneLine_iff {r : Report σ α} {failures : List OperationError}
    (h : op.Retells policy clock sink number s r failures)
    (hdescription : IsOneLine op.description) :
    (∀ text ∈ r.lines, IsOneLine text) ↔ ∀ e ∈ failures, IsOneLine e.message := by
  constructor
  · intro hlines e he
    exact (isOneLine_notice_iff hdescription).1 (hlines _ (h.notices e he))
  · intro hmessages text htext
    rcases h.lines text htext with ⟨e, he, rfl⟩ | ⟨n, rfl⟩
    · exact (isOneLine_notice_iff hdescription).2 (hmessages e he)
    · exact isOneLine_completion hdescription n

/-- The failures of a run read as single lines exactly if the answers they quote have no line feeds
where they are quoted. -/
theorem Retells.forall_message_iff {failures : List OperationError}
    (h : op.Retells policy clock sink 1 s (op.run policy clock sink s) failures)
    (hdescription : IsOneLine op.description)
    (hfailed : ∀ e, op.Retries policy clock sink s (.failed e) → IsOneLine e.message)
    (hhandled : ∀ e, op.Retries policy clock sink s (.handled (.error e)) → IsOneLine e.message) :
    (∀ e ∈ failures, IsOneLine e.message) ↔
      ∀ resp, op.Retries policy clock sink s (.refused resp) →
        IsOneLine resp.reason ∧ 0x0A ∉ resp.body.bytes.take 1024 := by
  simp only [h.retries_iff] at hfailed hhandled ⊢
  have hmessage : ∀ k (hk : k < failures.length), IsOneLine failures[k].message ↔
      ∀ resp, (op.outcome (op.sceneFrom policy clock sink 1 s k)).1 = .refused resp →
        IsOneLine resp.reason ∧ 0x0A ∉ resp.body.bytes.take 1024 := fun k hk =>
    Outcome.isOneLine_message_iff hdescription (fun e ho => hfailed e ⟨k, hk, ho⟩)
      (fun e ho => hhandled e ⟨k, hk, ho⟩) (h.results k hk)
  rw [List.forall_mem_iff_forall_getElem]
  constructor
  · rintro hall resp ⟨k, hk, ho⟩
    exact (hmessage k hk).1 (hall k hk) resp ho
  · intro hquiet k hk
    exact (hmessage k hk).2 fun resp ho => hquiet resp ⟨k, hk, ho⟩

end Operation

/-! ## The bytes of a log -/

def ByteSink.after (sink : ByteSink) (calls : List SinkCall) : ByteSink :=
  calls.foldl (fun sink call =>
    match call with
    | .line text => Sink.line text sink
    | .flush => Sink.flush sink) sink

theorem count_lineBytes (text : String) :
    (lineBytes text).count 0x0A = text.toList.count '\n' + 1 := by
  rw [lineBytes, List.count_append, Text.count_bytes]
  rfl

/-- With room for all there are no fewer line feeds than lines, and no more exactly if there is none
within a line. -/
theorem ByteSink.count_after {sink : ByteSink} (h : sink.room = none) (calls : List SinkCall) :
    let fed := (sink.after calls).output.count 0x0A
    let ends := sink.output.count 0x0A + (calls.filterMap SinkCall.line?).length
    ends ≤ fed ∧ (fed = ends ↔ ∀ text ∈ calls.filterMap SinkCall.line?, IsOneLine text) := by
  induction calls generalizing sink with
  | nil => exact ⟨Nat.le_refl _, iff_of_true rfl nofun⟩
  | cons call calls ih =>
    cases call with
    | flush => exact @ih (Sink.flush sink) h
    | line text =>
      have houtput : (Sink.line text sink).output = sink.output ++ lineBytes text := by
        simp [Sink.line, taken, h]
      have hzero : IsOneLine text ↔ text.toList.count '\n' = 0 := List.count_eq_zero.symm
      obtain ⟨hle, hiff⟩ := @ih (Sink.line text sink) h
      have hafter : sink.after (.line text :: calls) = (Sink.line text sink).after calls := rfl
      rw [houtput, List.count_append, count_lineBytes] at hle hiff
      have hlines : (SinkCall.line text :: calls).filterMap SinkCall.line? =
          text :: calls.filterMap SinkCall.line? := rfl
      rw [hafter, hlines, List.forall_mem_cons, hzero, List.length_cons]
      refine ⟨by omega, fun heq => ?_, fun ⟨hnone, hrest⟩ => ?_⟩
      · have hnone : text.toList.count '\n' = 0 := by omega
        exact ⟨hnone, hiff.1 (by omega)⟩
      · have heq := hiff.2 hrest
        omega

namespace Operation

/-- A run whose own messages are single lines. All lines it hands to its sink are single ones, and
an unbounded writer then holds just as many lines more, exactly if no answer after which the run
goes on has a line feed in its reason or in the part of its body that is quoted. -/
theorem oneLine_notices_iff (op : Operation σ α) (policy : Policy) (clock : Clock)
    (sink : Listener σ) (s : Scene σ) (hdescription : IsOneLine op.description)
    (hfailed : ∀ e, op.Retries policy clock sink s (.failed e) → IsOneLine e.message)
    (hhandled : ∀ e, op.Retries policy clock sink s (.handled (.error e)) → IsOneLine e.message)
    (writer : ByteSink) (hroom : writer.room = none) :
    let r := op.run policy clock sink s
    let quiet := ∀ resp, op.Retries policy clock sink s (.refused resp) →
      IsOneLine resp.reason ∧ 0x0A ∉ resp.body.bytes.take 1024
    ((∀ text ∈ r.lines, IsOneLine text) ↔ quiet) ∧
      ((writer.after r.calls).output.count 0x0A =
        writer.output.count 0x0A + r.lines.length ↔ quiet) := by
  intro r quiet
  obtain ⟨failures, hretells⟩ := (op.rounds_timeline policy clock sink s).exists_retells
  have hlines : (∀ text ∈ r.lines, IsOneLine text) ↔ quiet :=
    (hretells.forall_isOneLine_iff hdescription).trans
      (hretells.forall_message_iff hdescription hfailed hhandled)
  exact ⟨hlines, (writer.count_after hroom r.calls).2.trans hlines⟩

/-- A busy server whose answer has a fault in its text and a return, but no line feed. -/
theorem oneLine_notices_of_busy :
    let busy : Response := ⟨503, "Service Unavailable", .whole [0x6E, 0xC3, 0x0D, 0x6F]⟩
    let script := Script.ofList [{ response := busy }, {}]
    let op := Script.operation "upload log.txt"
    let r := op.run {} {} {} { world := script }
    r.lines.length = 2 ∧ (∀ text ∈ r.lines, IsOneLine text) ∧
      (ByteSink.after {} r.calls).output.count 0x0A = 2 := by
  intro busy script op r
  have hdescription : IsOneLine op.description := by decide
  have houtcome : (op.outcome (op.sceneAt {} {} {} { world := script } 1)).1 = .refused busy := rfl
  have hretries : ∀ {o}, op.Retries {} {} {} { world := script } o → o = .refused busy := by
    rintro o ⟨number, wait, hmem, rfl⟩
    have hevents : r.events = [.retrying 1 (.ofMillis 200)] := by decide +kernel
    change _ ∈ r.events at hmem
    rw [hevents] at hmem
    cases List.mem_singleton.1 hmem
    exact houtcome
  have hquiet : ∀ resp, op.Retries {} {} {} { world := script } (.refused resp) →
      IsOneLine resp.reason ∧ 0x0A ∉ resp.body.bytes.take 1024 := by
    intro resp hresp
    cases hretries hresp
    decide
  have hlines := oneLine_notices_iff op {} {} {} { world := script } hdescription
    (fun e he => nomatch hretries he) (fun e he => nomatch hretries he) {} rfl
  have hlength : r.lines.length = 2 := by decide +kernel
  refine ⟨hlength, hlines.1.2 hquiet, (hlines.2.2 hquiet).trans ?_⟩
  rw [hlength]
  rfl

/-- A busy server whose answer ends its line and makes up another. -/
theorem not_oneLine_notices_of_feed :
    let body := Text.bytes "busy\nupload log.txt completed after 1 attempt(s)"
    let script := Script.ofList [{ response := ⟨503, "Service Unavailable", .whole body⟩ }, {}]
    let op := Script.operation "upload log.txt"
    let r := op.run {} {} {} { world := script }
    IsOneLine op.description ∧ r.lines.length = 2 ∧ (¬ ∀ text ∈ r.lines, IsOneLine text) ∧
      (ByteSink.after {} r.calls).output.count 0x0A = 3 := by
  decide +kernel

end Operation
end BlobDepot
