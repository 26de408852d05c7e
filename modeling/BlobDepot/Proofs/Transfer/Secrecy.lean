import BlobDepot.Proofs.Transfer.Exchanges
import BlobDepot.Proofs.Transfer.Shown

/-!
# What transfers show of a query

Two transfers whose URLs differ in their queries alone go through the same scenes, but for the
requests received, as long as they connect and no answer sends them elsewhere. They show the same
then, and only then: the text of a connection that failed has the query in it.
-/
namespace BlobDepot

/-! ## Texts with a query -/

namespace Url

theorem render_setQuery_inj (u : Url) {q q' : Option String}
    (h : { u with query := q }.render = { u with query := q' }.render) : q = q' := by
  have hlist := congrArg String.toList h
  simp only [render, renderAuthority, String.toList_append, List.append_cancel_left_eq,
    List.append_cancel_right_eq] at hlist
  cases q with
  | none =>
    cases q' with
    | none => rfl
    | some b => simp at hlist
  | some a =>
    cases q' with
    | none => simp at hlist
    | some b => simpa [String.toList_inj] using hlist

end Url

namespace Transfer

variable (t : Transfer) (q q' : Option String) (d : Direction)

def withQuery : Transfer :=
  { t with url := { t.url with query := q } }

@[simp] theorem path_withQuery : (t.withQuery q).path = t.path := rfl

@[simp] theorem uploadName_withQuery : (t.withQuery q).uploadName = t.uploadName := rfl

@[simp] theorem downloadName_withQuery : (t.withQuery q).downloadName = t.downloadName := rfl

@[simp] theorem description_withQuery :
    ((t.withQuery q).operation d).description = (t.operation d).description := by
  cases d <;> rfl

/-- The texts of a connection that fails. -/
def IsConnectionText (text : String) : Prop :=
  text = t.url.connectionText ∨ text = t.url.builderText

variable {t q q'}

theorem connectionText_inj
    (h : (t.withQuery q).url.connectionText = (t.withQuery q').url.connectionText) : q = q' := by
  unfold Url.connectionText at h
  have hrender : (t.withQuery q).url.bare.render = (t.withQuery q').url.bare.render := by
    simpa using h
  exact t.url.bare.render_setQuery_inj hrender

theorem builderText_inj
    (h : (t.withQuery q).url.builderText = (t.withQuery q').url.builderText) : q = q' := by
  unfold Url.builderText at h
  have hrender :
      (t.withQuery q).url.withoutUser.render = (t.withQuery q').url.withoutUser.render := by
    simpa using h
  exact t.url.withoutUser.render_setQuery_inj hrender

theorem connectionText_ne_builderText (u u' : Url) : u.connectionText ≠ u'.builderText := by
  intro h
  unfold Url.connectionText Url.builderText at h
  have hlist := congrArg String.toList h
  simp at hlist

theorem IsConnectionText.query_eq {text : String} (h : (t.withQuery q).IsConnectionText text)
    (h' : (t.withQuery q').IsConnectionText text) : q = q' := by
  cases h with
  | inl hc =>
    cases h' with
    | inl hc' => exact connectionText_inj (hc.symm.trans hc')
    | inr hb' => exact absurd (hc.symm.trans hb') (connectionText_ne_builderText _ _)
  | inr hb =>
    cases h' with
    | inl hc' => exact absurd (hc'.symm.trans hb) (connectionText_ne_builderText _ _)
    | inr hb' => exact builderText_inj (hb.symm.trans hb')

end Transfer

/-! ## Scenes but for their requests -/

def Scene.withRequests (s : Scene Exchange) (requests : List Request) : Scene Exchange :=
  { s with world := { s.world with requests } }

namespace Scene

@[simp] theorem cancelled_withRequests (s : Scene Exchange) (requests : List Request) :
    (s.withRequests requests).cancelled = s.cancelled := rfl

@[simp] theorem down_withRequests (s : Scene Exchange) (requests : List Request) :
    (s.withRequests requests).down = s.down := rfl

@[simp] theorem outcome_withRequests {β : Type} (s : Scene Exchange) (requests : List Request)
    (limit : Span) (ending : Ending β) :
    (s.withRequests requests).outcome limit ending = s.outcome limit ending := by
  cases ending <;> rfl

end Scene

/-- Both come to the same, in scenes that differ in the requests received. -/
def AgreeButRequests {β : Type} (w w' : β × Scene Exchange) : Prop :=
  ∃ requests, w' = (w.1, w.2.withRequests requests)

theorem AgreeButRequests.trans {β : Type} {w w' w'' : β × Scene Exchange}
    (h : AgreeButRequests w w') (h' : AgreeButRequests w' w'') : AgreeButRequests w w'' := by
  obtain ⟨requests, rfl⟩ := h
  obtain ⟨requests', rfl⟩ := h'
  exact ⟨requests', rfl⟩

theorem AgreeButRequests.of_agree {β : Type} {w w' w'' : β × Scene Exchange}
    (h : AgreeButRequests w w') (h' : AgreeButRequests w w'') : AgreeButRequests w' w'' := by
  obtain ⟨requests, rfl⟩ := h
  obtain ⟨requests', rfl⟩ := h'
  exact ⟨requests', rfl⟩

namespace Operation

variable {α : Type} {op op' : Operation Exchange α} {s s' : Scene Exchange}

theorem work_agree (hname : op.description = op'.description)
    (hsuccess : ∀ r u requests,
      AgreeButRequests (op.onSuccess r u) (op'.onSuccess r (u.withRequests requests)))
    (h : AgreeButRequests (op.connect s) (op'.connect s')) :
    AgreeButRequests (op.work s) (op'.work s') := by
  obtain ⟨requests, hconnect⟩ := h
  rcases hw : op.connect s with ⟨(e | r) | _ | _, u⟩
  case ready.ok =>
    by_cases hs : isSuccess r.status
    · simpa [work, hconnect, hw, hs] using hsuccess r u requests
    · exact ⟨requests, by simp [work, hconnect, hw, hs, refusal, hname]⟩
  all_goals exact ⟨requests, by simp [work, hconnect, hw]⟩

theorem settle_agree (hname : op.description = op'.description)
    (outcome : Except PoolFault (Except OperationError α)) :
    op.settle outcome = op'.settle outcome := by
  simp only [settle, hname]

theorem attempt_agree (hname : op.description = op'.description) {requests : List Request}
    (hstart : op'.start s' = (op.start s).withRequests requests)
    (hwork : AgreeButRequests (op.work (op.start s)) (op'.work (op'.start s'))) (limit : Span) :
    AgreeButRequests (op.attempt limit s) (op'.attempt limit s') := by
  obtain ⟨more, hwork⟩ := hwork
  rw [attempt_eq op, attempt_eq op', hwork, hstart, hname, funext (settle_agree hname)]
  cases hc : (op.start s).cancelled with
  | true => exact ⟨requests, by simp [hc]⟩
  | false =>
    cases hd : (op.start s).down with
    | true => exact ⟨requests, by simp [hc, hd]⟩
    | false => exact ⟨more, by simp [hc, hd]⟩

end Operation

namespace Transfer

variable {t : Transfer} {q q' : Option String} {d : Direction} {s : Scene Exchange}
  {requests : List Request}

/-- How sending ends once a connection holds. -/
def replyEnding : Reply → Ending (Except OperationError Response)
  | .answer status body declared _ => .ready (.ok (Reply.response status body declared))
  | _ => .hangs

def held (t : Transfer) (d : Direction) (s : Scene Exchange) :
    Ending (Except OperationError Response) × Scene Exchange :=
  match d, s.world.file.opens with
  | .upload, .error fault => (.ready (.error (t.fileFailure t.uploadName fault)), s)
  | _, _ => (replyEnding (s.world.reply s.world.connections), { s with world := s.world.connect })

def IsBroken {β : Type} (t : Transfer) (d : Direction) (s : Scene Exchange)
    (w : Ending (Except OperationError β) × Scene Exchange) : Prop :=
  ∃ text world, t.IsConnectionText text ∧
    w = (.ready (.error ⟨(t.operation d).description, .connection text⟩), { s with world })

/-- Sending fails with the text of a connection, or the reply decides how it ends. -/
theorem send_cases (t : Transfer) (operation : String) (r : Option Request) (s : Scene Exchange)
    (hstay : ∀ own, r = some own → ∀ k status body declared location,
      s.world.reply k = .answer status body declared location →
        t.client.next t.url own status location = none) :
    (∃ text world, t.IsConnectionText text ∧
        t.send operation r s = (broken operation text, { s with world })) ∨
      AgreeButRequests
        (replyEnding (s.world.reply s.world.connections), { s with world := s.world.connect })
        (t.send operation r s) := by
  cases r with
  | none =>
    cases hsend : t.url.canBeSent with
    | false => exact .inl ⟨_, s.world, .inr rfl, by simp [send, hsend]⟩
    | true => exact .inl ⟨_, _, .inl rfl, by simp [send, hsend, connected]; rfl⟩
  | some own =>
    rw [send]
    unfold Client.send
    cases hsend : t.url.canBeSent with
    | false => exact .inl ⟨_, s.world, .inr rfl, rfl⟩
    | true =>
      cases hreply : s.world.reply s.world.connections with
      | refuse => exact .inl ⟨_, _, .inl rfl, rfl⟩
      | close => exact .inl ⟨_, _, .inl rfl, rfl⟩
      | hang => exact .inr ⟨_, rfl⟩
      | answer status body declared location =>
        cases hanswer : Reply.isAnswer status declared with
        | false => exact .inl ⟨_, _, .inl rfl, by simp [hanswer]; rfl⟩
        | true =>
          have hnext := hstay own rfl _ status body declared location hreply
          exact .inr ⟨_, by simp [hanswer, hnext, replyEnding]; rfl⟩

/-- Connecting fails with the text of a connection, or goes on as held. -/
theorem connect_cases (t : Transfer) (d : Direction) (s : Scene Exchange)
    (hstay : t.StaysPut d s.world) :
    t.IsBroken d s ((t.operation d).connect s) ∨
      AgreeButRequests (t.held d s) ((t.operation d).connect s) := by
  have hsend := send_cases t (t.operation d).description (t.request? d s.world.file) s hstay
  cases d with
  | upload =>
    cases hopen : s.world.file.opens with
    | error fault => exact .inr ⟨s.world.requests, by simp [operation, upload, held, hopen]; rfl⟩
    | ok _ =>
      have hconnect : (t.operation .upload).connect s =
          t.send t.uploadName (s.world.file.read.toOption.map t.putRequest) s := by
        simp [operation, upload, hopen]
      have hheld : t.held .upload s = (replyEnding (s.world.reply s.world.connections),
          { s with world := s.world.connect }) := by
        simp [held, hopen]
      rw [hconnect, hheld]
      exact hsend
  | download => exact hsend

theorem held_agree (t : Transfer) (q q' : Option String) (d : Direction) (s : Scene Exchange)
    (requests : List Request) :
    AgreeButRequests ((t.withQuery q).held d s)
      ((t.withQuery q').held d (s.withRequests requests)) := by
  cases d with
  | upload =>
    cases hopen : s.world.file.opens with
    | error fault => exact ⟨requests, by simp [held, Scene.withRequests, hopen, fileFailure]⟩
    | ok _ => exact ⟨requests, by simp [held, Scene.withRequests, hopen, Exchange.connect]⟩
  | download => exact ⟨requests, rfl⟩

theorem onSuccess_agree (t : Transfer) (q q' : Option String) (d : Direction) (r : Response)
    (s : Scene Exchange) (requests : List Request) :
    AgreeButRequests (((t.withQuery q).operation d).onSuccess r s)
      (((t.withQuery q').operation d).onSuccess r (s.withRequests requests)) := by
  cases d with
  | upload => exact ⟨requests, rfl⟩
  | download =>
    refine ⟨requests, ?_⟩
    cases hwrite : s.world.file.write r.body.bytes with
    | error fault =>
      simp [operation, download, Scene.withRequests, hwrite, fileFailure]
    | ok file =>
      cases hbody : r.body.isComplete with
      | false => simp [operation, download, Scene.withRequests, hwrite, hbody, fileFailure]
      | true => simp [operation, download, Scene.withRequests, hwrite, hbody]

/-- The work of two transfers that differ in their queries ends the same unless one of them cannot
connect. -/
theorem work_cases (t : Transfer) (q q' : Option String) (d : Direction) (s : Scene Exchange)
    (requests : List Request) (hstay : (t.withQuery q).StaysPut d s.world)
    (hstay' : (t.withQuery q').StaysPut d s.world) :
    (t.withQuery q).IsBroken d s (((t.withQuery q).operation d).work s) ∨
      (t.withQuery q').IsBroken d (s.withRequests requests)
        (((t.withQuery q').operation d).work (s.withRequests requests)) ∨
      AgreeButRequests (((t.withQuery q).operation d).work s)
        (((t.withQuery q').operation d).work (s.withRequests requests)) := by
  rcases connect_cases (t.withQuery q) d s hstay with ⟨text, world, htext, hconnect⟩ | hagree
  · exact .inl ⟨text, world, htext, by simp [Operation.work, hconnect]⟩
  rcases connect_cases (t.withQuery q') d (s.withRequests requests) hstay' with
    ⟨text, world, htext, hconnect⟩ | hagree'
  · exact .inr (.inl ⟨text, world, htext, by simp [Operation.work, hconnect]⟩)
  · have hconnect := hagree.of_agree ((held_agree t q q' d s requests).trans hagree')
    exact .inr (.inr (Operation.work_agree (by simp) (onSuccess_agree t q q' d) hconnect))

def IsBrokenResult (t : Transfer) (d : Direction) (result : Except OperationError Nat) : Prop :=
  ∃ text, t.IsConnectionText text ∧
    result = .error ⟨(t.operation d).description, .connection text⟩

theorem isBrokenResult_attempt (h : t.IsBroken d s ((t.operation d).work s))
    (hlive : s.cancelled = false) (hup : s.down = false) (limit : Span) :
    t.IsBrokenResult d ((t.operation d).attempt limit s).1 := by
  obtain ⟨text, world, htext, hwork⟩ := h
  refine ⟨text, htext, ?_⟩
  rw [Operation.attempt_eq, start_operation]
  simp [hlive, hup, hwork, Scene.outcome, Operation.settle]

/-- Attempts of two transfers that differ in their queries come to the same unless one of them
cannot connect. -/
theorem attempt_cases (t : Transfer) (q q' : Option String) (d : Direction) (s : Scene Exchange)
    (requests : List Request) (limit : Span) (hstay : (t.withQuery q).StaysPut d s.world)
    (hstay' : (t.withQuery q').StaysPut d s.world) :
    (t.withQuery q).IsBrokenResult d (((t.withQuery q).operation d).attempt limit s).1 ∨
      (t.withQuery q').IsBrokenResult d
        (((t.withQuery q').operation d).attempt limit (s.withRequests requests)).1 ∨
      AgreeButRequests (((t.withQuery q).operation d).attempt limit s)
        (((t.withQuery q').operation d).attempt limit (s.withRequests requests)) := by
  cases hc : s.cancelled with
  | true => exact .inr (.inr ⟨requests, by simp [Operation.attempt_eq, start_operation, hc]⟩)
  | false =>
    cases hd : s.down with
    | true => exact .inr (.inr ⟨requests, by simp [Operation.attempt_eq, start_operation, hc, hd]⟩)
    | false =>
      rcases work_cases t q q' d s requests hstay hstay' with hbroken | hbroken | hagree
      · exact .inl (isBrokenResult_attempt hbroken hc hd limit)
      · exact .inr (.inl (isBrokenResult_attempt hbroken hc hd limit))
      · have hstart : ((t.withQuery q').operation d).start (s.withRequests requests) =
            (((t.withQuery q).operation d).start s).withRequests requests := by
          simp [start_operation]
        refine .inr (.inr (Operation.attempt_agree (by simp) hstart ?_ limit))
        simpa [start_operation] using hagree

/-! ## Failures of transfers -/

/-- A failure that is named after the transfer, and has the text of a connection if it is one of
connecting. -/
def IsFailureOf (t : Transfer) (d : Direction) (e : OperationError) : Prop :=
  e.operation = (t.operation d).description ∧
    ∀ reason, e.failure = .connection reason → t.IsConnectionText reason

theorem isFailureOf_file (t : Transfer) (d : Direction) (fault : IoFault) :
    t.IsFailureOf d (t.fileFailure (t.operation d).description fault) :=
  ⟨rfl, fun _ h => by cases h⟩

theorem isFailureOf_held {e : OperationError} (h : (t.held d s).1 = .ready (.error e)) :
    t.IsFailureOf d e := by
  unfold held at h
  split at h
  · cases h
    exact isFailureOf_file t .upload _
  · unfold replyEnding at h
    split at h <;> cases h

theorem isFailureOf_onSuccess {e : OperationError} {r : Response}
    (h : ((t.operation d).onSuccess r s).1 = .ready (.error e)) : t.IsFailureOf d e := by
  cases d with
  | upload => cases h
  | download =>
    cases hwrite : s.world.file.write r.body.bytes with
    | error fault =>
      simp only [operation, download, hwrite] at h
      cases h
      exact isFailureOf_file t .download fault
    | ok file =>
      cases hbody : r.body.isComplete with
      | true => simp [operation, download, hwrite, hbody] at h
      | false =>
        simp only [operation, download, hwrite, hbody] at h
        cases h
        exact isFailureOf_file t .download brokenBody

theorem isFailureOf_work {e : OperationError} (hstay : t.StaysPut d s.world)
    (h : ((t.operation d).work s).1 = .ready (.error e)) : t.IsFailureOf d e := by
  rcases connect_cases t d s hstay with ⟨text, world, htext, hconnect⟩ | ⟨requests, hconnect⟩
  · simp only [Operation.work, hconnect] at h
    cases h
    exact ⟨rfl, fun reason hreason => Failure.connection.inj hreason ▸ htext⟩
  · rcases hheld : t.held d s with ⟨(e' | r) | _ | _, u⟩
    case ready.error =>
      simp only [Operation.work, hconnect, hheld] at h
      cases h
      exact isFailureOf_held (congrArg Prod.fst hheld)
    case ready.ok =>
      simp only [Operation.work, hconnect, hheld] at h
      split at h
      · exact isFailureOf_onSuccess h
      · cases h
        exact ⟨rfl, fun _ h => by cases h⟩
    all_goals simp [Operation.work, hconnect, hheld] at h

theorem isFailureOf_attempt {e : OperationError} {limit : Span} (hstay : t.StaysPut d s.world)
    (h : ((t.operation d).attempt limit s).1 = .error e) : t.IsFailureOf d e := by
  rw [Operation.attempt_eq, start_operation] at h
  split at h
  · cases h
    exact ⟨rfl, fun _ h => by cases h⟩
  split at h
  · cases h
    exact ⟨rfl, fun _ h => by cases h⟩
  dsimp only [id] at h
  split at h
  · cases h
    exact ⟨rfl, fun _ h => by cases h⟩
  rcases hw : (t.operation d).work s with ⟨result | _ | _, u⟩
  case ready =>
    rw [hw] at h
    have hresult : result = .error e := h
    exact isFailureOf_work hstay (by rw [hw, hresult])
  case panics =>
    rw [hw] at h
    cases h
    exact ⟨rfl, fun _ h => by cases h⟩
  case hangs =>
    rw [hw] at h
    simp only [Scene.outcome] at h
    split at h
    · cases h
      exact ⟨rfl, fun _ h => by cases h⟩
    split at h <;> cases h <;> exact ⟨rfl, fun _ h => by cases h⟩

/-- A failure to connect tells two queries apart. -/
theorem message_ne_of_query_ne (hq : q ≠ q') {e e' : OperationError}
    (h : (t.withQuery q).IsFailureOf d e) (h' : (t.withQuery q').IsFailureOf d e')
    (hkind : e.kind = "Connection") : e.message ≠ e'.message := by
  have hop : e.operation = e'.operation := by
    rw [h.1, h'.1, description_withQuery, description_withQuery]
  by_cases hkind' : e'.kind = "Connection"
  · obtain ⟨reason, hreason⟩ := OperationError.kind_eq_connection.1 hkind
    obtain ⟨reason', hreason'⟩ := OperationError.kind_eq_connection.1 hkind'
    intro heq
    have hsame : reason = reason' := by
      simpa [OperationError.message, hreason, hreason', hop] using heq
    subst hsame
    exact hq ((h.2 reason hreason).query_eq (h'.2 reason hreason'))
  · exact OperationError.message_ne_of_connection hop hkind hkind'

theorem didConnect_iff {limit : Span} (hstay : t.StaysPut d s.world) :
    Operation.DidConnect ((t.operation d).attempt limit s).1 ↔
      ¬ t.IsBrokenResult d ((t.operation d).attempt limit s).1 := by
  constructor
  · rintro h ⟨text, -, hresult⟩
    exact h _ hresult rfl
  · intro h e he hkind
    obtain ⟨hop, htext⟩ := isFailureOf_attempt hstay he
    obtain ⟨reason, hreason⟩ := OperationError.kind_eq_connection.1 hkind
    refine h ⟨reason, htext reason hreason, ?_⟩
    rw [he, ← hop, ← hreason]

/-! ## Runs with two queries -/

end Transfer

/-- A sink that does nothing with the requests a server received. -/
structure Listener.IgnoresRequests (sink : Listener Exchange) : Prop where
  line (text : String) (s : Scene Exchange) (requests : List Request) :
    ∃ more, sink.line text (s.withRequests requests) = (sink.line text s).withRequests more
  flush (s : Scene Exchange) (requests : List Request) :
    ∃ more, sink.flush (s.withRequests requests) = (sink.flush s).withRequests more

/-- A sink that leaves a property of servers and files as it is. -/
structure Listener.Keeps (sink : Listener Exchange) (P : Exchange → Prop) : Prop where
  line (text : String) (s : Scene Exchange) : P s.world → P (sink.line text s).world
  flush (s : Scene Exchange) : P s.world → P (sink.flush s).world

namespace Transfer

variable {t : Transfer} {q q' : Option String} {d : Direction} {limit : Span}
  {s : Scene Exchange} {requests : List Request}

theorem mapError_ne_of_not_didConnect (hq : q ≠ q') {r r' : Except OperationError Nat}
    (h : ∀ e, r = .error e → (t.withQuery q).IsFailureOf d e)
    (h' : ∀ e, r' = .error e → (t.withQuery q').IsFailureOf d e)
    (hr : ¬ Operation.DidConnect r) :
    r.mapError OperationError.message ≠ r'.mapError OperationError.message := by
  simp only [Operation.DidConnect, not_forall, not_not] at hr
  obtain ⟨e, rfl, hkind⟩ := hr
  intro heq
  cases r' with
  | ok value => cases heq
  | error e' =>
    exact message_ne_of_query_ne hq (h e rfl) (h' e' rfl) hkind (Except.error.inj heq)

theorem attempt_ne (hq : q ≠ q') (hstay : (t.withQuery q).StaysPut d s.world)
    (hstay' : (t.withQuery q').StaysPut d s.world)
    (h : ¬ (Operation.DidConnect (((t.withQuery q).operation d).attempt limit s).1 ∧
      Operation.DidConnect
        (((t.withQuery q').operation d).attempt limit (s.withRequests requests)).1)) :
    (((t.withQuery q).operation d).attempt limit s).1.mapError OperationError.message ≠
      (((t.withQuery q').operation d).attempt limit (s.withRequests requests)).1.mapError
        OperationError.message := by
  rw [not_and_or] at h
  cases h with
  | inl h =>
    exact mapError_ne_of_not_didConnect hq (fun _ => isFailureOf_attempt hstay)
      (fun _ => isFailureOf_attempt hstay') h
  | inr h =>
    have hput : (t.withQuery q').StaysPut d (s.withRequests requests).world := hstay'
    exact (mapError_ne_of_not_didConnect hq.symm (fun _ => isFailureOf_attempt hput)
      (fun _ => isFailureOf_attempt hstay) h).symm

theorem attempt_agree_of_didConnect (hstay : (t.withQuery q).StaysPut d s.world)
    (hstay' : (t.withQuery q').StaysPut d s.world)
    (h : Operation.DidConnect (((t.withQuery q).operation d).attempt limit s).1)
    (h' : Operation.DidConnect
      (((t.withQuery q').operation d).attempt limit (s.withRequests requests)).1) :
    AgreeButRequests (((t.withQuery q).operation d).attempt limit s)
      (((t.withQuery q').operation d).attempt limit (s.withRequests requests)) := by
  have hput : (t.withQuery q').StaysPut d (s.withRequests requests).world := hstay'
  rcases attempt_cases t q q' d s requests limit hstay hstay' with hbroken | hbroken | hagree
  · exact absurd hbroken ((didConnect_iff hstay).1 h)
  · exact absurd hbroken ((didConnect_iff hput).1 h')
  · exact hagree

/-- No answer sends the client of a transfer elsewhere, whichever of two queries it has. -/
def StayPut (t : Transfer) (q q' : Option String) (d : Direction) (x : Exchange) : Prop :=
  (t.withQuery q).StaysPut d x ∧ (t.withQuery q').StaysPut d x

/-- Scenes in which no answer sends the client elsewhere, and which differ in the requests
received. -/
def Parallel (t : Transfer) (q q' : Option String) (d : Direction) (s s' : Scene Exchange) : Prop :=
  (∃ requests, s' = s.withRequests requests) ∧ t.StayPut q q' d s.world

/-- Transfers that differ in their queries are alike: the scenes they go through differ in the
requests received. -/
theorem alike_withQuery {sink : Listener Exchange} (hsink : sink.IgnoresRequests)
    (hstay : sink.Keeps (t.StayPut q q' d)) :
    ((t.withQuery q).operation d).Alike sink ((t.withQuery q').operation d) sink
      (t.Parallel q q' d) where
  description := by rw [description_withQuery, description_withQuery]
  cancelled := by
    rintro s _ ⟨⟨requests, rfl⟩, -⟩
    rfl
  attempt := by
    rintro limit s _ ⟨⟨requests, rfl⟩, hput, hput'⟩ h h'
    obtain ⟨more, hagree⟩ := attempt_agree_of_didConnect hput hput' h h'
    have hcourse := ((t.withQuery q).attempt_step d limit s).course
    -- the file is the same after either attempt, so the second client stays where it is too
    have hcourse' := ((t.withQuery q').attempt_step d limit (s.withRequests requests)).course
    rw [hagree] at hcourse' ⊢
    exact ⟨rfl, ⟨more, rfl⟩, hcourse.staysPut_iff.2 hput, hcourse'.staysPut_iff.2 hput'⟩
  line := by
    rintro s _ text ⟨⟨requests, rfl⟩, hput⟩
    exact ⟨hsink.line text s requests, hstay.line text s hput⟩
  flush := by
    rintro s _ ⟨⟨requests, rfl⟩, hput⟩
    exact ⟨hsink.flush s requests, hstay.flush s hput⟩

/-- What is shown of a transfer depends on the query of its URL only if an attempt fails to connect,
as long as no answer sends the client elsewhere: two transfers that differ in their queries show the
same if and only if none of their attempts does, and then the scenes at their ends differ in the
requests received alone. -/
theorem shown_run_eq_iff {sink : Listener Exchange} (hsink : sink.IgnoresRequests) (t : Transfer)
    (d : Direction) {q q' : Option String} (hq : q ≠ q') (hkeeps : sink.Keeps (t.StayPut q q' d))
    (policy : Policy) (clock : Clock) (s : Scene Exchange) (hstay : t.StayPut q q' d s.world) :
    let op := (t.withQuery q).operation d
    let op' := (t.withQuery q').operation d
    let run := op.run policy clock sink s
    let run' := op'.run policy clock sink s
    (run.shown = run'.shown ↔ op.Connects policy clock sink 1 s run.connects ∧
        op'.Connects policy clock sink 1 s run'.connects) ∧
      (run.shown = run'.shown → ∃ requests, run'.scene = run.scene.withRequests requests) := by
  intro op op' run run'
  have halike : op.Alike sink op' sink (t.Parallel q q' d) := alike_withQuery hsink hkeeps
  have hR : t.Parallel q q' d s s := ⟨⟨s.world.requests, rfl⟩, hstay⟩
  have hshown : op.Connects policy clock sink 1 s run.connects →
      op'.Connects policy clock sink 1 s run'.connects →
        run.shown = run'.shown ∧ t.Parallel q q' d run.scene run'.scene :=
    halike.shown_eq hR (policy.attempts.toNat - 1) 1
  have hconnects : run.shown = run'.shown → op.Connects policy clock sink 1 s run.connects ∧
      op'.Connects policy clock sink 1 s run'.connects := by
    refine halike.connects ?_ hR (policy.attempts.toNat - 1) 1
    rintro limit s _ ⟨⟨requests, rfl⟩, hput, hput'⟩ hnot
    exact attempt_ne hq hput hput' hnot
  refine ⟨⟨hconnects, fun h => (hshown h.1 h.2).1⟩, fun h => ?_⟩
  exact (hshown (hconnects h).1 (hconnects h).2).2.1

/-- An upload that is answered at last shows the same with either query. -/
theorem shown_run_eq_of_answer :
    let t : Transfer :=
      { url := { scheme := "http", authority := some { host := "localhost" }, path := "/x" }
        path := "x.bin" }
    let s : Scene Exchange :=
      ⟨{ reply := Reply.ofList [.answer 503 [] none, .answer 200 [] none], file := .present [7] },
        false, false⟩
    (((t.withQuery (some "sig=a")).operation .upload).run {} {} {} s).shown =
      (((t.withQuery (some "sig=b")).operation .upload).run {} {} {} s).shown := by
  intro t s
  have hsink : Listener.IgnoresRequests {} :=
    ⟨fun _ _ requests => ⟨requests, rfl⟩, fun _ requests => ⟨requests, rfl⟩⟩
  have hq : some "sig=a" ≠ some "sig=b" := by decide
  have hstay : t.StayPut (some "sig=a") (some "sig=b") .upload s.world :=
    ⟨fun _ _ _ _ _ _ location _ => by cases location <;> rfl,
      fun _ _ _ _ _ _ location _ => by cases location <;> rfl⟩
  refine (shown_run_eq_iff hsink t .upload hq ⟨fun _ _ => id, fun _ => id⟩ {} {} s hstay).1.2 ?_
  simp only [t, s]
  decide +kernel

/-- A server that takes no connection brings the query to the sink. -/
theorem shown_run_ne_of_refused :
    let t : Transfer :=
      { url := { scheme := "http", authority := some { host := "localhost" }, path := "/x" }
        path := "x.bin" }
    let s : Scene Exchange := ⟨{ reply := Reply.ofList [], file := .absent }, false, false⟩
    (((t.withQuery (some "sig=a")).operation .download).run { budget := 2 } {} {} s).shown ≠
      (((t.withQuery (some "sig=b")).operation .download).run { budget := 2 } {} {} s).shown := by
  intro t s h
  have hcalls := congrArg (fun shown => shown.2.1) h
  revert hcalls
  simp only [t, s]
  decide +kernel

end Transfer
end BlobDepot
