import BlobDepot.Proofs.Tree.Calls
import BlobDepot.Tree.Session

/-!
# What a node knows

The first question about a node that does not fail settles what its key stands for. Whatever becomes
of the store and of the scopes afterwards, every later question is answered from that, and only to
read the file or to make a URL for it is the store called again. A question that fails settles
nothing, and the next one finds out afresh.
-/
namespace BlobDepot

variable {σ : Type}

/-! ## Questions -/

/-- A question about a node that depends on what its key stands for. -/
inductive Question where
  | kind
  | isFile
  | isDirectory
  | isThere
  | size
  | modified
  | openFile
  | url (ttl : Span)
  deriving DecidableEq, Repr

inductive Answer where
  | kind (kind : Kind)
  | truth (holds : Bool)
  | size (bytes : Nat)
  | time (second : Int)
  | content (content : Content)
  | url (url : Url)
  deriving DecidableEq, Repr

theorem Node.map_answer {α β : Type} (f : α → β) (n : Node) (r : Except StoreError α) :
    (n.answer r).map f = (r.map f).mapError (.ofStore n.key.render) := by
  cases r with
  | error e => rfl
  | ok value => rfl

namespace Question

def pose [Store σ] (q : Question) (frames : FrameStack) (n : Node) (s : σ) :
    Except TreeError Answer × Node × σ :=
  match q with
  | kind => Prod.map (Except.map .kind) id (n.kind frames s)
  | isFile => Prod.map (Except.map .truth) id (n.isFile frames s)
  | isDirectory => Prod.map (Except.map .truth) id (n.isDirectory frames s)
  | isThere => Prod.map (Except.map .truth) id (n.isThere frames s)
  | size => Prod.map (Except.map .size) id (n.size frames s)
  | modified => Prod.map (Except.map .time) id (n.modified frames s)
  | openFile => Prod.map (Except.map .content) id (n.openFile frames s)
  | url ttl => Prod.map (Except.map .url) id (n.url frames ttl s)

/-- What a question comes to once it is known what the key of a node stands for. -/
def reply [Store σ] (q : Question) (k : Key) (a : Attributes) : Query σ Answer := fun s =>
  match q with
  | kind => (.ok (.kind a.kind), s)
  | isFile => (.ok (.truth a.isFile), s)
  | isDirectory => (.ok (.truth a.isDirectory), s)
  | isThere => (.ok (.truth a.isThere), s)
  | size => (.ok (.size a.size), s)
  | modified => (.ok (.time a.modified), s)
  | openFile =>
    match a with
    | .file _ =>
      let (content, s) := Store.read k.container k.path s
      ((content.map .content).mapError (.ofStore k.render), s)
    | .directory => (.error (.isDirectory k.render), s)
    | .missing => (.error (.notFound k.render), s)
  | url ttl =>
    match a with
    | .file _ =>
      let (address, s) := Store.presign k.container k.path .get ttl s
      ((address.map .url).mapError (.ofStore k.render), s)
    | _ => (.error (.notFile k.render), s)

def calls (q : Question) (k : Key) (a : Attributes) : List RecordedCall :=
  match q, a with
  | openFile, .file _ => [.read k.container k.path]
  | url ttl, .file _ => [.presign k.container k.path .get ttl]
  | _, _ => []

theorem pose_eq [Store σ] (q : Question) (frames : FrameStack) (n : Node) (s : σ) :
    q.pose frames n s =
      match n.attributes frames s with
      | (.error e, m, t) => (.error e, m, t)
      | (.ok a, m, t) => ((q.reply m.key a t).1, m, (q.reply m.key a t).2) := by
  rcases hattributes : n.attributes frames s with ⟨e | a, m, t⟩
  · cases q <;> simp [pose, Node.kind, Node.isFile, Node.isDirectory, Node.isThere, Node.size,
      Node.modified, Node.tell, Node.openFile, Node.url, hattributes, Except.map]
  · cases q with
    | openFile =>
      cases a with
      | file info =>
        rcases hread : Store.read m.key.container m.key.path t with ⟨content, u⟩
        simp only [pose, reply, Node.openFile, hattributes, hread, Prod.map, id, Node.map_answer]
      | _ => simp [pose, reply, Node.openFile, hattributes, Except.map]
    | url ttl =>
      cases a with
      | file info =>
        rcases hurl : Store.presign m.key.container m.key.path .get ttl t with ⟨address, u⟩
        simp only [pose, reply, Node.url, hattributes, hurl, Prod.map, id, Node.map_answer]
      | _ => simp [pose, reply, Node.url, hattributes, Except.map]
    | _ => simp [pose, reply, Node.kind, Node.isFile, Node.isDirectory, Node.isThere, Node.size,
        Node.modified, Node.tell, hattributes, Except.map]

theorem reply_watched [Store σ] (q : Question) (k : Key) (a : Attributes) (w : Watched σ) :
    q.reply k a w =
      ((q.reply k a w.store).1, ⟨(q.reply k a w.store).2, w.log ++ q.calls k a⟩) := by
  cases q with
  | openFile =>
    cases a with
    | file info => rfl
    | _ => simp [reply, calls]
  | url ttl =>
    cases a with
    | file info => rfl
    | _ => simp [reply, calls]
  | _ => simp [reply, calls]

end Question

/-! ## Finding out what a key stands for -/

namespace Node

variable {n : Node} {frames : FrameStack} {a : Attributes} {e : TreeError}

/-- The calls of finding out what a node stands for. There are none if that is known or a frame
covers the key; else one asks for the object, unless the node is the root of a container, and one
for objects below. -/
def resolutionCalls (frames : FrameStack) (n : Node) : List RecordedCall :=
  match n.known, frames.lookup n.key with
  | none, none =>
    (if n.key.isRoot then [] else [.metadata n.key.container n.key.path]) ++
      [.anyUnder n.key.container n.key.lead]
  | _, _ => []

theorem attributes_of_known [Store σ] (h : n.known = some a) (frames : FrameStack) (s : σ) :
    n.attributes frames s = (.ok a, n, s) := by
  simp only [attributes, h]

theorem resolve_watched [Store σ] (hfresh : n.known = none) (frames : FrameStack)
    (w : Watched σ) :
    n.resolve frames w = ((n.resolve frames w.store).1,
      ⟨(n.resolve frames w.store).2, w.log ++ n.resolutionCalls frames⟩) := by
  cases hlookup : frames.lookup n.key with
  | some hit => simp [resolve, resolutionCalls, hfresh, hlookup]
  | none =>
    simp only [resolve, resolutionCalls, hfresh, hlookup, findObject_watched, ← List.append_assoc]
    rfl

theorem attributes_watched [Store σ] (frames : FrameStack) (n : Node) (w : Watched σ) :
    n.attributes frames w = ((n.attributes frames w.store).1, (n.attributes frames w.store).2.1,
      ⟨(n.attributes frames w.store).2.2, w.log ++ n.resolutionCalls frames⟩) := by
  cases hknown : n.known with
  | some a => simp [attributes_of_known hknown, resolutionCalls, hknown]
  | none =>
    rcases hresolve : n.resolve frames w.store with ⟨e | a, t⟩ <;>
      simp [attributes, hknown, resolve_watched hknown, hresolve]

theorem attributes_of_unknown [Store σ] (hfresh : n.known = none) (frames : FrameStack) (s : σ) :
    (n.attributes frames s).1 = (n.resolve frames s).1 := by
  rcases hresolve : n.resolve frames s with ⟨e | a, t⟩ <;> simp [attributes, hfresh, hresolve]

/-- A node keeps what it finds out, and a failure leaves it as it was: without knowing. -/
theorem attributes_cases [Store σ] (frames : FrameStack) (n : Node) (s : σ) :
    (∃ a t, n.attributes frames s = (.ok a, { n with known := some a }, t)) ∨
      n.known = none ∧ ∃ e t, n.attributes frames s = (.error e, n, t) := by
  obtain ⟨key, known⟩ := n
  cases known with
  | some a => exact .inl ⟨a, s, rfl⟩
  | none =>
    rcases hresolve : resolve frames ⟨key, none⟩ s with ⟨e | a, t⟩
    · exact .inr ⟨rfl, e, t, by simp only [attributes, hresolve]⟩
    · exact .inl ⟨a, t, by simp only [attributes, hresolve]⟩

end Node

/-- A question on a watched store is what it is on the store itself. It makes the calls of finding
out, and then its own. -/
theorem Question.pose_watched [Store σ] (q : Question) (frames : FrameStack) (n : Node)
    (w : Watched σ) :
    q.pose frames n w =
      match n.attributes frames w.store with
      | (.error e, m, t) => (.error e, m, ⟨t, w.log ++ n.resolutionCalls frames⟩)
      | (.ok a, m, t) => ((q.reply m.key a t).1, m, ⟨(q.reply m.key a t).2,
          w.log ++ n.resolutionCalls frames ++ q.calls m.key a⟩) := by
  rw [pose_eq, Node.attributes_watched]
  rcases n.attributes frames w.store with ⟨e | a, m, t⟩
  · rfl
  · simp only [reply_watched]

/-! ## Conversations -/

/-- A node of a session on a store whose calls are watched. -/
structure Conversation (σ : Type) where
  session : Session (Watched σ)
  handle : Handle

/-- What may happen while a node is there: it is asked, a scope is opened on this or another node or
is closed, or the store changes in whatever way. -/
inductive Event (σ : Type) where
  | ask (q : Question)
  | enter (h : Handle)
  | leave (scope : Scope)
  | change (f : σ → σ)

namespace Conversation

section Parts

variable (c : Conversation σ)

def node : Node :=
  c.handle.node

/-- The frames of the scopes that are open in the context of the node. -/
def frames : FrameStack :=
  c.session.frames c.handle.context

def store : σ :=
  c.session.store.store

def log : List RecordedCall :=
  c.session.store.log

end Parts

variable [Store σ]

def ask (c : Conversation σ) (q : Question) : Except TreeError Answer × Conversation σ :=
  let (answer, handle, session) := c.session.ask c.handle q.pose
  (answer, ⟨session, handle⟩)

/-- What a question that is asked now finds the node to stand for. -/
def finding (c : Conversation σ) : Except TreeError Attributes :=
  (c.node.attributes c.frames c.store).1

def step (c : Conversation σ) : Event σ → Conversation σ
  | .ask q => (c.ask q).2
  | .enter h => { c with session := (c.session.enter h).2 }
  | .leave scope => { c with session := c.session.leave scope }
  | .change f => { c with session := c.session.change fun w => { w with store := f w.store } }

def after (c : Conversation σ) (events : List (Event σ)) : Conversation σ :=
  events.foldl step c

variable {c : Conversation σ} {a : Attributes} {e : TreeError} {q : Question}

/-! ### One question -/

theorem ask_eq (c : Conversation σ) (q : Question) :
    c.ask q = ((q.pose c.frames c.node c.session.store).1,
      ⟨{ c.session with store := (q.pose c.frames c.node c.session.store).2.2 },
        { c.handle with node := (q.pose c.frames c.node c.session.store).2.1 }⟩) := rfl

/-- A question finds nothing out and fails, and the node is as it was: without knowing. Or the node
keeps what is found out, and the question goes on from there. -/
theorem ask_cases (c : Conversation σ) (q : Question) :
    (c.node.known = none ∧ ∃ e t, c.finding = .error e ∧
        c.ask q = (.error e, ⟨{ c.session with
          store := ⟨t, c.log ++ c.node.resolutionCalls c.frames⟩ }, c.handle⟩)) ∨
      ∃ a t u, c.node.attributes c.frames c.store = (.ok a, { c.node with known := some a }, t) ∧
        c.ask q = ((q.reply c.node.key a t).1, ⟨{ c.session with
          store := ⟨u, c.log ++ c.node.resolutionCalls c.frames ++ q.calls c.node.key a⟩ },
            { c.handle with node := { c.node with known := some a } }⟩) := by
  have hpose := q.pose_watched c.frames c.node c.session.store
  have hstore : c.session.store.store = c.store := rfl
  rw [ask_eq, hpose, hstore]
  rcases c.node.attributes_cases c.frames c.store with ⟨a, t, ha⟩ | ⟨hfresh, e, t, he⟩
  · rw [ha]
    exact .inr ⟨a, t, _, rfl, rfl⟩
  · refine .inl ⟨hfresh, e, t, ?_, ?_⟩
    · rw [finding, he]
    · rw [he]
      rfl

theorem finding_of_known (h : c.node.known = some a) : c.finding = .ok a := by
  rw [finding, Node.attributes_of_known h]

theorem finding_of_unknown (h : c.node.known = none) :
    c.finding = (c.node.resolve c.frames c.store).1 :=
  Node.attributes_of_unknown h c.frames c.store

/-- A node that knows answers from what it knows, and it makes no call to find out. -/
theorem ask_of_known (h : c.node.known = some a) (q : Question) :
    (c.ask q).1 = (q.reply c.node.key a c.store).1 ∧ (c.ask q).2.handle = c.handle ∧
      (c.ask q).2.log = c.log ++ q.calls c.node.key a := by
  have hattributes := Node.attributes_of_known h c.frames c.store
  have hcalls : c.node.resolutionCalls c.frames = [] := by
    simp only [Node.resolutionCalls, h]
  rcases c.ask_cases q with ⟨hfresh, -⟩ | ⟨a', t, u, ha', hask⟩
  · rw [h] at hfresh
    cases hfresh
  · rw [hattributes, Prod.mk.injEq, Prod.mk.injEq] at ha'
    obtain ⟨ha, hnode, rfl⟩ := ha'
    cases ha
    rw [hask, hcalls, List.append_nil, ← hnode]
    exact ⟨rfl, rfl, rfl⟩

/-! ### Questions and what happens between them -/

theorem handle_step_of_ne {event : Event σ} (h : ∀ q, event ≠ .ask q) :
    (c.step event).handle = c.handle := by
  cases event with
  | ask q => exact absurd rfl (h q)
  | enter _ => rfl
  | leave _ => rfl
  | change _ => rfl

theorem handle_after_of_not_mem {events : List (Event σ)} (h : ∀ q, .ask q ∉ events) :
    (c.after events).handle = c.handle := by
  induction events generalizing c with
  | nil => rfl
  | cons event events ih =>
    have hevent : ∀ q, event ≠ .ask q := fun q heq => h q (heq ▸ List.mem_cons_self)
    have hevents : ∀ q, .ask q ∉ events := fun q hmem => h q (List.mem_cons_of_mem _ hmem)
    exact (ih hevents).trans (handle_step_of_ne hevent)

theorem handle_step_of_known (h : c.node.known = some a) (event : Event σ) :
    (c.step event).handle = c.handle := by
  cases event with
  | ask q => exact (ask_of_known h q).2.1
  | enter _ => rfl
  | leave _ => rfl
  | change _ => rfl

theorem handle_after_of_known (h : c.node.known = some a) (events : List (Event σ)) :
    (c.after events).handle = c.handle := by
  induction events generalizing c with
  | nil => rfl
  | cons event events ih =>
    have hstep := handle_step_of_known h event
    have hknown : (c.step event).node.known = some a := by
      rw [node, hstep]
      exact h
    exact (ih hknown).trans hstep

end Conversation

theorem Attributes.consistent (a : Attributes) :
    (a.isFile && a.isDirectory) = false ∧ a.isThere = (a.isFile || a.isDirectory) ∧
      (∀ info, a = .file info →
        a.isFile = true ∧ a.size = info.size ∧ a.modified = info.modified.getD 0) ∧
      (a.isFile = false → a.size = 0 ∧ a.modified = 0) := by
  cases a <;> simp [isFile, isDirectory, isThere, kind, size, modified]

/-- A node is resolved once and stays consistent. A question about a node that does not know yet
finds out afresh what its key stands for, and where no frame covers the key that asks the store once
for objects below it, and once for the object at it unless that is the root of a container. If
nothing is found out, the question fails, and the next one finds out afresh. Otherwise, whatever
happens from then on, all questions find the same, answer from that and make no call but for the
content of the file and a URL for it. What they find is never both a file and a directory, it is
there if it is one of the two, and only a file has a size and a time of change, which are those that
were found out. -/
theorem Conversation.resolved_once [Store σ] (c : Conversation σ) (q : Question) :
    (c.node.known = none →
      c.finding = (c.node.resolve c.frames c.store).1 ∧
        (c.frames.lookup c.node.key = none → c.node.resolutionCalls c.frames =
          (if c.node.key.isRoot then [] else [.metadata c.node.key.container c.node.key.path]) ++
            [.anyUnder c.node.key.container c.node.key.lead])) ∧
      (∀ e, c.finding = .error e →
        (c.ask q).1 = .error e ∧ (c.ask q).2.log = c.log ++ c.node.resolutionCalls c.frames ∧
          ∀ later, (∀ q', .ask q' ∉ later) →
            let d := (c.ask q).2.after later
            d.node = c.node ∧ d.finding = (d.node.resolve d.frames d.store).1) ∧
      ∀ a, c.finding = .ok a →
        (∃ s : σ, (c.ask q).1 = (q.reply c.node.key a s).1) ∧
          (c.ask q).2.log =
            c.log ++ c.node.resolutionCalls c.frames ++ q.calls c.node.key a ∧
          (∀ later q',
            let d := (c.ask q).2.after later
            d.finding = .ok a ∧ (d.ask q').1 = (q'.reply c.node.key a d.store).1 ∧
              (d.ask q').2.log = d.log ++ q'.calls c.node.key a) ∧
          (a.isFile && a.isDirectory) = false ∧ a.isThere = (a.isFile || a.isDirectory) ∧
            (∀ info, a = .file info →
              a.isFile = true ∧ a.size = info.size ∧ a.modified = info.modified.getD 0) ∧
            (a.isFile = false → a.size = 0 ∧ a.modified = 0) := by
  refine ⟨fun hfresh => ⟨finding_of_unknown hfresh, fun hnone => ?_⟩, fun e he => ?_,
    fun a ha => ?_⟩
  · simp only [Node.resolutionCalls, hfresh, hnone]
  · rcases c.ask_cases q with ⟨hfresh, e', t, he', hask⟩ | ⟨a, t, u, ha, -⟩
    · rw [he] at he'
      cases he'
      rw [hask]
      refine ⟨rfl, rfl, fun later hlater => ?_⟩
      intro d
      have hnode : d.node = c.node := congrArg Handle.node (handle_after_of_not_mem hlater)
      exact ⟨hnode, finding_of_unknown (hnode ▸ hfresh)⟩
    · rw [finding, ha] at he
      cases he
  · rcases c.ask_cases q with ⟨-, e, t, he, -⟩ | ⟨a', t, u, ha', hask⟩
    · rw [ha] at he
      cases he
    · rw [finding, ha'] at ha
      cases ha
      rw [hask]
      refine ⟨⟨t, rfl⟩, rfl, fun later q' => ?_, a.consistent⟩
      intro d
      have hnode : d.node = { c.node with known := some a } :=
        congrArg Handle.node (handle_after_of_known rfl later)
      have hknown : d.node.known = some a := by rw [hnode]
      have hkey : d.node.key = c.node.key := by rw [hnode]
      obtain ⟨hanswer, -, hlog⟩ := ask_of_known hknown q'
      rw [hkey] at hanswer hlog
      exact ⟨finding_of_known hknown, hanswer, hlog⟩

/-- A file whose container is closed at first, and which is gone once it was found. -/
theorem Conversation.resolved_once_of_removed :
    let objects : Catalog Blob := Catalog.empty.insert "a/f" ⟨[1, 2, 3, 4], 5⟩
    let s : MemoryStore :=
      { containers := Catalog.empty.insert "box" objects, denied := ["box"] }
    let root : Handle := ⟨{ key := ⟨"box", ""⟩ }, 0⟩
    let closed : Conversation MemoryStore :=
      ⟨{ store := ⟨s, []⟩, contexts := [{}] }, ⟨{ key := ⟨"box", "a/f"⟩ }, 0⟩⟩
    let opened := (closed.ask .isFile).2.after [.change fun s => { s with denied := [] }]
    let gone := (opened.ask .size).2.after [.change fun s => s.remove "box" "a/f", .enter root]
    (∃ e, (closed.ask .isFile).1 = .error e) ∧ opened.node = closed.node ∧
      (opened.ask .size).2.log = opened.log ++ [.metadata "box" "a/f", .anyUnder "box" "a/f/"] ∧
        (opened.ask .size).1 = .ok (.size 4) ∧
          (gone.ask .isFile).1 = .ok (.truth true) ∧
            (gone.ask .isDirectory).1 = .ok (.truth false) ∧
              (gone.ask .size).1 = .ok (.size 4) ∧ (gone.ask .modified).1 = .ok (.time 5) ∧
                (gone.ask .size).2.log = gone.log := by
  intro objects s root closed opened gone
  have hdenied : closed.finding = .error (.accessDenied "box/a/f"
      (StoreError.accessDenied "box" "a/f"
        "container is not readable with the supplied credentials").message) := rfl
  have hfound : opened.finding = .ok (.file ⟨4, some 5⟩) := rfl
  obtain ⟨-, hfails, -⟩ := resolved_once closed .isFile
  obtain ⟨-, -, hsucceeds⟩ := resolved_once opened .size
  obtain ⟨herror, -, hafresh⟩ := hfails _ hdenied
  obtain ⟨⟨_, hsize⟩, hlog, hlater, -, -, hvalues, -⟩ := hsucceeds _ hfound
  obtain ⟨-, hbytes, hsecond⟩ := hvalues _ rfl
  refine ⟨⟨_, herror⟩, (hafresh [.change fun s => { s with denied := [] }] (by simp)).1, hlog, ?_⟩
  have hagain := hlater [.change fun s => s.remove "box" "a/f", .enter root]
  refine ⟨?_, (hagain .isFile).2.1, (hagain .isDirectory).2.1, ?_, ?_,
    ((hagain .size).2.2).trans (List.append_nil _)⟩
  · rw [hsize, Question.reply, hbytes]
  · rw [(hagain .size).2.1, Question.reply, hbytes]
  · rw [(hagain .modified).2.1, Question.reply, hsecond]
    rfl

end BlobDepot
