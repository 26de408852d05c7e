import BlobDepot.Proofs.Tree.Listings
import BlobDepot.Proofs.Tree.ScopedRuns
import BlobDepot.Store.Scripted

/-!
# The calls of a tree

Opening a scope makes one recursive listing, and looks for the object at its node unless that is the
root of a container. While the scope is open, no question about its node or what is reached from
there makes a call, and so no answer depends on what becomes of the store.
-/
namespace BlobDepot

variable {σ α : Type}

/-! ## Watched stores -/

structure Watched (σ : Type) where
  store : σ
  log : List RecordedCall := []

namespace Watched

def record (call : RecordedCall) (question : Call σ α) : Call (Watched σ) α := fun w =>
  let (answer, store) := question w.store
  (answer, ⟨store, w.log ++ [call]⟩)

instance [Store σ] : Store (Watched σ) where
  providerId w := Store.providerId w.store
  list container start recursive :=
    record (.list container start recursive) (Store.list container start recursive)
  anyUnder container start := record (.anyUnder container start) (Store.anyUnder container start)
  metadata container key := record (.metadata container key) (Store.metadata container key)
  read container key := record (.read container key) (Store.read container key)
  presign container key access ttl :=
    record (.presign container key access ttl) (Store.presign container key access ttl)

end Watched

namespace Node

variable {n m c : Node} {stack : FrameStack}

def entryCalls (n : Node) : List RecordedCall :=
  (if n.key.isRoot then [] else [.metadata n.key.container n.key.path]) ++
    [.list n.key.container n.key.lead true]

theorem findObject_watched [Store σ] (n : Node) (w : Watched σ) :
    n.findObject w = ((n.findObject w.store).1, ⟨(n.findObject w.store).2,
      w.log ++ if n.key.isRoot then [] else [.metadata n.key.container n.key.path]⟩) := by
  cases hroot : n.key.isRoot with
  | true => simp [findObject, hroot]
  | false =>
    simp only [findObject, hroot]
    rfl

theorem frame_watched [Store σ] (n : Node) (w : Watched σ) :
    n.frame w = ((n.frame w.store).1, ⟨(n.frame w.store).2, w.log ++ n.entryCalls⟩) := by
  simp only [frame, findObject_watched, entryCalls, ← List.append_assoc]
  rfl

/-- Opening a scope on a watched store is what it is on the store itself, and makes the calls of an
entry whether it succeeds or not. -/
theorem enter_watched [Store σ] (stack : FrameStack) (n : Node) (w : Watched σ) :
    n.enter stack w =
      ((n.enter stack w.store).1, (n.enter stack w.store).2.1,
        ⟨(n.enter stack w.store).2.2, w.log ++ n.entryCalls⟩) := by
  rcases hframe : n.frame w.store with ⟨e | f, t⟩ <;> simp [enter, frame_watched, hframe]

/-! ## Nodes reached from a node -/

/-- What is reached from a node by steps to children, listings and questions, whatever the stack and
the store are at the time. -/
inductive Reached (n : Node) : Node → Prop where
  | self : Reached n n
  | child {m : Node} (step : String) (h : Reached n m) : Reached n (m.child step)
  | listed {σ : Type} [Store σ] {m c : Node} {stack : FrameStack} {s : σ} {nodes : List Node}
      (hnodes : (m.children stack s).1 = .ok nodes) (hc : c ∈ nodes) (h : Reached n m) :
      Reached n c
  | asked {σ : Type} [Store σ] {m : Node} (stack : FrameStack) (s : σ) (h : Reached n m) :
      Reached n (m.attributes stack s).2.1

theorem key_of_mem_children [Store σ] {s : σ} {nodes : List Node}
    (h : (m.children stack s).1 = .ok nodes) (hc : c ∈ nodes) :
    ∃ step, c.key = m.key.child step := by
  cases hlookup : stack.lookup m.key with
  | some hit =>
    obtain ⟨f, path⟩ := hit
    rw [children_of_lookup s hlookup] at h
    obtain rfl := Except.ok.inj h
    obtain ⟨step, -, rfl⟩ := List.mem_map.1 hc
    exact ⟨step, rfl⟩
  | none =>
    rcases hlist : Store.list m.key.container m.key.lead false s with ⟨e | entries, t⟩
    · simp only [children, hlookup, hlist, answer] at h
      cases h
    · simp only [children, hlookup, hlist, answer] at h
      obtain rfl := Except.ok.inj h
      obtain ⟨e, -, rfl⟩ := List.mem_map.1 hc
      exact ⟨e.1, rfl⟩

theorem key_attributes [Store σ] (stack : FrameStack) (m : Node) (s : σ) :
    (m.attributes stack s).2.1.key = m.key := by
  rw [attributes]
  split
  · rfl
  · split <;> rfl

end Node

namespace Key

theorem leadsTo_self (k : Key) : k.LeadsTo k :=
  ⟨rfl, List.prefix_refl _⟩

/-- What leads to a key leads to its children, whatever the step is. -/
theorem LeadsTo.child {root k : Key} (h : root.LeadsTo k) (step : String) :
    root.LeadsTo (k.child step) := by
  refine ⟨h.1, h.2.trans ?_⟩
  by_cases hpath : k.path = ""
  · simp [hpath]
  · have hchild : (k.child step).path = k.path ++ "/" ++ step := by
      rw [Key.child, Path.child, if_neg hpath]
    rw [hchild, Path.parts_of_ne_empty hpath, Path.parts_of_ne_empty (by simp),
      Path.segments_append_slash]
    exact List.prefix_append _ _

end Key

theorem Node.Reached.leadsTo {n m : Node} (h : n.Reached m) : n.key.LeadsTo m.key := by
  induction h with
  | self => exact n.key.leadsTo_self
  | child step _ ih => exact ih.child step
  | listed hnodes hc _ ih =>
    obtain ⟨step, hstep⟩ := Node.key_of_mem_children hnodes hc
    rw [hstep]
    exact ih.child step
  | asked stack s _ ih =>
    rw [Node.key_attributes]
    exact ih

/-! ## Questions inside a scope -/

namespace FrameStack

variable {stack stack' : FrameStack} {k : Key}

/-- The frames alone decide where a key is looked up. -/
theorem lookup_congr (h : stack.frames.map Prod.snd = stack'.frames.map Prod.snd) (k : Key) :
    stack.lookup k = stack'.lookup k := by
  have hlookup : ∀ s : FrameStack,
      s.lookup k = (s.frames.map Prod.snd).findSome? fun f => (f.pathTo? k).map (f, ·) := by
    intro s
    rw [List.findSome?_map]
    rfl
  rw [hlookup, hlookup, h]

theorem exists_lookup_of_leadsTo {e : Nat × Frame} (he : e ∈ stack.frames)
    (hleads : e.2.root.LeadsTo k) : ∃ f path, stack.lookup k = some (f, path) := by
  cases hlookup : stack.lookup k with
  | some hit => exact ⟨hit.1, hit.2, rfl⟩
  | none =>
    obtain ⟨ticket, f⟩ := e
    have hnone : (f.pathTo? k).map (f, ·) = none :=
      List.findSome?_eq_none_iff.1 hlookup (ticket, f) he
    rw [f.pathTo?_eq, if_pos hleads] at hnone
    cases hnone

/-- Where a frame covers a key its children are covered, by the same frame or one further in. -/
theorem exists_lookup_child {hit : Frame × String} (h : stack.lookup k = some hit)
    (step : String) : ∃ f path, stack.lookup (k.child step) = some (f, path) := by
  obtain ⟨hpath, ticket, hf⟩ := exists_of_lookup h
  rw [hit.1.pathTo?_eq, Option.ite_none_right_eq_some] at hpath
  exact exists_lookup_of_leadsTo hf (hpath.1.child step)

end FrameStack

namespace Node

variable {n : Node} {stack : FrameStack} {f : Frame} {path : String}

theorem attributes_of_lookup [Store σ] (s : σ) (hlookup : stack.lookup n.key = some (f, path)) :
    n.attributes stack s =
      (.ok (n.known.getD (f.attributes path)),
        { n with known := some (n.known.getD (f.attributes path)) }, s) := by
  obtain ⟨key, known⟩ := n
  cases known with
  | none => simp only [attributes, resolve, hlookup, Option.getD_none]
  | some a => rfl

theorem glob_of_lookup [Store σ] (s : σ) (hlookup : stack.lookup n.key = some (f, path))
    (engine : Glob.Engine) (includes excludes : List String) :
    n.glob engine stack includes excludes s =
      (match Glob.Filter.ofPatterns engine includes excludes with
        | .error r => .error (.invalidPattern r)
        | .ok filter => .ok (((f.filesBelow path).map Prod.fst).filter filter.lets), s) := by
  rw [glob]
  cases Glob.Filter.ofPatterns engine includes excludes with
  | error r => rfl
  | ok filter =>
    simp only [files_of_lookup s hlookup]
    rfl

end Node

/-- The scope of a run that is underway has its frame on the stack. -/
theorem ScopedRuns.Sound.exists_frame {c : ScopedRuns} {i : Nat} {n : Node} {f : Frame}
    (h : c.Sound) (hrun : c.runs[i]? = some (.underway n f)) :
    ∃ e ∈ c.openings.stack.frames, e.2.root = n.key := by
  have hmem : f ∈ c.openings.stack.frames.map Prod.snd := by
    rw [h.frames_eq, mem_openFrames_iff]
    exact ⟨n, List.mem_of_getElem? hrun⟩
  obtain ⟨e, he, rfl⟩ := List.mem_map.1 hmem
  exact ⟨e, he, h.root n e.2 (List.mem_of_getElem? hrun)⟩

/-! ## What an entry costs -/

namespace MemoryStore

variable {container key start : String} {recursive : Bool} {s : MemoryStore}

theorem counts_metadata (container key : String) (s : MemoryStore) :
    (metadata container key s).2.counts = s.countMetadata.counts := by
  rw [metadata]
  split <;> rfl

theorem counts_list (container start : String) (recursive : Bool) (s : MemoryStore) :
    ∃ entries, (list container start recursive s).2.counts =
      { s.countList.counts with listedEntries := s.counts.listedEntries + entries } := by
  rw [list]
  split
  · exact ⟨0, rfl⟩
  · exact ⟨_, rfl⟩

end MemoryStore

theorem Node.counts_enter (stack : FrameStack) (n : Node) (s : MemoryStore) :
    ∃ entries, (n.enter stack s).2.2.counts =
      { s.counts with
        list := s.counts.list + 1
        metadata := s.counts.metadata + if n.key.isRoot then 0 else 1
        listedEntries := s.counts.listedEntries + entries } := by
  have hfound : (n.findObject s).2.counts =
      { s.counts with metadata := s.counts.metadata + if n.key.isRoot then 0 else 1 } := by
    cases hroot : n.key.isRoot with
    | true => simp [findObject, hroot]
    | false =>
      have hasked : (n.findObject s).2 = (MemoryStore.metadata n.key.container n.key.path s).2 := by
        simp only [findObject, hroot]
        rfl
      rw [hasked, MemoryStore.counts_metadata]
      rfl
  obtain ⟨entries, hlist⟩ :=
    MemoryStore.counts_list n.key.container n.key.lead true (n.findObject s).2
  refine ⟨entries, ?_⟩
  have hframe : (n.frame s).2.counts =
      (MemoryStore.list n.key.container n.key.lead true (n.findObject s).2).2.counts := rfl
  have henter : (n.enter stack s).2.2 = (n.frame s).2 := by
    rcases hframe : n.frame s with ⟨e | f, t⟩ <;> simp [enter, hframe]
  rw [henter, hframe, hlist, hfound]
  simp [MemoryStore.countList, hfound]

/-- While a run is underway, every question about what is reached from its node is answered from the
frames alone: it makes no call, leaves the store as it is, and has the same answer on every store
while the frames on the stack are the same ones. The run made one recursive listing, and one call
for the object at its node unless that is the root of a container. -/
theorem ScopedRuns.no_call_while_underway {events : List ScopeEvent} {i : Nat} {n m : Node}
    {f : Frame} (hrun : (after events).runs[i]? = some (.underway n f)) (hm : n.Reached m) :
    (∃ g path, (after events).openings.stack.lookup m.key = some (g, path) ∧
      ∀ stack : FrameStack,
        stack.frames.map Prod.snd = (after events).openings.stack.frames.map Prod.snd →
        ∀ (σ : Type) [Store σ] (s : σ),
          let a := m.known.getD (g.attributes path)
          m.attributes stack s = (.ok a, { m with known := some a }, s) ∧
            m.children stack s = (.ok ((g.children path).map m.child), s) ∧
            m.files stack s = (.ok ((g.filesBelow path).map Prod.fst), s) ∧
            ∀ engine includes excludes, m.glob engine stack includes excludes s =
              (match Glob.Filter.ofPatterns engine includes excludes with
                | .error r => .error (.invalidPattern r)
                | .ok filter => .ok (((g.filesBelow path).map Prod.fst).filter filter.lets), s)) ∧
      (∀ (stack : FrameStack) (σ : Type) [Store σ] (w : Watched σ),
        let (answer, stack', s') := n.enter stack w.store
        n.enter stack w = (answer, stack', ⟨s', w.log ++
          (if n.key.isRoot then [] else [.metadata n.key.container n.key.path]) ++
            [.list n.key.container n.key.lead true]⟩)) ∧
      ∀ (stack : FrameStack) (s : MemoryStore), ∃ entries, (n.enter stack s).2.2.counts =
        { s.counts with
          list := s.counts.list + 1
          metadata := s.counts.metadata + if n.key.isRoot then 0 else 1
          listedEntries := s.counts.listedEntries + entries } := by
  refine ⟨?_, fun stack σ _ w => ?_, fun stack s => n.counts_enter stack s⟩
  · obtain ⟨e, he, hroot⟩ := (sound_after events).exists_frame hrun
    obtain ⟨g, path, hlookup⟩ := FrameStack.exists_lookup_of_leadsTo he (hroot ▸ hm.leadsTo)
    refine ⟨g, path, hlookup, fun stack hframes σ _ s => ?_⟩
    have hsame : stack.lookup m.key = some (g, path) :=
      (FrameStack.lookup_congr hframes m.key).trans hlookup
    exact ⟨m.attributes_of_lookup s hsame, m.children_of_lookup s hsame, m.files_of_lookup s hsame,
      m.glob_of_lookup s hsame⟩
  · simp only [n.enter_watched stack w, Node.entryCalls, List.append_assoc]

/-- A directory below the node of a run, on a store that has been closed meanwhile. -/
theorem ScopedRuns.no_call_while_underway_of_closed :
    let objects : Catalog Blob := Catalog.empty.insert "a/b/x" ⟨[7], 1⟩
    let s : MemoryStore := { containers := Catalog.empty.insert "box" objects }
    let n : Node := { key := ⟨"box", "a"⟩ }
    let m : Node := n.child "b"
    let stack := (after [.start n s]).openings.stack
    let closed := s.deny "box"
    m.attributes stack closed = (.ok .directory, { m with known := some .directory }, closed) ∧
      m.children stack closed = (.ok [m.child "x"], closed) ∧
      m.files stack closed = (.ok ["x"], closed) ∧
      (n.enter stack s).2.2.counts.list = 1 ∧ (n.enter stack s).2.2.counts.metadata = 1 := by
  intro objects s n m stack closed
  have hrun : (after [.start n s]).runs[0]? = some (.underway n (.snapshot objects n.key)) := rfl
  obtain ⟨⟨g, path, hlookup, hanswers⟩, -, hcost⟩ :=
    no_call_while_underway hrun (Node.Reached.self.child "b")
  obtain ⟨hattributes, hchildren, hfiles, -⟩ := hanswers stack rfl MemoryStore closed
  obtain ⟨entries, hcounts⟩ := hcost stack s
  -- What the frame says is worked out from the stack.
  have hknown : (stack.lookup m.key).map (fun hit => hit.1.attributes hit.2) =
      some .directory := by decide +kernel
  have hbelow : (stack.lookup m.key).map (fun hit => hit.1.children hit.2) = some ["x"] := by
    decide +kernel
  have hpaths : (stack.lookup m.key).map (fun hit => (hit.1.filesBelow hit.2).map Prod.fst) =
      some ["x"] := by decide +kernel
  rw [hlookup, Option.map_some, Option.some.injEq] at hknown hbelow hpaths
  rw [hknown] at hattributes
  rw [hbelow] at hchildren
  rw [hpaths] at hfiles
  refine ⟨hattributes, hchildren, hfiles, ?_, ?_⟩
  · rw [hcounts]
  · rw [hcounts]
    rfl

end BlobDepot
