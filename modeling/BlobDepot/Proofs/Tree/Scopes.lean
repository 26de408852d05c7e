import BlobDepot.Proofs.Tree.Snapshot

/-!
# Scopes over unchanged objects

While the objects of a container stay as they are, every scope that is opened over them pushes a
frame of the same objects. Questions that a frame answers then have the answers of the store.
-/
namespace BlobDepot

/-- A container is open and holds these objects. -/
structure MemoryStore.Shows (s : MemoryStore) (container : String) (objects : Catalog Blob) :
    Prop where
  holds : s.containers.get? container = some objects
  allowed : container ∉ s.denied

variable {container : String} {objects : Catalog Blob} {s s' : MemoryStore} {n : Node}
  {stack : FrameStack}

namespace MemoryStore

theorem Shows.objects_eq (h : s.Shows container objects) (key : String) :
    s.objects container key = .ok objects := by
  have hallowed : s.denied.contains container = false := by
    simpa using h.allowed
  simp only [MemoryStore.objects, letThrough, hallowed, h.holds]
  rfl

theorem Shows.metadata_eq (h : s.Shows container objects) (key : String) :
    metadata container key s =
      (.ok ((objects.get? key).map fun b =>
        { size := b.data.length, modified := some b.modified }), s.countMetadata) := by
  rw [metadata, h.objects_eq]

theorem Shows.anyUnder_fst (h : s.Shows container objects) (start : String) :
    (anyUnder container start s).1 = .ok (objects.hasUnder start) := by
  rw [anyUnder, h.objects_eq]
  dsimp only
  cases objects.hasUnder start <;> rfl

theorem Shows.list_fst (h : s.Shows container objects) (start : String) (recursive : Bool) :
    (list container start recursive s).1 = .ok (listing objects start recursive) := by
  rw [list, h.objects_eq]

end MemoryStore

namespace Node

/-! ## Questions to the store -/

theorem findObject_of_shows (h : s.Shows n.key.container objects) :
    ∃ s', n.findObject s = (.ok (MemoryStore.fileAt objects n.key.path), s') ∧
      s'.Shows n.key.container objects := by
  by_cases hroot : n.key.path = ""
  · exact ⟨s, by simp [findObject, Key.isRoot, MemoryStore.fileAt, hroot], h⟩
  · refine ⟨s.countMetadata, ?_, ⟨h.holds, h.allowed⟩⟩
    have hmetadata : Store.metadata n.key.container n.key.path s = _ := h.metadata_eq n.key.path
    simp only [findObject, Key.isRoot, MemoryStore.fileAt, hroot, hmetadata]
    cases objects.get? n.key.path <;> rfl

theorem resolve_of_lookup_eq_none (h : s.Shows n.key.container objects)
    (hnone : stack.lookup n.key = none) :
    (n.resolve stack s).1 = .ok (MemoryStore.attributesAt objects n.key.path) := by
  obtain ⟨s', hfind, hs'⟩ := n.findObject_of_shows h
  have hbelow : (Store.anyUnder n.key.container n.key.lead s').1 =
      .ok (objects.hasUnder n.key.lead) := hs'.anyUnder_fst n.key.lead
  rcases hcall : Store.anyUnder n.key.container n.key.lead s' with ⟨below, t⟩
  rw [hcall] at hbelow
  obtain rfl : below = .ok (objects.hasUnder n.key.lead) := hbelow
  simp only [resolve, hnone, hfind, hcall, MemoryStore.attributesAt]
  cases MemoryStore.fileAt objects n.key.path <;> rfl

theorem frame_of_shows (h : s.Shows n.key.container objects) :
    (n.frame s).1 = .ok (.snapshot objects n.key) := by
  obtain ⟨s', hfind, hs'⟩ := n.findObject_of_shows h
  have hlist : (Store.list n.key.container n.key.lead true s').1 =
      .ok (MemoryStore.listing objects n.key.lead true) := hs'.list_fst n.key.lead true
  rcases hcall : Store.list n.key.container n.key.lead true s' with ⟨entries, t⟩
  rw [hcall] at hlist
  obtain rfl : entries = .ok (MemoryStore.listing objects n.key.lead true) := hlist
  simp only [frame, hfind, hcall]
  rfl

theorem root_of_frame {σ : Type} [Store σ] {s : σ} {f : Frame} (h : (n.frame s).1 = .ok f) :
    f.root = n.key := by
  rcases hfind : n.findObject s with ⟨found, t⟩
  rcases hlist : Store.list n.key.container n.key.lead true t with ⟨entries, u⟩
  simp only [frame, hfind, hlist] at h
  cases entries with
  | error e => cases h
  | ok entries =>
    cases found with
    | error e => cases h
    | ok found =>
      cases h
      rfl

theorem attributes_of_resolve {σ : Type} [Store σ] {s : σ} {a : Attributes}
    (hfresh : n.known = none) (h : (n.resolve stack s).1 = .ok a) :
    (n.attributes stack s).1 = .ok a := by
  rcases hresolve : n.resolve stack s with ⟨r, t⟩
  rw [hresolve] at h
  obtain rfl : r = .ok a := h
  simp only [attributes, hfresh, hresolve]

theorem enter_cases {σ : Type} [Store σ] (stack : FrameStack) (n : Node) (s : σ) :
    (∃ f, (n.frame s).1 = .ok f ∧ (n.enter stack s).2.1 = stack.push f) ∨
      (n.enter stack s).2.1 = stack := by
  rcases hframe : n.frame s with ⟨e | f, t⟩
  · exact .inr (by simp [enter, hframe])
  · exact .inl ⟨f, rfl, by simp [enter, hframe]⟩

end Node

namespace FrameStack

/-- Stacks of the scopes that are opened and closed on a store in memory while a container holds
these objects. -/
inductive Opened (container : String) (objects : Catalog Blob) : FrameStack → Prop where
  | empty : Opened container objects {}
  | enter {stack : FrameStack} (n : Node) {s : MemoryStore} (hs : s.Shows container objects)
      (h : Opened container objects stack) : Opened container objects (n.enter stack s).2.1
  | close {stack : FrameStack} (ticket : Nat) (h : Opened container objects stack) :
      Opened container objects (stack.close ticket)

theorem Opened.frame_eq (h : Opened container objects stack) :
    ∀ e ∈ stack.frames, e.2.root.container = container → e.2 = .snapshot objects e.2.root := by
  induction h with
  | empty => nofun
  | @enter stack n s hs _ ih =>
    rcases n.enter_cases stack s with ⟨f, hframe, henter⟩ | henter
    · rw [henter]
      intro e he hcontainer
      rcases List.mem_cons.1 he with rfl | he
      · have hroot : f.root = n.key := Node.root_of_frame hframe
        have hn : n.key.container = container := hroot ▸ hcontainer
        subst hn
        rw [Node.frame_of_shows hs] at hframe
        rw [hroot]
        exact (Except.ok.inj hframe).symm
      · exact ih e he hcontainer
    · rw [henter]
      exact ih
  | close ticket _ ih =>
    intro e he
    exact ih e (List.mem_filter.1 he).1

theorem exists_of_lookup {k : Key} {f : Frame} {path : String}
    (h : stack.lookup k = some (f, path)) :
    f.pathTo? k = some path ∧ ∃ ticket, (ticket, f) ∈ stack.frames := by
  obtain ⟨e, he, hpath⟩ := List.exists_of_findSome?_eq_some h
  obtain ⟨p, hp, heq⟩ := Option.map_eq_some_iff.1 hpath
  cases heq
  exact ⟨hp, e.1, he⟩

/-- A key of the container is looked up in a frame of its objects. -/
theorem Opened.snapshot_of_lookup {k : Key} {f : Frame} {path : String}
    (h : Opened k.container objects stack) (hlookup : stack.lookup k = some (f, path)) :
    f = .snapshot objects f.root ∧ f.pathTo? k = some path ∧
      f.root.container = k.container ∧ ∃ ticket, (ticket, f) ∈ stack.frames := by
  obtain ⟨hcover, ticket, hf⟩ := exists_of_lookup hlookup
  have hcontainer : f.root.container = k.container := (Frame.path_of_pathTo? hcover).1.symm
  exact ⟨h.frame_eq _ hf hcontainer, hcover, hcontainer, ticket, hf⟩

end FrameStack

/-- A node that a frame covers is what the objects tell, whatever has become of the store. -/
theorem Node.resolve_of_covered {σ : Type} [Store σ] {f : Frame} {path : String} (t : σ)
    (hopened : FrameStack.Opened n.key.container objects stack)
    (hmarker : ∀ e ∈ stack.frames, e.2.root.container = n.key.container →
      objects.get? e.2.root.lead = none)
    (hpath : ∀ p, n.key.path ≠ p ++ "/") (hlookup : stack.lookup n.key = some (f, path)) :
    n.resolve stack t = (.ok (MemoryStore.attributesAt objects n.key.path), t) := by
  obtain ⟨hframe, hcover, hcontainer, ticket, hf⟩ := hopened.snapshot_of_lookup hlookup
  have hattributes : f.attributes path = MemoryStore.attributesAt objects n.key.path := by
    rw [hframe] at hcover ⊢
    exact Frame.attributes_snapshot hcover (hmarker _ hf hcontainer) hpath
  simp only [resolve, hlookup, hattributes]

theorem Node.resolve_of_opened (hopened : FrameStack.Opened container objects stack)
    (hmarker : ∀ e ∈ stack.frames, e.2.root.container = container →
      objects.get? e.2.root.lead = none)
    (hn : n.key.container = container) (hpath : ∀ p, n.key.path ≠ p ++ "/")
    (hs : s.Shows container objects) :
    (n.resolve stack s).1 = .ok (MemoryStore.attributesAt objects n.key.path) := by
  subst hn
  cases hlookup : stack.lookup n.key with
  | none => exact n.resolve_of_lookup_eq_none hs hlookup
  | some hit => rw [n.resolve_of_covered s hopened hmarker hpath hlookup]

/-- Cached attributes are those of the store. On every stack of scopes over unchanged objects, a
node whose path does not end in a slash is what it is without any scope, unless an object's key is
the prefix of a frame on the stack. -/
theorem Node.attributes_eq_of_opened (hopened : FrameStack.Opened container objects stack)
    (hmarker : ∀ e ∈ stack.frames, e.2.root.container = container →
      objects.get? e.2.root.lead = none)
    (hn : n.key.container = container) (hfresh : n.known = none)
    (hpath : ∀ p, n.key.path ≠ p ++ "/") (hs : s.Shows container objects)
    (hs' : s'.Shows container objects) :
    ∃ a, (n.attributes stack s).1 = .ok a ∧ (n.attributes {} s').1 = .ok a ∧
      a = MemoryStore.attributesAt objects n.key.path := by
  have hcached := Node.resolve_of_opened hopened hmarker hn hpath hs
  have hdirect := Node.resolve_of_opened .empty nofun hn hpath hs'
  exact ⟨_, Node.attributes_of_resolve hfresh hcached, Node.attributes_of_resolve hfresh hdirect,
    rfl⟩

/-- Inside a scope on a directory that has a namesake with more letters. -/
theorem Node.attributes_eq_of_opened_directory :
    let objects : Catalog Blob := (Catalog.empty.insert "a/b" ⟨[7], 1⟩).insert "ab" ⟨[], 2⟩
    let s : MemoryStore := { containers := Catalog.empty.insert "c" objects }
    let n : Node := { key := ⟨"c", "a"⟩ }
    let stack := (n.enter {} s).2.1
    (n.attributes stack s).1 = .ok .directory ∧ (n.attributes {} s).1 = .ok .directory := by
  intro objects s n stack
  have hs : s.Shows "c" objects := ⟨rfl, nofun⟩
  have hframes : stack.frames = [(0, .snapshot objects n.key)] := rfl
  have hmarker : ∀ e ∈ stack.frames, e.2.root.container = "c" →
      objects.get? e.2.root.lead = none := by
    intro e he _
    rw [hframes, List.mem_singleton] at he
    subst he
    decide +kernel
  have hpath : ∀ p, n.key.path ≠ p ++ "/" := by
    intro p heq
    have hlast := congrArg (fun path => path.toList.getLast?) heq
    simp [n] at hlast
  obtain ⟨a, hcached, hdirect, ha⟩ :=
    Node.attributes_eq_of_opened (.enter n hs .empty) hmarker rfl rfl hpath hs hs
  have hdirectory : MemoryStore.attributesAt objects n.key.path = .directory := by
    decide +kernel
  rw [hcached, hdirect, ha, hdirectory]
  exact ⟨rfl, rfl⟩

end BlobDepot
