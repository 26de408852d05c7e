import BlobDepot.Proofs.Tree.Discipline

/-!
# Two stores in one context

The trees of two stores may share a context. A frame does not know the store it was taken from, so
it answers for every key it covers. What a node of the second store answers is independent of the
first store as long as the last opened scope that covers its key is one on the second store.
-/
namespace BlobDepot

variable {σ τ : Type} {k : Key}

/-- Two stores and the context that nodes of both are joined to. -/
structure Shared (σ τ : Type) where
  first : σ
  second : τ
  context : Openings := {}

/-- What happens in the context: a scope is opened on a node of the one store or the other, or an
opening ends. -/
inductive Move where
  | enterFirst (n : Node)
  | enterSecond (n : Node)
  | leave (opening : Nat)

namespace Shared

def step [Store σ] [Store τ] (s : Shared σ τ) : Move → Shared σ τ
  | .enterFirst n =>
    let (context, first) := s.context.enter n s.first
    { s with first, context }
  | .enterSecond n =>
    let (context, second) := s.context.enter n s.second
    { s with second, context }
  | .leave opening => { s with context := s.context.leave opening }

def run [Store σ] [Store τ] (moves : List Move) (first : σ) (second : τ) : Shared σ τ :=
  moves.foldl step { first, second }

/-- What a fresh node of the second store answers: its attributes, its children and the files below
it. -/
def answers [Store τ] (s : Shared σ τ) (k : Key) :
    Except TreeError Attributes × Except TreeError (List Node) × Except TreeError (List String) :=
  let n : Node := { key := k }
  ((n.attributes s.context.stack s.second).1, (n.children s.context.stack s.second).1,
    (n.files s.context.stack s.second).1)

theorem answers_congr [Store τ] {s : Shared σ τ} {s' : Shared σ τ} (hsecond : s.second = s'.second)
    (hlookup : s.context.stack.lookup k = s'.context.stack.lookup k) :
    s.answers k = s'.answers k := by
  simp only [answers, Node.attributes, Node.resolve, Node.children, Node.files, hsecond, hlookup]

end Shared

/-! ## What is known without the first store -/

/-- An open scope as far as it is known without the first store. Of a scope on that store this is
its root. -/
inductive Layer where
  | first (root : Key)
  | second (f : Frame)

namespace Layer

def root : Layer → Key
  | first root => root
  | second f => f.root

def covers (l : Layer) (k : Key) : Bool :=
  ((Frame.mk l.root .empty none).pathTo? k).isSome

/-- The frame of a scope on the second store and the path of a key in it. -/
def hit? (k : Key) : Layer → Option (Frame × String)
  | first _ => none
  | second f => (f.pathTo? k).map (f, ·)

end Layer

/-- The second store and the openings, as far as they are known without the first store. -/
structure Plan (τ : Type) where
  second : τ
  outline : Outline Layer := {}

namespace Plan

/-- An opening on the first store stands for all that may come of it. -/
def step [Store τ] (p : Plan τ) : Move → Plan τ
  | .enterFirst n => { p with outline := p.outline.opened (.first n.key) }
  | .enterSecond n =>
    let (f, second) := n.frame p.second
    { second, outline := p.outline.tried (f.toOption.map .second) }
  | .leave opening => { p with outline := p.outline.ended opening }

def run [Store τ] (moves : List Move) (second : τ) : Plan τ :=
  moves.foldl step { second }

end Plan

/-- Of the scopes that were opened and not ended and that cover a key, the last one is on the first
store. There is no telling which openings on that store fail, so they all count. -/
def Exposed [Store τ] (moves : List Move) (second : τ) (k : Key) : Prop :=
  ∃ opening root, ((Plan.run moves second).outline.standing.find? fun e => e.2.covers k) =
    some (opening, .first root)

theorem Frame.pathTo?_eq_of_root_eq {f g : Frame} (h : f.root = g.root) (k : Key) :
    f.pathTo? k = g.pathTo? k := by
  rw [pathTo?, pathTo?, h]

theorem Layer.covers_eq {l : Layer} {f : Frame} (h : f.root = l.root) (k : Key) :
    l.covers k = (f.pathTo? k).isSome := by
  rw [covers, f.pathTo?_eq_of_root_eq (g := ⟨l.root, .empty, none⟩) h]

/-! ## What comes of the openings -/

/-- The frames that come of layers, when `shows` tells what may come of an opening on the first
store. -/
inductive Realizes (shows : Key → Option Frame → Prop) :
    List (Nat × Layer) → List (Nat × Frame) → Prop where
  | nil : Realizes shows [] []
  | second {ls : List (Nat × Layer)} {fs : List (Nat × Frame)} (i : Nat) (f : Frame)
      (h : Realizes shows ls fs) : Realizes shows ((i, .second f) :: ls) ((i, f) :: fs)
  | opened {ls : List (Nat × Layer)} {fs : List (Nat × Frame)} (i : Nat) {root : Key} {f : Frame}
      (hf : shows root (some f)) (h : Realizes shows ls fs) :
      Realizes shows ((i, .first root) :: ls) ((i, f) :: fs)
  | failed {ls : List (Nat × Layer)} {fs : List (Nat × Frame)} (i : Nat) {root : Key}
      (hf : shows root none) (h : Realizes shows ls fs) :
      Realizes shows ((i, .first root) :: ls) fs

namespace Realizes

variable {shows : Key → Option Frame → Prop} {ls : List (Nat × Layer)} {fs : List (Nat × Frame)}

theorem filter (h : Realizes shows ls fs) (p : Nat → Bool) :
    Realizes shows (ls.filter fun e => p e.1) (fs.filter fun e => p e.1) := by
  induction h with
  | nil => exact .nil
  | second i f _ ih =>
    cases hp : p i with
    | true => simpa [hp] using ih.second i f
    | false => simpa [hp] using ih
  | opened i hf _ ih =>
    cases hp : p i with
    | true => simpa [hp] using ih.opened i hf
    | false => simpa [hp] using ih
  | failed i hf _ ih =>
    cases hp : p i with
    | true => simpa [hp] using ih.failed i hf
    | false => simpa [hp] using ih

/-- If no scope on the first store is the last one to cover a key, the key is looked up in the
frames of the second store. -/
theorem lookup_eq (h : Realizes shows ls fs) (hroot : ∀ root f, shows root (some f) → f.root = root)
    (hfirst : ∀ i root, (ls.find? fun e => e.2.covers k) ≠ some (i, .first root)) :
    (fs.findSome? fun e => (e.2.pathTo? k).map (e.2, ·)) = ls.findSome? fun e => e.2.hit? k := by
  -- what does not cover the key is passed over in both lists; the first to cover it is no `first`
  induction h with
  | nil => rfl
  | second i f _ ih =>
    have hcovers : (Layer.second f).covers k = (f.pathTo? k).isSome := Layer.covers_eq rfl k
    rw [List.findSome?_cons, List.findSome?_cons, Layer.hit?]
    cases hpath : f.pathTo? k with
    | some path => rfl
    | none =>
      rw [hpath] at hcovers
      exact ih fun i' root' => by simpa [List.find?_cons, hcovers] using hfirst i' root'
  | @opened _ _ i root f hf _ ih =>
    have hcovers : (Layer.first root).covers k = (f.pathTo? k).isSome :=
      Layer.covers_eq (hroot root f hf) k
    rw [List.findSome?_cons, List.findSome?_cons, Layer.hit?]
    cases hpath : f.pathTo? k with
    | some path =>
      rw [hpath] at hcovers
      exact absurd (by simp [hcovers]) (hfirst i root)
    | none =>
      rw [hpath] at hcovers
      exact ih fun i' root' => by simpa [List.find?_cons, hcovers] using hfirst i' root'
  | @failed _ _ i root hf _ ih =>
    rw [List.findSome?_cons, Layer.hit?]
    cases hcovers : (Layer.first root).covers k with
    | true => exact absurd (by simp [hcovers]) (hfirst i root)
    | false => exact ih fun i' root' => by simpa [List.find?_cons, hcovers] using hfirst i' root'

theorem lookup_of_first {i : Nat} {root : Key} {f : Frame} (h : Realizes shows ls fs)
    (hroot : ∀ root f, shows root (some f) → f.root = root)
    (hfind : (ls.find? fun e => e.2.covers k) = some (i, .first root))
    (hshown : ∀ r, shows root r → r = some f) :
    ∃ path, f.pathTo? k = some path ∧
      (fs.findSome? fun e => (e.2.pathTo? k).map (e.2, ·)) = some (f, path) := by
  induction h with
  | nil => cases hfind
  | second j g _ ih =>
    have hcovers : (Layer.second g).covers k = (g.pathTo? k).isSome := Layer.covers_eq rfl k
    cases hpath : g.pathTo? k with
    | some path =>
      rw [hpath] at hcovers
      simp [hcovers] at hfind
    | none =>
      rw [hpath] at hcovers
      simpa [List.findSome?_cons, hpath] using ih (by simpa [List.find?_cons, hcovers] using hfind)
  | @opened _ _ j root' g hg _ ih =>
    have hcovers : (Layer.first root').covers k = (g.pathTo? k).isSome :=
      Layer.covers_eq (hroot root' g hg) k
    cases hpath : g.pathTo? k with
    | some path =>
      rw [hpath] at hcovers
      obtain ⟨-, rfl⟩ : j = i ∧ root' = root := by simpa [List.find?_cons, hcovers] using hfind
      obtain rfl : g = f := Option.some.inj (hshown _ hg)
      exact ⟨path, hpath, by simp [hpath]⟩
    | none =>
      rw [hpath] at hcovers
      simpa [List.findSome?_cons, hpath] using ih (by simpa [List.find?_cons, hcovers] using hfind)
  | @failed _ _ j root' hg _ ih =>
    cases hcovers : (Layer.first root').covers k with
    | true =>
      obtain ⟨-, rfl⟩ : j = i ∧ root' = root := by simpa [List.find?_cons, hcovers] using hfind
      cases hshown _ hg
    | false => exact ih (by simpa [List.find?_cons, hcovers] using hfind)

end Realizes

/-- What comes of the openings in an outline. -/
structure Outline.Becomes (shows : Key → Option Frame → Prop) (p : Outline Layer)
    (x : Outline Frame) : Prop where
  count : x.count = p.count
  standing : Realizes shows p.standing x.standing

namespace Outline

variable {shows : Key → Option Frame → Prop} {p : Outline Layer} {x : Outline Frame}

theorem Becomes.first {root : Key} {r : Option Frame} (h : p.Becomes shows x) (hr : shows root r) :
    (p.opened (.first root)).Becomes shows (x.tried r) := by
  have hcount : (x.tried r).count = p.count + 1 := by
    cases r <;> exact congrArg Nat.succ h.count
  refine ⟨hcount, ?_⟩
  cases r with
  | some f =>
    rw [tried_some, opened, opened, h.count]
    exact h.standing.opened p.count hr
  | none => exact h.standing.failed p.count hr

theorem Becomes.second (h : p.Becomes shows x) (r : Option Frame) :
    (p.tried (r.map .second)).Becomes shows (x.tried r) := by
  cases r with
  | some f =>
    refine ⟨congrArg Nat.succ h.count, ?_⟩
    rw [Option.map_some, tried_some, tried_some, opened, opened, h.count]
    exact h.standing.second p.count f
  | none => exact ⟨congrArg Nat.succ h.count, h.standing⟩

theorem Becomes.ended (h : p.Becomes shows x) (opening : Nat) :
    (p.ended opening).Becomes shows (x.ended opening) :=
  ⟨h.count, h.standing.filter fun i => i ≠ opening⟩

end Outline

/-! ## Runs and their plans -/

/-- A run agrees with its plan: the stack holds what came of the openings. -/
structure Shared.Follows (known : σ → Prop) (shows : Key → Option Frame → Prop) (s : Shared σ τ)
    (p : Plan τ) : Prop where
  first : known s.first
  second : s.second = p.second
  stack : ∃ x : Outline Frame, s.context.Holds x ∧ p.outline.Becomes shows x

theorem Node.root_of_toOption [Store σ] {n : Node} {s : σ} {f : Frame}
    (h : (n.frame s).1.toOption = some f) : f.root = n.key := by
  cases hframe : (n.frame s).1 with
  | error e =>
    rw [hframe] at h
    cases h
  | ok g =>
    rw [hframe] at h
    obtain rfl : g = f := Option.some.inj h
    exact Node.root_of_frame hframe

namespace Shared

section Run

variable [Store σ] [Store τ] {known : σ → Prop} {shows : Key → Option Frame → Prop}
  (hknown : ∀ (n : Node) (s : σ), known s → known (n.frame s).2)
  (hshows : ∀ (n : Node) (s : σ), known s → shows n.key (n.frame s).1.toOption)

include hknown hshows

theorem Follows.step {s : Shared σ τ} {p : Plan τ} (h : s.Follows known shows p) (m : Move) :
    (s.step m).Follows known shows (p.step m) := by
  obtain ⟨hfirst, hsecond, x, hholds, hbecomes⟩ := h
  cases m with
  | enterFirst n =>
    obtain ⟨hcontext, hstore⟩ := hholds.enter n s.first
    have hnext : known (s.context.enter n s.first).2 := by
      rw [hstore]
      exact hknown n s.first hfirst
    exact ⟨hnext, hsecond, _, hcontext, hbecomes.first (hshows n s.first hfirst)⟩
  | enterSecond n =>
    obtain ⟨hcontext, hstore⟩ := hholds.enter n s.second
    rw [hsecond] at hcontext hstore
    have hnext : (s.step (.enterSecond n)).second = (p.step (.enterSecond n)).second := by
      rw [Shared.step, hsecond]
      exact hstore
    refine ⟨hfirst, hnext, _, ?_, hbecomes.second _⟩
    rw [Shared.step, hsecond]
    exact hcontext
  | leave opening => exact ⟨hfirst, hsecond, _, hholds.leave opening, hbecomes.ended opening⟩

theorem Follows.foldl {s : Shared σ τ} {p : Plan τ} (h : s.Follows known shows p)
    (moves : List Move) :
    (moves.foldl Shared.step s).Follows known shows (moves.foldl Plan.step p) := by
  induction moves generalizing s p with
  | nil => exact h
  | cons m moves ih => exact ih (h.step hknown hshows m)

theorem follows_run (moves : List Move) {first : σ} (hfirst : known first) (second : τ) :
    (run moves first second).Follows known shows (Plan.run moves second) :=
  Follows.foldl hknown hshows ⟨hfirst, rfl, {}, Openings.holds_empty, rfl, .nil⟩ moves

end Run

theorem follows_plan [Store σ] [Store τ] (moves : List Move) (first : σ) (second : τ) :
    (run moves first second).Follows (fun _ => True) (fun root r => ∀ f, r = some f → f.root = root)
      (Plan.run moves second) := by
  apply follows_run
  · exact fun _ _ _ => trivial
  · exact fun _ _ _ _ hf => Node.root_of_toOption hf
  · trivial

/-- Where no scope on the first store is the last one to cover a key, the stack answers for it from
the frames of the second store alone. -/
theorem lookup_run [Store σ] [Store τ] {moves : List Move} {second : τ}
    (hexposed : ¬ Exposed moves second k) (first : σ) :
    (run moves first second).context.stack.lookup k =
      (Plan.run moves second).outline.standing.findSome? fun e => e.2.hit? k := by
  obtain ⟨x, hholds, hbecomes⟩ := (follows_plan moves first second).stack
  rw [hholds.lookup]
  apply hbecomes.standing.lookup_eq
  · exact fun root f hf => hf f rfl
  · exact fun i root hfind => hexposed ⟨i, root, hfind⟩

end Shared

/-! ## First stores that are told apart -/

def MemoryStore.holding (container : String) (objects : Catalog Blob) : MemoryStore :=
  { containers := Catalog.empty.insert container objects }

theorem MemoryStore.shows_holding (container : String) (objects : Catalog Blob) :
    (holding container objects).Shows container objects := by
  refine ⟨?_, nofun⟩
  rw [holding, Catalog.get?_insert, if_pos rfl]

theorem MemoryStore.Shows.frame {container : String} {objects : Catalog Blob} {s : MemoryStore}
    (h : s.Shows container objects) (n : Node) : (n.frame s).2.Shows container objects := by
  have hmetadata : ∀ key path, (metadata key path s).2.Shows container objects := by
    intro key path
    rw [metadata]
    split <;> exact ⟨h.holds, h.allowed⟩
  have hfound : (n.findObject s).2.Shows container objects := by
    rw [Node.findObject]
    split
    · exact h
    · exact hmetadata n.key.container n.key.path
  have hlist : ∀ t : MemoryStore, t.Shows container objects →
      (list n.key.container n.key.lead true t).2.Shows container objects := by
    intro t ht
    rw [list]
    split <;> exact ⟨ht.holds, ht.allowed⟩
  exact hlist _ hfound

namespace Frame

variable {objects : Catalog Blob} {root : Key} {f : Frame} {path : String}

theorem attributes_ne_missing (h : f.hasBelow path = true) : f.attributes path ≠ .missing := by
  rw [attributes, h]
  cases f.file? path <;> simp

theorem attributes_snapshot_empty (root : Key) (path : String) :
    (snapshot .empty root).attributes path = .missing := by
  have hbelow : (snapshot .empty root).hasBelow path = false := by
    rw [← Bool.not_eq_true, hasBelow_snapshot_iff]
    rintro ⟨below, b, -, hb, -⟩
    cases hb
  have hfile : (snapshot .empty root).file? path = none := by
    by_cases hpath : path = ""
    · rw [hpath, file?, if_pos rfl]
      show MemoryStore.fileAt .empty root.path = none
      rw [MemoryStore.fileAt]
      split <;> rfl
    · rw [file?, if_neg hpath, get?_files_snapshot hpath]
      rfl
  rw [attributes, hfile, hbelow]
  rfl

/-- A key with an object below it is there in every frame of the objects that covers it. -/
theorem hasBelow_snapshot_of_step {b : Blob}
    (hcover : (snapshot objects root).pathTo? k = some path)
    (hb : objects.get? (k.lead ++ "x") = some b) :
    (snapshot objects root).hasBelow path = true := by
  rw [hasBelow_snapshot_iff]
  obtain ⟨-, ⟨rfl, hpath⟩ | hpath⟩ := path_of_pathTo? hcover
  · have hlead : k.lead = root.lead := congrArg Path.lead hpath
    exact ⟨"x", b, by decide, hlead ▸ hb, Text.startsWith_empty "x"⟩
  · have hpath : k.path = root.lead ++ path := hpath
    by_cases hempty : k.path = ""
    · obtain ⟨hroot, rfl⟩ := String.append_eq_empty_iff.1 (hpath.symm.trans hempty)
      have hlead : k.lead = root.lead := by
        rw [hroot, Key.lead, Path.lead, if_pos hempty]
      exact ⟨"x", b, by decide, hlead ▸ hb, Text.startsWith_empty "x"⟩
    · have hlead : k.lead ++ "x" = root.lead ++ (path ++ "/" ++ "x") := by
        rw [Key.lead, Path.lead, if_neg hempty, hpath]
        simp only [String.append_assoc]
      refine ⟨path ++ "/" ++ "x", b, by simp, hlead ▸ hb, ?_⟩
      rw [Path.lead]
      split
      · exact Text.startsWith_empty _
      · exact Text.startsWith_iff.2 ⟨"x", rfl⟩

end Frame

namespace Shared

/-- On first stores in memory the scope that exposes a key opens, and the key is looked up in its
frame. -/
theorem lookup_run_of_exposed [Store τ] {moves : List Move} {second : τ} {opening : Nat}
    {root : Key} {objects : Catalog Blob} {first : MemoryStore}
    (hfind : ((Plan.run moves second).outline.standing.find? fun e => e.2.covers k) =
      some (opening, .first root))
    (hfirst : first.Shows k.container objects) :
    ∃ path, (Frame.snapshot objects root).pathTo? k = some path ∧
      (run moves first second).context.stack.lookup k = some (.snapshot objects root, path) := by
  have hcontainer : root.container = k.container := by
    have hcovers : (Layer.first root).covers k = true := by
      have hsome := List.find?_some hfind
      exact hsome
    obtain ⟨path, hpath⟩ := Option.isSome_iff_exists.1 hcovers
    exact (Frame.path_of_pathTo? hpath).1.symm
  have hshows : ∀ (n : Node) (s : MemoryStore), s.Shows k.container objects →
      (∀ f, (n.frame s).1.toOption = some f → f.root = n.key) ∧
        (n.key.container = k.container →
          (n.frame s).1.toOption = some (.snapshot objects n.key)) := by
    intro n s hs
    refine ⟨fun f hf => Node.root_of_toOption hf, fun hn => ?_⟩
    rw [Node.frame_of_shows (hn ▸ hs)]
    rfl
  have hfollows : (run moves first second).Follows (fun s => s.Shows k.container objects)
      (fun root r => (∀ f, r = some f → f.root = root) ∧
        (root.container = k.container → r = some (.snapshot objects root)))
      (Plan.run moves second) := by
    apply follows_run
    · exact fun n _ hs => hs.frame n
    · exact hshows
    · exact hfirst
  obtain ⟨-, -, x, hholds, hbecomes⟩ := hfollows
  rw [hholds.lookup]
  exact hbecomes.standing.lookup_of_first (fun root f hf => hf.1 f rfl) hfind
    fun r hr => hr.2 hcontainer

/-- A node that is exposed is missing over an empty container and is there over one with an object
below it. -/
theorem answers_ne_of_exposed [Store τ] {moves : List Move} {second : τ}
    (hexposed : Exposed moves second k) :
    ∃ first first' : MemoryStore,
      (run moves first second).answers k ≠ (run moves first' second).answers k := by
  obtain ⟨opening, root, hfind⟩ := hexposed
  have hanswers : ∀ objects : Catalog Blob, ∃ path,
      (Frame.snapshot objects root).pathTo? k = some path ∧
        ((run moves (MemoryStore.holding k.container objects) second).answers k).1 =
          .ok ((Frame.snapshot objects root).attributes path) := by
    intro objects
    obtain ⟨path, hpath, hlookup⟩ :=
      lookup_run_of_exposed hfind (MemoryStore.shows_holding k.container objects)
    refine ⟨path, hpath, ?_⟩
    simp only [answers, Node.attributes, Node.resolve, hlookup]
  let objects : Catalog Blob := Catalog.empty.insert (k.lead ++ "x") ⟨[], 0⟩
  have hobject : objects.get? (k.lead ++ "x") = some ⟨[], 0⟩ := by
    rw [Catalog.get?_insert, if_pos rfl]
  obtain ⟨path, -, hempty⟩ := hanswers .empty
  obtain ⟨path', hpath', hfull⟩ := hanswers objects
  refine ⟨MemoryStore.holding k.container .empty, MemoryStore.holding k.container objects,
    fun heq => ?_⟩
  rw [heq, hfull, Frame.attributes_snapshot_empty] at hempty
  exact Frame.attributes_ne_missing (Frame.hasBelow_snapshot_of_step hpath' hobject)
    (Except.ok.inj hempty)

end Shared

/-- What a fresh node of the second store answers is independent of the first store, whatever kind
of store that is, if and only if no scope on the first store is the last opened one that covers its
key. Then the frames it is looked up in are taken from the second store. -/
theorem Shared.answers_independent_iff [Store τ] (moves : List Move) (second : τ) (k : Key) :
    ((∀ (σ : Type) [Store σ] (first first' : σ),
      (run moves first second).answers k = (run moves first' second).answers k) ↔
        ¬ Exposed moves second k) ∧
      (¬ Exposed moves second k → ∀ (σ : Type) [Store σ] (first : σ) (f : Frame) (path : String),
        (run moves first second).context.stack.lookup k = some (f, path) →
          ∃ opening, (opening, Layer.second f) ∈ (Plan.run moves second).outline.standing) := by
  refine ⟨⟨fun hsame hexposed => ?_, fun hexposed σ _ first first' => ?_⟩,
    fun hexposed σ _ first f path hlookup => ?_⟩
  · obtain ⟨first, first', hne⟩ := answers_ne_of_exposed hexposed
    exact hne (hsame MemoryStore first first')
  · have hsecond := (follows_plan moves first second).second
    have hsecond' := (follows_plan moves first' second).second
    apply answers_congr
    · rw [hsecond, hsecond']
    · rw [lookup_run hexposed first, lookup_run hexposed first']
  · rw [lookup_run hexposed first] at hlookup
    obtain ⟨⟨opening, layer⟩, hmem, hhit⟩ := List.exists_of_findSome?_eq_some hlookup
    cases layer with
    | first root => cases hhit
    | second g =>
      obtain ⟨path', -, heq⟩ := Option.map_eq_some_iff.1 hhit
      obtain rfl : g = f := congrArg Prod.fst heq
      exact ⟨opening, hmem⟩

/-- A scope on the second store that is opened inside one on the first. -/
theorem Shared.answers_independent_of_inner :
    let second : MemoryStore := .holding "artifacts" (Catalog.empty.insert "a/f" ⟨[7], 1⟩)
    let top : Node := { key := .root "artifacts" }
    let moves : List Move := [.enterFirst top, .enterSecond top]
    let k : Key := ⟨"artifacts", "a/f"⟩
    ∀ first first' : MemoryStore,
      (run moves first second).answers k = (run moves first' second).answers k := by
  intro second top moves k
  have hexposed : ¬ Exposed moves second k := by
    rintro ⟨opening, root, hfind⟩
    have hinner : (Plan.run moves second).outline.standing.find? (fun e => e.2.covers k) =
        some (1, .second (.snapshot (Catalog.empty.insert "a/f" ⟨[7], 1⟩) top.key)) := rfl
    rw [hinner] at hfind
    cases hfind
  exact (Shared.answers_independent_iff moves second k).1.2 hexposed MemoryStore

/-- Two containers of one name: a file of the first store shows in a tree of the second. -/
theorem Shared.answers_ne_of_same_container :
    let first : MemoryStore := .holding "artifacts" (Catalog.empty.insert "a/f" ⟨[7], 1⟩)
    let empty : MemoryStore := .holding "artifacts" .empty
    let moves : List Move := [.enterFirst { key := .root "artifacts" }]
    let k : Key := ⟨"artifacts", "a/f"⟩
    ((run moves first empty).answers k).1 = .ok (.file ⟨1, some 1⟩) ∧
      ((run moves empty empty).answers k).1 = .ok .missing := by
  intro first empty moves k
  have hanswer : ∀ objects : Catalog Blob,
      ((run moves (MemoryStore.holding "artifacts" objects) empty).answers k).1 =
        .ok ((Frame.snapshot objects (.root "artifacts")).attributes "a/f") := fun _ => rfl
  have hfile : (Frame.snapshot (Catalog.empty.insert "a/f" ⟨[7], 1⟩) (.root "artifacts")).attributes
      "a/f" = .file ⟨1, some 1⟩ := by
    decide +kernel
  refine ⟨?_, ?_⟩
  · rw [hanswer, hfile]
  · rw [hanswer, Frame.attributes_snapshot_empty]

end BlobDepot
