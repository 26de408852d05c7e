import BlobDepot.Proofs.Path
import BlobDepot.Proofs.Tree.Discipline

/-!
# Runs in scopes

The run of an operation in a scope takes the frame of its node and opens the scope. The operation
is underway until it returns, fails or is dropped, and then the scope closes. Runs overlap as they
like. The stack holds the frames of the runs that are underway, and a key is looked up in the last
of them whose root leads to it, segment by segment.
-/
namespace BlobDepot

/-! ## The keys a frame covers -/

namespace Key

/-- Whether the segments of a key are the first ones of another in its container. -/
def LeadsTo (root k : Key) : Prop :=
  root.container = k.container ∧ Path.parts root.path <+: Path.parts k.path

instance (root k : Key) : Decidable (root.LeadsTo k) :=
  inferInstanceAs (Decidable (_ ∧ _))

def wayTo (root k : Key) : String :=
  Path.ofSegments ((Path.parts k.path).drop (Path.parts root.path).length)

end Key

theorem Frame.pathTo?_eq (f : Frame) (k : Key) :
    f.pathTo? k = if f.root.LeadsTo k then some (f.root.wayTo k) else none := by
  by_cases hcontainer : f.root.container = k.container
  swap
  · rw [pathTo?, if_pos (Ne.symm hcontainer), if_neg fun h => hcontainer h.1]
  by_cases hroot : f.root.path = ""
  · simp [pathTo?, Key.LeadsTo, Key.wayTo, hcontainer, hroot, Path.ofSegments_parts]
  by_cases hpath : k.path = f.root.path
  · simp [pathTo?, Key.LeadsTo, Key.wayTo, hcontainer, hroot, hpath, Path.ofSegments]
  have hunfold : f.pathTo? k = (Text.after? f.root.path k.path).bind (Text.after? "/") := by
    simp [pathTo?, hcontainer, hroot, hpath]
  rw [hunfold]
  by_cases hbelow : ∃ rest, k.path = f.root.path ++ "/" ++ rest
  · obtain ⟨rest, hrest⟩ := hbelow
    have hparts : Path.parts k.path = Path.parts f.root.path ++ Path.segments rest := by
      rw [Path.parts_of_ne_empty hroot, ← Path.segments_append_slash, ← hrest,
        Path.parts_of_ne_empty (by simp [hrest])]
    have hleads : f.root.LeadsTo k := ⟨hcontainer, hparts ▸ List.prefix_append _ _⟩
    rw [if_pos hleads, Key.wayTo, hparts, List.drop_left, Path.ofSegments_segments, hrest,
      String.append_assoc, Text.after?_append, Option.bind_some, Text.after?_append]
  · have hafter : (Text.after? f.root.path k.path).bind (Text.after? "/") = none := by
      rw [Option.bind_eq_none_iff]
      intro rest hrest
      rw [Text.after?_eq_some_iff] at hrest
      cases hslash : Text.after? "/" rest with
      | none => rfl
      | some below =>
        rw [Text.after?_eq_some_iff] at hslash
        exact absurd ⟨below, by rw [hrest, hslash, String.append_assoc]⟩ hbelow
    have hleads : ¬ f.root.LeadsTo k := by
      rintro ⟨-, more, hmore⟩
      cases more with
      | nil => exact hpath (Path.parts_inj (by simpa using hmore.symm))
      | cons segment more =>
        have hne : Path.parts f.root.path ≠ [] := fun h => hroot (Path.parts_eq_nil_iff.1 h)
        refine hbelow ⟨Path.ofSegments (segment :: more), ?_⟩
        rw [← Path.ofSegments_parts k.path, ← hmore, Path.ofSegments_append hne (by simp),
          Path.ofSegments_parts]
    rw [hafter, if_neg hleads]

/-! ## Taking a frame -/

namespace Node

variable {σ : Type} [Store σ] {s : σ} {file : Option FileInfo} {entries : List Entry}
  {e : StoreError}

theorem fst_frame_of_ok (n : Node) (hfound : (n.findObject s).1 = .ok file)
    (hlisted : (Store.list n.key.container n.key.lead true (n.findObject s).2).1 = .ok entries) :
    (n.frame s).1 = .ok (.ofListing n.key file entries) := by
  rcases hfind : n.findObject s with ⟨found, t⟩
  rcases hlist : Store.list n.key.container n.key.lead true t with ⟨listed, u⟩
  rw [hfind] at hfound hlisted
  rw [hlist] at hlisted
  obtain rfl : found = .ok file := hfound
  obtain rfl : listed = .ok entries := hlisted
  simp only [frame, hfind, hlist]

theorem fst_frame_of_error (n : Node) (h : (n.findObject s).1 = .error e ∨
      (Store.list n.key.container n.key.lead true (n.findObject s).2).1 = .error e) :
    ∃ e', (n.frame s).1 = .error e' := by
  rcases hfind : n.findObject s with ⟨found, t⟩
  rcases hlist : Store.list n.key.container n.key.lead true t with ⟨listed, u⟩
  rw [hfind, hlist] at h
  cases listed with
  | error e' => exact ⟨n.failure e', by simp only [frame, hfind, hlist]⟩
  | ok entries =>
    obtain rfl : found = .error e := by simpa using h
    exact ⟨n.failure e, by simp only [frame, hfind, hlist]⟩

end Node

/-! ## Runs -/

inductive ScopeEnd where
  | returned
  | failed
  | dropped
  deriving DecidableEq, Repr

/-- A run of an operation in a scope. -/
inductive ScopedRun where
  /-- The frame could not be taken, and the operation never started. -/
  | refused (e : TreeError)
  | underway (n : Node) (f : Frame)
  | ended (ending : ScopeEnd)

def ScopedRun.frame? : ScopedRun → Option Frame
  | underway _ f => some f
  | _ => none

/-- The openings of a context and what became of their runs, the first one first. -/
structure ScopedRuns where
  openings : Openings := {}
  runs : List ScopedRun := []

/-- What happens in a context: a run starts, on a node of a store as it is then, or its operation
ends. -/
inductive ScopeEvent : Type 1 where
  | start {σ : Type} [Store σ] (n : Node) (s : σ)
  | finish (run : Nat) (ending : ScopeEnd)

namespace ScopedRuns

def start {σ : Type} [Store σ] (c : ScopedRuns) (n : Node) (s : σ) : ScopedRuns where
  openings := (c.openings.enter n s).1
  runs := c.runs ++
    [match (n.frame s).1 with
      | .ok f => .underway n f
      | .error e => .refused e]

def finish (c : ScopedRuns) (run : Nat) (ending : ScopeEnd) : ScopedRuns :=
  match c.runs[run]? with
  | some (.underway ..) => ⟨c.openings.leave run, c.runs.set run (.ended ending)⟩
  | _ => c

def step (c : ScopedRuns) : ScopeEvent → ScopedRuns
  | @ScopeEvent.start _ _ n s => c.start n s
  | .finish run ending => c.finish run ending

def after (events : List ScopeEvent) : ScopedRuns :=
  events.foldl step {}

/-- The frames of the runs that are underway, the last one first. -/
def openFrames (runs : List ScopedRun) : List Frame :=
  (runs.filterMap ScopedRun.frame?).reverse

/-- The same frames, each under the number of its run, when the first run has the number `k`. -/
def numbered (k : Nat) (runs : List ScopedRun) : List (Nat × Frame) :=
  (runs.zipIdx k).filterMap fun (r, i) => r.frame?.map (i, ·)

def standing (runs : List ScopedRun) : List (Nat × Frame) :=
  (numbered 0 runs).reverse

variable {runs before later : List ScopedRun} {r : ScopedRun} {c : ScopedRuns} {i k : Nat}

theorem map_snd_standing (runs : List ScopedRun) :
    (standing runs).map Prod.snd = openFrames runs := by
  have hnumbers : ∀ k, (numbered k runs).map Prod.snd = runs.filterMap ScopedRun.frame? := by
    induction runs with
    | nil => simp [numbered]
    | cons r runs ih =>
      intro k
      have ih := ih (k + 1)
      cases hr : r.frame? <;> simp_all [numbered]
  rw [standing, List.map_reverse, hnumbers, openFrames]

theorem numbered_append (k : Nat) (before later : List ScopedRun) :
    numbered k (before ++ later) = numbered k before ++ numbered (k + before.length) later := by
  simp [numbered, List.zipIdx_append]

theorem number_bounds {e : Nat × Frame} (h : e ∈ numbered k runs) :
    k ≤ e.1 ∧ e.1 < k + runs.length := by
  obtain ⟨⟨r, i⟩, hmem, heq⟩ := List.mem_filterMap.1 h
  obtain ⟨f, -, rfl⟩ := Option.map_eq_some_iff.1 heq
  have hlow := List.le_snd_of_mem_zipIdx hmem
  have hhigh := List.snd_lt_add_of_mem_zipIdx hmem
  exact ⟨hlow, by omega⟩

theorem standing_append_cons (before later : List ScopedRun) (r : ScopedRun) :
    standing (before ++ r :: later) = (numbered (before.length + 1) later).reverse ++
      ((r.frame?.map (before.length, ·)).toList ++ standing before) := by
  rw [standing, numbered_append, List.reverse_append, Nat.zero_add, standing]
  cases hr : r.frame? <;> simp [numbered, hr]

theorem standing_concat (runs : List ScopedRun) (r : ScopedRun) :
    standing (runs ++ [r]) = (r.frame?.map (runs.length, ·)).toList ++ standing runs :=
  standing_append_cons runs [] r

theorem openFrames_append_cons (before later : List ScopedRun) (r : ScopedRun) :
    openFrames (before ++ r :: later) =
      openFrames later ++ (r.frame?.toList ++ openFrames before) := by
  cases hr : r.frame? <;> simp [openFrames, hr]

theorem standing_of_ended {r r' : ScopedRun} (hr' : r'.frame? = none) :
    standing (before ++ r' :: later) =
      (standing (before ++ r :: later)).filter fun e => e.1 ≠ before.length := by
  have hlater : (numbered (before.length + 1) later).reverse.filter
      (fun e => e.1 ≠ before.length) = (numbered (before.length + 1) later).reverse := by
    refine List.filter_eq_self.2 fun e he => ?_
    have := number_bounds (List.mem_reverse.1 he)
    simp
    omega
  have hbefore : (standing before).filter (fun e => e.1 ≠ before.length) = standing before := by
    refine List.filter_eq_self.2 fun e he => ?_
    have := number_bounds (List.mem_reverse.1 he)
    simp
    omega
  rw [standing_append_cons, standing_append_cons, List.filter_append, List.filter_append, hlater,
    hbefore, hr']
  cases r.frame? <;> simp

theorem eq_append_cons_of_getElem? (h : runs[i]? = some r) :
    runs = runs.take i ++ r :: runs.drop (i + 1) ∧ (runs.take i).length = i ∧
      ∀ r', runs.set i r' = runs.take i ++ r' :: runs.drop (i + 1) := by
  obtain ⟨hi, rfl⟩ := List.getElem?_eq_some_iff.1 h
  refine ⟨by simp, by simp [Nat.le_of_lt hi], fun r' => ?_⟩
  rw [List.set_eq_take_append_cons_drop, if_pos hi]

/-! ## What a run in a scope leaves on the stack -/

/-- The stack holds the frames of the runs that are underway, each taken of the node of its run. -/
structure Sound (c : ScopedRuns) : Prop where
  holds : c.openings.Holds ⟨c.runs.length, standing c.runs⟩
  root : ∀ n f, .underway n f ∈ c.runs → f.root = n.key

theorem sound_empty : Sound {} :=
  ⟨Openings.holds_empty, nofun⟩

theorem Sound.start {σ : Type} [Store σ] (h : c.Sound) (n : Node) (s : σ) :
    (c.start n s).Sound := by
  have hholds := (h.holds.enter n s).1
  cases hframe : (n.frame s).1 with
  | ok f =>
    refine ⟨?_, ?_⟩
    · rw [hframe] at hholds
      simpa [ScopedRuns.start, hframe, standing_concat, ScopedRun.frame?, Outline.opened,
        Except.toOption] using hholds
    · intro n' f' hmem
      simp only [ScopedRuns.start, hframe, List.mem_append, List.mem_singleton] at hmem
      rcases hmem with hmem | heq
      · exact h.root n' f' hmem
      · cases heq
        exact Node.root_of_frame hframe
  | error e =>
    refine ⟨?_, ?_⟩
    · rw [hframe] at hholds
      simpa [ScopedRuns.start, hframe, standing_concat, ScopedRun.frame?, Outline.tried,
        Outline.failed, Except.toOption] using hholds
    · intro n' f' hmem
      simp only [ScopedRuns.start, hframe, List.mem_append, List.mem_singleton, reduceCtorEq,
        or_false] at hmem
      exact h.root n' f' hmem

theorem finish_of_underway {n : Node} {f : Frame} (h : c.runs[i]? = some (.underway n f))
    (ending : ScopeEnd) :
    c.finish i ending = ⟨c.openings.leave i, c.runs.set i (.ended ending)⟩ := by
  rw [finish, h]

theorem finish_cases (c : ScopedRuns) (i : Nat) (ending : ScopeEnd) :
    (∃ n f, c.runs[i]? = some (.underway n f) ∧
      c.finish i ending = ⟨c.openings.leave i, c.runs.set i (.ended ending)⟩) ∨
      c.finish i ending = c := by
  rw [finish]
  split
  · rename_i n f h
    exact .inl ⟨n, f, h, rfl⟩
  · exact .inr rfl

theorem Sound.finish (h : c.Sound) (i : Nat) (ending : ScopeEnd) : (c.finish i ending).Sound := by
  rcases c.finish_cases i ending with ⟨n, f, hrun, hfinish⟩ | hfinish
  · rw [hfinish]
    obtain ⟨hruns, hlength, hset⟩ := eq_append_cons_of_getElem? hrun
    refine ⟨?_, ?_⟩
    · have hleave := h.holds.leave i
      have hstanding : standing (c.runs.set i (.ended ending)) =
          (standing c.runs).filter fun e => e.1 ≠ i := by
        have hended : standing (c.runs.take i ++ .ended ending :: c.runs.drop (i + 1)) =
            (standing (c.runs.take i ++ .underway n f :: c.runs.drop (i + 1))).filter
              fun e => e.1 ≠ (c.runs.take i).length := standing_of_ended rfl
        rwa [hlength, ← hset, ← hruns] at hended
      rw [List.length_set, hstanding]
      exact hleave
    · intro n' f' hmem
      rcases List.mem_or_eq_of_mem_set hmem with hmem | heq
      · exact h.root n' f' hmem
      · cases heq
  · rw [hfinish]
    exact h

theorem Sound.foldl (h : c.Sound) (events : List ScopeEvent) : (events.foldl step c).Sound := by
  induction events generalizing c with
  | nil => exact h
  | cons event events ih =>
    cases event with
    | start n s => exact ih (h.start n s)
    | finish i ending => exact ih (h.finish i ending)

theorem sound_after (events : List ScopeEvent) : (after events).Sound :=
  sound_empty.foldl events

/-- The stack holds exactly the frames of the runs that are underway, the last one first. -/
theorem Sound.frames_eq (h : c.Sound) :
    c.openings.stack.frames.map Prod.snd = openFrames c.runs := by
  rw [← map_snd_standing, ← List.forall₂_eq_eq_eq, List.forall₂_map_left_iff,
    List.forall₂_map_right_iff]
  exact h.holds.frames.imp fun e y hey => hey.2

theorem mem_openFrames_iff {f : Frame} :
    f ∈ openFrames runs ↔ ∃ n, .underway n f ∈ runs := by
  rw [openFrames, List.mem_reverse, List.mem_filterMap]
  constructor
  · rintro ⟨r, hmem, hr⟩
    cases r with
    | underway n g => exact ⟨n, Option.some.inj hr ▸ hmem⟩
    | refused e => cases hr
    | ended ending => cases hr
  · rintro ⟨n, hmem⟩
    exact ⟨_, hmem, rfl⟩

theorem Sound.lookup_eq (h : c.Sound) (k : Key) :
    c.openings.stack.lookup k =
      (openFrames c.runs).findSome? fun f => (f.pathTo? k).map (f, ·) := by
  rw [← h.frames_eq, List.findSome?_map]
  rfl

theorem Sound.lookup_of_last {n : Node} {f : Frame} {k : Key} (h : c.Sound)
    (hrun : c.runs[i]? = some (.underway n f)) (hleads : n.key.LeadsTo k)
    (hlast : ∀ j n' f', i < j → c.runs[j]? = some (.underway n' f') → ¬ n'.key.LeadsTo k) :
    c.openings.stack.lookup k = some (f, n.key.wayTo k) := by
  obtain ⟨hruns, -⟩ := eq_append_cons_of_getElem? hrun
  have hlater : (openFrames (c.runs.drop (i + 1))).findSome?
      (fun f => (f.pathTo? k).map (f, ·)) = none := by
    rw [List.findSome?_eq_none_iff]
    intro g hg
    obtain ⟨n', hmem⟩ := mem_openFrames_iff.1 hg
    obtain ⟨j, hj⟩ := List.getElem?_of_mem hmem
    rw [List.getElem?_drop] at hj
    have hnot := hlast (i + 1 + j) n' g (by omega) hj
    rw [g.pathTo?_eq, h.root n' g (List.mem_of_getElem? hj), if_neg hnot, Option.map_none]
  have hfound : f.pathTo? k = some (n.key.wayTo k) := by
    rw [f.pathTo?_eq, h.root n f (List.mem_of_getElem? hrun), if_pos hleads]
  rw [h.lookup_eq, hruns, openFrames_append_cons, List.findSome?_append, hlater, Option.none_or,
    List.findSome?_append]
  simp [ScopedRun.frame?, hfound]

theorem Sound.lookup_eq_none {k : Key} (h : c.Sound)
    (hnone : ∀ n f, .underway n f ∈ c.runs → ¬ n.key.LeadsTo k) :
    c.openings.stack.lookup k = none := by
  rw [h.lookup_eq, List.findSome?_eq_none_iff]
  intro f hf
  obtain ⟨n, hmem⟩ := mem_openFrames_iff.1 hf
  rw [f.pathTo?_eq, h.root n f hmem, if_neg (hnone n f hmem), Option.map_none]

/-- A run whose calls are answered opens its scope; one with a call that fails leaves the stack as
it is. -/
theorem Sound.start_eq {σ : Type} [Store σ] (h : c.Sound) (n : Node) (s : σ) :
    let found := (n.findObject s).1
    let listed := (Store.list n.key.container n.key.lead true (n.findObject s).2).1
    (∀ file entries, found = .ok file → listed = .ok entries →
      (c.start n s).runs = c.runs ++ [.underway n (.ofListing n.key file entries)] ∧
        (c.start n s).openings.stack.frames.map Prod.snd =
          .ofListing n.key file entries :: openFrames c.runs) ∧
      ∀ e, found = .error e ∨ listed = .error e → ∃ e',
        (c.start n s).runs = c.runs ++ [.refused e'] ∧
          (c.start n s).openings.stack = c.openings.stack := by
  intro found listed
  constructor
  · intro file entries hfound hlisted
    have hframe : (n.frame s).1 = .ok (.ofListing n.key file entries) :=
      n.fst_frame_of_ok hfound hlisted
    have hruns : (c.start n s).runs = c.runs ++ [.underway n (.ofListing n.key file entries)] := by
      rw [ScopedRuns.start, hframe]
    refine ⟨hruns, ?_⟩
    rw [(h.start n s).frames_eq, hruns, openFrames_append_cons]
    rfl
  · intro e hfails
    obtain ⟨e', hframe⟩ : ∃ e', (n.frame s).1 = .error e' := n.fst_frame_of_error hfails
    refine ⟨e', ?_, ?_⟩
    · rw [ScopedRuns.start, hframe]
    · rcases n.enter_cases c.openings.stack s with ⟨f, hf, -⟩ | henter
      · rw [hframe] at hf
        cases hf
      · exact henter

end ScopedRuns

/-- After any starts and ends of runs the stack holds exactly the frames of the runs that are
underway, the last one first. A run starts its operation and adds its frame if both its calls are
answered, and does neither if one of them fails. However the operation of a run ends, the frames of
the others stay as they are. A key is looked up in the frame of the last run whose node leads to it,
under the rest of its segments, and is not found if there is none. -/
theorem ScopedRuns.stack_discipline (events : List ScopeEvent) :
    let c := after events
    c.openings.stack.frames.map Prod.snd = openFrames c.runs ∧
      (∀ (σ : Type) [Store σ] (n : Node) (s : σ),
        let found := (n.findObject s).1
        let listed := (Store.list n.key.container n.key.lead true (n.findObject s).2).1
        (∀ file entries, found = .ok file → listed = .ok entries →
          (c.start n s).runs = c.runs ++ [.underway n (.ofListing n.key file entries)] ∧
            (c.start n s).openings.stack.frames.map Prod.snd =
              .ofListing n.key file entries :: openFrames c.runs) ∧
          ∀ e, found = .error e ∨ listed = .error e → ∃ e',
            (c.start n s).runs = c.runs ++ [.refused e'] ∧
              (c.start n s).openings.stack = c.openings.stack) ∧
      (∀ (i : Nat) (n : Node) (f : Frame) (ending : ScopeEnd), c.runs[i]? = some (.underway n f) →
        let later := openFrames (c.runs.drop (i + 1))
        let earlier := openFrames (c.runs.take i)
        (c.finish i ending).runs = c.runs.set i (.ended ending) ∧
          c.openings.stack.frames.map Prod.snd = later ++ f :: earlier ∧
          (c.finish i ending).openings.stack.frames.map Prod.snd = later ++ earlier) ∧
      ∀ k : Key,
        (∀ (i : Nat) (n : Node) (f : Frame), c.runs[i]? = some (.underway n f) → n.key.LeadsTo k →
          (∀ (j : Nat) (n' : Node) (f' : Frame), i < j → c.runs[j]? = some (.underway n' f') →
            ¬ n'.key.LeadsTo k) →
            c.openings.stack.lookup k = some (f, n.key.wayTo k)) ∧
          ((∀ (n : Node) (f : Frame), .underway n f ∈ c.runs → ¬ n.key.LeadsTo k) →
            c.openings.stack.lookup k = none) := by
  intro c
  have hsound : c.Sound := sound_after events
  refine ⟨hsound.frames_eq, fun σ _ n s => hsound.start_eq n s, ?_, fun k => ⟨?_, ?_⟩⟩
  · intro i n f ending hrun later earlier
    obtain ⟨hruns, -, hset⟩ := eq_append_cons_of_getElem? hrun
    have hfinish := finish_of_underway hrun ending
    refine ⟨by rw [hfinish], ?_, ?_⟩
    · rw [hsound.frames_eq]
      conv_lhs => rw [hruns, openFrames_append_cons]
      rfl
    · rw [(hsound.finish i ending).frames_eq, hfinish, hset, openFrames_append_cons]
      rfl
  · intro i n f hrun hleads hlast
    exact hsound.lookup_of_last hrun hleads hlast
  · exact hsound.lookup_eq_none

/-- Two runs on one directory, whose frames are equal, and one below them. The first of the twins is
dropped first, and keys are still looked up in the innermost frame. -/
theorem ScopedRuns.stack_discipline_of_twins :
    let objects : Catalog Blob := Catalog.empty.insert "a/b/x" ⟨[7], 1⟩
    let s : MemoryStore := { containers := Catalog.empty.insert "box" objects }
    let outer : Node := { key := ⟨"box", "a"⟩ }
    let inner : Node := { key := ⟨"box", "a/b"⟩ }
    let f : Frame := .snapshot objects outer.key
    let g : Frame := .snapshot objects inner.key
    let c := after [.start outer s, .start outer s, .start inner s]
    c.openings.stack.frames.map Prod.snd = [g, f, f] ∧
      (c.finish 0 .dropped).openings.stack.frames.map Prod.snd = [g, f] ∧
      c.openings.stack.lookup ⟨"box", "a/b/x"⟩ = some (g, "x") ∧
      c.openings.stack.lookup ⟨"box", "ab"⟩ = none := by
  intro objects s outer inner f g c
  have hruns : c.runs = [.underway outer f, .underway outer f, .underway inner g] := rfl
  obtain ⟨hframes, -, hfinish, hlookup⟩ :=
    stack_discipline [.start outer s, .start outer s, .start inner s]
  refine ⟨hframes, (hfinish 0 outer f .dropped rfl).2.2, ?_, ?_⟩
  · have hway : inner.key.wayTo ⟨"box", "a/b/x"⟩ = "x" := by decide +kernel
    rw [← hway]
    refine (hlookup _).1 2 inner g rfl (by decide +kernel) fun j n' f' hj hrun => ?_
    obtain ⟨hlt, -⟩ := List.getElem?_eq_some_iff.1 hrun
    exact absurd hlt (Nat.not_lt.2 hj)
  · refine (hlookup _).2 fun n f' hmem => ?_
    have hkeys : n.key = outer.key ∨ n.key = inner.key := by
      change _ ∈ c.runs at hmem
      simp only [hruns, List.mem_cons, ScopedRun.underway.injEq, List.not_mem_nil, or_false] at hmem
      rcases hmem with ⟨rfl, -⟩ | ⟨rfl, -⟩ | ⟨rfl, -⟩
      · exact .inl rfl
      · exact .inl rfl
      · exact .inr rfl
    rcases hkeys with hkey | hkey <;> rw [hkey] <;> decide +kernel

end BlobDepot
