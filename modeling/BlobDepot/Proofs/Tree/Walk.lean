import BlobDepot.Proofs.Key
import BlobDepot.Proofs.Tree.Listings
import Mathlib.Algebra.Order.BigOperators.Group.List
import Mathlib.Algebra.Order.Group.Nat
import Mathlib.Data.List.Perm.Basic

/-!
# Walks of the tree

A walk lists a node, then each child and what is below it before the next child, files included.
Where no key of an object has an empty segment, every walk outside of all scopes comes to an end,
and it meets every file below the node once.
-/
namespace BlobDepot

open BlobDepot.Path (IsName hasSlash)

variable {name path : String} {steps steps' names : List String} {objects : Catalog Blob}
  {k k' : Key} {n m : Node} {stack : FrameStack} {s t : MemoryStore}

/-! ## Keys some steps below a key -/

theorem Path.ofSegments_ne_empty (hsteps : ∀ step ∈ steps, IsName step) (hne : steps ≠ []) :
    Path.ofSegments steps ≠ "" := by
  intro hempty
  have hsegments := segments_ofSegments hne fun step hstep => (hsteps step hstep).2
  rw [hempty, segments_empty] at hsegments
  exact (hsteps "" (hsegments ▸ List.mem_cons_self)).1 rfl

namespace Key

theorem child_inj (h : k.child path = k.child name) : path = name := by
  have hpath := congrArg Key.path h
  rwa [child_path, child_path, String.append_right_inj] at hpath

theorem child_child (k : Key) (h : IsName name) (path : String) :
    (k.child name).child path = k.child (name ++ "/" ++ path) := by
  have hpath : ((k.child name).child path).path = (k.child (name ++ "/" ++ path)).path := by
    rw [child_path, child_path, lead_child k h]
    simp only [String.append_assoc]
  exact congrArg (Key.mk k.container) hpath

/-- Steps of names lead where their path does in one step. -/
theorem descend_eq_child (hsteps : ∀ step ∈ steps, IsName step) (hne : steps ≠ []) :
    k.descend steps = k.child (Path.ofSegments steps) := by
  induction steps generalizing k with
  | nil => exact absurd rfl hne
  | cons step steps ih =>
    cases steps with
    | nil => rw [Path.ofSegments_singleton, descend_cons, descend_nil]
    | cons second steps =>
      have hrest := ih (k := k.child step) (fun s hs => hsteps s (List.mem_cons_of_mem _ hs))
        (List.cons_ne_nil _ _)
      have hsegments : Path.ofSegments (step :: second :: steps) =
          step ++ "/" ++ Path.ofSegments (second :: steps) := String.intercalate_cons_cons
      rw [descend_cons, hrest, hsegments, child_child k (hsteps step List.mem_cons_self)]

theorem child_ne_self (h : path ≠ "") (k : Key) : k.child path ≠ k := by
  intro heq
  have hpath := congrArg (fun k => k.path.length) heq
  simp only [child_path, String.length_append] at hpath
  have hlead : k.path.length ≤ k.lead.length := by
    rw [lead, Path.lead]
    split
    · next hroot => rw [hroot]
    · rw [String.length_append]
      exact Nat.le_add_right _ _
  have hpos : path.length ≠ 0 := by
    simpa using h
  omega

theorem descend_inj (hsteps : ∀ step ∈ steps, IsName step) (hsteps' : ∀ step ∈ steps', IsName step)
    (h : k.descend steps = k.descend steps') : steps = steps' := by
  by_cases hne : steps = []
  · by_cases hne' : steps' = []
    · rw [hne, hne']
    · rw [hne, descend_nil, descend_eq_child hsteps' hne'] at h
      exact absurd h.symm (child_ne_self (Path.ofSegments_ne_empty hsteps' hne') k)
  · by_cases hne' : steps' = []
    · rw [hne', descend_nil, descend_eq_child hsteps hne] at h
      exact absurd h (child_ne_self (Path.ofSegments_ne_empty hsteps hne) k)
    · rw [descend_eq_child hsteps hne, descend_eq_child hsteps' hne'] at h
      rw [← Path.segments_ofSegments hne fun step hstep => (hsteps step hstep).2, child_inj h,
        Path.segments_ofSegments hne' fun step hstep => (hsteps' step hstep).2]

/-- A child, keys below it and keys at or below other children are all different. -/
theorem nodup_child_cons {below others : List Key} (hname : IsName name)
    (hnames : ∀ name ∈ names, IsName name) (hfresh : name ∉ names)
    (hbelow : ∀ key ∈ below, ∃ steps, steps ≠ [] ∧ (∀ step ∈ steps, IsName step) ∧
      key = (k.child name).descend steps)
    (hothers : ∀ key ∈ others, ∃ name ∈ names, ∃ steps, (∀ step ∈ steps, IsName step) ∧
      key = (k.child name).descend steps)
    (hnodup : below.Nodup) (hnodup' : others.Nodup) :
    (k.child name :: (below ++ others)).Nodup := by
  -- steps through different children never lead to one key
  have hapart : ∀ name' ∈ names, ∀ steps steps', (∀ step ∈ steps, IsName step) →
      (∀ step ∈ steps', IsName step) →
        (k.child name).descend steps ≠ (k.child name').descend steps' := by
    intro name' hname' steps steps' hsteps hsteps' heq
    have hcons := descend_inj (List.forall_mem_cons.2 ⟨hname, hsteps⟩)
      (List.forall_mem_cons.2 ⟨hnames name' hname', hsteps'⟩) heq
    exact hfresh ((List.cons.inj hcons).1 ▸ hname')
  refine List.nodup_cons.2 ⟨fun hmem => ?_, List.nodup_append.2 ⟨hnodup, hnodup', ?_⟩⟩
  · rcases List.mem_append.1 hmem with hmem | hmem
    · obtain ⟨steps, hne, hsteps, heq⟩ := hbelow _ hmem
      have heq : (k.child name).descend [] = (k.child name).descend steps := heq
      exact hne (descend_inj (List.forall_mem_nil _) hsteps heq).symm
    · obtain ⟨name', hname', steps, hsteps, heq⟩ := hothers _ hmem
      exact hapart name' hname' [] steps nofun hsteps heq
  · rintro key hkey _ hother rfl
    obtain ⟨steps, -, hsteps, heq⟩ := hbelow key hkey
    obtain ⟨name', hname', steps', hsteps', heq'⟩ := hothers key hother
    exact hapart name' hname' steps steps' hsteps hsteps' (heq.symm.trans heq')

end Key

/-! ## What is found some steps below a key -/

namespace MemoryStore

theorem isFile_attributesAt_iff (hpath : path ≠ "") :
    (attributesAt objects path).isFile = true ↔ ∃ b, objects.get? path = some b := by
  rw [attributesAt, fileAt, if_neg hpath]
  cases objects.get? path with
  | some b => simp [Node.attributesOf, Attributes.isFile, Attributes.kind]
  | none =>
    cases objects.hasUnder (Path.lead path) <;>
      simp [Node.attributesOf, Attributes.isFile, Attributes.kind]

theorem attributesAt_ne_missing_of_child {step : String} (hname : IsName name) (hstep : IsName step)
    (h : attributesAt objects ((k.child name).child step).path ≠ .missing) :
    attributesAt objects (k.child name).path ≠ .missing := by
  obtain ⟨below, b, hb, -⟩ := (attributesAt_child_ne_missing_iff hstep).1 h
  have hkey : (k.child name).lead ++ below = k.lead ++ (name ++ "/" ++ below) := by
    rw [k.lead_child hname]
    simp only [String.append_assoc]
  rw [hkey] at hb
  exact (attributesAt_child_ne_missing_iff hname).2
    ⟨_, b, hb, (Path.fst_firstSegment_eq_iff hname.2).2 (.inr ⟨below, rfl⟩)⟩

theorem attributesAt_ne_missing_of_descend (hname : IsName name)
    (hsteps : ∀ step ∈ steps, IsName step)
    (h : attributesAt objects (k.descend (name :: steps)).path ≠ .missing) :
    attributesAt objects (k.child name).path ≠ .missing := by
  induction steps generalizing k name with
  | nil => exact h
  | cons step steps ih =>
    have hstep : IsName step := hsteps step List.mem_cons_self
    exact attributesAt_ne_missing_of_child hname hstep
      (ih hstep (fun s hs => hsteps s (List.mem_cons_of_mem _ hs)) h)

end MemoryStore

/-! ## Listings outside of scopes -/

theorem MemoryStore.Shows.list_snd {container : String} (h : s.Shows container objects)
    (start : String) (recursive : Bool) :
    (list container start recursive s).2.Shows container objects := by
  rw [list, h.objects_eq]
  exact ⟨h.holds, h.allowed⟩

theorem FrameStack.lookup_of_frames_eq_nil (hframes : stack.frames = []) (k : Key) :
    stack.lookup k = none := by
  rw [lookup, hframes, List.findSome?_nil]

namespace Node

theorem children_of_shows (hframes : stack.frames = []) (hs : s.Shows n.key.container objects) :
    ∃ t, n.children stack s = (.ok (childrenOf objects n), t) ∧
      t.Shows n.key.container objects := by
  have hnone : stack.lookup n.key = none := FrameStack.lookup_of_frames_eq_nil hframes n.key
  have ht : (Store.list n.key.container n.key.lead false s).2.Shows n.key.container objects :=
    hs.list_snd n.key.lead false
  refine ⟨(n.children stack s).2, Prod.ext (children_of_lookup_eq_none hs hnone) rfl, ?_⟩
  rcases hcall : Store.list n.key.container n.key.lead false s with ⟨entries, t⟩
  rw [hcall] at ht
  simpa only [children, hnone, hcall] using ht

theorem eq_childrenOf_of_shows {children : List Node} (hframes : stack.frames = [])
    (hs : s.Shows n.key.container objects) (h : n.children stack s = (.ok children, t)) :
    children = childrenOf objects n ∧ t.Shows n.key.container objects := by
  obtain ⟨t', h', ht⟩ := children_of_shows hframes hs
  rw [h] at h'
  cases h'
  exact ⟨rfl, ht⟩

/-- The node of a key that is known for what it stands for among the objects. -/
def shown (objects : Catalog Blob) (k : Key) : Node where
  key := k
  known := some (MemoryStore.attributesAt objects k.path)

theorem mem_childrenOf_iff :
    m ∈ childrenOf objects n ↔ ∃ name, IsName name ∧
      MemoryStore.attributesAt objects (n.key.child name).path ≠ .missing ∧
        m = shown objects (n.key.child name) := by
  rw [childrenOf, List.mem_map]
  constructor
  · rintro ⟨⟨name, a⟩, he, rfl⟩
    obtain ⟨hname, hne, ha⟩ := MemoryStore.get?_childrenAt_iff.1 (Catalog.get?_eq_some_iff.2 he)
    exact ⟨name, hname, ha ▸ hne, by rw [shown, ha]⟩
  · rintro ⟨name, hname, hne, rfl⟩
    exact ⟨(name, _), Catalog.get?_eq_some_iff.1
      (MemoryStore.get?_childrenAt_iff.2 ⟨hname, hne, rfl⟩), rfl⟩

theorem container_of_mem_childrenOf (hm : m ∈ childrenOf objects n) :
    m.key.container = n.key.container := by
  obtain ⟨name, -, -, rfl⟩ := mem_childrenOf_iff.1 hm
  exact Key.child_container n.key name

theorem map_key_childrenOf (objects : Catalog Blob) (n : Node) :
    (childrenOf objects n).map key =
      (MemoryStore.childrenAt objects n.key).keys.map n.key.child := by
  rw [childrenOf, Catalog.keys, List.map_map, List.map_map]
  rfl

/-! ## Walks -/

/-- A walk of the trees at some nodes, one tree after the other, on a store and the stack of the
open scopes: the nodes that it meets and the store it leaves. Every node is listed where it is met,
and what is below its children comes before the nodes that follow it. -/
inductive Walk {σ : Type} [Store σ] (stack : FrameStack) :
    List Node → σ → List Node → σ → Prop where
  | nil (s : σ) : Walk stack [] s [] s
  | cons {n : Node} {children rest below met : List Node} {s t u v : σ}
      (hchildren : n.children stack s = (.ok children, t)) (hbelow : Walk stack children t below u)
      (hrest : Walk stack rest u met v) : Walk stack (n :: rest) s (n :: (below ++ met)) v

theorem Walk.unique {σ : Type} [Store σ] {nodes met met' : List Node} {s t t' : σ}
    (h : Walk stack nodes s met t) (h' : Walk stack nodes s met' t') : met = met' ∧ t = t' := by
  induction h generalizing met' t' with
  | nil s =>
    cases h'
    exact ⟨rfl, rfl⟩
  | cons hchildren _ _ ihbelow ihrest =>
    cases h' with
    | cons hchildren' hbelow' hrest' =>
      rw [hchildren] at hchildren'
      cases hchildren'
      obtain ⟨rfl, rfl⟩ := ihbelow hbelow'
      obtain ⟨rfl, rfl⟩ := ihrest hrest'
      exact ⟨rfl, rfl⟩

/-! ### What a walk meets -/

/-- A node is at some steps below another and stands for something. -/
def Below (objects : Catalog Blob) (n m : Node) : Prop :=
  ∃ steps, steps ≠ [] ∧ (∀ step ∈ steps, IsName step) ∧
    MemoryStore.attributesAt objects (n.key.descend steps).path ≠ .missing ∧
      m = shown objects (n.key.descend steps)

/-- What is below a node are its children and what is below them. -/
theorem below_iff : Below objects n m ↔
    ∃ c ∈ childrenOf objects n, m = c ∨ Below objects c m := by
  constructor
  · rintro ⟨steps, hne, hsteps, hthere, rfl⟩
    obtain ⟨name, more, rfl⟩ := List.exists_cons_of_ne_nil hne
    obtain ⟨hname, hmore⟩ := List.forall_mem_cons.1 hsteps
    refine ⟨shown objects (n.key.child name), mem_childrenOf_iff.2 ⟨name, hname,
      MemoryStore.attributesAt_ne_missing_of_descend hname hmore hthere, rfl⟩, ?_⟩
    by_cases hnil : more = []
    · exact .inl (by rw [hnil, Key.descend_cons, Key.descend_nil])
    · exact .inr ⟨more, hnil, hmore, hthere, rfl⟩
  · rintro ⟨c, hc, hm⟩
    obtain ⟨name, hname, hthere, rfl⟩ := mem_childrenOf_iff.1 hc
    rcases hm with rfl | ⟨more, -, hmore, hthere, rfl⟩
    · exact ⟨[name], List.cons_ne_nil _ _, List.forall_mem_singleton.2 hname, hthere, rfl⟩
    · exact ⟨name :: more, List.cons_ne_nil _ _, List.forall_mem_cons.2 ⟨hname, hmore⟩, hthere, rfl⟩

section Outside

variable {container : String} {nodes met : List Node}

/-- A walk outside of all scopes meets the nodes it starts from and what is below them, and it
leaves the objects as they are. -/
theorem Walk.mem_iff (h : Walk stack nodes s met t) (hframes : stack.frames = [])
    (hnodes : ∀ n ∈ nodes, n.key.container = container) (hs : s.Shows container objects) :
    t.Shows container objects ∧ ∀ m, m ∈ met ↔ ∃ n ∈ nodes, m = n ∨ Below objects n m := by
  induction h with
  | nil s => exact ⟨hs, fun m => by simp⟩
  | @cons n children rest below met s t u v hchildren _ _ ihbelow ihrest =>
    obtain ⟨rfl, hrest⟩ := List.forall_mem_cons.1 hnodes
    obtain ⟨rfl, ht⟩ := eq_childrenOf_of_shows hframes hs hchildren
    obtain ⟨hu, hbelow⟩ := ihbelow (fun c hc => container_of_mem_childrenOf hc) ht
    obtain ⟨hv, hmet⟩ := ihrest hrest hu
    refine ⟨hv, fun m => ?_⟩
    rw [List.mem_cons, List.mem_append, hbelow, hmet, ← below_iff, List.exists_mem_cons_iff,
      or_assoc]

section Siblings

variable (hframes : stack.frames = []) (hs : s.Shows k.container objects)
  (hnodes : nodes.map key = names.map k.child)

include hnodes in
theorem exists_name_of_mem (hn : n ∈ nodes) : ∃ name ∈ names, n.key = k.child name := by
  have hkey : n.key ∈ names.map k.child := hnodes ▸ List.mem_map_of_mem hn
  obtain ⟨name, hname, heq⟩ := List.mem_map.1 hkey
  exact ⟨name, hname, heq.symm⟩

include hnodes in
theorem container_of_mem (hn : n ∈ nodes) : n.key.container = k.container := by
  obtain ⟨name, -, heq⟩ := exists_name_of_mem hnodes hn
  rw [heq, Key.child_container]

include hframes hs hnodes

/-- A walk of siblings meets them and what is some steps below them. -/
theorem Walk.exists_descend (h : Walk stack nodes s met t) (hm : m ∈ met) :
    ∃ name ∈ names, ∃ steps, (∀ step ∈ steps, IsName step) ∧
      m.key = (k.child name).descend steps := by
  obtain ⟨-, hmem⟩ := h.mem_iff hframes (fun n hn => container_of_mem hnodes hn) hs
  obtain ⟨n, hn, hm⟩ := (hmem m).1 hm
  obtain ⟨name, hname, heq⟩ := exists_name_of_mem hnodes hn
  rcases hm with rfl | ⟨steps, -, hsteps, -, rfl⟩
  · exact ⟨name, hname, [], nofun, heq⟩
  · exact ⟨name, hname, steps, hsteps, by rw [← heq, shown]⟩

/-- Among siblings that are all different and below them no key is met twice. -/
theorem Walk.nodup (h : Walk stack nodes s met t) (hnames : ∀ name ∈ names, IsName name)
    (hdistinct : names.Nodup) : (met.map key).Nodup := by
  induction h generalizing k names with
  | nil s => exact List.nodup_nil
  | @cons n children rest below met s t u v hchildren hbelow hrest ihbelow ihrest =>
    cases names with
    | nil => cases hnodes
    | cons name names =>
      rw [List.map_cons, List.map_cons, List.cons.injEq] at hnodes
      obtain ⟨hn, hkeys⟩ := hnodes
      obtain ⟨hname, hothers⟩ := List.forall_mem_cons.1 hnames
      obtain ⟨hfresh, hrestdistinct⟩ := List.nodup_cons.1 hdistinct
      have hcontainer : n.key.container = k.container := by
        rw [hn, Key.child_container]
      obtain ⟨rfl, ht⟩ := eq_childrenOf_of_shows hframes (hcontainer ▸ hs) hchildren
      have hchildkeys := map_key_childrenOf objects n
      have hchildnames : ∀ name ∈ (MemoryStore.childrenAt objects n.key).keys, IsName name :=
        fun name hname => (MemoryStore.mem_keys_childrenAt_iff.1 hname).1
      obtain ⟨hu, -⟩ := hbelow.mem_iff hframes (fun c hc => container_of_mem_childrenOf hc) ht
      rw [hcontainer] at hu
      rw [List.map_cons, List.map_append, hn]
      refine Key.nodup_child_cons hname hothers hfresh ?_ ?_
        (ihbelow ht hchildkeys hchildnames ((Catalog.pairwise_keys _).imp String.ne_of_lt))
        (ihrest hu hkeys hothers hrestdistinct)
      · intro key hkey
        obtain ⟨m, hm, rfl⟩ := List.mem_map.1 hkey
        obtain ⟨step, hstep, steps, hsteps, heq⟩ := hbelow.exists_descend hframes ht hchildkeys hm
        exact ⟨step :: steps, List.cons_ne_nil _ _,
          List.forall_mem_cons.2 ⟨hchildnames step hstep, hsteps⟩, by rw [heq, hn]; rfl⟩
      · intro key hkey
        obtain ⟨m, hm, rfl⟩ := List.mem_map.1 hkey
        exact hrest.exists_descend hframes hu hkeys hm

end Siblings

/-! ### Why it ends -/

/-- Under every child there is a key of an object, so children come to an end where no key is longer
than what the keys below start with. -/
theorem childrenOf_eq_nil (h : ∀ key ∈ objects.keys, key.length < n.key.lead.length) :
    childrenOf objects n = [] := by
  refine List.eq_nil_iff_forall_not_mem.2 fun c hc => ?_
  obtain ⟨name, hname, hthere, -⟩ := mem_childrenOf_iff.1 hc
  obtain ⟨below, b, hb, -⟩ := (MemoryStore.attributesAt_child_ne_missing_iff hname).1 hthere
  have hlength := h _ (Catalog.mem_keys_iff.2 ⟨b, hb⟩)
  rw [String.length_append] at hlength
  omega

theorem length_lead_of_mem_childrenOf {c : Node} (hc : c ∈ childrenOf objects n) :
    n.key.lead.length < c.key.lead.length := by
  obtain ⟨name, hname, -, rfl⟩ := mem_childrenOf_iff.1 hc
  have hlead : (shown objects (n.key.child name)).key.lead = n.key.lead ++ name ++ "/" :=
    n.key.lead_child hname
  rw [hlead, String.length_append, String.length_append]
  have hslash : "/".length = 1 := rfl
  omega

section Ends

variable (hframes : stack.frames = []) (hnodes : ∀ n ∈ nodes, n.key.container = container)
  (hs : s.Shows container objects)

include hframes hnodes hs

theorem exists_walk_of_childrenOf (hchildren : ∀ n ∈ nodes, ∀ t : MemoryStore,
      t.Shows container objects → ∃ met u, Walk stack (childrenOf objects n) t met u) :
    ∃ met t, Walk stack nodes s met t := by
  induction nodes generalizing s with
  | nil => exact ⟨[], s, .nil s⟩
  | cons n rest ih =>
    obtain ⟨rfl, hrestnodes⟩ := List.forall_mem_cons.1 hnodes
    obtain ⟨hfirst, hothers⟩ := List.forall_mem_cons.1 hchildren
    obtain ⟨t, hlisted, ht⟩ := children_of_shows hframes hs
    obtain ⟨below, u, hbelow⟩ := hfirst t ht
    obtain ⟨hu, -⟩ := hbelow.mem_iff hframes
      (fun c hc => container_of_mem_childrenOf hc) ht
    obtain ⟨met, v, hrest⟩ := ih hrestnodes hu hothers
    exact ⟨n :: (below ++ met), v, .cons hlisted hbelow hrest⟩

/-- Walks outside of all scopes come to an end: what the keys below start with gets longer from
level to level, and the keys of objects do not. -/
theorem exists_walk (bound : Nat) (hbound : ∀ n ∈ nodes, ∀ key ∈ objects.keys,
      key.length < n.key.lead.length + bound) :
    ∃ met t, Walk stack nodes s met t := by
  -- children are bounded by one less, and nodes that no key goes beyond have none
  induction bound generalizing nodes s with
  | zero =>
    refine exists_walk_of_childrenOf hframes hnodes hs fun n hn t _ => ?_
    rw [childrenOf_eq_nil (hbound n hn)]
    exact ⟨[], t, .nil t⟩
  | succ bound ih =>
    refine exists_walk_of_childrenOf hframes hnodes hs fun n hn t ht => ih (fun c hc => ?_) ht ?_
    · rw [container_of_mem_childrenOf hc]
      exact hnodes n hn
    · intro c hc key hkey
      have hlonger : n.key.lead.length < c.key.lead.length := length_lead_of_mem_childrenOf hc
      have hlength := hbound n hn key hkey
      omega

end Ends

/-- The walk from a node meets what is below it, each key once. -/
theorem exists_walk_below (hframes : stack.frames = []) (hs : s.Shows n.key.container objects) :
    ∃ met t, Walk stack [n] s (n :: met) t ∧ (met.map key).Nodup ∧
      ∀ m, m ∈ met ↔ Below objects n m := by
  obtain ⟨t, hlisted, ht⟩ := children_of_shows hframes hs
  have hcontainers : ∀ c ∈ childrenOf objects n, c.key.container = n.key.container :=
    fun c hc => container_of_mem_childrenOf hc
  have hbound : ∀ c ∈ childrenOf objects n, ∀ key ∈ objects.keys,
      key.length < c.key.lead.length + (objects.keys.map String.length).sum := by
    intro c hc key hkey
    have hle : key.length ≤ (objects.keys.map String.length).sum :=
      List.single_le_sum (fun _ _ => Nat.zero_le _) _ (List.mem_map_of_mem hkey)
    have hlonger : n.key.lead.length < c.key.lead.length := length_lead_of_mem_childrenOf hc
    omega
  obtain ⟨met, u, hwalk⟩ := exists_walk hframes hcontainers ht _ hbound
  obtain ⟨-, hmem⟩ := hwalk.mem_iff hframes hcontainers ht
  have hwhole : Walk stack [n] s (n :: (met ++ [])) u := .cons hlisted hwalk (.nil u)
  rw [List.append_nil] at hwhole
  refine ⟨met, u, hwhole, ?_, fun m => (hmem m).trans below_iff.symm⟩
  exact hwalk.nodup hframes ht (map_key_childrenOf objects n)
    (fun name hname => (MemoryStore.mem_keys_childrenAt_iff.1 hname).1)
    ((Catalog.pairwise_keys _).imp String.ne_of_lt)

end Outside

/-! ### The files a walk meets -/

def tellsFile {σ : Type} [Store σ] (stack : FrameStack) (s : σ) (n : Node) : Bool :=
  (n.isFile stack s).1.toOption.getD false

theorem tellsFile_shown (stack : FrameStack) (s : MemoryStore) (objects : Catalog Blob) (k : Key) :
    tellsFile stack s (shown objects k) = (MemoryStore.attributesAt objects k.path).isFile := rfl

/-- Where no key has an empty segment, the files some steps below a node are those that the
recursive listing has. -/
theorem exists_below_tellsFile_iff (stack : FrameStack) (s : MemoryStore)
    (hkeys : ∀ key ∈ objects.keys, "" ∉ Path.segments key) :
    (∃ m, Below objects n m ∧ tellsFile stack s m = true ∧ m.key = k) ↔
      k ∈ (MemoryStore.filesAt objects n.key).map n.key.child := by
  rw [List.mem_map]
  constructor
  · rintro ⟨m, ⟨steps, hne, hsteps, -, rfl⟩, hfile, rfl⟩
    have hpath : (n.key.child (Path.ofSegments steps)).path ≠ "" := by
      rw [Key.child_path]
      exact fun heq => Path.ofSegments_ne_empty hsteps hne (String.append_eq_empty_iff.1 heq).2
    rw [tellsFile_shown, Key.descend_eq_child hsteps hne, MemoryStore.isFile_attributesAt_iff hpath,
      Key.child_path] at hfile
    exact ⟨Path.ofSegments steps,
      MemoryStore.mem_filesAt_iff.2 ⟨Path.ofSegments_ne_empty hsteps hne, hfile⟩,
      (Key.descend_eq_child hsteps hne).symm⟩
  · rintro ⟨path, hpath, rfl⟩
    obtain ⟨hne, b, hb⟩ := MemoryStore.mem_filesAt_iff.1 hpath
    have hsegments : "" ∉ Path.segments path :=
      Path.not_mem_segments_of_lead_append (hkeys _ (Catalog.mem_keys_iff.2 ⟨b, hb⟩))
    have hsteps : ∀ step ∈ Path.segments path, IsName step := fun step hstep =>
      ⟨fun hempty => hsegments (hempty ▸ hstep), Path.hasSlash_of_mem_segments hstep⟩
    have hdescend : n.key.descend (Path.segments path) = n.key.child path := by
      rw [Key.descend_eq_child hsteps (Path.segments_ne_nil path), Path.ofSegments_segments]
    have hchild : (n.key.child path).path ≠ "" := by
      rw [Key.child_path]
      exact fun heq => hne (String.append_eq_empty_iff.1 heq).2
    have hfile : (MemoryStore.attributesAt objects (n.key.child path).path).isFile = true :=
      (MemoryStore.isFile_attributesAt_iff hchild).2 ⟨b, by rw [Key.child_path, hb]⟩
    refine ⟨shown objects (n.key.child path),
      ⟨Path.segments path, Path.segments_ne_nil path, hsteps, ?_, by rw [hdescend]⟩, hfile, rfl⟩
    rw [hdescend]
    intro hmissing
    rw [hmissing] at hfile
    cases hfile

end Node

/-- A walk of the tree loses and repeats nothing. Outside of all scopes, and where no key of an
object has an empty segment, the walk from any node of an open container ends, the same way each
time. It meets no key twice, the files it meets are those of the recursive listing, and it meets
every object below the node once. -/
theorem Node.walk_meets_files_once (hframes : stack.frames = [])
    (hkeys : ∀ key ∈ objects.keys, "" ∉ Path.segments key)
    (hs : s.Shows n.key.container objects) :
    ∃ met t, Walk stack [n] s (n :: met) t ∧
      (∀ met' t', Walk stack [n] s met' t' → met' = n :: met ∧ t' = t) ∧
      (met.map key).Nodup ∧
      ∃ paths, (∀ u : MemoryStore, u.Shows n.key.container objects →
          (n.files stack u).1 = .ok paths) ∧
        ∀ u : MemoryStore,
          ((met.filter (tellsFile stack u)).map key).Perm (paths.map n.key.child) ∧
            ∀ below b, objects.get? (n.key.lead ++ below) = some b →
              ((met.filter (tellsFile stack u)).map key).count
                ⟨n.key.container, n.key.lead ++ below⟩ = 1 := by
  obtain ⟨met, t, hwalk, hdistinct, hmem⟩ := exists_walk_below hframes hs
  have hnone : stack.lookup n.key = none := FrameStack.lookup_of_frames_eq_nil hframes n.key
  refine ⟨met, t, hwalk, fun met' t' h => h.unique hwalk, hdistinct,
    MemoryStore.filesAt objects n.key, fun u hu => files_of_lookup_eq_none hu hnone, fun u => ?_⟩
  have hfiles : ((met.filter (tellsFile stack u)).map key).Nodup :=
    hdistinct.sublist (List.filter_sublist.map key)
  have hpaths : (MemoryStore.filesAt objects n.key).Nodup :=
    (MemoryStore.pairwise_filesAt objects n.key).imp String.ne_of_lt
  have hlistedfiles : ((MemoryStore.filesAt objects n.key).map n.key.child).Nodup :=
    hpaths.map fun path path' => Key.child_inj
  have hkeyfiles : ∀ k, k ∈ (met.filter (tellsFile stack u)).map key ↔
      k ∈ (MemoryStore.filesAt objects n.key).map n.key.child := by
    intro k
    rw [← exists_below_tellsFile_iff stack u hkeys, List.mem_map]
    simp only [List.mem_filter, hmem, and_assoc]
  refine ⟨(List.perm_ext_iff_of_nodup hfiles hlistedfiles).2 hkeyfiles, fun below b hb => ?_⟩
  have hkey : (⟨n.key.container, n.key.lead ++ below⟩ : Key) = n.key.child below :=
    congrArg (Key.mk n.key.container) (n.key.child_path below).symm
  have hbelow : below ≠ "" := (Frame.firstSegment_ne_empty hkeys hb).1
  rw [hkey]
  exact List.count_eq_one_of_mem hfiles ((hkeyfiles _).2
    (List.mem_map_of_mem (MemoryStore.mem_filesAt_iff.2 ⟨hbelow, b, hb⟩)))

/-- From the root of a container in which an object lies below another one. -/
theorem Node.walk_meets_files_once_of_object_below_object :
    let objects : Catalog Blob := ((Catalog.empty.insert "a" ⟨[7], 1⟩).insert "a/b/x"
      ⟨[], 2⟩).insert "ab" ⟨[1, 2], 3⟩
    let s : MemoryStore := { containers := Catalog.empty.insert "box" objects }
    let n : Node := { key := ⟨"box", ""⟩ }
    ∃ met t, Walk {} [n] s (n :: met) t ∧
      ((met.filter (tellsFile {} s)).map fun m => m.key.path).Perm ["a", "a/b/x", "ab"] := by
  intro objects s n
  have hframes : ({} : FrameStack).frames = [] := rfl
  have hs : s.Shows "box" objects := ⟨rfl, nofun⟩
  have hkeys : ∀ key ∈ objects.keys, "" ∉ Path.segments key := by decide +kernel
  obtain ⟨met, t, hwalk, -, -, paths, hpaths, hfiles⟩ :=
    Node.walk_meets_files_once (n := n) hframes hkeys hs
  have hlisted : paths = ["a", "a/b/x", "ab"] := by
    have heq : MemoryStore.filesAt objects n.key = ["a", "a/b/x", "ab"] := by decide +kernel
    rw [← heq]
    exact Except.ok.inj ((hpaths s hs).symm.trans (files_of_lookup_eq_none hs rfl))
  refine ⟨met, t, hwalk, ?_⟩
  have hperm := (hfiles s).1.map Key.path
  rw [hlisted, List.map_map] at hperm
  exact hperm

end BlobDepot
