import BlobDepot.Proofs.Tree.Children
import BlobDepot.Proofs.Tree.Level
import BlobDepot.Proofs.Tree.Scopes
import Mathlib.Data.List.Sort

/-!
# Listings inside scopes

A scope answers a listing from its frame. Where no key of an object has an empty segment, the
answers are those of the store: the same children in the same order, standing for the same, and
the same files.
-/
namespace BlobDepot

open BlobDepot.Path (IsName hasSlash)

variable {container name path : String} {objects : Catalog Blob} {root k : Key}
  {s s' : MemoryStore} {n : Node} {stack : FrameStack}

/-! ## What a frame over the objects of a container lists -/

namespace Frame

/-- The children in a frame are the first segments of what follows in the keys of objects. The
object whose key is the prefix of the frame shows in none. -/
theorem mem_children_snapshot_iff :
    name ∈ (snapshot objects root).children path ↔ ∃ below b,
      Path.lead path ++ below ≠ "" ∧
        objects.get? (root.lead ++ Path.lead path ++ below) = some b ∧
          (Path.firstSegment below).1 = name := by
  rw [mem_children_iff]
  constructor
  · rintro ⟨below, info, hfile, hname⟩
    obtain ⟨hne, b, hb, -⟩ := get?_files_snapshot_iff.1 hfile
    rw [← String.append_assoc] at hb
    exact ⟨below, b, hne, hb, hname⟩
  · rintro ⟨below, b, hne, hb, hname⟩
    rw [String.append_assoc] at hb
    exact ⟨below, b.info, get?_files_snapshot_iff.2 ⟨hne, b, hb, rfl⟩, hname⟩

theorem mem_paths_snapshot_iff {below : String} :
    below ∈ ((snapshot objects root).filesBelow path).map Prod.fst ↔
      Path.lead path ++ below ≠ "" ∧
        ∃ b, objects.get? (root.lead ++ Path.lead path ++ below) = some b := by
  rw [List.mem_map]
  constructor
  · rintro ⟨⟨below', info⟩, hmem, rfl⟩
    obtain ⟨hne, b, hb, -⟩ := get?_files_snapshot_iff.1 (mem_filesBelow_iff.1 hmem)
    rw [← String.append_assoc] at hb
    exact ⟨hne, b, hb⟩
  · rintro ⟨hne, b, hb⟩
    rw [String.append_assoc] at hb
    exact ⟨(below, b.info), mem_filesBelow_iff.2 (get?_files_snapshot_iff.2 ⟨hne, b, hb, rfl⟩), rfl⟩

theorem firstSegment_ne_empty {below : String} {b : Blob}
    (hkeys : ∀ key ∈ objects.keys, "" ∉ Path.segments key)
    (hb : objects.get? (k.lead ++ below) = some b) :
    below ≠ "" ∧ (Path.firstSegment below).1 ≠ "" := by
  have hbelow : "" ∉ Path.segments below :=
    Path.not_mem_segments_of_lead_append (hkeys _ (Catalog.mem_keys_iff.2 ⟨b, hb⟩))
  constructor
  · rintro rfl
    exact hbelow (List.mem_singleton_self "")
  · intro hfirst
    exact hbelow (hfirst ▸ Path.firstSegment_mem_segments below)

theorem children_snapshot_eq (hkeys : ∀ key ∈ objects.keys, "" ∉ Path.segments key)
    (hcover : (snapshot objects root).pathTo? k = some path) (hk : ∀ p, k.path ≠ p ++ "/") :
    (snapshot objects root).children path = (MemoryStore.childrenAt objects k).keys := by
  have hlead : k.lead = root.lead ++ Path.lead path := lead_append_lead (covered_cases hcover hk)
  -- both lists are in order, so they are equal if the same names are in them
  apply (pairwise_children _ path).eq_of_mem_iff (Catalog.pairwise_keys _)
  intro name
  rw [mem_children_snapshot_iff, MemoryStore.mem_keys_childrenAt_iff, ← hlead]
  constructor
  · rintro ⟨below, b, -, hb, rfl⟩
    obtain ⟨-, hname⟩ := firstSegment_ne_empty hkeys hb
    exact ⟨⟨hname, Path.hasSlash_firstSegment below⟩, below, b, hb, rfl⟩
  · rintro ⟨-, below, b, hb, rfl⟩
    obtain ⟨hbelow, -⟩ := firstSegment_ne_empty hkeys hb
    exact ⟨below, b, fun heq => hbelow (String.append_eq_empty_iff.1 heq).2, hb, rfl⟩

/-- The files below a key are the same in a frame that covers it, unless the prefix of the key is
the key of an object. -/
theorem paths_snapshot_eq (hmarker : objects.get? k.lead = none)
    (hcover : (snapshot objects root).pathTo? k = some path) (hk : ∀ p, k.path ≠ p ++ "/") :
    ((snapshot objects root).filesBelow path).map Prod.fst = MemoryStore.filesAt objects k := by
  have hlead : k.lead = root.lead ++ Path.lead path := lead_append_lead (covered_cases hcover hk)
  apply (pairwise_filesBelow _ path).eq_of_mem_iff (MemoryStore.pairwise_filesAt objects k)
  intro below
  rw [mem_paths_snapshot_iff, MemoryStore.mem_filesAt_iff, ← hlead]
  refine and_congr_left fun ⟨b, hb⟩ => ?_
  have hbelow : below ≠ "" := Catalog.ne_empty_of_get?_append hmarker hb
  simp [hbelow]

end Frame

/-! ## Listings of nodes -/

namespace Node

theorem children_of_lookup {σ : Type} [Store σ] {f : Frame} (s : σ)
    (hlookup : stack.lookup n.key = some (f, path)) :
    n.children stack s = (.ok ((f.children path).map n.child), s) := by
  simp only [children, hlookup]

theorem files_of_lookup {σ : Type} [Store σ] {f : Frame} (s : σ)
    (hlookup : stack.lookup n.key = some (f, path)) :
    n.files stack s = (.ok ((f.filesBelow path).map Prod.fst), s) := by
  simp only [files, hlookup]

/-- A node that a frame covers has the files that the objects tell of, whatever has become of the
store. -/
theorem files_of_covered {σ : Type} [Store σ] {f : Frame} (t : σ)
    (hopened : FrameStack.Opened n.key.container objects stack)
    (hmarker : objects.get? n.key.lead = none) (hk : ∀ p, n.key.path ≠ p ++ "/")
    (hlookup : stack.lookup n.key = some (f, path)) :
    n.files stack t = (.ok (MemoryStore.filesAt objects n.key), t) := by
  obtain ⟨hframe, hcover, -⟩ := hopened.snapshot_of_lookup hlookup
  rw [hframe] at hcover
  rw [files_of_lookup t hlookup, hframe, Frame.paths_snapshot_eq hmarker hcover hk]

def childrenOf (objects : Catalog Blob) (n : Node) : List Node :=
  (MemoryStore.childrenAt objects n.key).entries.map fun e =>
    { key := n.key.child e.1, known := some e.2 }

theorem children_of_lookup_eq_none (hs : s.Shows n.key.container objects)
    (hnone : stack.lookup n.key = none) :
    (n.children stack s).1 = .ok (childrenOf objects n) := by
  have hlist : (Store.list n.key.container n.key.lead false s).1 =
      .ok (MemoryStore.listing objects n.key.lead false) := hs.list_fst n.key.lead false
  rcases hcall : Store.list n.key.container n.key.lead false s with ⟨entries, t⟩
  rw [hcall] at hlist
  obtain rfl : entries = .ok (MemoryStore.listing objects n.key.lead false) := hlist
  simp only [children, hnone, hcall]
  rfl

theorem files_of_lookup_eq_none (hs : s.Shows n.key.container objects)
    (hnone : stack.lookup n.key = none) :
    (n.files stack s).1 = .ok (MemoryStore.filesAt objects n.key) := by
  have hlist : (Store.list n.key.container n.key.lead true s).1 =
      .ok (MemoryStore.listing objects n.key.lead true) := hs.list_fst n.key.lead true
  have hsort : (MemoryStore.filesAt objects n.key).mergeSort (· ≤ ·) =
      MemoryStore.filesAt objects n.key :=
    List.mergeSort_of_pairwise ((MemoryStore.pairwise_filesAt objects n.key).imp
      fun hlt => decide_eq_true (Std.le_of_lt hlt))
  rcases hcall : Store.list n.key.container n.key.lead true s with ⟨entries, t⟩
  rw [hcall] at hlist
  obtain rfl : entries = .ok (MemoryStore.listing objects n.key.lead true) := hlist
  simp only [files, hnone, hcall]
  exact congrArg Except.ok hsort

theorem files_of_opened (hopened : FrameStack.Opened n.key.container objects stack)
    (hmarker : objects.get? n.key.lead = none) (hk : ∀ p, n.key.path ≠ p ++ "/")
    (hs : s.Shows n.key.container objects) :
    (n.files stack s).1 = .ok (MemoryStore.filesAt objects n.key) := by
  cases hlookup : stack.lookup n.key with
  | none => exact files_of_lookup_eq_none hs hlookup
  | some hit => rw [files_of_covered s hopened hmarker hk hlookup]

theorem fst_glob {σ : Type} [Store σ] (engine : Glob.Engine) (stack : FrameStack) (n : Node)
    (includes excludes : List String) (s : σ) :
    (n.glob engine stack includes excludes s).1 =
      match Glob.Filter.ofPatterns engine includes excludes with
      | .error r => .error (.invalidPattern r)
      | .ok filter => (n.files stack s).1.map fun paths => paths.filter filter.lets := by
  rw [glob]
  cases Glob.Filter.ofPatterns engine includes excludes <;> rfl

theorem attributesAt_of_mem_entries {e : String × Attributes}
    (he : e ∈ (MemoryStore.childrenAt objects n.key).entries) :
    IsName e.1 ∧ MemoryStore.attributesAt objects (n.key.child e.1).path = e.2 := by
  have hget : (MemoryStore.childrenAt objects n.key).get? e.1 = some e.2 :=
    Catalog.get?_eq_some_iff.2 he
  obtain ⟨hname, -, heq⟩ := MemoryStore.get?_childrenAt_iff.1 hget
  exact ⟨hname, heq⟩

/-- A child that is not known yet stands for what a listing shows of it, on every stack over
unchanged objects. -/
theorem attributes_of_mem_entries {e : String × Attributes}
    (hopened : FrameStack.Opened n.key.container objects stack)
    (hmarker : ∀ e ∈ stack.frames, e.2.root.container = n.key.container →
      objects.get? e.2.root.lead = none)
    (he : e ∈ (MemoryStore.childrenAt objects n.key).entries)
    (hs : s.Shows n.key.container objects) :
    ((n.child e.1).attributes stack s).1 = .ok e.2 := by
  obtain ⟨hname, heq⟩ := attributesAt_of_mem_entries he
  have hpath : ∀ p, (n.child e.1).key.path ≠ p ++ "/" := by
    intro p
    have hchild : (n.child e.1).key.path = n.key.lead ++ e.1 := Key.child_path n.key e.1
    rw [hchild]
    exact Path.append_ne_append_slash hname n.key.lead p
  have hresolve := resolve_of_opened hopened hmarker (n := n.child e.1) rfl hpath hs
  rw [attributes_of_resolve rfl hresolve]
  exact congrArg Except.ok heq

end Node

namespace MemoryStore

/-- No object stands at the prefix of a key where no key of an object is empty or ends in a
slash. -/
theorem get?_lead_eq_none_of_ends (hkeys : ∀ key ∈ objects.keys, key ≠ "" ∧ ∀ p, key ≠ p ++ "/")
    (path : String) : objects.get? (Path.lead path) = none := by
  cases hget : objects.get? (Path.lead path) with
  | none => rfl
  | some b =>
    obtain ⟨hne, hend⟩ := hkeys _ (Catalog.mem_keys_iff.2 ⟨b, hget⟩)
    by_cases hpath : path = ""
    · exact absurd (Path.lead_eq_empty_iff.2 hpath) hne
    · rw [Path.lead, if_neg hpath] at hend
      exact absurd rfl (hend path)

theorem get?_lead_eq_none (hkeys : ∀ key ∈ objects.keys, "" ∉ Path.segments key) (path : String) :
    objects.get? (Path.lead path) = none :=
  get?_lead_eq_none_of_ends (fun key hkey => Path.ends_of_not_mem_segments (hkeys key hkey)) path

end MemoryStore

/-- The children come from a listing and are known by it, or they come from a frame. -/
theorem Node.children_of_opened (hopened : FrameStack.Opened n.key.container objects stack)
    (hkeys : ∀ key ∈ objects.keys, "" ∉ Path.segments key) (hk : ∀ p, n.key.path ≠ p ++ "/")
    (hs : s.Shows n.key.container objects) :
    (n.children stack s).1 = .ok (childrenOf objects n) ∨
      (n.children stack s).1 = .ok ((MemoryStore.childrenAt objects n.key).keys.map n.child) := by
  cases hlookup : stack.lookup n.key with
  | none => exact .inl (children_of_lookup_eq_none hs hlookup)
  | some hit =>
    obtain ⟨f, path⟩ := hit
    obtain ⟨hframe, hcover, -⟩ := hopened.snapshot_of_lookup hlookup
    rw [hframe] at hcover
    rw [children_of_lookup s hlookup, hframe, Frame.children_snapshot_eq hkeys hcover hk]
    exact .inr rfl

/-- Cached listings are those of the store. On every stack of scopes over unchanged objects whose
keys have no empty segment, a node whose path has none either lists the same children in the same
order as without any scope, standing for the same, and the same files, all of them and those that
patterns let through. -/
theorem Node.listings_eq_of_opened (hopened : FrameStack.Opened container objects stack)
    (hkeys : ∀ key ∈ objects.keys, "" ∉ Path.segments key)
    (hn : n.key.container = container) (hpath : n.key.path = "" ∨ "" ∉ Path.segments n.key.path)
    (hs : s.Shows container objects) (hs' : s'.Shows container objects) :
    (∃ cached direct, (n.children stack s).1 = .ok cached ∧ (n.children {} s').1 = .ok direct ∧
      List.Forall₂ (fun c d => c.key = d.key ∧ ∀ t t' : MemoryStore, t.Shows container objects →
        t'.Shows container objects →
          ∃ a, (c.attributes stack t).1 = .ok a ∧ (d.attributes {} t').1 = .ok a) cached direct) ∧
      (∃ paths, (n.files stack s).1 = .ok paths ∧ (n.files {} s').1 = .ok paths) ∧
      ∀ engine includes excludes,
        (n.glob engine stack includes excludes s).1 =
          (n.glob engine {} includes excludes s').1 := by
  subst hn
  have hk := Path.ne_append_slash_of_not_mem_segments hpath
  have hmarker : ∀ e ∈ stack.frames, e.2.root.container = n.key.container →
      objects.get? e.2.root.lead = none :=
    fun e _ _ => MemoryStore.get?_lead_eq_none hkeys e.2.root.path
  have hdirect : (n.children {} s').1 = .ok (childrenOf objects n) :=
    children_of_lookup_eq_none hs' rfl
  have hcached : (n.files stack s).1 = .ok (MemoryStore.filesAt objects n.key) :=
    files_of_opened hopened (MemoryStore.get?_lead_eq_none hkeys n.key.path) hk hs
  have huncached : (n.files {} s').1 = .ok (MemoryStore.filesAt objects n.key) :=
    files_of_lookup_eq_none hs' rfl
  refine ⟨?_, ⟨_, hcached, huncached⟩, fun engine includes excludes => ?_⟩
  · rcases children_of_opened hopened hkeys hk hs with hchildren | hchildren
    · refine ⟨_, _, hchildren, hdirect, List.forall₂_same.2 fun c hc => ⟨rfl, fun t t' _ _ => ?_⟩⟩
      obtain ⟨e, -, rfl⟩ := List.mem_map.1 hc
      exact ⟨e.2, rfl, rfl⟩
    · refine ⟨_, _, hchildren, hdirect, ?_⟩
      rw [childrenOf, Catalog.keys, List.map_map, List.forall₂_map_left_iff,
        List.forall₂_map_right_iff, List.forall₂_same]
      exact fun e he => ⟨rfl, fun t t' ht _ =>
        ⟨e.2, attributes_of_mem_entries hopened hmarker he ht, rfl⟩⟩
  · rw [fst_glob, fst_glob, hcached, huncached]

/-- Inside a scope on a directory and one on the root of its container. -/
theorem Node.listings_eq_of_opened_nested :
    let objects : Catalog Blob := (((Catalog.empty.insert "a/b/x" ⟨[7], 1⟩).insert "a/b.txt"
      ⟨[], 2⟩).insert "a/c" ⟨[1, 2], 3⟩).insert "ab" ⟨[], 4⟩
    let s : MemoryStore := { containers := Catalog.empty.insert "box" objects }
    let top : Node := { key := ⟨"box", ""⟩ }
    let n : Node := { key := ⟨"box", "a"⟩ }
    let stack := (n.enter (top.enter {} s).2.1 s).2.1
    (∃ cached, (n.children stack s).1 = .ok cached ∧
      cached.map (fun c => c.key.path) = ["a/b", "a/b.txt", "a/c"]) ∧
      (n.files stack s).1 = .ok ["b.txt", "b/x", "c"] ∧
        (n.glob {} stack ["**/x"] [] s).1 = (n.glob {} {} ["**/x"] [] s).1 := by
  intro objects s top n stack
  have hs : s.Shows "box" objects := ⟨rfl, nofun⟩
  have hkeys : ∀ key ∈ objects.keys, "" ∉ Path.segments key := by decide +kernel
  have hpath : n.key.path = "" ∨ "" ∉ Path.segments n.key.path := by decide +kernel
  obtain ⟨⟨cached, direct, hcached, hdirect, halike⟩, ⟨paths, hpaths, hpaths'⟩, hglob⟩ :=
    Node.listings_eq_of_opened (.enter n hs (.enter top hs .empty)) hkeys rfl hpath hs hs
  have hshown : direct = childrenOf objects n :=
    Except.ok.inj (hdirect.symm.trans (children_of_lookup_eq_none hs rfl))
  have hnames : (childrenOf objects n).map (fun c => c.key.path) = ["a/b", "a/b.txt", "a/c"] := by
    decide +kernel
  have hsame : cached.map (fun c => c.key.path) = direct.map fun c => c.key.path := by
    rw [← List.forall₂_eq_eq_eq, List.forall₂_map_left_iff, List.forall₂_map_right_iff]
    exact halike.imp fun c d h => congrArg Key.path h.1
  have hfiles : paths = MemoryStore.filesAt objects n.key :=
    Except.ok.inj (hpaths'.symm.trans (files_of_lookup_eq_none hs rfl))
  have hlisted : MemoryStore.filesAt objects n.key = ["b.txt", "b/x", "c"] := by decide +kernel
  refine ⟨⟨cached, hcached, ?_⟩, ?_, hglob _ _ _⟩
  · rw [hsame, hshown, hnames]
  · rw [hpaths, hfiles, hlisted]

end BlobDepot
