import BlobDepot.Proofs.Tree.Calls
import BlobDepot.Proofs.Tree.Names
import BlobDepot.Proofs.Tree.Walk

/-!
# What is listed is found again

A listing outside of scopes hands out children that are known already, and a listing of files hands
out the rests of keys. A new node for such a child or such a rest asks on its own, maybe another
frame than the one that was listed, and finds what the listing showed.
-/
namespace BlobDepot

open BlobDepot.Path (IsName)

variable {path : String} {paths : List String} {objects : Catalog Blob} {n m : Node}
  {stack : FrameStack} {s s' : MemoryStore}

/-! ## Children -/

namespace Node

/-- A child that a listing shows has a name, stands for something, and is known for what a new node
for its key finds. -/
theorem known_of_mem_childrenOf (hframes : stack.frames = []) (hm : m ∈ childrenOf objects n) :
    m.key = n.key.child m.name ∧ ∃ a, m.known = some a ∧ a ≠ .missing ∧
      ∀ t : MemoryStore, t.Shows n.key.container objects →
        (({ key := m.key } : Node).attributes stack t).1 = .ok a := by
  obtain ⟨name, hname, hthere, rfl⟩ := mem_childrenOf_iff.1 hm
  have hkey : (shown objects (n.key.child name)).name = name := n.name_child hname.2
  refine ⟨by rw [hkey, shown], _, rfl, hthere, fun t ht => ?_⟩
  exact attributes_of_resolve rfl (resolve_of_lookup_eq_none (n := n.child name) ht
    (FrameStack.lookup_of_frames_eq_nil hframes _))

/-- Children are known for what they are. Outside of all scopes the children of a node are the
names that objects have next in their keys, in increasing order of their bytes. Each is known from
the listing, never as missing, for what a new node for its key finds when it asks the store. -/
theorem children_known (hframes : stack.frames = []) (hs : s.Shows n.key.container objects) :
    ∃ nodes, (n.children stack s).1 = .ok nodes ∧
      (nodes.map Node.name).Pairwise (fun a b => Text.bytes a < Text.bytes b) ∧
      (∀ name, name ∈ nodes.map Node.name ↔ IsName name ∧ ∃ below,
        n.key.lead ++ below ∈ objects.keys ∧
          (below = name ∨ ∃ more, below = name ++ "/" ++ more)) ∧
      ∀ m ∈ nodes, m.key = n.key.child m.name ∧ ∃ a, m.known = some a ∧ a ≠ .missing ∧
        ∀ t : MemoryStore, t.Shows n.key.container objects →
          (({ key := m.key } : Node).attributes stack t).1 = .ok a := by
  have hnone : stack.lookup n.key = none := FrameStack.lookup_of_frames_eq_nil hframes n.key
  refine ⟨_, children_of_lookup_eq_none hs hnone, ?_, fun name => ?_,
    fun m hm => known_of_mem_childrenOf hframes hm⟩
  · rw [map_name_childrenOf]
    exact (Catalog.pairwise_keys _).imp Text.bytes_lt_bytes_iff.2
  · rw [map_name_childrenOf, MemoryStore.mem_keys_childrenAt_iff]
    refine and_congr_right fun hname => ?_
    simp only [Path.fst_firstSegment_eq_iff hname.2, Catalog.mem_keys_iff, exists_and_right]

/-- An object beside objects below its name, a marker and an empty segment. -/
theorem children_known_beside_marker :
    let objects : Catalog Blob := ((((Catalog.empty.insert "a/" ⟨[], 1⟩).insert "a//z"
      ⟨[7], 2⟩).insert "a/d/e" ⟨[7], 3⟩).insert "a/x" ⟨[1, 2], 4⟩).insert "a/x/y" ⟨[], 5⟩
    let s : MemoryStore := { containers := Catalog.empty.insert "box" objects }
    let n : Node := { key := ⟨"box", "a"⟩ }
    ∃ nodes, (n.children {} s).1 = .ok nodes ∧ nodes.map Node.name = ["d", "x"] ∧
      nodes.map Node.known = [some .directory, some (.file ⟨2, some 4⟩)] ∧
        ∀ m ∈ nodes, (({ key := m.key } : Node).attributes {} s).1.toOption = m.known := by
  intro objects s n
  have hs : s.Shows "box" objects := ⟨rfl, nofun⟩
  have hframes : ({} : FrameStack).frames = [] := rfl
  obtain ⟨nodes, hnodes, -, -, hknown⟩ := children_known (n := n) hframes hs
  have hshown : nodes = childrenOf objects n :=
    Except.ok.inj (hnodes.symm.trans (children_of_lookup_eq_none hs rfl))
  have hnames : (childrenOf objects n).map Node.name = ["d", "x"] := by decide +kernel
  have hkinds : (childrenOf objects n).map Node.known =
      [some .directory, some (.file ⟨2, some 4⟩)] := by decide +kernel
  refine ⟨nodes, hnodes, hshown ▸ hnames, hshown ▸ hkinds, fun m hm => ?_⟩
  obtain ⟨-, a, ha, -, hfresh⟩ := hknown m hm
  rw [hfresh s hs, ha]
  rfl

end Node

/-! ## Files -/

namespace MemoryStore

theorem attributesAt_of_get? {b : Blob} (hpath : path ≠ "") (hb : objects.get? path = some b) :
    attributesAt objects path = .file b.info := by
  rw [attributesAt, fileAt, if_neg hpath, hb]
  rfl

theorem allowed_of_list {container start : String} {recursive : Bool} {entries : List Entry}
    (h : (list container start recursive s).1 = .ok entries) : container ∉ s.denied := by
  intro hdenied
  have hrefused : s.denied.contains container = true := by
    simpa using hdenied
  simp only [list, MemoryStore.objects, letThrough, hrefused] at h
  cases h

end MemoryStore

namespace Node

theorem allowed_of_files (hnone : stack.lookup n.key = none)
    (h : (n.files stack s).1 = .ok paths) : n.key.container ∉ s.denied := by
  rcases hcall : Store.list n.key.container n.key.lead true s with ⟨e | entries, t⟩
  · simp only [files, hnone, hcall] at h
    cases h
  · have hlist : (MemoryStore.list n.key.container n.key.lead true s).1 = .ok entries :=
      congrArg Prod.fst hcall
    exact MemoryStore.allowed_of_list hlist

section Opened

variable (hopened : FrameStack.Opened n.key.container objects stack)
  (hkeys : ∀ key ∈ objects.keys, key ≠ "" ∧ ∀ p, key ≠ p ++ "/")
  (hs : s.containers.get? n.key.container = some objects)

include hopened hkeys hs

theorem files_eq_of_ok (hpath : ∀ p, n.key.path ≠ p ++ "/")
    (h : (n.files stack s).1 = .ok paths) : paths = MemoryStore.filesAt objects n.key := by
  cases hlookup : stack.lookup n.key with
  | none =>
    rw [files_of_lookup_eq_none ⟨hs, allowed_of_files hlookup h⟩ hlookup] at h
    exact (Except.ok.inj h).symm
  | some hit =>
    have hmarker : objects.get? n.key.lead = none :=
      MemoryStore.get?_lead_eq_none_of_ends hkeys n.key.path
    rw [files_of_covered s hopened hmarker hpath hlookup] at h
    exact (Except.ok.inj h).symm

theorem attributes_of_object {b : Blob} (hfresh : n.known = none)
    (hanswers : n.key.container ∉ s.denied ∨ ∃ hit, stack.lookup n.key = some hit)
    (hb : objects.get? n.key.path = some b) :
    (n.attributes stack s).1 = .ok (.file b.info) := by
  obtain ⟨hne, hends⟩ := hkeys _ (Catalog.mem_keys_iff.2 ⟨b, hb⟩)
  have hmarker : ∀ e ∈ stack.frames, e.2.root.container = n.key.container →
      objects.get? e.2.root.lead = none :=
    fun e _ _ => MemoryStore.get?_lead_eq_none_of_ends hkeys e.2.root.path
  rw [← MemoryStore.attributesAt_of_get? hne hb]
  refine attributes_of_resolve hfresh ?_
  rcases hanswers with hallowed | ⟨hit, hlookup⟩
  · exact resolve_of_opened hopened hmarker rfl hends ⟨hs, hallowed⟩
  · rw [n.resolve_of_covered s hopened hmarker hends hlookup]

end Opened

/-- The paths of files lead back to them. On every stack of scopes over unchanged objects, none of
which has an empty key or one that ends in a slash, a listing of the files below a node gives what
follows in the key of each object there, once. From the node that leads to the object, and a new
node finds a file of its size, in whichever frame it is looked up, unless the container has been
closed since. -/
theorem files_lead_back (hopened : FrameStack.Opened n.key.container objects stack)
    (hkeys : ∀ key ∈ objects.keys, key ≠ "" ∧ ∀ p, key ≠ p ++ "/")
    (hpath : ∀ p, n.key.path ≠ p ++ "/")
    (hs : s.containers.get? n.key.container = some objects)
    (hs' : s'.containers.get? n.key.container = some objects)
    (hdenied : n.key.container ∈ s'.denied → n.key.container ∈ s.denied) :
    (n.key.container ∉ s.denied → ∃ paths, (n.files stack s).1 = .ok paths) ∧
      ∀ paths, (n.files stack s).1 = .ok paths →
        paths.Nodup ∧ (∀ p, p ∈ paths ↔ n.key.lead ++ p ∈ objects.keys) ∧ ∀ p ∈ paths,
          Text.startsWith n.key.lead (n.child p).key.path = true ∧
            ∃ b, objects.get? (n.child p).key.path = some b ∧
              ((n.child p).attributes stack s').1 =
                .ok (.file ⟨b.data.length, some b.modified⟩) := by
  have hmarker : objects.get? n.key.lead = none :=
    MemoryStore.get?_lead_eq_none_of_ends hkeys n.key.path
  constructor
  · intro hallowed
    exact ⟨_, files_of_opened hopened hmarker hpath ⟨hs, hallowed⟩⟩
  intro paths hpaths
  obtain rfl := files_eq_of_ok hopened hkeys hs hpath hpaths
  have hmem : ∀ p, p ∈ MemoryStore.filesAt objects n.key ↔ n.key.lead ++ p ∈ objects.keys := by
    intro p
    rw [MemoryStore.mem_filesAt_iff, Catalog.mem_keys_iff, and_iff_right_iff_imp]
    exact fun ⟨b, hb⟩ => Catalog.ne_empty_of_get?_append hmarker hb
  refine ⟨(MemoryStore.pairwise_filesAt objects n.key).imp String.ne_of_lt, hmem, fun p hp => ?_⟩
  obtain ⟨b, hb⟩ := Catalog.mem_keys_iff.1 ((hmem p).1 hp)
  have hchild : (n.child p).key.path = n.key.lead ++ p := Key.child_path n.key p
  rw [← hchild] at hb
  have hanswers : n.key.container ∉ s'.denied ∨
      ∃ hit, stack.lookup (n.child p).key = some hit := by
    cases hlookup : stack.lookup n.key with
    | none => exact .inl (mt hdenied (allowed_of_files hlookup hpaths))
    | some hit =>
      obtain ⟨f, path, hcovered⟩ := FrameStack.exists_lookup_child hlookup p
      exact .inr ⟨(f, path), hcovered⟩
  exact ⟨Text.startsWith_iff.2 ⟨p, hchild⟩, b, hb,
    attributes_of_object (n := n.child p) hopened hkeys hs' rfl hanswers hb⟩

/-- Beside doubled slashes, in a scope on a directory and one on the root of its container. -/
theorem files_lead_back_through_inner_scope :
    let objects : Catalog Blob := (((Catalog.empty.insert "/lead" ⟨[], 1⟩).insert "a//b"
      ⟨[7], 2⟩).insert "a/b/x" ⟨[1, 2], 3⟩).insert "ab" ⟨[], 4⟩
    let s : MemoryStore := { containers := Catalog.empty.insert "box" objects }
    let top : Node := { key := ⟨"box", ""⟩ }
    let inner : Node := { key := ⟨"box", "a/b"⟩ }
    let n : Node := { key := ⟨"box", "a"⟩ }
    let stack := (inner.enter (top.enter {} s).2.1 s).2.1
    (n.files stack s).1 = .ok ["/b", "b/x"] ∧
      ((n.child "/b").attributes stack s).1 = .ok (.file ⟨1, some 2⟩) ∧
        ((n.child "b/x").attributes stack s).1 = .ok (.file ⟨2, some 3⟩) := by
  intro objects s top inner n stack
  have hs : s.Shows "box" objects := ⟨rfl, nofun⟩
  have hends : ∀ key ∈ objects.keys, key ≠ "" ∧ key.toList.getLast? ≠ some '/' := by
    decide +kernel
  have hkeys : ∀ key ∈ objects.keys, key ≠ "" ∧ ∀ p, key ≠ p ++ "/" := fun key hkey =>
    ⟨(hends key hkey).1, Path.ne_append_slash_of_getLast? (hends key hkey).2⟩
  have hopened : FrameStack.Opened "box" objects stack := .enter inner hs (.enter top hs .empty)
  have hpath : ∀ p, n.key.path ≠ p ++ "/" := Path.ne_append_slash_of_getLast? (by decide +kernel)
  obtain ⟨hanswered, hback⟩ := files_lead_back hopened hkeys hpath hs.holds hs.holds id
  obtain ⟨paths, hpaths⟩ := hanswered nofun
  obtain rfl := files_eq_of_ok (n := n) hopened hkeys hs.holds hpath hpaths
  have hlisted : MemoryStore.filesAt objects n.key = ["/b", "b/x"] := by decide +kernel
  rw [hlisted] at hpaths
  obtain ⟨-, -, hfound⟩ := hback _ hpaths
  have hdata : objects.get? (n.child "/b").key.path = some ⟨[7], 2⟩ := by decide +kernel
  have hdata' : objects.get? (n.child "b/x").key.path = some ⟨[1, 2], 3⟩ := by decide +kernel
  refine ⟨hpaths, ?_, ?_⟩
  · obtain ⟨-, b, hb, hfile⟩ := hfound "/b" (by simp)
    rw [hdata] at hb
    cases hb
    exact hfile
  · obtain ⟨-, b, hb, hfile⟩ := hfound "b/x" (by simp)
    rw [hdata'] at hb
    cases hb
    exact hfile

end Node
end BlobDepot
