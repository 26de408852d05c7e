import BlobDepot.Proofs.Tree.Listings

/-!
# Names in listings

The children of a node are listed in increasing order and no name has a slash in it. Outside of
scopes a name has something in it, and so has the path of a file. A frame leaves empty segments in:
it shows an empty name where the key of an object goes on with one.
-/
namespace BlobDepot

open BlobDepot.Path (IsName hasSlash)

variable {container name path : String} {objects : Catalog Blob} {root k : Key} {f : Frame}
  {s : MemoryStore} {n : Node} {stack : FrameStack}

/-- A frame answers for the key, and the key of an object goes on from there with an empty segment:
it ends in the slash after the key, which is then not the root of the frame, or has a second slash
there. -/
def FrameStack.ShowsEmptyStep (stack : FrameStack) (objects : Catalog Blob) (k : Key) : Prop :=
  ∃ f path, stack.lookup k = some (f, path) ∧
    (path ≠ "" ∧ (∃ b, objects.get? k.lead = some b) ∨ objects.hasUnder (k.lead ++ "/") = true)

namespace Frame

theorem hasSlash_of_mem_children (h : name ∈ f.children path) : hasSlash name = false := by
  obtain ⟨below, info, -, rfl⟩ := mem_children_iff.1 h
  exact Path.hasSlash_firstSegment below

theorem empty_mem_paths_snapshot_iff :
    "" ∈ ((snapshot objects root).filesBelow path).map Prod.fst ↔
      path ≠ "" ∧ ∃ b, objects.get? (root.lead ++ Path.lead path) = some b := by
  rw [mem_paths_snapshot_iff, String.append_empty, String.append_empty, ne_eq,
    Path.lead_eq_empty_iff]

/-- A frame shows a child without a name for the object whose key is the prefix of the children,
and for those whose keys have a second slash there. -/
theorem empty_mem_children_snapshot_iff :
    "" ∈ (snapshot objects root).children path ↔
      path ≠ "" ∧ (∃ b, objects.get? (root.lead ++ Path.lead path) = some b) ∨
        objects.hasUnder (root.lead ++ Path.lead path ++ "/") = true := by
  have hempty : hasSlash "" = false := rfl
  rw [mem_children_snapshot_iff, Catalog.hasUnder_iff]
  simp only [Path.fst_firstSegment_eq_iff hempty, Text.startsWith_iff, String.empty_append]
  constructor
  · rintro ⟨below, b, hne, hb, rfl | ⟨rest, rfl⟩⟩
    · rw [String.append_empty, ne_eq, Path.lead_eq_empty_iff] at hne
      rw [String.append_empty] at hb
      exact .inl ⟨hne, b, hb⟩
    · rw [← String.append_assoc] at hb
      exact .inr ⟨_, b, hb, rest, rfl⟩
  · rintro (⟨hne, b, hb⟩ | ⟨_, b, hb, rest, rfl⟩)
    · refine ⟨"", b, ?_, ?_, .inl rfl⟩
      · rwa [String.append_empty, ne_eq, Path.lead_eq_empty_iff]
      · rwa [String.append_empty]
    · refine ⟨"/" ++ rest, b, ?_, ?_, .inr ⟨rest, rfl⟩⟩
      · simp
      · rwa [← String.append_assoc]

end Frame

namespace Node

theorem name_child {step : String} (n : Node) (h : hasSlash step = false) :
    (n.child step).name = step :=
  Key.name_child n.key h

theorem map_name_child (n : Node) {names : List String}
    (h : ∀ name ∈ names, hasSlash name = false) : (names.map n.child).map Node.name = names := by
  calc (names.map n.child).map Node.name = names.map (Node.name ∘ n.child) := List.map_map
    _ = names.map id := List.map_congr_left fun name hname => n.name_child (h name hname)
    _ = names := List.map_id names

theorem isName_of_mem_keys (h : name ∈ (MemoryStore.childrenAt objects k).keys) : IsName name :=
  (MemoryStore.mem_keys_childrenAt_iff.1 h).1

theorem map_name_childrenOf (objects : Catalog Blob) (n : Node) :
    (childrenOf objects n).map Node.name = (MemoryStore.childrenAt objects n.key).keys := by
  have hslash : ∀ name ∈ (MemoryStore.childrenAt objects n.key).keys, hasSlash name = false :=
    fun name hname => (isName_of_mem_keys hname).2
  rw [← n.map_name_child hslash, childrenOf, Catalog.keys, List.map_map, List.map_map, List.map_map]
  rfl

/-- The names of the children of a node that no frame answers for, and the paths of the files below
it, have something in them. -/
theorem listed_of_lookup_eq_none (hs : s.Shows n.key.container objects)
    (hnone : stack.lookup n.key = none) :
    ∃ nodes paths, (n.children stack s).1 = .ok nodes ∧ (n.files stack s).1 = .ok paths ∧
      (nodes.map Node.name).Pairwise (· < ·) ∧ (∀ m ∈ nodes, IsName m.name) ∧ "" ∉ paths := by
  refine ⟨_, _, children_of_lookup_eq_none hs hnone, files_of_lookup_eq_none hs hnone, ?_, ?_, ?_⟩
  · rw [map_name_childrenOf]
    exact Catalog.pairwise_keys _
  · intro m hm
    have hname : m.name ∈ (childrenOf objects n).map Node.name := List.mem_map_of_mem hm
    rw [map_name_childrenOf] at hname
    exact isName_of_mem_keys hname
  · intro hempty
    exact (MemoryStore.mem_filesAt_iff.1 hempty).1 rfl

/-- Those of a node that a frame answers for are in order and without slashes. One is empty if the
frame shows an empty segment. -/
theorem listed_of_lookup (s : MemoryStore) (hlookup : stack.lookup n.key = some (f, path)) :
    ∃ nodes paths, (n.children stack s).1 = .ok nodes ∧ (n.files stack s).1 = .ok paths ∧
      (nodes.map Node.name).Pairwise (· < ·) ∧ (∀ m ∈ nodes, hasSlash m.name = false) ∧
        ((∀ m ∈ nodes, m.name ≠ "") ↔ "" ∉ f.children path) ∧
          paths = (f.filesBelow path).map Prod.fst := by
  have hslash : ∀ name ∈ f.children path, hasSlash name = false :=
    fun name hname => Frame.hasSlash_of_mem_children hname
  have hnames := n.map_name_child hslash
  have hmem : ∀ m ∈ (f.children path).map n.child, m.name ∈ f.children path := by
    intro m hm
    rw [← hnames]
    exact List.mem_map_of_mem hm
  refine ⟨_, _, congrArg Prod.fst (children_of_lookup s hlookup),
    congrArg Prod.fst (files_of_lookup s hlookup), ?_, fun m hm => hslash _ (hmem m hm), ?_, rfl⟩
  · rw [hnames]
    exact f.pairwise_children path
  · constructor
    · intro hall hempty
      exact hall _ (List.mem_map_of_mem hempty) (n.name_child rfl)
    · intro hempty m hm hname
      exact hempty (hname ▸ hmem m hm)

/-- In a frame of the objects names and paths are all proper unless it shows an empty segment: an
empty path is listed only along with an empty name. -/
theorem listed_of_covered (hopened : FrameStack.Opened n.key.container objects stack)
    (hk : ∀ p, n.key.path ≠ p ++ "/") (s : MemoryStore)
    (hlookup : stack.lookup n.key = some (f, path)) :
    ∃ nodes paths, (n.children stack s).1 = .ok nodes ∧ (n.files stack s).1 = .ok paths ∧
      (nodes.map Node.name).Pairwise (· < ·) ∧ (∀ m ∈ nodes, hasSlash m.name = false) ∧
        ((∀ m ∈ nodes, IsName m.name) ∧ "" ∉ paths ↔ ¬ stack.ShowsEmptyStep objects n.key) := by
  obtain ⟨nodes, paths, hnodes, hpaths, hsorted, hslash, hnames, rfl⟩ :=
    listed_of_lookup s hlookup
  refine ⟨nodes, _, hnodes, hpaths, hsorted, hslash, ?_⟩
  obtain ⟨hframe, hcover, -⟩ := hopened.snapshot_of_lookup hlookup
  rw [hframe] at hcover
  have hlead : n.key.lead = f.root.lead ++ Path.lead path :=
    Frame.lead_append_lead (Frame.covered_cases hcover hk)
  have hproper : (∀ m ∈ nodes, IsName m.name) ↔ "" ∉ f.children path := by
    rw [← hnames]
    exact forall₂_congr fun m hm => by simp [IsName, hslash m hm]
  have hshows : stack.ShowsEmptyStep objects n.key ↔ "" ∈ f.children path := by
    rw [hframe, Frame.empty_mem_children_snapshot_iff, ← hlead]
    simp [FrameStack.ShowsEmptyStep, hlookup]
  have hfiles : "" ∈ (f.filesBelow path).map Prod.fst → "" ∈ f.children path := by
    rw [hframe, Frame.empty_mem_children_snapshot_iff, Frame.empty_mem_paths_snapshot_iff]
    exact Or.inl
  rw [hproper, hshows]
  exact ⟨And.left, fun hempty => ⟨hempty, mt hfiles hempty⟩⟩

end Node

theorem FrameStack.not_showsEmptyStep (hnone : stack.lookup k = none) :
    ¬ stack.ShowsEmptyStep objects k := by
  rintro ⟨f, path, hlookup, -⟩
  rw [hnone] at hlookup
  cases hlookup

/-- Listed names are in increasing order of their bytes and free of slashes, on every stack of
scopes over unchanged objects and for every node whose path has no slash at its ends. They all have
something in them, and so have the listed paths, if and only if no frame shows an empty segment
below the node. -/
theorem Node.listed_names_iff (hopened : FrameStack.Opened container objects stack)
    (hn : n.key = .ofPath container path) (hs : s.Shows container objects) :
    ∃ nodes paths, (n.children stack s).1 = .ok nodes ∧ (n.files stack s).1 = .ok paths ∧
      (nodes.map Node.name).Pairwise (fun a b => Text.bytes a < Text.bytes b) ∧
      (∀ m ∈ nodes, hasSlash m.name = false) ∧
        ((∀ m ∈ nodes, IsName m.name) ∧ "" ∉ paths ↔ ¬ stack.ShowsEmptyStep objects n.key) := by
  obtain rfl : n.key.container = container := congrArg Key.container hn
  have hk : ∀ p, n.key.path ≠ p ++ "/" := by
    intro p
    rw [hn]
    exact Path.trim_ne_append_slash path p
  cases hlookup : stack.lookup n.key with
  | none =>
    obtain ⟨nodes, paths, hnodes, hpaths, hsorted, hnames, hempty⟩ :=
      listed_of_lookup_eq_none hs hlookup
    exact ⟨nodes, paths, hnodes, hpaths, hsorted.imp Text.bytes_lt_bytes_iff.2,
      fun m hm => (hnames m hm).2,
      iff_of_true ⟨hnames, hempty⟩ (FrameStack.not_showsEmptyStep hlookup)⟩
  | some hit =>
    obtain ⟨nodes, paths, hnodes, hpaths, hsorted, hrest⟩ :=
      listed_of_covered hopened hk s hlookup
    exact ⟨nodes, paths, hnodes, hpaths, hsorted.imp Text.bytes_lt_bytes_iff.2, hrest⟩

/-- Beside a marker, in a scope on the root of the container. -/
theorem Node.listed_names_beside_marker :
    let objects : Catalog Blob := (Catalog.empty.insert "a/" ⟨[], 1⟩).insert "b/y" ⟨[7], 2⟩
    let s : MemoryStore := { containers := Catalog.empty.insert "box" objects }
    let top : Node := { key := .root "box" }
    let n : Node := { key := .ofPath "box" "b/" }
    let stack := (top.enter {} s).2.1
    ∃ nodes paths, (n.children stack s).1 = .ok nodes ∧ (n.files stack s).1 = .ok paths ∧
      (∀ m ∈ nodes, IsName m.name) ∧ "" ∉ paths := by
  intro objects s top n stack
  have hs : s.Shows "box" objects := ⟨rfl, nofun⟩
  have hnone : objects.get? n.key.lead = none := by decide +kernel
  have hunder : objects.hasUnder (n.key.lead ++ "/") = false := by decide +kernel
  have hshows : ¬ stack.ShowsEmptyStep objects n.key := by
    rintro ⟨f, rel, -, ⟨-, b, hb⟩ | hslash⟩
    · rw [hnone] at hb
      cases hb
    · rw [hunder] at hslash
      cases hslash
  obtain ⟨nodes, paths, hnodes, hpaths, -, -, hproper⟩ :=
    Node.listed_names_iff (.enter top hs .empty) (n := n) rfl hs
  obtain ⟨hnames, hempty⟩ := hproper.2 hshows
  exact ⟨nodes, paths, hnodes, hpaths, hnames, hempty⟩

/-- A marker below the root of a scope. -/
theorem Node.listed_name_empty_of_marker :
    let objects : Catalog Blob := Catalog.empty.insert "a/" ⟨[], 1⟩
    let s : MemoryStore := { containers := Catalog.empty.insert "artifacts" objects }
    let top : Node := { key := .root "artifacts" }
    let n : Node := { key := .ofPath "artifacts" "a" }
    let stack := (top.enter {} s).2.1
    (∃ nodes, (n.children stack s).1 = .ok nodes ∧ nodes.map Node.name = [""]) ∧
      (n.files stack s).1 = .ok [""] := by
  intro objects s top n stack
  have hlookup : stack.lookup n.key = some (.snapshot objects top.key, "a") := rfl
  have hnames : (((Frame.snapshot objects top.key).children "a").map n.child).map Node.name =
      [""] := by
    decide +kernel
  have hpaths : ((Frame.snapshot objects top.key).filesBelow "a").map Prod.fst = [""] := by
    decide +kernel
  refine ⟨⟨_, congrArg Prod.fst (children_of_lookup s hlookup), hnames⟩, ?_⟩
  rw [files_of_lookup s hlookup, hpaths]

end BlobDepot
