import BlobDepot.Proofs.Tree.Scopes

/-!
# Nodes inside their own scopes

A scope that is opened on a node answers for the node itself. It leaves out the object whose key
is the prefix of all below the node. Where that object is the only one, the node is a directory
outside of the scope and missing inside.
-/
namespace BlobDepot

variable {objects : Catalog Blob} {root : Key} {s s' : MemoryStore} {n scope : Node}
  {stack : FrameStack} {f : Frame} {k : Key} {path : String}

/-- At and below a key there is one object only, and its key is the prefix of what is below. -/
structure MemoryStore.IsLoneMarker (objects : Catalog Blob) (k : Key) : Prop where
  marker : ∃ b, objects.get? k.lead = some b
  noFile : fileAt objects k.path = none
  noneBelow : ∀ below, below ≠ "" → objects.get? (k.lead ++ below) = none

theorem Frame.pathTo?_root (f : Frame) : f.pathTo? f.root = some "" := by
  rw [pathTo?, if_neg (not_not_intro rfl)]
  by_cases hroot : f.root.path = ""
  · rw [if_pos hroot, hroot]
  · rw [if_neg hroot, if_pos rfl]

theorem FrameStack.lookup_push (stack : FrameStack) (hcover : f.pathTo? k = some path) :
    (stack.push f).lookup k = some (f, path) := by
  simp [lookup, hcover]

namespace Node

theorem enter_of_shows (stack : FrameStack) (hs : s.Shows scope.key.container objects) :
    (scope.enter stack s).1 = .ok stack.ticket ∧
      (scope.enter stack s).2.1 = stack.push (.snapshot objects scope.key) := by
  have hframe := frame_of_shows hs
  rcases hcall : scope.frame s with ⟨f, t⟩
  rw [hcall] at hframe
  obtain rfl : f = .ok (.snapshot objects scope.key) := hframe
  rw [enter, hcall]
  exact ⟨rfl, rfl⟩

theorem resolve_in_own_scope (hscope : scope.key = n.key) (stack : FrameStack)
    (hs : s.Shows n.key.container objects) (t : MemoryStore) :
    (n.resolve (scope.enter stack s).2.1 t).1 =
      .ok ((Frame.snapshot objects n.key).attributes "") := by
  have hlookup : (scope.enter stack s).2.1.lookup n.key =
      some (.snapshot objects n.key, "") := by
    rw [(enter_of_shows stack (hscope ▸ hs)).2, hscope]
    exact stack.lookup_push (Frame.pathTo?_root (.snapshot objects n.key))
  rw [resolve, hlookup]

end Node

namespace Frame

theorem hasBelow_root_iff :
    (snapshot objects root).hasBelow "" = true ↔
      ∃ below b, below ≠ "" ∧ objects.get? (root.lead ++ below) = some b := by
  simp [hasBelow_snapshot_iff, Text.startsWith_empty]

theorem isLoneMarker_iff :
    MemoryStore.IsLoneMarker objects root ↔ MemoryStore.fileAt objects root.path = none ∧
      (snapshot objects root).hasBelow "" = false ∧ objects.hasUnder root.lead = true := by
  constructor
  · rintro ⟨⟨b, hb⟩, hfile, hnone⟩
    refine ⟨hfile, ?_, ?_⟩
    · rw [← Bool.not_eq_true, hasBelow_root_iff]
      rintro ⟨below, b', hbelow, hb'⟩
      rw [hnone below hbelow] at hb'
      cases hb'
    · exact Catalog.hasUnder_iff.2 ⟨root.lead, b, hb, Text.startsWith_iff.2 ⟨"", by simp⟩⟩
  · rintro ⟨hfile, hbelow, hunder⟩
    rw [← Bool.not_eq_true, hasBelow_root_iff] at hbelow
    have hnone : ∀ below, below ≠ "" → objects.get? (root.lead ++ below) = none := by
      intro below hne
      cases hget : objects.get? (root.lead ++ below) with
      | none => rfl
      | some b => exact absurd ⟨below, b, hne, hget⟩ hbelow
    obtain ⟨key, b, hb, hstart⟩ := Catalog.hasUnder_iff.1 hunder
    obtain ⟨below, rfl⟩ := Text.startsWith_iff.1 hstart
    refine ⟨⟨b, ?_⟩, hfile, hnone⟩
    by_cases hne : below = ""
    · rwa [hne, String.append_empty] at hb
    · rw [hnone below hne] at hb
      cases hb

/-- What a frame tells of its own root is what the objects tell of it, but for a lone marker. -/
theorem attributes_root (objects : Catalog Blob) (root : Key) :
    (MemoryStore.IsLoneMarker objects root ∧ (snapshot objects root).attributes "" = .missing ∧
        MemoryStore.attributesAt objects root.path = .directory) ∨
      ¬ MemoryStore.IsLoneMarker objects root ∧
        (snapshot objects root).attributes "" = MemoryStore.attributesAt objects root.path := by
  have hfile : (snapshot objects root).file? "" = MemoryStore.fileAt objects root.path := rfl
  have hlead : Path.lead root.path = root.lead := rfl
  rw [isLoneMarker_iff, attributes, MemoryStore.attributesAt, hfile, hlead]
  cases MemoryStore.fileAt objects root.path with
  | some info => simp [Node.attributesOf]
  | none =>
    cases hbelow : (snapshot objects root).hasBelow "" with
    | false => cases objects.hasUnder root.lead <;> simp [Node.attributesOf]
    | true =>
      obtain ⟨below, b, -, hb⟩ := hasBelow_root_iff.1 hbelow
      have hunder : objects.hasUnder root.lead = true :=
        Catalog.hasUnder_iff.2 ⟨_, b, hb, Text.startsWith_iff.2 ⟨below, rfl⟩⟩
      simp [Node.attributesOf, hunder]

end Frame

/-- A scope on a node leaves the kind of the node as it is if and only if the node is no lone
marker. A lone marker is a directory outside of its scope and missing inside. -/
theorem Node.kind_in_own_scope_eq_iff (hscope : scope.key = n.key) (hfresh : n.known = none)
    (stack : FrameStack) (hs : s.Shows n.key.container objects)
    (hs' : s'.Shows n.key.container objects) (t : MemoryStore) :
    ∃ inside outside, (n.attributes (scope.enter stack s).2.1 t).1 = .ok inside ∧
      (n.attributes {} s').1 = .ok outside ∧
        (inside.kind = outside.kind ↔ ¬ MemoryStore.IsLoneMarker objects n.key) ∧
          (MemoryStore.IsLoneMarker objects n.key → inside = .missing ∧ outside = .directory) := by
  have hinside := attributes_of_resolve hfresh (resolve_in_own_scope hscope stack hs t)
  have hnone : ({} : FrameStack).lookup n.key = none := rfl
  have houtside := attributes_of_resolve hfresh (n.resolve_of_lookup_eq_none hs' hnone)
  refine ⟨_, _, hinside, houtside, ?_⟩
  rcases Frame.attributes_root objects n.key with ⟨hlone, hmissing, hdirectory⟩ | ⟨hlone, heq⟩
  · rw [hmissing, hdirectory]
    simp [hlone, Attributes.kind]
  · rw [heq]
    simp [hlone]

/-- A marker beside an object is a directory on both sides. -/
theorem Node.kind_in_own_scope_eq_of_sibling :
    let objects : Catalog Blob := (Catalog.empty.insert "a/" ⟨[], 1⟩).insert "a/x" ⟨[7], 2⟩
    let s : MemoryStore := { containers := Catalog.empty.insert "box" objects }
    let n : Node := { key := .ofPath "box" "/a/" }
    ∃ inside outside, (n.attributes (n.enter {} s).2.1 s).1 = .ok inside ∧
      (n.attributes {} s).1 = .ok outside ∧ inside.kind = outside.kind := by
  intro objects s n
  have hs : s.Shows n.key.container objects := ⟨rfl, nofun⟩
  have hlone : ¬ MemoryStore.IsLoneMarker objects n.key := by
    intro h
    have hx : objects.get? (n.key.lead ++ "x") = none := h.noneBelow "x" (by decide)
    revert hx
    decide +kernel
  obtain ⟨inside, outside, hinside, houtside, hkind, -⟩ :=
    Node.kind_in_own_scope_eq_iff rfl rfl {} hs hs s
  exact ⟨inside, outside, hinside, houtside, hkind.2 hlone⟩

/-- A lone marker under a path. -/
theorem Node.kind_in_own_scope_ne_of_marker :
    let objects : Catalog Blob := Catalog.empty.insert "a/" ⟨[], 1⟩
    let s : MemoryStore := { containers := Catalog.empty.insert "artifacts" objects }
    let n : Node := { key := .ofPath "artifacts" "a" }
    (∃ a, (n.attributes {} s).1 = .ok a ∧ a.kind = .directory) ∧
      ∃ a, (n.attributes (n.enter {} s).2.1 s).1 = .ok a ∧ a.kind = .missing := by
  intro objects s n
  have hs : s.Shows n.key.container objects := ⟨rfl, nofun⟩
  have hnone : ({} : FrameStack).lookup n.key = none := rfl
  have hdirectory : (MemoryStore.attributesAt objects n.key.path).kind = .directory := by
    decide +kernel
  have hmissing : ((Frame.snapshot objects n.key).attributes "").kind = .missing := by
    decide +kernel
  exact ⟨⟨_, attributes_of_resolve rfl (n.resolve_of_lookup_eq_none hs hnone), hdirectory⟩,
    ⟨_, attributes_of_resolve rfl (resolve_in_own_scope rfl {} hs s), hmissing⟩⟩

end BlobDepot
