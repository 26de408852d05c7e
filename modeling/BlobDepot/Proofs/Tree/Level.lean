import BlobDepot.Proofs.Listing
import BlobDepot.Proofs.Tree.Snapshot

/-!
# The level below a key

What a listing of the objects of a container tells of the children of a key: each name with
objects at it or below it, once, and with what the child stands for.
-/
namespace BlobDepot

open BlobDepot.Path (IsName hasSlash)

variable {start name path : String} {objects : Catalog Blob} {k : Key} {a : Attributes}
  {l : List Entry} {e : Entry}

/-! ## Listings of objects -/

namespace MemoryStore

/-- One level of the objects under a prefix: those whose keys go on with a name, and a common
prefix for each first segment that a slash follows. -/
theorem mem_listing_iff :
    e ∈ listing objects start false ↔
      (∃ name b, IsName name ∧ objects.get? (start ++ name) = some b ∧
        e = entry (start ++ name, b)) ∨
      ∃ name, hasSlash name = false ∧ objects.hasUnder (start ++ name ++ "/") = true ∧
        e = .rolled (start ++ name ++ "/") := by
  have hlevel : listing objects start false =
      Listing.rollUp start (listing objects start true) := rfl
  have hname : ∀ name, Text.startsWith start (start ++ name) = true :=
    fun name => Text.startsWith_iff.2 ⟨name, rfl⟩
  have hunder : ∀ name, (∃ e' ∈ listing objects start true,
      Text.startsWith (start ++ name ++ "/") e'.key = true) ↔
        objects.hasUnder (start ++ name ++ "/") = true := by
    intro name
    simp only [Catalog.hasUnder_iff, mem_listing_recursive_iff]
    constructor
    · rintro ⟨_, ⟨key, b, hb, -, rfl⟩, hstarts⟩
      exact ⟨key, b, hb, hstarts⟩
    · rintro ⟨key, b, hb, hstarts⟩
      obtain ⟨rest, hkey⟩ := Text.startsWith_iff.1 hstarts
      have hstart : Text.startsWith start key = true := by
        rw [hkey, String.append_assoc, String.append_assoc]
        exact hname _
      exact ⟨_, ⟨key, b, hb, hstart, rfl⟩, hstarts⟩
  rw [hlevel, Listing.mem_rollUp_iff, Catalog.latest_eq_self (nodup_keys_listing objects start)]
  simp only [hunder]
  refine or_congr_left ⟨?_, ?_⟩
  · rintro ⟨name, h, hkey, he⟩
    obtain ⟨_, b, hb, -, rfl⟩ := mem_listing_recursive_iff.1 he
    obtain rfl : _ = start ++ name := hkey
    exact ⟨name, b, h, hb, rfl⟩
  · rintro ⟨name, b, h, hb, rfl⟩
    exact ⟨name, h, rfl, mem_listing_recursive_iff.2 ⟨_, b, hb, hname name, rfl⟩⟩

end MemoryStore

/-! ## Children -/

namespace Node

/-- An entry for the object at a name, or a common prefix. -/
def IsLevelEntry (objects : Catalog Blob) (start : String) (e : Entry) : Prop :=
  (∃ name b, IsName name ∧ objects.get? (start ++ name) = some b ∧
    e = MemoryStore.entry (start ++ name, b)) ∨
  ∃ name, hasSlash name = false ∧ e = .rolled (start ++ name ++ "/")

theorem IsLevelEntry.get?_of_key (he : IsLevelEntry objects start e) (hname : IsName name)
    (hkey : e.key = start ++ name) : ∃ b, objects.get? (start ++ name) = some b := by
  rcases he with ⟨name', b, -, hb, rfl⟩ | ⟨name', -, rfl⟩
  · have heq : start ++ name' = start ++ name := hkey
    exact ⟨b, heq ▸ hb⟩
  · exact absurd hkey.symm (Path.append_ne_append_slash hname start (start ++ name'))

theorem addChild_entry (hname : IsName name) (found : Catalog Attributes) (b : Blob) :
    addChild start found (MemoryStore.entry (start ++ name, b)) =
      found.insert name (.file b.info) := by
  simp [addChild, MemoryStore.entry, Entry.object, Path.trimEnd_of_not_hasSlash hname.2,
    hname.1, hname.2, Blob.info]

theorem addChild_rolled (hname : hasSlash name = false) (found : Catalog Attributes) :
    addChild start found (.rolled (start ++ name ++ "/")) =
      if name = "" then found else found.insertNew name .directory := by
  simp [addChild, Entry.rolled, String.append_assoc, Path.trimEnd_append_slash,
    Path.trimEnd_of_not_hasSlash hname, hname]

theorem get?_addChild (hname : IsName name) (he : IsLevelEntry objects start e)
    (found : Catalog Attributes) :
    (addChild start found e).get? name =
      if e.key = start ++ name then (objects.get? (start ++ name)).map fun b => .file b.info
      else if e = .rolled (start ++ name ++ "/") then (found.get? name).or (some .directory)
      else found.get? name := by
  rcases he with ⟨name', b, hname', hb, rfl⟩ | ⟨name', hname', rfl⟩
  · have hkey : (MemoryStore.entry (start ++ name', b)).key = start ++ name ↔ name = name' := by
      rw [MemoryStore.entry, Entry.object, String.append_right_inj, eq_comm]
    have hrolled : MemoryStore.entry (start ++ name', b) ≠ .rolled (start ++ name ++ "/") := by
      simp [Entry.rolled, MemoryStore.entry, Entry.object]
    rw [addChild_entry hname', Catalog.get?_insert]
    by_cases heq : name = name'
    · rw [if_pos heq, if_pos (hkey.2 heq), heq, hb]
      rfl
    · rw [if_neg heq, if_neg (mt hkey.1 heq), if_neg hrolled]
  · have hkey : (Entry.rolled (start ++ name' ++ "/")).key ≠ start ++ name :=
      (Path.append_ne_append_slash hname start (start ++ name')).symm
    have hrolled : Entry.rolled (start ++ name' ++ "/") = .rolled (start ++ name ++ "/") ↔
        name = name' := by
      simp [Entry.rolled, eq_comm]
    rw [addChild_rolled hname', if_neg hkey]
    by_cases heq : name = name'
    · rw [if_pos (hrolled.2 heq), ← heq, if_neg hname.1, Catalog.get?_insertNew, if_pos rfl]
    · rw [if_neg (mt hrolled.1 heq)]
      split
      · rfl
      · rw [Catalog.get?_insertNew, if_neg heq]

/-- A child is a file if an entry has its name, and else a directory if there is a common prefix
for it. -/
theorem get?_foldl_addChild (hname : IsName name) (hl : ∀ e ∈ l, IsLevelEntry objects start e) :
    (l.foldl (addChild start) .empty).get? name =
      if ∃ e ∈ l, e.key = start ++ name then
        (objects.get? (start ++ name)).map fun b => .file b.info
      else if .rolled (start ++ name ++ "/") ∈ l then some .directory
      else none := by
  -- the last entry decides, if it is about the name, and else those before it
  induction l using List.reverseRecOn with
  | nil => simp [Catalog.get?]
  | append_singleton l e ih =>
    have hinit : ∀ e' ∈ l, IsLevelEntry objects start e' :=
      fun e' he' => hl e' (List.mem_append_left _ he')
    have he : IsLevelEntry objects start e := hl e (List.mem_append_right _ List.mem_cons_self)
    rw [List.foldl_append, List.foldl_cons, List.foldl_nil, get?_addChild hname he, ih hinit]
    simp only [List.mem_append, List.mem_singleton, or_and_right, exists_or, exists_eq_left]
    by_cases hkey : e.key = start ++ name
    · simp only [hkey, or_true, if_true]
    by_cases hfile : ∃ e' ∈ l, e'.key = start ++ name
    · obtain ⟨e', he', hkey'⟩ := hfile
      obtain ⟨b, hb⟩ := (hinit e' he').get?_of_key hname hkey'
      have hfile : ∃ e' ∈ l, e'.key = start ++ name := ⟨e', he', hkey'⟩
      simp only [hkey, hfile, hb, or_false, if_true, Option.map_some, Option.some_or, ite_self]
    · by_cases hrolled : e = .rolled (start ++ name ++ "/")
      · subst hrolled
        simp only [hkey, hfile, or_false, or_true, if_true, if_false]
        split <;> rfl
      · simp only [hkey, hfile, hrolled, Ne.symm hrolled, or_false, if_false]

theorem addChild_cases (start : String) (found : Catalog Attributes) (e : Entry) :
    addChild start found e = found ∨ ∃ name a, IsName name ∧
      (addChild start found e = found.insert name a ∨
        addChild start found e = found.insertNew name a) := by
  cases hafter : Text.after? start e.key with
  | none => exact .inl (by simp [addChild, hafter])
  | some rest =>
    by_cases hname : IsName (Path.trimEnd rest)
    · refine .inr ⟨Path.trimEnd rest, ?_⟩
      cases hsize : e.size with
      | none =>
        exact ⟨.directory, hname, .inr (by simp [addChild, hafter, hsize, hname.1, hname.2])⟩
      | some size =>
        exact ⟨.file ⟨size, e.modified⟩, hname,
          .inl (by simp [addChild, hafter, hsize, hname.1, hname.2])⟩
    · have hskip : Path.trimEnd rest = "" ∨ hasSlash (Path.trimEnd rest) = true := by
        simpa [IsName, or_iff_not_imp_left] using hname
      exact .inl (by simp [addChild, hafter, hskip])

theorem isName_of_get?_foldl_addChild
    (h : (l.foldl (addChild start) .empty).get? name = some a) : IsName name := by
  induction l using List.reverseRecOn with
  | nil => cases h
  | append_singleton l e ih =>
    rw [List.foldl_append, List.foldl_cons, List.foldl_nil] at h
    rcases addChild_cases start (l.foldl (addChild start) .empty) e with
      hadd | ⟨name', a', hname', hadd | hadd⟩
    · rw [hadd] at h
      exact ih h
    · rw [hadd, Catalog.get?_insert] at h
      by_cases heq : name = name'
      · exact heq ▸ hname'
      · rw [if_neg heq] at h
        exact ih h
    · rw [hadd, Catalog.get?_insertNew] at h
      by_cases heq : name = name'
      · exact heq ▸ hname'
      · rw [if_neg heq] at h
        exact ih h

end Node

namespace MemoryStore

def childrenAt (objects : Catalog Blob) (k : Key) : Catalog Attributes :=
  (listing objects k.lead false).foldl (Node.addChild k.lead) .empty

theorem attributesAt_child (hname : IsName name) :
    attributesAt objects (k.child name).path =
      Node.attributesOf ((objects.get? (k.lead ++ name)).map Blob.info)
        (objects.hasUnder (k.lead ++ name ++ "/")) := by
  have hne : (k.child name).path ≠ "" := by
    rw [Key.child_path]
    exact fun heq => hname.1 (String.append_eq_empty_iff.1 heq).2
  have hlead : Path.lead (k.child name).path = k.lead ++ name ++ "/" := Key.lead_child k hname
  rw [attributesAt, fileAt, if_neg hne, hlead, Key.child_path]

/-- The children of a key are the names at or below which there are objects, each with what its
key stands for. -/
theorem get?_childrenAt_iff :
    (childrenAt objects k).get? name = some a ↔
      IsName name ∧ a ≠ .missing ∧ attributesAt objects (k.child name).path = a := by
  by_cases hname : IsName name
  · have hlevel : ∀ e ∈ listing objects k.lead false, Node.IsLevelEntry objects k.lead e := by
      intro e he
      rcases mem_listing_iff.1 he with h | ⟨name', h, -, rfl⟩
      · exact .inl h
      · exact .inr ⟨name', h, rfl⟩
    have hfile : (∃ e ∈ listing objects k.lead false, e.key = k.lead ++ name) ↔
        (objects.get? (k.lead ++ name)).isSome = true := by
      rw [Option.isSome_iff_exists]
      constructor
      · rintro ⟨e, he, hkey⟩
        exact (hlevel e he).get?_of_key hname hkey
      · rintro ⟨b, hb⟩
        exact ⟨_, mem_listing_iff.2 (.inl ⟨name, b, hname, hb, rfl⟩), rfl⟩
    have hrolled : .rolled (k.lead ++ name ++ "/") ∈ listing objects k.lead false ↔
        objects.hasUnder (k.lead ++ name ++ "/") = true := by
      rw [mem_listing_iff]
      constructor
      · rintro (⟨name', b, -, -, heq⟩ | ⟨name', -, hunder, heq⟩)
        · simp [Entry.rolled, entry, Entry.object] at heq
        · rw [Entry.rolled, Entry.rolled, Entry.mk.injEq] at heq
          rwa [heq.1]
      · intro hunder
        exact .inr ⟨name, hname.2, hunder, rfl⟩
    rw [childrenAt, Node.get?_foldl_addChild hname hlevel, attributesAt_child hname]
    simp only [hfile, hrolled, hname, true_and]
    cases objects.get? (k.lead ++ name) with
    | some b =>
      simp only [Option.isSome_some, if_true, Option.map_some, Option.some.injEq,
        Node.attributesOf]
      exact ⟨fun heq => ⟨by simp [← heq], heq⟩, And.right⟩
    | none =>
      cases objects.hasUnder (k.lead ++ name ++ "/") with
      | true =>
        simp only [Option.isSome_none, Option.map_none, if_true, Option.some.injEq, reduceIte,
          Bool.false_eq_true, Node.attributesOf]
        exact ⟨fun heq => ⟨by simp [← heq], heq⟩, And.right⟩
      | false =>
        simp only [Option.isSome_none, Option.map_none, reduceIte, reduceCtorEq,
          Bool.false_eq_true, Node.attributesOf, false_iff, not_and]
        exact fun hne heq => hne heq.symm
  · constructor
    · intro h
      exact absurd (Node.isName_of_get?_foldl_addChild h) hname
    · exact fun h => absurd h.1 hname

theorem attributesAt_child_ne_missing_iff (hname : IsName name) :
    attributesAt objects (k.child name).path ≠ .missing ↔ ∃ below b,
      objects.get? (k.lead ++ below) = some b ∧ (Path.firstSegment below).1 = name := by
  have hthere : attributesAt objects (k.child name).path ≠ .missing ↔
      (∃ b, objects.get? (k.lead ++ name) = some b) ∨
        objects.hasUnder (k.lead ++ name ++ "/") = true := by
    rw [attributesAt_child hname]
    cases objects.get? (k.lead ++ name) <;>
      cases objects.hasUnder (k.lead ++ name ++ "/") <;> simp [Node.attributesOf]
  rw [hthere, Catalog.hasUnder_iff]
  simp only [Path.fst_firstSegment_eq_iff hname.2, Text.startsWith_iff]
  have hkey : ∀ rest, k.lead ++ (name ++ "/" ++ rest) = k.lead ++ name ++ "/" ++ rest := by
    intro rest
    simp only [String.append_assoc]
  constructor
  · rintro (⟨b, hb⟩ | ⟨_, b, hb, rest, rfl⟩)
    · exact ⟨name, b, hb, .inl rfl⟩
    · exact ⟨name ++ "/" ++ rest, b, (hkey rest).symm ▸ hb, .inr ⟨rest, rfl⟩⟩
  · rintro ⟨below, b, hb, rfl | ⟨rest, rfl⟩⟩
    · exact .inl ⟨b, hb⟩
    · exact .inr ⟨_, b, hb, rest, hkey rest⟩

theorem mem_keys_childrenAt_iff :
    name ∈ (childrenAt objects k).keys ↔ IsName name ∧ ∃ below b,
      objects.get? (k.lead ++ below) = some b ∧ (Path.firstSegment below).1 = name := by
  rw [Catalog.mem_keys_iff]
  constructor
  · rintro ⟨a, ha⟩
    obtain ⟨hname, hne, heq⟩ := get?_childrenAt_iff.1 ha
    exact ⟨hname, (attributesAt_child_ne_missing_iff hname).1 (heq ▸ hne)⟩
  · rintro ⟨hname, hbelow⟩
    exact ⟨_, get?_childrenAt_iff.2
      ⟨hname, (attributesAt_child_ne_missing_iff hname).2 hbelow, rfl⟩⟩

/-! ## Files -/

def filesAt (objects : Catalog Blob) (k : Key) : List String :=
  Node.pathsBelow k.lead (listing objects k.lead true)

theorem filesAt_eq (objects : Catalog Blob) (k : Key) :
    filesAt objects k =
      ((objects.entries.filter fun o => Text.startsWith k.lead o.1).filterMap fun o =>
        Text.after? k.lead o.1).filter fun path => path ≠ "" := by
  have hsized : ((objects.under k.lead).map entry).filter (fun e => !e.isRolled) =
      (objects.under k.lead).map entry := by
    rw [List.filter_eq_self]
    intro e he
    obtain ⟨o, -, rfl⟩ := List.mem_map.1 he
    rfl
  rw [filesAt, Node.pathsBelow, listing, if_pos rfl, hsized, List.filterMap_map,
    Catalog.under_eq_filter]
  rfl

theorem mem_filesAt_iff :
    path ∈ filesAt objects k ↔ path ≠ "" ∧ ∃ b, objects.get? (k.lead ++ path) = some b := by
  rw [filesAt_eq, List.mem_filter, List.mem_filterMap, and_comm]
  refine and_congr (by simp) ?_
  constructor
  · rintro ⟨o, ho, hafter⟩
    rw [Text.after?_eq_some_iff] at hafter
    exact ⟨o.2, hafter ▸ Catalog.get?_eq_some_iff.2 (List.mem_filter.1 ho).1⟩
  · rintro ⟨b, hb⟩
    exact ⟨(k.lead ++ path, b), List.mem_filter.2
      ⟨Catalog.get?_eq_some_iff.1 hb, Text.startsWith_iff.2 ⟨path, rfl⟩⟩, Text.after?_append _ _⟩

theorem pairwise_filesAt (objects : Catalog Blob) (k : Key) :
    (filesAt objects k).Pairwise (· < ·) := by
  rw [filesAt_eq]
  refine List.Pairwise.filter _ (List.pairwise_filterMap.2 ?_)
  refine (objects.sorted.filter _).imp fun {a b} hab rest hrest rest' hrest' => ?_
  rw [Text.after?_eq_some_iff] at hrest hrest'
  rw [hrest, hrest'] at hab
  exact Text.lt_of_append_lt_append hab

end MemoryStore
end BlobDepot
