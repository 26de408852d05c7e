import BlobDepot.Proofs.Tree.Contents
import BlobDepot.Store.Memory
import BlobDepot.Tree.Node

/-!
# Frames as snapshots

A frame that is taken from the objects of a container holds what they are below its root. What it
tells of a key it covers is what the objects tell of it.
-/
namespace BlobDepot

def Blob.info (b : Blob) : FileInfo :=
  ⟨b.data.length, some b.modified⟩

/-- The object at a path as a file. There is none at the root of a container. -/
def MemoryStore.fileAt (objects : Catalog Blob) (path : String) : Option FileInfo :=
  if path = "" then none else (objects.get? path).map Blob.info

def MemoryStore.attributesAt (objects : Catalog Blob) (path : String) : Attributes :=
  Node.attributesOf (fileAt objects path) (objects.hasUnder (Path.lead path))

namespace MemoryStore

/-- The objects that a listing of all under a text shows. -/
theorem mem_listing_recursive_iff {objects : Catalog Blob} {start : String} {e : Entry} :
    e ∈ listing objects start true ↔ ∃ key b, objects.get? key = some b ∧
      Text.startsWith start key = true ∧ e = entry (key, b) := by
  have hflat : listing objects start true = (objects.under start).map entry := rfl
  rw [hflat, Catalog.under_eq_filter]
  simp only [List.mem_map, List.mem_filter, Prod.exists, Catalog.get?_eq_some_iff, and_assoc,
    @eq_comm _ e]

theorem nodup_keys_listing (objects : Catalog Blob) (start : String) :
    ((listing objects start true).map Entry.key).Nodup := by
  have hflat : listing objects start true = (objects.under start).map entry := rfl
  rw [hflat, Catalog.under_eq_filter, List.map_map]
  exact List.pairwise_map.2 ((objects.sorted.filter _).imp String.ne_of_lt)

end MemoryStore

namespace Frame

/-- The frame of a key over the objects of its container. -/
def snapshot (objects : Catalog Blob) (root : Key) : Frame :=
  .ofListing root (MemoryStore.fileAt objects root.path)
    (MemoryStore.listing objects root.lead true)

variable {start path : String} {files : Catalog FileInfo} {objects : Catalog Blob} {root : Key}

/-! ## The files of a frame -/

/-- The files of a frame over the objects of a container are the objects below its root. The
object whose key is the prefix of the frame itself is no file in it. -/
theorem get?_files_snapshot_iff {info : FileInfo} :
    (snapshot objects root).files.get? path = some info ↔
      path ≠ "" ∧ ∃ b, objects.get? (root.lead ++ path) = some b ∧ b.info = info := by
  rw [Catalog.get?_eq_some_iff, snapshot, (perm_scan _ _ _).mem_iff,
    mem_scan_iff_of_nodup (MemoryStore.nodup_keys_listing objects root.lead)]
  simp only [fileIn?_eq_some_iff, MemoryStore.mem_listing_recursive_iff]
  constructor
  · rintro ⟨_, ⟨key, b, hb, -, rfl⟩, hpath, hkey, hsize, hmodified⟩
    obtain rfl : key = root.lead ++ path := hkey
    obtain ⟨size, modified⟩ := info
    cases hsize
    cases hmodified
    exact ⟨hpath, b, hb, rfl⟩
  · rintro ⟨hpath, b, hb, rfl⟩
    have hstart : Text.startsWith root.lead (root.lead ++ path) = true :=
      Text.startsWith_iff.2 ⟨path, rfl⟩
    exact ⟨_, ⟨_, b, hb, hstart, rfl⟩, hpath, rfl, rfl, rfl⟩

theorem get?_files_snapshot (hpath : path ≠ "") :
    (snapshot objects root).files.get? path = (objects.get? (root.lead ++ path)).map Blob.info := by
  ext info
  rw [get?_files_snapshot_iff, Option.map_eq_some_iff]
  exact and_iff_right hpath

/-- There are files below a path in a frame if there are objects below it. -/
theorem hasBelow_snapshot_iff :
    (snapshot objects root).hasBelow path = true ↔
      ∃ below b, below ≠ "" ∧ objects.get? (root.lead ++ below) = some b ∧
        Text.startsWith (Path.lead path) below = true := by
  rw [hasBelow, Catalog.hasUnder_iff]
  simp only [get?_files_snapshot_iff]
  constructor
  · rintro ⟨below, info, ⟨hbelow, b, hb, -⟩, hstart⟩
    exact ⟨below, b, hbelow, hb, hstart⟩
  · rintro ⟨below, b, hbelow, hb, hstart⟩
    exact ⟨below, b.info, ⟨hbelow, b, hb, rfl⟩, hstart⟩

/-! ## The keys a frame covers -/

theorem path_of_pathTo? {f : Frame} {k : Key} (h : f.pathTo? k = some path) :
    k.container = f.root.container ∧
      (path = "" ∧ k.path = f.root.path ∨ k.path = f.root.lead ++ path) := by
  unfold pathTo? at h
  split at h
  · cases h
  rename_i hcontainer
  refine ⟨Decidable.not_not.1 hcontainer, ?_⟩
  split at h
  · rename_i hroot
    rw [Option.some.injEq] at h
    exact .inr (by simp [Key.lead, Path.lead, hroot, h])
  split at h
  · rename_i hroot hpath
    exact .inl ⟨(Option.some.inj h).symm, hpath⟩
  · rename_i hroot hpath
    obtain ⟨rest, hrest, hslash⟩ := Option.bind_eq_some_iff.1 h
    rw [Text.after?_eq_some_iff] at hrest hslash
    refine .inr ?_
    rw [hrest, hslash, Key.lead, Path.lead, if_neg hroot, String.append_assoc]

theorem covered_cases {k : Key} (hcover : (snapshot objects root).pathTo? k = some path)
    (hk : ∀ p, k.path ≠ p ++ "/") :
    path = "" ∧ k.path = root.path ∨ path ≠ "" ∧ k.path = root.lead ++ path := by
  obtain ⟨-, hpath⟩ := path_of_pathTo? hcover
  rcases hpath with hpath | hpath
  · exact .inl hpath
  by_cases hempty : path = ""
  · have hlead : k.path = root.lead := by
      rw [hpath, hempty, String.append_empty]
      rfl
    by_cases hroot : root.path = ""
    · exact .inl ⟨hempty, by rw [hlead, Key.lead, Path.lead, if_pos hroot, hroot]⟩
    · rw [Key.lead, Path.lead, if_neg hroot] at hlead
      exact absurd hlead (hk root.path)
  · exact .inr ⟨hempty, hpath⟩

theorem lead_append_lead {k : Key}
    (hcases : path = "" ∧ k.path = root.path ∨ path ≠ "" ∧ k.path = root.lead ++ path) :
    Path.lead k.path = root.lead ++ Path.lead path := by
  rcases hcases with ⟨rfl, hroot⟩ | ⟨hpath, hbelow⟩
  · rw [hroot, Path.lead_root, String.append_empty, Key.lead]
  · have hne : root.lead ++ path ≠ "" := fun heq => hpath (String.append_eq_empty_iff.1 heq).2
    rw [hbelow, Path.lead, if_neg hne, Path.lead, if_neg hpath, String.append_assoc]

theorem file?_snapshot {k : Key}
    (hcases : path = "" ∧ k.path = root.path ∨ path ≠ "" ∧ k.path = root.lead ++ path) :
    (snapshot objects root).file? path = MemoryStore.fileAt objects k.path := by
  rcases hcases with ⟨rfl, hroot⟩ | ⟨hpath, hbelow⟩
  · rw [hroot]
    rfl
  · have hne : k.path ≠ "" := fun heq =>
      hpath (String.append_eq_empty_iff.1 (hbelow.symm.trans heq)).2
    rw [file?, if_neg hpath, get?_files_snapshot hpath, ← hbelow, MemoryStore.fileAt, if_neg hne]

theorem hasBelow_snapshot (hmarker : objects.get? root.lead = none) :
    (snapshot objects root).hasBelow path = objects.hasUnder (root.lead ++ Path.lead path) := by
  rw [Bool.eq_iff_iff, hasBelow_snapshot_iff, Catalog.hasUnder_iff]
  constructor
  · rintro ⟨below, b, -, hb, hstart⟩
    obtain ⟨r, rfl⟩ := Text.startsWith_iff.1 hstart
    refine ⟨_, b, hb, Text.startsWith_iff.2 ⟨r, ?_⟩⟩
    rw [String.append_assoc]
  · rintro ⟨key, b, hb, hstart⟩
    obtain ⟨r, rfl⟩ := Text.startsWith_iff.1 hstart
    rw [String.append_assoc] at hb
    exact ⟨Path.lead path ++ r, b, Catalog.ne_empty_of_get?_append hmarker hb, hb,
      Text.startsWith_iff.2 ⟨r, rfl⟩⟩

/-- What a frame over the objects of a container tells of a key it covers is what the objects tell,
unless an object's key is the prefix of the frame, or the key ends in a slash. -/
theorem attributes_snapshot {k : Key} (hcover : (snapshot objects root).pathTo? k = some path)
    (hmarker : objects.get? root.lead = none) (hk : ∀ p, k.path ≠ p ++ "/") :
    (snapshot objects root).attributes path = MemoryStore.attributesAt objects k.path := by
  have hcases := covered_cases hcover hk
  rw [attributes, MemoryStore.attributesAt, file?_snapshot hcases, hasBelow_snapshot hmarker,
    ← lead_append_lead hcases]
  rfl

end Frame
end BlobDepot
