import BlobDepot.Proofs.Tree.Children

/-!
# What a frame holds

A frame takes in a listing entry by entry and is asked by searches among sorted paths. What it
answers is what a scan of the listing finds: the last entry with a size under each key below the
root of the frame.
-/
namespace BlobDepot.Frame

variable {start path : String} {info : FileInfo} {files : Catalog FileInfo} {f : Frame}
  {l : List Entry} {e : Entry}

/-! ## A scan of a listing -/

/-- What an entry tells about a file below a text: its path from there and what is known of it. -/
def fileIn? (start : String) (e : Entry) : Option (String × FileInfo) :=
  match e.size, Text.after? start e.key with
  | some size, some path => if path = "" then none else some (path, ⟨size, e.modified⟩)
  | _, _ => none

/-- The files below a text: the last entry with a size under each key that goes on from the text,
under what follows the text in the key. -/
def scan (start : String) (l : List Entry) : List (String × FileInfo) :=
  Catalog.latest Prod.fst (l.filterMap (fileIn? start))

theorem fileIn?_eq_some_iff :
    fileIn? start e = some (path, info) ↔
      path ≠ "" ∧ e.key = start ++ path ∧ e.size = some info.size ∧ e.modified = info.modified := by
  rw [fileIn?]
  constructor
  · intro h
    split at h
    · rename_i size rest hsize hafter
      split at h
      · cases h
      · rename_i hrest
        cases h
        exact ⟨hrest, Text.after?_eq_some_iff.1 hafter, hsize, rfl⟩
    · cases h
  · rintro ⟨hpath, hkey, hsize, hmodified⟩
    simp [hkey, hsize, hmodified, hpath]

/-- A file is found at the last entry with a size under its key. -/
theorem mem_scan_iff :
    (path, info) ∈ scan start l ↔ path ≠ "" ∧ ∃ before e after, l = before ++ e :: after ∧
      e.key = start ++ path ∧ e.size = some info.size ∧ e.modified = info.modified ∧
        ∀ e' ∈ after, e'.key = e.key → e'.size = none := by
  rw [scan, Catalog.mem_latest_iff]
  constructor
  · rintro ⟨before, after, hl, hafter⟩
    obtain ⟨before, rest, rfl, -, hrest⟩ := List.filterMap_eq_append_iff.1 hl
    obtain ⟨skipped, e, after, rfl, -, he, rfl⟩ := List.filterMap_eq_cons_iff.1 hrest
    obtain ⟨hpath, hkey, hsize, hmodified⟩ := fileIn?_eq_some_iff.1 he
    refine ⟨hpath, before ++ skipped, e, after, by simp, hkey, hsize, hmodified, ?_⟩
    intro e' he' hkey'
    cases hsize' : e'.size with
    | none => rfl
    | some size =>
      have hfile : fileIn? start e' = some (path, ⟨size, e'.modified⟩) :=
        fileIn?_eq_some_iff.2 ⟨hpath, hkey'.trans hkey, hsize', rfl⟩
      exact absurd rfl (hafter (path, ⟨size, e'.modified⟩)
        (List.mem_filterMap.2 ⟨e', he', hfile⟩))
  · rintro ⟨hpath, before, e, after, rfl, hkey, hsize, hmodified, hafter⟩
    have he : fileIn? start e = some (path, info) :=
      fileIn?_eq_some_iff.2 ⟨hpath, hkey, hsize, hmodified⟩
    refine ⟨before.filterMap (fileIn? start), after.filterMap (fileIn? start), ?_, ?_⟩
    · rw [List.filterMap_append, List.filterMap_cons_some he]
    · rintro ⟨path', info'⟩ hmem (rfl : path' = path)
      obtain ⟨e', he', hfile⟩ := List.mem_filterMap.1 hmem
      obtain ⟨-, hkey', hsize', -⟩ := fileIn?_eq_some_iff.1 hfile
      rw [hafter e' he' (hkey'.trans hkey.symm)] at hsize'
      cases hsize'

theorem nodup_scan (start : String) (l : List Entry) : ((scan start l).map Prod.fst).Nodup :=
  Catalog.nodup_latest Prod.fst _

theorem mem_scan_iff_of_nodup (hl : (l.map Entry.key).Nodup) :
    (path, info) ∈ scan start l ↔ ∃ e ∈ l, fileIn? start e = some (path, info) := by
  have hpaths : ((l.filterMap (fileIn? start)).map Prod.fst).Nodup := by
    refine List.pairwise_map.2 (List.pairwise_filterMap.2 ?_)
    refine (List.pairwise_map.1 hl).imp fun {a b} hne x hx y hy heq => hne ?_
    obtain ⟨-, hkey, -⟩ := fileIn?_eq_some_iff.1 hx
    obtain ⟨-, hkey', -⟩ := fileIn?_eq_some_iff.1 hy
    rw [hkey, hkey', heq]
  rw [scan, Catalog.latest_eq_self hpaths, List.mem_filterMap]

/-! ## The files of a frame -/

theorem add_eq (start : String) (files : Catalog FileInfo) (e : Entry) :
    add start files e =
      (fileIn? start e).elim files fun file => files.insert file.1 file.2 := by
  rw [add, fileIn?]
  cases e.size with
  | none => rfl
  | some size =>
    cases Text.after? start e.key with
    | none => rfl
    | some path =>
      by_cases hpath : path = ""
      · simp [hpath]
      · simp [hpath]

theorem files_ofListing (root : Key) (rootFile : Option FileInfo) (l : List Entry) :
    (ofListing root rootFile l).files =
      (l.filterMap (fileIn? root.lead)).foldl (fun files file => files.insert file.1 file.2)
        .empty := by
  rw [List.foldl_filterMap]
  show l.foldl (add root.lead) .empty = _
  congr 1
  funext files e
  rw [add_eq]
  cases fileIn? root.lead e <;> rfl

theorem perm_scan (root : Key) (rootFile : Option FileInfo) (l : List Entry) :
    (ofListing root rootFile l).files.entries.Perm (scan root.lead l) := by
  rw [files_ofListing]
  exact Catalog.perm_entries_foldl_insert _

/-! ## Questions to a frame -/

theorem filesBelow_eq (f : Frame) (path : String) :
    f.filesBelow path =
      f.files.entries.filterMap fun e => (Text.after? (Path.lead path) e.1).map (·, e.2) := by
  rw [filesBelow, Catalog.under_eq_filter, List.filterMap_filter]
  congr 1
  funext e
  rw [Text.startsWith]
  cases hafter : Text.after? (Path.lead path) e.1 <;> simp [hafter]

theorem filesBelow_ne_nil_iff :
    f.filesBelow path ≠ [] ↔ ∃ below info, f.files.get? (Path.lead path ++ below) = some info := by
  constructor
  · intro hne
    obtain ⟨⟨below, info⟩, hmem⟩ := List.exists_mem_of_ne_nil _ hne
    exact ⟨below, info, mem_filesBelow_iff.1 hmem⟩
  · rintro ⟨below, info, hfile⟩
    exact List.ne_nil_of_mem (mem_filesBelow_iff.2 hfile)

theorem hasBelow_iff : f.hasBelow path = true ↔ f.filesBelow path ≠ [] := by
  rw [filesBelow_ne_nil_iff, hasBelow, Catalog.hasUnder_iff]
  simp only [Text.startsWith_iff]
  constructor
  · rintro ⟨_, info, hfile, below, rfl⟩
    exact ⟨below, info, hfile⟩
  · rintro ⟨below, info, hfile⟩
    exact ⟨_, info, hfile, below, rfl⟩

theorem children_ne_nil_iff : f.children path ≠ [] ↔ f.filesBelow path ≠ [] := by
  rw [filesBelow_ne_nil_iff]
  constructor
  · intro hne
    obtain ⟨name, hmem⟩ := List.exists_mem_of_ne_nil _ hne
    obtain ⟨below, info, hfile, -⟩ := mem_children_iff.1 hmem
    exact ⟨below, info, hfile⟩
  · rintro ⟨below, info, hfile⟩
    exact List.ne_nil_of_mem (mem_children_iff.2 ⟨below, info, hfile, rfl⟩)

theorem file?_eq_lookup (root : Key) (rootFile : Option FileInfo) (l : List Entry) (path : String) :
    (ofListing root rootFile l).file? path =
      if path = "" then rootFile else (scan root.lead l).lookup path := by
  by_cases hpath : path = ""
  · rw [file?, if_pos hpath, if_pos hpath]
    rfl
  · rw [file?, if_neg hpath, if_neg hpath]
    ext info
    rw [Catalog.get?_eq_some_iff, Catalog.lookup_eq_some_iff_mem (nodup_scan root.lead l),
      (perm_scan root rootFile l).mem_iff]

/-- What a frame answers is what a scan of its listing finds. The files below a path are those of
the scan that stand there, in the order of their bytes. There is something below the path, and it
has children, exactly if there are such files. The file at the root is the one that was given with
the listing, and every other is looked up in the scan. -/
theorem queries_eq_scan (root : Key) (rootFile : Option FileInfo) (l : List Entry)
    (path : String) :
    let f := ofListing root rootFile l
    let files := scan root.lead l
    (f.filesBelow path).Perm
      (files.filterMap fun e => (Text.after? (Path.lead path) e.1).map (·, e.2)) ∧
    ((f.filesBelow path).map fun e => Text.bytes e.1).Pairwise (· < ·) ∧
    (f.hasBelow path = true ↔ f.filesBelow path ≠ []) ∧
    (f.hasBelow path = true ↔ f.children path ≠ []) ∧
    f.file? path = (if path = "" then rootFile else files.lookup path) ∧
    f.size = files.length ∧ (files.map Prod.fst).Nodup ∧
    ∀ p info, (p, info) ∈ files ↔ p ≠ "" ∧ ∃ before e after, l = before ++ e :: after ∧
      e.key = root.lead ++ p ∧ e.size = some info.size ∧ e.modified = info.modified ∧
        ∀ e' ∈ after, e'.key = e.key → e'.size = none := by
  intro f files
  have hperm : f.files.entries.Perm files := perm_scan root rootFile l
  refine ⟨?_, ?_, hasBelow_iff, hasBelow_iff.trans children_ne_nil_iff.symm,
    file?_eq_lookup root rootFile l path, hperm.length_eq, nodup_scan root.lead l,
    fun p info => mem_scan_iff⟩
  · rw [filesBelow_eq]
    exact hperm.filterMap _
  · exact List.pairwise_map.2 ((List.pairwise_map.1 (pairwise_filesBelow f path)).imp
      Text.bytes_lt_of_lt)

/-- Of two entries under one key the later counts, wherever in the listing they are. -/
example :
    let f := ofListing ⟨"box", "a"⟩ none [.object "a/x" 1 none, .rolled "a/d/", .object "b" 2 none,
      .object "a/d/e" 3 none, .object "a/x" 4 none]
    f.filesBelow "" = [("d/e", ⟨3, none⟩), ("x", ⟨4, none⟩)] ∧ f.file? "x" = some ⟨4, none⟩ := by
  decide +kernel

end BlobDepot.Frame
